/-
Two paths to one place.

A path that leads somewhere may have used up links on the way, so what follows
it has fewer to use. That is all that is left of the way: as long as no path is
given up for its links, more of them change nothing (`Node.walk_of_le`), and
what is found under two paths to one place is the same
(`FileTree.Alias.spot_under_eq`).
-/
import ProofBatch.Proofs.FileTree.Resolution

namespace ProofBatch

namespace Node

variable {root : Node} {budget budget' : Nat} {place steps : List String}

/-- A walk that is not given up for its links goes the same way with more
links. -/
theorem walk_of_le
    (h : root.walk true budget place steps ≠ .error .tooManyLinks) :
    ∀ budget', budget ≤ budget' → root.walk true budget' place steps
      = root.walk true budget place steps := by
  revert h
  refine walk_induction root (P := fun budget place steps =>
    root.walk true budget place steps ≠ .error .tooManyLinks →
      ∀ budget', budget ≤ budget' → root.walk true budget' place steps
        = root.walk true budget place steps)
    ?done ?hop ?ended ?tired budget place steps
  case done =>
    intro budget place _ budget' _
    rw [walk_nil, walk_nil]
  case hop =>
    intro budget left place place' steps steps' first ih h budget' hle
    obtain ⟨left', hleft, first'⟩ := first.more hle
    rw [first.walk_eq] at h
    rw [first.walk_eq, first'.walk_eq]
    exact ih h left' hleft
  case ended =>
    intro budget place name rest ⟨answer, _, hall⟩ _ budget' _
    rw [hall, hall]
  case tired => exact fun htired h => absurd htired h

/-- Two walks that are not given up for their links go the same way. -/
theorem walk_eq_of_ne
    (h : root.walk true budget place steps ≠ .error .tooManyLinks)
    (h' : root.walk true budget' place steps ≠ .error .tooManyLinks) :
    root.walk true budget place steps
      = root.walk true budget' place steps := by
  rcases Nat.le_total budget budget' with hle | hle
  · exact (walk_of_le h budget' hle).symm
  · exact walk_of_le h' budget hle

end Node

namespace FileTree

variable {t : FileTree} {p q : Path} {top : Node} {place names : List String}

/-- A path has a place if it leads to something that is there. -/
theorem place_eq_ok_iff :
    t.place p = .ok place ↔ t.spot true p = .ok (.taken place) := by
  unfold FileTree.place
  cases t.spot true p with
  | error e => simp
  | ok spot => cases spot <;> simp

/-- Both paths lead to the same place. -/
def Alias (t : FileTree) (p q : Path) : Prop :=
  ∃ place, t.place p = .ok place ∧ t.place q = .ok place

/-- Two paths to one place lead to the same node. -/
theorem Alias.node_eq (h : t.Alias p q) : t.node p = t.node q := by
  obtain ⟨place, hp, hq⟩ := h
  unfold node
  rw [place_eq_ok_iff.mp hp, place_eq_ok_iff.mp hq]

/-- A path is not given up for its links. -/
def Followed (t : FileTree) (p : Path) : Prop :=
  t.spot true p ≠ .error .tooManyLinks

/-- What is found under two paths to one place is the same. -/
theorem Alias.spot_under_eq (h : t.Alias p q) (hne : names ≠ [])
    (hnames : ∀ s ∈ names, PlainName s) (hp : t.Followed (p.under names))
    (hq : t.Followed (q.under names)) :
    t.spot true (p.under names) = t.spot true (q.under names) := by
  obtain ⟨place, hplace, hplace'⟩ := h
  obtain ⟨left, hleft⟩ := exists_walk_under (place_eq_ok_iff.mp hplace)
  obtain ⟨left', hleft'⟩ := exists_walk_under (place_eq_ok_iff.mp hplace')
  unfold Followed at hp hq
  rw [hleft names hne hnames] at hp ⊢
  rw [hleft' names hne hnames] at hq ⊢
  split
  next => rfl
  next hended =>
    rw [if_neg hended] at hp hq
    exact Node.walk_eq_of_ne hp hq

/-- Whether there is a file depends on the place alone. -/
theorem isFile_congr (h : t.spot true p = t.spot true q) :
    t.isFile p = t.isFile q := by
  unfold isFile node
  rw [h]

theorem readText_congr (h : t.spot true p = t.spot true q) :
    t.readText p = t.readText q := by
  unfold readText readBytes node
  rw [h]

/-- What is in the directories below two paths to one place is the same. -/
theorem Alias.list_under_eq {access : Access} {entries : List (String × Node)}
    (h : t.Alias p q) (htop : t.node p = .ok top)
    (hnames : ∀ s ∈ names, EntryName s)
    (hd : top.descend? names = some (.directory access entries)) :
    t.list (p.under names) = t.list (q.under names) := by
  rw [list_under htop hnames hd, list_under (h.node_eq ▸ htop) hnames hd]

end FileTree

end ProofBatch

/-
How a path is followed, and what is found under a directory that a path leads
to.

# Hops

A hop deals with the first of the names that are left: it passes over an empty
name, stays, rises, enters an entry or follows a link (`Node.Hop`). It looks at
no other name, so a path that leads somewhere leads there also as the beginning
of a longer one (`Reaches.walk_append`).

Where a walk does not hop, it is over: it ends there whatever links are left,
or it has none left (`Node.hop_or_end`). What is to be said of all walks is
said hop by hop (`Node.walk_induction`).

# Below a directory

A path that leads to a directory and then goes on by entry names goes through
the tree below that directory (`FileTree.node_under`). It is stopped only where
a directory lets nobody pass; no name on it is too long, and no link is in its
way. That is what ties the paths of a walk to places of the tree.
-/
import ProofBatch.Proofs.FileTree.Places

namespace ProofBatch

-- ======================================================================= hops

/-- A name that is looked up among the entries of a directory. -/
structure IsLookedUp (name : String) : Prop where
  nonempty : name ≠ ""
  not_stay : name ≠ "."
  not_rise : name ≠ ".."
  short : ¬maxNameBytes < name.utf8ByteSize

/-- The name of an entry is looked up, and not taken for a step in the tree. -/
theorem EntryName.isLookedUp {name : String} (h : EntryName name) :
    IsLookedUp name :=
  ⟨h.nonempty, h.not_here, h.not_above, Nat.not_lt.mpr h.short⟩

namespace Node

variable {root top d : Node} {access : Access}
  {entries : List (String × Node)} {budget budget' : Nat}
  {name : String} {place place' final steps steps' rest : List String}

/-- One hop from `place` with `budget` more links: the names that are left, and
then where it leads, with what budget and which names. -/
inductive Hop (root : Node) (budget : Nat) (place : List String) :
    List String → Nat → List String → List String → Prop
  | skip {access : Access} {entries : List (String × Node)}
      {rest : List String}
      (here : root.descend? place = some (.directory access entries)) :
      Hop root budget place ("" :: rest) budget place rest
  | stay {access : Access} {entries : List (String × Node)}
      {rest : List String}
      (here : root.descend? place = some (.directory access entries))
      (pass : access.execute = true) :
      Hop root budget place ("." :: rest) budget place rest
  | rise {access : Access} {entries : List (String × Node)}
      {rest : List String}
      (here : root.descend? place = some (.directory access entries))
      (pass : access.execute = true) :
      Hop root budget place (".." :: rest) budget place.dropLast rest
  | enter {access : Access} {entries : List (String × Node)} {name : String}
      {child : Node} {rest : List String}
      (here : root.descend? place = some (.directory access entries))
      (pass : access.execute = true) (looked : IsLookedUp name)
      (entry : entries.lookup name = some child)
      (solid : ∀ target, child ≠ .link target) :
      Hop root budget place (name :: rest) budget (place ++ [name]) rest
  | follow {access : Access} {entries : List (String × Node)} {name : String}
      {target : String} {left : Nat} {rest : List String}
      (here : root.descend? place = some (.directory access entries))
      (pass : access.execute = true) (looked : IsLookedUp name)
      (entry : entries.lookup name = some (.link target))
      (some_left : budget = left + 1) :
      Hop root budget place (name :: rest) left
        (if (Path.mk target).isAbsolute then [] else place)
        ((Path.mk target).pieces ++ rest)

/-- A hop leaves what follows its name as it is, whatever that is. -/
theorem Hop.replace
    (h : Hop root budget place (name :: rest) budget' place' steps') :
    ∃ more, steps' = more ++ rest
      ∧ ∀ rest', Hop root budget place (name :: rest') budget' place'
        (more ++ rest') := by
  cases h with
  | skip here => exact ⟨[], rfl, fun _ => .skip here⟩
  | stay here pass => exact ⟨[], rfl, fun _ => .stay here pass⟩
  | rise here pass => exact ⟨[], rfl, fun _ => .rise here pass⟩
  | enter here pass looked entry solid =>
      exact ⟨[], rfl, fun _ => .enter here pass looked entry solid⟩
  | follow here pass looked entry some_left =>
      exact ⟨_, rfl, fun _ => .follow here pass looked entry some_left⟩

/-- A walk goes on from where a hop leads, if it follows links. -/
theorem Hop.walk_eq (h : Hop root budget place steps budget' place' steps') :
    root.walk true budget place steps
      = root.walk true budget' place' steps' := by
  cases h with
  | skip here => cases budget <;> simp [walk, walkBy, here]
  | stay here pass => cases budget <;> simp [walk, walkBy, here, pass]
  | rise here pass => cases budget <;> simp [walk, walkBy, here, pass]
  | @enter access entries name child rest here pass looked entry solid =>
      cases budget <;> cases child with
      | link target => exact absurd rfl (solid target)
      | _ =>
          simp [walk, walkBy, here, pass, looked.nonempty, looked.not_stay,
            looked.not_rise, looked.short, entry]
  | follow here pass looked entry some_left =>
      subst some_left
      simp [walk, walkBy, here, pass, looked.nonempty, looked.not_stay,
        looked.not_rise, looked.short, entry]

/-- A hop uses up a name or a link. -/
theorem Hop.budget_or_rest
    (h : Hop root budget place (name :: rest) budget' place' steps') :
    (budget' = budget ∧ steps' = rest) ∨ budget' < budget := by
  cases h with
  | skip => exact .inl ⟨rfl, rfl⟩
  | stay => exact .inl ⟨rfl, rfl⟩
  | rise => exact .inl ⟨rfl, rfl⟩
  | enter => exact .inl ⟨rfl, rfl⟩
  | follow here pass looked entry some_left =>
      subst some_left
      exact .inr (Nat.lt_succ_self _)

/-- The same hop is made when more links may be followed. -/
theorem Hop.more {more : Nat}
    (h : Hop root budget place steps budget' place' steps')
    (hle : budget ≤ more) :
    ∃ more', budget' ≤ more'
      ∧ Hop root more place steps more' place' steps' := by
  cases h with
  | skip here => exact ⟨more, hle, .skip here⟩
  | stay here pass => exact ⟨more, hle, .stay here pass⟩
  | rise here pass => exact ⟨more, hle, .rise here pass⟩
  | enter here pass looked entry solid =>
      exact ⟨more, hle, .enter here pass looked entry solid⟩
  | follow here pass looked entry some_left =>
      subst some_left
      obtain ⟨left, rfl⟩ := Nat.exists_eq_add_of_le' (Nat.zero_lt_of_lt hle)
      exact ⟨left, Nat.le_of_succ_le_succ hle,
        .follow here pass looked entry rfl⟩

/-- Where no name is left, a walk is at its place. -/
theorem walk_nil : root.walk true budget place [] = .ok (.taken place) := by
  cases budget <;> rfl

/-- A walk ends at the first name that is left, and comes to no node there.
More links would change nothing. -/
def EndsAt (root : Node) (place : List String) (name : String)
    (rest : List String) : Prop :=
  ∃ answer : Except IoError Spot, (∀ final, answer ≠ .ok (.taken final))
    ∧ ∀ budget, root.walk true budget place (name :: rest) = answer

/-- A walk that ends whatever follows a link ends however many links are
left. -/
theorem EndsAt.of_walkBy (answer : Except IoError Spot)
    (hnone : ∀ final, answer ≠ .ok (.taken final))
    (h : ∀ onward, root.walkBy true onward place (name :: rest) = answer) :
    root.EndsAt place name rest := by
  refine ⟨answer, hnone, fun budget => ?_⟩
  cases budget <;> exact h _

/-- What a walk does with the first name that is left: it hops, it ends there,
or it is given up for its links. -/
theorem hop_or_end (root : Node) (budget : Nat) (place : List String)
    (name : String) (rest : List String) :
    (∃ budget' place' steps',
        Hop root budget place (name :: rest) budget' place' steps')
      ∨ root.EndsAt place name rest
      ∨ root.walk true budget place (name :: rest) = .error .tooManyLinks := by
  by_cases hdir : ∃ access entries,
      root.descend? place = some (.directory access entries)
  case neg =>
    refine .inr (.inl (.of_walkBy (.error .notDirectory) nofun ?_))
    intro onward
    unfold walkBy
    split
    next access entries here => exact absurd ⟨access, entries, here⟩ hdir
    next => rfl
  obtain ⟨access, entries, here⟩ := hdir
  by_cases nonempty : name = ""
  case pos =>
    subst nonempty
    exact .inl ⟨_, _, _, .skip here⟩
  by_cases pass : access.execute = true
  case neg =>
    refine .inr (.inl (.of_walkBy (.error .accessDenied) nofun ?_))
    simp [walkBy, here, nonempty, pass]
  by_cases not_stay : name = "."
  case pos =>
    subst not_stay
    exact .inl ⟨_, _, _, .stay here pass⟩
  by_cases not_rise : name = ".."
  case pos =>
    subst not_rise
    exact .inl ⟨_, _, _, .rise here pass⟩
  by_cases short : maxNameBytes < name.utf8ByteSize
  case pos =>
    refine .inr (.inl (.of_walkBy (.error .nameTooLong) nofun ?_))
    simp [walkBy, here, nonempty, pass, not_stay, not_rise, short]
  have looked : IsLookedUp name := ⟨nonempty, not_stay, not_rise, short⟩
  cases hentry : entries.lookup name with
  | none =>
      refine .inr (.inl (.of_walkBy
        (if rest.isEmpty then .ok (.free (place ++ [name]))
          else .error .notFound) ?_ ?_))
      · intro final
        split <;> nofun
      · simp [walkBy, here, nonempty, pass, not_stay, not_rise, short, hentry]
  | some child =>
      cases child with
      | file =>
          exact .inl ⟨_, _, _, .enter here pass looked hentry (by nofun)⟩
      | directory =>
          exact .inl ⟨_, _, _, .enter here pass looked hentry (by nofun)⟩
      | link target =>
          cases budget with
          | zero =>
              refine .inr (.inr ?_)
              simp [walk, walkBy, here, nonempty, pass, not_stay, not_rise,
                short, hentry]
          | succ left =>
              exact .inl ⟨_, _, _, .follow here pass looked hentry rfl⟩

/-- To prove something of all walks, prove it of those that are over, and see
what a hop, an end and giving up do. -/
theorem walk_induction (root : Node)
    {P : Nat → List String → List String → Prop}
    (done : ∀ budget place, P budget place [])
    (hop : ∀ {budget budget' place place' steps steps'},
      Hop root budget place steps budget' place' steps' →
        P budget' place' steps' → P budget place steps)
    (ended : ∀ budget {place name rest}, root.EndsAt place name rest →
      P budget place (name :: rest))
    (tired : ∀ {budget place name rest},
      root.walk true budget place (name :: rest) = .error .tooManyLinks →
        P budget place (name :: rest))
    (budget : Nat) (place steps : List String) : P budget place steps := by
  -- a hop that follows a link may leave more names, but fewer links
  induction budget using Nat.strongRecOn generalizing place steps with
  | ind budget ihbudget =>
      induction steps generalizing place with
      | nil => exact done budget place
      | cons name rest ihrest =>
          rcases hop_or_end root budget place name rest with
            ⟨budget', place', steps', first⟩ | hended | htired
          · apply hop first
            rcases first.budget_or_rest with ⟨rfl, rfl⟩ | hlt
            · exact ihrest place'
            · exact ihbudget budget' hlt place' steps'
          · exact ended budget hended
          · exact tired htired

-- ===================================================================== chains

/-- Hops that use up the names. -/
inductive Reaches (root : Node) :
    Nat → List String → List String → Nat → List String → Prop
  | done {budget : Nat} {place : List String} :
      Reaches root budget place [] budget place
  | hop {budget budget' left : Nat}
      {place place' final steps steps' : List String}
      (first : Hop root budget place steps budget' place' steps')
      (later : Reaches root budget' place' steps' left final) :
      Reaches root budget place steps left final

/-- What follows a chain of hops is walked from its end. -/
theorem Reaches.walk_append
    (h : Reaches root budget place steps budget' place') (rest : List String) :
    root.walk true budget place (steps ++ rest)
      = root.walk true budget' place' rest := by
  induction h with
  | done => rfl
  | @hop budget budget₁ left place place₁ final steps steps₁ first later ih =>
      rw [← ih]
      cases steps with
      | nil => cases first
      | cons name tail =>
          obtain ⟨more, rfl, hreplace⟩ := first.replace
          rw [List.cons_append, (hreplace (tail ++ rest)).walk_eq,
            List.append_assoc]

/-- A walk that comes to a node is a chain of hops. -/
theorem exists_reaches_of_walk
    (h : root.walk true budget place steps = .ok (.taken final)) :
    ∃ left, Reaches root budget place steps left final := by
  revert h
  refine walk_induction root (P := fun budget place steps =>
    root.walk true budget place steps = .ok (.taken final) →
      ∃ left, Reaches root budget place steps left final)
    ?done ?hop ?ended ?tired budget place steps
  case done =>
    intro budget place h
    rw [walk_nil] at h
    cases h
    exact ⟨budget, .done⟩
  case hop =>
    intro budget budget' place place' steps steps' first ih h
    rw [first.walk_eq] at h
    obtain ⟨left, later⟩ := ih h
    exact ⟨left, .hop first later⟩
  case ended =>
    intro budget place name rest ⟨answer, hnone, hall⟩ h
    exact absurd ((hall budget).symm.trans h) (hnone final)
  case tired =>
    intro budget place name rest htired h
    cases htired.symm.trans h

/-- A chain can be cut between any two of its names. -/
theorem Reaches.split
    (h : Reaches root budget place (steps ++ rest) budget' final) :
    ∃ left middle, Reaches root budget place steps left middle
      ∧ Reaches root left middle rest budget' final := by
  generalize hall : steps ++ rest = all at h
  induction h generalizing steps with
  | done =>
      obtain ⟨rfl, rfl⟩ := List.append_eq_nil_iff.mp hall
      exact ⟨_, _, .done, .done⟩
  | @hop budget budget₁ left place place₁ final all all₁ first later ih =>
      cases steps with
      | nil =>
          refine ⟨_, _, .done, ?_⟩
          rw [List.nil_append] at hall
          rw [hall]
          exact .hop first later
      | cons name tail =>
          rw [List.cons_append] at hall
          subst hall
          obtain ⟨more, rfl, hreplace⟩ := first.replace
          obtain ⟨left', middle, hto, hfrom⟩ := ih (List.append_assoc ..)
          exact ⟨left', middle, .hop (hreplace tail) hto, hfrom⟩

/-- An empty name at the end leads nowhere else. -/
theorem Reaches.of_blank (h : Reaches root budget place [name] budget' final)
    (hblank : name = "") : budget' = budget ∧ final = place := by
  cases h with
  | hop first later =>
      cases first with
      | skip here =>
          cases later with
          | done => exact ⟨rfl, rfl⟩
          | hop first _ => cases first
      | stay => exact absurd hblank (by decide)
      | rise => exact absurd hblank (by decide)
      | enter here pass looked => exact absurd hblank looked.nonempty
      | follow here pass looked => exact absurd hblank looked.nonempty

-- =========================================================== entry names only

/-- A walk by entry names goes down the tree, unless it is stopped by a
directory that lets nobody pass. -/
theorem walk_descend (hplace : root.descend? place = some top)
    (hnames : ∀ s ∈ steps, EntryName s)
    (hd : top.descend? steps = some d) (solid : ∀ target, d ≠ .link target)
    (rest : List String) :
    root.walk true budget place (steps ++ rest)
      = if top.canPass steps then root.walk true budget (place ++ steps) rest
        else .error .accessDenied := by
  induction steps generalizing place top with
  | nil => simp [canPass]
  | cons name steps ih =>
      obtain ⟨hname, hrest⟩ := List.forall_mem_cons.mp hnames
      obtain ⟨access, entries, child, rfl, hchild, hd⟩ :=
        descend?_cons_eq_some hd
      by_cases hpass : access.execute = true
      · have hsolid : ∀ target, child ≠ .link target := by
          rintro target rfl
          cases steps with
          | nil =>
              cases hd
              exact solid target rfl
          | cons => cases hd
        have hop : Hop root budget place (name :: (steps ++ rest)) budget
            (place ++ [name]) (steps ++ rest) :=
          .enter hplace hpass hname.isLookedUp hchild hsolid
        have hbelow : root.descend? (place ++ [name]) = some child := by
          rw [descend?_append, hplace]
          show (directory access entries).descend? [name] = some child
          rw [descend?_cons]
          show (entries.lookup name).bind _ = some child
          rw [hchild]
          rfl
        rw [List.cons_append, hop.walk_eq, ih hbelow hrest hd,
          List.append_assoc]
        simp [canPass, hpass, hchild]
      · cases budget <;>
          simp [walk, walkBy, hplace, hpass, canPass, hname.nonempty]

/-- A name that no entry has leads to no node. -/
theorem walk_missing
    (hplace : root.descend? place = some (.directory access entries))
    (hname : PlainName name) (hnone : entries.lookup name = none) :
    root.walk true budget place [name] ≠ .ok (.taken final) := by
  rcases hop_or_end root budget place name [] with
    ⟨budget', place', steps', first⟩ | ⟨answer, htaken, hall⟩ | htired
  · cases first with
    | skip => exact absurd rfl hname.nonempty
    | stay => exact absurd rfl hname.not_here
    | rise => exact absurd rfl hname.not_above
    | enter here _ _ entry =>
        cases hplace.symm.trans here
        cases hnone.symm.trans entry
    | follow here _ _ entry =>
        cases hplace.symm.trans here
        cases hnone.symm.trans entry
  · rw [hall]
    exact htaken final
  · rw [htired]
    nofun

end Node

-- ==================================================== paths below a directory

namespace FileTree

variable {t : FileTree} {root : Path} {top d : Node} {name : String}
  {steps : List String}

/-- Where a path leads is a place of the tree. -/
theorem exists_place_of_node (h : t.node root = .ok top) :
    ∃ place, t.spot true root = .ok (.taken place)
      ∧ t.root.descend? place = some top := by
  unfold node nodeAt at h
  split at h
  next place hspot =>
    split at h
    next found hfound =>
      cases h
      exact ⟨place, hspot, hfound⟩
    next => cases h
  next => cases h
  next => cases h

theorem node_of_spot {p : Path} {place : List String}
    (hspot : t.spot true p = .ok (.taken place))
    (hd : t.root.descend? place = some d) : t.node p = .ok d := by
  unfold node nodeAt
  simp only [hspot, hd]

/-- The empty path leads nowhere. -/
theorem text_ne_of_node (h : t.node root = .ok top) : root.text ≠ "" := by
  intro htext
  obtain ⟨place, hspot, -⟩ := exists_place_of_node h
  unfold spot at hspot
  rw [if_pos htext] at hspot
  cases hspot

/-- The paths below a path that leads somewhere go on from there. -/
theorem exists_walk_under {place : List String}
    (h : t.spot true root = .ok (.taken place)) :
    ∃ left, ∀ names : List String, names ≠ [] → (∀ s ∈ names, PlainName s) →
      t.spot true (root.under names)
        = if names.any (·.toList.contains (Char.ofNat 0)) then
            .error .nulInPath
          else t.root.walk true left place names := by
  unfold spot at h
  split at h
  next => cases h
  next htext =>
    split at h
    next => cases h
    next hended =>
      have hend : root.text.toList.contains (Char.ofNat 0) = false :=
        Bool.eq_false_iff.mpr hended
      obtain ⟨left, hreach⟩ := Node.exists_reaches_of_walk h
      have hstem : Node.Reaches t.root maxLinks
          (if root.isAbsolute then [] else t.here) root.stem left place := by
        rcases root.pieces_eq_stem with heq | heq
        · exact heq ▸ hreach
        · rw [heq] at hreach
          obtain ⟨left', middle, hto, hblank⟩ := hreach.split
          obtain ⟨rfl, rfl⟩ := hblank.of_blank rfl
          exact hto
      refine ⟨left, ?_⟩
      intro names hne hnames
      unfold spot
      rw [if_neg (Path.text_under_ne htext hnames),
        Path.contains_under hnames (by decide), hend, Bool.false_or,
        Path.isAbsolute_under htext hnames, Path.pieces_under hne hnames,
        hstem.walk_append]

/-- The paths below a path that leads to a node go on from there. -/
theorem exists_spot_under (h : t.node root = .ok top) :
    ∃ left place, t.root.descend? place = some top
      ∧ ∀ names : List String, names ≠ [] → (∀ s ∈ names, PlainName s) →
        t.spot true (root.under names)
          = if names.any (·.toList.contains (Char.ofNat 0)) then
              .error .nulInPath
            else t.root.walk true left place names := by
  obtain ⟨place, hspot, hplace⟩ := exists_place_of_node h
  obtain ⟨left, hleft⟩ := exists_walk_under hspot
  exact ⟨left, place, hplace, hleft⟩

/-- What is found under a path that leads to a node. -/
theorem node_under (h : t.node root = .ok top)
    (hnames : ∀ s ∈ steps, EntryName s) (hd : top.descend? steps = some d)
    (solid : ∀ target, d ≠ .link target) :
    t.node (root.under steps)
      = if top.canPass steps then .ok d else .error .accessDenied := by
  by_cases hnil : steps = []
  · subst hnil
    cases hd
    exact h
  · obtain ⟨left, place, hplace, hspot⟩ := exists_spot_under h
    have hplain := hspot steps hnil fun s hs => (hnames s hs).toPlainName
    have hended : steps.any (·.toList.contains (Char.ofNat 0)) = false := by
      rw [List.any_eq_false]
      intro s hs
      rw [List.contains_iff_mem]
      exact (hnames s hs).unended
    have hwalk : t.root.walk true left place steps
        = if top.canPass steps then t.root.walk true left (place ++ steps) []
          else .error .accessDenied := by
      rw [← Node.walk_descend hplace hnames hd solid [], List.append_nil]
    rw [hended, if_neg (by decide), hwalk] at hplain
    by_cases hpass : top.canPass steps = true
    · rw [if_pos hpass, Node.walk_nil] at hplain
      rw [if_pos hpass]
      apply node_of_spot hplain
      rw [Node.descend?_append, hplace]
      exact hd
    · rw [if_neg hpass] at hplain
      rw [if_neg hpass]
      unfold node nodeAt
      simp only [hplain]

theorem exists_node_of_isFile {p : Path} (h : t.isFile p = true) :
    ∃ found, t.node p = .ok found ∧ found.isFile = true := by
  unfold isFile at h
  split at h
  next found hfound => exact ⟨found, hfound, h⟩
  next => cases h

/-- A file that is found in a directory is an entry of it. -/
theorem exists_entry_of_isFile {access : Access}
    {entries : List (String × Node)} (h : t.node root = .ok top)
    (hnames : ∀ s ∈ steps, EntryName s)
    (hd : top.descend? steps = some (.directory access entries))
    (hname : PlainName name)
    (hfile : t.isFile ((root.under steps).join name) = true) :
    ∃ entry, entries.lookup name = some entry := by
  obtain ⟨left, place, hplace, hspot⟩ := exists_spot_under h
  obtain ⟨found, hfound, -⟩ := exists_node_of_isFile hfile
  obtain ⟨final, hfinal, -⟩ := exists_place_of_node hfound
  have hplain : ∀ s ∈ steps ++ [name], PlainName s := by
    intro s hs
    rcases List.mem_append.mp hs with hs | hs
    · exact (hnames s hs).toPlainName
    · rw [List.mem_singleton.mp hs]
      exact hname
  have hhere : t.root.descend? (place ++ steps)
      = some (.directory access entries) := by
    rw [Node.descend?_append, hplace]
    exact hd
  rw [← Path.under_snoc, hspot _ (by simp) hplain,
    Node.walk_descend hplace hnames hd (by nofun)] at hfinal
  cases hentry : entries.lookup name with
  | some entry => exact ⟨entry, rfl⟩
  | none =>
      exfalso
      split at hfinal
      next => cases hfinal
      next =>
        split at hfinal
        next => exact Node.walk_missing hhere hname hentry hfinal
        next => cases hfinal

-- =================================================================== listings

/-- The names in the directory that a path leads to. -/
def list (t : FileTree) (p : Path) : Except IoError (List String) :=
  match t.node p with
  | .ok (.directory access entries) =>
    if access.read then .ok (entries.map (·.1)) else .error .accessDenied
  | .ok _ => .error .notDirectory
  | .error e => .error e

/-- A directory below a path can be listed unless a permission is missing. -/
theorem list_under {access : Access} {entries : List (String × Node)}
    (h : t.node root = .ok top) (hnames : ∀ s ∈ steps, EntryName s)
    (hd : top.descend? steps = some (.directory access entries)) :
    t.list (root.under steps)
      = if top.canList true steps then .ok (entries.map (·.1))
        else .error .accessDenied := by
  unfold list
  rw [node_under h hnames hd (by nofun), Node.canList_eq true hd]
  by_cases hpass : top.canPass steps = true
  · simp [hpass]
  · simp [hpass]

end FileTree

end ProofBatch

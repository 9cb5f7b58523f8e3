/-
What a search finds when no names are asked for: exactly the proofs below the
root, in the order of a walk, or the first fault on the walk.
-/
import ProofBatch.Proofs.Discovery.Scan

namespace ProofBatch.Discovery

variable {t : FileTree} {marker : String} {requested : Option (List String)}
  {root : Path}

-- ================================================================= the answer

/-- A search for all proofs answers with what it has collected. -/
theorem discover_none (hmarker : marker ≠ "")
    (hroot : t.isDirectory root = true) :
    discover t root marker none
      = (collect t marker none (t.visits root)).result := by
  rw [discover_eq hmarker hroot]
  cases (collect t marker none (t.visits root)).result <;> rfl

section Outcome

variable {answer : Except RunError (List ProofUnit)}
  (h : Outcome t root marker requested answer)

include h

/-- A search that has come to its end is one that nothing stopped. -/
theorem Outcome.ok_iff :
    (∃ units, answer = .ok units) ↔ Intact t root marker requested := by
  cases h with
  | complete intact => exact ⟨fun _ => intact, fun _ => ⟨_, rfl⟩⟩
  | stopped first =>
      constructor
      · rintro ⟨units, hunits⟩
        cases hunits
      · intro intact
        exact absurd intact first.not_intact

/-- What was found describes the directories that were looked for, in their
order. -/
theorem Outcome.units_of_ok {units : List ProofUnit}
    (hunits : answer = .ok units) :
    ∃ all, Catalogue t root marker all
      ∧ List.Forall₂ (Describes t)
        ((all.map root.under).filter (wanted requested)) units := by
  cases h with
  | complete intact catalogue told =>
      cases hunits
      exact ⟨_, catalogue, told⟩
  | stopped first => cases hunits

/-- A search that was stopped was so by the first fault on its way. -/
theorem Outcome.error_iff (e : RunError) :
    answer = .error e
      ↔ ∃ steps, FirstFault t root marker requested steps e := by
  cases h with
  | complete intact =>
      constructor
      · intro herror
        cases herror
      · rintro ⟨steps, first⟩
        exact absurd intact first.not_intact
  | stopped first =>
      constructor
      · intro herror
        cases herror
        exact ⟨_, first⟩
      · rintro ⟨steps, first'⟩
        rw [first.unique first']

end Outcome

-- ================================================================== exactness

/-- The answer to a search for all proofs. It is a list of proofs if all
directories can be listed and no `Makefile` of a proof is illegible; the list
tells of each marked directory once, and of no other, in the order of a walk.
Otherwise the answer is the first fault in that order. -/
structure Exact (t : FileTree) (root : Path) (marker : String)
    (answer : Except RunError (List ProofUnit)) : Prop where
  ok_iff : (∃ units, answer = .ok units)
    ↔ (∀ steps, t.Below root steps →
        ∃ names, t.list (root.under steps) = .ok names)
      ∧ ∀ steps, Marked t root marker steps → Legible t (root.under steps)
  units : ∀ units, answer = .ok units →
    ∃ all, Catalogue t root marker all
      ∧ List.Forall₂ (Describes t) (all.map root.under) units
  error_iff : ∀ e, answer = .error e
    ↔ ∃ steps, FirstFault t root marker none steps e

/-- A search for all proofs below a directory is exact. -/
theorem discover_exact (hwell : t.root.isWellNamed = true)
    (hroot : t.isDirectory root = true) (hlink : t.isLink root = false)
    (hmarker : PlainName marker) :
    Exact t root marker (discover t root marker none) := by
  have houtcome : Outcome t root marker none
      (discover t root marker none) := by
    rw [discover_none hmarker.nonempty hroot]
    apply collect_visits hwell hroot hmarker
    intro h
    cases hlink.symm.trans h
  constructor
  case ok_iff =>
    rw [houtcome.ok_iff, intact_iff hwell hmarker]
    simp only [wanted, true_implies]
  case units =>
    intro units hunits
    obtain ⟨all, catalogue, told⟩ := houtcome.units_of_ok hunits
    have hall : (all.map root.under).filter (wanted none)
        = all.map root.under := List.filter_true ..
    rw [hall] at told
    exact ⟨all, catalogue, told⟩
  case error_iff => exact houtcome.error_iff

/-- Two proofs, of which one is marked through a link, and a link to the
other. -/
def shelf : FileTree :=
  { root := .directory {} [("p", .directory {} [
      ("l", .link "a"),
      ("b", .directory {} [("mark", .link "../a/mark")]),
      ("a", .directory {} [("mark", .file {} []),
        ("Makefile", .file {} "PROOF_UID=x".toByteArray.toList)])])] }

theorem visits_shelf : shelf.visits ⟨"p"⟩
    = [.directory ⟨"p"⟩, .directory ⟨"p/a"⟩, .other ⟨"p/a/Makefile"⟩,
      .other ⟨"p/a/mark"⟩, .directory ⟨"p/b"⟩, .other ⟨"p/b/mark"⟩,
      .other ⟨"p/l"⟩] := by
  rw [FileTree.visits_of_node rfl rfl]
  simp [Node.visits, Node.visitsBelow, List.mergeSort, entryLe, Path.join]

theorem root_shelf :
    shelf.isDirectory ⟨"p"⟩ = true ∧ shelf.isLink ⟨"p"⟩ = false :=
  ⟨rfl, rfl⟩

theorem isFile_shelf :
    shelf.isFile ((Path.mk "p").join "mark") = false
      ∧ shelf.isFile ((Path.mk "p/a").join "mark") = true
      ∧ shelf.isFile ((Path.mk "p/b").join "mark") = true :=
  ⟨rfl, rfl, rfl⟩

theorem readText_shelf :
    shelf.readText ((Path.mk "p/a").join ProofUnit.makefile)
        = .ok "PROOF_UID=x"
      ∧ shelf.readText ((Path.mk "p/b").join ProofUnit.makefile)
        = .error .notFound := by
  have hdecode : Text.decode? "PROOF_UID=x".toByteArray.toList
      = some "PROOF_UID=x" := by decide +kernel
  exact ⟨FileTree.readText_of_bytes rfl hdecode, rfl⟩

theorem discover_shelf : discover shelf ⟨"p"⟩ "mark" none
    = .ok [⟨⟨"p/a"⟩, true, some "x"⟩, ⟨⟨"p/b"⟩, true, none⟩] := by
  have huid : Identifier.declared? "PROOF_UID=x" = some "x" := by
    decide +kernel
  obtain ⟨hp, ha, hb⟩ := isFile_shelf
  rw [discover_none (by decide) root_shelf.1, visits_shelf]
  simp only [collect_directory, collect_other, isProof, wanted, Bool.and_true,
    hp, ha, hb, load_text readText_shelf.1, load_absent readText_shelf.2, huid]
  rfl

/-- Two proofs, and not three: what is behind the link does not count. -/
theorem discover_exact_shelf :
    shelf.root.isWellNamed = true ∧ shelf.isDirectory ⟨"p"⟩ = true
      ∧ shelf.isLink ⟨"p"⟩ = false ∧ PlainName "mark"
      ∧ Exact shelf ⟨"p"⟩ "mark"
        (.ok [⟨⟨"p/a"⟩, true, some "x"⟩, ⟨⟨"p/b"⟩, true, none⟩]) := by
  have hwell : shelf.root.isWellNamed = true := by decide
  obtain ⟨hroot, hlink⟩ := root_shelf
  have hmarker : PlainName "mark" := by decide
  refine ⟨hwell, hroot, hlink, hmarker, ?_⟩
  rw [← discover_shelf]
  exact discover_exact hwell hroot hlink hmarker

end ProofBatch.Discovery

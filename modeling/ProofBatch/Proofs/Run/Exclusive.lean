/-
No two proofs with the same identifier are ever configured.

At every moment of a run the directories whose configuration was asked for so
far are a part of the directories of proofs whose claims were granted
(`Passed.exclusive`). The search found each directory once, and read the
identifier of its proof from its `Makefile`; the registry granted no identifier
to two directories. Both carry over to any part of the proofs, in any order.
-/
import Mathlib.Data.List.Pairwise
import ProofBatch.Proofs.Discovery.Found
import ProofBatch.Proofs.Registry
import ProofBatch.Proofs.Run.Verdict

namespace ProofBatch.Run

open Discovery (Declares Found)

variable {σ : Type} {plan : Plan} {project : String} {partners : Partners σ}
  {files : FileTree} {units claimed : List ProofUnit} {events : Journal}
  {dirs dirs' : List Path} {result : Except RunError Summary}

/-- Directories that have nothing in common: they are different, each declares
an identifier, no two the same one, and each was asked for. -/
structure Exclusive (files : FileTree) (requested : Option (List String))
    (dirs : List Path) : Prop where
  distinct : dirs.Pairwise fun p q => ¬p.same q
  declared : ∀ dir ∈ dirs, ∃ uid, Declares files dir uid
  exclusive : dirs.Pairwise fun p q =>
    ∀ uid, Declares files p uid → ¬Declares files q uid
  requested : ∀ names, requested = some names →
    ∀ dir ∈ dirs, dir.baseName ∈ names

/-- Fewer proofs share no more than all of them do. -/
theorem Exclusive.sublist {requested : Option (List String)}
    (h : Exclusive files requested dirs) (hsub : dirs'.Sublist dirs) :
    Exclusive files requested dirs' where
  distinct := h.distinct.sublist hsub
  declared dir hdir := h.declared dir (hsub.mem hdir)
  exclusive := h.exclusive.sublist hsub
  requested names hnames dir hdir :=
    h.requested names hnames dir (hsub.mem hdir)

/-- Their order does not matter. -/
theorem Exclusive.perm {requested : Option (List String)}
    (h : Exclusive files requested dirs) (hperm : dirs.Perm dirs') :
    Exclusive files requested dirs' where
  distinct := by
    refine h.distinct.perm hperm ?_
    intro p q hpq hqp
    exact hpq (Path.same_iff.mpr (Path.same_iff.mp hqp).symm)
  declared dir hdir := h.declared dir (hperm.mem_iff.mpr hdir)
  exclusive := by
    refine h.exclusive.perm hperm ?_
    intro p q hpq uid hq hp
    exact hpq uid hp hq
  requested names hnames dir hdir :=
    h.requested names hnames dir (hperm.mem_iff.mpr hdir)

/-- At most one of them declares a given identifier. -/
theorem Exclusive.eq_of_declares {requested : Option (List String)}
    {p q : Path}
    {uid : String} (h : Exclusive files requested dirs) (hp : p ∈ dirs)
    (hq : q ∈ dirs) (hdp : Declares files p uid) (hdq : Declares files q uid) :
    p = q := by
  have hsymm : Std.Symm fun p q : Path =>
      ∀ uid, Declares files p uid → ¬Declares files q uid :=
    ⟨fun _ _ hpq uid hq hp => hpq uid hp hq⟩
  by_contra hne
  exact h.exclusive.forall hp hq hne uid hdp hdq

/-- Proofs of a search whose claims are all granted are exclusive. -/
theorem exclusive_of_claimAll {requested : Option (List String)} {r : Registry}
    (found : Found files requested units) (hsub : claimed.Sublist units)
    (hr : Registry.empty.claimAll claimed = .ok r) :
    Exclusive files requested (claimed.map (·.path)) := by
  have hcompatible := Registry.compatible_of_claimAll_ok hr
  have hdistinct := found.distinct.sublist (hsub.map (·.path))
  have hdeclares : ∀ u ∈ claimed, ∃ uid, u.uid = some uid
      ∧ Declares files u.path uid := by
    intro u hu
    obtain ⟨uid, huid⟩ :=
      Option.isSome_iff_exists.mp (hcompatible.declared u hu)
    exact ⟨uid, huid, found.declared u (hsub.mem hu) uid huid⟩
  constructor
  case distinct => exact hdistinct
  case declared =>
    intro dir hdir
    obtain ⟨u, hu, rfl⟩ := List.mem_map.mp hdir
    obtain ⟨uid, -, huid⟩ := hdeclares u hu
    exact ⟨uid, huid⟩
  case exclusive =>
    apply List.pairwise_map.mpr
    apply (List.pairwise_map.mp hdistinct).imp_of_mem
    intro u v hu hv hne uid hdu hdv
    obtain ⟨x, hx, hdx⟩ := hdeclares u hu
    obtain ⟨y, hy, hdy⟩ := hdeclares v hv
    cases hdu.unique hdx
    cases hdv.unique hdy
    exact hne (hcompatible.same u hu v hv (hx.trans hy.symm))
  case requested =>
    rintro names rfl dir hdir
    obtain ⟨u, hu, rfl⟩ := List.mem_map.mp hdir
    exact List.contains_iff_mem.mp (found.wanted u (hsub.mem hu))

/-- The directories that a pass asked to have configured are those of proofs
whose claims were granted. -/
theorem Passed.exclusive {setting : Workers.Setting σ} {workers : Nat}
    {requested : Option (List String)} {answer : Except RunError Progress}
    (found : Found files requested units)
    (h : Passed setting workers units events answer) :
    Exclusive files requested events.askedDirs := by
  cases h with
  | tallied granted settled =>
      exact (exclusive_of_claimAll found (.refl _) granted).perm
        settled.asked.perm
  | refused granted _ settled =>
      exact (exclusive_of_claimAll found (List.take_sublist ..) granted).perm
        settled.asked.perm

theorem exclusive_nil {requested : Option (List String)} :
    Exclusive files requested [] := by
  constructor <;> simp

/-- The proofs that a run configures share no identifier, however far it
gets. -/
theorem Course.exclusive {requested : Option (List String)}
    (found : Found files requested units)
    (h : Course plan project partners units pools events result) :
    Exclusive files requested events.askedDirs := by
  cases h with
  | unbegun probed begun =>
      rw [(probed.aside.append begun.aside).1]
      exact exclusive_nil
  | stopped probed begun passed =>
      rw [askedDirs_through_pass probed begun]
      exact passed.exclusive found
  | failed probed begun passed =>
      rw [askedDirs_through_pass probed begun]
      exact passed.exclusive found
  | ended probed begun passed none_failed finished =>
      rw [Journal.askedDirs_append, askedDirs_through_pass probed begun,
        finished.aside.1, List.append_nil]
      exact passed.exclusive found

/-- At every moment of a run, what was configured so far is exclusive. -/
theorem runProofs_exclusive (files : FileTree) (plan : Plan) (project : String)
    (partners : Partners σ) (w : World σ)
    (hwell : files.root.isWellNamed = true) :
    ∃ events, (runProofs files plan project partners w).2.journal
        = w.journal ++ events
      ∧ ∀ moment : Journal, moment <+: events →
        Exclusive files plan.proofs moment.askedDirs := by
  obtain ⟨events, hj, hcourse⟩ :=
    runProofs_course files plan project partners w
  refine ⟨events, hj, ?_⟩
  have hall : Exclusive files plan.proofs events.askedDirs := by
    match hfound :
        Discovery.discover files plan.root plan.marker plan.proofs with
    | .error e =>
        rw [hfound] at hcourse
        rw [Journal.askedDirs, Journal.configureCalls, hcourse.1]
        exact exclusive_nil
    | .ok [] =>
        rw [hfound] at hcourse
        rw [Journal.askedDirs, Journal.configureCalls, hcourse.1]
        exact exclusive_nil
    | .ok (unit :: rest) =>
        rw [hfound] at hcourse
        exact hcourse.exclusive (Discovery.discover_found hwell hfound)
  rintro moment ⟨later, rfl⟩
  rw [Journal.askedDirs_append] at hall
  exact hall.sublist (List.sublist_append_left ..)

/-- Two proofs that declare the same identifier. -/
def twins : FileTree :=
  let twin : Node := .directory {} [("mark", .file {} []),
    ("Makefile", .file {} "PROOF_UID=x".toByteArray.toList)]
  { root := .directory {} [("p", .directory {} [("a", twin), ("b", twin)])] }

theorem declares_twins :
    Declares twins ⟨"p/a"⟩ "x" ∧ Declares twins ⟨"p/b"⟩ "x" := by
  have huid : Identifier.declared? "PROOF_UID=x" = some "x" := by
    decide +kernel
  have hdecode : Text.decode? "PROOF_UID=x".toByteArray.toList
      = some "PROOF_UID=x" := by decide +kernel
  exact ⟨⟨_, FileTree.readText_of_bytes rfl hdecode, huid⟩,
    ⟨_, FileTree.readText_of_bytes rfl hdecode, huid⟩⟩

/-- A run over all proofs below a directory that leaves the build to its
caller. -/
def hosted : Plan where
  root := ⟨"p"⟩
  marker := "mark"
  proofs := none
  standalone := false
  project := none
  restriction := .no
  expensiveJobs := 1
  configureJobs := 4
  parallelJobs := none
  litani := none

/-- Partners to whom all is well. -/
def obliging : Replies where
  capabilities := .empty
  init _ _ := .ok ()
  configure _ _ := .ok .succeeded
  runBuild _ := .ok ()

/-- Four workers, two proofs: at no moment were both configured. -/
theorem runProofs_exclusive_twins :
    twins.root.isWellNamed = true
      ∧ ∃ events, (runProofs twins hosted "q"
          (obliging.asPartners fun turn => turn * turn) ⟨(), []⟩).2.journal
          = [] ++ events
        ∧ ∀ moment : Journal, moment <+: events →
          ¬(⟨"p/a"⟩ ∈ moment.askedDirs ∧ ⟨"p/b"⟩ ∈ moment.askedDirs) := by
  have hwell : twins.root.isWellNamed = true := by decide
  obtain ⟨events, hj, hall⟩ := runProofs_exclusive twins hosted "q"
    (obliging.asPartners fun turn => turn * turn) ⟨(), []⟩ hwell
  refine ⟨hwell, events, hj, ?_⟩
  rintro moment hmoment ⟨ha, hb⟩
  have heq := (hall moment hmoment).eq_of_declares ha hb declares_twins.1
    declares_twins.2
  exact absurd heq (by decide)

end ProofBatch.Run

/-
Runs that end because two proofs declare the same identifier.

# What is reported

A report names two directories. They are different directories of proofs that
the search found, and the `Makefile` in each declares the identifier that is
reported (`Course.collision`).

# What was written

An identifier is a run of word characters, and what comes after it in its line
has no say. A token with a dash or a full stop in it is therefore taken up to
there (`stem`), and tokens that are the same up to there collide, though the
report has it that both proofs declare the same (`not_real_dashed`). Tokens
that are whole do not collide unless they are the same (`runProofs_collision`).
-/
import ProofBatch.Litani
import ProofBatch.Proofs.Discovery.Found
import ProofBatch.Proofs.Identifier
import ProofBatch.Proofs.Registry.Sequence
import ProofBatch.Proofs.Run.Exclusive

namespace ProofBatch

-- ==================================================================== tokens

namespace Identifier

open ProofBatch.Text

/-- The characters that tokens are made of. -/
def IsTokenChar (c : Char) : Prop :=
  c.isAlpha = true ∨ c.isDigit = true ∨ c = '_' ∨ c = '-' ∨ c = '.'

instance : DecidablePred IsTokenChar :=
  fun c => inferInstanceAs (Decidable (c.isAlpha = true ∨ c.isDigit = true
    ∨ c = '_' ∨ c = '-' ∨ c = '.'))

/-- A token starts with a letter. -/
structure IsToken (token : List Char) : Prop where
  starts : ∃ c ∈ token.head?, c.isAlpha = true
  made : ∀ c ∈ token, IsTokenChar c

theorem isToken_of_all {token : List Char} {c : Char}
    (hstarts : token.head? = some c) (halpha : c.isAlpha = true)
    (hmade : token.all (fun c => decide (IsTokenChar c)) = true) :
    IsToken token :=
  ⟨⟨c, hstarts, halpha⟩, fun c hc =>
    of_decide_eq_true (List.all_eq_true.mp hmade c hc)⟩

/-- A token without a dash or a full stop. -/
def IsWhole (token : List Char) : Prop :=
  '-' ∉ token ∧ '.' ∉ token

/-- A token up to its first dash or full stop. -/
def stem (token : List Char) : List Char :=
  token.takeWhile fun c => c ≠ '-' && c ≠ '.'

/-- The plainest line that declares a token. -/
def plainLine (token : List Char) : List Char :=
  keyword ++ " = ".toList ++ token

/-- A text declares a token in the only line that has the name in it. -/
structure DeclaresToken (text : String) (token : List Char) : Prop where
  made : IsToken token
  only : ∃ earlier later,
    lines text.toList = earlier ++ plainLine token :: later
      ∧ ∀ line ∈ earlier ++ later, ¬keyword <:+: line

variable {token token' line : List Char} {text : String}

/-- Nothing is cut off a token of word characters. -/
theorem IsWhole.stem_eq (h : IsWhole token) : stem token = token := by
  unfold stem
  rw [List.takeWhile_eq_self_iff]
  intro c hc
  simp only [Bool.and_eq_true, decide_eq_true_eq]
  exact ⟨fun hdash => h.1 (hdash ▸ hc), fun hstop => h.2 (hstop ▸ hc)⟩

theorem isWord_of_isAlpha {c : Char} (h : c.isAlpha = true) :
    isWord c = true := by
  simp [isWord, isLetter, h]

/-- The characters of a token that can stand in an identifier. -/
theorem IsTokenChar.isWord_iff {c : Char} (h : IsTokenChar c) :
    isWord c = true ↔ c ≠ '-' ∧ c ≠ '.' := by
  have hdash : isWord '-' = false := by decide +kernel
  have hstop : isWord '.' = false := by decide +kernel
  constructor
  · intro hword
    constructor
    · rintro rfl
      cases hdash.symm.trans hword
    · rintro rfl
      cases hstop.symm.trans hword
  · intro hne
    rcases h with h | h | rfl | h | h
    · exact isWord_of_isAlpha h
    · simp [isWord, h]
    · rfl
    · exact absurd h hne.1
    · exact absurd h hne.2

/-- The identifier that a plain line declares is the stem of its token. -/
theorem declaration_plainLine (h : IsToken token) :
    Declaration (stem token) (plainLine token) := by
  have hblank : ∀ c ∈ [' '], isBlank c = true :=
    List.forall_mem_singleton.mpr rfl
  have hline : plainLine token = keyword ++ ([' '] ++ '=' :: ([' ']
      ++ (stem token ++ token.dropWhile fun c => c ≠ '-' && c ≠ '.'))) := by
    rw [stem, List.takeWhile_append_dropWhile]
    rfl
  rw [hline]
  refine .intro hblank hblank ?_ ?_ ?_
  · obtain ⟨c, hhead, halpha⟩ := h.starts
    obtain ⟨rest, rfl⟩ := List.head?_eq_some_iff.mp (Option.mem_def.mp hhead)
    have hc := (h.made c (List.mem_cons_self ..)).isWord_iff.mp
      (isWord_of_isAlpha halpha)
    simp [stem, hc]
  · -- of the characters of a token, dash and full stop alone are no word
    -- characters
    intro c hc
    have hstem := List.mem_takeWhile_imp hc
    rw [(h.made c (List.takeWhile_subset _ hc)).isWord_iff]
    simpa using hstem
  · intro c hc
    have hends := head?_dropWhile token c hc
    have hmem := (List.dropWhile_suffix _).mem (List.mem_of_mem_head? hc)
    rw [← Bool.not_eq_true, (h.made c hmem).isWord_iff]
    simpa [not_and] using hends

/-- A declaration has the name in it. -/
theorem Declaration.keyword_infix {uid : List Char}
    (h : Declaration uid line) :
    keyword <:+: line := by
  cases h
  exact (List.prefix_append ..).isInfix

/-- A text may be no more than such a line. -/
theorem declaresToken_of_lines (h : IsToken token)
    (hlines : lines text.toList = [plainLine token]) :
    DeclaresToken text token :=
  ⟨h, [], [], hlines, nofun⟩

/-- Of a token, the beginning is read that is made of word characters. -/
theorem DeclaresToken.declared (h : DeclaresToken text token) :
    declared? text = some (String.ofList (stem token)) := by
  obtain ⟨earlier, later, hlines, honly⟩ := h.only
  rw [declared?_eq_some_iff]
  refine ⟨earlier, plainLine token, later, hlines, ?_, ?_⟩
  · rw [String.toList_ofList]
    exact declaration_plainLine h.made
  · rintro line hline ⟨uid, huid⟩
    exact honly line (List.mem_append_left _ hline) huid.keyword_infix

end Identifier

-- ================================================================ the report

namespace Discovery

variable {t : FileTree} {marker : String} {requested : Option (List String)}
  {root : Path} {units : List ProofUnit} {uid : String} {dir first : Path}

/-- The identifier of a proof that was found is one that its makefile
declares. -/
theorem declares_of_discover
    (h : discover t root marker requested = .ok units) {unit : ProofUnit}
    (hunit : unit ∈ units) (huid : unit.uid = some uid) :
    Declares t unit.path uid :=
  ((collect_ok (collect_of_discover h)).2 unit hunit).2 uid huid

/-- Loading a proof does not compare it with others. -/
theorem load_ne_duplicate :
    ProofUnit.load t root marker ≠ .error (.duplicateUid uid dir first) := by
  intro h
  unfold ProofUnit.load ProofUnit.loadUid at h
  split at h
  next => cases h
  next heq =>
    cases h
    split at heq
    next => cases heq
    next => cases heq
    next => cases heq

/-- So no search ends with identifiers that collide. -/
theorem collect_ne_duplicate (visits : List Visit) :
    (collect t marker requested visits).result
      ≠ .error (.duplicateUid uid dir first) := by
  induction visits with
  | nil => nofun
  | cons visit rest ih =>
      cases visit with
      | unlistable path cause => nofun
      | other path => exact ih
      | directory path =>
          cases hproof : isProof t marker requested path with
          | false =>
              rw [collect_passed hproof]
              exact ih
          | true =>
              cases hload : ProofUnit.load t path marker with
              | error e =>
                  rw [collect_unloaded hproof hload]
                  rintro ⟨⟩
                  exact load_ne_duplicate hload
              | ok unit =>
                  rw [collect_loaded hproof hload]
                  intro h
                  cases hrest : (collect t marker requested rest).result with
                  | error e =>
                      rw [hrest] at h ih
                      cases h
                      exact ih rfl
                  | ok later =>
                      rw [hrest] at h
                      cases h

/-- A search does not look for collisions. -/
theorem discover_ne_duplicate :
    discover t root marker requested
      ≠ .error (.duplicateUid uid dir first) := by
  intro h
  by_cases hlooks : marker ≠ "" ∧ t.isDirectory root = true
  · rw [discover_eq hlooks.1 hlooks.2] at h
    split at h
    next heq =>
      cases h
      exact collect_ne_duplicate _ heq
    next =>
      split at h
      next => cases h
      next => cases h
  · unfold discover search at h
    split at h
    next => cases h
    next hmarker =>
      split at h
      next => cases h
      next hroot => exact hlooks ⟨hmarker, by simpa using hroot⟩

end Discovery

/-- What a tool gives as an error is a fault of the tool. -/
structure BuildTool.OwnErrors {σ : Type} (tool : BuildTool σ) : Prop where
  init : ∀ project pools o e, (tool.init project pools o).answer = .error e →
    ∃ name problem, e = .buildTool name problem
  runBuild : ∀ jobs o e, (tool.runBuild jobs o).answer = .error e →
    ∃ name problem, e = .buildTool name problem

/-- The build tool fails in its own name. -/
theorem Litani.request_ownError {σ : Type} {start : Launcher σ} {path : Path}
    {command : String} {arguments : List String} {o : σ} {e : RunError}
    (h : (Litani.request start path command arguments o).answer = .error e) :
    ∃ name problem, e = .buildTool name problem := by
  unfold Litani.request at h
  dsimp only at h
  split at h
  next =>
    cases h
    exact ⟨_, _, rfl⟩
  next =>
    split at h
    next => cases h
    next =>
      cases h
      exact ⟨_, _, rfl⟩

/-- Litani keeps to that. -/
theorem Litani.ownErrors {σ : Type} (start : Launcher σ) (path : Path) :
    (Litani.tool start path).OwnErrors :=
  ⟨fun _ _ _ _ h => Litani.request_ownError h,
    fun _ _ _ h => Litani.request_ownError h⟩

namespace Run

open Discovery (Declares)
open Identifier

variable {σ : Type} {plan : Plan} {project : String} {partners : Partners σ}
  {files : FileTree} {units : List ProofUnit} {pools : Bool} {events : Journal}
  {uid : String} {dir first : Path}

/-- A course that ends with a collision was stopped by one. -/
theorem Course.collision (own : partners.tool.OwnErrors)
    (h : Course plan project partners units pools events
      (.error (.duplicateUid uid dir first))) :
    Registry.Collision units uid dir first := by
  generalize hresult : Except.error (RunError.duplicateUid uid dir first)
    = result at h
  cases h with
  | unbegun probed begun =>
      cases hresult
      cases begun with
      | hosted _ _ _ ok => cases ok
      | asked _ _ _ genuine =>
          -- the tool speaks only of its own faults
          obtain ⟨_, _, he⟩ := own.init _ _ _ _ genuine
          cases he
  | stopped probed begun passed =>
      cases hresult
      cases passed with
      | refused _ refused => exact Registry.collision_of_claimAll refused
  | failed => cases hresult
  | @ended _ _ _ _ _ built _ _ _ _ finished =>
      cases finished with
      | hosted _ _ _ ok =>
          rw [ok] at hresult
          cases hresult
      | @asked o answer _ _ _ genuine told =>
          rw [told] at hresult
          cases answer with
          | ok => cases hresult
          | error e =>
              cases hresult
              obtain ⟨_, _, he⟩ := own.runBuild _ _ _ genuine
              cases he

/-- A refused claim stops a run that leaves the build to its caller, whatever
else happens. -/
theorem Course.refused {result : Except RunError Summary} {e : RunError}
    (h : Course plan project partners units pools events result)
    (hosted : plan.standalone = false)
    (hrefused : Registry.empty.claimAll units = .error e) :
    result = .error e := by
  cases h with
  | unbegun probed begun =>
      cases begun with
      | hosted _ _ _ ok => cases ok
      | asked yes => cases hosted.symm.trans yes
  | stopped probed begun passed =>
      cases passed with
      | refused _ refused =>
          cases refused.symm.trans hrefused
          rfl
  | failed probed begun passed =>
      obtain ⟨⟨_, hgranted⟩, -⟩ := passed.tally
      cases hgranted.symm.trans hrefused
  | ended probed begun passed =>
      obtain ⟨⟨_, hgranted⟩, -⟩ := passed.tally
      cases hgranted.symm.trans hrefused

/-- A run that ends with a collision found both proofs. -/
theorem collision_of_runProofs {w : World σ} (own : partners.tool.OwnErrors)
    (h : (runProofs files plan project partners w).1
      = .error (.duplicateUid uid dir first)) :
    ∃ units,
      Discovery.discover files plan.root plan.marker plan.proofs = .ok units
        ∧ Registry.Collision units uid dir first := by
  obtain ⟨events, -, hcourse⟩ := runProofs_course files plan project partners w
  match hfound :
      Discovery.discover files plan.root plan.marker plan.proofs with
  | .error e =>
      rw [hfound, h] at hcourse
      cases hcourse.2
      exact absurd hfound Discovery.discover_ne_duplicate
  | .ok [] =>
      rw [hfound, h] at hcourse
      cases hcourse.2
  | .ok (unit :: rest) =>
      rw [hfound, h] at hcourse
      exact ⟨_, rfl, hcourse.collision own⟩

-- =========================================================== what was written

/-- The `Makefile` in a directory declares a token. -/
def DeclaresIn (files : FileTree) (dir : Path) (token : List Char) : Prop :=
  ∃ text, files.readText (dir.join ProofUnit.makefile) = .ok text
    ∧ DeclaresToken text token

/-- What a makefile with a token declares is the beginning of that token. -/
theorem DeclaresIn.stem_eq {token : List Char}
    (h : DeclaresIn files dir token) (huid : Declares files dir uid) :
    uid.toList = stem token := by
  obtain ⟨text, htext, htoken⟩ := h
  have hstem : Declares files dir (String.ofList (stem token)) :=
    ⟨text, htext, htoken.declared⟩
  rw [huid.unique hstem, String.toList_ofList]

/-- What is so of a collision that is reported. -/
structure Reported (files : FileTree) (uid : String) (dir first : Path) :
    Prop where
  apart : first.same dir = false
  /-- Both directories declare tokens, whose stem is the identifier. -/
  stems : ∃ token token', DeclaresIn files dir token
    ∧ DeclaresIn files first token' ∧ uid.toList = stem token
    ∧ uid.toList = stem token'
  /-- Tokens that are whole are the same, and are the identifier. -/
  real : ∀ token token', DeclaresIn files dir token →
    DeclaresIn files first token' → IsWhole token → IsWhole token' →
    token = token' ∧ uid.toList = token

/-- Proofs in different directories have different tokens, and all are
whole. -/
def Distinguished (files : FileTree) (units : List ProofUnit) : Prop :=
  ∀ u ∈ units, ∀ v ∈ units, u.path.same v.path = false →
    ∀ token token', DeclaresIn files u.path token →
      DeclaresIn files v.path token' →
      IsWhole token ∧ IsWhole token' ∧ token ≠ token'

/-- A collision is reported with the tokens that gave rise to it. -/
theorem reported_of_collision
    (hfound : Discovery.discover files plan.root plan.marker plan.proofs
      = .ok units)
    (hplain : ∀ u ∈ units, ∃ token, DeclaresIn files u.path token)
    (h : Registry.Collision units uid dir first) :
    Reported files uid dir first := by
  obtain ⟨⟨u, hu, rfl, huid⟩, ⟨v, hv, rfl, hvid⟩, happart⟩ := h
  have hdu := Discovery.declares_of_discover hfound hu huid
  have hdv := Discovery.declares_of_discover hfound hv hvid
  constructor
  case apart => exact happart
  case stems =>
    obtain ⟨token, htoken⟩ := hplain u hu
    obtain ⟨token', htoken'⟩ := hplain v hv
    exact ⟨token, token', htoken, htoken', htoken.stem_eq hdu,
      htoken'.stem_eq hdv⟩
  case real =>
    intro token token' htoken htoken' hwhole hwhole'
    have hu := htoken.stem_eq hdu
    have hv := htoken'.stem_eq hdv
    rw [hwhole.stem_eq] at hu
    rw [hwhole'.stem_eq] at hv
    exact ⟨hu.symm.trans hv, hu⟩

/-- If every proof declares a token, a collision that a run reports is one of
their stems; so whole tokens that differ never make a run fail. -/
theorem runProofs_collision (files : FileTree) (plan : Plan) (project : String)
    (partners : Partners σ) (w : World σ) (own : partners.tool.OwnErrors)
    (hplain : ∀ units,
      Discovery.discover files plan.root plan.marker plan.proofs = .ok units →
      ∀ u ∈ units, ∃ token, DeclaresIn files u.path token) :
    (∀ uid dir first, (runProofs files plan project partners w).1
        = .error (.duplicateUid uid dir first) →
        Reported files uid dir first)
      ∧ ((∀ units, Discovery.discover files plan.root plan.marker plan.proofs
          = .ok units → Distinguished files units) →
        ∀ uid dir first, (runProofs files plan project partners w).1
          ≠ .error (.duplicateUid uid dir first)) := by
  constructor
  · intro uid dir first h
    obtain ⟨units, hfound, hcollision⟩ := collision_of_runProofs own h
    exact reported_of_collision hfound (hplain units hfound) hcollision
  · intro hdistinguished uid dir first h
    obtain ⟨units, hfound, hcollision⟩ := collision_of_runProofs own h
    have hreported :=
      reported_of_collision hfound (hplain units hfound) hcollision
    obtain ⟨⟨u, hu, rfl, -⟩, ⟨v, hv, rfl, -⟩, happart⟩ := hcollision
    obtain ⟨token, token', htoken, htoken', -, -⟩ := hreported.stems
    obtain ⟨hwhole', hwhole, hne⟩ := hdistinguished units hfound v hv u hu
      happart token' token htoken' htoken
    exact hne
      (hreported.real token token' htoken htoken' hwhole hwhole').1.symm

-- ================================================================= two proofs

/-- Two proofs side by side, by the texts of their files. -/
def sideBySide (one other : String) : FileTree :=
  let proof (text : String) : Node := .directory {} [("mark", .file {} []),
    ("Makefile", .file {} text.toByteArray.toList)]
  { root := .directory {} [
      ("p", .directory {} [("a", proof one), ("b", proof other)])] }

section SideBySide

variable (one other : String)

theorem visits_sideBySide :
    (sideBySide one other).visits ⟨"p"⟩
      = [.directory ⟨"p"⟩, .directory ⟨"p/a"⟩, .other ⟨"p/a/Makefile"⟩,
        .other ⟨"p/a/mark"⟩, .directory ⟨"p/b"⟩, .other ⟨"p/b/Makefile"⟩,
        .other ⟨"p/b/mark"⟩] := by
  rw [FileTree.visits_of_node rfl rfl]
  simp [Node.visits, Node.visitsBelow, List.mergeSort, entryLe, Path.join]

theorem isFile_sideBySide :
    (sideBySide one other).isFile ((Path.mk "p").join "mark") = false
      ∧ (sideBySide one other).isFile ((Path.mk "p/a").join "mark") = true
      ∧ (sideBySide one other).isFile ((Path.mk "p/b").join "mark") = true
      ∧ (sideBySide one other).isDirectory ⟨"p"⟩ = true :=
  ⟨rfl, rfl, rfl, rfl⟩

variable {one other}

theorem readText_sideBySide
    (hone : Text.decode? one.toByteArray.toList = some one)
    (hother : Text.decode? other.toByteArray.toList = some other) :
    (sideBySide one other).readText ((Path.mk "p/a").join ProofUnit.makefile)
        = .ok one
      ∧ (sideBySide one other).readText
          ((Path.mk "p/b").join ProofUnit.makefile)
        = .ok other :=
  ⟨FileTree.readText_of_bytes rfl hone, FileTree.readText_of_bytes rfl hother⟩

theorem discover_sideBySide
    (hone : Text.decode? one.toByteArray.toList = some one)
    (hother : Text.decode? other.toByteArray.toList = some other) :
    Discovery.discover (sideBySide one other) ⟨"p"⟩ "mark" none
      = .ok [⟨⟨"p/a"⟩, true, declared? one⟩,
        ⟨⟨"p/b"⟩, true, declared? other⟩] := by
  obtain ⟨htop, ha, hb, hroot⟩ := isFile_sideBySide one other
  obtain ⟨hreada, hreadb⟩ := readText_sideBySide hone hother
  rw [Discovery.discover_eq (by decide) hroot, visits_sideBySide]
  simp only [Discovery.collect_directory, Discovery.collect_other,
    Discovery.isProof, Discovery.wanted, Bool.and_true, htop, ha, hb,
    Discovery.load_text hreada, Discovery.load_text hreadb]
  rfl

/-- If both texts declare the same identifier, the run reports that. -/
theorem runProofs_sideBySide {uid : String}
    (hone : Text.decode? one.toByteArray.toList = some one)
    (hother : Text.decode? other.toByteArray.toList = some other)
    (huid : declared? one = some uid) (huid' : declared? other = some uid)
    (schedule : Workers.Schedule) (w : World Unit) :
    (runProofs (sideBySide one other) hosted "q" (obliging.asPartners schedule)
        w).1
      = .error (.duplicateUid uid ⟨"p/b"⟩ ⟨"p/a"⟩) := by
  have hfound := discover_sideBySide hone hother
  have happart : (Path.mk "p/a").same ⟨"p/b"⟩ = false := by decide +kernel
  have hrefused := Registry.claimAll_pair ⟨⟨"p/a"⟩, true, declared? one⟩
    ⟨⟨"p/b"⟩, true, declared? other⟩ huid huid' happart
  obtain ⟨events, -, hcourse⟩ := runProofs_course (sideBySide one other) hosted
    "q" (obliging.asPartners schedule) w
  have hplan : Discovery.discover (sideBySide one other) hosted.root
      hosted.marker hosted.proofs = _ := hfound
  rw [hplan] at hcourse
  exact hcourse.refused rfl hrefused

end SideBySide

/-- Two proofs that declare the same token. -/
theorem runProofs_collision_same :
    (obliging.asPartners fun turn => turn).tool.OwnErrors
      ∧ (∀ units, Discovery.discover
          (sideBySide "PROOF_UID = x" "PROOF_UID = x") hosted.root
            hosted.marker
          hosted.proofs = .ok units →
        ∀ u ∈ units, ∃ token, DeclaresIn
          (sideBySide "PROOF_UID = x" "PROOF_UID = x") u.path token)
      ∧ Reported (sideBySide "PROOF_UID = x" "PROOF_UID = x") "x" ⟨"p/b"⟩
        ⟨"p/a"⟩ := by
  have hdecode : Text.decode? "PROOF_UID = x".toByteArray.toList
      = some "PROOF_UID = x" := by decide +kernel
  have htoken : DeclaresToken "PROOF_UID = x" ['x'] :=
    declaresToken_of_lines (isToken_of_all rfl rfl rfl) (by decide +kernel)
  have hread := readText_sideBySide hdecode hdecode
  have hown : (obliging.asPartners fun turn => turn).tool.OwnErrors :=
    ⟨nofun, nofun⟩
  have hplain : ∀ units, Discovery.discover
      (sideBySide "PROOF_UID = x" "PROOF_UID = x") hosted.root hosted.marker
      hosted.proofs = .ok units →
      ∀ u ∈ units, ∃ token, DeclaresIn
        (sideBySide "PROOF_UID = x" "PROOF_UID = x") u.path token := by
    intro units hunits u hu
    cases hunits.symm.trans (discover_sideBySide hdecode hdecode)
    rcases List.mem_cons.mp hu with rfl | hu
    · exact ⟨_, _, hread.1, htoken⟩
    · cases List.mem_singleton.mp hu
      exact ⟨_, _, hread.2, htoken⟩
  have hrun := runProofs_sideBySide hdecode hdecode htoken.declared
    htoken.declared (fun turn => turn) ⟨(), []⟩
  exact ⟨hown, hplain, (runProofs_collision _ hosted "q" _ ⟨(), []⟩ hown
    hplain).1 _ _ _ hrun⟩

/-- Two proofs that declare tokens which differ after a dash: the report has it
that both declare `x`. -/
theorem not_real_dashed :
    DeclaresIn (sideBySide "PROOF_UID = x-a" "PROOF_UID = x-b") ⟨"p/a"⟩
        ['x', '-', 'a']
      ∧ DeclaresIn (sideBySide "PROOF_UID = x-a" "PROOF_UID = x-b") ⟨"p/b"⟩
        ['x', '-', 'b']
      ∧ (runProofs (sideBySide "PROOF_UID = x-a" "PROOF_UID = x-b") hosted "q"
          (obliging.asPartners fun turn => turn) ⟨(), []⟩).1
        = .error (.duplicateUid "x" ⟨"p/b"⟩ ⟨"p/a"⟩) := by
  have hone : Text.decode? "PROOF_UID = x-a".toByteArray.toList
      = some "PROOF_UID = x-a" := by decide +kernel
  have hother : Text.decode? "PROOF_UID = x-b".toByteArray.toList
      = some "PROOF_UID = x-b" := by decide +kernel
  have htoken : DeclaresToken "PROOF_UID = x-a" ['x', '-', 'a'] :=
    declaresToken_of_lines (isToken_of_all rfl rfl rfl) (by decide +kernel)
  have htoken' : DeclaresToken "PROOF_UID = x-b" ['x', '-', 'b'] :=
    declaresToken_of_lines (isToken_of_all rfl rfl rfl) (by decide +kernel)
  have hread := readText_sideBySide hone hother
  exact ⟨⟨_, hread.1, htoken⟩, ⟨_, hread.2, htoken'⟩,
    runProofs_sideBySide hone hother htoken.declared htoken'.declared _ _⟩

end Run

end ProofBatch

/-
What a pass owes its proofs, whoever steps when.

# Conservation

If the proofs can be configured together (`Registry.Compatible`), the pass
gives its tally, and nothing is lost or made up on the way: every proof is one
call, one answer, and one entry of one list of the tally
(`configureAll_conserves`).

# Stopping

If one claim is refused, the error is the one that claiming in turn gives, the
proofs before the refused one are configured and recorded, and no other is
(`configureAll_stops`). Only one worker can be refused: it cancels the pass in
the step in which it takes the proof, so the proof that it takes is the first
in the list whose claim cannot be granted, however the workers race for it.
-/
import ProofBatch.Proofs.Workers.Pass

namespace ProofBatch.Workers

variable {σ : Type} {setting : Setting σ} {workers : Nat}
  {units claimed : List ProofUnit} {events : Journal} {p : Progress}

-- =================================================== calls of closed books

/-- The calls of closed books, with their flags. -/
theorem Settled.configureCalls
    (h : Settled setting workers units claimed events p) :
    events.configureCalls
      = events.askedDirs.map fun dir => (dir, setting.pools) := by
  rw [Journal.configureCalls, h.calls, List.filterMap_map]
  induction events.askedDirs with
  | nil => rfl
  | cons dir rest ih =>
      rw [List.filterMap_cons, List.map_cons, ih]
      rfl

/-- Each proof that was claimed is one call, with the flag of the pass. -/
theorem Settled.called (h : Settled setting workers units claimed events p) :
    Alike workers (claimed.map fun u => (u.path, setting.pools))
      events.configureCalls := by
  rw [h.configureCalls]
  have hasked := h.asked.map fun dir => (dir, setting.pools)
  rw [List.map_map] at hasked
  exact hasked

-- =========================================================== conservation

/-- A pass that has lost nothing: `events` is all that it wrote, `p` is its
tally. -/
structure Conserved (setting : Setting σ) (workers : Nat)
    (units : List ProofUnit) (events : Journal) (p : Progress) : Prop where
  complete : p.complete = units.length
  total : p.total = units.length
  called : events.configureCalls.Perm
    (units.map fun u => (u.path, setting.pools))
  returned : events.endedDirs.Perm (units.map (·.path))
  genuine : Genuine setting events
  succeeded : p.succeeded.Perm events.succeededDirs
  failed : p.failed.Perm events.failedDirs
  /-- One warning for each configuration that could not start, and no other. -/
  warned : events.ownWarnings
    = events.notStarted.map fun a => complaint a.1 a.2
  /-- One worker keeps the order of the list. -/
  inOrder : workers ≤ 1 →
    events.configureCalls = units.map (fun u => (u.path, setting.pools))
      ∧ events.endedDirs = units.map (·.path)
      ∧ p.succeeded = events.succeededDirs ∧ p.failed = events.failedDirs

/-- Proofs that can be configured together are all configured, each once, and
the tally tells how each of them ended: for every number of workers, every
flag, every behaviour of the configurer and every interleaving. -/
theorem configureAll_conserves (setting : Setting σ) (schedule : Schedule)
    (workers : Nat) {units : List ProofUnit} (w : World σ)
    (h : Registry.Compatible units) :
    ∃ p events, (configureAll setting schedule workers units w).1 = .ok p
      ∧ (configureAll setting schedule workers units w).2.journal
        = w.journal ++ events
      ∧ Conserved setting workers units events p := by
  obtain ⟨r, hr⟩ := Registry.claimAll_ok_of_compatible h
  obtain ⟨p, events, hok, hj, hs⟩ :=
    configureAll_granted setting schedule workers w hr
  refine ⟨p, events, hok, hj, ?_⟩
  constructor
  · exact hs.complete
  · exact hs.total
  · exact hs.called.perm.symm
  · exact hs.returned.perm.symm
  · exact hs.genuine
  · exact hs.succeeded.perm.symm
  · exact hs.failed.perm.symm
  · exact hs.warnings
  · intro hw
    exact ⟨(hs.called.eq_of_single hw).symm,
      (hs.returned.eq_of_single hw).symm,
      (hs.succeeded.eq_of_single hw).symm, (hs.failed.eq_of_single hw).symm⟩

/-- A configurer to whom one directory is a failure and another one is no place
to start in. -/
def moody : Configurer Unit := fun dir _ _ =>
  { outside := ()
    answer :=
      if dir = ⟨"b"⟩ then .ok .failed
      else if dir = ⟨"c"⟩ then .error (.io "no such program")
      else .ok .succeeded }

/-- Four proofs, two of which are one directory under two spellings. -/
def respelled : List ProofUnit :=
  [⟨⟨"a/d"⟩, true, some "x"⟩, ⟨⟨"b"⟩, true, some "y"⟩,
    ⟨⟨"a//d/"⟩, true, some "x"⟩, ⟨⟨"c"⟩, true, some "z"⟩]

/-- Two workers who overtake each other share them. -/
theorem configureAll_conserves_respelled :
    Registry.Compatible respelled
      ∧ ∃ p events,
        (configureAll ⟨moody, true⟩ (fun turn => turn * turn) 2 respelled
          ⟨(), []⟩).1 = .ok p
        ∧ (configureAll ⟨moody, true⟩ (fun turn => turn * turn) 2 respelled
          ⟨(), []⟩).2.journal = [] ++ events
        ∧ Conserved ⟨moody, true⟩ 2 respelled events p := by
  have h : Registry.Compatible respelled := ⟨by decide, by decide⟩
  exact ⟨h, configureAll_conserves _ _ _ _ h⟩

-- =============================================================== stopping

/-- The first claim that is refused when a list is claimed in turn. -/
def RefusedAt (units : List ProofUnit) (i : Nat) (e : RunError) : Prop :=
  ∃ r unit, units[i]? = some unit
    ∧ Registry.empty.claimAll (units.take i) = .ok r
    ∧ r.claim unit = (.error e, r)

/-- A pass that stopped short of proof `i`: `events` is all that it wrote, `p`
is its tally. -/
structure Stopped (setting : Setting σ) (units : List ProofUnit) (i : Nat)
    (events : Journal) (p : Progress) : Prop where
  called : events.configureCalls.Perm
    ((units.take i).map fun u => (u.path, setting.pools))
  returned : events.endedDirs.Perm ((units.take i).map (·.path))
  recorded : (p.succeeded ++ p.failed).Perm ((units.take i).map (·.path))
  complete : p.complete = i
  /-- The last line that is drawn. -/
  lastLine : ∃ earlier, events
    = earlier ++ [.drew ("\r" ++ Progress.lineAt units.length i), .drew "\n"]

/-- If claiming the list in turn is refused, a pass gives that very refusal,
and configures and records exactly the proofs before the refused one: for every
number of workers, every behaviour of the configurer and every interleaving. -/
theorem configureAll_stops (setting : Setting σ) (schedule : Schedule)
    (workers : Nat) {units : List ProofUnit} {e : RunError} (w : World σ)
    (h : Registry.empty.claimAll units = .error e) :
    ∃ i events, RefusedAt units i e
      ∧ (configureAll setting schedule workers units w).1 = .error e
      ∧ (configureAll setting schedule workers units w).2.journal
        = w.journal ++ events
      ∧ Stopped setting units i events
        (pass setting schedule workers units w).progress := by
  obtain ⟨i, r, unit, events, hget, hgranted, hrefused, herror, hj, hs⟩ :=
    configureAll_refused setting schedule workers w h
  have hi : i < units.length := (List.getElem?_eq_some_iff.mp hget).1
  have hclosed : Settled setting workers units (units.take i)
      (events ++ [.drew ("\r" ++ Progress.lineAt units.length i), .drew "\n"])
      _ := hs.append rfl rfl rfl
  refine ⟨i, _, ⟨r, unit, hget, hgranted, hrefused⟩, herror, hj, ?_⟩
  constructor
  · exact hclosed.called.perm.symm
  · exact hclosed.returned.perm.symm
  · exact ((hs.succeeded.perm.append hs.failed.perm).symm.trans
      (dirs_perm events)).trans hs.returned.perm.symm
  · rw [hs.complete, List.length_take]
    omega
  · exact ⟨events, rfl⟩

/-- Four proofs, of which the third has the identifier of the first. -/
def collided : List ProofUnit :=
  [⟨⟨"a"⟩, true, some "x"⟩, ⟨⟨"b"⟩, true, some "y"⟩,
    ⟨⟨"c"⟩, true, some "x"⟩, ⟨⟨"d"⟩, true, none⟩]

/-- Three workers race for them. -/
theorem configureAll_stops_collided :
    Registry.empty.claimAll collided
        = .error (.duplicateUid "x" ⟨"c"⟩ ⟨"a"⟩)
      ∧ ∃ i events, RefusedAt collided i (.duplicateUid "x" ⟨"c"⟩ ⟨"a"⟩)
        ∧ (configureAll ⟨moody, false⟩ (fun turn => turn * turn) 3 collided
          ⟨(), []⟩).1 = .error (.duplicateUid "x" ⟨"c"⟩ ⟨"a"⟩)
        ∧ (configureAll ⟨moody, false⟩ (fun turn => turn * turn) 3 collided
          ⟨(), []⟩).2.journal = [] ++ events
        ∧ Stopped ⟨moody, false⟩ collided i events
          (pass ⟨moody, false⟩ (fun turn => turn * turn) 3 collided
            ⟨(), []⟩).progress :=
  ⟨rfl, configureAll_stops _ _ _ _ rfl⟩

end ProofBatch.Workers

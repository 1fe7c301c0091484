import LlmperfOrchestrator.Campaign.PendingWork

set_option autoImplicit false

namespace LlmperfOrchestrator.Campaign

open Tables Outcomes Runs Storage Plans
open Compiler (Sha256 TaskRecipe)
open Runtime.Recurrence (Zones)

variable {Digest : Type} [DecidableEq Digest]

section Rows

variable (s : Store Digest) (campaign : CampaignId)

def staffed : Bool := s.runners.any fun _ runner => runner.campaign = some campaign

def unsuccessful : Bool := s.runners.any fun _ runner => runner.campaign = some campaign ∧ runner.status ≠ .succeeded

def hasInstance (selected : InstanceState → Bool) : Bool :=
  s.instances.any fun _ task => task.campaign = campaign ∧ selected task.state

def hasFailed : Bool := hasInstance s campaign fun state => state = .failed

def hasCancelled : Bool := hasInstance s campaign fun state => state = .cancelled

def hasOpen : Bool := hasInstance s campaign fun state => ¬ state.terminal

theorem instance_found (selected : InstanceState → Bool) : hasInstance s campaign selected = true ↔
    ∃ id task, s.instances.get id = some task ∧ task.campaign = campaign ∧ selected task.state = true := by
  rw [hasInstance, table_any]
  simp only [Bool.decide_and, Bool.and_eq_true, decide_eq_true_eq]

def Recorded : Prop := ∃ rid runner, s.runners.get rid = some runner ∧ runner.campaign = some campaign ∧ Marked runner

def Excused : Prop :=
  Recorded s campaign ∨ hasFailed s campaign = true ∨ (staffed s campaign = false ∧ hasOpen s campaign = false)

def CancelledExcused : Prop := ∀ campaign, hasCancelled s campaign = true → Excused s campaign

end Rows

theorem staffed_found (s : Store Digest) (campaign : CampaignId) : staffed s campaign = true ↔
    ∃ rid runner, s.runners.get rid = some runner ∧ runner.campaign = some campaign := by
  rw [staffed, table_any]
  simp only [decide_eq_true_eq]

theorem cancel_runner_marks (campaign : CampaignId) (now : Instant) (runner : Runner) (mine : runner.campaign = some campaign)
    (unended : runner.status ≠ .succeeded) : Marked (cancelRunner campaign now runner) := by
  rw [cancelRunner]
  cases state : runner.status with
  | succeeded => exact absurd state unended
  | failed =>
      rw [if_pos (.inr rfl)]
      exact .inl state
  | cancelled =>
      rw [if_pos (.inr rfl)]
      exact .inr (.inl state)
  | queued =>
      rw [if_neg (by simp [mine, RunnerStatus.terminal]), if_pos rfl]
      exact .inr (.inl rfl)
  | running =>
      rw [if_neg (by simp [mine, RunnerStatus.terminal]), if_neg (by simp)]
      exact .inr (.inr ⟨rfl, rfl⟩)

section Persistence

variable (s next : Store Digest) (campaign : CampaignId)

structure Persists : Prop where
  runners : ∀ rid before, s.runners.get rid = some before → ∃ after, next.runners.get rid = some after ∧ RunnerStep before after
  failures : hasFailed s campaign = true → hasFailed next campaign = true
  idle : staffed s campaign = false → hasOpen s campaign = false → Excused next campaign

theorem excused_persists (persists : Persists s next campaign) (excused : Excused s campaign) : Excused next campaign := by
  cases excused with
  | inl recorded =>
      obtain ⟨rid, before, read, mine, marked⟩ := recorded
      obtain ⟨after, found, step⟩ := persists.runners rid before read
      exact .inl ⟨rid, after, found, step.campaign.trans mine, step.marked marked⟩
  | inr rest =>
      cases rest with
      | inl failed => exact .inr (.inl (persists.failures failed))
      | inr idle => exact persists.idle idle.1 idle.2

theorem stays_idle (runners : ∀ rid after, next.runners.get rid = some after → after.campaign = some campaign →
      staffed s campaign = true ∨ hasOpen s campaign = true)
    (instances : ∀ id after, next.instances.get id = some after → after.campaign = campaign → after.state.terminal = false →
      hasOpen s campaign = true) (unmanned : staffed s campaign = false) (closed : hasOpen s campaign = false) :
    Excused next campaign := by
  refine .inr (.inr ⟨?_, ?_⟩)
  · apply Bool.eq_false_iff.mpr
    intro manned
    obtain ⟨rid, after, read, mine⟩ := (staffed_found next campaign).mp manned
    cases runners rid after read mine with
    | inl before => rw [unmanned] at before; cases before
    | inr before => rw [closed] at before; cases before
  · apply Bool.eq_false_iff.mpr
    intro opened
    obtain ⟨id, after, read, mine, live⟩ := (instance_found next campaign _).mp opened
    have before := instances id after read mine (by simpa using live)
    rw [closed] at before
    cases before

end Persistence

section Calls

variable (digest : Json → Digest) (s : Store Digest) (call : Call Digest) (inv : TaskInvariant s)
  (other : ∀ now campaign, call ≠ .requestCancelCampaign now campaign)
include inv other

theorem call_persists (campaign : CampaignId) : Persists s (perform digest s call).1 campaign := by
  have fates := call_fate digest s call inv other
  obtain ⟨stays, _⟩ := call_fates digest s call inv
  refine ⟨fates.runners, ?_, ?_⟩
  · intro failed
    obtain ⟨id, task, read, mine, state⟩ := (instance_found s campaign _).mp failed
    obtain ⟨after, found, same⟩ := stays id task read (by rw [of_decide_eq_true state]; rfl)
    obtain ⟨before, again, kept, _⟩ := fates.instances id after found
    cases Option.some.inj (read.symm.trans again)
    apply (instance_found _ campaign _).mpr
    exact ⟨id, after, found, kept.trans mine, by rw [same]; exact state⟩
  · apply stays_idle s
    · intro rid after read mine
      cases found : s.runners.get rid with
      | none =>
          obtain ⟨_, id, task, owner, live, paid⟩ := fates.fresh rid after read found
          right
          apply (instance_found s campaign _).mpr
          exact ⟨id, task, owner, Option.some.inj (paid.symm.trans mine), by simp [live]⟩
      | some before =>
          obtain ⟨stepped, there, step⟩ := fates.runners rid before found
          cases Option.some.inj (read.symm.trans there)
          exact .inl ((staffed_found s campaign).mpr ⟨rid, before, found, step.campaign.symm.trans mine⟩)
    · intro id after read mine live
      obtain ⟨before, found, kept, _⟩ := fates.instances id after read
      apply (instance_found s campaign _).mpr
      refine ⟨id, before, found, kept.symm.trans mine, ?_⟩
      cases past : before.state.terminal with
      | false => rfl
      | true =>
          obtain ⟨again, there, same⟩ := stays id before found past
          cases Option.some.inj (read.symm.trans there)
          rw [same, past] at live
          cases live

theorem call_excused (excused : CancelledExcused s) : CancelledExcused (perform digest s call).1 := by
  intro campaign cancelled
  have fates := call_fate digest s call inv other
  obtain ⟨id, after, read, mine, state⟩ := (instance_found _ campaign _).mp cancelled
  obtain ⟨before, found, kept, cancels⟩ := fates.instances id after read
  cases cancels (of_decide_eq_true state) with
  | inl already =>
      apply excused_persists s _ campaign (call_persists digest s call inv other campaign)
      apply excused
      exact (instance_found s campaign _).mpr ⟨id, before, found, kept.symm.trans mine, decide_eq_true already⟩
  | inr ended =>
      obtain ⟨rid, runner, there, paid, stopped⟩ := ended
      exact .inl ⟨rid, runner, there, paid.trans (congrArg some mine), .inr (.inl stopped)⟩

end Calls

section Cancellation

variable (s : Store Digest) (now : Instant) (campaign : CampaignId)

theorem cancel_persists (other : CampaignId) : Persists s (requestCancelCampaign s now campaign) other := by
  refine ⟨?_, ?_, ?_⟩
  · intro rid before read
    rw [requestCancelCampaign]
    split
    · exact ⟨before, read, runner_step_refl before⟩
    · refine ⟨cancelRunner campaign now before, ?_, cancel_runner_step campaign now before⟩
      change (s.runners.update _).get rid = _
      rw [table_get_update, read]
      rfl
  · intro failed
    obtain ⟨id, task, read, mine, state⟩ := (instance_found s other _).mp failed
    apply (instance_found _ other _).mpr
    refine ⟨id, task, ?_, mine, state⟩
    rw [requestCancelCampaign]
    split
    · exact read
    · change (s.instances.update _).get id = _
      rw [table_get_update, read, Option.map_some, cancelInstance, if_pos (.inr (by rw [of_decide_eq_true state]; rfl))]
  · apply stays_idle s
    · intro rid after read mine
      obtain ⟨before, found, step⟩ := cancelled_runners s now campaign rid after read
      exact .inl ((staffed_found s other).mpr ⟨rid, before, found, step.campaign.symm.trans mine⟩)
    · intro id after read mine live
      obtain ⟨before, found, kept, change_⟩ := cancelled_instances s now campaign id after read
      apply (instance_found s other _).mpr
      refine ⟨id, before, found, kept.symm.trans mine, ?_⟩
      cases change_ with
      | inl same => simpa [same] using live
      | inr ended => simp [ended.2.1]

theorem cancel_excused (excused : CancelledExcused s) (known : hasOpen s campaign = true → campaign ∈ s.campaigns)
    (allowed : hasOpen s campaign = true → staffed s campaign = true →
      unsuccessful s campaign = true ∨ hasFailed s campaign = true) :
    CancelledExcused (requestCancelCampaign s now campaign) := by
  intro other cancelled
  have persists := cancel_persists s now campaign other
  obtain ⟨id, after, read, mine, state⟩ := (instance_found _ other _).mp cancelled
  obtain ⟨before, found, kept, change_⟩ := cancelled_instances s now campaign id after read
  cases change_ with
  | inl same =>
      subst same
      apply excused_persists s _ other persists
      apply excused
      exact (instance_found s other _).mpr ⟨id, after, found, mine, state⟩
  | inr ended =>
      obtain ⟨here, live, _⟩ := ended
      have same : other = campaign := mine.symm.trans (kept.trans here)
      subst same
      have opened : hasOpen s other = true := (instance_found s other _).mpr ⟨id, before, found, here, by simp [live]⟩
      cases manned : staffed s other with
      | true =>
          cases allowed opened manned with
          | inr failed => exact .inr (.inl (persists.failures failed))
          | inl left =>
              left
              obtain ⟨rid, runner, there, both⟩ := (table_any _ _).mp left
              obtain ⟨paid, unended⟩ := of_decide_eq_true both
              refine ⟨rid, cancelRunner other now runner, ?_, (cancel_runner_step other now runner).campaign.trans paid, ?_⟩
              · rw [requestCancelCampaign, if_neg (not_not.mpr (known opened))]
                change (s.runners.update _).get rid = _
                rw [table_get_update, there]
                rfl
              · exact cancel_runner_marks other now runner paid unended
      | false =>
          refine .inr (.inr ⟨?_, ?_⟩)
          · apply Bool.eq_false_iff.mpr
            intro after_
            obtain ⟨rid, runner, there, paid⟩ := (staffed_found _ other).mp after_
            obtain ⟨old, old_, step⟩ := cancelled_runners s now other rid runner there
            have before := (staffed_found s other).mpr ⟨rid, old, old_, step.campaign.symm.trans paid⟩
            rw [manned] at before
            cases before
          · apply Bool.eq_false_iff.mpr
            intro after_
            obtain ⟨iid, task, there, owns, running⟩ := (instance_found _ other _).mp after_
            rw [requestCancelCampaign, if_neg (not_not.mpr (known opened))] at there
            change (s.instances.update _).get iid = some task at there
            rw [table_get_update, Option.map_eq_some_iff] at there
            obtain ⟨old, _, same⟩ := there
            rw [cancelInstance] at same
            split at same
            · rename_i idle
              subst same
              cases idle with
              | inl elsewhere => exact elsewhere owns
              | inr past => simp [past] at running
            · subst same
              cases running

end Cancellation

section Additions

variable (s next : Store Digest)

theorem runners_excused (owner : Option CampaignId) (runners : List PlainRunner) (sound : Sound s)
    (done : runners.foldlM (insertRunner owner) s = .ok next) (excused : CancelledExcused s)
    (allowed : ∀ campaign ∈ owner, runners ≠ [] → hasCancelled s campaign = true →
      staffed s campaign = true ∨ hasFailed s campaign = true) : CancelledExcused next := by
  obtain ⟨_, instances, _, _, kept, fresh⟩ := runners_inserted owner runners s next sound done
  intro campaign cancelled
  have before : hasCancelled s campaign = true := by
    rw [hasCancelled, hasInstance, ← instances]
    exact cancelled
  have failures : hasFailed s campaign = true → hasFailed next campaign = true := by
    intro failed
    rw [hasFailed, hasInstance, instances]
    exact failed
  by_cases mine : campaign ∈ owner ∧ runners ≠ []
  · cases allowed campaign mine.1 mine.2 before with
    | inr failed => exact .inr (.inl (failures failed))
    | inl manned =>
        apply excused_persists s next campaign _ (excused campaign before)
        refine ⟨fun rid runner read => ⟨runner, kept rid runner read, runner_step_refl runner⟩, failures, ?_⟩
        intro unmanned
        rw [manned] at unmanned
        cases unmanned
  · apply excused_persists s next campaign _ (excused campaign before)
    refine ⟨fun rid runner read => ⟨runner, kept rid runner read, runner_step_refl runner⟩, failures, ?_⟩
    apply stays_idle s
    · intro rid after read paid
      cases fresh rid after read with
      | inl older => exact .inl ((staffed_found s campaign).mpr ⟨rid, after, older, paid⟩)
      | inr new => exact absurd ⟨new.2.1.symm.trans paid, new.1⟩ mine
    · intro id after read owns live
      rw [instances] at read
      exact (instance_found s campaign _).mpr ⟨id, after, read, owns, by simp [live]⟩

theorem adds_excused (fresh : CampaignId) (adds : Adds fresh s next)
    (unknown : ∀ id task, s.instances.get id = some task → task.campaign ≠ fresh) (excused : CancelledExcused s) :
    CancelledExcused next := by
  intro campaign cancelled
  obtain ⟨id, task, read, mine, state⟩ := (instance_found next campaign _).mp cancelled
  cases adds.newInstances id task read with
  | inr new =>
      rw [new.2] at state
      cases of_decide_eq_true state
  | inl older =>
      have other : campaign ≠ fresh := mine ▸ unknown id task older
      apply excused_persists s next campaign
      · refine ⟨fun rid runner held => ⟨runner, adds.runners rid runner held, runner_step_refl runner⟩, ?_, ?_⟩
        · intro failed
          obtain ⟨query, found, held, owns, broken⟩ := (instance_found s campaign _).mp failed
          exact (instance_found next campaign _).mpr ⟨query, found, adds.instances query found held, owns, broken⟩
        · apply stays_idle s
          · intro rid after held paid
            cases adds.newRunners rid after held with
            | inl before => exact .inl ((staffed_found s campaign).mpr ⟨rid, after, before, paid⟩)
            | inr new => exact absurd (Option.some.inj (paid.symm.trans new.1)) other
          · intro query after held owns live
            cases adds.newInstances query after held with
            | inl before => exact (instance_found s campaign _).mpr ⟨query, after, before, owns, by simp [live]⟩
            | inr new => exact absurd (owns.symm.trans new.1) other
      · apply excused
        exact (instance_found s campaign _).mpr ⟨id, task, older, mine, state⟩

end Additions

end LlmperfOrchestrator.Campaign

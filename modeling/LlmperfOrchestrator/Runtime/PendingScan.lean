import LlmperfOrchestrator.Library.Cascade
import LlmperfOrchestrator.Runtime.Submissions

set_option autoImplicit false

namespace LlmperfOrchestrator.Runtime.Progression

open Tables Storage Cascade Runs

variable (settings : Settings)

theorem eligibility_blocked (step : RequestStep) (now : Instant) (results : Dict String WorkerResult)
    (blocked : (eligibility settings step now results).blocked = true) :
    ∃ parent ∈ step.dependencies, ∃ result, Dict.get parent results = some result ∧ result.succeeded = false := by
  unfold eligibility at blocked
  split at blocked
  · cases blocked
  · dsimp only at blocked
    split at blocked
    · cases blocked
    · obtain ⟨parent, needed, completion, found, lost⟩ := dependency_trigger_blocked _ _ _ _ _ blocked
      rw [completions_get, Option.map_eq_some_iff] at found
      obtain ⟨result, held, rfl⟩ := found
      exact ⟨parent, needed, result, held, lost⟩

theorem eligibility_timed (step : RequestStep) (now : Instant) (results : Dict String WorkerResult)
    (unblocked : (eligibility settings step now results).blocked = false)
    (complete : ∀ parent ∈ step.dependencies, Dict.get parent results ≠ none) :
    (eligibility settings step now results).dueAt ≠ none := by
  unfold eligibility at unblocked ⊢
  split at unblocked
  · rename_i none
    rw [if_pos none]
    simp [dateTrigger]
  · rename_i some_
    rw [if_neg some_]
    dsimp only at unblocked ⊢
    split at unblocked
    · simp [dateTrigger]
    · apply dependency_trigger_timed _ _ _ _ _ unblocked
      intro parent needed
      rw [completions_get]
      simpa using complete parent needed

theorem failed_dependency (loop : Loop) (step : RequestStep) :
    failedDependencies loop step ≠ [] ↔ ∃ parent ∈ step.dependencies, Dict.get parent loop.cancelledSteps ≠ none ∨
      ∃ result, Dict.get parent loop.results = some result ∧ result.succeeded = false := by
  constructor
  · intro failed
    obtain ⟨parent, listed⟩ := List.exists_mem_of_ne_nil _ failed
    obtain ⟨needed, cause⟩ := List.mem_filter.mp listed
    refine ⟨parent, needed, ?_⟩
    cases of_decide_eq_true cause with
    | inl cancelled => exact .inl (Option.isSome_iff_ne_none.mp cancelled)
    | inr lost =>
        obtain ⟨result, found, outcome⟩ := (Option.any_eq_true _ _).mp lost
        exact .inr ⟨result, found, by simpa using outcome⟩
  · intro ⟨parent, needed, cause⟩
    apply List.ne_nil_of_mem (a := parent)
    apply List.mem_filter.mpr
    refine ⟨needed, decide_eq_true ?_⟩
    cases cause with
    | inl cancelled => exact .inl (Option.isSome_iff_ne_none.mpr cancelled)
    | inr lost =>
        obtain ⟨result, found, outcome⟩ := lost
        exact .inr (by simp [found, outcome])

theorem failed_keeps (before after : Loop) (keeps : Keeps before after) (step : RequestStep)
    (failed : failedDependencies before step ≠ []) : failedDependencies after step ≠ [] := by
  obtain ⟨parent, needed, cause⟩ := (failed_dependency before step).mp failed
  apply (failed_dependency after step).mpr
  refine ⟨parent, needed, ?_⟩
  cases cause with
  | inl cancelled => exact .inl (keeps.cancelled parent cancelled)
  | inr lost =>
      obtain ⟨result, found, outcome⟩ := lost
      exact .inr ⟨result, keeps.results parent result found, outcome⟩

structure Sorted (settings : Settings) (submitted : List String) (loop : Loop) : Prop where
  ordered : List.Sublist loop.pending (Loop.initial settings).pending
  covered : ∀ step ∈ settings.steps, Dict.get step.stepId loop.pending ≠ none ∨ step.stepId ∈ submitted ∨
    Dict.get step.stepId loop.cancelledSteps ≠ none
  admitted : ∀ id ∈ submitted, ∃ step ∈ settings.steps, step.stepId = id ∧ ∀ parent ∈ step.dependencies,
    ∃ result, Dict.get parent loop.results = some result ∧ result.succeeded = true
  dropped : ∀ id, Dict.get id loop.cancelledSteps ≠ none → id ∉ submitted ∧
    ∃ step ∈ settings.steps, step.stepId = id ∧ failedDependencies loop step ≠ []

variable (submitted : List String)

theorem sorted_keeps (before after : Loop) (sorted : Sorted settings submitted before) (keeps : Keeps before after)
    (pending : after.pending = before.pending) (cancelled : after.cancelledSteps = before.cancelledSteps) :
    Sorted settings submitted after := by
  refine ⟨pending ▸ sorted.ordered, fun step member => ?_, fun id sent => ?_, fun id gone => ?_⟩
  · rw [pending, cancelled]
    exact sorted.covered step member
  · obtain ⟨step, member, named, won⟩ := sorted.admitted id sent
    refine ⟨step, member, named, fun parent needed => ?_⟩
    obtain ⟨result, found, outcome⟩ := won parent needed
    exact ⟨result, keeps.results parent result found, outcome⟩
  · rw [cancelled] at gone
    obtain ⟨unsent, step, member, named, failed⟩ := sorted.dropped id gone
    exact ⟨unsent, step, member, named, failed_keeps before after keeps step failed⟩

theorem pop_ordered (loop : Loop) (id : String) (ordered : List.Sublist loop.pending (Loop.initial settings).pending) :
    List.Sublist (Dict.pop id loop.pending) (Loop.initial settings).pending :=
  List.filter_sublist.trans ordered

theorem pending_unsent (loop : Loop) (step : RequestStep) (inv : LoopInvariant settings submitted loop)
    (waiting : Dict.get step.stepId loop.pending = some step) :
    step ∈ settings.steps ∧ step.stepId ∉ submitted ∧ Dict.get step.stepId loop.cancelledSteps = none := by
  obtain ⟨member, _, unsent, open_⟩ := inv.pending step.stepId step waiting
  exact ⟨member, unsent, open_⟩

theorem cancel_step_sorted (scan : Scan) (step : RequestStep) (failed : List String)
    (inv : LoopInvariant settings submitted scan.loop) (sorted : Sorted settings submitted scan.loop)
    (waiting : Dict.get step.stepId scan.loop.pending = some step) (cause : failedDependencies scan.loop step ≠ []) :
    Sorted settings submitted (cancelStep scan step failed).loop := by
  obtain ⟨member, unsent, _⟩ := pending_unsent settings submitted scan.loop step inv waiting
  have keeps : Keeps scan.loop (cancelStep scan step failed).loop := by
    refine ⟨fun _ _ found => found, fun id held => ?_⟩
    simp only [cancelStep, dict_get_put]
    split
    · simp
    · exact held
  refine ⟨pop_ordered settings scan.loop _ sorted.ordered, fun other listed => ?_, sorted.admitted, fun id gone => ?_⟩
  · by_cases here : other.stepId = step.stepId
    · exact .inr (.inr (by simp [cancelStep, dict_get_put, here]))
    · simp only [cancelStep, dict_get_pop, dict_get_put, if_neg here]
      exact sorted.covered other listed
  · by_cases here : id = step.stepId
    · exact ⟨here ▸ unsent, step, member, here.symm, failed_keeps _ _ keeps step cause⟩
    · simp only [cancelStep, dict_get_put, if_neg here] at gone
      obtain ⟨unsent, other, listed, named, earlier⟩ := sorted.dropped id gone
      exact ⟨unsent, other, listed, named, failed_keeps _ _ keeps other earlier⟩

theorem submit_step_sorted (scan : Scan) (step : RequestStep) (inv : LoopInvariant settings submitted scan.loop)
    (sorted : Sorted settings submitted scan.loop) (waiting : Dict.get step.stepId scan.loop.pending = some step)
    (won : ∀ parent ∈ step.dependencies, ∃ result, Dict.get parent scan.loop.results = some result ∧ result.succeeded = true) :
    Sorted settings (step.stepId :: submitted) (submitStep scan step).loop := by
  obtain ⟨member, _, open_⟩ := pending_unsent settings submitted scan.loop step inv waiting
  refine ⟨pop_ordered settings scan.loop _ sorted.ordered, fun other listed => ?_, fun id sent => ?_, fun id gone => ?_⟩
  · by_cases here : other.stepId = step.stepId
    · exact .inr (.inl (here ▸ List.mem_cons_self))
    · simp only [submitStep, dict_get_pop, if_neg here]
      exact (sorted.covered other listed).imp_right (Or.imp_left (List.mem_cons_of_mem _))
  · cases sent with
    | head => exact ⟨step, member, rfl, won⟩
    | tail _ old => exact sorted.admitted id old
  · obtain ⟨unsent, cause⟩ := sorted.dropped id gone
    refine ⟨fun sent => ?_, cause⟩
    cases sent with
    | head => exact gone open_
    | tail _ old => exact unsent old

inductive Visited (settings : Settings) (beforeDeadline : Bool) (scan : Scan) (step : RequestStep) : Scan → Prop where
  | dropped (failed : failedDependencies scan.loop step ≠ []) :
      Visited settings beforeDeadline scan step (cancelStep scan step (failedDependencies scan.loop step))
  | waits (unfailed : failedDependencies scan.loop step = []) (parent : String) (needed : parent ∈ step.dependencies)
      (unanswered : Dict.get parent scan.loop.results = none) : Visited settings beforeDeadline scan step scan
  | held (full : ¬ (scan.loop.submission = none ∧ capacity settings scan.loop = true ∧ beforeDeadline = true)) :
      Visited settings beforeDeadline scan step scan
  | sent (won : ∀ parent ∈ step.dependencies, ∃ result, Dict.get parent scan.loop.results = some result ∧ result.succeeded = true)
      (free : scan.loop.submission = none) : Visited settings beforeDeadline scan step (submitStep scan step)
  | timed (due : Instant) : Visited settings beforeDeadline scan step { scan with nextDue := some due }

variable (now : Instant) (beforeDeadline : Bool)

theorem visit_cases (scan : Scan) (step : RequestStep) :
    Visited settings beforeDeadline scan step (visit settings now beforeDeadline scan step) := by
  unfold visit
  dsimp only
  by_cases failed : failedDependencies scan.loop step ≠ []
  · rw [if_pos failed]
    exact .dropped failed
  · have unfailed := not_not.mp failed
    rw [if_neg failed]
    by_cases open_ : step.dependencies.any (fun parent => (Dict.get parent scan.loop.results).isNone) = true
    · rw [if_pos open_]
      obtain ⟨parent, needed, missing⟩ := List.any_eq_true.mp open_
      exact .waits unfailed parent needed (Option.isNone_iff_eq_none.mp missing)
    · rw [if_neg open_]
      have answered : ∀ parent ∈ step.dependencies, Dict.get parent scan.loop.results ≠ none := by
        intro parent needed missing
        exact open_ (List.any_eq_true.mpr ⟨parent, needed, Option.isNone_iff_eq_none.mpr missing⟩)
      have won : ∀ parent ∈ step.dependencies,
          ∃ result, Dict.get parent scan.loop.results = some result ∧ result.succeeded = true := by
        intro parent needed
        obtain ⟨result, found⟩ := Option.ne_none_iff_exists'.mp (answered parent needed)
        refine ⟨result, found, ?_⟩
        cases outcome : result.succeeded with
        | true => rfl
        | false =>
            have lost := (failed_dependency scan.loop step).mpr ⟨parent, needed, .inr ⟨result, found, outcome⟩⟩
            exact absurd unfailed lost
      by_cases blocked : (eligibility settings step now scan.loop.results).blocked = true
      · obtain ⟨parent, needed, result, found, lost⟩ := eligibility_blocked settings step now scan.loop.results blocked
        obtain ⟨other, same, outcome⟩ := won parent needed
        cases found.symm.trans same
        rw [lost] at outcome
        cases outcome
      · rw [if_neg blocked]
        split
        · split
          · rename_i allowed
            exact .sent won allowed.1
          · rename_i full
            exact .held full
        · have timed := eligibility_timed settings step now scan.loop.results (by simpa using blocked) answered
          obtain ⟨due, named⟩ := Option.ne_none_iff_exists'.mp timed
          rw [named]
          exact .timed _

theorem visit_sorted (submitted : List String) (start : Loop) (scan : Scan) (step : RequestStep)
    (inv : ScanInvariant settings now submitted start scan) (sorted : Sorted settings (sentIds scan ++ submitted) scan.loop)
    (waiting : Dict.get step.stepId scan.loop.pending = some step) :
    Sorted settings (sentIds (visit settings now beforeDeadline scan step) ++ submitted)
      (visit settings now beforeDeadline scan step).loop := by
  have outcome := visit_cases settings now beforeDeadline scan step
  generalize visit settings now beforeDeadline scan step = next at outcome ⊢
  cases outcome with
  | dropped failed => exact cancel_step_sorted settings _ scan step _ inv.loop sorted waiting failed
  | waits => exact sorted
  | held => exact sorted
  | sent won free =>
      have ids : sentIds (submitStep scan step) ++ submitted = step.stepId :: (sentIds scan ++ submitted) := by
        simp [sentIds, submitStep]
      rw [ids]
      exact submit_step_sorted settings _ scan step inv.loop sorted waiting won
  | timed due => exact sorted

theorem scan_pending_sorted (submitted : List String) (start : Loop) (items : List (String × RequestStep)) (scan : Scan)
    (inv : ScanInvariant settings now submitted start scan) (sorted : Sorted settings (sentIds scan ++ submitted) scan.loop)
    (unique : (Dict.keys items).Nodup) (waiting : ∀ item ∈ items, Dict.get item.1 scan.loop.pending = some item.2) :
    Sorted settings (sentIds (scanPending settings now beforeDeadline items scan) ++ submitted)
      (scanPending settings now beforeDeadline items scan).loop := by
  induction items generalizing scan with
  | nil => exact sorted
  | cons item rest ih =>
      obtain ⟨id, step⟩ := item
      simp only [Dict.keys, List.map_cons, List.nodup_cons] at unique
      have here : Dict.get id scan.loop.pending = some step := waiting (id, step) List.mem_cons_self
      obtain rfl : step.stepId = id := (inv.loop.pending id step here).2.1
      unfold scanPending
      split
      · exact sorted
      · exact sorted
      · rename_i passed
        apply ih _ (visit_keeps settings now beforeDeadline submitted start scan step inv here passed)
          (visit_sorted settings now beforeDeadline submitted start scan step inv sorted here) unique.2
        intro other member
        have different : other.1 ≠ step.stepId := fun same => unique.1 (List.mem_map.mpr ⟨other, member, same⟩)
        rw [visit_others settings now beforeDeadline scan step other.1 different]
        exact waiting other (List.mem_cons_of_mem _ member)

structure Quiet (scan : Scan) : Prop where
  outstanding : scan.loop.outstanding = []
  submission : scan.loop.submission = none
  nextDue : scan.nextDue = none

structure Frame (touched : String → Prop) (before after : Scan) : Prop where
  quiet : Quiet after → Quiet before
  results : after.loop.results = before.loop.results
  pending : ∀ item ∈ after.loop.pending, item ∈ before.loop.pending
  cancelled : ∀ id, ¬ touched id → Dict.get id after.loop.cancelledSteps = Dict.get id before.loop.cancelledSteps

theorem visit_frame (scan : Scan) (step : RequestStep) :
    Frame (fun id => id = step.stepId) scan (visit settings now beforeDeadline scan step) := by
  have shrinks : ∀ item ∈ Dict.pop step.stepId scan.loop.pending, item ∈ scan.loop.pending :=
    fun item held => (List.mem_filter.mp held).1
  have outcome := visit_cases settings now beforeDeadline scan step
  generalize visit settings now beforeDeadline scan step = next at outcome ⊢
  cases outcome with
  | dropped failed =>
      refine ⟨fun quiet => ⟨quiet.outstanding, quiet.submission, quiet.nextDue⟩, rfl, shrinks, fun id other => ?_⟩
      simp only [cancelStep, dict_get_put, if_neg other]
  | waits => exact ⟨id, rfl, fun _ => id, fun _ _ => rfl⟩
  | held => exact ⟨id, rfl, fun _ => id, fun _ _ => rfl⟩
  | sent won free =>
      refine ⟨fun quiet => ?_, rfl, shrinks, fun _ _ => rfl⟩
      cases quiet.outstanding
  | timed due =>
      refine ⟨fun quiet => ?_, rfl, fun _ => id, fun _ _ => rfl⟩
      cases quiet.nextDue

theorem scan_pending_frame (items : List (String × RequestStep)) (scan : Scan) :
    Frame (fun id => id ∈ items.map fun item => item.2.stepId) scan
      (scanPending settings now beforeDeadline items scan) := by
  induction items generalizing scan with
  | nil => exact ⟨id, rfl, fun _ => id, fun _ _ => rfl⟩
  | cons item rest ih =>
      obtain ⟨key, step⟩ := item
      unfold scanPending
      split
      · exact ⟨id, rfl, fun _ => id, fun _ _ => rfl⟩
      · refine ⟨fun quiet => ?_, rfl, fun _ => id, fun _ _ => rfl⟩
        cases quiet.nextDue
      · have first := visit_frame settings now beforeDeadline scan step
        have later := ih (visit settings now beforeDeadline scan step)
        refine ⟨fun quiet => first.quiet (later.quiet quiet), later.results.trans first.results,
          fun item held => first.pending item (later.pending item held), fun id untouched => ?_⟩
        simp only [List.map_cons, List.mem_cons, not_or] at untouched
        rw [later.cancelled id untouched.2, first.cancelled id untouched.1]

theorem gate_free (loop : Loop) (answered : loop.outstanding = []) (free : loop.submission = none) :
    gate settings now loop ≠ .busy := by
  have idle : ¬ (loop.outstanding ≠ [] ∨ loop.submission ≠ none) := fun busy => busy.elim (absurd answered) (absurd free)
  unfold gate
  rw [if_neg idle]
  split
  · simp
  · split
    · simp
    · split <;> simp

def Waits (loop : Loop) (step : RequestStep) : Prop :=
  ∃ parent ∈ step.dependencies, Dict.get parent loop.results = none ∧ Dict.get parent loop.cancelledSteps = none

theorem scan_pending_waits (items : List (String × RequestStep)) (scan : Scan) (windows : ∀ window ∈ settings.window, 0 < window)
    (named : ∀ item ∈ items, item.2.stepId = item.1)
    (ordered : items.Pairwise fun early late => late.2.stepId ∉ early.2.dependencies)
    (quiet : Quiet (scanPending settings now true items scan)) :
    ∀ item ∈ items, item ∈ (scanPending settings now true items scan).loop.pending →
      Waits (scanPending settings now true items scan).loop item.2 := by
  induction items generalizing scan with
  | nil =>
      intro item member
      cases member
  | cons item rest ih =>
      obtain ⟨key, step⟩ := item
      obtain ⟨apart, later⟩ := List.pairwise_cons.mp ordered
      have calm := (scan_pending_frame settings now true ((key, step) :: rest) scan).quiet quiet
      have passed : gate settings now scan.loop = .passed := by
        cases passage : gate settings now scan.loop with
        | passed => rfl
        | busy =>
            exact absurd passage (gate_free settings now scan.loop calm.outstanding calm.submission)
        | cooling due =>
            rw [scanPending, passage] at quiet
            cases quiet.nextDue
      rw [scanPending, passed] at quiet ⊢
      dsimp only at quiet ⊢
      have frame := scan_pending_frame settings now true rest (visit settings now true scan step)
      have quietNext := frame.quiet quiet
      intro item member waiting
      cases member with
      | tail _ inRest =>
          have namedLater : ∀ item ∈ rest, item.2.stepId = item.1 := fun item listed => named item (List.mem_cons_of_mem _ listed)
          exact ih (visit settings now true scan step) namedLater later quiet item inRest waiting
      | head =>
          have here := frame.pending (key, step) waiting
          have outcome := visit_cases settings now true scan step
          generalize visit settings now true scan step = next at outcome frame quietNext here ⊢
          cases outcome with
          | dropped failed =>
              have kept : key ≠ step.stepId := of_decide_eq_true (List.mem_filter.mp here).2
              exact absurd (named (key, step) List.mem_cons_self).symm kept
          | waits unfailed parent needed unanswered =>
              refine ⟨parent, needed, frame.results ▸ unanswered, ?_⟩
              have untouched : parent ∉ rest.map fun item => item.2.stepId := by
                intro touched
                obtain ⟨other, listed, named⟩ := List.mem_map.mp touched
                exact apart other listed (named ▸ needed)
              rw [frame.cancelled parent untouched]
              by_contra gone
              exact (failed_dependency scan.loop step).mpr ⟨parent, needed, .inl gone⟩ unfailed
          | held full =>
              refine absurd ⟨quietNext.submission, decide_eq_true fun window bound => ?_, rfl⟩ full
              rw [quietNext.outstanding]
              exact windows window bound
          | sent won free => cases quietNext.outstanding
          | timed due => cases quietNext.nextDue

theorem waiting_none (loop : Loop) (inv : LoopInvariant settings submitted loop) (sorted : Sorted settings submitted loop)
    (ordered : Topological RequestStep.stepId RequestStep.dependencies settings.steps [])
    (unique : (settings.steps.map RequestStep.stepId).Nodup) (answered : loop.outstanding = [])
    (waits : ∀ item ∈ loop.pending, Waits loop item.2) : loop.pending = [] := by
  cases pending : loop.pending with
  | nil => rfl
  | cons first rest =>
      have inPending : first ∈ loop.pending := pending ▸ List.mem_cons_self
      obtain ⟨parent, needed, unanswered, uncancelled⟩ := waits first inPending
      obtain ⟨declared, _⟩ := inv.pending first.1 first.2 (pending_entry _ inv.pendingKeys first inPending)
      obtain ⟨loops, apart⟩ := topological_pairwise _ _ settings.steps [] ordered unique fun _ _ bad => by cases bad
      have listed : parent ∈ settings.steps.map RequestStep.stepId :=
        (topological_closed _ _ settings.steps [] ordered first.2 declared parent needed).resolve_left fun bad => by cases bad
      obtain ⟨step, member, rfl⟩ := List.mem_map.mp listed
      have unsent : step.stepId ∉ submitted := by
        intro sent
        cases inv.accounted step.stepId sent with
        | inl open_ =>
            rw [answered] at open_
            cases open_
        | inr held => exact held unanswered
      have still : Dict.get step.stepId loop.pending ≠ none := by
        cases sorted.covered step member with
        | inl pending => exact pending
        | inr other =>
            cases other with
            | inl sent => exact absurd sent unsent
            | inr gone => exact absurd uncancelled gone
      obtain ⟨other, found⟩ := Option.ne_none_iff_exists'.mp still
      obtain ⟨_, named, _⟩ := inv.pending step.stepId other found
      have entry := dict_get_mem _ _ _ found
      have pairs : (first :: rest).Pairwise fun early late => late.2.stepId ∉ early.2.dependencies := by
        rw [← pending]
        exact (List.pairwise_map.mpr apart).sublist sorted.ordered
      rw [pending] at entry
      cases List.mem_cons.mp entry with
      | inl same =>
          have itself : first.2.stepId = step.stepId := by rw [← same]; exact named
          exact absurd (itself ▸ needed) (loops first.2 declared)
      | inr later => exact absurd needed (named ▸ (List.pairwise_cons.mp pairs).1 _ later)

end LlmperfOrchestrator.Runtime.Progression

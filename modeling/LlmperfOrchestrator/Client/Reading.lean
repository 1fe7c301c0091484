import LlmperfOrchestrator.Client.Stream

set_option autoImplicit false

namespace LlmperfOrchestrator.Client

open Tables Storage

def isDone (builtins : Builtins) (line : Bytes) : Bool :=
  match decodeSseLine builtins line with
  | .ok .done => true
  | _ => false

-- The lines before the end of the stream or [DONE].
def processed (builtins : Builtins) (lines : List Bytes) : List Bytes := lines.takeWhile fun line => ¬ isDone builtins line

def deltaText (builtins : Builtins) (line : Bytes) : String :=
  match decodeSseLine builtins line with
  | .ok (.text text _) => text
  | _ => ""

def concatenated (builtins : Builtins) : List Bytes → String
  | [] => ""
  | line :: rest => deltaText builtins line ++ concatenated builtins rest

structure Clean (builtins : Builtins) (line : Bytes) : Prop where
  harmless : ¬ CarriesError builtins line
  decoded : ∃ event, decodeSseLine builtins line = .ok event

theorem clean_decoded (builtins : Builtins) (line : Bytes) (event : StreamEvent) (decoded : decodeSseLine builtins line = .ok event) :
    Clean builtins line := by
  refine ⟨fun carried => ?_, event, decoded⟩
  obtain ⟨failure, failed⟩ := carried_error builtins line carried
  rw [decoded] at failed
  cases failed

def Passes (builtins : Builtins) (arrival : Arrival) : Prop :=
  arrival.expired = false ∧ ∃ event, decodeSseLine builtins arrival.line = .ok event ∧ event ≠ .done

-- The loop is left by [DONE] or by the end of the stream.
def Ends (builtins : Builtins) (failure : Option String) : List Arrival → Prop
  | [] => failure = none
  | arrival :: rest => arrival.expired = false ∧ Clean builtins arrival.line ∧
      (isDone builtins arrival.line = true ∨ Ends builtins failure rest)

def BreaksWith (builtins : Builtins) (arrivals : List Arrival) (code : Json) : Prop :=
  ∃ before arrival after, arrivals = before ++ arrival :: after ∧ (∀ earlier ∈ before, Passes builtins earlier) ∧
    arrival.expired = false ∧ CarriesCode builtins arrival.line code

theorem breaks_head (builtins : Builtins) (arrival : Arrival) (rest : List Arrival) (code : Json) :
    BreaksWith builtins (arrival :: rest) code ↔
      (arrival.expired = false ∧ CarriesCode builtins arrival.line code) ∨
        (Passes builtins arrival ∧ BreaksWith builtins rest code) := by
  constructor
  · intro ⟨before, stop, after, split, passed, live, carried⟩
    cases before with
    | nil =>
        cases split
        exact .inl ⟨live, carried⟩
    | cons first before =>
        cases split
        exact .inr ⟨passed _ List.mem_cons_self, before, stop, after, rfl,
          fun earlier member => passed earlier (List.mem_cons_of_mem _ member), live, carried⟩
  · intro found
    cases found with
    | inl here => exact ⟨[], arrival, rest, rfl, (fun _ bad => by cases bad), here.1, here.2⟩
    | inr later =>
        obtain ⟨passes, before, stop, after, rfl, passed, live, carried⟩ := later
        refine ⟨arrival :: before, stop, after, rfl, fun earlier member => ?_, live, carried⟩
        cases List.mem_cons.mp member with
        | inl same => exact same ▸ passes
        | inr old => exact passed earlier old

section Loop

variable (builtins : Builtins) (config : RequestConfig) (exchange : Exchange) (failure : Option String)
variable (arrival : Arrival)

theorem record_line_kept (progress : Progress) :
    (recordLine arrival progress).generatedText = progress.generatedText ∧
      (recordLine arrival progress).errorResponseCode = progress.errorResponseCode := by
  unfold recordLine
  split <;> exact ⟨rfl, rfl⟩

theorem record_text_kept (text : String) (progress : Progress) :
    (recordText exchange arrival text progress).generatedText = progress.generatedText ++ text ∧
      (recordText exchange arrival text progress).errorResponseCode = progress.errorResponseCode := by
  unfold recordText
  cases progress.lastTextTime <;> exact ⟨rfl, rfl⟩

structure Read (arrivals : List Arrival) (before : Progress) (outcome : Progress × Option Failure) : Prop where
  code : outcome.1.errorResponseCode = before.errorResponseCode
  ended : outcome.2 = none ↔ Ends builtins failure arrivals
  clean : outcome.2 = none → ∀ line ∈ processed builtins (arrivals.map Arrival.line), Clean builtins line
  text : outcome.2 = none → outcome.1.generatedText =
    before.generatedText ++ concatenated builtins (processed builtins (arrivals.map Arrival.line))
  broken : ∀ code, code ≠ .number (-1) → ((∃ message, outcome.2 = some (.stream message code)) ↔ BreaksWith builtins arrivals code)

theorem read_stopped (rest : List Arrival) (before after : Progress) (failed : Failure)
    (code : after.errorResponseCode = before.errorResponseCode)
    (stopped : arrival.expired = true ∧ (∀ message code, failed ≠ .stream message code) ∨ arrival.expired = false ∧ decodeSseLine builtins arrival.line = .error failed) :
    Read builtins failure (arrival :: rest) before (after, some failed) := by
  have unclean : ¬ (arrival.expired = false ∧ Clean builtins arrival.line) := by
    intro ⟨live, clean⟩
    obtain ⟨event, decoded⟩ := clean.decoded
    cases stopped with
    | inl late =>
        rw [late.1] at live
        cases live
    | inr bad =>
        rw [decoded] at bad
        cases bad.2
  refine ⟨code, ⟨fun bad => (by cases bad), fun ends => absurd ⟨ends.1, ends.2.1⟩ unclean⟩, (fun bad => by cases bad),
    (fun bad => by cases bad), fun wanted named => ?_⟩
  rw [breaks_head]
  have held : ¬ Passes builtins arrival := by
    intro ⟨live, event, decoded, _⟩
    exact unclean ⟨live, clean_decoded builtins _ event decoded⟩
  constructor
  · intro ⟨message, same⟩
    cases same
    cases stopped with
    | inl late => exact absurd rfl (late.2 message wanted)
    | inr bad => exact .inl ⟨bad.1, (stream_code builtins arrival.line wanted named).mp ⟨message, bad.2⟩⟩
  · intro found
    cases found with
    | inr later => exact absurd later.1 held
    | inl here =>
        obtain ⟨message, decoded⟩ := (stream_code builtins arrival.line wanted named).mpr here.2
        cases stopped with
        | inl late =>
            rw [late.1] at here
            cases here.1
        | inr bad =>
            rw [bad.2] at decoded
            cases decoded
            exact ⟨message, rfl⟩

theorem read_passed (rest : List Arrival) (before middle : Progress) (outcome : Progress × Option Failure) (event : StreamEvent)
    (live : arrival.expired = false) (decoded : decodeSseLine builtins arrival.line = .ok event) (open_ : event ≠ .done)
    (code : middle.errorResponseCode = before.errorResponseCode)
    (text : middle.generatedText = before.generatedText ++ deltaText builtins arrival.line)
    (later : Read builtins failure rest middle outcome) : Read builtins failure (arrival :: rest) before outcome := by
  have clean := clean_decoded builtins arrival.line event decoded
  have going : isDone builtins arrival.line = false := by
    unfold isDone
    rw [decoded]
    cases event with
    | done => exact absurd rfl open_
    | ignore => rfl
    | metadata usage => rfl
    | text text usage => rfl
  have lines : processed builtins ((arrival :: rest).map Arrival.line) =
      arrival.line :: processed builtins (rest.map Arrival.line) := by
    simp [processed, going]
  refine ⟨later.code.trans code, ?_, fun none => ?_, fun none => ?_, fun wanted named => ?_⟩
  · rw [later.ended]
    constructor
    · intro ends
      exact ⟨live, clean, .inr ends⟩
    · intro ends
      exact ends.2.2.resolve_left (by rw [going]; simp)
  · rw [lines]
    intro line member
    cases List.mem_cons.mp member with
    | inl same => exact same ▸ clean
    | inr old => exact later.clean none line old
  · rw [lines, later.text none, text, concatenated, String.append_assoc]
  · rw [later.broken wanted named, breaks_head]
    constructor
    · intro found
      exact .inr ⟨⟨live, event, decoded, open_⟩, found⟩
    · intro found
      cases found with
      | inr later => exact later.2
      | inl here =>
          obtain ⟨message, failed⟩ := (stream_code builtins arrival.line wanted named).mpr here.2
          rw [decoded] at failed
          cases failed

theorem read_done (rest : List Arrival) (before after : Progress) (live : arrival.expired = false)
    (decoded : decodeSseLine builtins arrival.line = .ok .done) (code : after.errorResponseCode = before.errorResponseCode)
    (text : after.generatedText = before.generatedText) : Read builtins failure (arrival :: rest) before (after, none) := by
  have done : isDone builtins arrival.line = true := by
    unfold isDone
    rw [decoded]
  have lines : processed builtins ((arrival :: rest).map Arrival.line) = [] := by simp [processed, done]
  refine ⟨code, ⟨fun _ => ⟨live, clean_decoded builtins _ _ decoded, .inl done⟩, fun _ => rfl⟩, fun _ => ?_, fun _ => ?_, fun wanted named => ?_⟩
  · rw [lines]
    intro line member
    cases member
  · rw [lines, concatenated, String.append_empty, text]
  · rw [breaks_head]
    constructor
    · intro ⟨message, bad⟩
      cases bad
    · intro found
      cases found with
      | inl here =>
          obtain ⟨message, failed⟩ := (stream_code builtins arrival.line wanted named).mpr here.2
          rw [decoded] at failed
          cases failed
      | inr later =>
          obtain ⟨_, event, again, open_⟩ := later.1
          rw [decoded] at again
          cases again
          exact absurd rfl open_

theorem read_lines (arrivals : List Arrival) (before : Progress) :
    Read builtins failure arrivals before (readLines builtins config exchange failure arrivals before) := by
  induction arrivals generalizing before with
  | nil =>
      have ended : (failure.map Failure.other = none ↔ Ends builtins failure []) := Option.map_eq_none_iff
      refine ⟨rfl, ended, fun _ line member => (by cases member), fun _ => ?_, fun wanted named => ?_⟩
      · exact (String.append_empty).symm
      · constructor
        · intro ⟨message, same⟩
          obtain ⟨report, _, bad⟩ := Option.map_eq_some_iff.mp same
          cases bad
        · intro ⟨earlier, stop, after, split, _⟩
          simp at split
  | cons arrival rest ih =>
      obtain ⟨text, code⟩ := record_line_kept arrival before
      unfold readLines
      by_cases late : arrival.expired = true
      · rw [if_pos late]
        exact read_stopped builtins failure arrival rest before before _ rfl (.inl ⟨late, fun _ _ bad => by cases bad⟩)
      · have live : arrival.expired = false := by simpa using late
        rw [if_neg late]
        dsimp only
        split
        · rename_i failed decoded
          exact read_stopped builtins failure arrival rest before _ failed code (.inr ⟨live, decoded⟩)
        · rename_i decoded
          refine read_passed builtins failure arrival rest before _ _ .ignore live decoded (by simp) code ?_ (ih _)
          simp [text, deltaText, decoded]
        · rename_i decoded
          exact read_done builtins failure arrival rest before _ live decoded code text
        · rename_i usage decoded
          refine read_passed builtins failure arrival rest before _ _ (.metadata usage) live decoded (by simp) ?_ ?_ (ih _)
          · exact code
          · simp [text, deltaText, decoded]
        · rename_i delta usage decoded
          obtain ⟨grown, kept⟩ := record_text_kept exchange arrival delta
            { recordLine arrival before with usage := update (recordLine arrival before).usage (usage.getD []) }
          refine read_passed builtins failure arrival rest before _ _ (.text delta usage) live decoded (by simp) ?_ ?_ (ih _)
          · exact kept.trans code
          · rw [grown]
            simp [text, deltaText, decoded]

end Loop

section Attempts

variable (builtins : Builtins) (raiseForStatus : Nat → Option String) (config : RequestConfig) (exchange : Exchange)

def lines (response : Response) : List Bytes := response.arrivals.map Arrival.line

def Reads (response : Response) : Prop :=
  exchange.answer = .ok response ∧ exchange.expiredEarly = false ∧
    (response.status = 200 ∨ (∃ body, response.body = .ok body) ∧ raiseForStatus response.status = none)

def Completes (response : Response) : Prop :=
  Reads raiseForStatus exchange response ∧ response.closing = none ∧ exchange.expiredLate = false ∧
    Ends builtins response.failure response.arrivals ∧ concatenated builtins (processed builtins (lines response)) ≠ ""

def Breaks (response : Response) (code : Json) : Prop :=
  Reads raiseForStatus exchange response ∧ response.closing = none ∧ BreaksWith builtins response.arrivals code

theorem response_read (response : Response) (reads : Reads raiseForStatus exchange response) :
    ∃ opened, opened.generatedText = "" ∧ (∃ code, opened.errorResponseCode = .number code) ∧
      readResponse builtins raiseForStatus config exchange response =
        readLines builtins config exchange response.failure response.arrivals opened := by
  obtain ⟨_, live, accepted⟩ := reads
  unfold readResponse
  rw [if_neg (by rw [live]; simp)]
  by_cases plain : response.status = 200
  · rw [if_pos plain]
    exact ⟨_, rfl, ⟨_, rfl⟩, rfl⟩
  · obtain ⟨⟨body, given⟩, allowed⟩ := accepted.resolve_left plain
    rw [if_neg plain]
    simp only [given, allowed]
    exact ⟨_, rfl, ⟨_, rfl⟩, rfl⟩

theorem response_refused (response : Response) (answered : exchange.answer = .ok response)
    (refused : ¬ Reads raiseForStatus exchange response) :
    ∃ progress report, (∃ code, progress.errorResponseCode = .number code) ∧
      readResponse builtins raiseForStatus config exchange response = (progress, some (.other report)) := by
  unfold readResponse
  by_cases late : exchange.expiredEarly = true
  · rw [if_pos late]
    exact ⟨_, _, ⟨_, rfl⟩, rfl⟩
  · rw [if_neg late]
    have live : exchange.expiredEarly = false := by simpa using late
    by_cases plain : response.status = 200
    · exact absurd ⟨answered, live, .inl plain⟩ refused
    · rw [if_neg plain]
      cases given : response.body with
      | error report => exact ⟨_, _, ⟨_, rfl⟩, rfl⟩
      | ok body =>
          dsimp only
          cases allowed : raiseForStatus response.status with
          | some report => exact ⟨_, _, ⟨_, rfl⟩, rfl⟩
          | none => exact absurd ⟨answered, live, .inr ⟨⟨body, given⟩, allowed⟩⟩ refused

structure Attempted (outcome : Progress × Option Failure) : Prop where
  code : ∃ code, outcome.1.errorResponseCode = .number code
  ended : outcome.2 = none ↔ ∃ response, Completes builtins raiseForStatus exchange response
  broken : ∀ code, code ≠ .number (-1) → ((∃ message, outcome.2 = some (.stream message code)) ↔
    ∃ response, Breaks builtins raiseForStatus exchange response code)

theorem attempt_failed (progress : Progress) (report : String) (code : ∃ code, progress.errorResponseCode = .number code)
    (open_ : ∀ response, ¬ Completes builtins raiseForStatus exchange response)
    (unbroken : ∀ response code, ¬ Breaks builtins raiseForStatus exchange response code) :
    Attempted builtins raiseForStatus exchange (progress, some (.other report)) := by
  refine ⟨code, ⟨fun bad => (by cases bad), fun ⟨response, completes⟩ => absurd completes (open_ response)⟩, fun wanted _ => ?_⟩
  constructor
  · intro ⟨message, bad⟩
    cases bad
  · intro ⟨response, breaks⟩
    exact absurd breaks (unbroken response wanted)

theorem reads_same (response other : Response) (answered : exchange.answer = .ok response)
    (reads : Reads raiseForStatus exchange other) : other = response := by
  have same := reads.1.symm.trans answered
  injection same

theorem leave_read (response : Response) (reads : Reads raiseForStatus exchange response) (opened progress : Progress)
    (failed : Option Failure) (silent : opened.generatedText = "") (code : ∃ code, progress.errorResponseCode = .number code)
    (read : Read builtins response.failure response.arrivals opened (progress, failed)) :
    Attempted builtins raiseForStatus exchange (leave builtins config exchange response (progress, failed)) := by
  have only := fun other => reads_same raiseForStatus exchange response other reads.1
  unfold leave
  cases closed : response.closing with
  | some report =>
      apply attempt_failed builtins raiseForStatus exchange progress report code
      · intro other completes
        cases only other completes.1
        cases closed.symm.trans completes.2.1
      · intro other wanted breaks
        cases only other breaks.1
        cases closed.symm.trans breaks.2.1
  | none =>
      have broken : ∀ wanted, wanted ≠ .number (-1) → ((∃ message, failed = some (.stream message wanted)) ↔
          ∃ response, Breaks builtins raiseForStatus exchange response wanted) := by
        intro wanted named
        rw [read.broken wanted named]
        constructor
        · intro breaks
          exact ⟨response, reads, closed, breaks⟩
        · intro ⟨other, breaks⟩
          cases only other breaks.1
          exact breaks.2.2
      cases failed with
      | some failed =>
          refine ⟨code, ⟨fun bad => (by cases bad), fun ⟨other, completes⟩ => ?_⟩, broken⟩
          cases only other completes.1
          cases read.ended.mpr completes.2.2.2.1
      | none =>
          have text : progress.generatedText = concatenated builtins (processed builtins (lines response)) := by
            rw [read.text rfl, silent, String.empty_append, lines]
          have unbroken : ∀ report wanted, wanted ≠ .number (-1) → ((∃ message, some (Failure.other report) = some (.stream message wanted)) ↔
              ∃ response, Breaks builtins raiseForStatus exchange response wanted) := by
            intro report wanted named
            rw [← broken wanted named]
            constructor
            · intro ⟨message, bad⟩
              cases bad
            · intro ⟨message, bad⟩
              cases bad
          dsimp only
          by_cases late : exchange.expiredLate = true
          · rw [if_pos late]
            refine ⟨code, ⟨fun bad => (by cases bad), fun ⟨other, completes⟩ => ?_⟩, unbroken _⟩
            have live := completes.2.2.1
            rw [late] at live
            cases live
          · rw [if_neg late]
            by_cases without : progress.generatedText = ""
            · rw [if_pos without]
              refine ⟨code, ⟨fun bad => (by cases bad), fun ⟨other, completes⟩ => ?_⟩, unbroken _⟩
              cases only other completes.1
              exact absurd (text.symm.trans without) completes.2.2.2.2
            · rw [if_neg without]
              refine ⟨code, ⟨fun _ => ⟨response, reads, closed, by simpa using late, read.ended.mp rfl, ?_⟩, fun _ => rfl⟩, broken⟩
              exact text ▸ without

theorem attempt_attempted : Attempted builtins raiseForStatus exchange (attempt builtins raiseForStatus config exchange) := by
  unfold attempt
  cases answer : exchange.answer with
  | error report =>
      apply attempt_failed builtins raiseForStatus exchange _ report ⟨_, rfl⟩
      · intro response completes
        cases answer.symm.trans completes.1.1
      · intro response code breaks
        cases answer.symm.trans breaks.1.1
  | ok response =>
      dsimp only
      by_cases reads : Reads raiseForStatus exchange response
      · obtain ⟨opened, silent, ⟨start, started⟩, same⟩ := response_read builtins raiseForStatus config exchange response reads
        have read := read_lines builtins config exchange response.failure response.arrivals opened
        rw [same]
        exact leave_read builtins raiseForStatus config exchange response reads opened _ _ silent ⟨start, read.code.trans started⟩ read
      · obtain ⟨progress, report, code, same⟩ := response_refused builtins raiseForStatus config exchange response answer reads
        have unread : ∀ other, ¬ Reads raiseForStatus exchange other := by
          intro other again
          exact reads (reads_same raiseForStatus exchange response other answer again ▸ again)
        rw [same]
        unfold leave
        cases response.closing with
        | some closing =>
            exact attempt_failed builtins raiseForStatus exchange progress closing code
              (fun other completes => unread other completes.1) fun other wanted breaks => unread other breaks.1
        | none =>
            exact attempt_failed builtins raiseForStatus exchange progress report code
              (fun other completes => unread other completes.1) fun other wanted breaks => unread other breaks.1

theorem report_code (outcome : Progress × Option Failure) (attempted : Attempted builtins raiseForStatus exchange outcome) :
    blank (report builtins config exchange outcome).2 = true ↔
      (∃ response, Completes builtins raiseForStatus exchange response) ∨
        ∃ code response, blank code = true ∧ Breaks builtins raiseForStatus exchange response code := by
  obtain ⟨progress, failed⟩ := outcome
  obtain ⟨⟨start, started⟩, ended, broken⟩ := attempted
  have named : ∀ code, blank code = true → code ≠ .number (-1) := by
    intro code bad same
    rw [same] at bad
    cases bad
  constructor
  · intro lost
    unfold report at lost
    cases failed with
    | none => exact .inl (ended.mp rfl)
    | some failed =>
        cases failed with
        | stream message code =>
            obtain ⟨response, breaks⟩ := (broken code (named code lost)).mp ⟨message, rfl⟩
            exact .inr ⟨code, response, lost, breaks⟩
        | other raised =>
            have same : progress.errorResponseCode = .number start := started
            dsimp only at lost
            rw [same] at lost
            cases lost
  · intro cause
    unfold report
    cases cause with
    | inl completes =>
        have none : failed = none := ended.mpr completes
        rw [none]
        rfl
    | inr breaks =>
        obtain ⟨code, response, lost, breaks⟩ := breaks
        obtain ⟨message, same⟩ := (broken code (named code lost)).mpr ⟨response, breaks⟩
        have stream : failed = some (.stream message code) := same
        rw [stream]
        exact lost

end Attempts

end LlmperfOrchestrator.Client

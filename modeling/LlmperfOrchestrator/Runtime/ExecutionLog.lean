import LlmperfOrchestrator.Library.Numerals
import LlmperfOrchestrator.Library.Outcomes
import LlmperfOrchestrator.Library.Windows
import LlmperfOrchestrator.Storage.Documents

set_option autoImplicit false

namespace LlmperfOrchestrator.ExecutionLog

open Tables Storage Windows

abbrev RunnerId := String

-- datetime.now(timezone.utc)
structure UtcTime where
  year : Nat
  month : Nat
  day : Nat
  hour : Nat
  minute : Nat
  second : Nat
  microsecond : Nat
deriving DecidableEq, Repr

def zeroPadded (width number : Nat) : String :=
  String.ofList (List.replicate (width - (toString number).length) '0') ++ toString number

def fraction (microsecond : Nat) : String := if microsecond = 0 then "" else "." ++ zeroPadded 6 microsecond

def UtcTime.isoformat (time : UtcTime) : String :=
  zeroPadded 4 time.year ++ "-" ++ zeroPadded 2 time.month ++ "-" ++ zeroPadded 2 time.day ++ "T" ++ zeroPadded 2 time.hour ++ ":" ++
    zeroPadded 2 time.minute ++ ":" ++ zeroPadded 2 time.second ++ fraction time.microsecond ++ "+00:00"

structure LogEvent where
  recordedAt : UtcTime
  event : String
  fields : List (String × Json)
deriving DecidableEq

def truncatedMarker : String := "[Earlier Runner events omitted: log byte limit reached]\n"

-- text[:limit]; a negative limit counts from the end.
def sliceTo (text : String) (limit : Int) : String :=
  String.ofList (text.toList.take (if 0 ≤ limit then limit.toNat else (text.length + limit).toNat))

structure RunnerExecutionLog where
  runnerId : RunnerId
  byteLimit : Int
  lines : List String
  size : Int
  truncated : Bool
deriving DecidableEq, Repr

namespace RunnerExecutionLog

def new (runnerId : RunnerId) (byteLimit : Int) : RunnerExecutionLog := ⟨runnerId, byteLimit, [], 0, false⟩

def capacity (log : RunnerExecutionLog) : Nat := (log.byteLimit - truncatedMarker.utf8ByteSize).toNat

def append (log : RunnerExecutionLog) (line : String) : RunnerExecutionLog :=
  if log.capacity < line.utf8ByteSize then { log with truncated := true }
  else
    let room := makeRoom String.utf8ByteSize log.capacity line.utf8ByteSize log.lines log.size log.truncated
    { log with lines := room.items ++ [line], size := room.held + line.utf8ByteSize, truncated := room.lost }

def text (log : RunnerExecutionLog) : String :=
  sliceTo (if log.truncated then truncatedMarker else "") log.byteLimit ++ String.join log.lines

def window (log : RunnerExecutionLog) : Window String := ⟨log.lines, log.size, log.truncated⟩

end RunnerExecutionLog

section Recording

variable (dumps : Json → Except String String)

def LogEvent.line (runnerId : RunnerId) (event : LogEvent) : Except String String := do
  let details ← event.fields.mapM fun field => (dumps field.2).map fun value => field.1 ++ "=" ++ value
  let runner ← dumps (.text runnerId)
  .ok (event.recordedAt.isoformat ++ " runner=" ++ runner ++ " " ++ event.event ++ " " ++ " ".intercalate details ++ "\n")

namespace RunnerExecutionLog

def record (log : RunnerExecutionLog) (event : LogEvent) : Except String RunnerExecutionLog := do
  let line ← event.line dumps log.runnerId
  .ok (log.append line)

-- A call that raises leaves the log as it was.
def recordAll (log : RunnerExecutionLog) (events : List LogEvent) : RunnerExecutionLog :=
  events.foldl (fun log event => ((log.record dumps event).toOption).getD log) log

end RunnerExecutionLog

def recordedLines (runnerId : RunnerId) (events : List LogEvent) : List String :=
  events.filterMap fun event => (event.line dumps runnerId).toOption

end Recording

section Text

theorem ascii_size (letters : List Char) (ascii : ∀ letter ∈ letters, letter.val ≤ 127) :
    (String.ofList letters).utf8ByteSize = letters.length := by
  induction letters with
  | nil => rfl
  | cons letter rest ih =>
      rw [← List.singleton_append, String.ofList_append, String.utf8ByteSize_append,
        ih fun other member => ascii other (List.mem_cons_of_mem letter member), List.length_append]
      have single : (String.ofList [letter]).utf8ByteSize = letter.utf8Size := String.utf8ByteSize_singleton
      rw [single, Char.utf8Size_eq_one_iff.mpr (ascii letter List.mem_cons_self)]
      rfl

theorem marker_size : truncatedMarker.utf8ByteSize = truncatedMarker.toList.length := by decide +kernel

theorem marker_ascii : ∀ letter ∈ truncatedMarker.toList, letter.val ≤ 127 := by
  have all : truncatedMarker.toList.all (fun letter => decide (letter.val ≤ 127)) = true := by decide +kernel
  intro letter member
  exact of_decide_eq_true (List.all_eq_true.mp all letter member)

theorem slice_marker (limit : Nat) : (sliceTo truncatedMarker limit).toList = truncatedMarker.toList.take limit := by
  rw [sliceTo, if_pos (Int.natCast_nonneg limit), String.toList_ofList, Int.toNat_natCast]

theorem slice_marker_size (limit : Nat) :
    (sliceTo truncatedMarker limit).utf8ByteSize = min limit truncatedMarker.utf8ByteSize := by
  have letters := slice_marker limit
  rw [← String.ofList_toList (s := sliceTo truncatedMarker limit), letters, marker_size, ← List.length_take]
  apply ascii_size
  intro letter member
  exact marker_ascii letter (List.mem_of_mem_take member)

theorem slice_nothing (limit : Int) : sliceTo "" limit = "" := by
  rw [sliceTo]
  exact congrArg String.ofList List.take_nil

theorem joined_size (lines : List String) : (String.join lines).utf8ByteSize = total String.utf8ByteSize lines := by
  induction lines with
  | nil => rfl
  | cons line rest ih => rw [String.join_cons, String.utf8ByteSize_append, ih, total_cons]

theorem padded_head (width number : Nat) : ∃ digit rest, (zeroPadded width number).toList = digit :: rest ∧ digit.isDigit = true := by
  rw [zeroPadded, String.toList_append, String.toList_ofList]
  cases width - (toString number).length with
  | succ zeros => exact ⟨'0', _, rfl, rfl⟩
  | zero =>
      rw [List.replicate_zero, List.nil_append]
      have digits := Numerals.natural_digits number
      cases letters : number.repr.toList with
      | nil => exact absurd letters (by simp [Nat.toList_repr])
      | cons digit rest =>
          refine ⟨digit, rest, rfl, digits digit ?_⟩
          rw [letters]
          exact List.mem_cons_self

theorem line_head (dumps : Json → Except String String) (runnerId : RunnerId) (event : LogEvent) (line : String)
    (made : event.line dumps runnerId = .ok line) : ∃ digit rest, line.toList = digit :: rest ∧ digit.isDigit = true := by
  obtain ⟨details, _, named⟩ := (Outcomes.bind_ok _ _ _).mp made
  obtain ⟨runner, _, same⟩ := (Outcomes.bind_ok _ _ _).mp named
  obtain ⟨digit, rest, letters, isDigit⟩ := padded_head 4 event.recordedAt.year
  rw [← Except.ok.inj same]
  simp only [UtcTime.isoformat, String.toList_append, List.append_assoc, letters, List.cons_append]
  exact ⟨digit, _, rfl, isDigit⟩

end Text

section Bounds

variable (dumps : Json → Except String String)

namespace RunnerExecutionLog

theorem append_window (log : RunnerExecutionLog) (line : String) :
    (log.append line).window = add String.utf8ByteSize log.capacity line log.window := by
  rw [append, add]
  by_cases large : log.capacity < line.utf8ByteSize
  · rw [if_pos large, if_pos large]
    rfl
  · rw [if_neg large, if_neg large]
    rfl

theorem append_limit (log : RunnerExecutionLog) (line : String) :
    (log.append line).runnerId = log.runnerId ∧ (log.append line).byteLimit = log.byteLimit := by
  rw [append]
  split
  · exact ⟨rfl, rfl⟩
  · exact ⟨rfl, rfl⟩

structure Follows (runnerId : RunnerId) (byteLimit : Int) (recorded : List String) (log : RunnerExecutionLog) : Prop where
  runner : log.runnerId = runnerId
  limit : log.byteLimit = byteLimit
  window : Windows.Follows String.utf8ByteSize log.capacity recorded log.window

theorem append_follows (runnerId : RunnerId) (byteLimit : Int) (recorded : List String) (log : RunnerExecutionLog)
    (follows : Follows runnerId byteLimit recorded log) (line : String) :
    Follows runnerId byteLimit (recorded ++ [line]) (log.append line) := by
  obtain ⟨runner, limit⟩ := append_limit log line
  refine ⟨runner.trans follows.runner, limit.trans follows.limit, ?_⟩
  have capacity : (log.append line).capacity = log.capacity := by rw [RunnerExecutionLog.capacity, limit, ← RunnerExecutionLog.capacity]
  rw [capacity, append_window]
  exact add_follows String.utf8ByteSize log.capacity recorded log.window follows.window line

theorem record_all_follows (runnerId : RunnerId) (byteLimit : Int) (recorded : List String) (log : RunnerExecutionLog)
    (follows : Follows runnerId byteLimit recorded log) (events : List LogEvent) :
    Follows runnerId byteLimit (recorded ++ recordedLines dumps runnerId events) (log.recordAll dumps events) := by
  induction events generalizing recorded log with
  | nil => exact (List.append_nil recorded).symm ▸ follows
  | cons event rest ih =>
      rw [recordAll, List.foldl_cons, ← recordAll, recordedLines, List.filterMap_cons, record, follows.runner]
      cases event.line dumps runnerId with
      | error reason => exact ih recorded log follows
      | ok line =>
          have grown := ih (recorded ++ [line]) (log.append line) (append_follows runnerId byteLimit recorded log follows line)
          rw [List.append_assoc] at grown
          exact grown

theorem new_follows (runnerId : RunnerId) (byteLimit : Int) : Follows runnerId byteLimit [] (new runnerId byteLimit) :=
  ⟨rfl, rfl, follows_nothing _ _⟩

theorem text_size (log : RunnerExecutionLog) (recorded : List String) (limit : Nat) (named : log.byteLimit = limit)
    (follows : Windows.Follows String.utf8ByteSize log.capacity recorded log.window) : log.text.utf8ByteSize ≤ limit := by
  have held : (total String.utf8ByteSize log.lines : Int) ≤ log.capacity := follows.exact ▸ follows.fits
  have room : log.capacity = limit - truncatedMarker.utf8ByteSize := by
    rw [capacity, named]
    omega
  rw [text, named, String.utf8ByteSize_append, joined_size]
  cases log.truncated with
  | false =>
      rw [if_neg Bool.false_ne_true, slice_nothing, String.utf8ByteSize_empty]
      omega
  | true =>
      rw [if_pos rfl, slice_marker_size]
      omega

end RunnerExecutionLog

theorem joined_head (lines : List String) (head : ∀ line ∈ lines, ∃ digit rest, line.toList = digit :: rest ∧ digit.isDigit = true)
    (letter : Char) (first : (String.join lines).toList.head? = some letter) : letter.isDigit = true := by
  cases lines with
  | nil => cases first
  | cons line rest =>
      obtain ⟨digit, others, letters, isDigit⟩ := head line List.mem_cons_self
      rw [String.join_cons, String.toList_append, letters] at first
      cases first
      exact isDigit

theorem recorded_head (runnerId : RunnerId) (events : List LogEvent) (line : String)
    (member : line ∈ recordedLines dumps runnerId events) : ∃ digit rest, line.toList = digit :: rest ∧ digit.isDigit = true := by
  obtain ⟨event, _, made⟩ := List.mem_filterMap.mp member
  cases read : event.line dumps runnerId with
  | error reason =>
      rw [read] at made
      cases made
  | ok other =>
      rw [read] at made
      cases Option.some.inj made
      exact line_head dumps runnerId event line read

def Shown (log : RunnerExecutionLog) : Prop := (sliceTo truncatedMarker log.byteLimit).toList <+: log.text.toList

instance (log : RunnerExecutionLog) : Decidable (Shown log) := inferInstanceAs (Decidable (_ <+: _))

theorem shown_truncated (log : RunnerExecutionLog) (limit : Nat) (named : log.byteLimit = limit) (positive : 0 < limit)
    (head : ∀ line ∈ log.lines, ∃ digit rest, line.toList = digit :: rest ∧ digit.isDigit = true) :
    Shown log ↔ log.truncated = true := by
  rw [Shown, RunnerExecutionLog.text, String.toList_append]
  cases log.truncated with
  | true =>
      rw [if_pos rfl]
      exact iff_of_true (List.prefix_append _ _) rfl
  | false =>
      rw [if_neg Bool.false_ne_true, slice_nothing, named, slice_marker]
      apply iff_of_false _ Bool.noConfusion
      rintro ⟨rest, same⟩
      obtain ⟨fewer, rfl⟩ := Nat.exists_eq_succ_of_ne_zero (Nat.pos_iff_ne_zero.mp positive)
      have first : (String.join log.lines).toList.head? = some '[' := by
        rw [← String.empty_append (s := String.join log.lines), String.toList_append, ← same]
        rfl
      exact absurd (joined_head log.lines head '[' first) (by decide)

-- With a negative limit the cut marker is longer than the limit, and with the
-- limit zero nothing of it can be shown.
theorem runner_log_bounded (runnerId : RunnerId) (byteLimit : Int) (events : List LogEvent) (log : RunnerExecutionLog)
    (reached : (RunnerExecutionLog.new runnerId byteLimit).recordAll dumps events = log) :
    log.size = total String.utf8ByteSize log.lines ∧
    log.lines.Sublist (recordedLines dumps runnerId events) ∧
    (0 ≤ byteLimit → (log.text.utf8ByteSize : Int) ≤ byteLimit) ∧
    (0 < byteLimit → (Shown log ↔ log.lines ≠ recordedLines dumps runnerId events)) := by
  have follows := RunnerExecutionLog.record_all_follows dumps runnerId byteLimit [] _
    (RunnerExecutionLog.new_follows runnerId byteLimit) events
  rw [reached, List.nil_append] at follows
  have head : ∀ line ∈ log.lines, ∃ digit rest, line.toList = digit :: rest ∧ digit.isDigit = true := by
    intro line member
    exact recorded_head dumps runnerId events line (follows.window.order.subset member)
  refine ⟨follows.window.exact, follows.window.order, ?_, ?_⟩
  · intro counted
    obtain ⟨limit, rfl⟩ := Int.eq_ofNat_of_zero_le counted
    exact Int.ofNat_le.mpr (log.text_size _ limit follows.limit follows.window)
  · intro positive
    obtain ⟨limit, rfl⟩ := Int.eq_ofNat_of_zero_le (Int.le_of_lt positive)
    rw [shown_truncated log limit follows.limit (Int.natCast_pos.mp positive) head, ← not_iff_not, Bool.not_eq_true, not_not]
    exact follows.window.complete

end Bounds

def plainDumps : Json → Except String String
  | .text value => .ok ("\"" ++ value ++ "\"")
  | _ => .error "Out of range float values are not JSON compliant"

def startedEvent (second : Nat) : LogEvent := ⟨⟨2026, 1, 2, 3, 4, second, 0⟩, "runner.started", [("worker", .text "0")]⟩

def startedLog (byteLimit : Int) : RunnerExecutionLog :=
  (RunnerExecutionLog.new "r" byteLimit).recordAll plainDumps [startedEvent 5, startedEvent 6]

theorem runner_log_bounded_short : ((startedLog 130).text.utf8ByteSize : Int) ≤ 130 ∧ Shown (startedLog 130) := by
  obtain ⟨_, _, short, shown⟩ := runner_log_bounded plainDumps "r" 130 [startedEvent 5, startedEvent 6] (startedLog 130) rfl
  exact ⟨short (by decide), (shown (by decide)).mpr (by decide +kernel)⟩

-- Without a byte for the marker a lost event leaves no sign, and a negative
-- limit cuts the marker from its end.
theorem runner_log_unbounded :
    ¬ (truncatedMarker.toList <:+: (startedLog 0).text.toList ↔
        (startedLog 0).lines ≠ recordedLines plainDumps "r" [startedEvent 5, startedEvent 6]) ∧
      ¬ ((startedLog (-1)).text.utf8ByteSize : Int) ≤ -1 := by
  decide +kernel

end LlmperfOrchestrator.ExecutionLog

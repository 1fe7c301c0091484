import LlmperfOrchestrator.Preparation.SharedPrefix

set_option autoImplicit false

namespace LlmperfOrchestrator.Preparation

open Tables Compiler Storage Draws Outcomes

theorem search_cut_ends (fits : Nat → Bool) (fuel more low high : Nat) (enough : high - low ≤ fuel) (beyond : fuel ≤ more) :
    searchCut fits more low high = searchCut fits fuel low high := by
  induction fuel generalizing more low high with
  | zero =>
      have closed : ¬ low < high := by omega
      cases more with
      | zero => rfl
      | succ more => exact (if_neg closed : searchCut fits (more + 1) low high = low)
  | succ fuel ih =>
      obtain ⟨more, rfl⟩ : ∃ rest, more = rest + 1 := ⟨more - 1, by omega⟩
      rw [searchCut, searchCut]
      by_cases room : low < high
      · rw [if_pos room, if_pos room]
        dsimp only
        by_cases fit : fits ((low + high + 1) / 2) = true
        · rw [if_pos fit, if_pos fit]
          exact ih _ _ _ (by omega) (by omega)
        · rw [if_neg fit, if_neg fit]
          exact ih _ _ _ (by omega) (by omega)
      · rw [if_neg room, if_neg room]

theorem search_cut_inside (fits : Nat → Bool) (fuel low high : Nat) (ordered : low ≤ high) :
    searchCut fits fuel low high ≤ high := by
  induction fuel generalizing low high with
  | zero => exact ordered
  | succ fuel ih =>
      rw [searchCut]
      by_cases room : low < high
      · rw [if_pos room]
        dsimp only
        by_cases fit : fits ((low + high + 1) / 2) = true
        · rw [if_pos fit]
          exact ih _ _ (by omega)
        · rw [if_neg fit]
          exact (ih _ _ (by omega)).trans (by omega)
      · rw [if_neg room]
        exact ordered

section Bound

variable (gen : Generator) (length : Text → Nat) (dataset : PromptDataset)

structure FittingCut (initial piece : Text) (target : Nat) (cut : Text × Nat) : Prop where
  taken : cut.1 = piece.take cut.2
  inside : cut.2 ≤ piece.length
  fits : length (initial ++ cut.1) ≤ target
  ended : ∀ more, piece.length ≤ more →
    searchCut (fun cut => length (initial ++ piece.take cut) ≤ target) more 0 piece.length = cut.2

theorem truncate_to_budget_fits (initial piece : Text) (target : Nat) (start : length initial ≤ target) :
    FittingCut length initial piece target (truncateToBudget length initial piece target) := by
  refine ⟨rfl, search_cut_inside _ _ _ _ (Nat.zero_le _), ?_, fun more beyond => search_cut_ends _ _ _ _ _ (Nat.sub_le _ _) beyond⟩
  rcases truncate_fits length initial piece target with uncut | fits
  · rw [uncut, List.append_nil]
    exact start
  · exact fits

def addedTokens (segments : List Segment) : Int := (segments.map Segment.tokensAdded).sum

theorem added_tokens_append (segments : List Segment) (segment : Segment) :
    addedTokens (segments ++ [segment]) = addedTokens segments + segment.tokensAdded := by
  rw [addedTokens, List.map_append, List.sum_append]
  exact congrArg (addedTokens segments + ·) (List.sum_singleton)

theorem fill_added (target fuel : Nat) (made last : Construction gen) (done : fill gen length dataset target fuel made = .ok last) :
    (last.tokens : Int) - addedTokens last.segments = made.tokens - addedTokens made.segments := by
  refine fill_keeps gen length dataset target
    (fun later => (later.tokens : Int) - addedTokens later.segments = made.tokens - addedTokens made.segments) ?_ fuel made last rfl done
  intro later added segment cursor counted _ before
  rw [added_tokens_append, counted]
  dsimp only
  omega

def wholePieces (target : Nat) : Nat → Construction gen → Option (Construction gen)
  | 0, made => some made
  | turns + 1, made =>
      if made.tokens < target then
        match made.cursor.next dataset with
        | .error _ => none
        | .ok ((recordIndex, record, cycle), cursor) =>
            let separator := pieceSeparator dataset made.text
            let complete := length (made.text ++ (separator ++ record))
            if complete ≤ target then
              wholePieces target turns
                ⟨made.text ++ (separator ++ record), complete,
                  made.segments ++ [⟨recordIndex, cycle, record.length, complete - made.tokens, false⟩], cursor⟩
            else none
      else none

-- The loop has ended within its fuel, or it has taken a whole record in each turn and
-- the count is short still.
theorem fill_settles (target fuel : Nat) (made : Construction gen) :
    (∀ more, fuel ≤ more → fill gen length dataset target more made = fill gen length dataset target fuel made) ∨
      ∃ later, wholePieces gen length dataset target fuel made = some later ∧ later.tokens < target := by
  induction fuel generalizing made with
  | zero =>
      by_cases short : made.tokens < target
      · exact .inr ⟨made, rfl, short⟩
      · left
        intro more _
        rw [fill_full gen length dataset target more made (Nat.le_of_not_lt short),
          fill_full gen length dataset target 0 made (Nat.le_of_not_lt short)]
  | succ fuel ih =>
      by_cases short : made.tokens < target
      · cases drawn : made.cursor.next dataset with
        | error reason =>
            left
            intro more beyond
            obtain ⟨more, rfl⟩ : ∃ rest, more = rest + 1 := ⟨more - 1, by omega⟩
            rw [fill, fill, if_pos short, if_pos short, drawn]
            rfl
        | ok next =>
            obtain ⟨⟨recordIndex, record, cycle⟩, cursor⟩ := next
            by_cases complete : length (made.text ++ (pieceSeparator dataset made.text ++ record)) ≤ target
            · rw [wholePieces, if_pos short, drawn]
              dsimp only
              rw [if_pos complete]
              rcases ih _ with settled | later
              · left
                intro more beyond
                obtain ⟨more, rfl⟩ : ∃ rest, more = rest + 1 := ⟨more - 1, by omega⟩
                rw [fill, fill, if_pos short, if_pos short, drawn]
                dsimp only [bind, Except.bind]
                rw [if_pos complete, if_pos complete]
                exact settled more (by omega)
              · exact .inr later
            · left
              intro more beyond
              obtain ⟨more, rfl⟩ : ∃ rest, more = rest + 1 := ⟨more - 1, by omega⟩
              rw [fill, fill, if_pos short, if_pos short, drawn]
              dsimp only [bind, Except.bind]
              rw [if_neg complete, if_neg complete]
      · left
        intro more _
        rw [fill_full gen length dataset target more made (Nat.le_of_not_lt short),
          fill_full gen length dataset target (fuel + 1) made (Nat.le_of_not_lt short)]

structure Accounted (target : Nat) (start : Text) (made : Construction gen) : Prop where
  within : Within gen length target made
  added : addedTokens made.segments = (made.tokens : Int) - length start

theorem construct_accounted (fuel target : Nat) (initial : Text) (cursor : RecordCursor gen) (made : Construction gen)
    (done : construct gen length dataset fuel target initial cursor = .ok made) :
    Accounted gen length target (startText length target initial) made := by
  refine ⟨construct_within gen length dataset fuel target initial cursor made done, ?_⟩
  have kept := fill_added gen length dataset target fuel _ made
    (construct_filled gen length dataset fuel target initial cursor made done).1
  have untouched : addedTokens [] = 0 := rfl
  rw [untouched] at kept
  dsimp only at kept
  omega

theorem construct_settles (fuel target : Nat) (initial : Text) (cursor : RecordCursor gen) :
    (∀ more, fuel ≤ more → construct gen length dataset more target initial cursor =
        construct gen length dataset fuel target initial cursor) ∨
      ∃ later, wholePieces gen length dataset target fuel
          ⟨startText length target initial, length (startText length target initial), [], cursor⟩ = some later ∧
        later.tokens < target := by
  rcases fill_settles gen length dataset target fuel
      ⟨startText length target initial, length (startText length target initial), [], cursor⟩ with settled | short
  · left
    intro more beyond
    rw [construct, construct, settled more beyond]
  · exact .inr short

end Bound

section Requests

variable (gen : Generator) (artifacts : Artifacts) (sha256 : Sha256) (fuel : Nat) (dataset : PromptDataset)
  (length : Text → Nat)

def PrefixAccounted (request : ConcatenationRequest) (sharedPrefix : Text) (sharedSegments : List Segment) : Prop :=
  request.sharedPrefixTokens = 0 ∧ sharedPrefix = [] ∧ sharedSegments = [] ∨
    ∃ selection : Construction gen, sharedPrefix = selection.text ∧ sharedSegments = selection.segments ∧
      Accounted gen length request.sharedPrefixTokens
        (startText length request.sharedPrefixTokens (dataset.instruction request.meanOutputTokens)) selection

def PromptAccounted (request : ConcatenationRequest) (sharedPrefix : Text) (sharedSegments : List Segment)
    (prompt : PreparedPrompt) : Prop :=
  ∃ target made, prompt = ⟨made.text, made.tokens,
      concatenateManifest gen artifacts sha256 dataset request sharedPrefix sharedSegments target made⟩ ∧
    Accounted gen length target
      (startText length target (if sharedPrefix = [] then dataset.instruction request.meanOutputTokens else sharedPrefix)) made

theorem select_prefix_accounted (request : ConcatenationRequest) (cursor next : RecordCursor gen) (sharedPrefix : Text)
    (sharedSegments : List Segment)
    (selected : selectPrefix gen fuel dataset length request cursor = .ok (sharedPrefix, sharedSegments, next)) :
    PrefixAccounted gen dataset length request sharedPrefix sharedSegments := by
  rw [selectPrefix] at selected
  by_cases unwanted : request.sharedPrefixTokens = 0
  · rw [if_pos unwanted] at selected
    cases selected
    exact .inl ⟨unwanted, rfl, rfl⟩
  · rw [if_neg unwanted] at selected
    obtain ⟨selection, constructed, selected⟩ := (bind_ok _ _ _).mp selected
    cases selected
    exact .inr ⟨selection, rfl, rfl, construct_accounted gen length dataset fuel _ _ _ selection constructed⟩

theorem concatenate_rest_accounted (request : ConcatenationRequest) (sharedPrefix : Text) (sharedSegments : List Segment)
    (count : Nat) (cursor : RecordCursor gen) (prompts : List PreparedPrompt)
    (made : concatenateRest gen artifacts sha256 fuel dataset length request sharedPrefix sharedSegments count cursor =
      .ok prompts) :
    prompts.length = count ∧
      ∀ prompt ∈ prompts, PromptAccounted gen artifacts sha256 dataset length request sharedPrefix sharedSegments prompt := by
  induction count generalizing cursor prompts with
  | zero =>
      cases made
      exact ⟨rfl, fun prompt among => absurd among List.not_mem_nil⟩
  | succ count ih =>
      obtain ⟨⟨prompt, next⟩, first, made⟩ := (bind_ok _ _ _).mp made
      obtain ⟨later, rest, made⟩ := (bind_ok _ _ _).mp made
      cases made
      obtain ⟨counted, others⟩ := ih next later rest
      obtain ⟨⟨target, rng⟩, _, first⟩ := (bind_ok _ _ _).mp first
      obtain ⟨filled, constructed, first⟩ := (bind_ok _ _ _).mp first
      cases first
      refine ⟨by rw [List.length_cons, counted], ?_⟩
      intro prompt among
      rcases List.mem_cons.mp among with same | after
      · rw [same]
        exact ⟨target, filled, rfl, construct_accounted gen length dataset fuel target _ _ filled constructed⟩
      · exact others prompt after

theorem concatenate_requests_accounted (numRequests : Nat) (request : ConcatenationRequest) (prompts : List PreparedPrompt)
    (made : concatenatePromptRequests gen artifacts sha256 fuel dataset length numRequests request = .ok prompts) :
    prompts.length = numRequests ∧ ∃ sharedPrefix sharedSegments,
      PrefixAccounted gen dataset length request sharedPrefix sharedSegments ∧
        ∀ prompt ∈ prompts, PromptAccounted gen artifacts sha256 dataset length request sharedPrefix sharedSegments prompt := by
  obtain ⟨⟨sharedPrefix, sharedSegments, cursor⟩, selected, made⟩ := (bind_ok _ _ _).mp made
  obtain ⟨counted, accounted⟩ :=
    concatenate_rest_accounted gen artifacts sha256 fuel dataset length request sharedPrefix sharedSegments numRequests cursor prompts made
  exact ⟨counted, sharedPrefix, sharedSegments,
    select_prefix_accounted gen fuel dataset length request _ cursor sharedPrefix sharedSegments selected, accounted⟩

-- No count of a longer text is assumed to be larger, or to be the sum of its parts. A
-- construction that does not end has taken whole records only, and is short of its target.
theorem prompt_concatenation_bound :
    (∀ initial piece target, length initial ≤ target →
      FittingCut length initial piece target (truncateToBudget length initial piece target)) ∧
    (∀ target initial cursor made, construct gen length dataset fuel target initial cursor = .ok made →
      Accounted gen length target (startText length target initial) made) ∧
    (∀ target initial cursor,
      (∀ more, fuel ≤ more → construct gen length dataset more target initial cursor =
        construct gen length dataset fuel target initial cursor) ∨
      ∃ later, wholePieces gen length dataset target fuel
          ⟨startText length target initial, length (startText length target initial), [], cursor⟩ = some later ∧
        later.tokens < target) ∧
    ∀ numRequests request prompts,
      concatenatePromptRequests gen artifacts sha256 fuel dataset length numRequests request = .ok prompts →
        prompts.length = numRequests ∧ ∃ sharedPrefix sharedSegments,
          PrefixAccounted gen dataset length request sharedPrefix sharedSegments ∧
            ∀ prompt ∈ prompts,
              PromptAccounted gen artifacts sha256 dataset length request sharedPrefix sharedSegments prompt :=
  ⟨truncate_to_budget_fits length, construct_accounted gen length dataset fuel,
    construct_settles gen length dataset fuel, concatenate_requests_accounted gen artifacts sha256 fuel dataset length⟩

end Requests

def linesDataset : PromptDataset := ⟨"letters", [(0, ['a', 'b', 'c']), (1, ['d', 'e'])], ['\n'], some (['n'], [])⟩

def linesRequest : ConcatenationRequest := ⟨6, 0, 1, 7, 3, none⟩

theorem two_prompts_bounded :
    FittingCut List.length ['a'] ['b', 'c', 'd'] 3 (truncateToBudget List.length ['a'] ['b', 'c', 'd'] 3) ∧
    (∃ made, construct lowDraws List.length linesDataset 9 6 ['x'] (RecordCursor.start lowDraws 2 ()) = .ok made ∧
      Accounted lowDraws List.length 6 (startText List.length 6 ['x']) made) ∧
    ∃ prompts, concatenatePromptRequests lowDraws letterArtifacts (fun _ => 0) 9 linesDataset List.length 2 linesRequest =
        .ok prompts ∧ prompts.length = 2 := by
  obtain ⟨cut, filled, _, requests⟩ :=
    prompt_concatenation_bound lowDraws letterArtifacts (fun _ => 0) 9 linesDataset List.length
  have built : ∃ made, construct lowDraws List.length linesDataset 9 6 ['x'] (RecordCursor.start lowDraws 2 ()) = .ok made := ⟨_, rfl⟩
  have prepared : ∃ prompts, concatenatePromptRequests lowDraws letterArtifacts (fun _ => 0) 9 linesDataset List.length 2
      linesRequest = .ok prompts := ⟨_, rfl⟩
  obtain ⟨made, done⟩ := built
  obtain ⟨prompts, ready⟩ := prepared
  exact ⟨cut _ _ _ (by decide), ⟨made, done, filled _ _ _ _ done⟩, prompts, ready, (requests 2 linesRequest prompts ready).1⟩

end LlmperfOrchestrator.Preparation

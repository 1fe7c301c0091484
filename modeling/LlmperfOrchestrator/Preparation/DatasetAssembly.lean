import LlmperfOrchestrator.Preparation.SharedPrefix
import LlmperfOrchestrator.Library.SparseShuffles

set_option autoImplicit false

namespace LlmperfOrchestrator.Preparation

open Tables Draws Rounding SparseShuffles

section Assembly

variable (gen : Generator) (dataset : PromptDataset)

def recordsAt (positions : List Nat) : List (Nat × Text) := positions.filterMap fun position => dataset.records[position]?

def joined (records : List (Nat × Text)) : Text := (records.map fun record => record.2 ++ dataset.separator).flatten

theorem joined_cons (record : Nat × Text) (rest : List (Nat × Text)) :
    joined dataset (record :: rest) = record.2 ++ dataset.separator ++ joined dataset rest := rfl

theorem joined_append (first second : List (Nat × Text)) :
    joined dataset (first ++ second) = joined dataset first ++ joined dataset second := by
  rw [joined, List.map_append, List.flatten_append]
  rfl

theorem every_position_read {α : Type} (records : List α) :
    (List.range records.length).filterMap (fun position => records[position]?) = records := by
  induction records with
  | nil => rfl
  | cons record rest ih =>
      rw [List.length_cons, List.range_succ_eq_map, List.filterMap_cons_some List.getElem?_cons_zero, List.filterMap_map]
      exact congrArg (List.cons record) ih

theorem records_at_range : recordsAt dataset (List.range dataset.records.length) = dataset.records :=
  every_position_read dataset.records

theorem records_at_perm (first second : List Nat) (same : first.Perm second) :
    (recordsAt dataset first).Perm (recordsAt dataset second) := same.filterMap _

structure Drawn (available : List (Nat × Text)) (remaining : Nat) (result : List Text × List Nat × Nat × gen.State)
    (drawn rest : List (Nat × Text)) : Prop where
  once : (drawn ++ rest).Perm available
  selected : result.2.1 = drawn.map Prod.fst
  text : result.1.flatten = (joined dataset drawn).take remaining
  left : result.2.2.1 = remaining - (joined dataset drawn).length
  whole : result.2.2.1 = 0 ∨ rest = []

theorem take_joined (record : Nat × Text) (drawn : List (Nat × Text)) (remaining : Nat)
    (short : (record.2 ++ dataset.separator).length ≤ remaining) :
    (joined dataset (record :: drawn)).take remaining =
      record.2 ++ dataset.separator ++ (joined dataset drawn).take (remaining - (record.2 ++ dataset.separator).length) := by
  rw [joined_cons, List.take_append, List.take_of_length_le short]

theorem assemble_cycle_drawn (count : Nat) (swaps : Dict Nat Nat) (remaining : Nat) (rng : gen.State)
    (inside : ∀ position ∈ undrawn swaps count, position < dataset.records.length) :
    ∃ drawn rest, Drawn gen dataset (recordsAt dataset (undrawn swaps count)) remaining
      (assembleCycle gen dataset count swaps remaining rng) drawn rest := by
  induction count generalizing swaps remaining rng with
  | zero => exact ⟨[], [], List.Perm.refl _, rfl, (List.take_nil).symm, rfl, .inr rfl⟩
  | succ count ih =>
      have below := gen.below (count + 1) rng (Nat.succ_pos count)
      cases draw : gen.randbelow (count + 1) rng with
      | mk chosen next =>
          rw [draw] at below
          have turn := draw_perm swaps chosen count below
          have low : standing swaps chosen < dataset.records.length := inside _ (turn.subset List.mem_cons_self)
          have others : ∀ position ∈ undrawn (displace swaps chosen count) count, position < dataset.records.length :=
            fun position among => inside position (turn.subset (List.mem_cons_of_mem _ among))
          have found : dataset.records[(Dict.get chosen swaps).getD chosen]? = some dataset.records[standing swaps chosen] :=
            List.getElem?_eq_getElem low
          have taken : (dataset.records[standing swaps chosen] :: recordsAt dataset (undrawn (displace swaps chosen count) count)).Perm
              (recordsAt dataset (undrawn swaps (count + 1))) := by
            have all := records_at_perm dataset _ _ turn
            rwa [recordsAt, List.filterMap_cons_some (List.getElem?_eq_getElem low)] at all
          rw [assembleCycle, draw]
          dsimp only
          rw [found]
          dsimp only
          generalize dataset.records[standing swaps chosen] = record at taken
          by_cases complete : remaining - ((record.2 ++ dataset.separator).take remaining).length = 0
          · rw [if_pos complete]
            rw [List.length_take] at complete
            have alone : joined dataset [record] = record.2 ++ dataset.separator := List.append_nil _
            refine ⟨[record], _, taken, rfl, ?_, ?_, .inl rfl⟩
            · rw [alone, List.flatten_cons, List.flatten_nil, List.append_nil]
            · rw [alone]
              dsimp only
              omega
          · rw [if_neg complete]
            rw [List.length_take] at complete
            have short : (record.2 ++ dataset.separator).length ≤ remaining := by omega
            rw [List.take_of_length_le short]
            obtain ⟨drawn, rest, later⟩ := ih (displace swaps chosen count) (remaining - (record.2 ++ dataset.separator).length) next others
            refine ⟨record :: drawn, rest, ?_, ?_, ?_, ?_, later.whole⟩
            · exact (later.once.cons record).trans taken
            · rw [List.map_cons, ← later.selected]
              rfl
            · rw [take_joined dataset record drawn remaining short, ← later.text]
              rfl
            · exact later.left.trans ((Nat.sub_sub _ _ _).trans (congrArg (remaining - ·) List.length_append.symm))

structure Selection (text : Text) (selected : List Nat) (passes : List (List (Nat × Text))) : Prop where
  indices : selected = passes.flatten.map Prod.fst
  records : text = (joined dataset passes.flatten).take text.length
  once : ∀ pass ∈ passes, pass.Subperm dataset.records
  full : ∀ pass ∈ passes.dropLast, pass.Perm dataset.records

theorem full_pass_adds (usable : ∃ record ∈ dataset.records, record.2 ++ dataset.separator ≠ []) (drawn : List (Nat × Text))
    (whole : drawn.Perm dataset.records) : 0 < (joined dataset drawn).length := by
  obtain ⟨record, among, some⟩ := usable
  have part : record.2 ++ dataset.separator ∈ drawn.map fun record => record.2 ++ dataset.separator :=
    List.mem_map_of_mem (whole.mem_iff.mpr among)
  have inside := (List.sublist_flatten_of_mem part).length_le
  exact (List.length_pos_iff.mpr some).trans_le inside

theorem assemble_cycles_selection (usable : ∃ record ∈ dataset.records, record.2 ++ dataset.separator ≠ []) (remaining : Nat)
    (rng : gen.State) :
    ∃ pieces selected passes, (∀ fuel, remaining ≤ fuel → assembleCycles gen dataset fuel remaining rng = .ok (pieces, selected)) ∧
      pieces.flatten.length = remaining ∧ Selection dataset pieces.flatten selected passes ∧ (remaining = 0 → passes = []) := by
  induction remaining using Nat.strong_induction_on generalizing rng with
  | _ remaining ih =>
      by_cases complete : remaining = 0
      · refine ⟨[], [], [], ?_, complete.symm, ⟨rfl, rfl, ?_, ?_⟩, fun _ => rfl⟩
        · intro fuel _
          cases fuel with
          | zero => rw [assembleCycles, if_pos complete]
          | succ fuel => rw [assembleCycles, if_pos complete]
        · intro pass among
          cases among
        · intro pass among
          cases among
      · have inside : ∀ position ∈ undrawn [] dataset.records.length, position < dataset.records.length := by
          intro position among
          rw [undrawn_untouched] at among
          exact List.mem_range.mp among
        obtain ⟨drawn, rest, cycle⟩ := assemble_cycle_drawn gen dataset dataset.records.length [] remaining rng inside
        rw [undrawn_untouched, records_at_range] at cycle
        cases ran : assembleCycle gen dataset dataset.records.length [] remaining rng with
        | mk pieces state =>
            obtain ⟨selected, left, next⟩ := state
            rw [ran] at cycle
            have cut := cycle.left
            dsimp only at cut
            have whole : left ≠ 0 → drawn.Perm dataset.records := by
              intro missing
              have all := cycle.once
              rwa [cycle.whole.resolve_left missing, List.append_nil] at all
            have less : left < remaining := by
              by_cases missing : left = 0
              · omega
              · have adds := full_pass_adds dataset usable drawn (whole missing)
                omega
            obtain ⟨later, others, passes, runs, length, selection, idle⟩ := ih left less next
            have text : (pieces ++ later).flatten = (joined dataset (drawn :: passes).flatten).take remaining := by
              rw [List.flatten_append, selection.records, length, List.flatten_cons, joined_append, List.take_append, cut]
              exact congrArg (· ++ _) cycle.text
            have total : (pieces ++ later).flatten.length = remaining := by
              have part := congrArg List.length cycle.text
              rw [List.length_take] at part
              rw [List.flatten_append, List.length_append, length, part]
              omega
            refine ⟨pieces ++ later, selected ++ others, drawn :: passes, ?_, total, ⟨?_, ?_, ?_, ?_⟩, fun none => absurd none complete⟩
            · intro fuel enough
              cases fuel with
              | zero => omega
              | succ fuel =>
                  rw [assembleCycles, if_neg complete, ran]
                  dsimp only
                  rw [runs fuel (by omega)]
                  rfl
            · rw [List.flatten_cons, List.map_append, ← selection.indices]
              exact congrArg (· ++ _) cycle.selected
            · rw [total]
              exact text
            · intro pass among
              rcases List.mem_cons.mp among with first | after
              · rw [first]
                exact (List.sublist_append_left drawn rest).subperm.trans cycle.once.subperm
              · exact selection.once pass after
            · intro pass among
              cases passes with
              | nil => cases among
              | cons second following =>
                  rw [List.dropLast_cons_cons] at among
                  rcases List.mem_cons.mp among with first | after
                  · rw [first]
                    exact whole fun none => absurd (idle none) (List.cons_ne_nil _ _)
                  · exact selection.full pass after

theorem dataset_assembly_complete (usable : ∃ record ∈ dataset.records, record.2 ++ dataset.separator ≠ [])
    (charactersPerToken : Rat) (budget seed : Int) :
    ∃ text selected passes,
      (∀ fuel, (roundHalfEven (budget * charactersPerToken)).toNat ≤ fuel →
        assembleDataset gen fuel dataset charactersPerToken budget seed = .ok (text, selected)) ∧
      (text.length : Int) = max 0 (roundHalfEven (budget * charactersPerToken)) ∧ Selection dataset text selected passes := by
  obtain ⟨pieces, selected, passes, runs, length, selection, _⟩ :=
    assemble_cycles_selection gen dataset usable (roundHalfEven (budget * charactersPerToken)).toNat (gen.seeded seed)
  refine ⟨pieces.flatten, selected, passes, ?_, ?_, selection⟩
  · intro fuel enough
    have some : ¬ dataset.records = [] := by
      intro none
      obtain ⟨record, among, _⟩ := usable
      rw [none] at among
      cases among
    rw [assembleDataset, if_neg some, runs fuel enough]
    rfl
  · rw [length]
    omega

def spacedDataset : PromptDataset := ⟨"letters", [(0, ['a', 'b']), (1, []), (2, ['c'])], ['\n'], none⟩

theorem dataset_assembly_six :
    ∃ text selected passes,
      (∀ fuel, (roundHalfEven (((4 : Int) : Rat) * (3 / 2))).toNat ≤ fuel →
        assembleDataset lowDraws fuel spacedDataset (3 / 2) 4 7 = .ok (text, selected)) ∧
      (text.length : Int) = 6 ∧ Selection spacedDataset text selected passes := by
  have six : max 0 (roundHalfEven (((4 : Int) : Rat) * (3 / 2))) = 6 := by
    norm_num [roundHalfEven, Int.floor_eq_iff, Int.fract]
  obtain ⟨text, selected, passes, runs, length, selection⟩ :=
    dataset_assembly_complete lowDraws spacedDataset ⟨(0, ['a', 'b']), by decide, by decide⟩ (3 / 2) 4 7
  exact ⟨text, selected, passes, runs, length.trans six, selection⟩

end Assembly

end LlmperfOrchestrator.Preparation

import Mathlib.Order.Interval.Finset.Nat

set_option autoImplicit false

namespace LlmperfOrchestrator.Blocks

variable {α : Type}

def blockCount (count width : Nat) : Nat := (count + width - 1) / width

-- Each value stands in one run of positions no longer than the width, and there
-- are as many values as blocks.
structure Repeats [DecidableEq α] (count width : Nat) (value : Nat → α) : Prop where
  distinct : ((Finset.range count).image value).card = blockCount count width
  often : ∀ x, ((Finset.range count).filter fun position => value position = x).card ≤ width
  consecutive : ∀ i j k, i ≤ j → j ≤ k → k < count → value i = value k → value j = value k

def Blocked (count width : Nat) (value : Nat → α) : Prop :=
  ∀ i j, i < count → j < count → (value i = value j ↔ i / width = j / width)

def Constant (count width : Nat) (value : Nat → α) : Prop :=
  ∀ i j, i < count → j < count → i / width = j / width → value i = value j

variable (count width : Nat) (value : Nat → α)

theorem blocked_constant (blocked : Blocked count width value) :
    Constant count width value :=
  fun i j first second same => (blocked i j first second).mpr same

theorem block_inside (count width position : Nat) (positive : 0 < width) (inside : position < count) :
    position / width < blockCount count width := by
  have start : position / width * width ≤ position := Nat.div_mul_le_self position width
  rw [blockCount, ← Nat.succ_le_iff, Nat.le_div_iff_mul_le positive, Nat.succ_mul]
  omega

theorem block_start (count width block : Nat) (positive : 0 < width) (inside : block < blockCount count width) :
    block * width < count := by
  rw [blockCount, ← Nat.succ_le_iff, Nat.le_div_iff_mul_le positive, Nat.succ_mul] at inside
  omega

section Counts

variable [DecidableEq α]

theorem constant_image (positive : 0 < width) (constant : Constant count width value) :
    (Finset.range count).image value = (Finset.range (blockCount count width)).image fun block => value (block * width) := by
  ext x
  simp only [Finset.mem_image, Finset.mem_range]
  constructor
  · intro held
    obtain ⟨position, inside, rfl⟩ := held
    have block := block_inside count width position positive inside
    refine ⟨position / width, block, ?_⟩
    exact constant _ _ (block_start count width _ positive block) inside (Nat.mul_div_cancel _ positive)
  · intro held
    obtain ⟨block, inside, rfl⟩ := held
    exact ⟨block * width, block_start count width block positive inside, rfl⟩

theorem blocked_distinct (positive : 0 < width) (blocked : Blocked count width value) :
    ((Finset.range count).image value).card = blockCount count width := by
  rw [constant_image count width value positive (blocked_constant count width value blocked), Finset.card_image_of_injOn,
    Finset.card_range]
  intro first low second high same
  have start := block_start count width first positive (Finset.mem_range.mp low)
  have other := block_start count width second positive (Finset.mem_range.mp high)
  have block := (blocked _ _ start other).mp same
  rwa [Nat.mul_div_cancel _ positive, Nat.mul_div_cancel _ positive] at block

theorem blocked_often (positive : 0 < width) (blocked : Blocked count width value) (x : α) :
    ((Finset.range count).filter fun position => value position = x).card ≤ width := by
  rcases ((Finset.range count).filter fun position => value position = x).eq_empty_or_nonempty with empty | held
  · rw [empty]
    exact Nat.zero_le width
  · obtain ⟨first, listed⟩ := held
    obtain ⟨inside, holds⟩ := Finset.mem_filter.mp listed
    have run : ((Finset.range count).filter fun position => value position = x) ⊆
        Finset.Ico (first / width * width) (first / width * width + width) := by
      intro position member
      obtain ⟨within, same⟩ := Finset.mem_filter.mp member
      have block := (blocked position first (Finset.mem_range.mp within) (Finset.mem_range.mp inside)).mp (same.trans holds.symm)
      have low := Nat.div_mul_le_self position width
      have high := Nat.lt_div_mul_add positive (a := position)
      rw [block] at low high
      exact Finset.mem_Ico.mpr ⟨low, high⟩
    calc _ ≤ (Finset.Ico (first / width * width) (first / width * width + width)).card := Finset.card_le_card run
      _ = width := by rw [Nat.card_Ico, Nat.add_sub_cancel_left]

theorem blocked_repeats (positive : 0 < width) (blocked : Blocked count width value) :
    Repeats count width value where
  distinct := blocked_distinct count width value positive blocked
  often := blocked_often count width value positive blocked
  consecutive := by
    intro i j k before after inside same
    have ends := (blocked i k (by omega) inside).mp same
    have low : i / width ≤ j / width := Nat.div_le_div_right before
    have high : j / width ≤ k / width := Nat.div_le_div_right after
    exact (blocked j k (by omega) inside).mpr (by omega)

theorem distinct_blocked (positive : 0 < width) (constant : Constant count width value)
    (distinct : ((Finset.range count).image value).card = blockCount count width) : Blocked count width value := by
  rw [constant_image count width value positive constant] at distinct
  have injective : Set.InjOn (fun block => value (block * width)) (Finset.range (blockCount count width)) :=
    Finset.card_image_iff.mp (distinct.trans (Finset.card_range _).symm)
  intro i j first second
  refine ⟨?_, constant i j first second⟩
  intro same
  have left := block_inside count width i positive first
  have right := block_inside count width j positive second
  apply injective (Finset.mem_coe.mpr (Finset.mem_range.mpr left)) (Finset.mem_coe.mpr (Finset.mem_range.mpr right))
  have begins := constant _ i (block_start count width _ positive left) first (Nat.mul_div_cancel _ positive)
  have ends := constant _ j (block_start count width _ positive right) second (Nat.mul_div_cancel _ positive)
  exact begins.trans (same.trans ends.symm)

end Counts

end LlmperfOrchestrator.Blocks

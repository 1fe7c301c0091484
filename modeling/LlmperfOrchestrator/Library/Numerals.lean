import Mathlib.Data.List.Basic

set_option autoImplicit false

namespace LlmperfOrchestrator.Numerals

def Closed (text : List Char) : Prop := ∀ c ∈ text.head?, c.isDigit = false

theorem run_split (marked : Char → Bool) (first second rest other : List Char) (inFirst : ∀ c ∈ first, marked c = true)
    (inSecond : ∀ c ∈ second, marked c = true) (afterFirst : ∀ c ∈ rest.head?, marked c = false)
    (afterSecond : ∀ c ∈ other.head?, marked c = false) (same : first ++ rest = second ++ other) :
    first = second ∧ rest = other := by
  induction first generalizing second with
  | nil =>
      cases second with
      | nil => exact ⟨rfl, same⟩
      | cons c others =>
          rw [List.nil_append] at same
          have absent := afterFirst c (by rw [same]; rfl)
          rw [inSecond c List.mem_cons_self] at absent
          cases absent
  | cons c others ih =>
      cases second with
      | nil =>
          rw [List.nil_append] at same
          have absent := afterSecond c (by rw [← same]; rfl)
          rw [inFirst c List.mem_cons_self] at absent
          cases absent
      | cons d more =>
          rw [List.cons_append, List.cons_append, List.cons.injEq] at same
          obtain ⟨rfl, same⟩ := same
          obtain ⟨rfl, rest⟩ := ih more (fun d member => inFirst d (List.mem_cons_of_mem c member))
            (fun d member => inSecond d (List.mem_cons_of_mem c member)) same
          exact ⟨rfl, rest⟩

theorem natural_digits (n : Nat) : ∀ c ∈ n.repr.toList, c.isDigit = true := by
  intro c member
  rw [Nat.toList_repr] at member
  exact Nat.isDigit_of_mem_toDigits (by decide) (by decide) member

theorem natural_injective (a b : Nat) (same : a.repr.toList = b.repr.toList) : a = b := by
  rw [Nat.toList_repr, Nat.toList_repr] at same
  have read := congrArg (fun digits => Nat.ofDigitChars 10 digits 0) same
  simpa using read

theorem natural_split (a b : Nat) (rest other : List Char) (closed : Closed rest) (closedOther : Closed other)
    (same : a.repr.toList ++ rest = b.repr.toList ++ other) : a = b ∧ rest = other := by
  obtain ⟨digits, tail⟩ := run_split Char.isDigit _ _ rest other (natural_digits a) (natural_digits b) closed closedOther same
  exact ⟨natural_injective a b digits, tail⟩

theorem padded_injective (a b zeros others : Nat)
    (same : List.replicate zeros '0' ++ a.repr.toList = List.replicate others '0' ++ b.repr.toList) : a = b := by
  rw [Nat.toList_repr, Nat.toList_repr] at same
  have read := congrArg (fun digits => Nat.ofDigitChars 10 digits 0) same
  simpa [Nat.ofDigitChars_append] using read

theorem minus_natural (n : Nat) (rest : List Char) (other : List Char) : '-' :: rest ≠ n.repr.toList ++ other := by
  intro same
  cases read : n.repr.toList with
  | nil => simp at read
  | cons c others =>
      rw [read, List.cons_append, List.cons.injEq] at same
      have digit := natural_digits n c (read ▸ List.mem_cons_self)
      rw [← same.1] at digit
      exact absurd digit (by decide)

theorem negative_text (n : Nat) : (toString (Int.negSucc n)).toList = '-' :: (n + 1).repr.toList := by
  simp [Int.repr]

theorem integer_split (a b : Int) (rest other : List Char) (closed : Closed rest) (closedOther : Closed other)
    (same : (toString a).toList ++ rest = (toString b).toList ++ other) : a = b ∧ rest = other := by
  cases a with
  | ofNat m =>
      cases b with
      | ofNat n =>
          obtain ⟨number, tail⟩ := natural_split m n rest other closed closedOther same
          exact ⟨congrArg Int.ofNat number, tail⟩
      | negSucc n =>
          rw [negative_text, List.cons_append] at same
          exact absurd same.symm (minus_natural m _ _)
  | negSucc m =>
      cases b with
      | ofNat n =>
          rw [negative_text, List.cons_append] at same
          exact absurd same (minus_natural n _ _)
      | negSucc n =>
          rw [negative_text, negative_text, List.cons_append, List.cons_append] at same
          obtain ⟨number, tail⟩ := natural_split (m + 1) (n + 1) rest other closed closedOther (List.cons.inj same).2
          exact ⟨congrArg Int.negSucc (Nat.succ.inj number), tail⟩

end LlmperfOrchestrator.Numerals

import LlmperfOrchestrator.Library.Tables

set_option autoImplicit false

namespace LlmperfOrchestrator.Windows

open Tables

variable {Item : Type}

structure Window (Item : Type) where
  items : List Item
  held : Int
  lost : Bool
deriving DecidableEq, Repr

section

variable (weight : Item → Nat) (capacity : Nat)

-- The oldest items go until there is room for the needed weight.
def makeRoom (need : Nat) : List Item → Int → Bool → Window Item
  | [], held, lost => ⟨[], held, lost⟩
  | first :: rest, held, lost =>
      if capacity < held + need then makeRoom need rest (held - weight first) true else ⟨first :: rest, held, lost⟩

def add (item : Item) (window : Window Item) : Window Item :=
  if capacity < weight item then { window with lost := true }
  else
    let room := makeRoom weight capacity (weight item) window.items window.held window.lost
    ⟨room.items ++ [item], room.held + weight item, room.lost⟩

structure Follows (recorded : List Item) (window : Window Item) : Prop where
  exact : window.held = total weight window.items
  fits : window.held ≤ capacity
  order : window.items.Sublist recorded
  complete : window.lost = false ↔ window.items = recorded

theorem follows_nothing : Follows weight capacity [] ⟨[], 0, false⟩ where
  exact := rfl
  fits := Int.natCast_nonneg capacity
  order := List.Sublist.refl []
  complete := iff_of_true rfl rfl

structure Room (need : Nat) (items : List Item) (lost : Bool) (room : Window Item) : Prop where
  exact : room.held = total weight room.items
  fits : room.held + need ≤ capacity
  suffix : room.items <:+ items
  complete : room.lost = false ↔ lost = false ∧ room.items = items

theorem make_room (need : Nat) (small : need ≤ capacity) (items : List Item) (held : Int) (lost : Bool)
    (exact : held = total weight items) :
    Room weight capacity need items lost (makeRoom weight capacity need items held lost) := by
  induction items generalizing held lost with
  | nil =>
      refine ⟨exact, ?_, List.suffix_refl [], ?_⟩
      · change held + need ≤ capacity
        rw [exact, total_nil]
        omega
      · exact ⟨fun kept => ⟨kept, rfl⟩, fun kept => kept.1⟩
  | cons first rest ih =>
      rw [total_cons] at exact
      rw [makeRoom]
      by_cases full : (capacity : Int) < held + need
      · rw [if_pos full]
        have room := ih (held - weight first) true (by omega)
        refine ⟨room.exact, room.fits, room.suffix.trans (List.suffix_cons first rest), ?_⟩
        constructor
        · intro kept
          cases (room.complete.mp kept).1
        · intro kept
          have short := room.suffix.length_le
          rw [kept.2, List.length_cons] at short
          omega
      · rw [if_neg full]
        refine ⟨?_, Int.not_lt.mp full, List.suffix_refl _, ⟨fun kept => ⟨kept, rfl⟩, fun kept => kept.1⟩⟩
        rw [total_cons]
        exact exact

theorem add_follows (recorded : List Item) (window : Window Item) (follows : Follows weight capacity recorded window) (item : Item) :
    Follows weight capacity (recorded ++ [item]) (add weight capacity item window) := by
  rw [add]
  by_cases large : capacity < weight item
  · rw [if_pos large]
    refine ⟨follows.exact, follows.fits, follows.order.trans (List.sublist_append_left recorded [item]), ?_⟩
    apply iff_of_false Bool.noConfusion
    intro same
    have shorter := follows.order.length_le
    have long : window.items.length = (recorded ++ [item]).length := congrArg List.length same
    rw [List.length_append, List.length_singleton] at long
    omega
  · rw [if_neg large]
    have room := make_room weight capacity (weight item) (Nat.le_of_not_lt large) window.items window.held window.lost follows.exact
    refine ⟨?_, room.fits, (room.suffix.sublist.trans follows.order).append_right [item], ?_⟩
    · dsimp only
      rw [room.exact, total_append, total_cons, total_nil]
      push_cast
      omega
    · dsimp only
      rw [List.append_left_inj]
      refine room.complete.trans ?_
      constructor
      · intro kept
        exact kept.2.trans (follows.complete.mp kept.1)
      · intro same
        -- Nothing can be missing between the room and the stream.
        have whole : window.items = recorded :=
          follows.order.eq_of_length_le (same ▸ room.suffix.length_le)
        exact ⟨follows.complete.mpr whole, same.trans whole.symm⟩

end

end LlmperfOrchestrator.Windows

import Mathlib.Data.List.Basic

/-!
# Bounded overtaking

Several hands work off a line. Each has taken the first element that nobody had taken yet, so
that only the foremost elements of what is left are in hand, but which of them is done next is
open: one element may overtake another while both are in hand. With a single hand there is no
overtaking, and the line is worked off in its order.
-/

namespace FlashSale

variable {α : Type}

/-- The elements of the first list can be done in the order of the second one by so many hands.
The element that is done next has fewer elements before it than there are hands; the others stay
where they are. -/
inductive Draws (hands : Nat) : List α → List α → Prop where
  | nil : Draws hands [] []
  | draw {front back done : List α} {a : α} (reach : front.length < hands)
      (rest : Draws hands (front ++ back) done) : Draws hands (front ++ a :: back) (a :: done)

namespace Draws

variable {hands more : Nat} {line done : List α}

theorem perm (draws : Draws hands line done) : done.Perm line := by
  induction draws with
  | nil => exact .nil
  | draw reach rest ih => exact (ih.cons _).trans List.perm_middle.symm

/-- Whatever hands there are, the line may be worked off in its order. -/
theorem inOrder (someone : 0 < hands) (line : List α) : Draws hands line line := by
  induction line with
  | nil => exact .nil
  | cons a rest ih => exact @draw _ hands [] rest rest a someone ih

theorem mono (enough : hands ≤ more) (draws : Draws hands line done) : Draws more line done := by
  induction draws with
  | nil => exact .nil
  | draw reach rest ih => exact .draw (Nat.lt_of_lt_of_le reach enough) ih

/-- A single hand does everything in its order. There is nothing in front of what it
does next. -/
theorem eq_of_one (draws : Draws 1 line done) : done = line := by
  induction draws with
  | nil => rfl
  | draw reach rest ih =>
      obtain rfl := List.length_eq_zero_iff.mp (Nat.lt_one_iff.mp reach)
      rw [ih, List.nil_append, List.nil_append]

end Draws

end FlashSale

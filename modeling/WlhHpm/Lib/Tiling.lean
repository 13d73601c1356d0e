import Mathlib.Tactic

/-!
# Ranges that lie end to end

A range is its start and its length. `Tiles a l b` says that the ranges of `l` lie end to end from `a`
to `b`: they cover every number from `a` up to `b` exactly once and in increasing order
(`Tiles.count`).
-/

namespace WlhHpm

/-- The number lies in the range. -/
def InRange (r : Nat × Nat) (i : Nat) : Prop := r.1 ≤ i ∧ i < r.1 + r.2

instance (r : Nat × Nat) (i : Nat) : Decidable (InRange r i) := inferInstanceAs (Decidable (_ ∧ _))

/-- The ranges lie end to end from `a` to `b`. -/
def Tiles : Nat → List (Nat × Nat) → Nat → Prop
  | a, [], b => a = b
  | a, r :: l, b => r.1 = a ∧ Tiles (a + r.2) l b

namespace Tiles
variable {a b : Nat} {l : List (Nat × Nat)}

/-- Ranges end behind their beginning. -/
lemma le (h : Tiles a l b) : a ≤ b := by
  induction l generalizing a with
  | nil => exact h.le
  | cons r l ih => exact (Nat.le_add_right a r.2).trans (ih h.2)

/-- A number between the ends is in exactly one of the ranges, any other number in none. -/
lemma count (h : Tiles a l b) (i : Nat) :
    l.countP (fun r => InRange r i) = if a ≤ i ∧ i < b then 1 else 0 := by
  induction l generalizing a with
  | nil =>
    cases h
    rw [if_neg (by omega), List.countP_nil]
  | cons r l ih =>
    obtain ⟨rfl, rest⟩ := h
    have le := rest.le
    rw [List.countP_cons, ih rest]
    by_cases here : InRange r i
    · have here' := here
      unfold InRange at here'
      rw [if_neg (by omega), if_pos (decide_eq_true here), if_pos (by omega)]
    · have out : ¬ (r.1 ≤ i ∧ i < r.1 + r.2) := here
      have no : ¬ decide (InRange r i) = true := by simpa using here
      rw [if_neg no, Nat.add_zero]
      exact if_congr (by omega) rfl rfl

/-- The ranges cover what lies between the ends. -/
lemma covers (h : Tiles a l b) (i : Nat) : (∃ r ∈ l, InRange r i) ↔ a ≤ i ∧ i < b := by
  have pos := List.countP_pos_iff (p := fun r => decide (InRange r i)) (l := l)
  rw [h.count i] at pos
  simp only [decide_eq_true_eq] at pos
  rw [← pos]
  split <;> simp_all

end Tiles

end WlhHpm

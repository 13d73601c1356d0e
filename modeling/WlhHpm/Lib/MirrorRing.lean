import Mathlib.Data.Nat.Bits
import WlhHpm.Lib.Memory

/-!
# Rings with mirrored indices

A queue kept in a ring of `n` cells. A position is a number that only grows; the ring keeps of it the
cell `c % n` and the side of a mirror, which changes whenever the position passes the end of the
ring. Cell and side of a position that has moved by at most `n` follow from those before it
(`mod_add`, `mirror_add`), and they tell how far apart two positions are as long as that is not more
than `n` (`distance_eq`).

`window` is the content between two positions. `window_fills` says what a store behind a window does
to it.
-/

namespace WlhHpm.MirrorRing

/-! ## Positions -/

/-- The side of the mirror on which position `c` lies. -/
def mirror (n c : Nat) : Bool := (c / n).bodd

section Positions
variable {n c d : Nat}

/-- A position within the distance to the end of the ring. -/
lemma add_near (near : d < n - c % n) : (c + d) % n = c % n + d ∧ (c + d) / n = c / n := by
  have split : c + d = n * (c / n) + (c % n + d) := by
    rw [← Nat.add_assoc, Nat.div_add_mod]
  have lt : c % n + d < n := by omega
  rw [split, Nat.mul_add_mod, Nat.mod_eq_of_lt lt, Nat.mul_add_div (by omega), Nat.div_eq_of_lt lt]
  exact ⟨rfl, rfl⟩

/-- A position beyond the end of the ring. -/
lemma add_far (pos : 0 < n) (le : d ≤ n) (far : n - c % n ≤ d) :
    (c + d) % n = d - (n - c % n) ∧ (c + d) / n = c / n + 1 := by
  have cell : c % n < n := Nat.mod_lt c pos
  have split : c + d = n * (c / n + 1) + (d - (n - c % n)) := by
    have := Nat.div_add_mod c n
    rw [Nat.mul_add, Nat.mul_one]
    omega
  have lt : d - (n - c % n) < n := by omega
  rw [split, Nat.mul_add_mod, Nat.mod_eq_of_lt lt, Nat.mul_add_div pos, Nat.div_eq_of_lt lt]
  exact ⟨rfl, rfl⟩

/-- The index `d` positions further on. -/
lemma mod_add (pos : 0 < n) (le : d ≤ n) :
    (c + d) % n = if n - c % n > d then c % n + d else d - (n - c % n) := by
  split_ifs with near
  · exact (add_near near).1
  · exact (add_far pos le (Nat.le_of_not_lt near)).1

/-- The side of the mirror `d` positions further on. -/
lemma mirror_add (pos : 0 < n) (le : d ≤ n) :
    mirror n (c + d) = if n - c % n > d then mirror n c else !mirror n c := by
  unfold mirror
  split_ifs with near
  · rw [(add_near near).2]
  · rw [(add_far pos le (Nat.le_of_not_lt near)).2, Nat.bodd_succ]

/-- The side of a later position within a turn, read off the cells. -/
lemma mirror_add_of_pos (pos : 0 < d) (le : d ≤ n) :
    mirror n (c + d) = if (c + d) % n ≤ c % n then !mirror n c else mirror n c := by
  have cell : c % n < n := Nat.mod_lt c (pos.trans_le le)
  rw [mirror_add (pos.trans_le le) le, mod_add (pos.trans_le le) le]
  by_cases near : n - c % n > d
  · rw [if_pos near, if_pos near, if_neg (by omega)]
  · rw [if_neg near, if_neg near, if_pos (by omega)]

/-- How far `d` places are, read off the cells and the sides. -/
lemma distance_eq (pos : 0 < n) (le : d ≤ n) :
    d = if c % n = (c + d) % n then if mirror n c = mirror n (c + d) then 0 else n
      else if (c + d) % n > c % n then (c + d) % n - c % n
      else n - (c % n - (c + d) % n) := by
  have cell : c % n < n := Nat.mod_lt c pos
  rw [mod_add pos le, mirror_add pos le]
  by_cases near : n - c % n > d
  · rw [if_pos near, if_pos near, if_pos rfl]
    split_ifs <;> omega
  · rw [if_neg near, if_neg near, if_neg (show ¬ mirror n c = !mirror n c by simp)]
    split_ifs <;> omega

/-- Positions that are less than a turn apart have different cells. -/
lemma mod_ne (pos : 0 < d) (lt : d < n) : (c + d) % n ≠ c % n := by
  have cell : c % n < n := Nat.mod_lt c (pos.trans lt)
  rw [mod_add (pos.trans lt) lt.le]
  split_ifs <;> omega

end Positions

/-! ## The content between two positions -/

section Windows
variable {α : Type*} {buf buf' : Nat → α} {n a c k len : Nat} {l : List α}

/-- The content of the `len` positions from `a` on. -/
def window (buf : Nat → α) (n a len : Nat) : List α := (List.range' a len).map fun c => buf (c % n)

/-- So many positions. -/
@[simp] lemma window_length (buf : Nat → α) (n a len : Nat) : (window buf n a len).length = len := by
  rw [window, List.length_map, List.length_range']

/-- Two stretches of positions. -/
lemma window_append (buf : Nat → α) (n a k len : Nat) :
    window buf n a (k + len) = window buf n a k ++ window buf n (a + k) len := by
  have split : List.range' a (k + len) = List.range' a k ++ List.range' (a + k) len := by
    rw [List.range'_append_1]
  rw [window, window, window, split, List.map_append]

/-- The first positions. -/
lemma window_take (buf : Nat → α) (n a : Nat) (le : k ≤ len) :
    (window buf n a len).take k = window buf n a k := by
  obtain ⟨m, rfl⟩ := Nat.exists_eq_add_of_le le
  rw [window_append, List.take_left' (window_length buf n a k)]

/-- The last positions. -/
lemma window_drop (buf : Nat → α) (n a : Nat) (le : k ≤ len) :
    (window buf n a len).drop k = window buf n (a + k) (len - k) := by
  obtain ⟨m, rfl⟩ := Nat.exists_eq_add_of_le le
  rw [window_append, List.drop_left' (window_length buf n a k), Nat.add_sub_cancel_left]

/-- Two buffers that agree on the positions. -/
lemma window_congr (same : ∀ c, a ≤ c → c < a + len → buf' (c % n) = buf (c % n)) :
    window buf' n a len = window buf n a len := by
  apply List.map_congr_left
  intro c mem
  obtain ⟨lo, hi⟩ := List.mem_range'_1.mp mem
  exact same c lo hi

/-- The list `l` has been stored from position `c` on. -/
structure Fills (buf buf' : Nat → α) (n c : Nat) (l : List α) : Prop where
  stored : ∀ j (lt : j < l.length), buf' ((c + j) % n) = l[j]
  kept : ∀ i < n, (∀ j < l.length, (c + j) % n ≠ i) → buf' i = buf i

/-- What has been stored is there. -/
lemma Fills.window (fills : Fills buf buf' n c l) : MirrorRing.window buf' n c l.length = l := by
  apply List.ext_getElem
  · exact window_length buf' n c l.length
  · intro j _ lt
    simp only [MirrorRing.window, List.getElem_map, List.getElem_range', Nat.one_mul]
    exact fills.stored j lt

/-- A store behind a window appends to it, as long as the ring is not too small for both. -/
lemma window_fills (pos : 0 < n) (fills : Fills buf buf' n (a + len) l) (fits : len + l.length ≤ n) :
    window buf' n a (len + l.length) = window buf n a len ++ l := by
  rw [window_append, fills.window]
  congr 1
  apply window_congr
  intro c lo hi
  apply fills.kept _ (Nat.mod_lt c pos)
  intro j lt
  have apart : a + len + j = c + (a + len + j - c) := by omega
  rw [apart]
  exact mod_ne (by omega) (by omega)

/-- Two windows over the same cells. -/
lemma window_mod (buf : Nat → α) (n a len : Nat) : window buf n (a % n) len = window buf n a len := by
  induction len generalizing a with
  | zero => rfl
  | succ len ih =>
    rw [Nat.add_comm, window_append, window_append, ← ih (a + 1), ← ih (a % n + 1), Nat.mod_add_mod]
    simp [window]

end Windows

/-! ## Windows of a memory -/

section Memory
variable {m : Mem} {n c k : Nat} {l : List UInt8}

/-- A piece that does not pass the end of the ring. -/
lemma window_linear (m : Mem) (fits : c % n + k ≤ n) :
    window m n c k = (m.shift (c % n)).toList k := by
  rw [← window_mod, window, Mem.toList, List.range'_eq_map_range, List.map_map]
  apply List.map_congr_left
  intro j mem
  have lt : j < k := List.mem_range.mp mem
  have inside : c % n + j < n := by omega
  simp only [Function.comp_apply, Mem.shift, Nat.mod_eq_of_lt inside]

/-- A piece that reaches or passes the end of the ring. -/
lemma window_wrap (m : Mem) (pos : 0 < n) (le : k ≤ n) (far : n - c % n ≤ k) :
    window m n c k = (m.shift (c % n)).toList (n - c % n) ++ m.toList (k - (n - c % n)) := by
  have cell : c % n < n := Nat.mod_lt c pos
  have start : (c + (n - c % n)) % n = 0 := by
    rw [(add_far pos (Nat.sub_le _ _) le_rfl).1, Nat.sub_self]
  obtain ⟨rest, rfl⟩ := Nat.exists_eq_add_of_le far
  rw [window_append, window_linear m (by omega), window_linear m (by omega), start, Mem.shift_zero,
    Nat.add_sub_cancel_left]

section Copies
variable {src : Mem} (source : ∀ j (lt : j < l.length), src j = l[j])
include source

/-- One copy stores a list that does not pass the end of the ring. -/
lemma fills_copy (near : l.length ≤ n - c % n) : Fills m (m.copy (c % n) l.length src) n c l where
  stored j lt := by
    have cell : (c + j) % n = c % n + j := (add_near (by omega)).1
    rw [cell, Mem.copy_in (by omega) (by omega), Nat.add_sub_cancel_left, source j lt]
  kept i lt out := by
    apply Mem.copy_out
    by_contra inside
    apply out (i - c % n) (by omega)
    rw [(add_near (by omega)).1]
    omega

/-- Two copies store a list that reaches or passes the end of the ring. -/
lemma fills_wrap (pos : 0 < n) (le : l.length ≤ n) (far : n - c % n ≤ l.length) :
    Fills m ((m.copy (c % n) (n - c % n) src).copy 0 (l.length - (n - c % n))
      (src.shift (n - c % n))) n c l where
  stored j lt := by
    have cell : c % n < n := Nat.mod_lt c pos
    by_cases near : j < n - c % n
    · rw [(add_near near).1, Mem.copy_out (by omega), Mem.copy_in (by omega) (by omega),
        Nat.add_sub_cancel_left, source j lt]
    · rw [(add_far pos (by omega) (Nat.le_of_not_lt near)).1,
        Mem.copy_in (Nat.zero_le _) (by omega), Nat.sub_zero, Mem.shift, ← source j lt]
      congr 1
      omega
  kept i lt out := by
    have cell : c % n < n := Nat.mod_lt c pos
    have high : i < c % n := by
      by_contra inside
      apply out (i - c % n) (by omega)
      rw [(add_near (by omega)).1]
      omega
    have low : l.length - (n - c % n) ≤ i := by
      by_contra inside
      apply out (n - c % n + i) (by omega)
      rw [(add_far pos (by omega) (Nat.le_add_right _ _)).1]
      omega
    rw [Mem.copy_out (by omega), Mem.copy_out (Or.inl high)]

end Copies

/-- Storing one byte. -/
lemma fills_update (m : Mem) (n c : Nat) (b : UInt8) :
    Fills m (Function.update m (c % n) b) n c [b] where
  stored j lt := by
    obtain rfl : j = 0 := Nat.lt_one_iff.mp lt
    exact Function.update_self (c % n) b m
  kept i _ out := Function.update_of_ne (out 0 Nat.one_pos).symm b m

end Memory

end WlhHpm.MirrorRing

import Mathlib.Data.UInt
import Mathlib.Tactic

/-!
# Byte memory

A byte memory is a total map from addresses to bytes. Every operation that touches memory in this
development (a copy into a buffer, a flash erase, a flash program) changes one contiguous range of
it, byte by byte, so all of them are instances of one operation `Mem.patch`, and the two lemmas
`patch_in` / `patch_out` (inside the range, outside the range) are all that the later layers use.

`Mem.copy` is `memcpy`, `Mem.erase` sets a range to `0xff`, `Mem.program` is a NOR flash program
operation, which can only clear bits, and `Mem.scribble` leaves a range in a given arbitrary state.

Code that fills a buffer through a pointer is a function on memories; `Mem.WritesIn` says that it
stores fixed bytes in the first `n` addresses only, and `Mem.beyond` is a call with the pointer moved
on.
-/

namespace WlhHpm

/-- A byte memory: what is stored at each address. -/
abbrev Mem := Nat → UInt8

namespace Mem

/-- Change the bytes of `[a, a + n)`: byte `a + j` becomes `g j` of its old value. -/
def patch (m : Mem) (a n : Nat) (g : Nat → UInt8 → UInt8) : Mem :=
  fun i => if a ≤ i ∧ i < a + n then g (i - a) (m i) else m i

/-- Copy `n` bytes of `src` to address `a` (`memcpy`). -/
def copy (m : Mem) (a n : Nat) (src : Mem) : Mem := m.patch a n fun j _ => src j

/-- Set the `n` bytes at address `a` to the erased value. -/
def erase (m : Mem) (a n : Nat) : Mem := m.patch a n fun _ _ => 0xff

/-- Program `n` bytes of `src` at address `a`: a program operation only clears bits. -/
def program (m : Mem) (a n : Nat) (src : Mem) : Mem := m.patch a n fun j old => old &&& src j

/-- Leave the `n` bytes at address `a` as they stand in `junk`. -/
def scribble (m : Mem) (a n : Nat) (junk : Mem) : Mem := m.patch a n fun j _ => junk (a + j)

/-- The memory as seen through a pointer `a` bytes further on. -/
def shift (m : Mem) (a : Nat) : Mem := fun i => m (a + i)

/-- The memory that holds a list of bytes from address `0` on (and zeros after it). -/
def ofList (l : List UInt8) : Mem := fun i => l.getD i 0

/-- The first `n` bytes of a memory. -/
def toList (m : Mem) (n : Nat) : List UInt8 := (List.range n).map m

/-- Run `g` on the memory from address `a` on: the call `g (buff + a)`. -/
def beyond (m : Mem) (a : Nat) (g : Mem → Mem) : Mem :=
  fun i => if i < a then m i else g (m.shift a) (i - a)

/-- `g` stores fixed bytes at some of the first `n` addresses and leaves the rest as it is. -/
def WritesIn (n : Nat) (g : Mem → Mem) : Prop :=
  ∀ i, (i < n ∧ ∃ b, ∀ m, g m i = b) ∨ ∀ m, g m i = m i

/-- Inside the patched range. -/
lemma patch_in {m : Mem} {a n g i} (lo : a ≤ i) (hi : i < a + n) :
    m.patch a n g i = g (i - a) (m i) := by
  simp only [patch, lo, hi, and_self, if_true]

/-- Outside the patched range. -/
lemma patch_out {m : Mem} {a n g i} (h : i < a ∨ a + n ≤ i) : m.patch a n g i = m i := by
  unfold patch
  rw [if_neg (by omega)]

/-- A byte that is copied. -/
lemma copy_in {m : Mem} {a n src i} (lo : a ≤ i) (hi : i < a + n) :
    m.copy a n src i = src (i - a) := patch_in lo hi

/-- A byte outside the copy. -/
lemma copy_out {m : Mem} {a n src i} (h : i < a ∨ a + n ≤ i) : m.copy a n src i = m i :=
  patch_out h

/-- A byte that is erased. -/
lemma erase_in {m : Mem} {a n i} (lo : a ≤ i) (hi : i < a + n) : m.erase a n i = 0xff :=
  patch_in lo hi

/-- A byte outside the erased range. -/
lemma erase_out {m : Mem} {a n i} (h : i < a ∨ a + n ≤ i) : m.erase a n i = m i := patch_out h

/-- A byte that is programmed. -/
lemma program_in {m : Mem} {a n src i} (lo : a ≤ i) (hi : i < a + n) :
    m.program a n src i = m i &&& src (i - a) := patch_in lo hi

/-- A byte outside the programmed range. -/
lemma program_out {m : Mem} {a n src i} (h : i < a ∨ a + n ≤ i) : m.program a n src i = m i :=
  patch_out h

/-- A byte outside the range. -/
lemma scribble_out {m : Mem} {a n junk i} (h : i < a ∨ a + n ≤ i) : m.scribble a n junk i = m i :=
  patch_out h

/-- An empty patch changes nothing. -/
@[simp] lemma patch_zero (m : Mem) (a g) : m.patch a 0 g = m := by
  funext i
  exact patch_out (by omega)

/-- Two patches side by side are one patch. -/
lemma patch_append (m : Mem) (a n k : Nat) (g : Nat → UInt8 → UInt8) :
    (m.patch a n g).patch (a + n) k (fun j => g (n + j)) = m.patch a (n + k) g := by
  funext i
  by_cases h1 : a ≤ i ∧ i < a + n
  · rw [patch_out (by omega), patch_in h1.1 h1.2, patch_in h1.1 (by omega)]
  · by_cases h2 : a + n ≤ i ∧ i < a + n + k
    · rw [patch_in h2.1 h2.2, patch_out (by omega), patch_in (by omega) (by omega)]
      congr 1
      omega
    · rw [patch_out (by omega), patch_out (by omega), patch_out (by omega)]

/-- A pointer to the beginning. -/
@[simp] lemma shift_zero (m : Mem) : m.shift 0 = m := by
  funext i
  simp only [shift, Nat.zero_add]

/-- A pointer that is moved twice. -/
@[simp] lemma shift_shift (m : Mem) (a b : Nat) : (m.shift a).shift b = m.shift (a + b) := by
  funext i
  simp only [shift, Nat.add_assoc]

/-- So many bytes are read. -/
@[simp] lemma toList_length (m : Mem) (n : Nat) : (m.toList n).length = n := by
  simp [toList]

/-- Reading depends on the bytes that are read. -/
lemma toList_congr {m m' : Mem} {n} (same : ∀ j < n, m' j = m j) : m'.toList n = m.toList n := by
  refine List.map_congr_left fun j mem => ?_
  exact same j (List.mem_range.mp mem)

/-- Two memories that agree on the bytes read. -/
lemma toList_shift_congr {m m' : Mem} {a n} (same : ∀ j < n, m' (a + j) = m (a + j)) :
    (m'.shift a).toList n = (m.shift a).toList n := toList_congr same

/-- A prefix of what is read. -/
lemma take_toList (m : Mem) {k n : Nat} (le : k ≤ n) : (m.toList n).take k = m.toList k := by
  rw [toList, ← List.map_take, List.take_range, Nat.min_eq_left le, toList]

/-- Reading on. -/
lemma toList_add (m : Mem) (k n : Nat) : m.toList (k + n) = m.toList k ++ (m.shift k).toList n := by
  rw [toList, List.range_add, List.map_append, List.map_map]
  rfl

/-- Reading in pieces of equal size. -/
lemma toList_mul (m : Mem) (n k : Nat) :
    m.toList (n * k) = (List.range n).flatMap fun j => (m.shift (j * k)).toList k := by
  induction n with
  | zero => simp [toList]
  | succ n ih =>
    rw [Nat.succ_mul, toList_add, ih, List.range_succ, List.flatMap_append, List.flatMap_singleton]

/-- Writing the next byte. -/
lemma toList_shift_update (m : Mem) (a n : Nat) (b : UInt8) :
    toList (shift (Function.update m (a + n) b) a) (n + 1) = (m.shift a).toList n ++ [b] := by
  have before : toList (shift (Function.update m (a + n) b) a) n = (m.shift a).toList n := by
    refine toList_shift_congr fun j lt => ?_
    exact Function.update_of_ne (by omega) ..
  rw [toList, List.range_succ, List.map_append, ← toList, before]
  simp only [List.map_cons, List.map_nil, shift, Function.update_self]

/-- Programming an erased byte stores the byte. -/
lemma erased_and (b : UInt8) : (0xff : UInt8) &&& b = b := by
  apply UInt8.toBitVec_inj.mp
  rw [UInt8.toBitVec_and]
  exact BitVec.allOnes_and

/-- Programming a range that has been erased stores the source. -/
lemma program_erased {m : Mem} {a n src i} (lo : a ≤ i) (hi : i < a + n)
    (er : m i = 0xff) : m.program a n src i = src (i - a) := by
  rw [program_in lo hi, er, erased_and]

/-- A list laid out in memory reads back at its own positions. -/
lemma ofList_get {l : List UInt8} {i} (h : i < l.length) : ofList l i = l[i] := by
  simp only [ofList, List.getD_eq_getElem?_getD, List.getElem?_eq_getElem h, Option.getD_some]

/-- A list laid out in memory reads back as a whole. -/
lemma toList_ofList {l : List UInt8} {n} (h : l.length = n) : (ofList l).toList n = l := by
  subst h
  refine List.ext_getElem (by simp) fun i h1 h2 => ?_
  simp only [toList, List.getElem_map, List.getElem_range, ofList_get h2]

/-! ## Writing to a buffer -/

/-- The bytes before the address. -/
lemma beyond_before {m : Mem} {a g i} (lt : i < a) : m.beyond a g i = m i := if_pos lt

/-- The bytes from the address on. -/
lemma beyond_after {m : Mem} {a g i} (le : a ≤ i) : m.beyond a g i = g (m.shift a) (i - a) :=
  if_neg (by omega)

namespace WritesIn
variable {n : Nat} {g h : Mem → Mem}

/-- Nothing is stored. -/
lemma id : WritesIn n fun m => m := fun _ => Or.inr fun _ => rfl

/-- One after the other. -/
lemma comp (wh : WritesIn n h) (wg : WritesIn n g) : WritesIn n fun m => h (g m) := by
  intro i
  obtain ⟨lt, b, const⟩ | keep := wh i
  · exact Or.inl ⟨lt, b, fun m => const (g m)⟩
  · obtain ⟨lt, b, const⟩ | keep' := wg i
    · exact Or.inl ⟨lt, b, fun m => (keep _).trans (const m)⟩
    · exact Or.inr fun m => (keep _).trans (keep' m)

/-- A copy. -/
lemma copy {a k : Nat} (src : Mem) (le : a + k ≤ n) : WritesIn n fun m => m.copy a k src := by
  intro i
  by_cases inside : a ≤ i ∧ i < a + k
  · exact Or.inl ⟨by omega, src (i - a), fun _ => copy_in inside.1 inside.2⟩
  · exact Or.inr fun _ => copy_out (by omega)

/-- One byte. -/
lemma update {a : Nat} (b : UInt8) (lt : a < n) : WritesIn n fun m => Function.update m a b := by
  intro i
  by_cases same : i = a
  · subst same
    exact Or.inl ⟨lt, b, fun _ => Function.update_self ..⟩
  · exact Or.inr fun _ => Function.update_of_ne same ..

/-- One or the other. -/
lemma ite {c : Prop} [Decidable c] (wg : c → WritesIn n g) (wh : ¬ c → WritesIn n h) :
    WritesIn n fun m => if c then g m else h m := by
  by_cases hc : c
  · simpa only [if_pos hc] using wg hc
  · simpa only [if_neg hc] using wh hc

/-- One after the other, along a list. -/
lemma foldl {α : Type} {step : α → Mem → Mem} (l : List α) (each : ∀ x ∈ l, WritesIn n (step x)) :
    WritesIn n fun m => l.foldl (fun m x => step x m) m := by
  induction l with
  | nil => exact WritesIn.id
  | cons x l ih =>
    have rest := ih fun y mem => each y (List.mem_cons_of_mem x mem)
    exact rest.comp (each x List.mem_cons_self)

/-- In a buffer that has been cleared first, every byte is determined. -/
lemma cleared (w : WritesIn n g) (src m m' : Mem) {i} (lt : i < n) :
    g (m.copy 0 n src) i = g (m'.copy 0 n src) i := by
  obtain ⟨-, b, const⟩ | keep := w i
  · rw [const, const]
  · rw [keep, keep, copy_in (Nat.zero_le i) (by omega), copy_in (Nat.zero_le i) (by omega)]

end WritesIn

end Mem

end WlhHpm

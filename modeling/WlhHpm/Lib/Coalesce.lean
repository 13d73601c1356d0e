import Mathlib.Data.List.Nodup
import WlhHpm.Lib.Run

/-!
# Coalescing block writes into sectors

A writer that gathers consecutive blocks in a buffer of `w` blocks and hands them on as one `Chunk`
when the next block does not continue the buffered range or the buffer is full. The store behind it
can only be written by erasing the sector of `w` blocks in which a chunk starts, so two chunks that
start in one sector destroy each other's blocks, and a chunk that starts inside a sector may be cut
off from the rest of it.

This module is about the block numbers alone. `Buf` is the writer with its history (`order`: the
blocks taken so far; `chunks`: the chunks handed on), `Buf.Ok` its invariant, of which `covers` is
the centre: chunk after chunk, and then the buffer, list exactly the blocks in the order in which
they came. `Buf.Aligned` says that every chunk starts at the start of a sector.

* `put_aligned_iff`: alignment is kept exactly by a block that starts a sector or follows directly
  on the block before it;
* `firsts_nodup`: no two chunks start at the same block, hence aligned chunks use different sectors;
* `exists_clash`: once every block of `[0, n)` has been handed on, a misaligned chunk means that two
  chunks start in the same sector.
-/

namespace WlhHpm.Coalesce

/-- A range of consecutive blocks. -/
structure Chunk where
  first : Nat
  len : Nat
  deriving DecidableEq, Repr

/-- The blocks of a chunk, in order. -/
def Chunk.blocks (c : Chunk) : List Nat := List.range' c.first c.len

/-- The blocks of a chunk. -/
lemma Chunk.mem_blocks {c : Chunk} {i} : i ∈ c.blocks ↔ c.first ≤ i ∧ i < c.first + c.len := by
  simp only [blocks, List.mem_range'_1]

/-- A coalescing writer with its history. -/
structure Buf where
  order : List Nat
  chunks : List Chunk
  held : Chunk

namespace Buf

/-- Nothing has been taken yet. -/
def empty : Buf := ⟨[], [], ⟨0, 0⟩⟩

/-- Hand on what is held. -/
def spill (b : Buf) : Buf :=
  if b.held.len = 0 then b
  else { b with chunks := b.chunks ++ [b.held], held := { b.held with len := 0 } }

/-- The block continues what is held, and there is room for it. -/
def Continues (w : Nat) (b : Buf) (i : Nat) : Prop :=
  b.held.len ≠ 0 ∧ b.held.first + b.held.len = i ∧ b.held.len ≠ w

instance (w : Nat) (b : Buf) (i : Nat) : Decidable (b.Continues w i) :=
  inferInstanceAs (Decidable (_ ∧ _))

/-- Take a block. -/
def put (w : Nat) (b : Buf) (i : Nat) : Buf :=
  if b.Continues w i then
    { b with order := b.order ++ [i], held := { b.held with len := b.held.len + 1 } }
  else { order := b.order ++ [i], chunks := b.spill.chunks, held := ⟨i, 1⟩ }

/-- Take a block unless it has been taken before. -/
def take (w : Nat) (b : Buf) (i : Nat) : Buf := if i ∈ b.order then b else b.put w i

/-- A spill takes no block. -/
@[simp] lemma spill_order (b : Buf) : b.spill.order = b.order := by
  unfold spill
  split <;> rfl

/-- A block is taken. -/
@[simp] lemma put_order (w : Nat) (b : Buf) (i : Nat) : (b.put w i).order = b.order ++ [i] := by
  unfold put
  split <;> rfl

/-- Nothing is held after a spill. -/
@[simp] lemma spill_held_len (b : Buf) : b.spill.held.len = 0 := by
  unfold spill
  split
  · assumption
  · rfl

/-- After a block has been taken, something is held. -/
lemma put_held_ne (w : Nat) (b : Buf) (i : Nat) : (b.put w i).held.len ≠ 0 := by
  unfold put
  split <;> simp

/-- Chunks and buffer list the blocks in the order in which they came. -/
structure Ok (w : Nat) (b : Buf) : Prop where
  nodup : b.order.Nodup
  covers : b.chunks.flatMap Chunk.blocks ++ b.held.blocks = b.order
  held_le : b.held.len ≤ w
  chunk_len : ∀ c ∈ b.chunks, 0 < c.len ∧ c.len ≤ w

variable {w : Nat} {b : Buf}

/-- The empty writer is sound. -/
lemma empty_ok (w : Nat) : empty.Ok w :=
  ⟨List.nodup_nil, rfl, Nat.zero_le _, nofun⟩

/-- The chunks of a spilled buffer: those from before, and what was held. -/
lemma mem_spill_chunks {c} :
    c ∈ b.spill.chunks ↔ c ∈ b.chunks ∨ (b.held.len ≠ 0 ∧ c = b.held) := by
  unfold spill
  split
  · rename_i h
    simp [h]
  · rename_i h
    simp [h]

/-- Spilling only moves blocks from the buffer to the chunks. -/
lemma spill_flatMap (b : Buf) :
    b.spill.chunks.flatMap Chunk.blocks = b.chunks.flatMap Chunk.blocks ++ b.held.blocks := by
  unfold spill
  split
  · rename_i h
    simp [Chunk.blocks, h]
  · simp

/-- A spill keeps the writer sound. -/
lemma Ok.spill (ok : b.Ok w) : b.spill.Ok w := by
  refine ⟨by simpa using ok.nodup, ?_, by simp, ?_⟩
  · rw [spill_flatMap, spill_order, ← ok.covers]
    simp [Chunk.blocks]
  · intro c hc
    rcases mem_spill_chunks.mp hc with hc | ⟨ne, rfl⟩
    · exact ok.chunk_len c hc
    · exact ⟨Nat.pos_of_ne_zero ne, ok.held_le⟩

/-- Taking a new block keeps the invariant. -/
lemma Ok.put (ok : b.Ok w) (pos : 0 < w) {i} (new : i ∉ b.order) : (b.put w i).Ok w := by
  have nd : (b.order ++ [i]).Nodup := by
    rw [List.nodup_append]
    refine ⟨ok.nodup, List.nodup_singleton _, ?_⟩
    rintro a ha _ hi rfl
    exact new (List.mem_singleton.mp hi ▸ ha)
  refine ⟨by simpa using nd, ?_, ?_, ?_⟩
  · rw [put_order]
    unfold Buf.put
    split
    · rename_i h
      obtain ⟨_, e, _⟩ := h
      simp only [Chunk.blocks, ← ok.covers, List.range'_concat, Nat.one_mul, e, List.append_assoc]
    · simp only [spill_flatMap, ok.covers]
      rfl
  · unfold Buf.put
    split
    · rename_i h
      have := ok.held_le
      obtain ⟨_, _, ne⟩ := h
      simp only
      omega
    · exact pos
  · unfold Buf.put
    split
    · exact ok.chunk_len
    · exact ok.spill.chunk_len

/-- A block that has been taken is in a chunk or in the buffer. -/
lemma Ok.mem_order (ok : b.Ok w) {i} :
    i ∈ b.order ↔ (∃ c ∈ b.chunks, i ∈ c.blocks) ∨ i ∈ b.held.blocks := by
  rw [← ok.covers, List.mem_append, List.mem_flatMap]

/-- The last block taken is the last one held. -/
lemma Ok.getLast (ok : b.Ok w) (ne : b.held.len ≠ 0) :
    b.order.getLast? = some (b.held.first + b.held.len - 1) := by
  obtain ⟨k, e⟩ := Nat.exists_eq_succ_of_ne_zero ne
  rw [← ok.covers, Chunk.blocks, e, Nat.succ_eq_add_one, List.range'_concat, ← List.append_assoc,
    List.getLast?_concat]
  simp

/-! ## Alignment -/

/-- Every chunk starts at the start of a sector. -/
structure Aligned (w : Nat) (b : Buf) : Prop where
  chunks : ∀ c ∈ b.chunks, w ∣ c.first
  held : b.held.len ≠ 0 → w ∣ b.held.first

/-- The empty writer is aligned. -/
lemma aligned_empty (w : Nat) : empty.Aligned w := ⟨nofun, fun h => absurd rfl h⟩

/-- A spill neither aligns a writer nor breaks its alignment. -/
lemma spill_aligned_iff : b.spill.Aligned w ↔ b.Aligned w := by
  constructor
  · intro h
    refine ⟨fun c hc => h.chunks c (mem_spill_chunks.mpr (.inl hc)), fun ne => ?_⟩
    exact h.chunks _ (mem_spill_chunks.mpr (.inr ⟨ne, rfl⟩))
  · intro h
    refine ⟨fun c hc => ?_, by simp⟩
    rcases mem_spill_chunks.mp hc with hc | ⟨ne, rfl⟩
    · exact h.chunks c hc
    · exact h.held ne

/-- The block starts a sector or follows directly on the last block taken. -/
def Follows (w : Nat) (order : List Nat) (i : Nat) : Prop :=
  w ∣ i ∨ order.getLast? = some (i - 1)

instance (w : Nat) (order : List Nat) (i : Nat) : Decidable (Follows w order i) :=
  inferInstanceAs (Decidable (_ ∨ _))

/-- Alignment is kept exactly by a block that follows. -/
lemma put_aligned_iff (ok : b.Ok w) (live : b.order ≠ [] → b.held.len ≠ 0) (i : Nat) :
    (b.put w i).Aligned w ↔ b.Aligned w ∧ Follows w b.order i := by
  unfold put
  split
  · rename_i h
    obtain ⟨ne, e, _⟩ := h
    have last : b.order.getLast? = some (i - 1) := by rw [ok.getLast ne, e]
    constructor
    · intro al
      exact ⟨⟨al.chunks, fun _ => al.held (by simp)⟩, .inr last⟩
    · rintro ⟨al, -⟩
      exact ⟨al.chunks, fun _ => al.held ne⟩
  · rename_i h
    constructor
    · intro al
      have old : b.spill.Aligned w := ⟨al.chunks, by simp⟩
      exact ⟨spill_aligned_iff.mp old, .inl (al.held (by simp))⟩
    · rintro ⟨al, fol⟩
      refine ⟨(spill_aligned_iff.mpr al).chunks, fun _ => ?_⟩
      rcases fol with dvd | last
      · exact dvd
      · -- the block follows a full buffer
        have ne := live (by rintro e; simp [e] at last)
        by_cases zero : i = 0
        · simp [zero]
        rw [ok.getLast ne, Option.some_inj] at last
        have full : b.held.len = w := by
          by_contra nw
          exact h ⟨ne, by omega, nw⟩
        have dvd := (Nat.dvd_add_self_right (m := w)).mpr (al.held ne)
        rwa [show b.held.first + w = i by omega] at dvd

/-- The first blocks of the chunks are among their blocks. -/
lemma firsts_sublist {cs : List Chunk} (h : ∀ c ∈ cs, 0 < c.len) :
    (cs.map Chunk.first).Sublist (cs.flatMap Chunk.blocks) := by
  induction cs with
  | nil => exact .slnil
  | cons c cs ih =>
    have pos := h c (by simp)
    have rest := ih fun d hd => h d (by simp [hd])
    obtain ⟨k, e⟩ := Nat.exists_eq_succ_of_ne_zero pos.ne'
    rw [List.map_cons, List.flatMap_cons, Chunk.blocks, e, Nat.succ_eq_add_one, List.range'_succ,
      List.cons_append]
    exact (rest.trans (List.sublist_append_right _ _)).cons_cons _

/-- No two chunks start at the same block. -/
lemma Ok.firsts_nodup (ok : b.Ok w) : (b.chunks.map Chunk.first).Nodup := by
  refine (firsts_sublist fun c hc => (ok.chunk_len c hc).1).nodup ?_
  have nd := ok.nodup
  rw [← ok.covers] at nd
  exact (List.nodup_append.mp nd).1

/-- Two members of a list stand in it one after the other. -/
lemma split_two {α : Type*} {l : List α} {x y : α} (hx : x ∈ l) (hy : y ∈ l) (ne : x ≠ y) :
    ∃ xs ys zs, l = xs ++ x :: (ys ++ y :: zs) ∨ l = xs ++ y :: (ys ++ x :: zs) := by
  obtain ⟨s, t, rfl⟩ := List.append_of_mem hx
  rcases List.mem_append.mp hy with hy | hy
  · obtain ⟨u, v, rfl⟩ := List.append_of_mem hy
    exact ⟨u, v, t, .inr (by simp)⟩
  · rcases List.mem_cons.mp hy with hy | hy
    · exact absurd hy.symm ne
    · obtain ⟨u, v, rfl⟩ := List.append_of_mem hy
      exact ⟨s, u, v, .inl rfl⟩

/-- Two chunks start in the same sector. -/
def Clash (w : Nat) (cs : List Chunk) : Prop :=
  ∃ xs c ys d zs, cs = xs ++ c :: (ys ++ d :: zs) ∧ c.first / w = d.first / w

/-- A chunk that starts inside a sector shares it with another chunk, when everything before it has
    been handed on too. -/
lemma Ok.clash_of_mem (ok : b.Ok w) (pos : 0 < w) (spilled : b.held.len = 0)
    (down : ∀ j ∈ b.order, ∀ i < j, i ∈ b.order) {c} (hc : c ∈ b.chunks) (mis : ¬ w ∣ c.first) :
    Clash w b.chunks := by
  -- the chunk `d` of the block before `c` either starts inside a sector too, further left, or
  -- at the start of the sector of `c`
  induction h : c.first using Nat.strong_induction_on generalizing c with
  | _ k ih =>
    subst h
    have pos_c : 0 < c.first := Nat.pos_of_ne_zero fun e => mis (by simp [e])
    have taken : c.first ∈ b.order := by
      have := (ok.chunk_len c hc).1
      exact ok.mem_order.mpr (.inl ⟨c, hc, Chunk.mem_blocks.mpr (by omega)⟩)
    have before := down _ taken (c.first - 1) (by omega)
    rcases ok.mem_order.mp before with ⟨d, hd, mem⟩ | mem
    · obtain ⟨lo, hi⟩ := Chunk.mem_blocks.mp mem
      by_cases al : w ∣ d.first
      · have len := (ok.chunk_len d hd).2
        have ne : c ≠ d := by
          rintro rfl
          omega
        have same : c.first / w = d.first / w := by
          obtain ⟨q, e⟩ := al
          have lt : c.first < w * (q + 1) := by
            have le : c.first ≤ w * (q + 1) := by
              rw [Nat.mul_add, ← e]
              omega
            exact lt_of_le_of_ne le fun h => mis ⟨_, h⟩
          rw [e, Nat.mul_div_cancel_left _ pos]
          refine Nat.div_eq_of_lt_le ?_ ?_
          · rw [Nat.mul_comm]
            omega
          · rwa [Nat.mul_comm]
        obtain ⟨xs, ys, zs, e | e⟩ := split_two hc hd ne
        · exact ⟨xs, c, ys, d, zs, e, same⟩
        · exact ⟨xs, d, ys, c, zs, e, same.symm⟩
      · exact ih d.first (by omega) hd al rfl
    · rw [Chunk.mem_blocks, spilled] at mem
      omega

/-- Once every block below the last has been handed on, misalignment means a clash. -/
lemma Ok.exists_clash (ok : b.Ok w) (pos : 0 < w) (spilled : b.held.len = 0)
    (down : ∀ j ∈ b.order, ∀ i < j, i ∈ b.order) (mis : ¬ b.Aligned w) : Clash w b.chunks := by
  by_contra none
  refine mis ⟨fun c hc => ?_, fun ne => absurd spilled ne⟩
  by_contra bad
  exact none (ok.clash_of_mem pos spilled down hc bad)

/-- The first block of the earlier of two chunks is in no later one. -/
lemma Ok.first_not_later (ok : b.Ok w) {xs c rest} (e : b.chunks = xs ++ c :: rest) :
    ∀ d ∈ rest, c.first ∉ d.blocks := by
  intro d hd mem
  have nd := ok.nodup
  have len := (ok.chunk_len c (by simp [e])).1
  have head : c.first ∈ c.blocks := Chunk.mem_blocks.mpr (by omega)
  rw [← ok.covers, e, List.flatMap_append, List.flatMap_cons] at nd
  have nd' := (List.nodup_append.mp (List.nodup_append.mp (List.nodup_append.mp nd).1).2.1).2.2
  exact nd' _ head _ (List.mem_flatMap.mpr ⟨d, hd, mem⟩) rfl

end Buf

end WlhHpm.Coalesce

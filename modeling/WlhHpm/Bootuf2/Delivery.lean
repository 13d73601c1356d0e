import WlhHpm.Lib.Coalesce
import WlhHpm.Bootuf2.Pack

/-!
# Delivering an image

The disk of `bootuf2.c`, on flash that does not fail, as a coalescing writer
(`Lib/Coalesce.lean`) of 256-byte blocks with sectors of 16 blocks. `planStep` is the writer's side
of an event, and `Tracks` relates the two: the mask lists the blocks taken, the counter counts them,
the cache holds the payloads of the buffered blocks, and the flash is what the chunks handed on have
left of it (`programmed`).

`Tracks.step` is the simulation, one event at a time: it holds as long as every block that is taken
shows one and the same byte stream `img`, announced as `n` blocks (`Delivers`). `Records.check_iff`
reads off when a poll reports the end of the update, and `programmed_img` / `programmed_erased` what
is in the flash then: the stream, if all chunks were aligned; an erased block, if two of them started
in one sector.
-/

namespace WlhHpm.Bootuf2
open WlhHpm.Flash WlhHpm.Coalesce

/-! ## What the chunks leave in the flash -/

/-- Inside the first sector of a write, the written bytes. -/
lemma norWrite_in {m data : Mem} {a size k : Nat} (al : 4096 ∣ a) (le : size ≤ 4096)
    (lo : a ≤ k) (hi : k < a + size) :
    norWrite m a data size (appOffset + k) = data (k - a) := by
  unfold norWrite appOffset
  obtain ⟨q, rfl⟩ := al
  rw [Mem.program_erased (by omega) (by omega) (Mem.erase_in (by omega) (by omega))]
  congr 1
  omega

/-- Outside the written range and the sector in which it starts, nothing changes. -/
lemma norWrite_out {m data : Mem} {a size i : Nat}
    (range : i < appOffset + a ∨ appOffset + a + size ≤ i)
    (sector : i / 4096 ≠ (appOffset + a) / 4096) : norWrite m a data size i = m i := by
  unfold norWrite
  rw [Mem.program_out range, Mem.erase_out (by omega)]

/-- The rest of the sector in which a write starts is erased. -/
lemma norWrite_erased {m data : Mem} {a size i : Nat}
    (range : i < appOffset + a ∨ appOffset + a + size ≤ i)
    (sector : i / 4096 = (appOffset + a) / 4096) : norWrite m a data size i = 0xff := by
  unfold norWrite
  rw [Mem.program_out range, Mem.erase_in (by omega) (by omega)]

/-- Only the bytes inside the written range matter. -/
lemma norWrite_congr {m data data' : Mem} {a size : Nat} (h : ∀ j < size, data j = data' j) :
    norWrite m a data size = norWrite m a data' size := by
  funext i
  unfold norWrite
  by_cases r : appOffset + a ≤ i ∧ i < appOffset + a + size
  · rw [Mem.program_in r.1 r.2, Mem.program_in r.1 r.2, h _ (by omega)]
  · rw [Mem.program_out (by omega), Mem.program_out (by omega)]

/-- Write one chunk of the byte stream `img`. -/
def writeChunk (img m : Mem) (c : Chunk) : Mem :=
  norWrite m (256 * c.first) (img.shift (256 * c.first)) (256 * c.len)

/-- The flash after a list of chunks. -/
def programmed (img m : Mem) (cs : List Chunk) : Mem := cs.foldl (writeChunk img) m

/-- One more chunk. -/
lemma programmed_append (img m : Mem) (cs : List Chunk) (c : Chunk) :
    programmed img m (cs ++ [c]) = writeChunk img (programmed img m cs) c := by
  simp [programmed]

/-- A byte of no written range whose sector is not erased keeps its value. -/
lemma programmed_out {img m : Mem} {cs : List Chunk} {i : Nat}
    (h : ∀ c ∈ cs, (i < appOffset + 256 * c.first ∨
      appOffset + 256 * c.first + 256 * c.len ≤ i) ∧
      i / 4096 ≠ (appOffset + 256 * c.first) / 4096) :
    programmed img m cs i = m i := by
  induction cs generalizing m with
  | nil => rfl
  | cons c cs ih =>
    have head := h c (by simp)
    rw [programmed, List.foldl_cons, ← programmed, ih fun d hd => h d (by simp [hd])]
    exact norWrite_out head.1 head.2

/-- Aligned chunks with different first blocks leave the stream in the flash. -/
lemma programmed_img {img m : Mem} {cs : List Chunk} (len : ∀ c ∈ cs, c.len ≤ 16)
    (al : ∀ c ∈ cs, 16 ∣ c.first) (nd : (cs.map Chunk.first).Nodup) {c k} (hc : c ∈ cs)
    (lo : 256 * c.first ≤ k) (hi : k < 256 * (c.first + c.len)) :
    programmed img m cs (appOffset + k) = img k := by
  obtain ⟨xs, ys, rfl⟩ := List.append_of_mem hc
  rw [programmed, List.foldl_append, List.foldl_cons, ← programmed, programmed_out]
  · have := len c (by simp)
    obtain ⟨q, hq⟩ := al c (by simp)
    rw [writeChunk, norWrite_in ⟨q, by omega⟩ (by omega) lo (by omega), Mem.shift]
    congr 1
    omega
  · -- the chunks after `c` lie in other sectors
    intro d hd
    have ld := len d (by simp [hd])
    have lc := len c (by simp)
    obtain ⟨q, hq⟩ := al d (by simp [hd])
    obtain ⟨r, hr⟩ := al c (by simp)
    have ne : c.first ≠ d.first := by
      rw [List.map_append, List.map_cons, List.nodup_append] at nd
      exact fun e => (List.nodup_cons.mp nd.2.1).1 (e ▸ List.mem_map_of_mem hd)
    unfold appOffset
    omega

/-- A block that is erased and not written afterwards stays erased. -/
lemma programmed_stays {img m : Mem} {cs : List Chunk} {i : Nat}
    (range : ∀ c ∈ cs, i < appOffset + 256 * c.first ∨
      appOffset + 256 * c.first + 256 * c.len ≤ i) (er : m i = 0xff) :
    programmed img m cs i = 0xff := by
  induction cs generalizing m with
  | nil => exact er
  | cons c cs ih =>
    have head := range c (by simp)
    rw [programmed, List.foldl_cons, ← programmed]
    refine ih (fun d hd => range d (by simp [hd])) ?_
    by_cases s : i / 4096 = (appOffset + 256 * c.first) / 4096
    · exact norWrite_erased head s
    · rw [writeChunk, norWrite_out head s, er]

/-- Two chunks that start in one sector: the first byte of the earlier one ends up erased. -/
lemma programmed_erased {img m : Mem} {b : Buf} (ok : b.Ok 16) {xs ys zs : List Chunk} {c d : Chunk}
    (e : b.chunks = xs ++ c :: (ys ++ d :: zs)) (same : c.first / 16 = d.first / 16) :
    programmed img m b.chunks (appOffset + 256 * c.first) = 0xff := by
  have later := ok.first_not_later e
  have away : ∀ f ∈ ys ++ d :: zs, appOffset + 256 * c.first < appOffset + 256 * f.first ∨
      appOffset + 256 * f.first + 256 * f.len ≤ appOffset + 256 * c.first := by
    intro f hf
    have out := later f hf
    rw [Chunk.mem_blocks] at out
    omega
  have split : xs ++ c :: (ys ++ d :: zs) = (xs ++ c :: ys) ++ d :: zs := by simp
  rw [e, split, programmed, List.foldl_append, List.foldl_cons, ← programmed]
  refine programmed_stays (fun f hf => away f (by simp [hf])) ?_
  refine norWrite_erased (away d (by simp)) ?_
  unfold appOffset
  omega

/-! ## The disk as a coalescing writer -/

/-- The block count that the disk records for an image of `n` blocks. -/
def recorded (n : Nat) : Nat := if 13824 ≤ n then 0xffffffff else n

/-- The blocks taken add up to the recorded count. -/
def Complete (n : Nat) (order : List Nat) : Prop := order ≠ [] ∧ recorded n ≤ order.length

instance (n : Nat) (order : List Nat) : Decidable (Complete n order) :=
  inferInstanceAs (Decidable (_ ∧ _))

/-- The writer's side of an event. -/
def planStep (n : Nat) (b : Buf) : Op → Buf
  | .sector buff =>
    if Writable (.ofBuff buff) then b.take 16 (Bootuf2Block.ofBuff buff).blockIndex.toNat else b
  | .poll => if Complete n b.order then b.spill else b
  | .init => b

/-- The progress records list the blocks taken. -/
structure Records (n : Nat) (st : Bootuf2State) (order : List Nat) : Prop where
  range : ∀ i ∈ order, i < n
  marked : ∀ i, st.Marked i ↔ i ∈ order
  written : st.numberOfWritten.toNat = order.length
  total : st.numberOfBlock.toNat = if order = [] then 0 else recorded n

/-- Cache and flash hold the byte stream where the writer has put it. -/
structure Buffers (img m₀ : Mem) (ctx : Bootuf2Data Chip) (chunks : List Chunk) (held : Chunk) :
    Prop where
  bytes : ctx.cachedBytes.toNat = 256 * held.len
  address : held.len ≠ 0 → ctx.cachedAddress.toNat = 0x80020000 + 256 * held.first
  cache : ∀ k < 256 * held.len, ctx.cache k = img (256 * held.first + k)
  flash : ctx.flash.mem = programmed img m₀ chunks

/-- The disk does what the coalescing writer does. -/
structure Tracks (img : Mem) (n : Nat) (m₀ : Mem) (ctx : Bootuf2Data Chip) (b : Buf) : Prop where
  ok : b.Ok 16
  records : Records n ctx.state b.order
  buffers : Buffers img m₀ ctx b.chunks b.held

/-- The event delivers the stream: a block that is taken shows it, and a configuration finds the
    cache empty. -/
def Delivers (img : Mem) (n : Nat) (ctx : Bootuf2Data Chip) : Op → Prop
  | .sector buff => Fresh ctx (.ofBuff buff) → ∃ i < n, Shows img n i (.ofBuff buff)
  | .poll => True
  | .init => ctx.cachedBytes = 0

section Simulation
variable {img m₀ : Mem} {n : Nat} {ctx : Bootuf2Data Chip} {b : Buf} {rom : Rom}

/-- No more blocks are taken than there are. -/
lemma Records.length_le {st : Bootuf2State} {order : List Nat} (rec : Records n st order)
    (nd : order.Nodup) : order.length ≤ n := by
  have sub : order ⊆ List.range n := fun i hi => List.mem_range.mpr (rec.range i hi)
  simpa using (nd.subperm sub).length_le

/-- The count recorded with a block of an `n`-block image. -/
lemma Records.total_eq {st : Bootuf2State} {order : List Nat} {c : UInt32}
    (rec : Records n st order) (hc : c.toNat = n) : (st.total c).toNat = recorded n := by
  have max : bootuf2Blocksmax.toNat = 13824 := by decide
  have old := rec.total
  unfold Bootuf2State.total
  -- the first block sets the count and later blocks agree with it, unless it was refused as too large
  by_cases same : st.numberOfBlock = c
  · rw [if_neg (not_not.mpr same), hc]
    rw [same, hc] at old
    split at old
    · rw [recorded, if_neg (by omega)]
    · exact old
  · rw [if_pos same]
    have ne : st.numberOfBlock.toNat ≠ n := fun e => same (UInt32.toNat_inj.mp (e.trans hc.symm))
    have cond : (c ≥ bootuf2Blocksmax ∨ st.numberOfBlock ≠ 0) ↔ 13824 ≤ n := by
      rw [ge_iff_le, UInt32.le_iff_toNat_le, max, hc, ne_eq, ← UInt32.toNat_inj]
      change (_ ∨ ¬ st.numberOfBlock.toNat = 0) ↔ _
      rw [old] at ne ⊢
      unfold recorded at ne ⊢
      split at ne <;> simp_all
    unfold recorded
    by_cases big : 13824 ≤ n
    · rw [if_pos (cond.mpr big), if_pos big]
      rfl
    · rw [if_neg (mt cond.mp big), if_neg big, hc]

/-- A poll reports the end of the update exactly when the recorded count has been reached. -/
lemma Records.check_iff {st : Bootuf2State} {order : List Nat} (rec : Records n st order)
    (pos : 0 < n) : bootuf2blockStateCheck st = true ↔ Complete n order := by
  rw [bootuf2blockStateCheck, Bool.and_eq_true, decide_eq_true_eq, decide_eq_true_eq, ge_iff_le,
    UInt32.le_iff_toNat_le, ne_eq, ← UInt32.toNat_inj, rec.written, rec.total, Complete]
  change _ ∧ ¬ _ = 0 ↔ _
  by_cases empty : order = []
  · simp [empty]
  · have nz : recorded n ≠ 0 := by
      unfold recorded
      split <;> omega
    simp [empty, nz]

/-- Recording a new block. -/
lemma Records.take {st : Bootuf2State} {order : List Nat} {uf2 : Bootuf2Block} {i : Nat}
    (rec : Records n st order) (nd : order.Nodup) (small : n ≤ 13824) (lt : i < n)
    (sh : Shows img n i uf2)
    (fresh : bootuf2blockCheckWritable st uf2 configBootuf2Flashmax = true) :
    Records n (bootuf2blockStateUpdate st uf2 configBootuf2Flashmax) (order ++ [i]) := by
  have len := rec.length_le nd
  refine ⟨?_, ?_, ?_, ?_⟩
  · intro j hj
    rcases List.mem_append.mp hj with hj | hj
    · exact rec.range j hj
    · rwa [List.mem_singleton.mp hj]
  · intro j
    rw [marked_stateUpdate fresh, rec.marked, sh.index, List.mem_append, List.mem_singleton]
  · rw [stateUpdate_eq fresh]
    simp only [UInt32.toNat_add, rec.written, List.length_append, List.length_singleton,
      UInt32.reduceToNat]
    omega
  · rw [stateUpdate_eq fresh, if_neg (by simp)]
    exact rec.total_eq sh.total

/-- A chunk of taken blocks lies inside the partition. -/
lemma Tracks.held_fits (tr : Tracks img n m₀ ctx b) (small : n ≤ 13824) (ne : b.held.len ≠ 0) :
    b.held.first + b.held.len ≤ 13824 := by
  have last : b.held.first + b.held.len - 1 ∈ b.order :=
    tr.ok.mem_order.mpr (.inr (Chunk.mem_blocks.mpr (by omega)))
  have := tr.records.range _ last
  omega

/-- The cached words of an empty cache. -/
lemma Buffers.bytes_zero {chunks held} (bu : Buffers img m₀ ctx chunks held) :
    ctx.cachedBytes = 0 ↔ held.len = 0 := by
  have e := bu.bytes
  rw [← UInt32.toNat_inj, e]
  change 256 * held.len = 0 ↔ _
  omega

/-- Cache and flash do not depend on the progress records. -/
lemma Buffers.with_state {chunks held} (bu : Buffers img m₀ ctx chunks held) (st : Bootuf2State) :
    Buffers img m₀ { ctx with state := st } chunks held :=
  ⟨bu.bytes, bu.address, bu.cache, bu.flash⟩

/-- A flush hands the cached blocks on, and succeeds. -/
lemma Buffers.flush (bu : Buffers img m₀ ctx b.chunks b.held) (healthy : rom.Healthy)
    (fits : b.held.len ≠ 0 → b.held.first + b.held.len ≤ 13824) (le : b.held.len ≤ 16) :
    Buffers img m₀ (bootuf2FlashFlush (bootuf2FlashWrite rom) ctx).1 b.spill.chunks b.spill.held ∧
      (bootuf2FlashFlush (bootuf2FlashWrite rom) ctx).2 = 0 := by
  by_cases zero : b.held.len = 0
  · rw [flush_zero (bu.bytes_zero.mpr zero), Buf.spill, if_pos zero]
    exact ⟨bu, rfl⟩
  · have e := bu.bytes
    have room := fits zero
    obtain ⟨calls, res⟩ := flashWrite_healthy healthy ctx.cachedBytes ctx.cache ctx.flash
      (bu.address zero) (by unfold appLen; omega) (by omega) (by omega)
    rw [bootuf2FlashFlush, if_neg (mt bu.bytes_zero.mp zero)]
    simp only [res, ne_eq, not_true_eq_false, if_false]
    refine ⟨⟨?_, ?_, ?_, ?_⟩, trivial⟩
    · simp [Buf.spill, zero]
    · simp [Buf.spill, zero]
    · simp [Buf.spill, zero]
    · rw [Buf.spill, if_neg zero, programmed_append, ← bu.flash, writeChunk, e]
      exact norWrite_congr bu.cache

/-- Appending a block that continues the cached range, or to an empty cache. -/
lemma Buffers.append {chunks held uf2 i} (bu : Buffers img m₀ ctx chunks held)
    (sh : Shows img n i uf2) (lt : i < 13824) (room : held.len < 16)
    (cont : held.len = 0 ∨ held.first + held.len = i) :
    Buffers img m₀ (cacheAppend ctx uf2) chunks ⟨i - held.len, held.len + 1⟩ := by
  have e := bu.bytes
  have tgt := sh.target
  refine ⟨?_, fun _ => ?_, ?_, bu.flash⟩
  · simp only [cacheAppend, sh.size, UInt32.toNat_add, e, UInt32.reduceToNat]
    omega
  · simp only [cacheAppend, UInt32.toNat_sub, tgt, e]
    omega
  · intro k hk
    simp only [cacheAppend, sh.size, UInt32.reduceToNat, e] at hk ⊢
    by_cases old : k < 256 * held.len
    · rw [Mem.copy_out (.inl old), bu.cache k old]
      congr 1
      omega
    · rw [Mem.copy_in (by omega) (by omega), sh.data _ (by omega)]
      congr 1
      omega

/-- The cache has to be flushed exactly when it holds blocks that the new one does not continue. -/
lemma Buffers.needFlush_iff {uf2 i} (bu : Buffers img m₀ ctx b.chunks b.held)
    (sh : Shows img n i uf2) (fits : b.held.len ≠ 0 → b.held.first + b.held.len ≤ 13824)
    (lt : i < 13824) :
    needFlush ctx uf2 ↔ b.held.len ≠ 0 ∧ ¬ b.Continues 16 i := by
  have e := bu.bytes
  have full : ctx.cachedBytes = configBootuf2CacheSize ↔ b.held.len = 16 := by
    rw [← UInt32.toNat_inj, e]
    change 256 * b.held.len = 4096 ↔ _
    omega
  rw [needFlush, full, ne_eq, bu.bytes_zero, Buf.Continues]
  by_cases zero : b.held.len = 0
  · simp [zero]
  · have addr := bu.address zero
    have room := fits zero
    have next : ctx.cachedAddress + ctx.cachedBytes = uf2.targetAddress ↔
        b.held.first + b.held.len = i := by
      rw [← UInt32.toNat_inj, UInt32.toNat_add, addr, e, sh.target]
      omega
    rw [ne_eq, next]
    omega

/-- The cache writer takes a block as the coalescing writer does. -/
lemma Buffers.write {uf2 i} (bu : Buffers img m₀ ctx b.chunks b.held) (healthy : rom.Healthy)
    (fits : b.held.len ≠ 0 → b.held.first + b.held.len ≤ 13824) (le : b.held.len ≤ 16)
    (sh : Shows img n i uf2) (lt : i < 13824) :
    Buffers img m₀ (bootuf2FlashWriteInternal (bootuf2FlashWrite rom) ctx uf2).1
      (b.put 16 i).chunks (b.put 16 i).held := by
  have need := bu.needFlush_iff sh fits lt
  unfold bootuf2FlashWriteInternal
  by_cases cont : b.Continues 16 i
  · obtain ⟨nz, e, ne⟩ := cont
    have held := bu.append sh lt (by omega) (.inr e)
    rw [if_neg (fun h => (need.mp h).2 ⟨nz, e, ne⟩), Buf.put, if_pos ⟨nz, e, ne⟩]
    rwa [show i - b.held.len = b.held.first by omega] at held
  · rw [Buf.put, if_neg cont]
    by_cases zero : b.held.len = 0
    · have held := bu.append sh lt (by omega) (.inl zero)
      rw [if_neg (fun h => (need.mp h).1 zero), Buf.spill, if_pos zero]
      simpa [zero] using held
    · obtain ⟨after, good⟩ := bu.flush healthy fits le
      have held := after.append sh lt (by simp) (.inl (by simp))
      rw [if_pos (need.mpr ⟨zero, cont⟩)]
      simp only [good, ne_eq, not_true_eq_false, if_false]
      simpa using held

/-- One event: the disk and the coalescing writer move together. -/
theorem Tracks.step (tr : Tracks img n m₀ ctx b) (healthy : rom.Healthy) (pos : 0 < n)
    (small : n ≤ 13824) (op : Op) (del : Delivers img n ctx op) :
    Tracks img n m₀ (Op.step (bootuf2FlashWrite rom) ctx op) (planStep n b op) := by
  cases op with
  | sector buff =>
    rw [step_sector, writeOne_eq, planStep]
    by_cases fresh : Fresh ctx (.ofBuff buff)
    · -- a fresh block: both sides take it, and the disk records it after it has gone to the cache
      obtain ⟨i, lt, sh⟩ := del fresh
      obtain ⟨wr, new⟩ := (fresh_iff _ _).mp fresh
      rw [sh.index, tr.records.marked] at new
      rw [if_pos fresh, if_pos wr, sh.index, Buf.take, if_neg new]
      refine ⟨tr.ok.put (by decide) new, ?_, ?_⟩
      · rw [Buf.put_order]
        exact tr.records.take tr.ok.nodup small lt sh fresh.2
      · have bu := tr.buffers.write healthy (tr.held_fits small) tr.ok.held_le sh (by omega)
        exact bu.with_state _
    · rw [if_neg fresh]
      -- a sector that changes nothing is no block for this device, or one that was seen before
      by_cases wr : Writable (.ofBuff buff)
      · have old : (Bootuf2Block.ofBuff buff).blockIndex.toNat ∈ b.order := by
          rw [fresh_iff, not_and, not_not, tr.records.marked] at fresh
          exact fresh wr
        rw [if_pos wr, Buf.take, if_pos old]
        exact tr
      · rw [if_neg wr]
        exact tr
  | poll =>
    have check := tr.records.check_iff pos
    rw [planStep]
    change Tracks img n m₀ (bootuf2IsWriteDone _ ctx).1 _
    by_cases fin : Complete n b.order
    · obtain ⟨bu, -⟩ := tr.buffers.flush healthy (tr.held_fits small) tr.ok.held_le
      rw [if_pos fin, bootuf2IsWriteDone, if_pos (check.mpr fin)]
      exact ⟨tr.ok.spill, by simpa using tr.records, bu⟩
    · rw [if_neg fin, bootuf2IsWriteDone, if_neg (mt check.mp fin)]
      exact tr
  | init =>
    -- `Delivers` admits a configuration only while nothing is cached
    have zero := tr.buffers.bytes_zero.mp del
    have e := tr.buffers
    refine ⟨tr.ok, tr.records, ⟨?_, fun ne => absurd zero ne, ?_, e.flash⟩⟩
    · change 0 = 256 * b.held.len
      omega
    · change ∀ k < 256 * b.held.len, _
      intro k lt
      omega

/-- The disk after a reset has taken nothing. -/
lemma tracks_reset (img m₀ : Mem) (n : Nat) (calls) :
    Tracks img n m₀ (.reset ⟨m₀, calls⟩) Buf.empty := by
  refine ⟨Buf.empty_ok _, ⟨nofun, fun i => ?_, rfl, rfl⟩, ⟨rfl, fun h => absurd rfl h, nofun, rfl⟩⟩
  simp [Bootuf2State.Marked, Word.BitSet, Bootuf2Data.reset, Buf.empty]

/-- With aligned chunks, a block that has been taken is in the flash or in the cache. -/
lemma Tracks.placed (tr : Tracks img n m₀ ctx b) (al : b.Aligned 16) {i} (taken : i ∈ b.order) :
    (∀ j < 256, ctx.flash.mem (appOffset + (256 * i + j)) = img (256 * i + j)) ∨
      i ∈ b.held.blocks := by
  rcases tr.ok.mem_order.mp taken with ⟨c, hc, mem⟩ | mem
  · left
    intro j hj
    rw [Chunk.mem_blocks] at mem
    rw [tr.buffers.flash]
    exact programmed_img (fun d hd => (tr.ok.chunk_len d hd).2) al.chunks tr.ok.firsts_nodup hc
      (by omega) (by omega)
  · exact .inr mem

/-- With aligned chunks and nothing left in the cache, the flash holds every block taken. -/
lemma Tracks.image (tr : Tracks img n m₀ ctx b) (al : b.Aligned 16) (empty : b.held.len = 0) {a}
    (taken : a / 256 ∈ b.order) : ctx.flash.mem (appOffset + a) = img a := by
  rcases tr.placed al taken with h | mem
  · have e := h (a % 256) (by omega)
    rwa [Nat.div_add_mod] at e
  · rw [Chunk.mem_blocks] at mem
    omega

end Simulation

end WlhHpm.Bootuf2

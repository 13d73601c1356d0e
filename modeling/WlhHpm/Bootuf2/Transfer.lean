import WlhHpm.Bootuf2.Delivery

/-!
# Transfers in index order

A host copies a `.uf2` file to the disk: the blocks arrive in index order, mixed with other sectors
(directory and FAT updates), with repeats of blocks that have already been sent, with polls of the
main loop and with USB configurations. `InOrder blocks k ops k'` says that the events `ops` take
such a copy of the packed file `blocks` from its block `k` to its block `k'`.

`Steady img n k ops k'` is the same in terms of what the disk sees: every sector that can be taken
either has an index below the progress `k`, or shows the next block of the byte stream `img`. It
depends on the stream and not on the file, so it also covers a copy in which one file takes over
from another. `Steady.progress` carries the invariant `Progress` through a whole transfer, and
`Progress.image`, `Progress.frame` and `Progress.is_write_done` say what it means for the flash.
-/

namespace WlhHpm.Bootuf2
open WlhHpm.Flash WlhHpm.Coalesce

/-- A copy of the packed file `blocks`, from block `k` to block `k'`. -/
inductive InOrder (blocks : List (List UInt8)) : Nat → List Op → Nat → Prop where
  | nil {k} : InOrder blocks k [] k
  | other {k ops k' buff} : ¬ Accepts (.ofBuff buff) → InOrder blocks k ops k' →
    InOrder blocks k (.sector buff :: ops) k'
  | again {k ops k' i buff} : i < k → blocks[i]? = some (buff.toList 512) →
    InOrder blocks k ops k' → InOrder blocks k (.sector buff :: ops) k'
  | next {k ops k' buff} : blocks[k]? = some (buff.toList 512) →
    InOrder blocks (k + 1) ops k' → InOrder blocks k (.sector buff :: ops) k'
  | poll {k ops k'} : InOrder blocks k ops k' → InOrder blocks k (.poll :: ops) k'
  | init {k ops k'} : InOrder blocks k ops k' → InOrder blocks k (.init :: ops) k'

/-- The disk is shown the byte stream `img`, from block `k` to block `k'` of `n`. -/
inductive Steady (img : Mem) (n : Nat) : Nat → List Op → Nat → Prop where
  | nil {k} : Steady img n k [] k
  | skip {k ops k' buff} :
    (Writable (.ofBuff buff) → (Bootuf2Block.ofBuff buff).blockIndex.toNat < k) →
    Steady img n k ops k' → Steady img n k (.sector buff :: ops) k'
  | next {k ops k' buff} : k < n → Shows img n k (.ofBuff buff) →
    Steady img n (k + 1) ops k' → Steady img n k (.sector buff :: ops) k'
  | poll {k ops k'} : Steady img n k ops k' → Steady img n k (.poll :: ops) k'
  | init {k ops k'} : Steady img n k ops k' → Steady img n k (.init :: ops) k'

/-- A USB configuration finds the cache empty. -/
def InitIdle {σ : Type} (ctx : Bootuf2Data σ) : Op → Prop
  | .init => ctx.cachedBytes = 0
  | .sector _ => True
  | .poll => True

/-- The first `k` blocks have been taken, and the chunks are aligned. -/
structure Progress (img : Mem) (n : Nat) (m₀ : Mem) (ctx : Bootuf2Data Chip) (k : Nat) (b : Buf) :
    Prop extends Tracks img n m₀ ctx b where
  order_eq : b.order = List.range k
  aligned : b.Aligned 16
  live : k < n → k ≠ 0 → b.held.len ≠ 0

section Progress
variable {img m₀ : Mem} {n k : Nat} {ctx : Bootuf2Data Chip} {b : Buf} {rom : Rom}

/-- No block has been taken after a reset. -/
lemma progress_reset (img m₀ : Mem) (n : Nat) (calls) :
    Progress img n m₀ (.reset ⟨m₀, calls⟩) 0 Buf.empty :=
  ⟨tracks_reset img m₀ n calls, rfl, Buf.aligned_empty _, fun _ h => absurd rfl h⟩

/-- No more blocks are taken than there are. -/
lemma Progress.le (pr : Progress img n m₀ ctx k b) : k ≤ n := by
  have len := pr.records.length_le pr.ok.nodup
  rwa [pr.order_eq, List.length_range] at len

/-- A block of a transfer that can be taken and was not taken before is fresh. -/
lemma Progress.fresh_iff {uf2 : Bootuf2Block} (pr : Progress img n m₀ ctx k b) :
    Fresh ctx uf2 ↔ Writable uf2 ∧ k ≤ uf2.blockIndex.toNat := by
  rw [Bootuf2.fresh_iff, pr.records.marked, pr.order_eq, List.mem_range, not_lt]

/-- A shown block can be taken. -/
lemma Shows.writable {i : Nat} {uf2 : Bootuf2Block} (sh : Shows img n i uf2) (lt : i < n)
    (small : n ≤ 13824) : Writable uf2 := by
  refine ⟨sh.accepts, fun e => ?_, ?_⟩
  · have t := sh.total
    rw [e] at t
    change 0 = n at t
    omega
  · rw [UInt32.lt_iff_toNat_lt, sh.index]
    change i < 0x360000
    omega

/-- A sector that cannot be taken, or has been taken before, changes nothing. -/
lemma Progress.skip {buff : Mem} (pr : Progress img n m₀ ctx k b)
    (old : Writable (.ofBuff buff) → (Bootuf2Block.ofBuff buff).blockIndex.toNat < k) :
    Progress img n m₀ (Op.step (bootuf2FlashWrite rom) ctx (.sector buff)) k b := by
  have stale : ¬ Fresh ctx (.ofBuff buff) := by
    rw [pr.fresh_iff]
    rintro ⟨wr, le⟩
    exact absurd (old wr) (by omega)
  rw [step_sector, writeOne_eq, if_neg stale]
  exact pr

/-- The next block moves the transfer on by one. -/
lemma Progress.next {buff : Mem} (pr : Progress img n m₀ ctx k b) (healthy : rom.Healthy)
    (small : n ≤ 13824) (lt : k < n) (sh : Shows img n k (.ofBuff buff)) :
    Progress img n m₀ (Op.step (bootuf2FlashWrite rom) ctx (.sector buff)) (k + 1) (b.put 16 k) := by
  have new : k ∉ b.order := by simp [pr.order_eq]
  have tr := pr.toTracks.step healthy (by omega) small (.sector buff) fun _ => ⟨k, lt, sh⟩
  rw [planStep, if_pos (sh.writable lt small), sh.index, Buf.take, if_neg new] at tr
  refine ⟨tr, ?_, ?_, fun _ _ => Buf.put_held_ne _ _ _⟩
  · rw [Buf.put_order, pr.order_eq, List.range_succ]
  · refine (Buf.put_aligned_iff pr.ok ?_ k).mpr ⟨pr.aligned, ?_⟩
    · intro ne
      exact pr.live lt fun e => ne (by simp [pr.order_eq, e])
    · by_cases zero : k = 0
      · exact .inl (by simp [zero])
      · refine .inr ?_
        obtain ⟨j, rfl⟩ := Nat.exists_eq_succ_of_ne_zero zero
        simp [pr.order_eq, List.range_succ]

/-- The first `k` blocks add up to the recorded count only if they are all blocks of an image that
    is not too large. -/
lemma complete_range_iff (pos : 0 < n) (le : k ≤ n) (small : n ≤ 13824) :
    Complete n (List.range k) ↔ k = n ∧ n < 13824 := by
  rw [Complete, List.length_range, recorded]
  constructor
  · rintro ⟨-, le⟩
    split at le <;> omega
  · rintro ⟨rfl, lt⟩
    refine ⟨fun e => ?_, ?_⟩
    · have := congrArg List.length e
      simp only [List.length_range, List.length_nil] at this
      omega
    · rw [if_neg (by omega)]

/-- A poll keeps the progress, and leaves nothing in the cache when it reports the end. -/
lemma Progress.poll (pr : Progress img n m₀ ctx k b) (healthy : rom.Healthy) (pos : 0 < n)
    (small : n ≤ 13824) :
    Progress img n m₀ (Op.step (bootuf2FlashWrite rom) ctx .poll) k
      (if k = n ∧ n < 13824 then b.spill else b) := by
  have tr := pr.toTracks.step healthy pos small .poll trivial
  simp only [planStep, pr.order_eq, complete_range_iff pos pr.le small] at tr
  split at tr
  · rename_i fin
    rw [if_pos fin]
    exact ⟨tr, by simpa using pr.order_eq, Buf.spill_aligned_iff.mpr pr.aligned, fun lt => by omega⟩
  · rename_i fin
    rw [if_neg fin]
    exact ⟨tr, pr.order_eq, pr.aligned, pr.live⟩

/-- A configuration with an empty cache keeps the progress. -/
lemma Progress.init (pr : Progress img n m₀ ctx k b) (healthy : rom.Healthy) (pos : 0 < n)
    (small : n ≤ 13824) (idle : ctx.cachedBytes = 0) :
    Progress img n m₀ (Op.step (bootuf2FlashWrite rom) ctx .init) k b :=
  ⟨pr.toTracks.step healthy pos small .init idle, pr.order_eq, pr.aligned, pr.live⟩

/-- A transfer carries the progress from its first block to its last. -/
theorem Steady.progress {ops k'} (st : Steady img n k ops k') (pr : Progress img n m₀ ctx k b)
    (healthy : rom.Healthy) (pos : 0 < n) (small : n ≤ 13824)
    (idle : Along (Op.step (bootuf2FlashWrite rom)) InitIdle ctx ops) :
    ∃ b', Progress img n m₀ (ops.foldl (Op.step (bootuf2FlashWrite rom)) ctx) k' b' := by
  induction st generalizing ctx b with
  | nil => exact ⟨b, pr⟩
  | skip old _ ih => exact ih (pr.skip old) idle.2
  | next lt sh _ ih => exact ih (pr.next healthy small lt sh) idle.2
  | poll _ ih => exact ih (pr.poll healthy pos small) idle.2
  | init _ ih => exact ih (pr.init healthy pos small idle.1) idle.2

/-- The progress records of a transfer, whatever happens to cache and flash on the way. -/
lemma Steady.records {σ : Type} {ctx : Bootuf2Data σ} {ops k'} (st : Steady img n k ops k')
    (fw : FlashWrite σ) (small : n ≤ 13824) (rec : Records n ctx.state (List.range k)) :
    Records n (ops.foldl (Op.step fw) ctx).state (List.range k') := by
  induction st generalizing ctx with
  | nil => exact rec
  | skip old _ ih =>
    refine ih ?_
    simp only [step_state]
    rw [if_neg]
    · exact rec
    · rintro fresh
      obtain ⟨wr, new⟩ := (Bootuf2.fresh_iff _ _).mp fresh
      rw [rec.marked, List.mem_range] at new
      exact new (old wr)
  | @next k _ _ buff lt sh _ ih =>
    have fresh : Fresh ctx (.ofBuff buff) := by
      rw [Bootuf2.fresh_iff, rec.marked, List.mem_range, sh.index]
      exact ⟨sh.writable lt small, lt_irrefl _⟩
    refine ih ?_
    simp only [step_state]
    rw [if_pos fresh, List.range_succ]
    exact rec.take List.nodup_range small lt sh fresh.2
  | poll _ ih => exact ih (by rw [step_state]; exact rec)
  | init _ ih => exact ih (by rw [step_state]; exact rec)

/-- With nothing left in the cache, the flash holds every block that has been taken. -/
lemma Progress.image (pr : Progress img n m₀ ctx k b) (empty : b.held.len = 0) {a}
    (lt : a < 256 * k) : ctx.flash.mem (appOffset + a) = img a := by
  refine pr.toTracks.image pr.aligned empty ?_
  rw [pr.order_eq, List.mem_range]
  omega

/-- Sectors that hold no block of the image keep their contents. -/
lemma Progress.frame (pr : Progress img n m₀ ctx k b) {i}
    (out : ∀ a < 256 * n, (appOffset + a) / 4096 ≠ i / 4096) : ctx.flash.mem i = m₀ i := by
  rw [pr.buffers.flash]
  refine programmed_out fun c hc => ?_
  obtain ⟨lpos, le⟩ := pr.ok.chunk_len c hc
  have last : c.first + c.len - 1 < n := by
    refine pr.records.range _ (pr.ok.mem_order.mpr (.inl ⟨c, hc, Chunk.mem_blocks.mpr ?_⟩))
    omega
  have head := out (256 * c.first) (by omega)
  obtain ⟨q, hq⟩ := pr.aligned.chunks c hc
  unfold appOffset at head ⊢
  omega

/-- Exact outcome of a poll: it reports the end after the last block of an image that is not too
    large, and then the flash holds the image. -/
theorem Progress.is_write_done (pr : Progress img n m₀ ctx k b) (healthy : rom.Healthy)
    (pos : 0 < n) (small : n ≤ 13824) :
    ((bootuf2IsWriteDone (bootuf2FlashWrite rom) ctx).2 = true ↔ k = n ∧ n < 13824) ∧
      ((bootuf2IsWriteDone (bootuf2FlashWrite rom) ctx).2 = true →
        ∀ a < 256 * n,
          (bootuf2IsWriteDone (bootuf2FlashWrite rom) ctx).1.flash.mem (appOffset + a) = img a) := by
  have iff : (bootuf2IsWriteDone (bootuf2FlashWrite rom) ctx).2 = true ↔ k = n ∧ n < 13824 := by
    rw [isWriteDone_snd, pr.records.check_iff pos, pr.order_eq]
    exact complete_range_iff pos pr.le small
  refine ⟨iff, fun done a lt => ?_⟩
  have fin := iff.mp done
  have after := pr.poll healthy pos small
  rw [if_pos fin] at after
  exact after.image (by simp) (by omega)

end Progress

end WlhHpm.Bootuf2

import WlhHpm.Lib.Run
import WlhHpm.Bootuf2.Disk

/-!
# Steps of the UF2 disk

The events that reach the disk (`Op`: a sector written by the host, a poll of the main loop, a USB
configuration), and for each function of `Bootuf2/Disk.lean` the one lemma through which later
proofs use it.

`Fresh ctx uf2` is the condition under which `bootuf2_write_sector` takes a block: it is a UF2 block
for this device, announces a non-zero block count, has an index below the limit and has not been
seen before. `writeOne_eq` says that any other sector changes nothing, and that a fresh block goes
through the cache and is recorded; `writeSector_eq` says that a write of several sectors is that many
single steps.
-/

namespace WlhHpm.Bootuf2

/-- Block `i` has been recorded in the mask. -/
def Bootuf2State.Marked (st : Bootuf2State) (i : Nat) : Prop := Word.BitSet st.mask i

instance (st : Bootuf2State) (i : Nat) : Decidable (st.Marked i) :=
  inferInstanceAs (Decidable (Word.BitSet _ _))

/-- The block count recorded with a block. -/
def Bootuf2State.total (st : Bootuf2State) (n : UInt32) : UInt32 :=
  if st.numberOfBlock ≠ n then
    if n ≥ bootuf2Blocksmax ∨ st.numberOfBlock ≠ 0 then 0xffffffff else n
  else n

/-- Exact condition for a block to be writable. -/
lemma checkWritable_iff (st : Bootuf2State) (uf2 : Bootuf2Block) (blockMax : UInt32) :
    bootuf2blockCheckWritable st uf2 blockMax = true ↔
      uf2.numberOfBlock ≠ 0 ∧ uf2.blockIndex < blockMax ∧ ¬ st.Marked uf2.blockIndex.toNat := by
  have test := Word.and_bitMask_eq_zero st.mask uf2.blockIndex
  unfold bootuf2blockCheckWritable Bootuf2State.Marked
  rw [← test]
  by_cases nz : uf2.numberOfBlock = 0
  · simp [nz]
  · by_cases lt : uf2.blockIndex < blockMax
    · simp only [ne_eq, nz, not_false_eq_true, if_true, lt, true_and]
      split <;> rename_i h <;> simp only [h, Bool.false_eq_true]
    · simp [lt]

/-- Recording a writable block sets its bit, counts it and fixes the block count. -/
lemma stateUpdate_eq {st : Bootuf2State} {uf2 : Bootuf2Block} {blockMax : UInt32}
    (h : bootuf2blockCheckWritable st uf2 blockMax = true) :
    bootuf2blockStateUpdate st uf2 blockMax =
      { numberOfBlock := st.total uf2.numberOfBlock
        numberOfWritten := st.numberOfWritten + 1
        mask := Function.update st.mask (uf2.blockIndex / 8).toNat
          (st.mask (uf2.blockIndex / 8).toNat ||| Word.bitMask uf2.blockIndex) } := by
  obtain ⟨nz, lt, fresh⟩ := (checkWritable_iff st uf2 blockMax).mp h
  have test := (Word.and_bitMask_eq_zero st.mask uf2.blockIndex).mpr fresh
  unfold bootuf2blockStateUpdate Bootuf2State.total
  rw [if_pos nz]
  by_cases same : st.numberOfBlock = uf2.numberOfBlock
  · simp only [ne_eq, same, not_true_eq_false, if_false, lt, if_true, test]
  · by_cases big : uf2.numberOfBlock ≥ bootuf2Blocksmax ∨ st.numberOfBlock ≠ 0
    · simp only [ne_eq, same, not_false_eq_true, if_true, big, lt, test]
    · simp only [ne_eq, same, not_false_eq_true, if_true, big, if_false, lt, test]

/-- The mask after a writable block has been recorded. -/
lemma marked_stateUpdate {st : Bootuf2State} {uf2 : Bootuf2Block} {blockMax : UInt32}
    (h : bootuf2blockCheckWritable st uf2 blockMax = true) (i : Nat) :
    (bootuf2blockStateUpdate st uf2 blockMax).Marked i ↔
      st.Marked i ∨ i = uf2.blockIndex.toNat := by
  rw [stateUpdate_eq h]
  exact Word.bitSet_update _ _ _

section Disk
variable {σ : Type} {fw : FlashWrite σ}

/-- The sector holds a block that `bootuf2_write_sector` takes. -/
def Fresh (ctx : Bootuf2Data σ) (uf2 : Bootuf2Block) : Prop :=
  Accepts uf2 ∧ bootuf2blockCheckWritable ctx.state uf2 configBootuf2Flashmax = true

instance (ctx : Bootuf2Data σ) (uf2 : Bootuf2Block) : Decidable (Fresh ctx uf2) :=
  inferInstanceAs (Decidable (_ ∧ _))

/-- The sector holds a block that can be taken, unless it has been taken before: the disk looks it up in
    the mask. -/
def Writable (uf2 : Bootuf2Block) : Prop :=
  Accepts uf2 ∧ uf2.numberOfBlock ≠ 0 ∧ uf2.blockIndex < configBootuf2Flashmax

instance (uf2 : Bootuf2Block) : Decidable (Writable uf2) := inferInstanceAs (Decidable (_ ∧ _))

/-- A block is taken if it can be and its bit is not set. -/
lemma fresh_iff (ctx : Bootuf2Data σ) (uf2 : Bootuf2Block) :
    Fresh ctx uf2 ↔ Writable uf2 ∧ ¬ ctx.state.Marked uf2.blockIndex.toNat := by
  rw [Fresh, checkWritable_iff, Writable]
  tauto

/-- A flush does not touch the recorded blocks. -/
@[simp] lemma flush_state (ctx : Bootuf2Data σ) : (bootuf2FlashFlush fw ctx).1.state = ctx.state := by
  unfold bootuf2FlashFlush
  split
  · rfl
  · simp only
    split <;> rfl

/-- The cache writer does not touch the recorded blocks. -/
@[simp] lemma writeInternal_state (ctx : Bootuf2Data σ) (uf2 : Bootuf2Block) :
    (bootuf2FlashWriteInternal fw ctx uf2).1.state = ctx.state := by
  unfold bootuf2FlashWriteInternal
  split
  · simp only
    split <;> simp [cacheAppend]
  · rfl

/-- One pass of `bootuf2_write_sector`: a fresh block is cached and recorded, and nothing else
    changes anything. -/
lemma writeOne_eq (ctx : Bootuf2Data σ) (buff : Mem) :
    writeOne fw ctx buff =
      if Fresh ctx (.ofBuff buff) then
        { (bootuf2FlashWriteInternal fw ctx (.ofBuff buff)).1 with
          state := bootuf2blockStateUpdate ctx.state (.ofBuff buff) configBootuf2Flashmax }
      else ctx := by
  by_cases fresh : Fresh ctx (.ofBuff buff)
  · rw [if_pos fresh, writeOne, if_pos fresh.1, if_pos fresh.2]
    simp only [writeInternal_state]
  · rw [if_neg fresh, writeOne]
    by_cases acc : Accepts (.ofBuff buff)
    · rw [if_pos acc, if_neg fun wr => fresh ⟨acc, wr⟩]
    · rw [if_neg acc]

/-- A flush is needed only when there is something to flush. -/
lemma needFlush.ne_zero {ctx : Bootuf2Data σ} {uf2 : Bootuf2Block} (h : needFlush ctx uf2) :
    ctx.cachedBytes ≠ 0 := by
  rcases h with h | h
  · exact h.1
  · rw [h]
    decide

/-- A flush of an empty cache does nothing. -/
lemma flush_zero {ctx : Bootuf2Data σ} (z : ctx.cachedBytes = 0) :
    bootuf2FlashFlush fw ctx = (ctx, 0) := by
  rw [bootuf2FlashFlush, if_pos z]

/-- A flush of a non-empty cache calls the port; the cache is emptied only if that succeeds. -/
lemma flush_eq {ctx : Bootuf2Data σ} (nz : ctx.cachedBytes ≠ 0) :
    (bootuf2FlashFlush fw ctx).1 =
      if (fw ctx.cachedAddress ctx.cache ctx.cachedBytes ctx.flash).2 ≠ 0 then
        { ctx with flash := (fw ctx.cachedAddress ctx.cache ctx.cachedBytes ctx.flash).1 }
      else
        { ctx with
          flash := (fw ctx.cachedAddress ctx.cache ctx.cachedBytes ctx.flash).1
          cachedBytes := 0 } := by
  rw [bootuf2FlashFlush, if_neg nz]
  simp only
  split <;> rfl

/-- The three outcomes of the cache writer: the block is appended, appended after a flush, or (the
    flush having failed) not cached at all. -/
lemma writeInternal_eq (ctx : Bootuf2Data σ) (uf2 : Bootuf2Block) :
    (bootuf2FlashWriteInternal fw ctx uf2).1 =
      if needFlush ctx uf2 then
        if (fw ctx.cachedAddress ctx.cache ctx.cachedBytes ctx.flash).2 ≠ 0 then
          { ctx with flash := (fw ctx.cachedAddress ctx.cache ctx.cachedBytes ctx.flash).1 }
        else
          cacheAppend { ctx with
            flash := (fw ctx.cachedAddress ctx.cache ctx.cachedBytes ctx.flash).1
            cachedBytes := 0 } uf2
      else cacheAppend ctx uf2 := by
  unfold bootuf2FlashWriteInternal
  by_cases need : needFlush ctx uf2
  · rw [if_pos need, if_pos need]
    simp only [bootuf2FlashFlush, if_neg need.ne_zero]
    by_cases err : (fw ctx.cachedAddress ctx.cache ctx.cachedBytes ctx.flash).2 = 0
    · simp [err]
    · simp [err]
  · rw [if_neg need, if_neg need]

/-- An event at the disk. -/
inductive Op where
  | sector (buff : Mem)
  | poll
  | init

variable (fw) in
/-- Effect of an event. -/
def Op.step (ctx : Bootuf2Data σ) : Op → Bootuf2Data σ
  | .sector buff => bootuf2WriteSector fw ctx buff 1
  | .poll => (bootuf2IsWriteDone fw ctx).1
  | .init => bootuf2Init ctx

/-- A sector that is written is one pass of the loop. -/
@[simp] lemma step_sector (ctx : Bootuf2Data σ) (buff : Mem) :
    Op.step fw ctx (.sector buff) = writeOne fw ctx buff := rfl

/-- What a step does to the progress records does not depend on the flash. -/
lemma step_state (ctx : Bootuf2Data σ) (op : Op) :
    (Op.step fw ctx op).state =
      match op with
      | .sector buff =>
        if Fresh ctx (.ofBuff buff) then
          bootuf2blockStateUpdate ctx.state (.ofBuff buff) configBootuf2Flashmax
        else ctx.state
      | .poll => ctx.state
      | .init => ctx.state := by
  cases op with
  | sector buff =>
    rw [step_sector, writeOne_eq]
    split
    · rename_i fresh
      simp only [fresh, if_true]
    · rename_i stale
      simp only [stale, if_false]
  | poll =>
    simp only [Op.step, bootuf2IsWriteDone]
    split
    · exact flush_state ctx
    · rfl
  | init => rfl

/-- A poll reports the end of the update by the progress records alone. -/
lemma isWriteDone_snd (ctx : Bootuf2Data σ) :
    (bootuf2IsWriteDone fw ctx).2 = bootuf2blockStateCheck ctx.state := by
  unfold bootuf2IsWriteDone
  split
  · rename_i h
    exact h.symm
  · rename_i h
    exact (Bool.eq_false_iff.mpr h).symm

/-- Writing several sectors is writing them one after the other. -/
lemma writeSector_eq (ctx : Bootuf2Data σ) (buff : Mem) (n : Nat) :
    bootuf2WriteSector fw ctx buff n =
      ((List.range n).map fun k => Op.sector (buff.shift (configBootuf2SectorSize * k))).foldl
        (Op.step fw) ctx := by
  induction n generalizing ctx buff with
  | zero => rfl
  | succ n ih =>
    rw [bootuf2WriteSector, ih, List.range_succ_eq_map, List.map_cons, List.foldl_cons,
      List.map_map, Nat.mul_zero, Mem.shift_zero, step_sector]
    congr 1
    refine List.map_congr_left fun k _ => ?_
    simp only [Function.comp_apply, Mem.shift_shift, Nat.mul_succ, Nat.add_comm]

end Disk

end WlhHpm.Bootuf2

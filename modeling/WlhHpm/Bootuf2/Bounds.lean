import WlhHpm.Bootuf2.Confine

/-!
# Array accesses of the UF2 disk

`Bootuf2/Disk.lean` lays `STATE->Mask` and the cache over unbounded memory, as C does. Here the same
functions are run with a log of the places they touch (`Access`): an index of the mask, or a copy of
a payload into the cache. `fst_writeOneLog` says that logging changes nothing else.

The two arrays have 1729 and 4096 bytes, and the payload field of a sector has 476. `mask_in_bounds`
and `cache_in_bounds` give the exact conditions under which all logged accesses stay inside:
the first is a condition on the block indices alone, since the limit that the code passes
(`CONFIG_BOOTUF2_FLASHMAX`) counts bytes while the mask has one bit for every 256 of them; the
second is a condition on the payload sizes, which the code never looks at. Blocks of 256 bytes, the
size that the source relies on, meet the second one (`cache_in_bounds_of_256`).
-/

namespace WlhHpm.Bootuf2

/-- A place in an array that the disk touches. -/
inductive Access where
  /-- a byte of `STATE->Mask`, read or written -/
  | mask (i : Nat)
  /-- a copy of `n` bytes of `uf2->Data` to offset `a` of the cache -/
  | copy (a n : Nat)
deriving DecidableEq

/-- Number of bytes in `bootuf2_mask`. -/
def bootuf2MaskLength : Nat := (bootuf2Blocksmax / 8 + 1).toNat

/-- Number of bytes in `uf2->Data`. -/
def bootuf2DataLength : Nat := 476

/-- `bootuf2block_check_writable` with its accesses. -/
def checkWritableLog (st : Bootuf2State) (uf2 : Bootuf2Block) (blockMax : UInt32) :
    Bool × List Access :=
  if uf2.numberOfBlock ≠ 0 then
    if uf2.blockIndex < blockMax then
      let mask := Word.bitMask uf2.blockIndex
      let pos := (uf2.blockIndex / 8).toNat
      if st.mask pos &&& mask = 0 then (true, [.mask pos]) else (false, [.mask pos])
    else (false, [])
  else (false, [])

/-- `bootuf2block_state_update` with its accesses. -/
def stateUpdateLog (st : Bootuf2State) (uf2 : Bootuf2Block) (blockMax : UInt32) :
    Bootuf2State × List Access :=
  if uf2.numberOfBlock ≠ 0 then
    let st :=
      if st.numberOfBlock ≠ uf2.numberOfBlock then
        if uf2.numberOfBlock ≥ bootuf2Blocksmax ∨ st.numberOfBlock ≠ 0 then
          { st with numberOfBlock := 0xffffffff }
        else { st with numberOfBlock := uf2.numberOfBlock }
      else st
    if uf2.blockIndex < blockMax then
      let mask := Word.bitMask uf2.blockIndex
      let pos := (uf2.blockIndex / 8).toNat
      if st.mask pos &&& mask = 0 then
        -- the test reads the byte, the assignment reads and writes it
        ({ st with
          mask := Function.update st.mask pos (st.mask pos ||| mask)
          numberOfWritten := st.numberOfWritten + 1 }, [.mask pos, .mask pos, .mask pos])
      else (st, [.mask pos])
    else (st, [])
  else (st, [])

section Disk
variable {σ : Type} (fw : FlashWrite σ)

/-- The copy of a payload to the end of the cache. -/
def appendAccess (ctx : Bootuf2Data σ) (uf2 : Bootuf2Block) : Access :=
  .copy ctx.cachedBytes.toNat uf2.payloadSize.toNat

/-- `bootuf2_flash_write_internal` with its accesses. -/
def writeInternalLog (ctx : Bootuf2Data σ) (uf2 : Bootuf2Block) :
    (Bootuf2Data σ × Int) × List Access :=
  if needFlush ctx uf2 then
    let r := bootuf2FlashFlush fw ctx
    if r.2 ≠ 0 then (r, [])
    else ((cacheAppend r.1 uf2, 0), [appendAccess r.1 uf2])
  else ((cacheAppend ctx uf2, 0), [appendAccess ctx uf2])

/-- One pass of the loop of `bootuf2_write_sector` with its accesses. -/
def writeOneLog (ctx : Bootuf2Data σ) (buff : Mem) : Bootuf2Data σ × List Access :=
  let uf2 := Bootuf2Block.ofBuff buff
  if Accepts uf2 then
    let c := checkWritableLog ctx.state uf2 configBootuf2Flashmax
    if c.1 then
      let w := writeInternalLog fw ctx uf2
      let u := stateUpdateLog w.1.1.state uf2 configBootuf2Flashmax
      ({ w.1.1 with state := u.1 }, c.2 ++ w.2 ++ u.2)
    else (ctx, c.2)
  else (ctx, [])

/-- The accesses of an event: a poll and a configuration touch neither array. -/
def Op.log (ctx : Bootuf2Data σ) : Op → List Access
  | .sector buff => (writeOneLog fw ctx buff).2
  | .poll => []
  | .init => []

/-- The accesses of a run. -/
def accesses : Bootuf2Data σ → List Op → List Access
  | _, [] => []
  | ctx, op :: ops => op.log fw ctx ++ accesses (op.step fw ctx) ops

variable {fw}

/-- The log changes nothing in the result of `bootuf2block_check_writable`. -/
lemma fst_checkWritableLog (st : Bootuf2State) (uf2 : Bootuf2Block) (blockMax : UInt32) :
    (checkWritableLog st uf2 blockMax).1 = bootuf2blockCheckWritable st uf2 blockMax := by
  unfold checkWritableLog bootuf2blockCheckWritable
  simp only
  split
  · split
    · split <;> rfl
    · rfl
  · rfl

/-- The log changes nothing in the result of `bootuf2block_state_update`. -/
lemma fst_stateUpdateLog (st : Bootuf2State) (uf2 : Bootuf2Block) (blockMax : UInt32) :
    (stateUpdateLog st uf2 blockMax).1 = bootuf2blockStateUpdate st uf2 blockMax := by
  unfold stateUpdateLog bootuf2blockStateUpdate
  simp only [apply_ite Prod.fst]

/-- The log changes nothing in the result of `bootuf2_flash_write_internal`. -/
lemma fst_writeInternalLog (ctx : Bootuf2Data σ) (uf2 : Bootuf2Block) :
    (writeInternalLog fw ctx uf2).1 = bootuf2FlashWriteInternal fw ctx uf2 := by
  unfold writeInternalLog bootuf2FlashWriteInternal
  simp only [apply_ite Prod.fst]

/-- Logging does not change what a sector does. -/
lemma fst_writeOneLog (ctx : Bootuf2Data σ) (buff : Mem) :
    (writeOneLog fw ctx buff).1 = writeOne fw ctx buff := by
  unfold writeOneLog writeOne
  simp only [apply_ite Prod.fst, fst_checkWritableLog, fst_writeInternalLog, fst_stateUpdateLog]

/-! ## Which places a sector touches -/

/-- The block makes the disk copy its payload to offset `a` of the cache: either the cache takes it
    as it stands, or a flush is due and succeeds. -/
def CopiesTo (fw : FlashWrite σ) (ctx : Bootuf2Data σ) (uf2 : Bootuf2Block) (a : Nat) : Prop :=
  if needFlush ctx uf2 then
    (fw ctx.cachedAddress ctx.cache ctx.cachedBytes ctx.flash).2 = 0 ∧ a = 0
  else a = ctx.cachedBytes.toNat

instance (ctx : Bootuf2Data σ) (uf2 : Bootuf2Block) (a : Nat) : Decidable (CopiesTo fw ctx uf2 a) :=
  inferInstanceAs (Decidable (ite _ _ _))

/-- The check looks at the bit of a block below the limit. -/
lemma mem_checkWritableLog (st : Bootuf2State) (uf2 : Bootuf2Block) (blockMax : UInt32) (x : Access) :
    x ∈ (checkWritableLog st uf2 blockMax).2 ↔
      (uf2.numberOfBlock ≠ 0 ∧ uf2.blockIndex < blockMax) ∧ x = .mask (uf2.blockIndex / 8).toNat := by
  unfold checkWritableLog
  simp only
  split
  · rename_i nz
    split
    · rename_i lt
      split <;> simp [nz, lt]
    · rename_i ge
      simp [ge]
  · rename_i z
    simp only [ne_eq, not_not] at z
    simp [z]

/-- The update sets the bit of its block and touches no other. -/
lemma mem_stateUpdateLog {st : Bootuf2State} {uf2 : Bootuf2Block} {blockMax : UInt32} {x : Access}
    (h : x ∈ (stateUpdateLog st uf2 blockMax).2) : x = .mask (uf2.blockIndex / 8).toNat := by
  unfold stateUpdateLog at h
  simp only [apply_ite Prod.snd] at h
  split_ifs at h <;> simp at h <;> exact h

/-- The write copies the payload to its place in the cache. -/
lemma mem_writeInternalLog (ctx : Bootuf2Data σ) (uf2 : Bootuf2Block) (x : Access) :
    x ∈ (writeInternalLog fw ctx uf2).2 ↔
      ∃ a, CopiesTo fw ctx uf2 a ∧ x = .copy a uf2.payloadSize.toNat := by
  unfold writeInternalLog CopiesTo
  by_cases need : needFlush ctx uf2
  · simp only [if_pos need, bootuf2FlashFlush, if_neg need.ne_zero]
    by_cases err : (fw ctx.cachedAddress ctx.cache ctx.cachedBytes ctx.flash).2 = 0
    · simp [err, appendAccess]
    · simp [err]
  · simp [if_neg need, appendAccess]

/-- A sector touches byte `i` of the mask exactly when it looks up a block whose bit is there. -/
lemma mask_mem_log (ctx : Bootuf2Data σ) (buff : Mem) (i : Nat) :
    Access.mask i ∈ (Op.sector buff).log fw ctx ↔
      Writable (.ofBuff buff) ∧ i = ((Bootuf2Block.ofBuff buff).blockIndex / 8).toNat := by
  have lookup := mem_checkWritableLog ctx.state (.ofBuff buff) configBootuf2Flashmax (.mask i)
  simp only [Access.mask.injEq] at lookup
  have nocopy : Access.mask i ∉ (writeInternalLog fw ctx (.ofBuff buff)).2 := by
    intro h
    obtain ⟨a, -, e⟩ := (mem_writeInternalLog ctx _ _).mp h
    cases e
  unfold Op.log writeOneLog Writable
  simp only [fst_checkWritableLog]
  by_cases acc : Accepts (.ofBuff buff)
  · rw [if_pos acc]
    split
    · rename_i wr
      obtain ⟨nz, lt, -⟩ := (checkWritable_iff _ _ _).mp wr
      simp only [List.mem_append, lookup, nocopy, or_false]
      constructor
      · rintro (⟨-, e⟩ | h)
        · exact ⟨⟨acc, nz, lt⟩, e⟩
        · exact ⟨⟨acc, nz, lt⟩, by simpa using mem_stateUpdateLog h⟩
      · exact fun h => .inl ⟨⟨nz, lt⟩, h.2⟩
    · rw [lookup]
      exact ⟨fun h => ⟨⟨acc, h.1⟩, h.2⟩, fun h => ⟨h.1.2, h.2⟩⟩
  · rw [if_neg acc]
    exact ⟨fun h => absurd h List.not_mem_nil, fun h => absurd h.1.1 acc⟩

/-- A sector is copied into the cache exactly when its block is fresh and gets there. -/
lemma copy_mem_log (ctx : Bootuf2Data σ) (buff : Mem) (a n : Nat) :
    Access.copy a n ∈ (Op.sector buff).log fw ctx ↔
      Fresh ctx (.ofBuff buff) ∧ CopiesTo fw ctx (.ofBuff buff) a ∧
        n = (Bootuf2Block.ofBuff buff).payloadSize.toNat := by
  have nolookup : Access.copy a n ∉
      (checkWritableLog ctx.state (.ofBuff buff) configBootuf2Flashmax).2 := by
    intro h
    obtain ⟨-, e⟩ := (mem_checkWritableLog _ _ _ _).mp h
    cases e
  have noupdate (st : Bootuf2State) : Access.copy a n ∉
      (stateUpdateLog st (.ofBuff buff) configBootuf2Flashmax).2 := by
    intro h
    cases mem_stateUpdateLog h
  unfold Op.log writeOneLog Fresh
  simp only [fst_checkWritableLog]
  by_cases acc : Accepts (.ofBuff buff)
  · rw [if_pos acc]
    split
    · rename_i wr
      simp only [List.mem_append, nolookup, noupdate, false_or, or_false, mem_writeInternalLog,
        Access.copy.injEq]
      constructor
      · rintro ⟨_, dst, rfl, e⟩
        exact ⟨⟨acc, wr⟩, dst, e⟩
      · rintro ⟨-, dst, e⟩
        exact ⟨a, dst, rfl, e⟩
    · rename_i nwr
      exact ⟨fun h => absurd h nolookup, fun h => absurd h.1.2 nwr⟩
  · rw [if_neg acc]
    exact ⟨fun h => absurd h List.not_mem_nil, fun h => absurd h.1.1 acc⟩

/-! ## The mask -/

/-- If the sector looks up a block at all, the bit of the block lies in the mask. -/
def MaskSafe (uf2 : Bootuf2Block) : Prop := Writable uf2 → uf2.blockIndex.toNat < 8 * bootuf2MaskLength

instance (uf2 : Bootuf2Block) : Decidable (MaskSafe uf2) := inferInstanceAs (Decidable (_ → _))

/-- An access of a run is one of an event in the state before it. -/
lemma mem_accesses (ctx : Bootuf2Data σ) (ops : List Op) (x : Access) :
    x ∈ accesses fw ctx ops ↔
      ∃ l₁ op l₂, ops = l₁ ++ op :: l₂ ∧ x ∈ op.log fw (l₁.foldl (Op.step fw) ctx) := by
  induction ops generalizing ctx with
  | nil => simp [accesses]
  | cons op ops ih =>
    rw [accesses, List.mem_append, ih]
    constructor
    · rintro (h | ⟨l₁, op', l₂, rfl, h⟩)
      · exact ⟨[], op, ops, rfl, h⟩
      · exact ⟨op :: l₁, op', l₂, rfl, h⟩
    · rintro ⟨l₁, op', l₂, e, h⟩
      cases l₁ with
      | nil =>
        cases e
        exact .inl h
      | cons _ l₁ =>
        cases e
        exact .inr ⟨l₁, op', l₂, rfl, h⟩

/-- Every access to `STATE->Mask` is inside the array exactly when every block that is looked up has
    an index below the number of bits of the array. -/
theorem mask_in_bounds (fw : FlashWrite σ) (ctx : Bootuf2Data σ) (ops : List Op) :
    (∀ i, Access.mask i ∈ accesses fw ctx ops → i < bootuf2MaskLength) ↔
      ∀ buff, Op.sector buff ∈ ops → MaskSafe (.ofBuff buff) := by
  simp only [mem_accesses]
  constructor
  · intro inside buff mem look
    obtain ⟨l₁, l₂, rfl⟩ := List.append_of_mem mem
    have here := inside _ ⟨l₁, _, l₂, rfl, (mask_mem_log _ _ _).mpr ⟨look, rfl⟩⟩
    rw [Word.div_eight_toNat] at here
    omega
  · rintro safe i ⟨l₁, op, l₂, rfl, h⟩
    cases op with
    | sector buff =>
      obtain ⟨look, rfl⟩ := (mask_mem_log _ _ _).mp h
      have lt := safe buff (by simp) look
      rw [Word.div_eight_toNat]
      omega
    | poll => cases h
    | init => cases h

/-- A flash write that always succeeds. -/
def okFlashWrite : FlashWrite Unit := fun _ _ _ _ => ((), 0)

/-- A UF2 sector for this device with the given fields and a payload of zeros. -/
def plainSector (target payload index count : UInt32) : Mem :=
  Mem.ofList (Uf2Pack.structPack [bootuf2MagicStart0, bootuf2MagicStart1, bootuf2FlagFamilidPresent,
    target, payload, index, count, configBootuf2Familyid] ++ List.replicate 476 0 ++
    Word.le32Bytes bootuf2MagicEnd)

/-- One sector with index 13832 makes the disk use the byte after the mask. -/
theorem mask_out_of_bounds :
    ∃ i, Access.mask i ∈ accesses okFlashWrite (.reset ())
        [.sector (plainSector 0x80020000 256 13832 13833)] ∧ ¬ i < bootuf2MaskLength :=
  ⟨1729, by decide +kernel, by decide⟩

/-! ## The cache -/

/-- The event leaves the cache inside its array: the number of cached bytes is at most its size, and
    a copy stays inside the array and inside the payload field. -/
def CacheInBounds (fw : FlashWrite σ) (ctx : Bootuf2Data σ) (op : Op) : Prop :=
  (op.step fw ctx).cachedBytes ≤ configBootuf2CacheSize ∧
    ∀ a n, Access.copy a n ∈ op.log fw ctx →
      a + n ≤ configBootuf2CacheSize.toNat ∧ n ≤ bootuf2DataLength

/-- The payload of a fresh block that gets into the cache is at most 476 bytes long and, if no flush
    makes room for it, fits behind the cached bytes. -/
def PayloadFits (fw : FlashWrite σ) (ctx : Bootuf2Data σ) : Op → Prop
  | .sector buff =>
    Fresh ctx (.ofBuff buff) →
      if needFlush ctx (.ofBuff buff) then
        (fw ctx.cachedAddress ctx.cache ctx.cachedBytes ctx.flash).2 = 0 →
          (Bootuf2Block.ofBuff buff).payloadSize.toNat ≤ bootuf2DataLength
      else
        (Bootuf2Block.ofBuff buff).payloadSize.toNat ≤ bootuf2DataLength ∧
          ctx.cachedBytes.toNat + (Bootuf2Block.ofBuff buff).payloadSize.toNat ≤
            configBootuf2CacheSize.toNat
  | .poll => True
  | .init => True

/-- A flush does not fill the cache. -/
lemma flush_cachedBytes_le (ctx : Bootuf2Data σ) :
    (bootuf2FlashFlush fw ctx).1.cachedBytes ≤ ctx.cachedBytes := by
  by_cases z : ctx.cachedBytes = 0
  · rw [flush_zero z]
    exact UInt32.le_refl _
  · rw [flush_eq z]
    split
    · exact UInt32.le_refl _
    · exact UInt32.zero_le

/-- Bytes of the cache after a fresh block: none are added when the flush fails. -/
lemma writeOne_cachedBytes {ctx : Bootuf2Data σ} {buff : Mem} (fresh : Fresh ctx (.ofBuff buff)) :
    (writeOne fw ctx buff).cachedBytes =
      if needFlush ctx (.ofBuff buff) then
        if (fw ctx.cachedAddress ctx.cache ctx.cachedBytes ctx.flash).2 ≠ 0 then ctx.cachedBytes
        else 0 + (Bootuf2Block.ofBuff buff).payloadSize
      else ctx.cachedBytes + (Bootuf2Block.ofBuff buff).payloadSize := by
  rw [writeOne_eq, if_pos fresh]
  simp only [writeInternal_eq]
  split
  · split <;> rfl
  · rfl

/-- From a cache inside its array, an event keeps it there exactly when its payload fits. -/
lemma cacheInBounds_iff {ctx : Bootuf2Data σ} (inside : ctx.cachedBytes ≤ configBootuf2CacheSize)
    (op : Op) : CacheInBounds fw ctx op ↔ PayloadFits fw ctx op := by
  have size : configBootuf2CacheSize.toNat = 4096 := rfl
  have inside' := UInt32.le_iff_toNat_le.mp inside
  cases op with
  | sector buff =>
    unfold CacheInBounds PayloadFits
    simp only [copy_mem_log, CopiesTo, step_sector]
    by_cases fresh : Fresh ctx (.ofBuff buff)
    · rw [writeOne_cachedBytes fresh, UInt32.le_iff_toNat_le]
      simp only [fresh, true_and, true_implies, and_imp]
      split
      · split
        · rename_i err
          simp [err, inside']
        · rename_i ok
          simp only [ne_eq, not_not] at ok
          simp only [ok, true_implies, true_and, UInt32.zero_add]
          constructor
          · exact fun h => (h.2 0 _ rfl rfl).2
          · rintro short
            refine ⟨?_, ?_⟩
            · simp only [bootuf2DataLength] at short
              omega
            · rintro a n rfl rfl
              simp only [bootuf2DataLength] at short ⊢
              omega
      · constructor
        · exact fun h => (h.2 _ _ rfl rfl).symm
        · rintro ⟨short, fits⟩
          refine ⟨?_, ?_⟩
          · rw [UInt32.toNat_add]
            omega
          · rintro a n rfl rfl
            exact ⟨fits, short⟩
    · rw [writeOne_eq, if_neg fresh]
      simp [fresh, inside]
  | poll =>
    have kept : (Op.step fw ctx .poll).cachedBytes ≤ ctx.cachedBytes := by
      simp only [Op.step, bootuf2IsWriteDone]
      split
      · exact flush_cachedBytes_le ctx
      · exact UInt32.le_refl _
    simp [CacheInBounds, PayloadFits, Op.log, UInt32.le_trans kept inside]
  | init => simp [CacheInBounds, PayloadFits, Op.log, Op.step, bootuf2Init]

/-- In a run from a reset of the bootloader, the cache stays inside its array and every copy inside
    the cache and the payload field exactly when every payload fits. -/
theorem cache_in_bounds (fw : FlashWrite σ) (flash : σ) (ops : List Op) :
    Along (Op.step fw) (CacheInBounds fw) (.reset flash) ops ↔
      Along (Op.step fw) (PayloadFits fw) (.reset flash) ops := by
  refine along_congr (I := fun ctx => ctx.cachedBytes ≤ configBootuf2CacheSize) ?_ ?_ ?_
  · exact fun ctx op inside fits => ((cacheInBounds_iff inside op).mpr fits).1
  · exact fun ctx op inside => cacheInBounds_iff inside op
  · exact UInt32.zero_le

/-- One sector with a payload size of 512 is copied past the end of its payload field. -/
theorem cache_out_of_bounds :
    ¬ Along (Op.step okFlashWrite) (CacheInBounds okFlashWrite) (.reset ())
      [.sector (plainSector 0x80020000 512 0 1)] := by
  intro along
  have copied : Access.copy 0 512 ∈
      (Op.sector (plainSector 0x80020000 512 0 1)).log okFlashWrite (.reset ()) := by
    decide +kernel
  exact absurd (along.1.2 0 512 copied).2 (by decide)

/-- Payloads of 256 bytes, of which the cache holds a whole number, always fit. -/
lemma payloadFits_of_256 (ctx : Bootuf2Data σ) (op : Op) (fits : CacheFits ctx)
    (pay : Payload256 op) : PayloadFits fw ctx op := by
  cases op with
  | sector buff =>
    intro fresh
    have len := congrArg UInt32.toNat (pay fresh.1)
    split
    · intro _
      rw [len]
      decide
    · rename_i need
      obtain ⟨le, dvd⟩ := fits
      have ne : ctx.cachedBytes.toNat ≠ 4096 := fun h => need (.inr (UInt32.toNat_inj.mp h))
      rw [len]
      refine ⟨by decide, ?_⟩
      change ctx.cachedBytes.toNat + 256 ≤ 4096
      omega
  | poll => trivial
  | init => trivial

/-- As long as all blocks carry 256 bytes, the cache stays inside its array. -/
theorem cache_in_bounds_of_256 (fw : FlashWrite σ) (flash : σ) (ops : List Op)
    (pay : ∀ op ∈ ops, Payload256 op) :
    Along (Op.step fw) (CacheInBounds fw) (.reset flash) ops := by
  have along : Along (Op.step fw) (fun _ op => Payload256 op) (.reset flash) ops :=
    Along.of_forall fun op mem _ => pay op mem
  refine along.carry (I := CacheFits) ?_ ?_ (cacheFits_of_zero rfl)
  · exact fun ctx op fits pay => step_cacheFits ctx op fits pay
  · intro ctx op fits pay
    exact (cacheInBounds_iff (UInt32.le_iff_toNat_le.mpr fits.1) op).mpr
      (payloadFits_of_256 ctx op fits pay)

end Disk

end WlhHpm.Bootuf2

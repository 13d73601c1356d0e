import WlhHpm.Flash.Partition

/-!
# The UF2 disk

Model of the write side of `bootloader/bootuf2/bootuf2.c`: the block mask and its counters, the
4 KiB cache that coalesces consecutive blocks, and the entry points `bootuf2_write_sector`,
`bootuf2_is_write_done` and `bootuf2_init`.

A sector buffer is byte memory, and `Bootuf2Block.ofBuff` is the packed struct laid over it, so the
payload (`data`) is a pointer into the buffer: a copy of more than 476 bytes reads on into what
follows. In the same way `mask` and `cache` are the memory from the start of `bootuf2_mask` and
`bootuf2_disk_cache` on; an access past their end reads or writes a byte that belongs to no other
field of this model.

`bootuf2_flash_write` is a port function that `bootuf2.c` only declares, so the disk is generic in
it (`FlashWrite`) and in the state it acts on (`flash`). The fields of the source that the write
side never reads (`Enable`, `fbuff`, `erase`, `page_count`) are left out, as are the debug logs.
-/

namespace WlhHpm.Bootuf2

/-- A sector seen as a UF2 block (C `struct bootuf2_BLOCK`). -/
structure Bootuf2Block where
  magicStart0 : UInt32
  magicStart1 : UInt32
  flags : UInt32
  targetAddress : UInt32
  payloadSize : UInt32
  blockIndex : UInt32
  numberOfBlock : UInt32
  familyID : UInt32
  data : Mem
  magicEnd : UInt32

/-- The struct overlay `(void *)buff`. -/
def Bootuf2Block.ofBuff (buff : Mem) : Bootuf2Block where
  magicStart0 := Word.le32 buff 0
  magicStart1 := Word.le32 buff 4
  flags := Word.le32 buff 8
  targetAddress := Word.le32 buff 12
  payloadSize := Word.le32 buff 16
  blockIndex := Word.le32 buff 20
  numberOfBlock := Word.le32 buff 24
  familyID := Word.le32 buff 28
  data := buff.shift 32
  magicEnd := Word.le32 buff 508

def bootuf2MagicStart0 : UInt32 := 0x0A324655
def bootuf2MagicStart1 : UInt32 := 0x9E5D5157
def bootuf2MagicEnd : UInt32 := 0x0AB16F30
def bootuf2FlagNotMainFlash : UInt32 := 0x00000001
def bootuf2FlagFamilidPresent : UInt32 := 0x00002000

def configBootuf2SectorSize : Nat := 512
def configBootuf2CacheSize : UInt32 := 4096
def configBootuf2Familyid : UInt32 := 0x0A4D5048
def configBootuf2Flashmax : UInt32 := 0x00360000

/-- Number of 256-byte blocks in the `app` partition (C `BOOTUF2_BLOCKSMAX`). -/
def bootuf2Blocksmax : UInt32 :=
  configBootuf2Flashmax / 256 + if configBootuf2Flashmax % 256 ≠ 0 then 1 else 0

/-- Progress of an update (C `struct bootuf2_STATE`). -/
structure Bootuf2State where
  numberOfBlock : UInt32
  numberOfWritten : UInt32
  mask : Mem

/-- The disk (C `struct bootuf2_data`) together with the flash behind it. -/
structure Bootuf2Data (σ : Type) where
  state : Bootuf2State
  cache : Mem
  cachedAddress : UInt32
  cachedBytes : UInt32
  flash : σ

/-- The port function `bootuf2_flash_write`: address, data, size; `0` is success. -/
abbrev FlashWrite (σ : Type) := UInt32 → Mem → UInt32 → σ → σ × Int

/-- The block may be written: it has not been seen before (C `bootuf2block_check_writable`). -/
def bootuf2blockCheckWritable (st : Bootuf2State) (uf2 : Bootuf2Block) (blockMax : UInt32) : Bool :=
  if uf2.numberOfBlock ≠ 0 then
    if uf2.blockIndex < blockMax then
      let mask := Word.bitMask uf2.blockIndex
      let pos := (uf2.blockIndex / 8).toNat
      if st.mask pos &&& mask = 0 then true else false
    else false
  else false

/-- Record a block (C `bootuf2block_state_update`). -/
def bootuf2blockStateUpdate (st : Bootuf2State) (uf2 : Bootuf2Block) (blockMax : UInt32) :
    Bootuf2State :=
  if uf2.numberOfBlock ≠ 0 then
    let st :=
      if st.numberOfBlock ≠ uf2.numberOfBlock then
        if uf2.numberOfBlock ≥ bootuf2Blocksmax ∨ st.numberOfBlock ≠ 0 then
          -- a second image, or one too large: never reboot on its own
          { st with numberOfBlock := 0xffffffff }
        else { st with numberOfBlock := uf2.numberOfBlock }
      else st
    if uf2.blockIndex < blockMax then
      let mask := Word.bitMask uf2.blockIndex
      let pos := (uf2.blockIndex / 8).toNat
      if st.mask pos &&& mask = 0 then
        { st with
          mask := Function.update st.mask pos (st.mask pos ||| mask)
          numberOfWritten := st.numberOfWritten + 1 }
      else st
    else st
  else st

/-- All blocks have been written (C `bootuf2block_state_check`). -/
def bootuf2blockStateCheck (st : Bootuf2State) : Bool :=
  st.numberOfWritten ≥ st.numberOfBlock && st.numberOfBlock ≠ 0

section Disk
variable {σ : Type} (fw : FlashWrite σ)

/-- Write the cache to the flash (C `bootuf2_flash_flush`). -/
def bootuf2FlashFlush (ctx : Bootuf2Data σ) : Bootuf2Data σ × Int :=
  if ctx.cachedBytes = 0 then (ctx, 0)
  else
    let r := fw ctx.cachedAddress ctx.cache ctx.cachedBytes ctx.flash
    if r.2 ≠ 0 then ({ ctx with flash := r.1 }, -1)
    else ({ ctx with flash := r.1, cachedBytes := 0 }, 0)

/-- The cache has to be flushed before the block can enter it: the block does not continue the
    cached range, or the cache is full. -/
def needFlush (ctx : Bootuf2Data σ) (uf2 : Bootuf2Block) : Prop :=
  (ctx.cachedBytes ≠ 0 ∧ ctx.cachedAddress + ctx.cachedBytes ≠ uf2.targetAddress) ∨
    ctx.cachedBytes = configBootuf2CacheSize

instance (ctx : Bootuf2Data σ) (uf2 : Bootuf2Block) : Decidable (needFlush ctx uf2) :=
  inferInstanceAs (Decidable (_ ∨ _))

/-- Copy the payload of a block to the end of the cache. -/
def cacheAppend (ctx : Bootuf2Data σ) (uf2 : Bootuf2Block) : Bootuf2Data σ :=
  { ctx with
    cache := ctx.cache.copy ctx.cachedBytes.toNat uf2.payloadSize.toNat uf2.data
    cachedAddress := uf2.targetAddress - ctx.cachedBytes
    cachedBytes := ctx.cachedBytes + uf2.payloadSize }

/-- Put a block into the cache, flushing it first where needed (C `bootuf2_flash_write_internal`). -/
def bootuf2FlashWriteInternal (ctx : Bootuf2Data σ) (uf2 : Bootuf2Block) : Bootuf2Data σ × Int :=
  if needFlush ctx uf2 then
    let r := bootuf2FlashFlush fw ctx
    if r.2 ≠ 0 then r
    else (cacheAppend r.1 uf2, 0)
  else (cacheAppend ctx uf2, 0)

/-- The sector is a UF2 block for this device: magic words, flags and family. -/
def Accepts (uf2 : Bootuf2Block) : Prop :=
  (uf2.magicStart0 = bootuf2MagicStart0 ∧ uf2.magicStart1 = bootuf2MagicStart1 ∧
    uf2.magicEnd = bootuf2MagicEnd ∧ uf2.flags &&& bootuf2FlagFamilidPresent ≠ 0 ∧
    uf2.flags &&& bootuf2FlagNotMainFlash = 0) ∧ uf2.familyID = configBootuf2Familyid

instance (uf2 : Bootuf2Block) : Decidable (Accepts uf2) := inferInstanceAs (Decidable (_ ∧ _))

/-- One pass of the loop of `bootuf2_write_sector`. The results of the two calls are dropped. -/
def writeOne (ctx : Bootuf2Data σ) (buff : Mem) : Bootuf2Data σ :=
  let uf2 := Bootuf2Block.ofBuff buff
  if Accepts uf2 then
    if bootuf2blockCheckWritable ctx.state uf2 configBootuf2Flashmax then
      let ctx := (bootuf2FlashWriteInternal fw ctx uf2).1
      { ctx with state := bootuf2blockStateUpdate ctx.state uf2 configBootuf2Flashmax }
    else ctx
  else ctx

/-- Write `sector_count` sectors (C `bootuf2_write_sector`; the sector number is not used). -/
def bootuf2WriteSector (ctx : Bootuf2Data σ) (buff : Mem) : Nat → Bootuf2Data σ
  | 0 => ctx
  | n + 1 => bootuf2WriteSector (writeOne fw ctx buff) (buff.shift configBootuf2SectorSize) n

/-- Poll for the end of the update (C `bootuf2_is_write_done`). The result of the flush is
    dropped. -/
def bootuf2IsWriteDone (ctx : Bootuf2Data σ) : Bootuf2Data σ × Bool :=
  if bootuf2blockStateCheck ctx.state then ((bootuf2FlashFlush fw ctx).1, true)
  else (ctx, false)

/-- What `bootuf2_init` does to the write side; it runs on every `USBD_EVENT_CONFIGURED`. -/
def bootuf2Init (ctx : Bootuf2Data σ) : Bootuf2Data σ :=
  { ctx with cachedBytes := 0, cachedAddress := 0 }

/-- The disk after a reset of the bootloader (the static initialisers). -/
def Bootuf2Data.reset (flash : σ) : Bootuf2Data σ where
  state := { numberOfBlock := 0, numberOfWritten := 0, mask := fun _ => 0 }
  cache := fun _ => 0
  cachedAddress := 0
  cachedBytes := 0
  flash := flash

end Disk

end WlhHpm.Bootuf2

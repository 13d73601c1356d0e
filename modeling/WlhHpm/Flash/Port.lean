import WlhHpm.Lib.Word

/-!
# The on-chip flash port

Model of `bootloader/port/fal/fal_flash_port.c`: the `erase` and `write` operations of the FAL
device `onchip_flash`, down to the calls they make into the ROM's XPI NOR driver.

* `RomCall` is one call of `rom_xpi_nor_erase_sector`, `rom_xpi_nor_erase_block` or
  `rom_xpi_nor_program`; `XpiNor.exec` is its effect on the flash contents. Any call may fail
  (`XpiNor.status`), and then leaves its target range in an arbitrary state.
* `Chip` is the state of the chip together with the list of all ROM calls made so far, so that
  "every byte that is ever erased or programmed" is a statement about `Chip.calls`.
* `erase` and `write` follow the source statement by statement, in 32-bit unsigned arithmetic; the
  `long` argument `offset` is kept as a word and tested for its sign with `Word.IsNeg`. Their bodies
  take the error that they return as an argument, since the port of the application
  (`Flash/Board.lean`) is a copy of this one with another error.

`init` is not modelled: `XpiNor` is a driver that `init` has probed with success (`flash_ready` set,
`onchip_flash.blk_size` the sector size and `onchip_flash.len` the total size), and `Rom` is one on a
board where `check_and_update_part_cache` of `fal_partition.c` has accepted the partition table.
-/

namespace WlhHpm.Flash

/-- One call into the ROM's XPI NOR driver. -/
inductive RomCall where
  | eraseSector (offset : UInt32)
  | eraseBlock (offset : UInt32)
  | program (offset : UInt32) (src : List UInt8)
  deriving DecidableEq, Repr

/-- The probed ROM driver: the geometry that `rom_xpi_nor_get_property` reports, and the outcome of
    the `n`-th call (`none` is `status_success`; after a failure the target range holds the given
    bytes). -/
structure XpiNor where
  sectorSize : UInt32
  blockSize : UInt32
  pageSize : UInt32
  totalSize : UInt32
  status : Nat → Option Mem
  sector_eq : sectorSize = 4096
  page_eq : pageSize = 256
  block_dvd : 4096 ∣ blockSize.toNat
  block_pos : 0 < blockSize.toNat

/-- The driver on a board whose partition table FAL has accepted. -/
structure Rom extends XpiNor where
  /-- FAL accepts its table only if the last on-chip partition (`resv`) starts inside the chip. -/
  parts_fit : 3616 * 1024 < totalSize.toNat
  /-- The chip size is a positive `long`. -/
  total_lt : totalSize.toNat < 2 ^ 31

instance : Coe Rom XpiNor := ⟨Rom.toXpiNor⟩

/-- The state of the chip: its contents and the ROM calls made so far. -/
structure Chip where
  mem : Mem
  calls : List RomCall

namespace RomCall

/-- First address of the range a call acts on. -/
def base (rom : XpiNor) : RomCall → Nat
  | eraseSector offset => offset.toNat / 4096 * 4096
  | eraseBlock offset => offset.toNat / rom.blockSize.toNat * rom.blockSize.toNat
  | program offset _ => offset.toNat

/-- Length of the range a call acts on. -/
def size (rom : XpiNor) : RomCall → Nat
  | eraseSector _ => 4096
  | eraseBlock _ => rom.blockSize.toNat
  | program _ src => src.length

/-- The call erases or programs the byte at address `i`. -/
def Hits (rom : XpiNor) (c : RomCall) (i : Nat) : Prop := c.base rom ≤ i ∧ i < c.base rom + c.size rom

instance (rom : XpiNor) (c : RomCall) (i : Nat) : Decidable (c.Hits rom i) :=
  inferInstanceAs (Decidable (_ ∧ _))

/-- Effect of a successful call on the flash contents. -/
def apply (rom : XpiNor) (m : Mem) : RomCall → Mem
  | eraseSector offset => m.erase ((eraseSector offset).base rom) 4096
  | eraseBlock offset => m.erase ((eraseBlock offset).base rom) rom.blockSize.toNat
  | program offset src => m.program offset.toNat src.length (Mem.ofList src)

end RomCall

/-- Perform one ROM call; `true` stands for `status_success`. -/
def XpiNor.exec (rom : XpiNor) (f : Chip) (c : RomCall) : Chip × Bool :=
  match rom.status f.calls.length with
  | none => (⟨c.apply rom f.mem, f.calls ++ [c]⟩, true)
  | some junk => (⟨f.mem.scribble (c.base rom) (c.size rom) junk, f.calls ++ [c]⟩, false)

/-- Round `size` up to a multiple of `blk_size`, as `erase` does. -/
def alignSize (size blkSize : UInt32) : UInt32 := (size + blkSize - 1) &&& ~~~(blkSize - 1)

/-- The loop of `erase`. It returns the chip, the `aligned_size` left over and whether every call
    succeeded. The first argument bounds the number of passes. -/
def eraseLoop (rom : XpiNor) : Nat → UInt32 → UInt32 → Chip → Chip × UInt32 × Bool
  | 0, _, alignedSize, f => (f, alignedSize, true)
  | fuel + 1, offset, alignedSize, f =>
    if alignedSize > 0 then
      let byBlock := offset % rom.blockSize = 0 ∧ alignedSize ≥ rom.blockSize
      let eraseUnit := if byBlock then rom.blockSize else rom.sectorSize
      let call := if byBlock then RomCall.eraseBlock offset else RomCall.eraseSector offset
      let r := rom.exec f call
      if r.2 then eraseLoop rom fuel (offset + eraseUnit) (alignedSize - eraseUnit) r.1
      else (r.1, alignedSize, false)
    else (f, alignedSize, true)

/-- The body of `erase` with the error that it returns. Each pass of the loop takes off at least one
    byte. -/
def eraseBody (error : Int) (rom : XpiNor) (offset size : UInt32) (f : Chip) : Chip × Int :=
  if Word.IsNeg offset ∨ offset + size > rom.totalSize ∨ size = 0 then (f, error)
  else
    let alignedSize := alignSize size rom.sectorSize
    let r := eraseLoop rom alignedSize.toNat offset alignedSize f
    (r.1, if r.2.2 then Word.toInt size else error)

/-- FAL erase operation (C `erase`). -/
def erase (rom : XpiNor) (offset size : UInt32) (f : Chip) : Chip × Int :=
  eraseBody (-1) rom offset size f

/-- The body of `write_unaligned_page_data` with the error that it returns. -/
def writePageBody (error : Int) (rom : XpiNor) (offset : UInt32) (buf : Mem) (size : UInt32) (f : Chip) :
    Chip × Int :=
  let r := rom.exec f (.program offset (buf.toList size.toNat))
  (r.1, if r.2 then Word.toInt size else error)

/-- Program part of one page (C `write_unaligned_page_data`). -/
def writeUnalignedPageData (rom : XpiNor) (offset : UInt32) (buf : Mem) (size : UInt32) (f : Chip) :
    Chip × Int :=
  writePageBody (-1) rom offset buf size f

/-- The loop of `write`: program the remaining bytes through the 256-byte bounce buffer. -/
def writeLoop (rom : XpiNor) : Nat → UInt32 → Mem → UInt32 → Chip → Chip × Bool
  | 0, _, _, _, f => (f, true)
  | fuel + 1, offset, buf, remaining, f =>
    if remaining > 0 then
      let writeSize := if remaining < 256 then remaining else 256
      let r := rom.exec f (.program offset (buf.toList writeSize.toNat))
      if r.2 then
        writeLoop rom fuel (offset + writeSize) (buf.shift writeSize.toNat) (remaining - writeSize)
          r.1
      else (r.1, false)
    else (f, true)

/-- The body of `write` with the function that programs part of a page, and the error that it returns. -/
def writeBody (error : Int) (writePage : XpiNor → UInt32 → Mem → UInt32 → Chip → Chip × Int)
    (rom : XpiNor) (offset : UInt32) (buf : Mem) (size : UInt32) (f : Chip) : Chip × Int :=
  if Word.IsNeg offset ∨ offset + size > rom.totalSize ∨ size = 0 then (f, error)
  else
    let offsetInPage := offset % rom.pageSize
    if offsetInPage ≠ 0 then
      let writeSizeInPage := rom.pageSize - offsetInPage
      let writePageSize := if writeSizeInPage < size then writeSizeInPage else size
      let r := writePage rom offset buf writePageSize f
      -- the result is stored in an unsigned variable before it is tested against zero
      let writeSize : UInt32 := UInt32.ofInt r.2
      if writeSize < 0 then (r.1, error)
      else
        let remaining := size - writePageSize
        let w := writeLoop rom remaining.toNat (offset + writePageSize)
          (buf.shift writePageSize.toNat) remaining r.1
        (w.1, if w.2 then Word.toInt size else error)
    else
      let w := writeLoop rom size.toNat offset buf size f
      (w.1, if w.2 then Word.toInt size else error)

/-- FAL write operation (C `write`). -/
def write (rom : XpiNor) (offset : UInt32) (buf : Mem) (size : UInt32) (f : Chip) : Chip × Int :=
  writeBody (-1) writeUnalignedPageData rom offset buf size f

end WlhHpm.Flash

import WlhHpm.Flash.Effect

/-!
# FAL partitions and the bootloader's flash writer

Model of `fal_partition_find`, `fal_partition_erase` and `fal_partition_write` of
`packages/fal/src/fal_partition.c` over the generated table `part_table/part_table.h`, and of
`bootuf2_flash_write` of `bootloader/msc_bootuf2.c`, the one function through which a UF2 update
reaches the flash.

All address arithmetic is that of a 32-bit target: `address - FLASH_BASE - part->offset`, the FAL
bound test `addr + size > part->len` and `part->offset + addr` wrap modulo `2 ^ 32`.

The three results at the end describe `bootuf2_flash_write` completely for the sizes that the UF2
cache produces (at most one sector):
* `flashWrite_within`: if the bound test does not wrap, only the `app` partition is touched;
* `flashWrite_escapes`: if it wraps, the bootloader's own partition is erased;
* `flashWrite_healthy`: the contents after a write into the partition.
-/

namespace WlhHpm.Flash

/-- A row of the partition table (C `struct fal_partition`). -/
structure FalPartition where
  name : String
  flashName : String
  offset : UInt32
  len : UInt32
  deriving DecidableEq, Repr

/-- Name of the on-chip flash device (C `NOR_FLASH_DEV_NAME`). -/
def norFlashDevName : String := "onchip"

/-- The generated partition table (C `FAL_PART_TABLE`). -/
def falPartTable : List FalPartition :=
  [⟨"bl", "onchip", 0, 128 * 1024⟩,
   ⟨"app", "onchip", 128 * 1024, 3456 * 1024⟩,
   ⟨"flashdb", "onchip", 3584 * 1024, 32 * 1024⟩,
   ⟨"resv", "onchip", 3616 * 1024, 480 * 1024⟩,
   ⟨"app_s2", "norflash0", 0, 4096 * 1024⟩,
   ⟨"resv_2", "norflash0", 4096 * 1024, 4096 * 1024⟩,
   ⟨"fs", "norflash0", 8192 * 1024, 8192 * 1024⟩]

/-- Find a partition by name (C `fal_partition_find`). -/
def falPartitionFind (name : String) : Option FalPartition :=
  falPartTable.find? fun part => part.name == name

/-- The partition lies on a flash device that the bootloader drives; its device table holds
    `onchip_flash` alone (C `flash_device_find_by_part`). -/
def flashDeviceFindByPart (part : FalPartition) : Bool := part.flashName == norFlashDevName

/-- The shape shared by the partition operations: bound test, device lookup, device operation. -/
def falPartitionOp (part : FalPartition) (addr size : UInt32)
    (op : UInt32 → Chip → Chip × Int) (f : Chip) : Chip × Int :=
  if addr + size > part.len then (f, -1)
  else if flashDeviceFindByPart part then op (part.offset + addr) f
  else (f, -1)

/-- Erase partition data (C `fal_partition_erase`). -/
def falPartitionErase (rom : Rom) (part : FalPartition) (addr size : UInt32) (f : Chip) :
    Chip × Int :=
  falPartitionOp part addr size (fun offset => erase rom offset size) f

/-- Write data to a partition (C `fal_partition_write`). -/
def falPartitionWrite (rom : Rom) (part : FalPartition) (addr : UInt32) (buf : Mem) (size : UInt32)
    (f : Chip) : Chip × Int :=
  falPartitionOp part addr size (fun offset => write rom offset buf size) f

/-- Start of the memory-mapped flash (C `FLASH_BASE`, exported by the linker script). -/
def flashBase : UInt32 := 0x80000000

/-- Write one cached range of an update (C `bootuf2_flash_write`); `0` is success. -/
def bootuf2FlashWrite (rom : Rom) (address : UInt32) (data : Mem) (size : UInt32) (f : Chip) :
    Chip × Int :=
  match falPartitionFind "app" with
  | none => (f, 1)
  | some part =>
    let addr := address - flashBase - part.offset
    let e := falPartitionErase rom part addr size f
    if e.2 < 0 then (e.1, 1)
    else
      let w := falPartitionWrite rom part addr data size e.1
      if w.2 < 0 then (w.1, 1)
      else (w.1, 0)

/-- Offset of the `app` partition in the flash. -/
def appOffset : Nat := 128 * 1024

/-- Length of the `app` partition. -/
def appLen : Nat := 3456 * 1024

/-- The byte at flash offset `i` belongs to the `app` partition. -/
def InApp (i : Nat) : Prop := appOffset ≤ i ∧ i < appOffset + appLen

instance (i : Nat) : Decidable (InApp i) :=
  inferInstanceAs (Decidable (_ ∧ _))

/-- Address relative to the `app` partition, as `bootuf2_flash_write` computes it. -/
def appAddr (address : UInt32) : UInt32 := address - flashBase - 0x20000

/-- The FAL bound test on this range wraps around: the range reaches the start of the `app`
    partition from below. -/
def Wraps (address size : UInt32) : Prop := 2 ^ 32 ≤ (appAddr address).toNat + size.toNat

instance (address size : UInt32) : Decidable (Wraps address size) :=
  inferInstanceAs (Decidable (_ ≤ _))

/-- `bootuf2_flash_write` with the partition looked up. -/
lemma bootuf2FlashWrite_eq (rom : Rom) (address : UInt32) (data : Mem) (size : UInt32) (f : Chip) :
    bootuf2FlashWrite rom address data size f =
      if appAddr address + size > 0x360000 then (f, 1)
      else
        let e := erase rom (0x20000 + appAddr address) size f
        if e.2 < 0 then (e.1, 1)
        else
          let w := write rom (0x20000 + appAddr address) data size e.1
          if w.2 < 0 then (w.1, 1) else (w.1, 0) := by
  have found : falPartitionFind "app" = some ⟨"app", "onchip", 0x20000, 0x360000⟩ := rfl
  have dev : flashDeviceFindByPart ⟨"app", "onchip", 0x20000, 0x360000⟩ = true := rfl
  simp only [bootuf2FlashWrite, found, falPartitionErase, falPartitionWrite, falPartitionOp, dev,
    if_true, ← appAddr.eq_1]
  split <;> rfl

/-- An erase of at most one sector stays inside that sector. -/
lemma erase_within (rom : Rom) (offset : UInt32) {size : UInt32} (f : Chip)
    (pos : 0 < size.toNat) (le : size.toNat ≤ 4096) :
    Within rom (Range (offset.toNat / 4096 * 4096) 4096) f (erase rom offset size f).1 := by
  by_cases guard : Word.IsNeg offset ∨ offset + size > rom.totalSize
  · rw [erase, eraseBody, if_pos (by tauto)]
    exact .refl _ _
  · rw [not_or] at guard
    rw [erase_small f guard.1 guard.2 pos le]
    exact exec_within fun i hi => sectorCall_hits.mp hi

/-- Flash offset of a range that passes the bound test without wrapping. -/
lemma offset_of_not_wraps {address size : UInt32} (nw : ¬ Wraps address size)
    (bound : ¬ appAddr address + size > 0x360000) :
    (appAddr address).toNat + size.toNat ≤ 0x360000 ∧
      (0x20000 + appAddr address).toNat = 0x20000 + (appAddr address).toNat := by
  unfold Wraps at nw
  simp only [gt_iff_lt, UInt32.lt_iff_toNat_lt, UInt32.toNat_add, UInt32.reduceToNat] at bound ⊢
  omega

/-- Flash offset of a range whose bound test wraps, which it passes. -/
lemma offset_of_wraps {address size : UInt32} (wr : Wraps address size) (le : size.toNat ≤ 4096) :
    ¬ appAddr address + size > 0x360000 ∧
      (0x20000 + appAddr address).toNat = 0x20000 + (appAddr address).toNat - 2 ^ 32 := by
  unfold Wraps at wr
  have lt := (appAddr address).toNat_lt
  simp only [gt_iff_lt, UInt32.lt_iff_toNat_lt, UInt32.toNat_add, UInt32.reduceToNat]
  omega

/-- A range that ends with the `app` partition or before passes the guards of the flash port. -/
lemma guards_pass (rom : Rom) {offset size : UInt32}
    (fits : offset.toNat + size.toNat ≤ 0x20000 + 0x360000) :
    ¬ Word.IsNeg offset ∧ ¬ offset + size > rom.totalSize := by
  have total := rom.parts_fit
  constructor
  · rw [Word.isNeg_iff]
    omega
  · simp only [gt_iff_lt, UInt32.lt_iff_toNat_lt, UInt32.toNat_add]
    omega

/-- A write whose bound test does not wrap touches the `app` partition only. -/
theorem flashWrite_within (rom : Rom) {address size : UInt32} (data : Mem) (f : Chip)
    (pos : 0 < size.toNat) (le : size.toNat ≤ 4096) (nw : ¬ Wraps address size) :
    Within rom InApp f (bootuf2FlashWrite rom address data size f).1 := by
  rw [bootuf2FlashWrite_eq]
  split
  · exact .refl _ _
  · rename_i bound
    obtain ⟨fits, off⟩ := offset_of_not_wraps nw bound
    generalize 0x20000 + appAddr address = offset at off ⊢
    have sector : ∀ i, Range (offset.toNat / 4096 * 4096) 4096 i → InApp i := by
      intro i hi
      simp only [Range, InApp, appOffset, appLen, off] at hi ⊢
      constructor <;> omega
    have range : ∀ i, Range offset.toNat size.toNat i → InApp i := by
      intro i hi
      simp only [Range, InApp, appOffset, appLen] at hi ⊢
      omega
    have er : Within rom InApp f (erase rom offset size f).1 := (erase_within rom offset f pos le).mono sector
    have wr : Within rom InApp (erase rom offset size f).1
        (write rom offset data size (erase rom offset size f).1).1 :=
      (write_within rom data _ (by omega)).mono range
    simp only
    split
    · exact er
    · split <;> exact er.trans wr

/-- The ROM calls made by the erase step are still recorded after the write step. -/
lemma flashWrite_keeps_calls {rom : Rom} {address size : UInt32} (data : Mem) (f : Chip) {c}
    (bound : ¬ appAddr address + size > 0x360000)
    (nowrap : (0x20000 + appAddr address).toNat + size.toNat < 2 ^ 32)
    (hc : c ∈ (erase rom (0x20000 + appAddr address) size f).1.calls) :
    c ∈ (bootuf2FlashWrite rom address data size f).1.calls := by
  rw [bootuf2FlashWrite_eq, if_neg bound]
  simp only
  split
  · exact hc
  · obtain ⟨new, e, _⟩ := (write_within rom data
      (erase rom (0x20000 + appAddr address) size f).1 nowrap).calls
    split <;> simp only [e, List.mem_append, hc, true_or]

/-- A write whose bound test wraps erases a sector of the bootloader's own partition. -/
theorem flashWrite_escapes (rom : Rom) {address size : UInt32} (data : Mem) (f : Chip)
    (le : size.toNat ≤ 4096) (wr : Wraps address size) :
    ∃ c ∈ (bootuf2FlashWrite rom address data size f).1.calls, ∃ i, c.Hits rom i ∧ ¬ InApp i := by
  obtain ⟨bound, off⟩ := offset_of_wraps wr le
  have lt := (appAddr address).toNat_lt
  unfold Wraps at wr
  obtain ⟨nneg, inChip⟩ := guards_pass rom
    (show (0x20000 + appAddr address).toNat + size.toNat ≤ 0x20000 + 0x360000 by omega)
  refine ⟨sectorCall rom (0x20000 + appAddr address), ?_, (0x20000 + appAddr address).toNat, ?_, ?_⟩
  · apply flashWrite_keeps_calls data f bound (by omega)
    rw [erase_small f nneg inChip (by omega) le, exec_calls]
    simp
  · rw [sectorCall_hits]
    omega
  · simp only [InApp, appOffset]
    omega

/-- ROM calls already made stay recorded. -/
lemma flashWrite_calls_mono {rom : Rom} {address size : UInt32} (data : Mem) (f : Chip)
    (pos : 0 < size.toNat) (le : size.toNat ≤ 4096) {c} (hc : c ∈ f.calls) :
    c ∈ (bootuf2FlashWrite rom address data size f).1.calls := by
  by_cases wr : Wraps address size
  · obtain ⟨bound, off⟩ := offset_of_wraps wr le
    have lt := (appAddr address).toNat_lt
    apply flashWrite_keeps_calls data f bound (by omega)
    obtain ⟨new, e, _⟩ := (erase_within rom (0x20000 + appAddr address) f pos le).calls
    rw [e]
    exact List.mem_append_left _ hc
  · obtain ⟨new, e, _⟩ := (flashWrite_within rom data f pos le wr).calls
    rw [e]
    exact List.mem_append_left _ hc

/-- Contents of the flash after one sector-sized write at offset `a` of the `app` partition. -/
def norWrite (m : Mem) (a : Nat) (data : Mem) (size : Nat) : Mem :=
  (m.erase ((appOffset + a) / 4096 * 4096) 4096).program (appOffset + a) size data

/-- With a healthy ROM, a range inside the partition is erased and programmed. -/
theorem flashWrite_healthy {rom : Rom} (ok : rom.Healthy) {address : UInt32} (size : UInt32) {a : Nat}
    (data : Mem) (f : Chip) (addr : address.toNat = 0x80020000 + a)
    (fits : a + size.toNat ≤ appLen) (pos : 0 < size.toNat) (le : size.toNat ≤ 4096) :
    ∃ calls, bootuf2FlashWrite rom address data size f =
      (⟨norWrite f.mem a data size.toNat, calls⟩, 0) := by
  unfold appLen at fits
  have ea : (appAddr address).toNat = a := by
    simp only [appAddr, flashBase, UInt32.toNat_sub, UInt32.reduceToNat]
    omega
  have off : (0x20000 + appAddr address).toNat = 0x20000 + a := by
    rw [UInt32.toNat_add, ea]
    simp only [UInt32.reduceToNat]
    omega
  have bound : ¬ appAddr address + size > 0x360000 := by
    simp only [gt_iff_lt, UInt32.lt_iff_toNat_lt, UInt32.toNat_add, UInt32.reduceToNat]
    omega
  obtain ⟨nneg, inChip⟩ := guards_pass rom
    (show (0x20000 + appAddr address).toNat + size.toNat ≤ 0x20000 + 0x360000 by omega)
  have nonneg : ¬ Word.toInt size < 0 := by
    have := Word.isNeg_iff size
    unfold Word.IsNeg at this
    omega
  rw [bootuf2FlashWrite_eq, if_neg bound]
  simp only
  rw [erase_small f nneg inChip pos le, exec_healthy ok, sectorCall_apply]
  simp only [if_true, nonneg, if_false]
  obtain ⟨calls, e⟩ := write_healthy ok (0x20000 + appAddr address) size data
    ⟨f.mem.erase ((0x20000 + appAddr address).toNat / 4096 * 4096) 4096,
      f.calls ++ [sectorCall rom (0x20000 + appAddr address)]⟩ nneg inChip pos (by omega)
  refine ⟨calls, ?_⟩
  rw [e]
  simp only [nonneg, if_false, off]
  rfl

end WlhHpm.Flash

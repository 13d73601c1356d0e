import WlhHpm.Bootuf2.Transfer

/-!
# A complete update

From the packer to the flash. `HostEvent` is what reaches `msc_bootuf2.c`: a mass-storage write of
any number of sectors (C `usbd_msc_sector_write`), or a poll of the main loop. A write is the list
of its sectors (`HostEvent.ops`), so a run of host events is a run of disk events.

* `update_content`: whenever the end of an update is reported, the `app` partition starts with the
  padded image, and no other sector has changed;
* `completes_iff`: which of the images that `uf2_pack.py` packages are ever reported complete. The
  packer admits an image that fills the partition, but `bootuf2block_state_update` refuses its block
  count (`>= BOOTUF2_BLOCKSMAX`), so the update never ends (`full_image_never_completes`).
-/

namespace WlhHpm.Bootuf2
open WlhHpm.Flash WlhHpm.Coalesce

/-! ## Host events -/

/-- A mass-storage write (C `usbd_msc_sector_write`; the sector number is not used). -/
def usbdMscSectorWrite {σ : Type} (fw : FlashWrite σ) (ctx : Bootuf2Data σ) (buffer : Mem)
    (length : UInt32) : Bootuf2Data σ :=
  bootuf2WriteSector fw ctx buffer (length.toNat / configBootuf2SectorSize)

/-- An event at the mass-storage layer. -/
inductive HostEvent where
  | write (buffer : Mem) (length : UInt32)
  | poll

/-- Effect of a host event. -/
def HostEvent.step {σ : Type} (fw : FlashWrite σ) (ctx : Bootuf2Data σ) :
    HostEvent → Bootuf2Data σ
  | .write buffer length => usbdMscSectorWrite fw ctx buffer length
  | .poll => (bootuf2IsWriteDone fw ctx).1

/-- The disk events of a host event. -/
def HostEvent.ops : HostEvent → List Op
  | .write buffer length =>
    (List.range (length.toNat / configBootuf2SectorSize)).map fun k =>
      .sector (buffer.shift (configBootuf2SectorSize * k))
  | .poll => [.poll]

section HostEvents
variable {σ : Type} {fw : FlashWrite σ}

/-- A host event is the run of its disk events. -/
lemma HostEvent.step_eq (ctx : Bootuf2Data σ) (ev : HostEvent) :
    ev.step fw ctx = ev.ops.foldl (Op.step fw) ctx := by
  cases ev with
  | write buffer length => exact writeSector_eq ctx buffer _
  | poll => rfl

/-- A run of host events is a run of disk events. -/
lemma HostEvent.run_eq (ctx : Bootuf2Data σ) (evs : List HostEvent) :
    evs.foldl (HostEvent.step fw) ctx = (evs.flatMap HostEvent.ops).foldl (Op.step fw) ctx := by
  rw [List.foldl_flatMap]
  congr 1
  funext ctx ev
  exact ev.step_eq ctx

variable (fw) in
/-- Host events never reconfigure the disk. -/
lemma HostEvent.initIdle (ctx : Bootuf2Data σ) (evs : List HostEvent) :
    Along (Op.step fw) InitIdle ctx (evs.flatMap HostEvent.ops) := by
  have quiet : ∀ op ∈ evs.flatMap HostEvent.ops, ∀ ctx : Bootuf2Data σ, InitIdle ctx op := by
    intro op hop ctx
    obtain ⟨ev, -, mem⟩ := List.mem_flatMap.mp hop
    cases ev with
    | write buffer length =>
      obtain ⟨k, -, rfl⟩ := List.mem_map.mp mem
      trivial
    | poll =>
      rw [List.mem_singleton.mp mem]
      trivial
  exact Along.of_forall quiet

end HostEvents

/-! ## The packed file as a byte stream -/

/-- The byte stream of an image: its padded contents. -/
def imageOf (image : List UInt8) : Mem := Mem.ofList (Uf2Pack.padded image)

/-- A buffer that holds a block of a packed file shows it. -/
lemma shows_of_packed {image : List UInt8} {blocks} (packed : Uf2Pack.main image = .ok blocks)
    {i buff} (h : blocks[i]? = some (buff.toList 512)) :
    i < Uf2Pack.count image ∧ Shows (imageOf image) (Uf2Pack.count image) i (.ofBuff buff) := by
  obtain ⟨-, small⟩ := Uf2Pack.count_bounds packed
  obtain ⟨-, -, rfl⟩ := Uf2Pack.main_ok_iff.mp packed
  rw [List.getElem?_map] at h
  obtain ⟨j, hj, e⟩ := Option.map_eq_some_iff.mp h
  obtain ⟨lt, rfl⟩ := List.getElem?_eq_some_iff.mp hj
  rw [List.length_range] at lt
  rw [List.getElem_range] at e
  exact ⟨lt, Uf2Pack.ofBuff_block e.symm lt small (Uf2Pack.padded_length image)⟩

/-- A packed file has as many blocks as its image. -/
lemma blocks_length {image : List UInt8} {blocks} (packed : Uf2Pack.main image = .ok blocks) :
    blocks.length = Uf2Pack.count image := by
  obtain ⟨-, -, rfl⟩ := Uf2Pack.main_ok_iff.mp packed
  simp

/-- A copy of a packed file shows the disk its byte stream. -/
lemma InOrder.steady {image : List UInt8} {blocks} (packed : Uf2Pack.main image = .ok blocks)
    {k ops k'} (ord : InOrder blocks k ops k') :
    Steady (imageOf image) (Uf2Pack.count image) k ops k' := by
  induction ord with
  | nil => exact .nil
  | other no _ ih => exact .skip (fun wr => absurd wr.1 no) ih
  | again lt h _ ih =>
    obtain ⟨-, sh⟩ := shows_of_packed packed h
    exact .skip (fun _ => sh.index ▸ lt) ih
  | next h _ ih =>
    obtain ⟨lt, sh⟩ := shows_of_packed packed h
    exact .next lt sh ih
  | poll _ ih => exact .poll ih
  | init _ ih => exact .init ih

/-- The progress of a copy of a packed file from reset. -/
lemma InOrder.progress {rom : Rom} (healthy : rom.Healthy) (mem : Mem) {image : List UInt8} {blocks}
    (packed : Uf2Pack.main image = .ok blocks) {ops k} (ord : InOrder blocks 0 ops k)
    (idle : Along (Op.step (bootuf2FlashWrite rom)) InitIdle (.reset ⟨mem, []⟩) ops) :
    ∃ b, Progress (imageOf image) (Uf2Pack.count image) mem
      (ops.foldl (Op.step (bootuf2FlashWrite rom)) (.reset ⟨mem, []⟩)) k b := by
  obtain ⟨nz, small⟩ := Uf2Pack.count_bounds packed
  exact (ord.steady packed).progress (progress_reset _ _ _ _) healthy nz small idle

/-! ## Sending a file block by block -/

/-- Sending sectors of a file one after the other is a copy of that part of it. -/
lemma inOrder_part {blocks : List (List UInt8)} {buffs : List Mem} {k : Nat}
    (holds : buffs.map (fun buff => buff.toList 512) <+: blocks.drop k) :
    InOrder blocks k (buffs.map Op.sector) (k + buffs.length) := by
  induction buffs generalizing k with
  | nil => exact .nil
  | cons buff buffs ih =>
    obtain ⟨rest, e⟩ := holds
    have head : blocks[k]? = some (buff.toList 512) := by
      rw [← List.head?_drop, ← e]
      rfl
    refine .next head ?_
    rw [List.length_cons, show k + (buffs.length + 1) = k + 1 + buffs.length by omega]
    refine ih ⟨rest, ?_⟩
    rw [← List.tail_drop, ← e]
    rfl

/-- The blocks of a file, one write each. -/
def sendAll (blocks : List (List UInt8)) : List HostEvent :=
  blocks.map fun blk => .write (Mem.ofList blk) 512

/-- The blocks of a file come to the disk as one sector each. -/
lemma sendAll_ops (blocks : List (List UInt8)) :
    (sendAll blocks).flatMap HostEvent.ops = (blocks.map Mem.ofList).map Op.sector := by
  induction blocks with
  | nil => rfl
  | cons blk blocks ih =>
    rw [sendAll, List.map_cons, List.flatMap_cons, ← sendAll, ih]
    change [Op.sector ((Mem.ofList blk).shift 0)] ++ _ = _
    rw [Mem.shift_zero]
    rfl

/-- The blocks of a packed file fill their sectors. -/
lemma sendAll_holds {image : List UInt8} {blocks} (packed : Uf2Pack.main image = .ok blocks) :
    (blocks.map Mem.ofList).map (fun buff => buff.toList 512) = blocks := by
  obtain ⟨-, -, rfl⟩ := Uf2Pack.main_ok_iff.mp packed
  rw [List.map_map, List.map_map]
  refine List.map_congr_left fun i hi => ?_
  simp only [Function.comp_apply]
  exact Mem.toList_ofList (Uf2Pack.block_length (List.mem_range.mp hi) (Uf2Pack.padded_length image))

/-- Sending the first blocks of a packed file is a copy of that part of it. -/
lemma sendAll_inOrder {image : List UInt8} {blocks} (packed : Uf2Pack.main image = .ok blocks)
    {p} (le : p ≤ blocks.length) :
    InOrder blocks 0 ((sendAll (blocks.take p)).flatMap HostEvent.ops) p := by
  have holds : ((blocks.take p).map Mem.ofList).map (fun buff => buff.toList 512) <+:
      blocks.drop 0 := by
    rw [List.map_take, List.map_take, sendAll_holds packed, List.drop_zero]
    exact List.take_prefix _ _
  have ord := inOrder_part holds
  rwa [List.length_map, List.length_take, Nat.zero_add, Nat.min_eq_left le, ← sendAll_ops] at ord

/-- Sending all blocks of a packed file is a copy of it. -/
lemma sendAll_complete {image : List UInt8} {blocks} (packed : Uf2Pack.main image = .ok blocks) :
    InOrder blocks 0 ((sendAll blocks).flatMap HostEvent.ops) blocks.length := by
  have ord := sendAll_inOrder packed le_rfl
  rwa [List.take_length] at ord

/-! ## Contents -/

/-- The `app` partition starts with the image, padded with `0xff` to whole blocks. -/
def HoldsImage (m : Mem) (image : List UInt8) : Prop :=
  ∀ a, (h : a < (Uf2Pack.padded image).length) → m (appOffset + a) = (Uf2Pack.padded image)[a]

/-- The partition starts with the image if it starts with its byte stream. -/
lemma holdsImage_of_stream {m : Mem} {image : List UInt8}
    (h : ∀ a < 256 * Uf2Pack.count image, m (appOffset + a) = imageOf image a) :
    HoldsImage m image := by
  intro a lt
  have len := Uf2Pack.padded_length image
  unfold Uf2Pack.payload at len
  rw [h a (by omega), imageOf, Mem.ofList_get lt]

/-! ## The smallest images -/

/-- A byte takes one block. -/
lemma count_one_byte : Uf2Pack.count [0x41] = 1 := by
  rw [Uf2Pack.count_eq]
  rfl

/-- An image of two equal blocks. -/
def twoBlocks (x : UInt8) : List UInt8 := List.replicate 512 x

/-- The packed file of `twoBlocks x`. -/
def twoPacked (x : UInt8) : List (List UInt8) :=
  [Uf2Pack.block (Uf2Pack.padded (twoBlocks x)) 2 0, Uf2Pack.block (Uf2Pack.padded (twoBlocks x)) 2 1]

/-- The image of two blocks has two. -/
lemma count_two (x : UInt8) : Uf2Pack.count (twoBlocks x) = 2 := by
  rw [Uf2Pack.count_eq, twoBlocks, List.length_replicate]

/-- The packed file of the image of two blocks. -/
lemma packed_two (x : UInt8) : Uf2Pack.main (twoBlocks x) = .ok (twoPacked x) := by
  rw [Uf2Pack.main_ok_iff, count_two, twoBlocks, List.length_replicate]
  exact ⟨by decide, by decide, rfl⟩

/-- The sector of block `i` of the two-block image. -/
def twoSector (x : UInt8) (i : Nat) : Mem :=
  Mem.ofList (Uf2Pack.block (Uf2Pack.padded (twoBlocks x)) 2 i)

/-- The sectors of the two blocks are those of the packed file. -/
lemma twoSector_toList (x : UInt8) {i : Nat} (lt : i < 2) :
    (twoSector x i).toList 512 = Uf2Pack.block (Uf2Pack.padded (twoBlocks x)) 2 i :=
  Mem.toList_ofList (Uf2Pack.block_length lt (by rw [Uf2Pack.padded_length, count_two]))

/-- The bytes of the padded two-block image. -/
lemma imageOf_two (x : UInt8) {a} (lt : a < 512) : imageOf (twoBlocks x) a = x := by
  rw [imageOf, Mem.ofList, List.getD_eq_getElem?_getD, twoBlocks, Uf2Pack.padded_replicate lt]
  rfl

/-- One wrong byte, and the flash does not hold the two-block image. -/
lemma not_holdsImage_two {m : Mem} {x : UInt8} {a : Nat} (lt : a < 512) (ne : m (appOffset + a) ≠ x) :
    ¬ HoldsImage m (twoBlocks x) := by
  intro holds
  have inside : a < (Uf2Pack.padded (twoBlocks x)).length := by
    rwa [Uf2Pack.padded_length, count_two, Uf2Pack.payload]
  have e := holds _ inside
  rw [← Mem.ofList_get inside] at e
  exact ne (e.trans (imageOf_two x lt))

/-- The sectors of the two blocks show them. -/
lemma twoSector_shows (x : UInt8) {i : Nat} (lt : i < 2) :
    Shows (imageOf (twoBlocks x)) 2 i (.ofBuff (twoSector x i)) := by
  have sh := Uf2Pack.ofBuff_block (twoSector_toList x lt) lt (by decide)
    (by rw [Uf2Pack.padded_length, count_two])
  exact sh

/-- The packed file of `twoBlocks x` lists the two sectors. -/
lemma twoPacked_get (x : UInt8) {i : Nat} (lt : i < 2) :
    (twoPacked x)[i]? = some ((twoSector x i).toList 512) := by
  rw [twoSector_toList x lt]
  interval_cases i <;> rfl

/-! ## The result of an update -/

/-- End-to-end contents of an update: a packed image is copied in index order, in writes of any
    number of sectors, with other sectors, repeats and polls in between, on flash that does not
    fail. Whenever the end of the update is reported, the `app` partition starts with the padded
    image, and only the sectors that cover it have changed. -/
theorem update_content (rom : Rom) (healthy : rom.Healthy) (mem : Mem) (image : List UInt8)
    (blocks : List (List UInt8)) (packed : Uf2Pack.main image = .ok blocks) (evs : List HostEvent)
    (k : Nat) (ord : InOrder blocks 0 (evs.flatMap HostEvent.ops) k)
    (done : (bootuf2IsWriteDone (bootuf2FlashWrite rom)
      (evs.foldl (HostEvent.step (bootuf2FlashWrite rom)) (.reset ⟨mem, []⟩))).2 = true) :
    HoldsImage (bootuf2IsWriteDone (bootuf2FlashWrite rom)
        (evs.foldl (HostEvent.step (bootuf2FlashWrite rom)) (.reset ⟨mem, []⟩))).1.flash.mem image ∧
      ∀ i, (∀ a < (Uf2Pack.padded image).length, (appOffset + a) / 4096 ≠ i / 4096) →
        (bootuf2IsWriteDone (bootuf2FlashWrite rom)
          (evs.foldl (HostEvent.step (bootuf2FlashWrite rom)) (.reset ⟨mem, []⟩))).1.flash.mem i =
            mem i := by
  obtain ⟨nz, small⟩ := Uf2Pack.count_bounds packed
  rw [HostEvent.run_eq] at done ⊢
  obtain ⟨b, pr⟩ := ord.progress healthy mem packed (HostEvent.initIdle _ _ evs)
  refine ⟨holdsImage_of_stream ((pr.is_write_done healthy nz small).2 done), fun i out => ?_⟩
  rw [Uf2Pack.padded_length] at out
  exact (pr.poll healthy nz small).frame out

/-- The two sectors of the two-block image, one behind the other. -/
def bothSectors : Mem := fun i => if i < 512 then twoSector 0x41 0 i else twoSector 0x41 1 (i - 512)

/-- A copy of the two-block image with a poll, a sector of the file system and a repeated block in
    between; the last write has two sectors. -/
def sampleCopy : List HostEvent :=
  [.write (twoSector 0x41 0) 512, .poll, .write (fun _ => 0) 512, .write bothSectors 1024]

/-- The sample copy shows the blocks in order. -/
lemma sampleCopy_inOrder : InOrder (twoPacked 0x41) 0 (sampleCopy.flatMap HostEvent.ops) 2 := by
  have first : (twoPacked 0x41)[0]? = some (((twoSector 0x41 0).shift 0).toList 512) := by
    rw [Mem.shift_zero]
    exact twoPacked_get 0x41 (by decide)
  have foreign : ¬ Accepts (.ofBuff (Mem.shift (fun _ => 0) 0)) := by decide +kernel
  have again : (bothSectors.shift 0).toList 512 = (twoSector 0x41 0).toList 512 := by
    refine Mem.toList_congr fun i lt => ?_
    rw [Mem.shift_zero, bothSectors, if_pos lt]
  have next : (bothSectors.shift 512).toList 512 = (twoSector 0x41 1).toList 512 := by
    refine Mem.toList_congr fun i lt => ?_
    rw [Mem.shift, bothSectors, if_neg (by omega), Nat.add_sub_cancel_left]
  refine .next first (.poll (.other foreign (.again (i := 0) (by decide) ?_ (.next ?_ .nil))))
  · exact (twoPacked_get 0x41 (by decide)).trans (congrArg some again.symm)
  · exact (twoPacked_get 0x41 (by decide)).trans (congrArg some next.symm)

/-- The sample copy, polled at its end. -/
theorem update_content_two_blocks :
    HoldsImage (bootuf2IsWriteDone (bootuf2FlashWrite .sample)
      (sampleCopy.foldl (HostEvent.step (bootuf2FlashWrite .sample))
        (.reset ⟨fun _ => 0, []⟩))).1.flash.mem (twoBlocks 0x41) :=
  (update_content .sample Rom.sample_healthy (fun _ => 0) (twoBlocks 0x41) _ (packed_two 0x41)
    sampleCopy 2 sampleCopy_inOrder (by decide +kernel)).1

/-! ## Completion -/

/-- After all blocks of a packed image, a poll reports the end unless there are too many of them. -/
lemma done_after_all {rom : Rom} (healthy : rom.Healthy) (mem : Mem) {image : List UInt8} {blocks}
    (packed : Uf2Pack.main image = .ok blocks) {evs : List HostEvent} {buffs : List Mem}
    (sent : evs.flatMap HostEvent.ops = buffs.map Op.sector)
    (holds : buffs.map (fun buff => buff.toList 512) = blocks) :
    (bootuf2IsWriteDone (bootuf2FlashWrite rom)
      (evs.foldl (HostEvent.step (bootuf2FlashWrite rom)) (.reset ⟨mem, []⟩))).2 = true ↔
        Uf2Pack.count image < 13824 := by
  obtain ⟨nz, small⟩ := Uf2Pack.count_bounds packed
  have ord : InOrder blocks 0 _ _ := inOrder_part ⟨[], by simpa using holds⟩
  have len := congrArg List.length holds
  rw [List.length_map] at len
  have idle := HostEvent.initIdle (bootuf2FlashWrite rom) (.reset ⟨mem, []⟩) evs
  rw [sent] at idle
  rw [HostEvent.run_eq, sent]
  obtain ⟨b, pr⟩ := ord.progress healthy mem packed idle
  rw [(pr.is_write_done healthy nz small).1, Nat.zero_add, len, blocks_length packed]
  exact and_iff_right rfl

/-- Which packaged images are reported complete: those that leave at least one payload of the
    partition free. -/
theorem completes_iff (rom : Rom) (healthy : rom.Healthy) (mem : Mem) (image : List UInt8)
    (blocks : List (List UInt8)) (packed : Uf2Pack.main image = .ok blocks) (evs : List HostEvent)
    (buffs : List Mem) (sent : evs.flatMap HostEvent.ops = buffs.map Op.sector)
    (holds : buffs.map (fun buff => buff.toList 512) = blocks) :
    (bootuf2IsWriteDone (bootuf2FlashWrite rom)
      (evs.foldl (HostEvent.step (bootuf2FlashWrite rom)) (.reset ⟨mem, []⟩))).2 = true ↔
        image.length ≤ Uf2Pack.appSize - Uf2Pack.payload := by
  rw [done_after_all healthy mem packed sent holds, Uf2Pack.count_eq]
  unfold Uf2Pack.appSize Uf2Pack.payload
  omega

/-- The two-block image is reported complete. -/
theorem completes_two_blocks :
    (bootuf2IsWriteDone (bootuf2FlashWrite .sample)
      ((sendAll (twoPacked 0x41)).foldl
        (HostEvent.step (bootuf2FlashWrite .sample)) (.reset ⟨fun _ => 0, []⟩))).2 = true := by
  rw [completes_iff .sample Rom.sample_healthy (fun _ => 0) (twoBlocks 0x41) _ (packed_two 0x41) _ _
    (sendAll_ops _) (sendAll_holds (packed_two 0x41)), twoBlocks, List.length_replicate]
  decide

/-- An image that fills the partition is packaged, but its update never ends. -/
theorem full_image_never_completes :
    ∃ blocks, Uf2Pack.main (List.replicate 0x360000 0) = .ok blocks ∧
      (bootuf2IsWriteDone (bootuf2FlashWrite .sample)
        ((sendAll blocks).foldl (HostEvent.step (bootuf2FlashWrite .sample))
          (.reset ⟨fun _ => 0xff, []⟩))).2 = false := by
  have len : (List.replicate 0x360000 (0 : UInt8)).length = 0x360000 := List.length_replicate
  generalize List.replicate 0x360000 (0 : UInt8) = image at len ⊢
  have packed := Uf2Pack.main_ok_iff.mpr
    ⟨show 0 < image.length by omega, show image.length ≤ Uf2Pack.appSize from len.le, rfl⟩
  have iff := done_after_all Rom.sample_healthy (fun _ => 0xff) packed (sendAll_ops _)
    (sendAll_holds packed)
  refine ⟨_, packed, ?_⟩
  rw [← Bool.not_eq_true, iff, Uf2Pack.count_eq, len]
  decide

end WlhHpm.Bootuf2

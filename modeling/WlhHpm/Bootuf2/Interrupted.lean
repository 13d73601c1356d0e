import WlhHpm.Bootuf2.Update

/-!
# Interrupted transfers

Two ways in which a copy can be cut short without a reset of the bootloader.

The host abandons the copy of one file and sends another one. Blocks are known to the disk by their
index alone, so those of the new file that the old one has already supplied are skipped; the end
result is the stream `mixStream` of both. `abandoned_copy_iff` says exactly when that is the new
image: the blocks sent of the old one are those of the new one.

The host resets the bus. `bootuf2_init` then empties the cache but leaves the mask, so blocks that
were only in the cache are lost and never accepted again (`reconfigure_loses_block`). As long as
every configuration finds the cache empty, no block is lost: `reconfigure_keeps_blocks`.
-/

namespace WlhHpm.Bootuf2
open WlhHpm.Flash WlhHpm.Coalesce

/-! ## An abandoned copy -/

/-- The first `p` blocks of one image, followed by the rest of another. -/
def mixStream (imageA imageB : List UInt8) (p : Nat) : Mem :=
  fun a => if a < 256 * p then imageOf imageA a else imageOf imageB a

/-- Only the bytes of its own block matter to a sector that shows it. -/
lemma Shows.congr {img img' : Mem} {n i : Nat} {uf2 : Bootuf2Block} (sh : Shows img n i uf2)
    (h : ∀ j < 256, img (256 * i + j) = img' (256 * i + j)) : Shows img' n i uf2 :=
  { sh with data := fun j hj => (sh.data j hj).trans (h j hj) }

/-- A copy never goes back. -/
lemma InOrder.le {blocks k ops k'} (ord : InOrder blocks k ops k') : k ≤ k' := by
  induction ord with
  | nil => exact le_rfl
  | other _ _ ih => exact ih
  | again _ _ _ ih => exact ih
  | next _ _ ih => exact (Nat.le_succ _).trans ih
  | poll _ ih => exact ih
  | init _ ih => exact ih

section Abandoned
variable {imageA imageB : List UInt8} {blocksA blocksB : List (List UInt8)} {p : Nat}

/-- The abandoned copy shows the disk the first part of the mixed stream. -/
lemma InOrder.steady_before (packed : Uf2Pack.main imageA = .ok blocksA) (imageB : List UInt8)
    {k ops k'} (ord : InOrder blocksA k ops k') (le : k' ≤ p) :
    Steady (mixStream imageA imageB p) (Uf2Pack.count imageA) k ops k' := by
  induction ord with
  | nil => exact .nil
  | other no _ ih => exact .skip (fun wr => absurd wr.1 no) (ih le)
  | again lt h _ ih =>
    obtain ⟨-, sh⟩ := shows_of_packed packed h
    exact .skip (fun _ => sh.index ▸ lt) (ih le)
  | next h rest ih =>
    obtain ⟨lt, sh⟩ := shows_of_packed packed h
    have step := rest.le
    refine .next lt (sh.congr fun j hj => ?_) (ih le)
    rw [mixStream, if_pos (by omega)]
  | poll _ ih => exact .poll (ih le)
  | init _ ih => exact .init (ih le)

/-- The second copy shows the disk the rest of the mixed stream: its first `p` blocks are skipped. -/
lemma InOrder.steady_after (packed : Uf2Pack.main imageB = .ok blocksB) (imageA : List UInt8)
    (p : Nat) {k ops k'} (ord : InOrder blocksB k ops k') :
    Steady (mixStream imageA imageB p) (Uf2Pack.count imageB) (max p k) ops (max p k') := by
  induction ord with
  | nil => exact .nil
  | other no _ ih => exact .skip (fun wr => absurd wr.1 no) ih
  | again lt h _ ih =>
    obtain ⟨-, sh⟩ := shows_of_packed packed h
    exact .skip (fun _ => sh.index ▸ by omega) ih
  | @next k _ _ _ h _ ih =>
    obtain ⟨lt, sh⟩ := shows_of_packed packed h
    by_cases old : k < p
    · -- the first copy has supplied this block, so the disk skips it
      rw [show max p k = max p (k + 1) by omega]
      exact .skip (fun _ => sh.index ▸ by omega) ih
    · rw [show max p (k + 1) = k + 1 by omega] at ih
      rw [show max p k = k by omega]
      refine .next lt (sh.congr fun j hj => ?_) ih
      rw [mixStream, if_neg (by omega)]
  | poll _ ih => exact .poll ih
  | init _ ih => exact .init ih

/-- What the flash holds after an abandoned copy and a complete one: the mixed stream. -/
lemma abandoned_copy {rom : Rom} (healthy : rom.Healthy) (mem : Mem)
    (packedA : Uf2Pack.main imageA = .ok blocksA) (packedB : Uf2Pack.main imageB = .ok blocksB)
    (same : blocksA.length = blocksB.length) (below : blocksB.length < 13824)
    (lt : p < blocksA.length) {evsA evsB : List HostEvent}
    (before : InOrder blocksA 0 (evsA.flatMap HostEvent.ops) p)
    (after : InOrder blocksB 0 (evsB.flatMap HostEvent.ops) blocksB.length) :
    (bootuf2IsWriteDone (bootuf2FlashWrite rom) ((evsA ++ evsB).foldl
      (HostEvent.step (bootuf2FlashWrite rom)) (.reset ⟨mem, []⟩))).2 = true ∧
    ∀ a < 256 * blocksB.length,
      (bootuf2IsWriteDone (bootuf2FlashWrite rom) ((evsA ++ evsB).foldl
        (HostEvent.step (bootuf2FlashWrite rom)) (.reset ⟨mem, []⟩))).1.flash.mem (appOffset + a) =
          mixStream imageA imageB p a := by
  have lenA := blocks_length packedA
  have lenB := blocks_length packedB
  have counts : Uf2Pack.count imageA = Uf2Pack.count imageB := by omega
  -- both copies are steady for the mixed stream, the first up to block `p` and the second from there
  have stA := before.steady_before packedA imageB le_rfl
  have stB := after.steady_after packedB imageA p
  rw [counts] at stA
  rw [show max p 0 = p by omega, show max p blocksB.length = blocksB.length by omega] at stB
  obtain ⟨b, prA⟩ := stA.progress (progress_reset _ mem _ []) healthy (by omega) (by omega)
    (HostEvent.initIdle (bootuf2FlashWrite rom) _ evsA)
  obtain ⟨b', prB⟩ := stB.progress prA healthy (by omega) (by omega)
    (HostEvent.initIdle (bootuf2FlashWrite rom) _ evsB)
  rw [← HostEvent.run_eq, ← HostEvent.run_eq, ← List.foldl_append] at prB
  obtain ⟨iff, content⟩ := prB.is_write_done healthy (by omega) (by omega)
  have done := iff.mpr ⟨lenB, by omega⟩
  exact ⟨done, lenB ▸ content done⟩

/-- The mixed stream is the second image exactly if the two images start with the same `p` blocks. -/
lemma mixStream_eq_iff (same : (Uf2Pack.padded imageA).length = (Uf2Pack.padded imageB).length)
    (le : 256 * p ≤ (Uf2Pack.padded imageB).length) :
    (∀ a, (h : a < (Uf2Pack.padded imageB).length) →
      mixStream imageA imageB p a = (Uf2Pack.padded imageB)[a]) ↔
      (Uf2Pack.padded imageA).take (256 * p) = (Uf2Pack.padded imageB).take (256 * p) := by
  constructor
  · intro h
    refine List.ext_getElem (by simp [same]) fun a h1 h2 => ?_
    rw [List.length_take] at h1
    have e := h a (by omega)
    rw [mixStream, if_pos (by omega), imageOf, Mem.ofList_get (by omega)] at e
    rw [List.getElem_take, List.getElem_take, e]
  · intro h a lt
    rw [mixStream]
    split
    · rename_i first
      have e := List.getElem_of_eq h (i := a) (by rw [List.length_take]; omega)
      rw [List.getElem_take, List.getElem_take] at e
      rw [imageOf, Mem.ofList_get (by omega), e]
    · rw [imageOf, Mem.ofList_get lt]

/-- No mixed images, exactly: after a copy of `A` that is abandoned at block `p` and a full copy of
    `B`, the image reported complete is `B` if and only if the `p` blocks sent of `A` are those of
    `B`. -/
theorem abandoned_copy_iff (rom : Rom) (healthy : rom.Healthy) (mem : Mem)
    (imageA imageB : List UInt8) (blocksA blocksB : List (List UInt8))
    (packedA : Uf2Pack.main imageA = .ok blocksA) (packedB : Uf2Pack.main imageB = .ok blocksB)
    (same : blocksA.length = blocksB.length) (below : blocksB.length < 13824) (p : Nat)
    (lt : p < blocksA.length) (evsA evsB : List HostEvent)
    (before : InOrder blocksA 0 (evsA.flatMap HostEvent.ops) p)
    (after : InOrder blocksB 0 (evsB.flatMap HostEvent.ops) blocksB.length) :
    ((bootuf2IsWriteDone (bootuf2FlashWrite rom) ((evsA ++ evsB).foldl
        (HostEvent.step (bootuf2FlashWrite rom)) (.reset ⟨mem, []⟩))).2 = true →
      HoldsImage (bootuf2IsWriteDone (bootuf2FlashWrite rom) ((evsA ++ evsB).foldl
        (HostEvent.step (bootuf2FlashWrite rom)) (.reset ⟨mem, []⟩))).1.flash.mem imageB) ↔
      (Uf2Pack.padded imageA).take (256 * p) = (Uf2Pack.padded imageB).take (256 * p) := by
  obtain ⟨done, content⟩ := abandoned_copy healthy mem packedA packedB same below lt before after
  have lenA := Uf2Pack.padded_length imageA
  have lenB := Uf2Pack.padded_length imageB
  rw [← blocks_length packedA, Uf2Pack.payload] at lenA
  rw [← blocks_length packedB, Uf2Pack.payload] at lenB
  rw [← mixStream_eq_iff (by omega) (by omega), forall_prop_of_true done]
  refine forall_congr' fun a => forall_congr' fun h => ?_
  rw [content a (by omega)]

end Abandoned

/-- A copy that is abandoned and then repeated with the same file. -/
theorem abandoned_copy_same_file :
    HoldsImage (bootuf2IsWriteDone (bootuf2FlashWrite .sample)
      ((sendAll ((twoPacked 0x41).take 1) ++ sendAll (twoPacked 0x41)).foldl
        (HostEvent.step (bootuf2FlashWrite .sample)) (.reset ⟨fun _ => 0xff, []⟩))).1.flash.mem
      (twoBlocks 0x41) := by
  have packed := packed_two 0x41
  refine (abandoned_copy_iff .sample Rom.sample_healthy (fun _ => 0xff) _ _ _ _ packed packed rfl
    (by decide) 1 (by decide) _ _ (sendAll_inOrder packed (by decide)) (sendAll_complete packed)).mpr
    rfl ?_
  exact (abandoned_copy Rom.sample_healthy (fun _ => 0xff) packed packed rfl (by decide)
    (by decide : 1 < 2) (sendAll_inOrder packed (by decide)) (sendAll_complete packed)).1

/-- One block of one file, then all of another: the result, reported complete, is a mix of both. -/
theorem abandoned_copy_mixes :
    Uf2Pack.main (twoBlocks 0x41) = .ok (twoPacked 0x41) ∧
    Uf2Pack.main (twoBlocks 0x42) = .ok (twoPacked 0x42) ∧
    (bootuf2IsWriteDone (bootuf2FlashWrite .sample)
      ((sendAll ((twoPacked 0x41).take 1) ++ sendAll (twoPacked 0x42)).foldl
        (HostEvent.step (bootuf2FlashWrite .sample)) (.reset ⟨fun _ => 0xff, []⟩))).2 = true ∧
    ¬ HoldsImage (bootuf2IsWriteDone (bootuf2FlashWrite .sample)
      ((sendAll ((twoPacked 0x41).take 1) ++ sendAll (twoPacked 0x42)).foldl
        (HostEvent.step (bootuf2FlashWrite .sample)) (.reset ⟨fun _ => 0xff, []⟩))).1.flash.mem
      (twoBlocks 0x42) := by
  obtain ⟨done, content⟩ := abandoned_copy Rom.sample_healthy (fun _ => 0xff) (packed_two 0x41)
    (packed_two 0x42) rfl (by decide) (by decide : 1 < 2)
    (sendAll_inOrder (packed_two 0x41) (by decide)) (sendAll_complete (packed_two 0x42))
  refine ⟨packed_two 0x41, packed_two 0x42, done, ?_⟩
  refine not_holdsImage_two (a := 0) (by decide) ?_
  rw [content 0 (by decide), mixStream, if_pos (by decide), imageOf_two _ (by decide)]
  decide

/-! ## USB configurations -/

/-- The payload of block `i` is in the `app` partition. -/
def InFlash (image : List UInt8) (ctx : Bootuf2Data Chip) (i : Nat) : Prop :=
  ∀ j < 256, ctx.flash.mem (appOffset + (256 * i + j)) = imageOf image (256 * i + j)

/-- The payload of block `i` is in the cached range
    `[cached_address, cached_address + cached_bytes)`. -/
def InCache (image : List UInt8) (ctx : Bootuf2Data Chip) (i : Nat) : Prop :=
  ctx.cachedAddress.toNat ≤ Uf2Pack.appStart + 256 * i ∧
    Uf2Pack.appStart + 256 * i + 256 ≤ ctx.cachedAddress.toNat + ctx.cachedBytes.toNat ∧
    ∀ j < 256, ctx.cache (Uf2Pack.appStart + 256 * i - ctx.cachedAddress.toNat + j) =
      imageOf image (256 * i + j)

/-- A buffered block is in the cached range. -/
lemma Progress.inCache {image : List UInt8} {n : Nat} {m₀ : Mem} {ctx : Bootuf2Data Chip} {k : Nat}
    {b : Buf} (pr : Progress (imageOf image) n m₀ ctx k b) {i} (held : i ∈ b.held.blocks) :
    InCache image ctx i := by
  obtain ⟨lo, hi⟩ := Chunk.mem_blocks.mp held
  have bytes := pr.buffers.bytes
  have addr := pr.buffers.address (by omega)
  have start : Uf2Pack.appStart = 0x80020000 := rfl
  refine ⟨by omega, by omega, fun j hj => ?_⟩
  rw [pr.buffers.cache _ (by omega)]
  congr 1
  omega

/-- A bus reset loses no block, provided that it finds the cache empty: in every state that a copy
    in index order reaches, with configurations only when nothing is cached, every marked block is in
    the partition or in the cache, and a poll that reports the end finds the whole image in flash. -/
theorem reconfigure_keeps_blocks (rom : Rom) (healthy : rom.Healthy) (mem : Mem)
    (image : List UInt8) (blocks : List (List UInt8)) (packed : Uf2Pack.main image = .ok blocks)
    (ops : List Op) (k : Nat) (ord : InOrder blocks 0 ops k)
    (idle : Along (Op.step (bootuf2FlashWrite rom)) InitIdle (.reset ⟨mem, []⟩) ops) :
    (∀ i, (ops.foldl (Op.step (bootuf2FlashWrite rom)) (.reset ⟨mem, []⟩)).state.Marked i →
      InFlash image (ops.foldl (Op.step (bootuf2FlashWrite rom)) (.reset ⟨mem, []⟩)) i ∨
        InCache image (ops.foldl (Op.step (bootuf2FlashWrite rom)) (.reset ⟨mem, []⟩)) i) ∧
    ((bootuf2IsWriteDone (bootuf2FlashWrite rom)
        (ops.foldl (Op.step (bootuf2FlashWrite rom)) (.reset ⟨mem, []⟩))).2 = true →
      HoldsImage (bootuf2IsWriteDone (bootuf2FlashWrite rom)
        (ops.foldl (Op.step (bootuf2FlashWrite rom)) (.reset ⟨mem, []⟩))).1.flash.mem image) := by
  obtain ⟨nz, small⟩ := Uf2Pack.count_bounds packed
  obtain ⟨b, pr⟩ := ord.progress healthy mem packed idle
  constructor
  · intro i marked
    rw [pr.records.marked] at marked
    exact (pr.toTracks.placed pr.aligned marked).imp id pr.inCache
  · intro done
    exact holdsImage_of_stream ((pr.is_write_done healthy nz small).2 done)

/-- A configuration before the copy does no harm. -/
theorem reconfigure_keeps_first_block :
    InFlash (twoBlocks 0x41) ([.init, .sector (twoSector 0x41 0), .sector (twoSector 0x41 1)].foldl
      (Op.step (bootuf2FlashWrite .sample)) (.reset ⟨fun _ => 0xff, []⟩)) 0 ∨
    InCache (twoBlocks 0x41) ([.init, .sector (twoSector 0x41 0), .sector (twoSector 0x41 1)].foldl
      (Op.step (bootuf2FlashWrite .sample)) (.reset ⟨fun _ => 0xff, []⟩)) 0 := by
  have ord : InOrder (twoPacked 0x41) 0
      [.init, .sector (twoSector 0x41 0), .sector (twoSector 0x41 1)] 2 :=
    .init (.next (twoPacked_get _ (by decide)) (.next (twoPacked_get _ (by decide)) .nil))
  have recs := (ord.steady (packed_two 0x41)).records (bootuf2FlashWrite .sample)
    (by rw [count_two]; decide) (tracks_reset (imageOf (twoBlocks 0x41)) (fun _ => 0xff) _ []).records
  exact (reconfigure_keeps_blocks .sample Rom.sample_healthy (fun _ => 0xff) _ _ (packed_two 0x41) _
    2 ord ⟨rfl, trivial, trivial, trivial⟩).1 0 ((recs.marked 0).mpr (by decide))

/-- The disk after the first of two blocks and a configuration: the block is marked, the cache is
    empty and the flash is as before. -/
lemma lost_block {rom : Rom} (healthy : rom.Healthy) (mem : Mem) (x : UInt8) :
    Records 2 ([.sector (twoSector x 0), .init].foldl (Op.step (bootuf2FlashWrite rom))
      (.reset ⟨mem, []⟩)).state [0] ∧
    Buffers (imageOf (twoBlocks x)) mem ([.sector (twoSector x 0), .init].foldl
      (Op.step (bootuf2FlashWrite rom)) (.reset ⟨mem, []⟩)) [] ⟨0, 0⟩ := by
  have pr := (progress_reset (imageOf (twoBlocks x)) mem 2 []).next healthy (by decide) (by decide)
    (twoSector_shows x (by decide))
  have recs := pr.records
  have flash := pr.buffers.flash
  rw [pr.order_eq] at recs
  rw [List.foldl_cons, List.foldl_cons, List.foldl_nil]
  generalize Op.step (bootuf2FlashWrite rom) (.reset ⟨mem, []⟩) (.sector (twoSector x 0)) = ctx
    at recs flash ⊢
  exact ⟨recs, ⟨rfl, fun h => absurd rfl h, nofun, flash⟩⟩

/-- The second block and a poll then erase the place of the first block. -/
lemma lost_block_erased {rom : Rom} (healthy : rom.Healthy) (mem : Mem) (x : UInt8) :
    (bootuf2IsWriteDone (bootuf2FlashWrite rom) ([.sector (twoSector x 0), .init,
      .sector (twoSector x 1)].foldl (Op.step (bootuf2FlashWrite rom)) (.reset ⟨mem, []⟩))).2 = true ∧
    (bootuf2IsWriteDone (bootuf2FlashWrite rom) ([.sector (twoSector x 0), .init,
      .sector (twoSector x 1)].foldl (Op.step (bootuf2FlashWrite rom))
      (.reset ⟨mem, []⟩))).1.flash.mem appOffset = 0xff := by
  obtain ⟨recs, bu⟩ := lost_block healthy mem x
  have sh := twoSector_shows x (i := 1) (by decide)
  rw [List.foldl_cons, List.foldl_cons, List.foldl_nil] at recs bu
  rw [List.foldl_cons, List.foldl_cons, List.foldl_cons, List.foldl_nil]
  generalize Op.step (bootuf2FlashWrite rom) (Op.step (bootuf2FlashWrite rom) (.reset ⟨mem, []⟩)
    (.sector (twoSector x 0))) .init = ctx at recs bu ⊢
  have fresh : Fresh ctx (.ofBuff (twoSector x 1)) := by
    rw [fresh_iff, recs.marked, sh.index]
    exact ⟨sh.writable (by decide) (by decide), by decide⟩
  -- the mask has both blocks, but the cache has only the second, and its flush erases the sector
  have both := recs.take (by decide) (by decide) (by decide) sh fresh.2
  have check := (both.check_iff (by decide)).mpr (by decide)
  have cached := Buffers.write (b := Buf.empty) bu healthy (by decide) (by decide) sh (by decide)
  rw [step_sector, writeOne_eq, if_pos fresh, isWriteDone_snd, bootuf2IsWriteDone, if_pos check]
  refine ⟨check, ?_⟩
  obtain ⟨flushed, -⟩ := (cached.with_state (bootuf2blockStateUpdate ctx.state
    (.ofBuff (twoSector x 1)) configBootuf2Flashmax)).flush healthy (by decide) (by decide)
  have chunks : (Buf.empty.put 16 1).spill.chunks = [⟨1, 1⟩] := rfl
  rw [flushed.flash, chunks, programmed, List.foldl_cons, List.foldl_nil]
  exact norWrite_erased (.inl (by simp)) (by simp [appOffset])

/-- A configuration between the two blocks of an image: the first block is marked but neither in
    flash nor in the cache, and after the second one the update is reported complete without it. -/
theorem reconfigure_loses_block :
    InOrder (twoPacked 0x41) 0 [.sector (twoSector 0x41 0), .init, .sector (twoSector 0x41 1)] 2 ∧
    (([.sector (twoSector 0x41 0), .init].foldl (Op.step (bootuf2FlashWrite .sample))
      (.reset ⟨fun _ => 0xff, []⟩)).state.Marked 0 ∧
    ¬ InFlash (twoBlocks 0x41) ([.sector (twoSector 0x41 0), .init].foldl
      (Op.step (bootuf2FlashWrite .sample)) (.reset ⟨fun _ => 0xff, []⟩)) 0 ∧
    ¬ InCache (twoBlocks 0x41) ([.sector (twoSector 0x41 0), .init].foldl
      (Op.step (bootuf2FlashWrite .sample)) (.reset ⟨fun _ => 0xff, []⟩)) 0) ∧
    (bootuf2IsWriteDone (bootuf2FlashWrite .sample) ([.sector (twoSector 0x41 0), .init,
      .sector (twoSector 0x41 1)].foldl (Op.step (bootuf2FlashWrite .sample))
      (.reset ⟨fun _ => 0xff, []⟩))).2 = true ∧
    ¬ HoldsImage (bootuf2IsWriteDone (bootuf2FlashWrite .sample) ([.sector (twoSector 0x41 0), .init,
      .sector (twoSector 0x41 1)].foldl (Op.step (bootuf2FlashWrite .sample))
      (.reset ⟨fun _ => 0xff, []⟩))).1.flash.mem (twoBlocks 0x41) := by
  have ne : (0xff : UInt8) ≠ 0x41 := by decide
  obtain ⟨recs, bu⟩ := lost_block Rom.sample_healthy (fun _ => 0xff) 0x41
  obtain ⟨done, erased⟩ := lost_block_erased Rom.sample_healthy (fun _ => 0xff) 0x41
  refine ⟨.next (twoPacked_get _ (by decide)) (.init (.next (twoPacked_get _ (by decide)) .nil)),
    ⟨(recs.marked 0).mpr (by decide), fun inFlash => ?_, fun inCache => ?_⟩, done,
    not_holdsImage_two (a := 0) (by decide) ?_⟩
  · have byte := inFlash 0 (by decide)
    rw [bu.flash, Nat.mul_zero, imageOf_two _ (by decide)] at byte
    exact ne byte
  · obtain ⟨lo, hi, -⟩ := inCache
    rw [bu.bytes] at hi
    simp only at hi
    omega
  · rw [Nat.add_zero, erased]
    exact ne

end WlhHpm.Bootuf2

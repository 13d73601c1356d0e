import WlhHpm.Bootuf2.Update

/-!
# Blocks in any order

The mask and the flush on an address that does not continue the cached range let the blocks of an
update arrive in any order, but each flush erases a whole sector of 16 blocks. `Sends blocks ds ops`
says that the events `ops` deliver the blocks of a packed file in the order `ds`, with repeats.

`order_independent_iff` is the exact condition on the order (`SectorOrder`): for every image the
result is the padded image if and only if each block whose index is not a multiple of 16 is first
delivered directly after its predecessor, so that the blocks of a sector arrive one after the other.
Any other order leaves an erased block behind (`out_of_order_erased`).
-/

namespace WlhHpm.Bootuf2
open WlhHpm.Flash WlhHpm.Coalesce

/-- The events deliver the blocks of a packed file in the order `ds`. -/
inductive Sends (blocks : List (List UInt8)) : List Nat → List Op → Prop where
  | nil : Sends blocks [] []
  | block {i ds ops buff} : blocks[i]? = some (buff.toList 512) → Sends blocks ds ops →
    Sends blocks (i :: ds) (.sector buff :: ops)
  | other {ds ops buff} : ¬ Accepts (.ofBuff buff) → Sends blocks ds ops →
    Sends blocks ds (.sector buff :: ops)
  | poll {ds ops} : Sends blocks ds ops → Sends blocks ds (.poll :: ops)

/-- The blocks delivered so far, in the order of their first delivery. -/
def firstSeen (seen : List Nat) (i : Nat) : List Nat := if i ∈ seen then seen else seen ++ [i]

/-- Each block that does not start a sector is first delivered directly after its predecessor. -/
def SectorOrder (ds : List Nat) : Prop :=
  Along firstSeen (fun seen i => i ∉ seen → Buf.Follows 16 seen i) [] ds

/-- Something is held until all blocks have been taken. -/
def Live (n : Nat) (b : Buf) : Prop := b.order.length < n → b.order ≠ [] → b.held.len ≠ 0

section Order
variable {img m₀ : Mem} {n : Nat} {ctx : Bootuf2Data Chip} {b : Buf} {rom : Rom}

/-- A new block can only come while not all have been taken. -/
lemma Tracks.length_lt (tr : Tracks img n m₀ ctx b) {i} (lt : i < n) (new : i ∉ b.order) :
    b.order.length < n := by
  have nd : (i :: b.order).Nodup := List.nodup_cons.mpr ⟨new, tr.ok.nodup⟩
  have sub : i :: b.order ⊆ List.range n := by
    intro j hj
    rcases List.mem_cons.mp hj with rfl | hj
    · exact List.mem_range.mpr lt
    · exact List.mem_range.mpr (tr.records.range j hj)
  simpa using (nd.subperm sub).length_le

/-- The coalescing writer along a delivery: it takes the blocks in the order of their first delivery,
    and its chunks stay aligned exactly if that order is sector by sector. -/
lemma Sends.tracks {image : List UInt8} {blocks} (packed : Uf2Pack.main image = .ok blocks)
    (healthy : rom.Healthy) {ds ops} (sends : Sends blocks ds ops)
    (tr : Tracks (imageOf image) (Uf2Pack.count image) m₀ ctx b) (live : Live (Uf2Pack.count image) b) :
    ∃ b', Tracks (imageOf image) (Uf2Pack.count image) m₀
        (ops.foldl (Op.step (bootuf2FlashWrite rom)) ctx) b' ∧
      b'.order = ds.foldl firstSeen b.order ∧
      (b'.Aligned 16 ↔ b.Aligned 16 ∧
        Along firstSeen (fun seen i => i ∉ seen → Buf.Follows 16 seen i) b.order ds) := by
  obtain ⟨nz, small⟩ := Uf2Pack.count_bounds packed
  induction sends generalizing ctx b with
  | nil => exact ⟨b, tr, rfl, by simp [Along]⟩
  | @block i ds ops buff h _ ih =>
    obtain ⟨lt, sh⟩ := shows_of_packed packed h
    have next := tr.step healthy nz small (.sector buff) fun _ => ⟨i, lt, sh⟩
    rw [planStep, if_pos (sh.writable lt small), sh.index] at next
    by_cases old : i ∈ b.order
    · -- a repeat: neither the writer nor the order of first deliveries moves
      rw [Buf.take, if_pos old] at next
      obtain ⟨b', tr', order, al⟩ := ih next live
      refine ⟨b', tr', ?_, ?_⟩
      · rw [List.foldl_cons, firstSeen, if_pos old, order]
      · rw [al, Along, firstSeen, if_pos old]
        simp [old]
    · rw [Buf.take, if_neg old] at next
      have few := tr.length_lt lt old
      obtain ⟨b', tr', order, al⟩ := ih next fun _ _ => Buf.put_held_ne _ _ _
      rw [Buf.put_order] at order al
      refine ⟨b', tr', ?_, ?_⟩
      · rw [List.foldl_cons, firstSeen, if_neg old, order]
      · rw [al, Buf.put_aligned_iff tr.ok (live few), Along, firstSeen, if_neg old, and_assoc,
          forall_prop_of_true old]
  | @other ds ops buff no _ ih =>
    have same := tr.step healthy nz small (.sector buff) fun fresh => absurd fresh.1 no
    rw [planStep, if_neg fun wr => no wr.1] at same
    exact ih same live
  | @poll ds ops _ ih =>
    have next := tr.step healthy nz small .poll trivial
    rw [planStep] at next
    split at next
    · -- the poll that ends the update flushes the cache, but then no new block can come
      rename_i all
      have full : ¬ b.order.length < Uf2Pack.count image := by
        have le := all.2
        unfold recorded at le
        split at le <;> omega
      obtain ⟨b', tr', order, al⟩ := ih next fun few => absurd (by simpa using few) full
      rw [Buf.spill_order] at order al
      exact ⟨b', tr', order, by rw [al, Buf.spill_aligned_iff]⟩
    · exact ih next live

/-- A block has been delivered at some point. -/
lemma mem_firstSeen {ds seen : List Nat} {i : Nat} :
    i ∈ ds.foldl firstSeen seen ↔ i ∈ seen ∨ i ∈ ds := by
  induction ds generalizing seen with
  | nil => simp
  | cons j ds ih =>
    rw [List.foldl_cons, ih, firstSeen, List.mem_cons]
    split
    · rename_i old
      refine ⟨fun h => h.imp_right .inr, ?_⟩
      rintro (h | rfl | h)
      · exact .inl h
      · exact .inl old
      · exact .inr h
    · rw [List.mem_append, List.mem_singleton, or_assoc]

/-- A poll after all blocks reports the end, with everything handed on, in aligned chunks exactly if
    the order was sector by sector. -/
lemma Sends.done {image : List UInt8} {blocks} (packed : Uf2Pack.main image = .ok blocks)
    (healthy : rom.Healthy) (mem : Mem) (below : Uf2Pack.count image < 13824) {ds ops}
    (sends : Sends blocks ds ops) (all : ∀ i, i ∈ ds ↔ i < Uf2Pack.count image) :
    (bootuf2IsWriteDone (bootuf2FlashWrite rom)
      (ops.foldl (Op.step (bootuf2FlashWrite rom)) (.reset ⟨mem, []⟩))).2 = true ∧
    ∃ b, Tracks (imageOf image) (Uf2Pack.count image) mem
        (bootuf2IsWriteDone (bootuf2FlashWrite rom)
          (ops.foldl (Op.step (bootuf2FlashWrite rom)) (.reset ⟨mem, []⟩))).1 b ∧
      b.held.len = 0 ∧ (∀ i, i ∈ b.order ↔ i < Uf2Pack.count image) ∧
      (b.Aligned 16 ↔ SectorOrder ds) := by
  obtain ⟨nz, small⟩ := Uf2Pack.count_bounds packed
  obtain ⟨b, tr, order, al⟩ := sends.tracks packed healthy
    (tracks_reset (imageOf image) mem _ []) fun _ ne => absurd rfl ne
  have taken : ∀ i, i ∈ b.order ↔ i < Uf2Pack.count image := by
    intro i
    rw [order, mem_firstSeen, ← all i]
    exact or_iff_right (List.not_mem_nil)
  have complete : Complete (Uf2Pack.count image) b.order := by
    have sub : List.range (Uf2Pack.count image) ⊆ b.order := fun i hi =>
      (taken i).mpr (List.mem_range.mp hi)
    have len := (List.nodup_range.subperm sub).length_le
    rw [List.length_range] at len
    refine ⟨fun e => ?_, ?_⟩
    · rw [e] at len
      exact absurd nz (by simpa using len)
    · rwa [recorded, if_neg (by omega)]
  have poll := tr.step healthy nz small .poll trivial
  rw [planStep, if_pos complete] at poll
  refine ⟨?_, b.spill, poll, by simp, by simpa using taken, ?_⟩
  · rw [isWriteDone_snd]
    exact (tr.records.check_iff nz).mpr complete
  · rw [Buf.spill_aligned_iff, al]
    exact and_iff_right (Buf.aligned_empty 16)

/-- Sector by sector, the result is the image. -/
lemma in_order_content {image : List UInt8} {blocks} (packed : Uf2Pack.main image = .ok blocks)
    (healthy : rom.Healthy) (mem : Mem) (below : Uf2Pack.count image < 13824) {ds ops}
    (sends : Sends blocks ds ops) (all : ∀ i, i ∈ ds ↔ i < Uf2Pack.count image)
    (ord : SectorOrder ds) :
    HoldsImage (bootuf2IsWriteDone (bootuf2FlashWrite rom)
      (ops.foldl (Op.step (bootuf2FlashWrite rom)) (.reset ⟨mem, []⟩))).1.flash.mem image := by
  obtain ⟨-, b, tr, empty, taken, al⟩ := sends.done packed healthy mem below all
  refine holdsImage_of_stream fun a lt => tr.image (al.mpr ord) empty ((taken _).mpr ?_)
  omega

/-- Any other order leaves the first byte of some block erased. -/
lemma out_of_order_erased {image : List UInt8} {blocks} (packed : Uf2Pack.main image = .ok blocks)
    (healthy : rom.Healthy) (mem : Mem) (below : Uf2Pack.count image < 13824) {ds ops}
    (sends : Sends blocks ds ops) (all : ∀ i, i ∈ ds ↔ i < Uf2Pack.count image)
    (mis : ¬ SectorOrder ds) :
    ∃ i < Uf2Pack.count image, (bootuf2IsWriteDone (bootuf2FlashWrite rom)
      (ops.foldl (Op.step (bootuf2FlashWrite rom)) (.reset ⟨mem, []⟩))).1.flash.mem
        (appOffset + 256 * i) = 0xff := by
  obtain ⟨-, b, tr, empty, taken, al⟩ := sends.done packed healthy mem below all
  have down : ∀ j ∈ b.order, ∀ i < j, i ∈ b.order := by
    intro j hj i lt
    exact (taken i).mpr (lt.trans ((taken j).mp hj))
  obtain ⟨xs, c, ys, d, zs, e, same⟩ := tr.ok.exists_clash (by decide) empty down (mt al.mp mis)
  refine ⟨c.first, (taken _).mp ?_, ?_⟩
  · have len := (tr.ok.chunk_len c (by simp [e])).1
    exact tr.ok.mem_order.mpr (.inl ⟨c, by simp [e], Chunk.mem_blocks.mpr (by omega)⟩)
  · rw [tr.buffers.flash]
    exact programmed_erased tr.ok e same

end Order

/-- Every order of the blocks of a packed file can be delivered. -/
lemma exists_sends {image : List UInt8} {blocks} (packed : Uf2Pack.main image = .ok blocks)
    {ds : List Nat} (lt : ∀ i ∈ ds, i < Uf2Pack.count image) : ∃ ops, Sends blocks ds ops := by
  induction ds with
  | nil => exact ⟨[], .nil⟩
  | cons i ds ih =>
    obtain ⟨ops, sends⟩ := ih fun j hj => lt j (by simp [hj])
    have hi := lt i (by simp)
    rw [← blocks_length packed] at hi
    refine ⟨.sector (Mem.ofList blocks[i]) :: ops, .block ?_ sends⟩
    have holds := List.getElem_of_eq (sendAll_holds packed) (i := i) (by simpa using hi)
    rw [List.getElem_map, List.getElem_map] at holds
    rw [List.getElem?_eq_getElem hi, holds]

/-- Order independence, exactly: the blocks of every `n`-block image may be delivered in the order
    `ds` if and only if that order is sector by sector. -/
theorem order_independent_iff (n : Nat) (pos : 0 < n) (below : n < 13824) (ds : List Nat)
    (all : ∀ i, i ∈ ds ↔ i < n) :
    (∀ (rom : Rom) (mem : Mem) (image : List UInt8) (blocks : List (List UInt8)) (ops : List Op),
      rom.Healthy → Uf2Pack.main image = .ok blocks → blocks.length = n → Sends blocks ds ops →
      (bootuf2IsWriteDone (bootuf2FlashWrite rom)
        (ops.foldl (Op.step (bootuf2FlashWrite rom)) (.reset ⟨mem, []⟩))).2 = true →
      HoldsImage (bootuf2IsWriteDone (bootuf2FlashWrite rom)
        (ops.foldl (Op.step (bootuf2FlashWrite rom)) (.reset ⟨mem, []⟩))).1.flash.mem image) ↔
      SectorOrder ds := by
  constructor
  · intro independent
    by_contra mis
    -- an image of zeros differs from erased flash everywhere
    have count : Uf2Pack.count (List.replicate (256 * n) 0) = n := by
      rw [Uf2Pack.count_eq, List.length_replicate]
      omega
    have packed : Uf2Pack.main (List.replicate (256 * n) 0) = .ok _ := Uf2Pack.main_ok_iff.mpr
      ⟨by rw [List.length_replicate]; omega,
        by rw [List.length_replicate]; unfold Uf2Pack.appSize; omega, rfl⟩
    rw [← count] at all below
    obtain ⟨ops, sends⟩ := exists_sends packed fun i hi => (all i).mp hi
    obtain ⟨done, -⟩ := sends.done packed Rom.sample_healthy (fun _ => 0) below all
    obtain ⟨i, lt, erased⟩ := out_of_order_erased packed Rom.sample_healthy (fun _ => 0) below sends
      all mis
    have holds := independent .sample (fun _ => 0) _ _ ops Rom.sample_healthy packed
      ((blocks_length packed).trans count) sends done
    rw [count] at lt
    have zero := Uf2Pack.padded_replicate (n := 256 * n) (x := 0) (a := 256 * i) (by omega)
    obtain ⟨inside, e⟩ := List.getElem?_eq_some_iff.mp zero
    rw [holds _ inside, e] at erased
    exact absurd erased (by decide)
  · intro ord rom mem image blocks ops healthy packed len sends _
    have count := (blocks_length packed).symm.trans len
    rw [← count] at all below
    exact in_order_content packed healthy mem below sends all ord

/-- Both blocks of the two-block image are among `0` and `1`. -/
lemma all_two {ds : List Nat} (h : ds = [0, 1] ∨ ds = [1, 0]) (x : UInt8) (i : Nat) :
    i ∈ ds ↔ i < Uf2Pack.count (twoBlocks x) := by
  rw [count_two]
  rcases h with rfl | rfl <;> simp <;> omega

/-- An image of two blocks fits in the partition. -/
lemma below_two (x : UInt8) : Uf2Pack.count (twoBlocks x) < 13824 := by
  rw [count_two]
  decide

/-- The two blocks of an image in index order. -/
theorem index_order_keeps :
    HoldsImage (bootuf2IsWriteDone (bootuf2FlashWrite .sample)
      ([.sector (twoSector 0x41 0), .sector (twoSector 0x41 1)].foldl
        (Op.step (bootuf2FlashWrite .sample)) (.reset ⟨fun _ => 0xff, []⟩))).1.flash.mem
      (twoBlocks 0x41) := by
  have sends : Sends (twoPacked 0x41) [0, 1]
      [.sector (twoSector 0x41 0), .sector (twoSector 0x41 1)] :=
    .block (twoPacked_get _ (by decide)) (.block (twoPacked_get _ (by decide)) .nil)
  have all := all_two (.inl rfl) 0x41
  obtain ⟨done, -⟩ := sends.done (packed_two 0x41) Rom.sample_healthy (fun _ => 0xff)
    (below_two 0x41) all
  rw [count_two] at all
  have ord : SectorOrder [0, 1] := ⟨fun _ => .inl (by decide), fun _ => .inr rfl, trivial⟩
  exact (order_independent_iff 2 (by decide) (by decide) [0, 1] all).mpr ord .sample _ _ _ _
    Rom.sample_healthy (packed_two 0x41) rfl sends done

/-- The two blocks of an image in reverse order: the second flush erases what the first has
    written. -/
theorem reverse_order_erases :
    Sends (twoPacked 0x41) [1, 0] [.sector (twoSector 0x41 1), .sector (twoSector 0x41 0)] ∧
    (bootuf2IsWriteDone (bootuf2FlashWrite .sample)
      ([.sector (twoSector 0x41 1), .sector (twoSector 0x41 0)].foldl
        (Op.step (bootuf2FlashWrite .sample)) (.reset ⟨fun _ => 0xff, []⟩))).2 = true ∧
    ¬ HoldsImage (bootuf2IsWriteDone (bootuf2FlashWrite .sample)
      ([.sector (twoSector 0x41 1), .sector (twoSector 0x41 0)].foldl
        (Op.step (bootuf2FlashWrite .sample)) (.reset ⟨fun _ => 0xff, []⟩))).1.flash.mem
      (twoBlocks 0x41) := by
  have sends : Sends (twoPacked 0x41) [1, 0]
      [.sector (twoSector 0x41 1), .sector (twoSector 0x41 0)] :=
    .block (twoPacked_get _ (by decide)) (.block (twoPacked_get _ (by decide)) .nil)
  have all := all_two (.inr rfl) 0x41
  have below := below_two 0x41
  have mis : ¬ SectorOrder [1, 0] := fun ord => absurd (ord.1 (by simp)) (by decide)
  obtain ⟨done, -⟩ := sends.done (packed_two 0x41) Rom.sample_healthy (fun _ => 0xff) below all
  obtain ⟨i, lt, erased⟩ := out_of_order_erased (packed_two 0x41) Rom.sample_healthy
    (fun _ => 0xff) below sends all mis
  rw [count_two] at lt
  refine ⟨sends, done, not_holdsImage_two (a := 256 * i) (by omega) ?_⟩
  rw [erased]
  decide

end WlhHpm.Bootuf2

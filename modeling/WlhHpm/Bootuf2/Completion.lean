import WlhHpm.Bootuf2.Bounds
import WlhHpm.Bootuf2.Update

/-!
# The end of an update

`bootuf2block_state_check` compares two counters: an update is complete when as many blocks have been
written as the image announces. It does not look at the mask. `numberOfWritten` is always the number
of set bits (`Counted`), so what the comparison says about the blocks depends on where those bits
are: if every recorded index is below the recorded total, the counters agree only when every block is
there. The code does not test an index against the total, so a single block with a large index
completes an image of one block (`done_without_block_zero`).
-/

namespace WlhHpm.Bootuf2

/-- The set bits of `STATE->Mask`. -/
def Bootuf2State.marks (st : Bootuf2State) : Finset Nat :=
  (Finset.range (8 * bootuf2MaskLength)).filter st.Marked

/-- The number of written blocks is the number of set bits. -/
def Counted (st : Bootuf2State) : Prop := st.numberOfWritten.toNat = st.marks.card

/-- If the update counts as complete, every block of the image has been seen. -/
def DoneMeansSeen (st : Bootuf2State) : Prop :=
  bootuf2blockStateCheck st = true → ∀ i < st.numberOfBlock.toNat, st.Marked i

/-- The blocks of this event have an index below `BOOTUF2_BLOCKSMAX`. -/
def IndexInMask : Op → Prop
  | .sector buff => (Bootuf2Block.ofBuff buff).blockIndex < bootuf2Blocksmax
  | .poll => True
  | .init => True

instance (op : Op) : Decidable (IndexInMask op) :=
  match op with
  | .sector _ => inferInstanceAs (Decidable (_ < _))
  | .poll | .init => isTrue trivial

/-- A fresh block has an index below the total that it announces, unless an earlier block announced
    another total (which ends the count for good). -/
def IndexBelowTotal {σ : Type} (ctx : Bootuf2Data σ) : Op → Prop
  | .sector buff =>
    Fresh ctx (.ofBuff buff) →
      (ctx.state.numberOfBlock ≠ 0 ∧
        ctx.state.numberOfBlock ≠ (Bootuf2Block.ofBuff buff).numberOfBlock) ∨
      (Bootuf2Block.ofBuff buff).blockIndex < (Bootuf2Block.ofBuff buff).numberOfBlock
  | .poll => True
  | .init => True

/-- No bit is set beyond the blocks that fit into the partition. -/
structure MaskCount (st : Bootuf2State) : Prop where
  counted : Counted st
  below : ∀ i, st.Marked i → i < bootuf2Blocksmax.toNat

/-- The recorded total has been given up, or bounds every recorded index. -/
def WithinTotal (st : Bootuf2State) : Prop :=
  st.numberOfBlock = 0xffffffff ∨ ∀ i, st.Marked i → i < st.numberOfBlock.toNat

/-- The set bits, if none is beyond the limit. -/
lemma mem_marks {st : Bootuf2State} (below : ∀ i, st.Marked i → i < bootuf2Blocksmax.toNat)
    (i : Nat) : i ∈ st.marks ↔ st.Marked i := by
  have len : bootuf2Blocksmax.toNat ≤ 8 * bootuf2MaskLength := by decide
  simp only [Bootuf2State.marks, Finset.mem_filter, Finset.mem_range]
  exact ⟨fun h => h.2, fun h => ⟨(below i h).trans_le len, h⟩⟩

/-- There are never more set bits than blocks in the partition. -/
lemma MaskCount.card_le {st : Bootuf2State} (inv : MaskCount st) :
    st.marks.card ≤ bootuf2Blocksmax.toNat := by
  have sub : st.marks ⊆ Finset.range bootuf2Blocksmax.toNat := by
    intro i mem
    exact Finset.mem_range.mpr (inv.below i ((mem_marks inv.below i).mp mem))
  simpa using Finset.card_le_card sub

/-- Recording a writable block sets one more bit and counts it. -/
lemma MaskCount.update {st : Bootuf2State} {uf2 : Bootuf2Block} {blockMax : UInt32}
    (inv : MaskCount st) (wr : bootuf2blockCheckWritable st uf2 blockMax = true)
    (lt : uf2.blockIndex < bootuf2Blocksmax) :
    MaskCount (bootuf2blockStateUpdate st uf2 blockMax) := by
  obtain ⟨-, -, unseen⟩ := (checkWritable_iff st uf2 blockMax).mp wr
  have below : ∀ i, (bootuf2blockStateUpdate st uf2 blockMax).Marked i →
      i < bootuf2Blocksmax.toNat := by
    intro i seen
    rcases (marked_stateUpdate wr i).mp seen with seen | rfl
    · exact inv.below i seen
    · exact UInt32.lt_iff_toNat_lt.mp lt
  have marks : (bootuf2blockStateUpdate st uf2 blockMax).marks =
      insert uf2.blockIndex.toNat st.marks := by
    ext i
    rw [Finset.mem_insert, mem_marks below, mem_marks inv.below, marked_stateUpdate wr, or_comm]
  have new : uf2.blockIndex.toNat ∉ st.marks := fun mem => unseen ((mem_marks inv.below _).mp mem)
  have bound := inv.card_le
  have small : bootuf2Blocksmax.toNat < 2 ^ 31 := by decide
  refine ⟨?_, below⟩
  have counted := inv.counted
  unfold Counted at counted ⊢
  rw [marks, Finset.card_insert_of_notMem new, ← counted, stateUpdate_eq wr, UInt32.toNat_add]
  rw [← counted] at bound
  simp only [UInt32.reduceToNat]
  omega

/-- Recording a writable block below its total keeps every index below the recorded one. -/
lemma WithinTotal.update {st : Bootuf2State} {uf2 : Bootuf2Block} {blockMax : UInt32}
    (inv : WithinTotal st) (wr : bootuf2blockCheckWritable st uf2 blockMax = true)
    (low : (st.numberOfBlock ≠ 0 ∧ st.numberOfBlock ≠ uf2.numberOfBlock) ∨
      uf2.blockIndex < uf2.numberOfBlock) :
    WithinTotal (bootuf2blockStateUpdate st uf2 blockMax) := by
  have total : (bootuf2blockStateUpdate st uf2 blockMax).numberOfBlock =
      st.total uf2.numberOfBlock := by
    rw [stateUpdate_eq wr]
  unfold WithinTotal
  simp only [marked_stateUpdate wr, total, Bootuf2State.total]
  by_cases same : st.numberOfBlock = uf2.numberOfBlock
  · rw [if_neg (not_not.mpr same)]
    have lt : uf2.blockIndex < uf2.numberOfBlock := low.resolve_left fun h => h.2 same
    rcases inv with poison | below
    · exact .inl (same ▸ poison)
    · right
      rintro i (seen | rfl)
      · exact same ▸ below i seen
      · exact UInt32.lt_iff_toNat_lt.mp lt
  · rw [if_pos same]
    split
    · exact .inl rfl
    · rename_i first
      simp only [not_or, not_not] at first
      have lt : uf2.blockIndex < uf2.numberOfBlock := low.resolve_left fun h => h.1 first.2
      rcases inv with poison | below
      · rw [first.2] at poison
        exact absurd poison (by decide)
      · right
        rintro i (seen | rfl)
        · have none := below i seen
          rw [first.2] at none
          exact absurd none (Nat.not_lt_zero i)
        · exact UInt32.lt_iff_toNat_lt.mp lt

/-- With every index below the total, equal counters mean that no block is missing. -/
lemma doneMeansSeen_of {st : Bootuf2State} (inv : MaskCount st) (within : WithinTotal st) :
    DoneMeansSeen st := by
  intro done
  simp only [bootuf2blockStateCheck, Bool.and_eq_true, decide_eq_true_eq] at done
  have enough : st.numberOfBlock.toNat ≤ st.marks.card :=
    inv.counted ▸ UInt32.le_iff_toNat_le.mp done.1
  have most := inv.card_le
  rcases within with poison | below
  · rw [poison] at enough
    exact absurd (enough.trans most) (by decide)
  · -- a subset of the first n numbers with n elements is all of them
    have sub : st.marks ⊆ Finset.range st.numberOfBlock.toNat := by
      intro i mem
      exact Finset.mem_range.mpr (below i ((mem_marks inv.below i).mp mem))
    have all := Finset.eq_of_subset_of_card_le sub (by simpa using enough)
    intro i lt
    rw [← mem_marks inv.below, all]
    exact Finset.mem_range.mpr lt

section Run
variable {σ : Type} {fw : FlashWrite σ}

/-- An event with indices in the mask keeps the count. -/
lemma maskCount_step (ctx : Bootuf2Data σ) (op : Op) (inv : MaskCount ctx.state)
    (low : IndexInMask op) : MaskCount (op.step fw ctx).state := by
  rw [step_state]
  cases op with
  | sector buff =>
    by_cases fresh : Fresh ctx (.ofBuff buff)
    · simp only [fresh, if_true]
      exact inv.update fresh.2 low
    · simp only [fresh, if_false]
      exact inv
  | poll => exact inv
  | init => exact inv

/-- An event with indices below the total keeps the bound. -/
lemma withinTotal_step (ctx : Bootuf2Data σ) (op : Op) (inv : WithinTotal ctx.state)
    (low : IndexBelowTotal ctx op) : WithinTotal (op.step fw ctx).state := by
  rw [step_state]
  cases op with
  | sector buff =>
    by_cases fresh : Fresh ctx (.ofBuff buff)
    · simp only [fresh, if_true]
      exact inv.update fresh.2 (low fresh)
    · simp only [fresh, if_false]
      exact inv
  | poll => exact inv
  | init => exact inv

/-- No bit is set after a reset. -/
lemma maskCount_reset (flash : σ) : MaskCount (Bootuf2Data.reset flash).state := by
  have none (i : Nat) : ¬ (Bootuf2Data.reset flash).state.Marked i := by
    simp [Bootuf2State.Marked, Word.BitSet, Bootuf2Data.reset]
  refine ⟨?_, fun i seen => absurd seen (none i)⟩
  have empty : (Bootuf2Data.reset flash).state.marks = ∅ :=
    Finset.filter_eq_empty_iff.mpr fun i _ => none i
  rw [Counted, empty]
  rfl

/-- No index has been recorded after a reset. -/
lemma withinTotal_reset (flash : σ) : WithinTotal (Bootuf2Data.reset flash).state := by
  refine .inr fun i seen => ?_
  simp [Bootuf2State.Marked, Word.BitSet, Bootuf2Data.reset] at seen

/-- In every run from a reset whose block indices have a bit in the mask, the counter of written
    blocks is the number of set bits; and if every fresh block has an index below its total, an
    update that counts as complete has seen every block. -/
theorem done_means_seen (fw : FlashWrite σ) (flash : σ) (ops : List Op)
    (low : ∀ op ∈ ops, IndexInMask op) :
    Counted (ops.foldl (Op.step fw) (.reset flash)).state ∧
      (Along (Op.step fw) IndexBelowTotal (.reset flash) ops →
        DoneMeansSeen (ops.foldl (Op.step fw) (.reset flash)).state) := by
  have along : Along (Op.step fw) (fun _ op => IndexInMask op) (.reset flash) ops :=
    Along.of_forall fun op mem _ => low op mem
  have counts := along.invariant (I := fun ctx => MaskCount ctx.state)
    (fun ctx op inv low => maskCount_step ctx op inv low) (maskCount_reset flash)
  refine ⟨counts.counted, fun below => ?_⟩
  have within := below.invariant (I := fun ctx => WithinTotal ctx.state)
    (fun ctx op inv low => withinTotal_step ctx op inv low) (withinTotal_reset flash)
  exact doneMeansSeen_of counts within

end Run

/-- The two-block image, copied with a poll, another sector and a repeated block in between, counts as
    complete and has been seen. -/
theorem done_means_seen_two_blocks :
    bootuf2blockStateCheck ((sampleCopy.flatMap HostEvent.ops).foldl (Op.step okFlashWrite)
        (.reset ())).state = true ∧
      DoneMeansSeen ((sampleCopy.flatMap HostEvent.ops).foldl (Op.step okFlashWrite)
        (.reset ())).state := by
  have done : bootuf2blockStateCheck (sampleCopy.foldl (HostEvent.step okFlashWrite)
      (.reset ())).state = true := by decide +kernel
  rw [HostEvent.run_eq] at done
  have zero : ¬ Accepts (.ofBuff (Mem.shift (fun _ => 0) 0)) := by decide +kernel
  refine ⟨done, (done_means_seen okFlashWrite () _ ?_).2 ?_⟩
  · decide +kernel
  · refine ⟨fun _ => .inr ?_, trivial, fun fresh => absurd fresh.1 zero, fun _ => .inr ?_,
      fun _ => .inr ?_, trivial⟩
    · decide +kernel
    · decide +kernel
    · decide +kernel

/-- Block 5 of an image of one block completes it, and block 0 is missing. -/
theorem done_without_block_zero :
    IndexInMask (.sector (plainSector 0x80020000 256 5 1)) ∧
      ¬ DoneMeansSeen ([Op.sector (plainSector 0x80020000 256 5 1)].foldl (Op.step okFlashWrite)
        (.reset ())).state := by
  have done : bootuf2blockStateCheck ([Op.sector (plainSector 0x80020000 256 5 1)].foldl
      (Op.step okFlashWrite) (.reset ())).state = true := by decide +kernel
  have missing : ¬ ([Op.sector (plainSector 0x80020000 256 5 1)].foldl
      (Op.step okFlashWrite) (.reset ())).state.Marked 0 := by decide +kernel
  have total : 0 < ([Op.sector (plainSector 0x80020000 256 5 1)].foldl
      (Op.step okFlashWrite) (.reset ())).state.numberOfBlock.toNat := by decide +kernel
  refine ⟨?_, fun h => missing (h done 0 total)⟩
  change (_ : UInt32) < _
  decide +kernel

end WlhHpm.Bootuf2

import WlhHpm.Bootuf2.Confine
import WlhHpm.Bootuf2.Update

/-!
# Flash faults during an update

`faultyFlashWrite` is `bootuf2_flash_write` on a chip that may fail: for the `k`-th call `outcome k`
is `none` if it succeeds, and otherwise the bytes that the failed call leaves in its target range.

`bootuf2_write_sector` drops the result of the cache writer and marks the block all the same, and
`bootuf2_is_write_done` drops the result of the final flush, so a fault does not stop an update from
counting as complete (`fault_counts_as_complete`). `no_fault_content` is the positive side: in every
run of which no call fails, the end of the update is reported only over the whole image. It follows
from the fault-free development, because such a run moves the disk as flash without faults does
(`noFault_run`).
-/

namespace WlhHpm.Bootuf2
open WlhHpm.Flash

/-- A chip together with the number of `bootuf2_flash_write` calls made so far. -/
structure FaultChip where
  chip : Chip
  count : Nat

/-- `bootuf2_flash_write` with the given outcomes. -/
def faultyFlashWrite (rom : Rom) (outcome : Nat → Option Mem) : FlashWrite FaultChip :=
  fun address data size f =>
    match outcome f.count with
    | none =>
      let r := bootuf2FlashWrite rom address data size f.chip
      (⟨r.1, f.count + 1⟩, r.2)
    | some junk =>
      let target := (0x20000 + appAddr address).toNat
      (⟨{ f.chip with mem := f.chip.mem.scribble target size.toNat junk }, f.count + 1⟩, 1)

/-- The event makes no call that fails. -/
def NoFault (outcome : Nat → Option Mem) (ctx : Bootuf2Data FaultChip) (op : Op) : Prop :=
  Flushes ctx op → outcome ctx.flash.count = none

/-- The same disk on another flash. -/
def Bootuf2Data.onFlash {σ τ : Type} (p : σ → τ) (ctx : Bootuf2Data σ) : Bootuf2Data τ where
  state := ctx.state
  cache := ctx.cache
  cachedAddress := ctx.cachedAddress
  cachedBytes := ctx.cachedBytes
  flash := p ctx.flash

section Map
variable {σ τ : Type} {fw : FlashWrite σ} {fw' : FlashWrite τ} {p : σ → τ}

/-- Two ports that give the same result for the flush of an event move the disk alike. -/
lemma step_onFlash (ctx : Bootuf2Data σ) (op : Op)
    (same : Flushes ctx op →
      fw' ctx.cachedAddress ctx.cache ctx.cachedBytes (p ctx.flash) =
        (p (fw ctx.cachedAddress ctx.cache ctx.cachedBytes ctx.flash).1,
          (fw ctx.cachedAddress ctx.cache ctx.cachedBytes ctx.flash).2)) :
    (Op.step fw ctx op).onFlash p = Op.step fw' (ctx.onFlash p) op := by
  cases op with
  | sector buff =>
    have fresh : Fresh (ctx.onFlash p) (.ofBuff buff) ↔ Fresh ctx (.ofBuff buff) := Iff.rfl
    have need : needFlush (ctx.onFlash p) (.ofBuff buff) ↔ needFlush ctx (.ofBuff buff) := Iff.rfl
    rw [step_sector, step_sector, writeOne_eq, writeOne_eq]
    simp only [fresh]
    split
    · rename_i fr
      simp only [writeInternal_eq, need]
      split
      · rename_i nf
        have e := same ⟨fr, nf⟩
        simp only [Bootuf2Data.onFlash, e]
        split <;> rfl
      · rfl
    · rfl
  | poll =>
    simp only [Op.step, bootuf2IsWriteDone]
    have check : (ctx.onFlash p).state = ctx.state := rfl
    rw [check]
    split
    · rename_i done
      by_cases nz : ctx.cachedBytes = 0
      · rw [flush_zero nz, flush_zero (show (ctx.onFlash p).cachedBytes = 0 from nz)]
      · have e := same ⟨done, nz⟩
        rw [flush_eq nz, flush_eq (show (ctx.onFlash p).cachedBytes ≠ 0 from nz)]
        simp only [Bootuf2Data.onFlash, e]
        split <;> rfl
    · rfl
  | init => rfl

end Map

section Faults
variable {rom : Rom} {outcome : Nat → Option Mem}

/-- A run without faults moves the disk as flash without faults does. -/
lemma noFault_run {ctx : Bootuf2Data FaultChip} {ops : List Op}
    (ok : Along (Op.step (faultyFlashWrite rom outcome)) (NoFault outcome) ctx ops) :
    (ops.foldl (Op.step (faultyFlashWrite rom outcome)) ctx).onFlash FaultChip.chip =
      ops.foldl (Op.step (bootuf2FlashWrite rom)) (ctx.onFlash FaultChip.chip) := by
  refine ok.simulate (R := fun s t => s.onFlash FaultChip.chip = t) ?_ rfl
  rintro ctx _ op rfl quiet
  refine step_onFlash ctx op fun fl => ?_
  rw [faultyFlashWrite, quiet fl]

/-- Contents of an update without faults: in every run of an in-order copy of which no call of
    `bootuf2_flash_write` fails, whenever the end of the update is reported every block is in the
    `app` partition. -/
theorem no_fault_content (rom : Rom) (healthy : rom.Healthy) (outcome : Nat → Option Mem)
    (mem : Mem) (image : List UInt8) (blocks : List (List UInt8))
    (packed : Uf2Pack.main image = .ok blocks) (evs : List HostEvent) (k : Nat)
    (ord : InOrder blocks 0 (evs.flatMap HostEvent.ops) k)
    (ok : Along (Op.step (faultyFlashWrite rom outcome)) (NoFault outcome)
      (.reset ⟨⟨mem, []⟩, 0⟩) (evs.flatMap HostEvent.ops ++ [.poll]))
    (done : (bootuf2IsWriteDone (faultyFlashWrite rom outcome)
      (evs.foldl (HostEvent.step (faultyFlashWrite rom outcome)) (.reset ⟨⟨mem, []⟩, 0⟩))).2 = true) :
    HoldsImage (bootuf2IsWriteDone (faultyFlashWrite rom outcome)
      (evs.foldl (HostEvent.step (faultyFlashWrite rom outcome))
        (.reset ⟨⟨mem, []⟩, 0⟩))).1.flash.chip.mem image := by
  obtain ⟨nz, small⟩ := Uf2Pack.count_bounds packed
  obtain ⟨b, pr⟩ := ord.progress healthy mem packed (HostEvent.initIdle _ _ evs)
  have before := noFault_run (along_append.mp ok).1
  have after := noFault_run ok
  rw [List.foldl_append, List.foldl_append] at after
  rw [HostEvent.run_eq] at done ⊢
  have start : (Bootuf2Data.reset (⟨⟨mem, []⟩, 0⟩ : FaultChip)).onFlash FaultChip.chip =
      .reset ⟨mem, []⟩ := rfl
  rw [start] at before after
  have same := congrArg Bootuf2Data.state before
  have mems := congrArg (fun ctx => ctx.flash.mem) after
  rw [isWriteDone_snd] at done
  have content := (pr.is_write_done healthy nz small).2
    (by rw [isWriteDone_snd, ← same]; exact done)
  refine holdsImage_of_stream fun a lt => ?_
  rw [← content a lt]
  exact congrFun mems _

end Faults

/-- The two-block image on flash that does not fail. -/
theorem no_fault_two_blocks :
    HoldsImage (bootuf2IsWriteDone (faultyFlashWrite .sample fun _ => none)
      (sampleCopy.foldl (HostEvent.step (faultyFlashWrite .sample fun _ => none))
        (.reset ⟨⟨fun _ => 0, []⟩, 0⟩))).1.flash.chip.mem (twoBlocks 0x41) :=
  no_fault_content .sample Rom.sample_healthy (fun _ => none) (fun _ => 0) (twoBlocks 0x41) _
    (packed_two 0x41) sampleCopy 2 sampleCopy_inOrder (Along.of_forall fun _ _ _ _ => rfl)
    (by decide +kernel)

/-- The only flush of an update fails, and the update counts as complete. -/
theorem fault_counts_as_complete :
    (bootuf2IsWriteDone (faultyFlashWrite .sample fun _ => some fun _ => 0)
      ((sendAll [Uf2Pack.block (Uf2Pack.padded [0x41]) 1 0]).foldl
        (HostEvent.step (faultyFlashWrite .sample fun _ => some fun _ => 0))
        (.reset ⟨⟨fun _ => 0, []⟩, 0⟩))).2 = true ∧
    ¬ HoldsImage (bootuf2IsWriteDone (faultyFlashWrite .sample fun _ => some fun _ => 0)
      ((sendAll [Uf2Pack.block (Uf2Pack.padded [0x41]) 1 0]).foldl
        (HostEvent.step (faultyFlashWrite .sample fun _ => some fun _ => 0))
        (.reset ⟨⟨fun _ => 0, []⟩, 0⟩))).1.flash.chip.mem [0x41] := by
  refine ⟨by decide +kernel, fun holds => ?_⟩
  have inside : 0 < (Uf2Pack.padded [0x41]).length := by
    rw [Uf2Pack.padded_length, count_one_byte]
    decide
  have byte := holds 0 inside
  rw [← Mem.ofList_get inside] at byte
  exact absurd byte (by decide +kernel)

end WlhHpm.Bootuf2

import WlhHpm.Bootuf2.Pack

/-!
# Confinement of an update

Which bytes of the flash can a UF2 update reach? `uf2_pack.py` says that the bootloader checks every
target address independently. The only check is the wrapping bound test of the FAL layer, applied to
the range that the cache has put together, and a range that starts below the `app` partition and
reaches its start passes it.

`flash_confined_iff` is the exact account over whole runs: every byte ever erased or programmed lies
inside the partition if and only if no step of the run flushes a range whose bound test wraps.
`escape_erases_bootloader` is a run of two events that erases the bootloader's last sector.
-/

namespace WlhHpm.Bootuf2
open WlhHpm.Flash

/-- The event makes the disk flush its cache. -/
def Flushes {σ : Type} (ctx : Bootuf2Data σ) : Op → Prop
  | .sector buff => Fresh ctx (.ofBuff buff) ∧ needFlush ctx (.ofBuff buff)
  | .poll => bootuf2blockStateCheck ctx.state = true ∧ ctx.cachedBytes ≠ 0
  | .init => False

instance {σ : Type} (ctx : Bootuf2Data σ) : DecidablePred (Flushes ctx)
  | .sector buff => inferInstanceAs (Decidable (Fresh ctx (.ofBuff buff) ∧ _))
  | .poll => inferInstanceAs (Decidable (_ ∧ _))
  | .init => inferInstanceAs (Decidable False)

/-- The event flushes no range that reaches the start of the `app` partition from below. -/
def FlushInBounds {σ : Type} (ctx : Bootuf2Data σ) (op : Op) : Prop :=
  Flushes ctx op → ¬ Wraps ctx.cachedAddress ctx.cachedBytes

instance {σ : Type} (ctx : Bootuf2Data σ) (op : Op) : Decidable (FlushInBounds ctx op) :=
  inferInstanceAs (Decidable (_ → _))

/-- The cache holds at most one sector, in whole blocks. -/
def CacheFits {σ : Type} (ctx : Bootuf2Data σ) : Prop :=
  ctx.cachedBytes.toNat ≤ 4096 ∧ 256 ∣ ctx.cachedBytes.toNat

/-- Blocks taken from this event carry 256 bytes, as the cache writer expects. -/
def Payload256 : Op → Prop
  | .sector buff => Accepts (.ofBuff buff) → (Bootuf2Block.ofBuff buff).payloadSize = 256
  | .poll => True
  | .init => True

section Generic
variable {σ : Type} {fw : FlashWrite σ}

/-- What a step does to the flash: nothing, or one flush. -/
lemma step_flash (ctx : Bootuf2Data σ) (op : Op) :
    (Op.step fw ctx op).flash =
      if Flushes ctx op then (fw ctx.cachedAddress ctx.cache ctx.cachedBytes ctx.flash).1
      else ctx.flash := by
  cases op with
  | sector buff =>
    rw [step_sector, writeOne_eq]
    by_cases fresh : Fresh ctx (.ofBuff buff)
    · rw [if_pos fresh]
      simp only [writeInternal_eq]
      by_cases need : needFlush ctx (.ofBuff buff)
      · have fl : Flushes ctx (.sector buff) := ⟨fresh, need⟩
        rw [if_pos need, if_pos fl]
        split <;> rfl
      · have nfl : ¬ Flushes ctx (.sector buff) := fun h => need h.2
        rw [if_neg need, if_neg nfl]
        rfl
    · have nfl : ¬ Flushes ctx (.sector buff) := fun h => fresh h.1
      rw [if_neg fresh, if_neg nfl]
  | poll =>
    simp only [Op.step, bootuf2IsWriteDone]
    by_cases done : bootuf2blockStateCheck ctx.state = true
    · rw [if_pos done]
      by_cases nz : ctx.cachedBytes = 0
      · rw [if_neg fun h => h.2 nz, flush_zero nz]
      · rw [if_pos ⟨done, nz⟩, flush_eq nz]
        split <;> rfl
    · rw [if_neg done, if_neg fun h => done h.1]
  | init => rfl

/-- There is something in the cache whenever a step flushes it. -/
lemma Flushes.pos {ctx : Bootuf2Data σ} {op : Op} (h : Flushes ctx op) :
    0 < ctx.cachedBytes.toNat := by
  have nz : ctx.cachedBytes ≠ 0 := by
    cases op with
    | sector buff => exact h.2.ne_zero
    | poll => exact h.2
    | init => exact h.elim
  exact Nat.pos_of_ne_zero fun e => nz (UInt32.toNat_inj.mp e)

/-- An empty cache is within bounds. -/
lemma cacheFits_of_zero {ctx : Bootuf2Data σ} (h : ctx.cachedBytes = 0) : CacheFits ctx := by
  simp [CacheFits, h]

/-- Appending a full-size payload to a cache that is not full keeps it within bounds. -/
lemma cacheFits_append {ctx : Bootuf2Data σ} {uf2 : Bootuf2Block} (fits : CacheFits ctx)
    (ne : ctx.cachedBytes ≠ configBootuf2CacheSize) (pay : uf2.payloadSize = 256) :
    CacheFits (cacheAppend ctx uf2) := by
  obtain ⟨le, dvd⟩ := fits
  have ne' : ctx.cachedBytes.toNat ≠ 4096 := fun h => ne (UInt32.toNat_inj.mp h)
  have e : (ctx.cachedBytes + 256).toNat = ctx.cachedBytes.toNat + 256 := by
    simp only [UInt32.toNat_add, UInt32.reduceToNat]
    omega
  simp only [CacheFits, cacheAppend, pay, e]
  omega

/-- An empty cache is not full. -/
lemma zero_ne_cacheSize : (0 : UInt32) ≠ configBootuf2CacheSize := by decide

/-- A step with full-size payloads keeps the cache within its bounds. -/
lemma step_cacheFits (ctx : Bootuf2Data σ) (op : Op) (fits : CacheFits ctx)
    (pay : Payload256 op) : CacheFits (Op.step fw ctx op) := by
  cases op with
  | sector buff =>
    rw [step_sector, writeOne_eq]
    split
    · rename_i fresh
      change CacheFits (bootuf2FlashWriteInternal fw ctx (.ofBuff buff)).1
      rw [writeInternal_eq]
      split
      · split
        · exact fits
        · exact cacheFits_append (cacheFits_of_zero rfl) zero_ne_cacheSize (pay fresh.1)
      · rename_i need
        exact cacheFits_append fits (fun h => need (.inr h)) (pay fresh.1)
    · exact fits
  | poll =>
    simp only [Op.step, bootuf2IsWriteDone]
    split
    · by_cases nz : ctx.cachedBytes = 0
      · rw [flush_zero nz]
        exact fits
      · rw [flush_eq nz]
        split
        · exact fits
        · exact cacheFits_of_zero rfl
    · exact fits
  | init => exact cacheFits_of_zero rfl

end Generic

/-! ## Confinement over whole runs -/

/-- All ROM calls made so far act inside the `app` partition. -/
def Confined (rom : Rom) (f : Chip) : Prop := ∀ c ∈ f.calls, ∀ i, c.Hits rom i → InApp i

section Runs
variable {rom : Rom}

/-- A step that stays in bounds touches the `app` partition only. -/
lemma step_within (rom : Rom) {ctx : Bootuf2Data Chip} {op : Op} (fits : CacheFits ctx)
    (ok : FlushInBounds ctx op) :
    Within rom InApp ctx.flash (Op.step (bootuf2FlashWrite rom) ctx op).flash := by
  rw [step_flash]
  split
  · rename_i fl
    exact flashWrite_within _ _ _ fl.pos fits.1 (ok fl)
  · exact .refl _ _

/-- ROM calls are never forgotten. -/
lemma step_calls_mono {ctx : Bootuf2Data Chip} (op : Op) (fits : CacheFits ctx) {c}
    (hc : c ∈ ctx.flash.calls) : c ∈ (Op.step (bootuf2FlashWrite rom) ctx op).flash.calls := by
  rw [step_flash]
  split
  · rename_i fl
    exact flashWrite_calls_mono _ _ fl.pos fits.1 hc
  · exact hc

/-- A step keeps the flash confined exactly when it stays in bounds. -/
lemma step_confined_iff (ctx : Bootuf2Data Chip) (op : Op) (fits : CacheFits ctx) :
    Confined rom (Op.step (bootuf2FlashWrite rom) ctx op).flash ↔
      Confined rom ctx.flash ∧ FlushInBounds ctx op := by
  constructor
  · intro conf
    refine ⟨fun c hc => conf c (step_calls_mono op fits hc), fun fl wraps => ?_⟩
    -- a bound test that wraps lets the flush through, and the erase hits the sector below the partition
    rw [step_flash, if_pos fl] at conf
    obtain ⟨c, hc, i, hit, out⟩ := flashWrite_escapes rom ctx.cache ctx.flash fits.1 wraps
    exact out (conf c hc i hit)
  · rintro ⟨conf, ok⟩ c hc
    obtain ⟨new, e, inside⟩ := (step_within rom fits ok).calls
    rw [e, List.mem_append] at hc
    rcases hc with hc | hc
    · exact conf c hc
    · exact inside c hc

/-- The bytes outside the `app` partition survive every run that stays in bounds. -/
lemma run_within {mem : Mem} {ops : List Op} (pay : ∀ op ∈ ops, Payload256 op)
    (ok : Along (Op.step (bootuf2FlashWrite rom)) FlushInBounds (.reset ⟨mem, []⟩) ops) :
    Within rom InApp ⟨mem, []⟩
      (ops.foldl (Op.step (bootuf2FlashWrite rom)) (.reset ⟨mem, []⟩)).flash := by
  have both := ok.and_mem pay
  refine (both.invariant (I := fun ctx => CacheFits ctx ∧ Within rom InApp ⟨mem, []⟩ ctx.flash)
    ?_ ⟨cacheFits_of_zero rfl, .refl _ _⟩).2
  rintro ctx op ⟨fits, within⟩ ⟨inBounds, payload⟩
  exact ⟨step_cacheFits ctx op fits payload, within.trans (step_within rom fits inBounds)⟩

/-- Flash confinement, exactly: in a run from reset whose UF2 blocks carry 256-byte payloads, every
    byte ever erased or programmed lies inside the `app` partition and the rest of the flash is
    unchanged, if and only if no step flushes a range that reaches the partition from below. -/
theorem flash_confined_iff (rom : Rom) (mem : Mem) (ops : List Op)
    (pay : ∀ op ∈ ops, Payload256 op) :
    (Confined rom (ops.foldl (Op.step (bootuf2FlashWrite rom)) (.reset ⟨mem, []⟩)).flash ∧
      ∀ i, ¬ InApp i →
        (ops.foldl (Op.step (bootuf2FlashWrite rom)) (.reset ⟨mem, []⟩)).flash.mem i = mem i) ↔
      Along (Op.step (bootuf2FlashWrite rom)) FlushInBounds (.reset ⟨mem, []⟩) ops := by
  have start : CacheFits (.reset (⟨mem, []⟩ : Chip)) := cacheFits_of_zero rfl
  have calls := foldl_iff_along (G := fun ctx : Bootuf2Data Chip => Confined rom ctx.flash)
    (fun ctx op fits payload => step_cacheFits ctx op fits payload)
    (fun ctx op fits _ => step_confined_iff ctx op fits) start pay
  have none : Confined rom (⟨mem, []⟩ : Chip) := nofun
  constructor
  · intro h
    exact (calls.mp h.1).2
  · intro ok
    exact ⟨calls.mpr ⟨none, ok⟩, (run_within pay ok).frame⟩

end Runs

/-- A block for the last 256 bytes below the `app` partition, announced as the whole image. -/
def escapeBlock : List UInt8 :=
  Uf2Pack.structPack [Uf2Pack.magic0, Uf2Pack.magic1, Uf2Pack.flagFamilyId, 0x8001ff00, 256, 0, 1,
    Uf2Pack.familyId] ++ (List.replicate 476 0 ++ Uf2Pack.structPack [Uf2Pack.magicEnd])

/-- The block is written, and the main loop polls. -/
def escapeRun : List Op := [.sector (Mem.ofList escapeBlock), .poll]

/-- A run that stays in bounds: the only block of a one-byte image, and a poll. -/
theorem flash_confined_one_byte :
    Confined .sample ([Op.sector (Mem.ofList (Uf2Pack.block (Uf2Pack.padded [0x41]) 1 0)), .poll].foldl
      (Op.step (bootuf2FlashWrite .sample)) (.reset ⟨fun _ => 0, []⟩)).flash := by
  refine ((flash_confined_iff .sample (fun _ => 0) _ ?_).mpr ?_).1
  · intro op hop
    rcases List.mem_cons.mp hop with rfl | hop
    · exact fun _ => by decide +kernel
    · rw [List.mem_singleton.mp hop]
      trivial
  · exact ⟨by decide +kernel, by decide +kernel, trivial⟩

/-- The two events of `escapeRun` erase the last sector of the bootloader's own partition. -/
theorem escape_erases_bootloader :
    (∀ op ∈ escapeRun, Payload256 op) ∧
      ¬ Confined .sample (escapeRun.foldl (Op.step (bootuf2FlashWrite .sample))
        (.reset ⟨fun _ => 0, []⟩)).flash ∧
      ¬ InApp 0x1f000 ∧
      (escapeRun.foldl (Op.step (bootuf2FlashWrite .sample))
        (.reset ⟨fun _ => 0, []⟩)).flash.mem 0x1f000 = 0xff := by
  have outside : ¬ InApp 0x1f000 := by decide
  have hit : ∃ c ∈ (escapeRun.foldl (Op.step (bootuf2FlashWrite .sample))
      (.reset ⟨fun _ => 0, []⟩)).flash.calls, c.Hits Rom.sample 0x1f000 := by decide +kernel
  refine ⟨?_, ?_, outside, by decide +kernel⟩
  · intro op hop
    rcases List.mem_cons.mp hop with rfl | hop
    · exact fun _ => by decide +kernel
    · rw [List.mem_singleton.mp hop]
      trivial
  · intro conf
    obtain ⟨c, hc, at_c⟩ := hit
    exact outside (conf c hc _ at_c)

end WlhHpm.Bootuf2

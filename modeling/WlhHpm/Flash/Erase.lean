import WlhHpm.Flash.Write

/-!
# Erase calls of an erase

`erase` rounds the size of its range up to whole sectors, but not its start. `eraseCalls` is the list
of the calls that its loop makes if none fails; they tile as many sectors as the rounded size has,
from the sector of the first byte on (`eraseCalls_tiles`), and the loop always comes out even
(`eraseLoop_left`).

From a start inside a sector these sectors may end before the range does. An erase does what it says
exactly if they do not, or if it reports an error (`erase_correct_iff`).
-/

namespace WlhHpm.Flash

/-- What one pass of the loop of `erase` erases. -/
def eraseUnit (rom : XpiNor) (offset alignedSize : UInt32) : UInt32 :=
  if offset % rom.blockSize = 0 ∧ alignedSize ≥ rom.blockSize then rom.blockSize else rom.sectorSize

/-- The call of one pass of the loop of `erase`. -/
def eraseCall (rom : XpiNor) (offset alignedSize : UInt32) : RomCall :=
  if offset % rom.blockSize = 0 ∧ alignedSize ≥ rom.blockSize then .eraseBlock offset
  else .eraseSector offset

/-- The calls of the loop of `erase`. -/
def eraseCalls (rom : XpiNor) : Nat → UInt32 → UInt32 → List RomCall
  | 0, _, _ => []
  | fuel + 1, offset, alignedSize =>
    if alignedSize > 0 then
      eraseCall rom offset alignedSize :: eraseCalls rom fuel
        (offset + eraseUnit rom offset alignedSize) (alignedSize - eraseUnit rom offset alignedSize)
    else []

/-- The loop of `erase` makes its calls up to the first that fails. -/
lemma eraseLoop_eq (rom : XpiNor) (fuel : Nat) (offset alignedSize : UInt32) (f : Chip) :
    ((eraseLoop rom fuel offset alignedSize f).1, (eraseLoop rom fuel offset alignedSize f).2.2) =
      rom.execAll (eraseCalls rom fuel offset alignedSize) f := by
  induction fuel generalizing offset alignedSize f with
  | zero => rfl
  | succ fuel ih =>
    rw [eraseLoop, eraseCalls]
    split
    · simp only [XpiNor.execAll, ← ih, ← eraseUnit.eq_1, ← eraseCall.eq_1]
      split <;> rfl
    · rfl

/-! ## Passes of the loop -/

section Pass
variable {rom : XpiNor} {offset alignedSize : UInt32}

/-- A pass takes whole sectors off what is left, and no more than that. -/
lemma eraseUnit_toNat (pos : 0 < alignedSize.toNat) (whole : 4096 ∣ alignedSize.toNat) :
    4096 ∣ (eraseUnit rom offset alignedSize).toNat ∧
      0 < (eraseUnit rom offset alignedSize).toNat ∧
      (eraseUnit rom offset alignedSize).toNat ≤ alignedSize.toNat := by
  unfold eraseUnit
  split
  · rename_i byBlock
    exact ⟨rom.block_dvd, rom.block_pos, UInt32.le_iff_toNat_le.mp byBlock.2⟩
  · rw [rom.sector_eq]
    exact ⟨Nat.dvd_refl _, by decide, Nat.le_of_dvd pos whole⟩

/-- A block is erased at its beginning only. -/
lemma block_aligned (byBlock : offset % rom.blockSize = 0) :
    rom.blockSize.toNat ∣ offset.toNat := by
  apply Nat.dvd_of_mod_eq_zero
  rw [← UInt32.toNat_mod, byBlock]
  rfl

/-- A pass erases from the sector of its offset on. -/
lemma eraseCall_range :
    (eraseCall rom offset alignedSize).range rom =
      (offset.toNat / 4096 * 4096, (eraseUnit rom offset alignedSize).toNat) := by
  unfold eraseCall eraseUnit
  split
  · rename_i byBlock
    have dvd := block_aligned byBlock.1
    simp only [RomCall.range, RomCall.base, RomCall.size]
    rw [Nat.div_mul_cancel dvd, Nat.div_mul_cancel (rom.block_dvd.trans dvd)]
  · rw [rom.sector_eq]
    rfl

/-- The remainder after a pass. -/
lemma eraseRest_toNat (pos : 0 < alignedSize.toNat) (whole : 4096 ∣ alignedSize.toNat) :
    (alignedSize - eraseUnit rom offset alignedSize).toNat =
        alignedSize.toNat - (eraseUnit rom offset alignedSize).toNat ∧
      4096 ∣ (alignedSize - eraseUnit rom offset alignedSize).toNat := by
  obtain ⟨dvd, -, le⟩ := @eraseUnit_toNat rom offset alignedSize pos whole
  have rest : (alignedSize - eraseUnit rom offset alignedSize).toNat =
      alignedSize.toNat - (eraseUnit rom offset alignedSize).toNat :=
    UInt32.toNat_sub_of_le _ _ (UInt32.le_iff_toNat_le.mpr le)
  exact ⟨rest, rest ▸ Nat.dvd_sub whole dvd⟩

end Pass

/-- The loop comes out even: what is left is a number of whole sectors in every pass, so that it never
    wraps below zero. -/
lemma eraseLoop_left {rom : XpiNor} {fuel : Nat} {offset alignedSize : UInt32} {f : Chip}
    (whole : 4096 ∣ alignedSize.toNat) (enough : alignedSize.toNat ≤ fuel)
    (ok : (eraseLoop rom fuel offset alignedSize f).2.2 = true) :
    (eraseLoop rom fuel offset alignedSize f).2.1 = 0 := by
  induction fuel generalizing offset alignedSize f with
  | zero => exact UInt32.toNat_inj.mp (Nat.le_zero.mp enough)
  | succ fuel ih =>
    rw [eraseLoop] at ok ⊢
    split at ok
    · rename_i more
      have pos : 0 < alignedSize.toNat := UInt32.lt_iff_toNat_lt.mp more
      obtain ⟨-, unit_pos, -⟩ := @eraseUnit_toNat rom offset alignedSize pos whole
      obtain ⟨rest, dvd⟩ := @eraseRest_toNat rom offset alignedSize pos whole
      rw [if_pos more]
      simp only [← eraseUnit.eq_1, ← eraseCall.eq_1] at ok ⊢
      split at ok
      · rename_i first
        rw [if_pos first]
        exact ih dvd (by omega) ok
      · cases ok
    · rename_i done
      rw [if_neg done]
      simp only [gt_iff_lt, UInt32.lt_iff_toNat_lt, UInt32.reduceToNat, not_lt] at done
      exact UInt32.toNat_inj.mp (Nat.le_zero.mp done)

/-- The loop tiles whole sectors from the sector of its offset on. -/
lemma eraseCalls_tiles {rom : XpiNor} {fuel : Nat} {offset alignedSize : UInt32} {base : Nat}
    (whole : 4096 ∣ alignedSize.toNat) (enough : alignedSize.toNat ≤ fuel)
    (nowrap : base + alignedSize.toNat ≤ 2 ^ 32)
    (from_base : base = offset.toNat / 4096 * 4096 ∨ alignedSize.toNat = 0) :
    Tiles base ((eraseCalls rom fuel offset alignedSize).map (RomCall.range rom))
      (base + alignedSize.toNat) := by
  induction fuel generalizing offset alignedSize base with
  | zero =>
    show base = base + alignedSize.toNat
    omega
  | succ fuel ih =>
    rw [eraseCalls]
    split
    · rename_i more
      have pos : 0 < alignedSize.toNat := UInt32.lt_iff_toNat_lt.mp more
      have start := from_base.resolve_right (by omega)
      obtain ⟨unit_dvd, unit_pos, unit_le⟩ := @eraseUnit_toNat rom offset alignedSize pos whole
      obtain ⟨rest, dvd⟩ := @eraseRest_toNat rom offset alignedSize pos whole
      have next := UInt32.toNat_add offset (eraseUnit rom offset alignedSize)
      rw [List.map_cons, eraseCall_range, ← start]
      refine ⟨rfl, ?_⟩
      generalize eraseUnit rom offset alignedSize = unit at *
      have total : base + alignedSize.toNat = base + unit.toNat + (alignedSize - unit).toNat := by
        omega
      simp only
      rw [total]
      -- after the last pass the offset may have wrapped, but then nothing is left
      refine ih dvd (by omega) (by omega) ?_
      by_cases last : (alignedSize - unit).toNat = 0
      · exact .inr last
      · left
        omega
    · rename_i done
      simp only [gt_iff_lt, UInt32.lt_iff_toNat_lt, UInt32.reduceToNat, not_lt] at done
      show base = base + alignedSize.toNat
      omega

/-- From a start inside a sector, the loop erases sector by sector. -/
lemma eraseCalls_length {rom : XpiNor} {fuel : Nat} {offset alignedSize : UInt32}
    (unaligned : ¬ 4096 ∣ offset.toNat) (whole : 4096 ∣ alignedSize.toNat)
    (enough : alignedSize.toNat ≤ fuel) :
    (eraseCalls rom fuel offset alignedSize).length = alignedSize.toNat / 4096 := by
  induction fuel generalizing offset alignedSize with
  | zero =>
    rw [Nat.le_zero.mp enough]
    rfl
  | succ fuel ih =>
    rw [eraseCalls]
    split
    · rename_i more
      have pos : 0 < alignedSize.toNat := UInt32.lt_iff_toNat_lt.mp more
      have sector : eraseUnit rom offset alignedSize = 4096 := by
        rw [eraseUnit, if_neg, rom.sector_eq]
        exact fun byBlock => unaligned (rom.block_dvd.trans (block_aligned byBlock.1))
      obtain ⟨rest, dvd⟩ := @eraseRest_toNat rom offset alignedSize pos whole
      have next := UInt32.toNat_add offset 4096
      rw [sector] at rest dvd ⊢
      simp only [UInt32.reduceToNat] at rest next
      rw [List.length_cons, ih (by omega) dvd (by omega), rest]
      omega
    · rename_i done
      simp only [gt_iff_lt, UInt32.lt_iff_toNat_lt, UInt32.reduceToNat, not_lt] at done
      rw [Nat.le_zero.mp done]
      rfl

/-! ## Contents -/

/-- Contents after erase calls: erased where one of them hits, as they were elsewhere. -/
lemma foldl_erase {rom : XpiNor} {calls : List RomCall}
    (erases : ∀ c ∈ calls, ∀ m, c.apply rom m = m.erase (c.base rom) (c.size rom)) (m : Mem) (i : Nat) :
    calls.foldl (fun m c => c.apply rom m) m i = if ∃ c ∈ calls, c.Hits rom i then 0xff else m i := by
  induction calls generalizing m with
  | nil => simp
  | cons c calls ih =>
    rw [List.foldl_cons, ih fun c mem => erases c (List.mem_cons_of_mem _ mem)]
    simp only [List.exists_mem_cons_iff]
    by_cases later : ∃ c ∈ calls, c.Hits rom i
    · rw [if_pos later, if_pos (.inr later)]
    · rw [if_neg later]
      by_cases here : c.Hits rom i
      · rw [if_pos (.inl here), erases c List.mem_cons_self, Mem.erase_in here.1 here.2]
      · rw [if_neg (not_or.mpr ⟨here, later⟩)]
        exact RomCall.apply_out here

/-- All calls of the loop erase. -/
lemma eraseCalls_erase {rom : XpiNor} {fuel : Nat} {offset alignedSize : UInt32} :
    ∀ c ∈ eraseCalls rom fuel offset alignedSize, ∀ m,
      c.apply rom m = m.erase (c.base rom) (c.size rom) := by
  induction fuel generalizing offset alignedSize with
  | zero => exact fun c mem => by cases mem
  | succ fuel ih =>
    intro c mem m
    rw [eraseCalls] at mem
    split at mem
    · rcases List.mem_cons.mp mem with rfl | mem
      · unfold eraseCall
        split <;> rfl
      · exact ih c mem m
    · cases mem

/-- The rounded size is a number of whole sectors. -/
lemma alignSize_dvd (size : UInt32) : 4096 ∣ (alignSize size 4096).toNat := by
  rw [alignSize, Word.toNat_and_not_mask _ _ 12 rfl]
  exact Nat.dvd_mul_left _ _

/-! ## Correctness -/

/-- What an erase promises: its loop comes out even and, unless it returns an error, every byte of the
    range is erased and only sectors that intersect the range have changed. -/
structure EraseCorrect (rom : XpiNor) (offset size : UInt32) (f : Chip) (r : Chip × Int) : Prop where
  even : let aligned := alignSize size rom.sectorSize
    (eraseLoop rom aligned.toNat offset aligned f).2.2 = true →
      (eraseLoop rom aligned.toNat offset aligned f).2.1 = 0
  erased : 0 ≤ r.2 → ∀ i, Range offset.toNat size.toNat i →
    r.1.mem i = 0xff ∧ ∃ c ∈ r.1.calls.drop f.calls.length, c.Hits rom i
  frame : 0 ≤ r.2 → ∀ i, (¬ ∃ j, Range offset.toNat size.toNat j ∧ j / 4096 = i / 4096) →
    r.1.mem i = f.mem i

/-- The calls of an erase, if none fails. -/
def allEraseCalls (rom : XpiNor) (offset size : UInt32) : List RomCall :=
  eraseCalls rom (alignSize size 4096).toNat offset (alignSize size 4096)

section Correct
variable {rom : XpiNor} {offset size : UInt32} {f : Chip}

/-- What an erase of an accepted range does, whatever error it may return. -/
lemma eraseBody_eq {error : Int} (accepted : ¬ Refused rom offset size) (f : Chip) :
    eraseBody error rom offset size f = ((rom.execAll (allEraseCalls rom offset size) f).1,
      if (rom.execAll (allEraseCalls rom offset size) f).2 then Word.toInt size else error) := by
  unfold Refused at accepted
  rw [eraseBody, if_neg accepted, rom.sector_eq, allEraseCalls, ← eraseLoop_eq]

/-- All calls of an erase erase. -/
lemma allEraseCalls_erase : ∀ c ∈ allEraseCalls rom offset size, ∀ m,
    c.apply rom m = m.erase (c.base rom) (c.size rom) := eraseCalls_erase

/-- What an erase of an accepted range hits. -/
lemma allEraseCalls_hits (accepted : ¬ Refused rom offset size) (small : size.toNat < 2 ^ 31) (i : Nat) :
    (∃ c ∈ allEraseCalls rom offset size, c.Hits rom i) ↔
      offset.toNat / 4096 * 4096 ≤ i ∧
        i < offset.toNat / 4096 * 4096 + (size.toNat + 4095) / 4096 * 4096 := by
  obtain ⟨nowrap, -⟩ := nowrap_of_accepted accepted small
  have aligned := alignSize_toNat small
  have tiles := @eraseCalls_tiles rom _ offset _ _ (alignSize_dvd size) le_rfl (by omega) (.inl rfl)
  rw [← aligned, ← tiles.covers i]
  simp only [List.mem_map, exists_exists_and_eq_and]
  rfl

/-- An erase whose sectors reach to the end of its range, or that reports an error, keeps its promise. -/
lemma correct_of_reach {error : Int} (neg : error < 0) (accepted : ¬ Refused rom offset size)
    (reach : offset.toNat % 4096 + size.toNat ≤ (size.toNat + 4095) / 4096 * 4096 ∨
      2 ^ 31 ≤ size.toNat ∨ (rom.execAll (allEraseCalls rom offset size) f).2 = false) :
    EraseCorrect rom offset size f ((rom.execAll (allEraseCalls rom offset size) f).1,
      if (rom.execAll (allEraseCalls rom offset size) f).2 then Word.toInt size else error) := by
  refine ⟨fun ok => eraseLoop_left ?_ le_rfl ok, fun result i inside => ?_, fun result i outside => ?_⟩
  · rw [rom.sector_eq]
    exact alignSize_dvd size
  · obtain ⟨all, small⟩ := ok_of_result neg result
    have hit : ∃ c ∈ allEraseCalls rom offset size, c.Hits rom i := by
      rw [allEraseCalls_hits accepted small]
      have fits := reach.resolve_right (not_or.mpr ⟨not_le.mpr small, by simp [all]⟩)
      unfold Range at inside
      omega
    simp only [(XpiNor.execAll_ok all).1]
    rw [foldl_erase allEraseCalls_erase, if_pos hit, List.drop_left]
    exact ⟨rfl, hit⟩
  · obtain ⟨all, small⟩ := ok_of_result neg result
    simp only [(XpiNor.execAll_ok all).1]
    rw [foldl_erase allEraseCalls_erase, if_neg]
    intro hit
    rw [allEraseCalls_hits accepted small] at hit
    have pos := pos_of_accepted accepted
    -- the sector of byte `i` holds the first byte of the range or begins inside it
    refine outside ⟨max offset.toNat (i / 4096 * 4096), ?_, ?_⟩
    · unfold Range
      omega
    · omega

/-- An erase that begins inside a sector goes sector by sector. -/
lemma allEraseCalls_length (small : size.toNat < 2 ^ 31) (unaligned : ¬ 4096 ∣ offset.toNat) :
    (allEraseCalls rom offset size).length = (size.toNat + 4095) / 4096 := by
  rw [allEraseCalls, eraseCalls_length unaligned (alignSize_dvd size) le_rfl, alignSize_toNat small]
  exact Nat.mul_div_cancel _ (by decide)

/-- If the sectors end before the range does, the byte after them is not erased. -/
lemma not_correct_of_short {error : Int} (accepted : ¬ Refused rom offset size)
    (small : size.toNat < 2 ^ 31)
    (short : ¬ offset.toNat % 4096 + size.toNat ≤ (size.toNat + 4095) / 4096 * 4096)
    (ok : ∀ k < (size.toNat + 4095) / 4096, rom.status (f.calls.length + k) = none) :
    ¬ EraseCorrect rom offset size f ((rom.execAll (allEraseCalls rom offset size) f).1,
      if (rom.execAll (allEraseCalls rom offset size) f).2 then Word.toInt size else error) := by
  intro correct
  have all : (rom.execAll (allEraseCalls rom offset size) f).2 = true := by
    rw [XpiNor.execAll_ok_iff, allEraseCalls_length small (by omega)]
    exact ok
  have result : Word.toInt size = size.toNat := by rw [Word.toInt, if_pos small]
  let i := offset.toNat / 4096 * 4096 + (size.toNat + 4095) / 4096 * 4096
  have inside : Range offset.toNat size.toNat i := by
    have pos := pos_of_accepted accepted
    unfold Range
    omega
  have hit := (correct.erased (by simp [all, result]) i inside).2
  simp only [(XpiNor.execAll_ok all).1, List.drop_left] at hit
  rw [allEraseCalls_hits accepted small] at hit
  exact absurd hit.2 (lt_irrefl _)

end Correct

/-- An erase of an accepted range keeps its promise, in both ports, exactly if its rounded size reaches
    from the sector of its first byte to the end of the range, if its size is a negative `int`, or if
    one of its calls fails. -/
theorem erase_correct_iff (rom : XpiNor) (offset size : UInt32) (f : Chip)
    (accepted : ¬ Refused rom offset size) :
    (EraseCorrect rom offset size f (erase rom offset size f) ↔
      offset.toNat % 4096 + size.toNat ≤ (size.toNat + 4095) / 4096 * 4096 ∨ 2 ^ 31 ≤ size.toNat ∨
        ∃ k < (size.toNat + 4095) / 4096, rom.status (f.calls.length + k) ≠ none) ∧
    (EraseCorrect rom offset size f (Board.erase rom offset size f) ↔
      offset.toNat % 4096 + size.toNat ≤ (size.toNat + 4095) / 4096 * 4096 ∨ 2 ^ 31 ≤ size.toNat ∨
        ∃ k < (size.toNat + 4095) / 4096, rom.status (f.calls.length + k) ≠ none) := by
  rw [erase, Board.erase, eraseBody_eq accepted, eraseBody_eq accepted]
  have both {error : Int} (neg : error < 0) :
      EraseCorrect rom offset size f ((rom.execAll (allEraseCalls rom offset size) f).1,
          if (rom.execAll (allEraseCalls rom offset size) f).2 then Word.toInt size else error) ↔
        offset.toNat % 4096 + size.toNat ≤ (size.toNat + 4095) / 4096 * 4096 ∨ 2 ^ 31 ≤ size.toNat ∨
          ∃ k < (size.toNat + 4095) / 4096, rom.status (f.calls.length + k) ≠ none := by
    by_cases reach : offset.toNat % 4096 + size.toNat ≤ (size.toNat + 4095) / 4096 * 4096
    · exact iff_of_true (correct_of_reach neg accepted (.inl reach)) (.inl reach)
    · by_cases small : size.toNat < 2 ^ 31
      · refine ⟨fun correct => .inr (.inr ?_), ?_⟩
        · by_contra none
          push Not at none
          exact not_correct_of_short accepted small reach none correct
        · rintro (fits | large | ⟨k, lt, failed⟩)
          · exact absurd fits reach
          · exact absurd small (not_lt.mpr large)
          · refine correct_of_reach neg accepted (.inr (.inr ?_))
            rw [← Bool.not_eq_true, XpiNor.execAll_ok_iff, allEraseCalls_length small (by omega)]
            exact fun ok => failed (ok k lt)
      · have large : 2 ^ 31 ≤ size.toNat := not_lt.mp small
        exact iff_of_true (correct_of_reach neg accepted (.inr (.inl large))) (.inr (.inl large))
  exact ⟨both (by decide), both (by decide)⟩

/-- The second sector of a chip of zeros. -/
theorem erase_correct_sector :
    EraseCorrect Rom.sample 4096 4096 ⟨fun _ => 0, []⟩ (erase Rom.sample 4096 4096 ⟨fun _ => 0, []⟩) ∧
      EraseCorrect Rom.sample 4096 4096 ⟨fun _ => 0, []⟩
        (Board.erase Rom.sample 4096 4096 ⟨fun _ => 0, []⟩) := by
  have iff := erase_correct_iff Rom.sample 4096 4096 ⟨fun _ => 0, []⟩ (by decide)
  exact ⟨iff.1.mpr (.inl (by decide)), iff.2.mpr (.inl (by decide))⟩

/-- The same length from the second page on: success is reported, and the last page of the range is
    not erased. -/
theorem erase_short_unaligned :
    ¬ Refused Rom.sample 256 4096 ∧
      (erase Rom.sample 256 4096 ⟨fun _ => 0, []⟩).2 = 4096 ∧
      (Board.erase Rom.sample 256 4096 ⟨fun _ => 0, []⟩).2 = 4096 ∧
      (erase Rom.sample 256 4096 ⟨fun _ => 0, []⟩).1.mem 4096 = 0 ∧
      ¬ EraseCorrect Rom.sample 256 4096 ⟨fun _ => 0, []⟩
        (erase Rom.sample 256 4096 ⟨fun _ => 0, []⟩) := by
  have result : (erase Rom.sample 256 4096 ⟨fun _ => 0, []⟩).2 = 4096 := by decide +kernel
  have content : (erase Rom.sample 256 4096 ⟨fun _ => 0, []⟩).1.mem 4096 = 0 := by decide +kernel
  refine ⟨by decide, result, by decide +kernel, content, fun correct => ?_⟩
  have erased := (correct.erased (by rw [result]; decide) 4096 ⟨by decide, by decide⟩).1
  rw [content] at erased
  exact absurd erased (by decide)

end WlhHpm.Flash

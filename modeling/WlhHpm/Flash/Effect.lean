import WlhHpm.Flash.Port

/-!
# Effects of the flash port

What the operations of `Flash/Port.lean` do to the chip, in the two forms that the bootloader's
proofs use.

* `Within rom R f f'` bounds an operation from outside, for every pattern of ROM failures: all ROM
  calls made on the way from `f` to `f'` act inside the region `R`, and the contents outside `R` are
  unchanged. It is a preorder (`refl`, `trans`) and holds of one call by `exec_within`.
* For a ROM that never fails (`XpiNor.Healthy`) `write_healthy` gives the resulting contents.

The bootloader only ever erases ranges of at most one sector; `erase_small` reduces such an erase to
the single ROM call `sectorCall`.
-/

namespace WlhHpm.Flash

/-- No ROM call fails. -/
def XpiNor.Healthy (rom : XpiNor) : Prop := ∀ n, rom.status n = none

/-- A driver for a 4 MiB chip with 64 KiB blocks whose calls all succeed. -/
def Rom.sample : Rom where
  sectorSize := 4096
  blockSize := 65536
  pageSize := 256
  totalSize := 0x400000
  status := fun _ => none
  sector_eq := rfl
  page_eq := rfl
  block_dvd := by decide
  block_pos := by decide
  parts_fit := by decide
  total_lt := by decide

/-- The calls of the sample driver all succeed. -/
lemma Rom.sample_healthy : Rom.sample.Healthy := fun _ => rfl

/-- All ROM calls between `f` and `f'` act inside `R`, and nothing outside `R` has changed. -/
structure Within (rom : XpiNor) (R : Nat → Prop) (f f' : Chip) : Prop where
  calls : ∃ new, f'.calls = f.calls ++ new ∧ ∀ c ∈ new, ∀ i, c.Hits rom i → R i
  frame : ∀ i, ¬ R i → f'.mem i = f.mem i

namespace Within
variable {rom : XpiNor} {R : Nat → Prop} {f f' f'' : Chip}

/-- Nothing has been done. -/
lemma refl (R : Nat → Prop) (f : Chip) : Within rom R f f :=
  ⟨⟨[], by simp, nofun⟩, fun _ _ => rfl⟩

/-- Two operations inside the same range. -/
lemma trans (h1 : Within rom R f f') (h2 : Within rom R f' f'') : Within rom R f f'' := by
  obtain ⟨n1, e1, r1⟩ := h1.calls
  obtain ⟨n2, e2, r2⟩ := h2.calls
  refine ⟨⟨n1 ++ n2, by rw [e2, e1, List.append_assoc], ?_⟩, ?_⟩
  · intro c hc
    rcases List.mem_append.mp hc with hc | hc
    · exact r1 c hc
    · exact r2 c hc
  · intro i hi
    rw [h2.frame i hi, h1.frame i hi]

/-- An operation inside a range is inside a larger one. -/
lemma mono {R' : Nat → Prop} (sub : ∀ i, R i → R' i) (h : Within rom R f f') :
    Within rom R' f f' := by
  obtain ⟨new, e, r⟩ := h.calls
  exact ⟨⟨new, e, fun c hc i hi => sub i (r c hc i hi)⟩, fun i hi => h.frame i (mt (sub i) hi)⟩

end Within

/-- Bytes that a successful call does not hit keep their value. -/
lemma RomCall.apply_out {rom : XpiNor} {c : RomCall} {m i} (h : ¬ c.Hits rom i) :
    c.apply rom m i = m i := by
  unfold Hits at h
  cases c with
  | eraseSector offset => exact Mem.erase_out (by simp only [base, size] at h ⊢; omega)
  | eraseBlock offset => exact Mem.erase_out (by simp only [base, size] at h ⊢; omega)
  | program offset src => exact Mem.program_out (by simp only [base, size] at h ⊢; omega)

/-- One ROM call stays inside every region that contains its target range. -/
lemma exec_within {rom : XpiNor} {R : Nat → Prop} {f : Chip} {c : RomCall}
    (h : ∀ i, c.Hits rom i → R i) : Within rom R f (rom.exec f c).1 := by
  unfold XpiNor.exec
  split
  · refine ⟨⟨[c], rfl, by simpa using h⟩, fun i hi => ?_⟩
    exact RomCall.apply_out (mt (h i) hi)
  · refine ⟨⟨[c], rfl, by simpa using h⟩, fun i hi => ?_⟩
    have out := mt (h i) hi
    simp only [RomCall.Hits] at out
    exact Mem.scribble_out (by omega)

/-- A call of a healthy ROM succeeds. -/
lemma exec_healthy {rom : XpiNor} (ok : rom.Healthy) (f : Chip) (c : RomCall) :
    rom.exec f c = (⟨c.apply rom f.mem, f.calls ++ [c]⟩, true) := by
  simp only [XpiNor.exec, ok _]

/-- Every call is recorded. -/
lemma exec_calls (rom : XpiNor) (f : Chip) (c : RomCall) :
    (rom.exec f c).1.calls = f.calls ++ [c] := by
  unfold XpiNor.exec
  split <;> rfl

/-! ## Erasing at most one sector -/

/-- The one call by which `erase` erases a range of at most one sector. -/
def sectorCall (rom : XpiNor) (offset : UInt32) : RomCall :=
  if offset % rom.blockSize = 0 ∧ (4096 : UInt32) ≥ rom.blockSize then .eraseBlock offset
  else .eraseSector offset

/-- The size of an `int` range rounded up to whole sectors. -/
lemma alignSize_toNat {size : UInt32} (small : size.toNat < 2 ^ 31) :
    (alignSize size 4096).toNat = (size.toNat + 4095) / 4096 * 4096 := by
  rw [alignSize, Word.toNat_and_not_mask _ _ 12 rfl, UInt32.toNat_sub, UInt32.toNat_add]
  simp only [UInt32.reduceToNat]
  omega

/-- `erase` rounds the length of a range of at most one sector up to one sector. -/
lemma alignSize_small {size : UInt32} (pos : 0 < size.toNat) (le : size.toNat ≤ 4096) :
    alignSize size 4096 = 4096 := by
  apply UInt32.toNat_inj.mp
  rw [alignSize_toNat (by omega)]
  change _ = 4096
  omega

/-- A block no larger than a sector is a sector. -/
lemma blockSize_of_le {rom : XpiNor} (le : (4096 : UInt32) ≥ rom.blockSize) :
    rom.blockSize.toNat = 4096 := by
  have le' : rom.blockSize.toNat ≤ 4096 := UInt32.le_iff_toNat_le.mp le
  have pos := rom.block_pos
  obtain ⟨k, hk⟩ := rom.block_dvd
  omega

/-- `sectorCall` erases the sector that contains its argument. -/
lemma sectorCall_hits {rom : XpiNor} {offset i} :
    (sectorCall rom offset).Hits rom i ↔
      offset.toNat / 4096 * 4096 ≤ i ∧ i < offset.toNat / 4096 * 4096 + 4096 := by
  unfold sectorCall
  split
  · rename_i h
    simp only [RomCall.Hits, RomCall.base, RomCall.size, blockSize_of_le h.2]
  · rfl

/-- A successful `sectorCall` erases the sector that contains its argument. -/
lemma sectorCall_apply (rom : XpiNor) (offset : UInt32) (m : Mem) :
    (sectorCall rom offset).apply rom m = m.erase (offset.toNat / 4096 * 4096) 4096 := by
  unfold sectorCall
  split
  · rename_i h
    simp only [RomCall.apply, RomCall.base, blockSize_of_le h.2]
  · rfl

/-- One pass of the loop of `erase` is enough for one sector. -/
lemma eraseLoop_sector {rom : XpiNor} (fuel : Nat) (offset : UInt32) (f : Chip) :
    eraseLoop rom (fuel + 2) offset 4096 f =
      ((rom.exec f (sectorCall rom offset)).1,
        if (rom.exec f (sectorCall rom offset)).2 then 0 else 4096,
        (rom.exec f (sectorCall rom offset)).2) := by
  have gt : (4096 : UInt32) > 0 := by decide
  have unit_eq : (if offset % rom.blockSize = 0 ∧ (4096 : UInt32) ≥ rom.blockSize then rom.blockSize
      else rom.sectorSize) = 4096 := by
    split
    · rename_i h
      exact UInt32.toNat_inj.mp (blockSize_of_le h.2)
    · exact rom.sector_eq
  rw [eraseLoop, if_pos gt]
  simp only [unit_eq, ← sectorCall.eq_1]
  split
  · rename_i ok
    rw [ok, eraseLoop]
    simp
  · rename_i bad
    simp only [Bool.not_eq_true] at bad
    simp [bad]

/-- An erase of at most one sector is one ROM call. -/
lemma erase_small {rom : XpiNor} {offset size : UInt32} (f : Chip)
    (nneg : ¬ Word.IsNeg offset) (inChip : ¬ offset + size > rom.totalSize)
    (pos : 0 < size.toNat) (le : size.toNat ≤ 4096) :
    erase rom offset size f =
      ((rom.exec f (sectorCall rom offset)).1,
        if (rom.exec f (sectorCall rom offset)).2 then Word.toInt size else -1) := by
  have ne : size ≠ 0 := by
    rintro rfl
    exact absurd pos (by decide)
  rw [erase, eraseBody, if_neg (by tauto), rom.sector_eq, alignSize_small pos le]
  simp only [show (4096 : UInt32).toNat = 4094 + 2 from rfl, eraseLoop_sector]

/-! ## Writing -/

/-- Programming a buffer's first `n` bytes, handed over as a list. -/
lemma program_toList (m buf : Mem) (a n : Nat) :
    m.program a (buf.toList n).length (Mem.ofList (buf.toList n)) = m.program a n buf := by
  funext i
  simp only [Mem.toList_length]
  by_cases h : a ≤ i ∧ i < a + n
  · rw [Mem.program_in h.1 h.2, Mem.program_in h.1 h.2, Mem.ofList_get (by simp; omega)]
    simp [Mem.toList]
  · rw [Mem.program_out (by omega), Mem.program_out (by omega)]

/-- Programming two adjacent pieces of a buffer programs both. -/
lemma program_append (m buf : Mem) (a n k : Nat) :
    (m.program a n buf).program (a + n) k (buf.shift n) = m.program a (n + k) buf :=
  Mem.patch_append m a n k fun j old => old &&& buf j

/-- The bytes `[a, a + n)`. -/
def Range (a n i : Nat) : Prop := a ≤ i ∧ i < a + n

/-- The size of one piece of the write loop. -/
lemma writeSize_toNat (remaining : UInt32) :
    (if remaining < 256 then remaining else (256 : UInt32)).toNat = min remaining.toNat 256 :=
  Word.toNat_ite_lt remaining 256

/-- What is left of a range after its first piece. -/
lemma rest_toNat {offset remaining ws : UInt32} (le : ws.toNat ≤ remaining.toNat)
    (nowrap : offset.toNat + remaining.toNat < 2 ^ 32) :
    (offset + ws).toNat = offset.toNat + ws.toNat ∧
      (remaining - ws).toNat = remaining.toNat - ws.toNat := by
  have lt := remaining.toNat_lt
  constructor
  · rw [UInt32.toNat_add]
    omega
  · rw [UInt32.toNat_sub]
    omega

/-- Programming a piece of a range, and then something inside the rest of it. -/
lemma Within.piece {rom : XpiNor} {offset remaining ws : UInt32} {buf : Mem} {f f' : Chip}
    (le : ws.toNat ≤ remaining.toNat) (nowrap : offset.toNat + remaining.toNat < 2 ^ 32)
    (rest : Within rom (Range (offset + ws).toNat (remaining - ws).toNat)
      (rom.exec f (.program offset (buf.toList ws.toNat))).1 f') :
    Within rom (Range offset.toNat remaining.toNat) f f' := by
  obtain ⟨e1, e2⟩ := rest_toNat le nowrap
  have first : Within rom (Range offset.toNat remaining.toNat) f
      (rom.exec f (.program offset (buf.toList ws.toNat))).1 := by
    apply exec_within
    intro i hi
    simp only [RomCall.Hits, RomCall.base, RomCall.size, Mem.toList_length] at hi
    unfold Range
    omega
  refine first.trans (rest.mono ?_)
  intro i hi
  unfold Range at hi ⊢
  omega

/-- The write loop acts inside the range it is given. -/
lemma writeLoop_within {rom : XpiNor} (fuel : Nat) {offset remaining : UInt32} (buf : Mem) (f : Chip)
    (nowrap : offset.toNat + remaining.toNat < 2 ^ 32) :
    Within rom (Range offset.toNat remaining.toNat) f
      (writeLoop rom fuel offset buf remaining f).1 := by
  induction fuel generalizing offset remaining buf f with
  | zero => exact .refl _ _
  | succ fuel ih =>
    rw [writeLoop]
    split
    · have sz := writeSize_toNat remaining
      generalize (if remaining < 256 then remaining else (256 : UInt32)) = ws at sz ⊢
      have le : ws.toNat ≤ remaining.toNat := by omega
      obtain ⟨e1, e2⟩ := rest_toNat le nowrap
      simp only
      -- a call that fails ends the loop, and may have scribbled over its own piece only
      split
      · exact .piece le nowrap (ih _ _ (by omega))
      · exact .piece le nowrap (.refl _ _)
    · exact .refl _ _

/-- With a healthy ROM the write loop programs the whole range. -/
lemma writeLoop_healthy {rom : XpiNor} (ok : rom.Healthy) (fuel : Nat) (offset remaining : UInt32)
    (buf : Mem) (f : Chip) (nowrap : offset.toNat + remaining.toNat < 2 ^ 32)
    (enough : remaining.toNat ≤ fuel) :
    ∃ calls, writeLoop rom fuel offset buf remaining f =
      (⟨f.mem.program offset.toNat remaining.toNat buf, calls⟩, true) := by
  induction fuel generalizing offset remaining buf f with
  | zero =>
    refine ⟨f.calls, ?_⟩
    rw [writeLoop, show remaining.toNat = 0 by omega, Mem.program, Mem.patch_zero]
  | succ fuel ih =>
    rw [writeLoop]
    split
    · rename_i pos
      simp only [gt_iff_lt, UInt32.lt_iff_toNat_lt, UInt32.reduceToNat] at pos
      have sz := writeSize_toNat remaining
      generalize (if remaining < 256 then remaining else (256 : UInt32)) = ws at sz ⊢
      have le : ws.toNat ≤ remaining.toNat := by omega
      obtain ⟨e1, e2⟩ := rest_toNat le nowrap
      simp only [exec_healthy ok, if_true, RomCall.apply, program_toList]
      obtain ⟨calls, e⟩ := ih (offset + ws) (remaining - ws)
        (buf.shift ws.toNat) ⟨f.mem.program offset.toNat ws.toNat buf,
          f.calls ++ [.program offset (buf.toList ws.toNat)]⟩ (by omega) (by omega)
      refine ⟨calls, ?_⟩
      rw [e, e1, e2, program_append, show ws.toNat + (remaining.toNat - ws.toNat) = remaining.toNat
        by omega]
    · rename_i pos
      simp only [gt_iff_lt, UInt32.lt_iff_toNat_lt, UInt32.reduceToNat] at pos
      refine ⟨f.calls, ?_⟩
      rw [show remaining.toNat = 0 by omega, Mem.program, Mem.patch_zero]

/-- The size of the first, unaligned piece of a write. -/
lemma writePageSize_toNat (rom : XpiNor) (offset size : UInt32) :
    (if rom.pageSize - offset % rom.pageSize < size then rom.pageSize - offset % rom.pageSize
      else size).toNat = min (256 - offset.toNat % 256) size.toNat := by
  have left : (rom.pageSize - offset % rom.pageSize).toNat = 256 - offset.toNat % 256 := by
    rw [rom.page_eq, UInt32.toNat_sub, UInt32.toNat_mod]
    simp only [UInt32.reduceToNat]
    omega
  rw [Word.toNat_ite_lt, left]

/-- No unsigned value is below zero, so the test after the first piece of a write never fires. -/
lemma not_lt_zero (x : UInt32) : ¬ x < 0 := by
  rw [UInt32.lt_iff_toNat_lt]
  exact Nat.not_lt_zero _

/-- A write acts inside the range it is given. -/
lemma write_within (rom : XpiNor) {offset size : UInt32} (buf : Mem) (f : Chip)
    (nowrap : offset.toNat + size.toNat < 2 ^ 32) :
    Within rom (Range offset.toNat size.toNat) f (write rom offset buf size f).1 := by
  unfold write writeBody
  split
  · exact .refl _ _
  · rename_i guard
    have pos : 0 < size.toNat := by
      rcases Nat.eq_zero_or_pos size.toNat with h | h
      · exact absurd (Or.inr (Or.inr (UInt32.toNat_inj.mp h))) guard
      · exact h
    simp only
    split
    · have head := writePageSize_toNat rom offset size
      generalize (if rom.pageSize - offset % rom.pageSize < size then
        rom.pageSize - offset % rom.pageSize else size) = ws at head ⊢
      have wle : ws.toNat ≤ size.toNat := by omega
      rw [if_neg (not_lt_zero _)]
      obtain ⟨e1, e2⟩ := rest_toNat wle nowrap
      exact .piece wle nowrap (writeLoop_within _ _ _ (by omega))
    · exact writeLoop_within _ _ _ nowrap

/-- With a healthy ROM a write that passes its guard programs the whole range. -/
lemma write_healthy {rom : XpiNor} (ok : rom.Healthy) (offset size : UInt32) (buf : Mem) (f : Chip)
    (nneg : ¬ Word.IsNeg offset) (inChip : ¬ offset + size > rom.totalSize)
    (pos : 0 < size.toNat) (nowrap : offset.toNat + size.toNat < 2 ^ 32) :
    ∃ calls, write rom offset buf size f =
      (⟨f.mem.program offset.toNat size.toNat buf, calls⟩, Word.toInt size) := by
  have ne : size ≠ 0 := by
    rintro rfl
    exact absurd pos (by decide)
  rw [write, writeBody, if_neg (by tauto)]
  simp only
  split
  · have head := writePageSize_toNat rom offset size
    generalize (if rom.pageSize - offset % rom.pageSize < size then
      rom.pageSize - offset % rom.pageSize else size) = ws at head ⊢
    have wle : ws.toNat ≤ size.toNat := by omega
    rw [if_neg (not_lt_zero _)]
    obtain ⟨e1, e2⟩ := rest_toNat wle nowrap
    simp only [writeUnalignedPageData, writePageBody, exec_healthy ok, RomCall.apply, program_toList]
    obtain ⟨calls, e⟩ := writeLoop_healthy ok (size - ws).toNat (offset + ws) (size - ws)
      (buf.shift ws.toNat) ⟨f.mem.program offset.toNat ws.toNat buf,
        f.calls ++ [.program offset (buf.toList ws.toNat)]⟩ (by omega) le_rfl
    refine ⟨calls, ?_⟩
    rw [e, e1, e2, program_append, show ws.toNat + (size.toNat - ws.toNat) = size.toNat by omega]
    rfl
  · obtain ⟨calls, e⟩ := writeLoop_healthy ok size.toNat offset size buf f nowrap le_rfl
    refine ⟨calls, ?_⟩
    rw [e]
    rfl

end WlhHpm.Flash

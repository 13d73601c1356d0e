import WlhHpm.Flash.Effect

/-!
# The flash port of the application

Model of `write` and `erase` of `board/fal_flash_port.c`, from which the port of the bootloader
(`Flash/Port.lean`) was copied: the same text, but the functions return `-RT_ERROR` where those of the
bootloader return `-1`.
-/

namespace WlhHpm.Flash

namespace Board

/-- C `RT_ERROR` (`klibc/kerrno.h`). -/
def rtError : Int := 255

/-- Program part of one page (C `write_unaligned_page_data`). -/
def writeUnalignedPageData (rom : XpiNor) (offset : UInt32) (buf : Mem) (size : UInt32) (f : Chip) :
    Chip × Int :=
  writePageBody (-rtError) rom offset buf size f

/-- FAL write operation (C `write`). -/
def write (rom : XpiNor) (offset : UInt32) (buf : Mem) (size : UInt32) (f : Chip) : Chip × Int :=
  writeBody (-rtError) writeUnalignedPageData rom offset buf size f

/-- FAL erase operation (C `erase`). -/
def erase (rom : XpiNor) (offset size : UInt32) (f : Chip) : Chip × Int :=
  eraseBody (-rtError) rom offset size f

end Board

/-- The guard of `write` and `erase` refuses the range. -/
def Refused (rom : XpiNor) (offset size : UInt32) : Prop :=
  Word.IsNeg offset ∨ offset + size > rom.totalSize ∨ size = 0

instance (rom : XpiNor) (offset size : UInt32) : Decidable (Refused rom offset size) :=
  inferInstanceAs (Decidable (_ ∨ _ ∨ _))

/-- A range that is accepted and whose size is a positive `int` does not wrap around. -/
lemma nowrap_of_accepted {rom : XpiNor} {offset size : UInt32} (accepted : ¬ Refused rom offset size)
    (small : size.toNat < 2 ^ 31) :
    offset.toNat + size.toNat < 2 ^ 32 ∧ offset.toNat + size.toNat ≤ rom.totalSize.toNat := by
  obtain ⟨nneg, inChip, -⟩ := not_or.mp accepted |>.imp id not_or.mp
  rw [Word.isNeg_iff] at nneg
  simp only [gt_iff_lt, UInt32.lt_iff_toNat_lt, UInt32.toNat_add] at inChip
  omega

/-- A range that is accepted is not empty. -/
lemma pos_of_accepted {rom : XpiNor} {offset size : UInt32} (accepted : ¬ Refused rom offset size) :
    0 < size.toNat := by
  refine Nat.pos_of_ne_zero fun zero => accepted (.inr (.inr ?_))
  exact UInt32.toNat_inj.mp zero

/-- A range inside the chip is accepted. -/
lemma accepted_of_fits {rom : XpiNor} {offset size : UInt32} (nneg : ¬ Word.IsNeg offset)
    (pos : 0 < size.toNat) (fits : offset.toNat + size.toNat ≤ rom.totalSize.toNat) :
    ¬ Refused rom offset size := by
  have lt := rom.totalSize.toNat_lt
  rintro (neg | out | zero)
  · exact nneg neg
  · simp only [gt_iff_lt, UInt32.lt_iff_toNat_lt, UInt32.toNat_add] at out
    omega
  · rw [zero] at pos
    exact absurd pos (by decide)

/-- A result that is no error: no call has failed, and the size is an `int`. -/
lemma ok_of_result {size : UInt32} {error : Int} (neg : error < 0) {ok : Bool}
    (result : 0 ≤ if ok then Word.toInt size else error) : ok = true ∧ size.toNat < 2 ^ 31 := by
  cases ok with
  | false => exact absurd result (not_le.mpr neg)
  | true =>
    simp only [if_true, Word.toInt] at result
    refine ⟨rfl, ?_⟩
    have lt := size.toNat_lt
    split at result <;> omega

/-! ## Sequences of calls -/

namespace XpiNor

/-- Make calls one after the other, up to the first that fails; `true` if none does. -/
def execAll (rom : XpiNor) : List RomCall → Chip → Chip × Bool
  | [], f => (f, true)
  | c :: cs, f =>
    let r := rom.exec f c
    if r.2 then execAll rom cs r.1 else (r.1, false)

/-- All calls made between `f` and `f'` succeeded. -/
def AllOk (rom : XpiNor) (f f' : Chip) : Prop :=
  ∀ k, f.calls.length ≤ k → k < f'.calls.length → rom.status k = none

/-- Of the calls made between `f` and `f'` only the last may have failed. -/
def StopsAtFailure (rom : XpiNor) (f f' : Chip) : Prop :=
  ∀ k, f.calls.length ≤ k → k < f'.calls.length → rom.status k ≠ none → k + 1 = f'.calls.length

variable {rom : XpiNor}

/-- A call succeeds as the driver has it. -/
lemma exec_ok_iff (f : Chip) (c : RomCall) :
    (rom.exec f c).2 = true ↔ rom.status f.calls.length = none := by
  unfold exec
  split
  · rename_i ok
    simp [ok]
  · rename_i junk bad
    simp [bad]

/-- A call that succeeds has its effect. -/
lemma exec_mem {f : Chip} {c : RomCall} (ok : (rom.exec f c).2 = true) :
    (rom.exec f c).1.mem = c.apply rom f.mem := by
  rw [exec_ok_iff] at ok
  simp only [exec, ok]

/-- Calls that succeeded after a first one that did. -/
lemma AllOk.cons {f f' : Chip} {c : RomCall} (ok : (rom.exec f c).2 = true)
    (rest : rom.AllOk (rom.exec f c).1 f') : rom.AllOk f f' := by
  intro k le lt
  rcases le.eq_or_lt with rfl | later
  · exact (exec_ok_iff f c).mp ok
  · refine rest k ?_ lt
    rw [exec_calls, List.length_append]
    exact later

/-- What a sequence of calls leaves if none fails. -/
lemma execAll_ok {cs : List RomCall} {f : Chip} (ok : (rom.execAll cs f).2 = true) :
    (rom.execAll cs f).1 = ⟨cs.foldl (fun m c => c.apply rom m) f.mem, f.calls ++ cs⟩ ∧
      rom.AllOk f (rom.execAll cs f).1 := by
  induction cs generalizing f with
  | nil =>
    refine ⟨?_, fun k le lt => absurd le (Nat.not_le_of_gt lt)⟩
    simp only [execAll, List.foldl_nil, List.append_nil]
  | cons c cs ih =>
    rw [execAll] at ok ⊢
    split at ok
    · rename_i first
      obtain ⟨chip, rest⟩ := ih ok
      rw [if_pos first]
      refine ⟨?_, rest.cons first⟩
      rw [chip, exec_mem first, exec_calls, List.foldl_cons, List.append_assoc]
      rfl
    · cases ok

/-- A sequence of calls ends with the first that fails. -/
lemma execAll_failed {cs : List RomCall} {f : Chip} (bad : (rom.execAll cs f).2 = false) :
    ¬ rom.AllOk f (rom.execAll cs f).1 ∧ rom.StopsAtFailure f (rom.execAll cs f).1 := by
  induction cs generalizing f with
  | nil => cases bad
  | cons c cs ih =>
    have len : (rom.exec f c).1.calls.length = f.calls.length + 1 := by
      rw [exec_calls, List.length_append, List.length_singleton]
    rw [execAll] at bad ⊢
    split at bad
    · rename_i first
      obtain ⟨notOk, stops⟩ := ih bad
      rw [if_pos first]
      refine ⟨fun ok => notOk fun k le lt => ok k (by omega) lt, fun k le lt failed => ?_⟩
      rcases le.eq_or_lt with rfl | later
      · exact absurd ((exec_ok_iff f c).mp first) failed
      · exact stops k (by omega) lt failed
    · rename_i first
      rw [if_neg first]
      refine ⟨fun ok => first ((exec_ok_iff f c).mpr (ok _ le_rfl ?_)), fun k le lt _ => ?_⟩
      · rw [len]
        exact Nat.lt_succ_self _
      · simp only at lt ⊢
        omega

/-- Only the last of the calls may have failed. -/
lemma execAll_stops (cs : List RomCall) (f : Chip) :
    rom.StopsAtFailure f (rom.execAll cs f).1 := by
  cases ok : (rom.execAll cs f).2 with
  | true => exact fun k le lt failed => absurd ((execAll_ok ok).2 k le lt) failed
  | false => exact (execAll_failed ok).2

/-- A sequence of calls none of which fails. -/
lemma execAll_of_status {cs : List RomCall} {f : Chip}
    (ok : ∀ k < cs.length, rom.status (f.calls.length + k) = none) : (rom.execAll cs f).2 = true := by
  induction cs generalizing f with
  | nil => rfl
  | cons c cs ih =>
    have first := (exec_ok_iff f c).mpr (ok 0 (Nat.succ_pos _))
    rw [execAll, if_pos first]
    refine ih fun k lt => ?_
    rw [exec_calls, List.length_append, List.length_singleton, Nat.add_assoc, Nat.add_comm 1 k]
    exact ok (k + 1) (Nat.succ_lt_succ lt)

/-- All calls succeed as the driver has it. -/
lemma execAll_ok_iff {cs : List RomCall} {f : Chip} :
    (rom.execAll cs f).2 = true ↔ ∀ k < cs.length, rom.status (f.calls.length + k) = none := by
  refine ⟨fun ok k lt => ?_, execAll_of_status⟩
  obtain ⟨chip, all⟩ := execAll_ok ok
  refine all _ (Nat.le_add_right _ _) ?_
  rw [chip, List.length_append]
  omega

end XpiNor

end WlhHpm.Flash

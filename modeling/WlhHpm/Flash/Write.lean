import WlhHpm.Flash.Board
import WlhHpm.Lib.Tiling

/-!
# Program calls of a write

`write` cuts its range into the part of a page before the first page boundary and pieces of 256
bytes. `writeCalls` is the list of the calls it makes if none fails, and `write_tiles` says that they
tile the range page by page, in both ports.

The result of the first, unaligned piece is stored in an unsigned variable before it is tested for
being negative, so a failure of that piece goes unnoticed; failures in the loop are reported. A write
tells the truth exactly if its range begins at a page boundary or its first call succeeds
(`write_truthful_iff`).
-/

namespace WlhHpm.Flash

/-- The range of addresses that a call acts on. -/
def RomCall.range (rom : XpiNor) (c : RomCall) : Nat × Nat := (c.base rom, c.size rom)

/-- Size of the first, unaligned piece of a write. -/
def headSize (rom : XpiNor) (offset size : UInt32) : UInt32 :=
  if rom.pageSize - offset % rom.pageSize < size then rom.pageSize - offset % rom.pageSize else size

/-- The calls of the loop of `write`. -/
def pageCalls : Nat → UInt32 → Mem → UInt32 → List RomCall
  | 0, _, _, _ => []
  | fuel + 1, offset, buf, remaining =>
    if remaining > 0 then
      let writeSize := if remaining < 256 then remaining else 256
      .program offset (buf.toList writeSize.toNat) ::
        pageCalls fuel (offset + writeSize) (buf.shift writeSize.toNat) (remaining - writeSize)
    else []

/-- The call for the first, unaligned piece of a write. -/
def headCall (rom : XpiNor) (offset : UInt32) (buf : Mem) (size : UInt32) : RomCall :=
  .program offset (buf.toList (headSize rom offset size).toNat)

/-- The calls for what comes after the first, unaligned piece. -/
def tailCalls (rom : XpiNor) (offset : UInt32) (buf : Mem) (size : UInt32) : List RomCall :=
  let head := headSize rom offset size
  pageCalls (size - head).toNat (offset + head) (buf.shift head.toNat) (size - head)

/-- The calls of a write, if none fails. -/
def writeCalls (rom : XpiNor) (offset : UInt32) (buf : Mem) (size : UInt32) : List RomCall :=
  if offset % rom.pageSize ≠ 0 then headCall rom offset buf size :: tailCalls rom offset buf size
  else pageCalls size.toNat offset buf size

/-- What a write of an accepted range does to the chip, and whether its loop ended without a failure;
    the outcome of the first, unaligned piece is not looked at. -/
def writeRun (rom : XpiNor) (offset : UInt32) (buf : Mem) (size : UInt32) (f : Chip) : Chip × Bool :=
  if offset % rom.pageSize ≠ 0 then
    rom.execAll (tailCalls rom offset buf size) (rom.exec f (headCall rom offset buf size)).1
  else rom.execAll (pageCalls size.toNat offset buf size) f

/-- The loop of `write` makes its calls up to the first that fails. -/
lemma writeLoop_eq (rom : XpiNor) (fuel : Nat) (offset : UInt32) (buf : Mem) (remaining : UInt32)
    (f : Chip) :
    writeLoop rom fuel offset buf remaining f =
      rom.execAll (pageCalls fuel offset buf remaining) f := by
  induction fuel generalizing offset buf remaining f with
  | zero => rfl
  | succ fuel ih =>
    rw [writeLoop, pageCalls]
    split
    · simp only [XpiNor.execAll, ih]
    · rfl

section Run
variable {rom : XpiNor} {offset size : UInt32}

/-- What a write of an accepted range does, whatever error it may return. -/
lemma writeBody_eq {error : Int} {writePage : XpiNor → UInt32 → Mem → UInt32 → Chip → Chip × Int}
    (page : ∀ offset buf size f, (writePage rom offset buf size f).1 =
      (rom.exec f (.program offset (buf.toList size.toNat))).1)
    (accepted : ¬ Refused rom offset size) (buf : Mem) (f : Chip) :
    writeBody error writePage rom offset buf size f = ((writeRun rom offset buf size f).1,
      if (writeRun rom offset buf size f).2 then Word.toInt size else error) := by
  unfold Refused at accepted
  rw [writeBody, if_neg accepted]
  simp only [page, if_neg (not_lt_zero _), writeLoop_eq, ← headSize.eq_1]
  unfold writeRun tailCalls headCall
  split <;> rfl

/-- Unless the first, unaligned piece fails, a write is a sequence of calls up to the first failure. -/
lemma writeRun_eq {buf : Mem} {f : Chip}
    (ok : offset % rom.pageSize = 0 ∨ rom.status f.calls.length = none) :
    writeRun rom offset buf size f = rom.execAll (writeCalls rom offset buf size) f := by
  unfold writeRun writeCalls
  split
  · rename_i unaligned
    have first := (XpiNor.exec_ok_iff f (headCall rom offset buf size)).mpr (ok.resolve_left unaligned)
    rw [XpiNor.execAll, if_pos first]
  · rfl

end Run

/-! ## Tiling -/

/-- The call programs, inside one page, bytes of the buffer at their places; the buffer begins at
    address `base`. -/
def InPage (base : Nat) (buf : Mem) (c : RomCall) : Prop :=
  ∃ (o : UInt32) (n : Nat), c = .program o ((buf.shift (o.toNat - base)).toList n) ∧
    base ≤ o.toNat ∧ 0 < n ∧ n ≤ 256 ∧ o.toNat % 256 + n ≤ 256

/-- The range of a program call. -/
lemma range_program (rom : XpiNor) (o : UInt32) (buf : Mem) (n : Nat) :
    (RomCall.program o (buf.toList n)).range rom = (o.toNat, n) := by
  simp only [RomCall.range, RomCall.base, RomCall.size, Mem.toList_length]

/-- A piece of a range, and calls that tile the rest of it. -/
lemma tiles_piece {rom : XpiNor} {offset remaining ws : UInt32} (buf : Mem) {calls : List RomCall}
    (le : ws.toNat ≤ remaining.toNat) (nowrap : offset.toNat + remaining.toNat < 2 ^ 32)
    (rest : Tiles (offset + ws).toNat (calls.map (RomCall.range rom))
      ((offset + ws).toNat + (remaining - ws).toNat)) :
    Tiles offset.toNat ((RomCall.program offset (buf.toList ws.toNat) :: calls).map (RomCall.range rom))
      (offset.toNat + remaining.toNat) := by
  obtain ⟨e1, e2⟩ := rest_toNat le nowrap
  have total : offset.toNat + remaining.toNat = (offset + ws).toNat + (remaining - ws).toNat := by omega
  rw [List.map_cons, range_program, total]
  refine ⟨rfl, ?_⟩
  rw [e1] at rest ⊢
  exact rest

/-- The loop tiles its range from a page boundary on. -/
lemma pageCalls_tiles (rom : XpiNor) {fuel : Nat} {offset remaining : UInt32} (buf : Mem)
    {base : Nat} (from_base : base ≤ offset.toNat)
    (nowrap : offset.toNat + remaining.toNat < 2 ^ 32) (enough : remaining.toNat ≤ fuel)
    (aligned : offset.toNat % 256 = 0 ∨ remaining.toNat = 0) :
    Tiles offset.toNat
        ((pageCalls fuel offset (buf.shift (offset.toNat - base)) remaining).map (RomCall.range rom))
        (offset.toNat + remaining.toNat) ∧
      ∀ c ∈ pageCalls fuel offset (buf.shift (offset.toNat - base)) remaining, InPage base buf c := by
  induction fuel generalizing offset remaining with
  | zero =>
    refine ⟨?_, fun c mem => by cases mem⟩
    show offset.toNat = offset.toNat + remaining.toNat
    omega
  | succ fuel ih =>
    rw [pageCalls]
    split
    · rename_i pos
      simp only [gt_iff_lt, UInt32.lt_iff_toNat_lt, UInt32.reduceToNat] at pos
      have sz := writeSize_toNat remaining
      generalize (if remaining < 256 then remaining else (256 : UInt32)) = ws at sz ⊢
      obtain ⟨e1, e2⟩ := rest_toNat (show ws.toNat ≤ remaining.toNat by omega) nowrap
      have shift : (buf.shift (offset.toNat - base)).shift ws.toNat =
          buf.shift ((offset + ws).toNat - base) := by
        rw [Mem.shift_shift, e1]
        congr 1
        omega
      obtain ⟨tiles, inPage⟩ := @ih (offset + ws) (remaining - ws) (by omega) (by omega) (by omega)
        (by omega)
      simp only [shift]
      refine ⟨tiles_piece _ (by omega) nowrap tiles, fun c mem => ?_⟩
      rcases List.mem_cons.mp mem with rfl | mem
      · exact ⟨offset, ws.toNat, rfl, from_base, by omega, by omega, by omega⟩
      · exact inPage c mem
    · rename_i pos
      simp only [gt_iff_lt, UInt32.lt_iff_toNat_lt, UInt32.reduceToNat] at pos
      refine ⟨?_, fun c mem => by cases mem⟩
      show offset.toNat = offset.toNat + remaining.toNat
      omega

/-- Where the first, unaligned piece of a write ends. -/
lemma headSize_toNat (rom : XpiNor) (offset size : UInt32) :
    (headSize rom offset size).toNat = min (256 - offset.toNat % 256) size.toNat :=
  writePageSize_toNat rom offset size

/-- A page has 256 bytes. -/
lemma offsetInPage_eq_zero (rom : XpiNor) (offset : UInt32) :
    offset % rom.pageSize = 0 ↔ offset.toNat % 256 = 0 := by
  rw [← UInt32.toNat_inj, rom.page_eq, UInt32.toNat_mod]
  rfl

/-- The calls of a write tile its range page by page. -/
lemma writeCalls_tiles (rom : XpiNor) {offset size : UInt32} (buf : Mem) (pos : 0 < size.toNat)
    (nowrap : offset.toNat + size.toNat < 2 ^ 32) :
    Tiles offset.toNat ((writeCalls rom offset buf size).map (RomCall.range rom))
        (offset.toNat + size.toNat) ∧
      ∀ c ∈ writeCalls rom offset buf size, InPage offset.toNat buf c := by
  have start : buf.shift (offset.toNat - offset.toNat) = buf := by rw [Nat.sub_self, Mem.shift_zero]
  unfold writeCalls
  split
  · have head := headSize_toNat rom offset size
    unfold tailCalls headCall
    generalize headSize rom offset size = ws at head ⊢
    obtain ⟨e1, e2⟩ := rest_toNat (show ws.toNat ≤ size.toNat by omega) nowrap
    have shift : buf.shift ws.toNat = buf.shift ((offset + ws).toNat - offset.toNat) := by
      congr 1
      omega
    obtain ⟨tiles, inPage⟩ := @pageCalls_tiles rom (size - ws).toNat (offset + ws) (size - ws) buf
      offset.toNat (by omega) (by omega) le_rfl (by omega)
    rw [← shift] at tiles inPage
    refine ⟨tiles_piece _ (by omega) nowrap tiles, fun c mem => ?_⟩
    rcases List.mem_cons.mp mem with rfl | mem
    · refine ⟨offset, ws.toNat, ?_, le_rfl, by omega, by omega, by omega⟩
      rw [start]
    · exact inPage c mem
  · rename_i aligned
    rw [not_not, offsetInPage_eq_zero] at aligned
    have loop := @pageCalls_tiles rom size.toNat offset size buf offset.toNat le_rfl nowrap le_rfl
      (.inl aligned)
    rw [start] at loop
    exact loop

/-- Without failures, the calls of a write inside the chip tile its range in increasing order with the
    matching bytes of the buffer; none is empty, none is longer than the bounce buffer, and none
    crosses a page boundary. Both ports make the same calls. -/
theorem write_tiles (rom : XpiNor) (ok : rom.Healthy) (offset size : UInt32) (buf : Mem) (f : Chip)
    (nneg : ¬ Word.IsNeg offset) (pos : 0 < size.toNat)
    (fits : offset.toNat + size.toNat ≤ rom.totalSize.toNat) :
    ∃ calls, (write rom offset buf size f).1.calls = f.calls ++ calls ∧
      (Board.write rom offset buf size f).1.calls = f.calls ++ calls ∧
      Tiles offset.toNat (calls.map (RomCall.range rom)) (offset.toNat + size.toNat) ∧
      ∀ c ∈ calls, InPage offset.toNat buf c := by
  have accepted := accepted_of_fits nneg pos fits
  have lt := rom.totalSize.toNat_lt
  have run : writeRun rom offset buf size f = rom.execAll (writeCalls rom offset buf size) f :=
    writeRun_eq (.inr (ok _))
  have calls : (writeRun rom offset buf size f).1.calls = f.calls ++ writeCalls rom offset buf size := by
    rw [run, (XpiNor.execAll_ok (XpiNor.execAll_of_status fun _ _ => ok _)).1]
  refine ⟨writeCalls rom offset buf size, ?_, ?_, writeCalls_tiles rom buf pos (by omega)⟩
  · rw [write, writeBody_eq (fun _ _ _ _ => rfl) accepted]
    exact calls
  · rw [Board.write, writeBody_eq (fun _ _ _ _ => rfl) accepted]
    exact calls

/-- With all calls succeeding, a page and a half from the middle of a page on. -/
theorem write_tiles_unaligned :
    ∃ calls, (write Rom.sample 128 (fun _ => 0) 384 ⟨fun _ => 0xff, []⟩).1.calls = [] ++ calls ∧
      (Board.write Rom.sample 128 (fun _ => 0) 384 ⟨fun _ => 0xff, []⟩).1.calls = [] ++ calls ∧
      Tiles 128 (calls.map (RomCall.range Rom.sample)) (128 + 384) ∧
      ∀ c ∈ calls, InPage 128 (fun _ => 0) c :=
  write_tiles Rom.sample Rom.sample_healthy 128 384 (fun _ => 0) ⟨fun _ => 0xff, []⟩ (by decide)
    (by decide) (by decide)

/-! ## Truthfulness -/

/-- What a caller may conclude from the result of a write. -/
structure Truthful (rom : XpiNor) (offset : UInt32) (buf : Mem) (size : UInt32) (f : Chip)
    (r : Chip × Int) : Prop where
  /-- The size is returned only if every call succeeded and the whole range is programmed. -/
  honest : r.2 = size.toNat →
    rom.AllOk f r.1 ∧ r.1.mem = f.mem.program offset.toNat size.toNat buf
  negative : ¬ rom.AllOk f r.1 → r.2 < 0
  /-- No call is made after one that failed. -/
  stops : rom.StopsAtFailure f r.1

/-- Program calls that tile a range with the bytes of a buffer program the range. -/
lemma foldl_program {rom : XpiNor} {buf : Mem} {base a b : Nat} {calls : List RomCall}
    (tiles : Tiles a (calls.map (RomCall.range rom)) b) (inPage : ∀ c ∈ calls, InPage base buf c)
    (from_base : base ≤ a) (m : Mem) :
    calls.foldl (fun m c => c.apply rom m) (m.program base (a - base) buf) =
      m.program base (b - base) buf := by
  induction calls generalizing a with
  | nil =>
    cases tiles
    rfl
  | cons c calls ih =>
    obtain ⟨o, n, rfl, -, -, -, -⟩ := inPage c List.mem_cons_self
    rw [List.map_cons, range_program] at tiles
    obtain ⟨rfl, rest⟩ := tiles
    have later : ∀ c ∈ calls, InPage base buf c := fun c mem => inPage c (List.mem_cons_of_mem _ mem)
    rw [List.foldl_cons, RomCall.apply, program_toList]
    have place : o.toNat = base + (o.toNat - base) := by omega
    have longer : o.toNat - base + n = o.toNat + n - base := by omega
    rw [place, Nat.add_sub_cancel_left, program_append, longer]
    exact ih rest later (by omega)

section Truth
variable {rom : XpiNor} {offset size : UInt32} {buf : Mem} {f : Chip}

/-- A write whose first, unaligned piece does not fail tells the truth. -/
lemma truthful_of_head {error : Int} (neg : error < 0) (accepted : ¬ Refused rom offset size)
    (ok : offset.toNat % 256 = 0 ∨ rom.status f.calls.length = none) :
    Truthful rom offset buf size f ((writeRun rom offset buf size f).1,
      if (writeRun rom offset buf size f).2 then Word.toInt size else error) := by
  rw [writeRun_eq (ok.imp_left (offsetInPage_eq_zero rom offset).mpr)]
  refine ⟨fun result => ?_, fun failed => ?_, XpiNor.execAll_stops _ _⟩
  · obtain ⟨all, small⟩ := ok_of_result neg (result ▸ Int.natCast_nonneg _)
    obtain ⟨chip, allOk⟩ := XpiNor.execAll_ok all
    obtain ⟨nowrap, -⟩ := nowrap_of_accepted accepted small
    obtain ⟨tiles, inPage⟩ := writeCalls_tiles rom buf (pos_of_accepted accepted) nowrap
    have content := foldl_program tiles inPage le_rfl f.mem
    rw [Nat.sub_self, Nat.add_sub_cancel_left, Mem.program, Mem.patch_zero] at content
    exact ⟨allOk, by rw [chip, content]⟩
  · cases all : (rom.execAll (writeCalls rom offset buf size) f).2 with
    | true => exact absurd (XpiNor.execAll_ok all).2 failed
    | false => exact neg

/-- The loop makes a call if anything is left. -/
lemma pageCalls_ne_nil {fuel : Nat} {offset remaining : UInt32} {buf : Mem}
    (some : 0 < remaining.toNat) (enough : remaining.toNat ≤ fuel) :
    pageCalls fuel offset buf remaining ≠ [] := by
  obtain ⟨fuel, rfl⟩ := Nat.exists_eq_succ_of_ne_zero (show fuel ≠ 0 by omega)
  have pos : remaining > 0 := UInt32.lt_iff_toNat_lt.mpr some
  rw [pageCalls, if_pos pos]
  exact List.cons_ne_nil _ _

/-- At least one call is made. -/
lemma execAll_calls_lt {cs : List RomCall} (some : cs ≠ []) (f : Chip) :
    f.calls.length < (rom.execAll cs f).1.calls.length := by
  cases ok : (rom.execAll cs f).2 with
  | true =>
    rw [(XpiNor.execAll_ok ok).1, List.length_append]
    have pos := List.length_pos_of_ne_nil some
    omega
  | false =>
    by_contra le
    refine (XpiNor.execAll_failed ok).1 fun k from_f lt => ?_
    omega

/-- If the first, unaligned piece fails, a write is not truthful. -/
lemma not_truthful_of_head {error : Int} (unaligned : offset.toNat % 256 ≠ 0)
    (failed : rom.status f.calls.length ≠ none) :
    ¬ Truthful rom offset buf size f ((writeRun rom offset buf size f).1,
      if (writeRun rom offset buf size f).2 then Word.toInt size else error) := by
  have cut : offset % rom.pageSize ≠ 0 := mt (offsetInPage_eq_zero rom offset).mp unaligned
  have len : (rom.exec f (headCall rom offset buf size)).1.calls.length = f.calls.length + 1 := by
    rw [exec_calls, List.length_append, List.length_singleton]
  have head := headSize_toNat rom offset size
  unfold writeRun
  rw [if_pos cut]
  intro truthful
  by_cases rest : (size - headSize rom offset size).toNat = 0
  · -- nothing is left for the loop, and the write returns the size
    have none : tailCalls rom offset buf size = [] := by
      simp only [tailCalls, rest, pageCalls]
    have whole : size.toNat = (headSize rom offset size).toNat := by
      rw [UInt32.toNat_sub] at rest
      have lt := size.toNat_lt
      omega
    have int : Word.toInt size = size.toNat := by
      rw [Word.toInt, if_pos (by omega)]
    have all := (truthful.honest (by rw [none]; exact int)).1
    refine failed (all _ le_rfl ?_)
    rw [none]
    exact len ▸ Nat.lt_succ_self _
  · -- the loop makes another call
    have more : f.calls.length + 1 < (rom.execAll (tailCalls rom offset buf size)
        (rom.exec f (headCall rom offset buf size)).1).1.calls.length := by
      rw [← len]
      exact execAll_calls_lt (pageCalls_ne_nil (Nat.pos_of_ne_zero rest) le_rfl) _
    have last := truthful.stops _ le_rfl ((Nat.lt_succ_self _).trans more) failed
    simp only at last
    omega

end Truth

/-- A write of an accepted range tells the truth, in both ports and whatever calls fail, exactly if the
    range begins at a page boundary or its first call succeeds. -/
theorem write_truthful_iff (rom : XpiNor) (offset : UInt32) (buf : Mem) (size : UInt32) (f : Chip)
    (accepted : ¬ Refused rom offset size) :
    (Truthful rom offset buf size f (write rom offset buf size f) ↔
      offset.toNat % 256 = 0 ∨ rom.status f.calls.length = none) ∧
    (Truthful rom offset buf size f (Board.write rom offset buf size f) ↔
      offset.toNat % 256 = 0 ∨ rom.status f.calls.length = none) := by
  rw [write, Board.write, writeBody_eq (fun _ _ _ _ => rfl) accepted,
    writeBody_eq (fun _ _ _ _ => rfl) accepted]
  have both {error : Int} (neg : error < 0) :
      Truthful rom offset buf size f ((writeRun rom offset buf size f).1,
          if (writeRun rom offset buf size f).2 then Word.toInt size else error) ↔
        offset.toNat % 256 = 0 ∨ rom.status f.calls.length = none := by
    refine ⟨fun truthful => ?_, truthful_of_head neg accepted⟩
    by_contra bad
    obtain ⟨unaligned, failed⟩ := not_or.mp bad
    exact not_truthful_of_head unaligned failed truthful
  exact ⟨both (by decide), both (by decide)⟩

/-- A driver whose first call fails and leaves its range as it was. -/
def XpiNor.faulty : XpiNor := { Rom.sample with status := fun n => if n = 0 then some fun _ => 0xff else none }

/-- A failure of the first call at a page boundary is reported. -/
theorem write_truthful_aligned :
    Truthful .faulty 256 (fun _ => 0) 300 ⟨fun _ => 0xff, []⟩
        (write .faulty 256 (fun _ => 0) 300 ⟨fun _ => 0xff, []⟩) ∧
      Truthful .faulty 256 (fun _ => 0) 300 ⟨fun _ => 0xff, []⟩
        (Board.write .faulty 256 (fun _ => 0) 300 ⟨fun _ => 0xff, []⟩) := by
  have iff := write_truthful_iff .faulty 256 (fun _ => 0) 300 ⟨fun _ => 0xff, []⟩ (by decide)
  exact ⟨iff.1.mpr (.inl (by decide)), iff.2.mpr (.inl (by decide))⟩

/-- One byte at offset 1: its call fails, nothing is programmed, and the write returns 1. -/
theorem write_failure_unnoticed :
    ¬ Refused .faulty 1 1 ∧
      (write .faulty 1 (fun _ => 0) 1 ⟨fun _ => 0xff, []⟩).2 = 1 ∧
      (Board.write .faulty 1 (fun _ => 0) 1 ⟨fun _ => 0xff, []⟩).2 = 1 ∧
      (write .faulty 1 (fun _ => 0) 1 ⟨fun _ => 0xff, []⟩).1.mem 1 = 0xff ∧
      ¬ Truthful .faulty 1 (fun _ => 0) 1 ⟨fun _ => 0xff, []⟩
        (write .faulty 1 (fun _ => 0) 1 ⟨fun _ => 0xff, []⟩) := by
  have result : (write .faulty 1 (fun _ => 0) 1 ⟨fun _ => 0xff, []⟩).2 = 1 := by decide +kernel
  have one : (write .faulty 1 (fun _ => 0) 1 ⟨fun _ => 0xff, []⟩).1.calls.length = 1 := by
    decide +kernel
  refine ⟨by decide, result, by decide +kernel, by decide +kernel, fun truthful => ?_⟩
  have ok := (truthful.honest result).1 0 (Nat.zero_le _) (one ▸ Nat.one_pos)
  cases ok

end WlhHpm.Flash

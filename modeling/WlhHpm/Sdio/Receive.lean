import WlhHpm.Lib.Run
import WlhHpm.Lib.Word
import WlhHpm.Sdio.Moves

/-!
# Counting received bytes

The coprocessor counts the bytes of all packets in a register of 20 bits, and `read_frame` takes the
length of the next packet from the difference to `rx_byte_count`. `rx_byte_count` is set to the value
of the register on the one exit of `read_frame` that hands over a frame. So it is the sum of the
lengths of the frames handed over since the last start, modulo `2^20`, however many readings and
transfers have failed in between (`Accounted`), and a packet of `d` bytes is read with length `d`
(`rx_byte_count_accounts`).
-/

namespace WlhHpm.Sdio
open State

/-! ## Lengths -/

/-- The remainder of a counter of 20 bits. -/
lemma toNat_and_length (x : UInt32) : (x &&& (0x100000 - 1)).toNat = x.toNat % 2 ^ 20 :=
  Word.toNat_and_mask x _ 20 rfl

/-- The difference of two readings of the counter. -/
lemma toNat_delta (previous current : UInt32) :
    (((current &&& (0x100000 - 1)) + 0x100000 - (previous &&& (0x100000 - 1))) % 0x100000).toNat =
      (current.toNat % 2 ^ 20 + 2 ^ 20 - previous.toNat % 2 ^ 20) % 2 ^ 20 := by
  have sum : ((current &&& (0x100000 - 1)) + 0x100000).toNat = current.toNat % 2 ^ 20 + 2 ^ 20 := by
    rw [UInt32.toNat_add, toNat_and_length]
    simp only [UInt32.reduceToNat]
    omega
  have le : previous &&& (0x100000 - 1) ≤ (current &&& (0x100000 - 1)) + 0x100000 := by
    rw [UInt32.le_iff_toNat_le, sum, toNat_and_length]
    omega
  rw [UInt32.toNat_mod, UInt32.toNat_sub_of_le _ _ le, sum, toNat_and_length]
  rfl

/-- A length that was read leads from the old value of the counter to the new one. -/
lemma accumulatedLength_some {headerSize previous current length : UInt32}
    (eq : wlhRttSdioAccumulatedLength headerSize previous current = some length) :
    current.toNat % 2 ^ 20 = (previous.toNat + length.toNat) % 2 ^ 20 ∧ length.toNat ≤ 4092 := by
  simp only [wlhRttSdioAccumulatedLength] at eq
  split at eq
  · cases eq
  · split at eq
    · cases eq
    · rename_i bounds
      obtain rfl := Option.some_inj.mp eq
      rw [not_or, gt_iff_lt, UInt32.not_lt, UInt32.not_lt, UInt32.le_iff_toNat_le,
        UInt32.le_iff_toNat_le] at bounds
      refine ⟨?_, bounds.2⟩
      rw [toNat_delta]
      omega

/-- A packet of `d` bytes is read with length `d`, also when the counter wraps. -/
lemma accumulatedLength_eq {headerSize previous current : UInt32} {d : Nat}
    (least : headerSize.toNat ≤ d) (most : d ≤ 4092) (small : current.toNat < 2 ^ 20)
    (adds : current.toNat = (previous.toNat + d) % 2 ^ 20) :
    wlhRttSdioAccumulatedLength headerSize previous current = some (UInt32.ofNat d) := by
  have toNat : (UInt32.ofNat d).toNat = d := by
    rw [UInt32.toNat_ofNat']
    omega
  have delta : ((current &&& (0x100000 - 1)) + 0x100000 - (previous &&& (0x100000 - 1))) % 0x100000 =
      UInt32.ofNat d := by
    rw [← UInt32.toNat_inj, toNat_delta, toNat]
    omega
  have valid : current ≠ 0xffffffff := by
    rintro rfl
    exact absurd small (by decide)
  have bounds : ¬ (UInt32.ofNat d < headerSize ∨ UInt32.ofNat d > 4092) := by
    rw [not_or, UInt32.not_lt, gt_iff_lt, UInt32.not_lt, UInt32.le_iff_toNat_le,
      UInt32.le_iff_toNat_le, toNat]
    exact ⟨least, most⟩
  simp only [wlhRttSdioAccumulatedLength, delta]
  rw [if_neg valid, if_neg bounds]

/-- A transfer of a frame fills whole blocks and fits the staging buffer. -/
lemma paddedSize_fits {length : UInt32} (most : length.toNat ≤ 4092) :
    length.toNat ≤ (wlhRttSdioPaddedSize length).toNat ∧
      (wlhRttSdioPaddedSize length).toNat ≤ 4096 := by
  by_cases pos : length = 0
  · rw [pos]
    decide
  have le : ¬ (length = 0 ∨ length > 4092) := by
    rw [not_or, gt_iff_lt, UInt32.not_lt, UInt32.le_iff_toNat_le]
    exact ⟨pos, most⟩
  have sum : (length + 512 - 1).toNat = length.toNat + 511 := by
    have add : (length + 512).toNat = length.toNat + 512 := by
      rw [UInt32.toNat_add]
      simp only [UInt32.reduceToNat]
      omega
    have one : (1 : UInt32) ≤ length + 512 := by
      rw [UInt32.le_iff_toNat_le, add]
      exact Nat.le_add_left ..
    rw [UInt32.toNat_sub_of_le _ _ one, add]
    rfl
  rw [wlhRttSdioPaddedSize, if_neg le, Word.toNat_and_not_mask _ (512 - 1) 9 (by decide), sum]
  omega

/-! ## Accounts -/

/-- The register value and the length of a packet that `read_frame` is about to take in. -/
def WorkerPc.pending : WorkerPc → Option (UInt32 × UInt32)
  | .rx _ (.data _ packet length) => some (packet, length)
  | .rx _ (.clear _ packet length) => some (packet, length)
  | _ => none

/-- The step sets `rx_byte_count` to zero: a start, or a soft reset of the coprocessor. -/
def Rezeroes (s : State) : Act → Prop
  | .startStep n _ => s.starts[n]? = some .commit
  | .resetStep n reply => s.resets[n]? = some .write ∧ reply.error = rtEok
  | _ => False

/-- The bytes of the frames handed to `wlh_rtt_host_input`, without the first `base` frames. -/
def handed (base : Nat) (s : State) : Nat := ((s.inputs.drop base).map UInt32.toNat).sum

/-- The counter has the bytes handed over, and a pending packet leads to its register value. -/
structure Accounted (base : Nat) (s : State) : Prop where
  since : base ≤ s.inputs.length
  count : s.transport.rxByteCount.toNat = handed base s % 2 ^ 20
  pending : ∀ packet length, s.worker.pending = some (packet, length) →
    packet.toNat % 2 ^ 20 = (s.transport.rxByteCount.toNat + length.toNat) % 2 ^ 20

section Accounted
variable {p : Platform} {base : Nat} {s s' : State} {a : Act}

/-- A step that neither hands over a frame nor changes the counter. -/
lemma Accounted.of_eq (acc : Accounted base s) (inputs : s'.inputs = s.inputs)
    (count : s'.transport.rxByteCount = s.transport.rxByteCount)
    (pending : ∀ packet length, s'.worker.pending = some (packet, length) →
      packet.toNat % 2 ^ 20 = (s.transport.rxByteCount.toNat + length.toNat) % 2 ^ 20) :
    Accounted base s' where
  since := by
    rw [inputs]
    exact acc.since
  count := by
    rw [handed, inputs, count]
    exact acc.count
  pending := by
    rw [count]
    exact pending

/-- The worker is not inside `read_frame` with a length. -/
lemma Accounted.of_none (acc : Accounted base s) (inputs : s'.inputs = s.inputs)
    (count : s'.transport.rxByteCount = s.transport.rxByteCount) (none : s'.worker.pending = none) :
    Accounted base s' := by
  apply acc.of_eq inputs count
  intro packet length some
  rw [none] at some
  cases some

/-- A step of `drain_rx` keeps the account. -/
lemma RxMove.accounted {burst : Nat} {pc : RxPc} (at_pc : s.worker = .rx burst pc)
    (move : RxMove p s burst pc s') (acc : Accounted base s) : Accounted base s' := by
  cases move with
  | length eq =>
    refine acc.of_eq rfl rfl ?_
    intro packet length some
    obtain ⟨rfl, rfl⟩ := Prod.mk.inj (Option.some_inj.mp some)
    exact (accumulatedLength_some eq).1
  | data =>
    refine acc.of_eq rfl rfl ?_
    intro packet length some
    apply acc.pending
    rw [at_pc]
    exact some
  | @input interrupt packet length =>
    -- the one exit that hands over a frame: the counter moves on by its length
    have leads := acc.pending packet length (by rw [at_pc]; rfl)
    constructor
    · simp only [List.length_append]
      exact acc.since.trans (Nat.le_add_right ..)
    · have sum : handed base { s.goto s.transport s.worker with inputs := s.inputs ++ [length] } =
          handed base s + length.toNat := by
        simp only [handed, List.drop_append_of_le_length acc.since, List.map_append, List.sum_append,
          List.map_cons, List.map_nil, List.sum_singleton]
      show (packet &&& (0x100000 - 1)).toNat =
        handed base { s.goto s.transport s.worker with inputs := s.inputs ++ [length] } % 2 ^ 20
      rw [sum, toNat_and_length, leads, acc.count, Nat.mod_add_mod]
    · intro packet' length' some
      cases some
  | failed _ next =>
    refine acc.of_none rfl rfl ?_
    rcases next with rfl | rfl
    · rfl
    · rfl
  | enter | leave | packet => exact acc.of_none rfl rfl rfl

/-- A step of the worker keeps the account. -/
lemma WorkerMove.accounted (move : WorkerMove p s s') (acc : Accounted base s) :
    Accounted base s' := by
  cases move with
  | wait => exact acc
  | rx at_pc rx => exact rx.accounted at_pc acc
  | tx _ tx => cases tx <;> exact acc.of_none rfl rfl rfl
  | take | stopped | running | lock | unlock => exact acc.of_none rfl rfl rfl

/-- Nothing but a start or a reset changes the counter behind the worker's back. -/
lemma Move.rxByteCount_eq (move : Move p s a s') (kept : ¬ Rezeroes s a) :
    s'.transport.rxByteCount = s.transport.rxByteCount := by
  cases move with
  | submitted _ submit => cases submit <;> rfl
  | stopped _ stop => cases stop <;> rfl
  | started at_pc start =>
    cases start with
    | commit => exact absurd at_pc kept
    | _ => rfl
  | reset at_pc reset =>
    cases reset with
    | written eok => exact absurd ⟨at_pc, eok⟩ kept
    | _ => rfl
  | _ => rfl

/-- Every step that does not set the counter to zero keeps the account. -/
lemma Accounted.step (acc : Accounted base s) (kept : ¬ Rezeroes s a) :
    Accounted base (step p s a) := by
  rcases step_move (p := p) (s := s) a with ⟨reply, rfl, move⟩ | move
  · exact move.accounted acc
  · obtain ⟨worker, inputs⟩ := move.worker_eq
    refine acc.of_eq inputs (move.rxByteCount_eq kept) ?_
    rw [worker]
    exact acc.pending

/-- The counter is zero after a start, and so are the bytes handed over since then. -/
lemma Accounted.commit {n : Nat} (at_pc : s.starts[n]? = some .commit) (reply : Reply)
    (idle : s.worker.pending = none) :
    Accounted s.inputs.length (State.step p s (.startStep n reply)) := by
  simp only [State.step, startStep, at_pc]
  constructor
  · exact Nat.le_refl _
  · simp only [setStart, handed, List.drop_length]
    rfl
  · intro packet length some
    simp only [setStart] at some
    rw [idle] at some
    cases some

end Accounted

/-- What the counter is good for: it has the bytes handed over since the first `base` frames, and a
    packet that makes the coprocessor's count exceed them by `d` is read with length `d` and fits the
    staging buffer. -/
structure Reads (p : Platform) (base : Nat) (s : State) : Prop where
  count : s.transport.rxByteCount.toNat = handed base s % 2 ^ 20
  length : ∀ burst interrupt d reply, s.worker = .rx burst (.length interrupt) →
    p.headerSize.toNat ≤ d → d ≤ 4092 → reply.error = rtEok →
    reply.value.toNat = (handed base s + d) % 2 ^ 20 →
    (step p s (.worker reply)).worker = .rx burst (.data interrupt reply.value (UInt32.ofNat d)) ∧
      (UInt32.ofNat d).toNat = d ∧ d ≤ (wlhRttSdioPaddedSize (UInt32.ofNat d)).toNat ∧
      (wlhRttSdioPaddedSize (UInt32.ofNat d)).toNat ≤ 4096

/-- A counter that has the bytes handed over gives the right lengths. -/
lemma Accounted.reads {p : Platform} {base : Nat} {s : State} (acc : Accounted base s) :
    Reads p base s where
  count := acc.count
  length := by
    intro burst interrupt d reply at_pc least most eok register
    have toNat : (UInt32.ofNat d).toNat = d := by
      rw [UInt32.toNat_ofNat']
      omega
    have fits := paddedSize_fits (show (UInt32.ofNat d).toNat ≤ 4092 by rw [toNat]; exact most)
    rw [toNat] at fits
    refine ⟨?_, toNat, fits⟩
    have adds : reply.value.toNat = (s.transport.rxByteCount.toNat + d) % 2 ^ 20 := by
      rw [acc.count, Nat.mod_add_mod]
      exact register
    have small : reply.value.toNat < 2 ^ 20 := by
      rw [register]
      exact Nat.mod_lt _ (by decide)
    have length := accumulatedLength_eq least most small adds
    simp only [State.step, workerStep, at_pc, rxStep, eok, ne_eq, not_true_eq_false, if_false, length, goto]

/-- After a start that does not fall into a read of the worker, and until the next start or soft
    reset, `rx_byte_count` is the sum of the lengths of the frames handed over, modulo `2^20`,
    whatever the registers read and whatever fails. -/
theorem rx_byte_count_accounts (p : Platform) {s₀ : State} {n : Nat}
    (started : s₀.starts[n]? = some .commit) (idle : s₀.worker.pending = none) (reply : Reply)
    (acts : List Act)
    (kept : Along (step p) (fun s a => ¬ Rezeroes s a) (step p s₀ (.startStep n reply)) acts) :
    Reads p s₀.inputs.length (acts.foldl (step p) (step p s₀ (.startStep n reply))) :=
  (kept.invariant (I := Accounted s₀.inputs.length) (fun _ _ acc => acc.step)
    (.commit started reply idle)).reads

/-- A frame of 64 bytes is handed over after an invalid reading of the register, and the next one has
    the worker at its length. -/
theorem rx_byte_count_accounts_retry :
    let s₀ := run (.code 16) [.probe ⟨0x6666, 1, some (1, 0x2222)⟩, .start, .startStep 0 {},
      .startStep 0 {}, .startStep 0 {}, .startStep 0 {}, .startStep 0 {}]
    let acts : List Act := [.worker {}, .worker {}, .worker {}, .worker {},
      .worker { value := 0x800000 }, .worker { value := 0xffffffff }, .worker {},
      .worker { value := 0x800000 }, .worker { value := 64 }, .worker {}, .worker {}, .worker {},
      .worker { value := 0x800000 }]
    s₀.starts[0]? = some .commit ∧
      (acts.foldl (step (.code 16)) (step (.code 16) s₀ (.startStep 0 {}))).worker =
        .rx 2 (.length 0x800000) ∧
      Reads (.code 16) s₀.inputs.length
        (acts.foldl (step (.code 16)) (step (.code 16) s₀ (.startStep 0 {}))) := by
  refine ⟨by decide, by decide, rx_byte_count_accounts _ (by decide) (by decide) _ _ ?_⟩
  simp only [Along, Rezeroes, not_false_eq_true, and_self]

end WlhHpm.Sdio

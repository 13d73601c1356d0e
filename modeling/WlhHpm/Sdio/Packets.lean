import WlhHpm.Sdio.Receive
import WlhHpm.Sdio.Wakeup

/-!
# Packets from the coprocessor

`Wire` is the transport with the coprocessor behind the bus. The coprocessor offers packets one at a
time: it adds the length to its byte count, sets the `NEW_PACKET` bit and raises the interrupt. It may
offer the next packet as soon as the bytes of the last one have been transferred. The bus does not
fail, and what the worker reads is what the coprocessor has: the bit, the count, and the bytes that
were not transferred yet. Writing `INT_CLEAR` clears the bits written.

`read_frame` reads the count before the transfer and clears the bit after it. A packet that is offered
in between has its bit cleared without having been read, and the worker, which looks at the bit first,
never reads it (`packet_stranded`). In all other runs every packet is handed over, in order and byte
for byte, and none is left when the worker waits (`packets_delivered`).
-/

namespace WlhHpm.Sdio
open State

/-! ## Reading a frame from a bus that answers -/

section Reading
variable {p : Platform} {s : State} {burst : Nat} {reply : Reply}

/-- The bit is clear. -/
lemma workerStep_status_clear (at_pc : s.worker = .rx burst .status) (eok : reply.error = rtEok)
    (none : reply.value &&& 0x800000 = 0) :
    s.workerStep p reply = s.goto { s.transport with invalidStreak := 0 } (.tx 0 .loop) := by
  simp only [workerStep, at_pc, rxStep, eok, ne_eq, not_true_eq_false, if_false, none, if_true,
    drainRx]

/-- The bit is set. -/
lemma workerStep_status_set (at_pc : s.worker = .rx burst .status) (eok : reply.error = rtEok)
    (some : reply.value &&& 0x800000 ≠ 0) :
    s.workerStep p reply = s.goto s.transport (.rx burst (.length reply.value)) := by
  simp only [workerStep, at_pc, rxStep, eok, ne_eq, not_true_eq_false, if_false, some]

/-- The worker has read the length of a packet. -/
lemma workerStep_length {interrupt length : UInt32} (at_pc : s.worker = .rx burst (.length interrupt))
    (eok : reply.error = rtEok)
    (some : wlhRttSdioAccumulatedLength p.headerSize s.transport.rxByteCount reply.value =
      some length) :
    s.workerStep p reply = s.goto s.transport (.rx burst (.data interrupt reply.value length)) := by
  simp only [workerStep, at_pc, rxStep, eok, ne_eq, not_true_eq_false, if_false, some]

/-- The worker has read a packet. -/
lemma workerStep_data {interrupt packet length : UInt32}
    (at_pc : s.worker = .rx burst (.data interrupt packet length)) (eok : reply.error = rtEok)
    (valid : reply.valid = true) :
    s.workerStep p reply = s.goto s.transport (.rx burst (.clear interrupt packet length)) := by
  simp only [workerStep, at_pc, rxStep, eok, ne_eq, not_true_eq_false, if_false, valid,
    Bool.true_eq_false]

/-- The worker has cleared the interrupt and hands the packet over. -/
lemma workerStep_clear {interrupt packet length : UInt32}
    (at_pc : s.worker = .rx burst (.clear interrupt packet length)) (eok : reply.error = rtEok) :
    ∃ stats, s.workerStep p reply =
      { s.goto { s.transport with
          rxByteCount := packet &&& (0x100000 - 1), invalidStreak := 0, stats := stats }
        (.rx (burst + 1) .loop) with inputs := s.inputs ++ [length] } := by
  simp only [workerStep, at_pc, rxStep, eok, ne_eq, not_true_eq_false, if_false, drainRx]
  rw [if_neg (by decide), if_neg (by decide)]
  exact ⟨_, rfl⟩

end Reading

/-! ## The machine -/

/-- The transport, and of the coprocessor: the packets offered, the number of bytes transferred, the
    `NEW_PACKET` bit. `staging` has the last transfer, and `handed` the frames that were passed to
    `wlh_rtt_host_input`. -/
structure Wire where
  state : State
  offered : List (List UInt8)
  read : Nat
  bit : Bool
  staging : List UInt8
  handed : List (List UInt8)

/-- The worker is between the transfer and the clearing of the interrupt. -/
def WorkerPc.clearing : WorkerPc → Bool
  | .rx _ (.clear _ _ _) => true
  | _ => false

namespace Wire

inductive Act where
  | offer (packet : List UInt8)
  | worker (reply : Reply)
  | submit (args : TxArgs)
  | submitStep (n : Nat)
  | irq

/-- The bytes offered so far. -/
def total (c : Wire) : Nat := c.offered.flatten.length

/-- What the coprocessor answers to the worker inside `drain_rx`; elsewhere the answer is free. -/
def answer (c : Wire) (reply : Reply) : Reply :=
  match c.state.worker with
  | .rx _ .status =>
    { reply with
      error := rtEok
      value := if c.bit then reply.value ||| 0x800000 else reply.value &&& ~~~0x800000 }
  | .rx _ (.length _) => { reply with error := rtEok, value := UInt32.ofNat (c.total % 2 ^ 20) }
  | .rx _ _ => { reply with error := rtEok, valid := true }
  | _ => reply

/-- What the step of the worker does on the side of the coprocessor and of Core. -/
def transfer (c : Wire) : Wire :=
  match c.state.worker with
  | .rx _ (.data _ _ length) =>
    { c with
      staging := (c.offered.flatten.drop c.read).take length.toNat
      read := c.read + length.toNat }
  | .rx _ (.clear interrupt _ length) =>
    { c with
      bit := c.bit && decide (interrupt &&& 0x800000 = 0)
      handed := c.handed ++ [c.staging.take length.toNat] }
  | _ => c

/-- One step. An offer before the last packet has been transferred, or of something that is no frame
    of at most 4092 bytes, does not happen. -/
def step (p : Platform) (c : Wire) : Act → Wire
  | .offer packet =>
    if c.read = c.total ∧ packet ≠ [] ∧ p.headerSize.toNat ≤ packet.length ∧ packet.length ≤ 4092 then
      { c with offered := c.offered ++ [packet], bit := true, state := c.state.sdioIrq }
    else c
  | .worker reply => { c.transfer with state := c.state.workerStep p (c.answer reply) }
  | .submit args => { c with state := c.state.step p (.submit args) }
  | .submitStep n => { c with state := c.state.step p (.submitStep n) }
  | .irq => { c with state := c.state.step p .irq }

/-- The coprocessor after a start. -/
def started (p : Platform) (s : State) (n : Nat) (reply : Reply) : Wire :=
  ⟨s.step p (.startStep n reply), [], 0, false, [], []⟩

/-- The frames handed over are the packets offered, in order, and a worker that waits without a count
    has read them all. -/
structure Delivered (c : Wire) : Prop where
  order : c.handed <+: c.offered
  blocked : c.state.worker = .take → c.state.transport.wake = 0 →
    c.handed = c.offered ∧ c.read = c.total

def Act.isOffer : Act → Bool
  | .offer _ => true
  | _ => false

/-- No packet is offered between a transfer and the clearing of its interrupt. -/
def Timely (c : Wire) (a : Act) : Prop := a.isOffer = true → c.state.worker.clearing = false

instance (c : Wire) (a : Act) : Decidable (c.Timely a) := inferInstanceAs (Decidable (_ → _))

end Wire

/-- The worker has taken a count and will look at the bit. -/
def WorkerPc.looking : WorkerPc → Bool
  | .check => true
  | .lock => true
  | .rx 0 _ => true
  | _ => false

/-- Inside one round of `drain_rx` it does not matter where the worker is. -/
lemma WorkerPc.looking_rx (burst : Nat) (pc pc' : RxPc) :
    (WorkerPc.rx burst pc').looking = (WorkerPc.rx burst pc).looking := by
  cases burst <;> rfl

/-! ## The invariant -/

namespace Wire

/-- The worker has not begun to read a packet. -/
def Unread (pc : WorkerPc) : Prop :=
  ∀ burst rx, pc = .rx burst rx → rx = .loop ∨ rx = .status

/-- Where a packet is. -/
inductive Phase (c : Wire) : Prop where
  /-- Every packet has been handed over. -/
  | quiet : c.offered = c.handed → c.read = c.total → c.bit = false → Unread c.state.worker → Phase c
  /-- A packet has been offered: its bit is set, and the worker has a count for it. -/
  | offered (packet : List UInt8) : c.offered = c.handed ++ [packet] →
    c.read = c.handed.flatten.length → c.bit = true →
    c.state.transport.wake ≠ 0 ∨ c.state.worker.looking = true →
    (∀ burst interrupt, c.state.worker = .rx burst (.length interrupt) →
      interrupt &&& 0x800000 ≠ 0) →
    (∀ burst interrupt value length, c.state.worker = .rx burst (.data interrupt value length) →
      interrupt &&& 0x800000 ≠ 0 ∧ length.toNat = packet.length ∧
        value.toNat = c.total % 2 ^ 20) →
    c.state.worker.clearing = false → Phase c
  /-- It has been transferred, and the interrupt is not cleared yet. -/
  | taken (packet : List UInt8) (burst : Nat) (interrupt value length : UInt32) :
    c.offered = c.handed ++ [packet] → c.read = c.total →
    c.state.worker = .rx burst (.clear interrupt value length) → interrupt &&& 0x800000 ≠ 0 →
    length.toNat = packet.length → value.toNat = c.total % 2 ^ 20 →
    c.staging.take length.toNat = packet → Phase c

/-- The invariant of runs in which packets are offered in time. -/
structure Inv (p : Platform) (c : Wire) : Prop where
  running : c.state.transport.running = true
  sizes : ∀ packet ∈ c.offered,
    packet ≠ [] ∧ p.headerSize.toNat ≤ packet.length ∧ packet.length ≤ 4092
  count : c.state.transport.rxByteCount.toNat = c.handed.flatten.length % 2 ^ 20
  phase : c.Phase

variable {p : Platform} {c : Wire}

/-- The invariant has what is asked of the packets. -/
lemma Inv.delivered (inv : c.Inv p) : c.Delivered := by
  cases inv.phase with
  | quiet all read =>
    exact ⟨by rw [all], fun _ _ => ⟨all.symm, read⟩⟩
  | offered packet one _ _ count =>
    refine ⟨⟨[packet], one.symm⟩, fun blocked zero => ?_⟩
    rcases count with pos | looks
    · exact absurd zero pos
    · rw [blocked] at looks
      cases looks
  | taken packet burst interrupt value length one _ at_pc =>
    refine ⟨⟨[packet], one.symm⟩, fun blocked => ?_⟩
    rw [at_pc] at blocked
    cases blocked

/-! ## Steps of the worker -/

/-- The worker goes on outside `read_frame`: it touches neither the flag nor the byte count, does not
    begin to read, and does not lose a count before it has looked at the bit. -/
structure Outside (s s' : State) : Prop where
  running : s'.transport.running = s.transport.running
  count : s'.transport.rxByteCount = s.transport.rxByteCount
  unread : Unread s'.worker
  awake : s.transport.wake ≠ 0 ∨ s.worker.looking = true →
    s'.transport.wake ≠ 0 ∨ s'.worker.looking = true

section Outside
variable {s s' : State}

/-- Inside `drain_tx` the worker has used its count, and takes no other. -/
lemma Outside.tx {burst : Nat} {pc : TxPc} (at_pc : s.worker = .tx burst pc)
    (move : TxMove p s burst pc s') : Outside s s' := by
  have used : s.transport.wake ≠ 0 ∨ s.worker.looking = true → s.transport.wake ≠ 0 := by
    rw [at_pc]
    rintro (pos | looks)
    · exact pos
    · cases looks
  have unread : ∀ burst rx, s'.worker = .rx burst rx → rx = .loop ∨ rx = .status := by
    intro burst rx at_rx
    cases move <;> cases at_rx
  have same : s'.transport.running = s.transport.running ∧
      s'.transport.rxByteCount = s.transport.rxByteCount ∧
      s'.transport.wake = s.transport.wake := by
    cases move <;> exact ⟨rfl, rfl, rfl⟩
  refine ⟨same.1, same.2.1, unread, fun awake => .inl ?_⟩
  rw [same.2.2]
  exact used awake

/-- At the head of the loop of `drain_rx`: the first time round the worker goes on to the bit. -/
lemma Outside.rx {burst : Nat} (at_pc : s.worker = .rx burst .loop)
    (move : RxMove p s burst .loop s') (run : s.transport.running = true) : Outside s s' := by
  cases move with
  | enter =>
    refine ⟨rfl, rfl, ?_, ?_⟩
    · rintro _ _ ⟨⟩
      exact .inr rfl
    · rw [at_pc]
      cases burst with
      | zero => exact fun _ => .inr rfl
      | succ burst => exact fun awake => awake
  | leave done =>
    refine ⟨rfl, rfl, ?_, ?_⟩
    · rintro _ _ ⟨⟩
    · rw [at_pc]
      cases burst with
      | zero => exact absurd ⟨by decide, run⟩ done
      | succ burst => exact fun awake => awake
  | failed inside => exact absurd rfl inside

/-- A step of the worker outside `read_frame` is of this kind. -/
lemma Outside.worker (move : WorkerMove p s s') (run : s.transport.running = true)
    (loop : ∀ burst rx, s.worker = .rx burst rx → rx = .loop) : Outside s s' := by
  cases move with
  | wait => exact ⟨rfl, rfl, fun burst rx at_rx => .inl (loop burst rx at_rx), id⟩
  | take => exact ⟨rfl, rfl, by rintro _ _ ⟨⟩, fun _ => .inr rfl⟩
  | stopped _ halted =>
    rw [run] at halted
    cases halted
  | running => exact ⟨rfl, rfl, by rintro _ _ ⟨⟩, fun _ => .inr rfl⟩
  | lock =>
    refine ⟨rfl, rfl, ?_, fun _ => .inr rfl⟩
    rintro _ _ ⟨⟩
    exact .inl rfl
  | rx at_pc rx =>
    cases loop _ _ at_pc
    exact .rx at_pc rx run
  | tx at_pc tx => exact .tx at_pc tx
  | unlock at_pc =>
    refine ⟨rfl, rfl, by rintro _ _ ⟨⟩, ?_⟩
    rw [at_pc]
    exact id

end Outside

/-- Outside `read_frame` the coprocessor takes no part. -/
lemma step_outside (loop : ∀ burst rx, c.state.worker = .rx burst rx → rx = .loop) (reply : Reply) :
    ∃ s', WorkerMove p c.state s' ∧ c.step p (.worker reply) = { c with state := s' } := by
  refine ⟨c.state.workerStep p (c.answer reply), workerStep_move _, ?_⟩
  have same : c.transfer = c := by
    simp only [transfer]
    split
    · rename_i at_pc
      cases loop _ _ at_pc
    · rename_i at_pc
      cases loop _ _ at_pc
    · rfl
  simp only [step, same]

/-- Such a step keeps the invariant. -/
lemma Inv.outside (inv : c.Inv p) (loop : ∀ burst rx, c.state.worker = .rx burst rx → rx = .loop)
    (reply : Reply) : (c.step p (.worker reply)).Inv p := by
  obtain ⟨s', move, eq⟩ := step_outside loop reply
  have out := Outside.worker move inv.running loop
  rw [eq]
  constructor
  case running => exact out.running.trans inv.running
  case sizes => exact inv.sizes
  case count =>
    simp only [out.count]
    exact inv.count
  case phase =>
    cases inv.phase with
    | quiet all read bit => exact .quiet all read bit out.unread
    | offered packet one read bit awake =>
      refine .offered packet one read bit (out.awake awake) ?_ ?_ ?_
      · intro burst interrupt at_pc
        rcases out.unread _ _ at_pc with bad | bad
        · cases bad
        · cases bad
      · intro burst interrupt value length at_pc
        rcases out.unread _ _ at_pc with bad | bad
        · cases bad
        · cases bad
      · simp only
        cases at_pc : s'.worker with
        | rx burst rx =>
          rcases out.unread _ _ at_pc with rfl | rfl
          · rfl
          · rfl
        | _ => rfl
    | taken packet burst interrupt value length one read at_pc => cases loop _ _ at_pc

/-- The look at the interrupt register keeps the invariant. -/
lemma Inv.status (inv : c.Inv p) {burst : Nat} (at_pc : c.state.worker = .rx burst .status)
    (reply : Reply) : (c.step p (.worker reply)).Inv p := by
  have transfer : c.transfer = c := by simp only [Wire.transfer, at_pc]
  cases inv.phase with
  | quiet all read bit =>
    have next := workerStep_status_clear (p := p) (s := c.state) at_pc
      (show (c.answer reply).error = rtEok by simp only [answer, at_pc])
      (by simp only [answer, at_pc, bit, Bool.false_eq_true, if_false]
          exact Word.and_not_and_self ..)
    simp only [step, transfer, next]
    refine ⟨inv.running, inv.sizes, inv.count, .quiet all read bit ?_⟩
    rintro _ _ ⟨⟩
  | offered packet one read bit awake =>
    have set : (c.answer reply).value &&& 0x800000 ≠ 0 := by
      simp only [answer, at_pc, bit, if_true]
      rw [Word.or_and_self]
      decide
    have next := workerStep_status_set (p := p) (s := c.state) at_pc
      (show (c.answer reply).error = rtEok by simp only [answer, at_pc]) set
    simp only [step, transfer, next]
    refine ⟨inv.running, inv.sizes, inv.count, .offered packet one read bit ?_ ?_ ?_ rfl⟩
    · rw [at_pc] at awake
      exact awake.imp_right (WorkerPc.looking_rx ..).trans
    · rintro _ _ ⟨⟩
      exact set
    · rintro _ _ _ _ ⟨⟩
  | taken packet burst interrupt value length one read at_clear =>
    rw [at_pc] at at_clear
    cases at_clear

/-- The packet is at the end of the bytes offered. -/
lemma total_eq {packet : List UInt8} (one : c.offered = c.handed ++ [packet]) :
    c.total = c.handed.flatten.length + packet.length := by
  rw [total, one, List.flatten_append, List.length_append, List.flatten_singleton]

/-- The length of the packet that was offered is read. -/
lemma Inv.length (inv : c.Inv p) {burst : Nat} {interrupt : UInt32}
    (at_pc : c.state.worker = .rx burst (.length interrupt)) (reply : Reply) :
    (c.step p (.worker reply)).Inv p := by
  have transfer : c.transfer = c := by simp only [Wire.transfer, at_pc]
  cases inv.phase with
  | quiet all read bit unread =>
    rcases unread _ _ at_pc with bad | bad
    · cases bad
    · cases bad
  | offered packet one read bit awake at_length =>
    obtain ⟨-, least, most⟩ := inv.sizes packet (by rw [one]; exact List.mem_concat_self)
    have value : (c.answer reply).value.toNat = c.total % 2 ^ 20 := by
      simp only [answer, at_pc]
      rw [UInt32.toNat_ofNat']
      omega
    have small : (c.answer reply).value.toNat < 2 ^ 20 := by
      rw [value]
      exact Nat.mod_lt _ (by decide)
    have adds : (c.answer reply).value.toNat =
        (c.state.transport.rxByteCount.toNat + packet.length) % 2 ^ 20 := by
      rw [value, total_eq one, inv.count, Nat.mod_add_mod]
    have next := workerStep_length (p := p) at_pc
      (show (c.answer reply).error = rtEok by simp only [answer, at_pc])
      (accumulatedLength_eq least most small adds)
    simp only [step, transfer, next]
    refine ⟨inv.running, inv.sizes, inv.count, .offered packet one read bit ?_ ?_ ?_ rfl⟩
    · rw [at_pc] at awake
      exact awake.imp_right (WorkerPc.looking_rx ..).trans
    · rintro _ _ ⟨⟩
    · rintro _ _ _ _ ⟨⟩
      refine ⟨at_length _ _ at_pc, ?_, value⟩
      rw [UInt32.toNat_ofNat']
      omega
  | taken packet burst interrupt value length one read at_clear =>
    rw [at_pc] at at_clear
    cases at_clear

/-- The bytes of the packet are transferred. -/
lemma Inv.data (inv : c.Inv p) {burst : Nat} {interrupt value length : UInt32}
    (at_pc : c.state.worker = .rx burst (.data interrupt value length)) (reply : Reply) :
    (c.step p (.worker reply)).Inv p := by
  have next := workerStep_data (p := p) at_pc
    (show (c.answer reply).error = rtEok by simp only [answer, at_pc])
    (by simp only [answer, at_pc])
  cases inv.phase with
  | quiet all read bit unread =>
    rcases unread _ _ at_pc with bad | bad
    · cases bad
    · cases bad
  | offered packet one read bit awake at_length at_data =>
    obtain ⟨set, len, val⟩ := at_data _ _ _ _ at_pc
    have rest : c.offered.flatten.drop c.read = packet := by
      rw [one, read, List.flatten_append, List.drop_left, List.flatten_singleton]
    simp only [step, Wire.transfer, at_pc, next]
    refine ⟨inv.running, inv.sizes, inv.count,
      .taken packet burst interrupt value length one ?_ rfl set len val ?_⟩
    · show c.read + length.toNat = c.total
      rw [total_eq one, read, len]
    · show ((c.offered.flatten.drop c.read).take length.toNat).take length.toNat = packet
      rw [rest, len, List.take_length, List.take_length]
  | taken packet burst interrupt value length one read at_clear =>
    rw [at_pc] at at_clear
    cases at_clear

/-- The interrupt is cleared, and the packet handed over. -/
lemma Inv.clear (inv : c.Inv p) {burst : Nat} {interrupt value length : UInt32}
    (at_pc : c.state.worker = .rx burst (.clear interrupt value length)) (reply : Reply) :
    (c.step p (.worker reply)).Inv p := by
  obtain ⟨stats, next⟩ := workerStep_clear (p := p) at_pc
    (show (c.answer reply).error = rtEok by simp only [answer, at_pc])
  cases inv.phase with
  | quiet all read bit unread =>
    rcases unread _ _ at_pc with bad | bad
    · cases bad
    · cases bad
  | offered packet one read bit awake _ _ off =>
    rw [at_pc] at off
    cases off
  | taken packet burst interrupt value length one read at_clear set len val staged =>
    rw [at_pc] at at_clear
    cases at_clear
    simp only [step, Wire.transfer, at_pc, next]
    refine ⟨inv.running, inv.sizes, ?_, .quiet ?_ read ?_ ?_⟩
    · show (value &&& (0x100000 - 1)).toNat =
        (c.handed ++ [c.staging.take length.toNat]).flatten.length % 2 ^ 20
      rw [staged, ← one, toNat_and_length, val, Nat.mod_mod]
      rfl
    · show c.offered = c.handed ++ [c.staging.take length.toNat]
      rw [staged, one]
    · show (c.bit && decide (interrupt &&& 0x800000 = 0)) = false
      rw [decide_eq_false set, Bool.and_false]
    · rintro _ _ ⟨⟩
      exact .inl rfl

/-- Every step of the worker keeps the invariant. -/
lemma Inv.worker (inv : c.Inv p) (reply : Reply) : (c.step p (.worker reply)).Inv p := by
  cases at_pc : c.state.worker with
  | rx burst rx =>
    cases rx with
    | loop =>
      refine inv.outside ?_ reply
      rw [at_pc]
      rintro _ _ ⟨⟩
      rfl
    | status => exact inv.status at_pc reply
    | length interrupt => exact inv.length at_pc reply
    | data interrupt value length => exact inv.data at_pc reply
    | clear interrupt value length => exact inv.clear at_pc reply
  | _ =>
    refine inv.outside ?_ reply
    rw [at_pc]
    rintro _ _ ⟨⟩

/-! ## Runs -/

/-- Steps of other threads that leave the worker and the byte count alone, and take no count. -/
lemma Inv.other (inv : c.Inv p) {s' : State} (worker : s'.worker = c.state.worker)
    (running : s'.transport.running = c.state.transport.running)
    (count : s'.transport.rxByteCount = c.state.transport.rxByteCount)
    (wake : c.state.transport.wake ≤ s'.transport.wake) : Inv p { c with state := s' } := by
  constructor
  case running => exact running.trans inv.running
  case sizes => exact inv.sizes
  case count =>
    simp only [count]
    exact inv.count
  case phase =>
    cases inv.phase with
    | quiet all read bit unread => exact .quiet all read bit (by simp only [worker]; exact unread)
    | offered packet one read bit awake at_length at_data off =>
      refine .offered packet one read bit ?_ ?_ ?_ ?_
      · simp only [worker]
        exact awake.imp_left fun pos => by omega
      · simp only [worker]
        exact at_length
      · simp only [worker]
        exact at_data
      · simp only [worker]
        exact off
    | taken packet burst interrupt value length one read at_clear set len val staged =>
      exact .taken packet burst interrupt value length one read (worker.trans at_clear) set len val
        staged

/-- A packet is offered. -/
lemma Inv.offer (inv : c.Inv p) {packet : List UInt8} (read : c.read = c.total)
    (size : packet ≠ [] ∧ p.headerSize.toNat ≤ packet.length ∧ packet.length ≤ 4092)
    (timely : c.state.worker.clearing = false) :
    Inv p { c with offered := c.offered ++ [packet], bit := true, state := c.state.sdioIrq } := by
  constructor
  case running => exact inv.running
  case sizes =>
    intro packet' mem
    rcases List.mem_append.mp mem with old | new
    · exact inv.sizes packet' old
    · rw [List.mem_singleton.mp new]
      exact size
  case count => exact inv.count
  case phase =>
    cases inv.phase with
    | quiet all _ bit unread =>
      have awake : (rtSemRelease c.state.transport.wake) ≠ 0 := by
        simp only [rtSemRelease]
        split <;> omega
      refine .offered packet (by rw [all]) ?_ rfl (.inl awake) ?_ ?_ timely
      · show c.read = c.handed.flatten.length
        rw [read, total, all]
      · intro burst interrupt at_pc
        rcases unread _ _ at_pc with bad | bad
        · cases bad
        · cases bad
      · intro burst interrupt value length at_pc
        rcases unread _ _ at_pc with bad | bad
        · cases bad
        · cases bad
    | offered last one unread =>
      -- the last packet has bytes, which have not been transferred
      obtain ⟨some, -⟩ := inv.sizes last (by rw [one]; exact List.mem_concat_self)
      have pos := List.length_pos_iff.mpr some
      rw [unread, total_eq one] at read
      omega
    | taken last burst interrupt value length one _ at_clear =>
      rw [at_clear] at timely
      cases timely

/-- Every step keeps the invariant, if packets are offered in time. -/
lemma Inv.step (inv : c.Inv p) {a : Act} (timely : c.Timely a) : (c.step p a).Inv p := by
  cases a with
  | offer packet =>
    simp only [Wire.step]
    split
    · rename_i ok
      exact inv.offer ok.1 ok.2 (timely rfl)
    · exact inv
  | worker reply => exact inv.worker reply
  | submit args => exact inv.other rfl rfl rfl (Nat.le_refl _)
  | submitStep n =>
    have move := submitStep_move (p := p) (s := c.state) (n := n)
    simp only [Wire.step, State.step]
    revert move
    generalize c.state.submitStep p n = s'
    intro move
    cases move with
    | idle => exact inv.other rfl rfl rfl (Nat.le_refl _)
    | submitted _ submit =>
      cases submit with
      | released => exact inv.other rfl rfl rfl (le_rtSemRelease _)
      | _ => exact inv.other rfl rfl rfl (Nat.le_refl _)
  | irq => exact inv.other rfl rfl rfl (le_rtSemRelease _)

/-- The invariant holds when a start has ended. -/
lemma Inv.started {s : State} {n : Nat} (commit : s.starts[n]? = some .commit)
    (outside : ∀ burst rx, s.worker ≠ .rx burst rx) (reply : Reply) :
    (started p s n reply).Inv p := by
  simp only [Wire.started, State.step, startStep, commit]
  refine ⟨rfl, fun packet mem => ?_, rfl, .quiet rfl rfl rfl fun burst rx at_pc => ?_⟩
  · cases mem
  · exact absurd at_pc (outside burst rx)

/-- After a start that finds the worker outside `drain_rx`, in every run in which no packet is offered
    between the transfer of the last one and the clearing of its interrupt, the frames handed over are
    the packets offered, in order, and a worker that waits has left none unread. -/
theorem packets_delivered (p : Platform) {s : State} {n : Nat} (commit : s.starts[n]? = some .commit)
    (outside : ∀ burst rx, s.worker ≠ .rx burst rx) (reply : Reply) (acts : List Act)
    (timely : Along (step p) Timely (started p s n reply) acts) :
    (acts.foldl (step p) (started p s n reply)).Delivered :=
  (timely.invariant (I := Inv p) (fun _ _ inv => inv.step) (.started commit outside reply)).delivered

/-- The transport before the end of a start. -/
def starting : State :=
  State.run (.code 16) [.probe ⟨0x6666, 1, some (1, 0x2222)⟩, .start, .startStep 0 {},
    .startStep 0 {}, .startStep 0 {}, .startStep 0 {}, .startStep 0 {}]

def frame (byte : UInt8) : List UInt8 := List.replicate 16 byte

/-- Two packets are offered, the second one after the interrupt of the first one was cleared. -/
theorem packets_delivered_two :
    let acts := .offer (frame 1) :: List.replicate 8 (.worker {}) ++ .offer (frame 2) ::
      List.replicate 24 (.worker {})
    (acts.foldl (step (.code 16)) (started (.code 16) starting 0 {})).handed = [frame 1, frame 2] ∧
      (acts.foldl (step (.code 16)) (started (.code 16) starting 0 {})).Delivered := by
  refine ⟨by decide +kernel, packets_delivered _ (by decide) ?_ _ _ (by decide +kernel)⟩
  rintro burst rx ⟨⟩

/-- The second packet is offered between the transfer of the first one and the clearing of its
    interrupt: in the end the worker waits without a count, and the packet has not been read. -/
theorem packet_stranded :
    ¬ (List.foldl (step (.code 16)) (started (.code 16) starting 0 {})
      (.offer (frame 1) :: List.replicate 7 (.worker {}) ++ .offer (frame 2) ::
        List.replicate 24 (.worker {}))).Delivered := by
  intro delivered
  exact absurd (delivered.blocked (by decide +kernel) (by decide +kernel)).1 (by decide +kernel)

end Wire

end WlhHpm.Sdio

import WlhHpm.Sdio.Credit

/-!
# Tokens of frames that are not written

`wait_for_token` takes a token before `write_frame` puts the frame on the bus, and nothing gives it back
if the bus refuses the frame. `Ledger` puts two numbers beside the transport: the frames that the bus
has taken since a start, and the value of `tx_buffer_count` when the job at hand began. A coprocessor
that uses up no buffer for a write that fails agrees with the host as long as `tx_buffer_count` is the
number of frames that the bus has taken; it is so exactly as long as no write fails
(`credit_conserved_iff`).

The machine is that of `Sdio/Transport.lean`, under all steps but those of another start and of a soft
reset, which set the counter back. Jobs come out of the queue or are given to `drain_tx` as they are,
whatever `rt_mq_recv` returns for a message.
-/

namespace WlhHpm.Sdio
open State

/-- The worker has a job in hand and has not taken a token for it. -/
def WorkerPc.waiting : WorkerPc → Bool
  | .tx _ (.generation _) => true
  | .tx _ (.frame _) => true
  | .tx _ (.token _ _) => true
  | .tx _ (.poll _ _) => true
  | _ => false

/-- The step may set the counter back. -/
def Act.restarts : Act → Bool
  | .startStep _ _ => true
  | .resetStep _ _ => true
  | _ => false

/-- The transport, the frames that the bus has taken since a start, and the counter when the job at
    hand began. -/
structure Ledger where
  state : State
  sent : Nat
  before : UInt32

namespace Ledger

/-- Frames that the bus takes in a step. -/
def taken (s : State) : Act → Nat
  | .worker reply => if s.worker.putting = true ∧ reply.error = rtEok then 1 else 0
  | _ => 0

/-- The counter when the job at hand began. -/
def begun (before : UInt32) (s : State) : UInt32 :=
  match s.worker with
  | .tx _ (.generation _) => s.transport.txBufferCount
  | _ => before

/-- One step; a job is not begun inside another. -/
def step (p : Platform) (l : Ledger) : Input → Ledger
  | .job m =>
    if l.state.worker.inJob then l
    else { l with state := l.state.takeJob m, before := l.state.transport.txBufferCount }
  | .step a =>
    if a.restarts then l
    else
      { state := l.state.step p a
        sent := l.sent + taken l.state a
        before := begun l.before (l.state.step p a) }

/-- The ledger at a start. -/
def started (p : Platform) (s : State) (n : Nat) (reply : Reply) : Ledger :=
  ⟨s.step p (.startStep n reply), 0, 0⟩

/-- No token is lost. -/
structure Conserved (l : Ledger) : Prop where
  /-- The counter is the number of frames taken, but between taking a token and the end of the write. -/
  count : l.state.worker.putting = false →
    l.state.transport.txBufferCount.toNat = l.sent % 4096
  /-- A job completed with an error leaves the counter as it was. -/
  kept : ∀ burst m result, l.state.worker = .tx burst (.done m result) → result ≠ rtEok →
    l.state.transport.txBufferCount = l.before

/-- The bus answers the step with an error. -/
def busFails : Input → Bool
  | .step (.worker reply) => decide (reply.error ≠ rtEok)
  | _ => false

/-- A bus write in this step succeeds. -/
def WriteOk (l : Ledger) (a : Input) : Prop := l.state.worker.putting = true → busFails a = false

instance (l : Ledger) (a : Input) : Decidable (l.WriteOk a) := inferInstanceAs (Decidable (_ → _))

/-! ## The invariant -/

/-- The counter is the number of frames taken and of one that is about to be, and has not changed since
    the job at hand began if the job has no token or has ended with an error. -/
structure Inv (l : Ledger) : Prop where
  count : l.state.transport.txBufferCount.toNat =
    (l.sent + if l.state.worker.putting then 1 else 0) % 4096
  waiting : l.state.worker.waiting = true → l.state.transport.txBufferCount = l.before
  kept : ∀ burst m result, l.state.worker = .tx burst (.done m result) → result ≠ rtEok →
    l.state.transport.txBufferCount = l.before

variable {p : Platform} {l : Ledger}

/-- The invariant has what is asked of the counter. -/
lemma Inv.conserved (inv : l.Inv) : l.Conserved where
  count := fun off => by
    have count := inv.count
    rwa [off] at count
  kept := inv.kept

/-- Outside of jobs only the number of frames matters. -/
lemma Inv.idle {s : State} {sent : Nat} (before : UInt32) (outside : s.worker.inJob = false)
    (count : s.transport.txBufferCount.toNat = sent % 4096) : Inv ⟨s, sent, before⟩ := by
  have off : s.worker.putting = false ∧ s.worker.waiting = false := by
    revert outside
    cases s.worker with
    | tx burst pc => cases pc <;> simp [WorkerPc.inJob, WorkerPc.putting, WorkerPc.waiting]
    | _ => simp [WorkerPc.inJob, WorkerPc.putting, WorkerPc.waiting]
  refine ⟨?_, fun waits => ?_, fun burst m result done => ?_⟩
  · simp only [off.1]
    exact count
  · rw [off.2] at waits
    cases waits
  · simp only at done
    rw [done] at outside
    cases outside

/-- A job that has no token yet. -/
lemma Inv.hold {s : State} {sent : Nat} {before : UInt32} (waits : s.worker.waiting = true)
    (count : s.transport.txBufferCount.toNat = sent % 4096)
    (same : s.transport.txBufferCount = before) : Inv ⟨s, sent, before⟩ := by
  have off : s.worker.putting = false := by
    revert waits
    cases s.worker with
    | tx burst pc => cases pc <;> simp [WorkerPc.putting, WorkerPc.waiting]
    | _ => simp [WorkerPc.putting]
  refine ⟨?_, fun _ => same, fun _ _ _ _ _ => same⟩
  simp only [off]
  exact count

/-- The invariant holds when a start has ended. -/
lemma Inv.started {s : State} {n : Nat} (commit : s.starts[n]? = some .commit)
    (outside : s.worker.inJob = false) (reply : Reply) : (started p s n reply).Inv := by
  have next : s.step p (.startStep n reply) = s.setStart n
      { s.transport with
        rxByteCount := 0
        txBufferCount := 0
        invalidStreak := 0
        generation := s.transport.generation + 1
        running := true
        wake := rtSemRelease s.transport.wake }
      (.returned rtEok) := by
    simp only [State.step, startStep, commit]
  rw [Ledger.started, next]
  exact .idle 0 outside rfl

/-- Inside `drain_rx` the counter does not change, and no job is begun. -/
lemma rxMove_idle {s s' : State} {burst : Nat} {pc : RxPc} (move : RxMove p s burst pc s') :
    s'.worker.inJob = false ∧ s'.transport.txBufferCount = s.transport.txBufferCount := by
  cases move with
  | failed inside next =>
    rcases next with rfl | rfl
    · exact ⟨rfl, rfl⟩
    · exact ⟨rfl, rfl⟩
  | _ => exact ⟨rfl, rfl⟩

/-- A step of the worker is one outside of `drain_tx`, or one of `drain_tx`. -/
lemma workerMove_cases {s s' : State} (move : WorkerMove p s s') :
    (s.worker.inJob = false ∧ s'.worker.inJob = false ∧
        s'.transport.txBufferCount = s.transport.txBufferCount) ∨
      ∃ burst pc, s.worker = .tx burst pc ∧ TxMove p s burst pc s' := by
  cases move with
  | wait at_pc =>
    rcases at_pc with at_pc | at_pc
    · exact .inl ⟨by rw [at_pc]; rfl, by rw [at_pc]; rfl, rfl⟩
    · exact .inl ⟨by rw [at_pc]; rfl, by rw [at_pc]; rfl, rfl⟩
  | rx at_pc move => exact .inl ⟨by rw [at_pc]; rfl, rxMove_idle move⟩
  | tx at_pc move => exact .inr ⟨_, _, at_pc, move⟩
  | take at_pc => exact .inl ⟨by rw [at_pc]; rfl, rfl, rfl⟩
  | stopped at_pc => exact .inl ⟨by rw [at_pc]; rfl, rfl, rfl⟩
  | running at_pc => exact .inl ⟨by rw [at_pc]; rfl, rfl, rfl⟩
  | lock at_pc => exact .inl ⟨by rw [at_pc]; rfl, rfl, rfl⟩
  | unlock at_pc => exact .inl ⟨by rw [at_pc]; rfl, rfl, rfl⟩

/-- Every other thread leaves the worker and the counter alone. -/
lemma move_idle {s s' : State} {a : Act} (move : Move p s a s') (on : a.restarts = false) :
    s'.worker = s.worker ∧ s'.transport.txBufferCount = s.transport.txBufferCount := by
  cases move with
  | submitted _ move => cases move <;> exact ⟨rfl, rfl⟩
  | stopped _ move => cases move <;> exact ⟨rfl, rfl⟩
  | started => cases on
  | reset => cases on
  | _ => exact ⟨rfl, rfl⟩

/-- The bus takes no frame from a worker that puts none on it. -/
lemma taken_eq_zero {s : State} (off : s.worker.putting = false) (a : Act) : taken s a = 0 := by
  cases a with
  | worker reply => simp only [taken, off, Bool.false_eq_true, false_and, if_false]
  | _ => rfl

/-- A frame is put on the bus in one place only. -/
lemma putting_cases {pc : WorkerPc} (on : pc.putting = true) : ∃ burst m, pc = .tx burst (.write m) := by
  cases pc with
  | tx burst pc =>
    cases pc with
    | write m => exact ⟨burst, m, rfl⟩
    | _ => cases on
  | _ => cases on

/-- A job that has ended with an error and without a token. -/
lemma Inv.refused {t : Transport} {s : State} {sent : Nat} {before : UInt32} {burst : Nat} {m : Message}
    {error : Int} (count : t.txBufferCount.toNat = sent % 4096) (same : t.txBufferCount = before) :
    Inv ⟨s.goto t (.tx burst (.done m error)), sent, before⟩ :=
  ⟨count, fun waits => Bool.noConfusion waits, fun _ _ _ _ _ => same⟩

/-- A step of the worker that does not end a bus write. -/
lemma Inv.worker_off (inv : l.Inv) (off : l.state.worker.putting = false) {s' : State}
    (move : WorkerMove p l.state s') : Inv ⟨s', l.sent, begun l.before s'⟩ := by
  have count := inv.count
  rw [off] at count
  have held (waits : l.state.worker.waiting = true) := inv.waiting waits
  rcases workerMove_cases move with ⟨-, outside, same⟩ | ⟨burst, pc, at_pc, move⟩
  · exact .idle _ outside (same ▸ count)
  · rw [at_pc] at off held
    cases move with
    | enter => exact .idle _ rfl count
    | leave => exact .idle _ rfl count
    | empty => exact .idle _ rfl count
    | dropped => exact .idle _ rfl count
    | received => exact .hold rfl count rfl
    | stale => exact .refused count (held rfl)
    | fresh => exact .hold rfl count (held rfl)
    | invalid => exact .refused count (held rfl)
    | frame => exact .hold rfl count (held rfl)
    | timeout => exact .refused count (held rfl)
    | token => exact .hold rfl count (held rfl)
    | failed => exact .refused count (held rfl)
    | retry => exact .hold rfl count (held rfl)
    | taken =>
      refine ⟨toNat_nextToken count, fun waits => ?_, fun _ _ _ done => ?_⟩
      · cases waits
      · cases done
    | written => cases off
    | done => exact .idle _ rfl count

/-- The step that ends a bus write. -/
lemma workerStep_write {s : State} {burst : Nat} {m : Message} (at_pc : s.worker = .tx burst (.write m))
    (reply : Reply) :
    s.workerStep p reply = s.goto s.transport (.tx burst (.done m reply.error)) := by
  simp only [workerStep, at_pc, txStep]

/-- A step of another thread. -/
lemma Inv.other (inv : l.Inv) {s' : State} (worker : s'.worker = l.state.worker)
    (count : s'.transport.txBufferCount = l.state.transport.txBufferCount) :
    Inv ⟨s', l.sent, begun l.before s'⟩ := by
  have same : begun l.before s' = l.before := by
    unfold begun
    split
    · rename_i burst m at_pc
      rw [count]
      exact inv.waiting (by rw [← worker, at_pc]; rfl)
    · rfl
  rw [same]
  refine ⟨?_, ?_, ?_⟩
  · simp only [worker, count]
    exact inv.count
  · simp only [worker, count]
    exact inv.waiting
  · simp only [worker, count]
    exact inv.kept

/-- The step that ends a bus write keeps the counter, and counts the frame if the bus has taken it. -/
lemma step_write {burst : Nat} {m : Message} (at_pc : l.state.worker = .tx burst (.write m))
    (reply : Reply) :
    l.step p (.step (.worker reply)) =
      ⟨l.state.goto l.state.transport (.tx burst (.done m reply.error)),
        l.sent + (if reply.error = rtEok then 1 else 0), l.before⟩ := by
  have put : l.state.worker.putting = true := by
    rw [at_pc]
    rfl
  simp only [Ledger.step, Act.restarts, Bool.false_eq_true, if_false, State.step, taken, put, true_and,
    workerStep_write at_pc]
  rfl

/-- A step in which no bus write fails keeps the invariant. -/
lemma Inv.step (inv : l.Inv) {a : Input} (ok : l.WriteOk a) : (l.step p a).Inv := by
  cases a with
  | job m =>
    simp only [Ledger.step]
    split
    · exact inv
    · rename_i outside
      have count := inv.count
      have off : l.state.worker.putting = false := by
        by_contra on
        obtain ⟨burst, m, at_pc⟩ := putting_cases (Bool.not_eq_false _ ▸ on)
        exact outside (by rw [at_pc]; rfl)
      rw [off] at count
      exact .hold rfl count rfl
  | step a =>
    by_cases worker : ∃ reply, a = .worker reply
    · obtain ⟨reply, rfl⟩ := worker
      by_cases put : l.state.worker.putting = true
      · obtain ⟨burst, m, at_pc⟩ := putting_cases put
        have count := inv.count
        rw [put] at count
        have eok : reply.error = rtEok := by simpa [busFails] using ok put
        rw [step_write at_pc, eok]
        refine ⟨count, fun waits => ?_, fun _ _ _ done failed => ?_⟩
        · cases waits
        · cases done
          exact absurd rfl failed
      · rw [Bool.not_eq_true] at put
        simp only [Ledger.step, Act.restarts, Bool.false_eq_true, if_false, taken_eq_zero put,
          Nat.add_zero]
        exact inv.worker_off put (workerStep_move reply)
    · simp only [Ledger.step]
      split
      · exact inv
      · rename_i on
        have none : taken l.state a = 0 := by
          cases a with
          | worker reply => exact absurd ⟨reply, rfl⟩ worker
          | _ => rfl
        rcases step_move (p := p) (s := l.state) a with ⟨reply, eq, -⟩ | move
        · exact absurd ⟨reply, eq⟩ worker
        · obtain ⟨same, count⟩ := move_idle move (Bool.not_eq_true _ ▸ on)
          rw [none]
          exact inv.other same count

/-- A bus write that fails loses its token. -/
lemma Inv.lost (inv : l.Inv) {a : Input} (failed : ¬ l.WriteOk a) : ¬ (l.step p a).Conserved := by
  obtain ⟨put, fails⟩ := Classical.not_imp.mp failed
  cases a with
  | job m => exact absurd rfl fails
  | step a =>
    cases a with
    | worker reply =>
      have error : reply.error ≠ rtEok := by simpa [busFails] using fails
      obtain ⟨burst, m, at_pc⟩ := putting_cases put
      intro conserved
      have after := conserved.count (by rw [step_write at_pc]; rfl)
      have before := inv.count
      rw [step_write at_pc] at after
      simp only [goto, if_neg error, put, if_true] at after before
      omega
    | _ => exact absurd rfl fails

/-- After a start that does not fall into a job, through any jobs and any other steps, no token is lost
    exactly as long as no bus write fails. -/
theorem credit_conserved_iff (p : Platform) (s : State) (n : Nat) (commit : s.starts[n]? = some .commit)
    (outside : s.worker.inJob = false) (reply : Reply) (acts : List Input) :
    Along (step p) (fun l a => (l.step p a).Conserved) (started p s n reply) acts ↔
      Along (step p) WriteOk (started p s n reply) acts := by
  refine along_congr (I := Inv) (fun l a inv ok => inv.step ok) (fun l a inv => ?_)
    (Inv.started commit outside reply)
  constructor
  · intro conserved
    by_contra failed
    exact inv.lost failed conserved
  · intro ok
    exact (inv.step ok).conserved

/-- A start that is about to end. -/
def sampleStart : State :=
  run (.code 16) [.probe ⟨0x6666, 1, some (1, 0x2222)⟩, .start, .startStep 0 {}, .startStep 0 {},
    .startStep 0 {}, .startStep 0 {}, .startStep 0 {}]

/-- A job of 64 bytes that finds a token; `error` is the answer of the bus to the write. -/
def sampleJob (error : Int) : List Input :=
  [.job ⟨0, ⟨⟨0x1000, 64, 0x2000, 0x3000⟩, 1⟩⟩, .step (.worker {}), .step (.worker {}),
    .step (.worker {}), .step (.worker { value := 0x10000 }), .step (.worker { error := error })]

/-- A frame that the bus takes. -/
theorem credit_conserved_sent :
    Along (step (.code 16)) (fun l a => (l.step (.code 16) a).Conserved)
      (started (.code 16) sampleStart 0 {}) (sampleJob rtEok) :=
  (credit_conserved_iff (.code 16) sampleStart 0 (by decide) (by decide) {} _).mpr (by decide)

/-- A frame that the bus refuses: no frame is sent, and the counter is 1. -/
theorem credit_lost_write :
    sampleStart.starts[0]? = some .commit ∧ sampleStart.worker.inJob = false ∧
      ((sampleJob (-rtEIo)).foldl (step (.code 16)) (started (.code 16) sampleStart 0 {})).sent = 0 ∧
      ((sampleJob (-rtEIo)).foldl (step (.code 16))
        (started (.code 16) sampleStart 0 {})).state.transport.txBufferCount = 1 ∧
      ¬ Along (step (.code 16)) (fun l a => (l.step (.code 16) a).Conserved)
        (started (.code 16) sampleStart 0 {}) (sampleJob (-rtEIo)) := by
  refine ⟨by decide, by decide, by decide, by decide, ?_⟩
  rintro ⟨-, -, -, -, -, last, -⟩
  exact absurd (last.count (by decide)) (by decide)

end Ledger

end WlhHpm.Sdio

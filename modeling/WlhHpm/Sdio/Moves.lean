import WlhHpm.Sdio.Transport

/-!
# The steps of the transport

What a step of each thread of `Sdio/Transport.lean` can do, said once: `WorkerMove` for the worker,
with `RxMove` inside `drain_rx` and `TxMove` inside `drain_tx`, and `Move` for everything else, with
`SubmitMove`, `StopMove`, `StartMove` and `ResetMove` for the operations. Each constructor has the
place where the thread was, the condition under which the step is taken, and the state it leads to.
`workerStep_move` and `step_move` say that there are no other steps; invariants of the transport are
proved by cases on them.
-/

namespace WlhHpm.Sdio
open State

/-! ## Inside `drain_rx` -/

/-- Steps of `drain_rx` and `read_frame` from the given place. -/
inductive RxMove (p : Platform) (s : State) (burst : Nat) : RxPc → State → Prop where
  | enter : burst < 8 → s.transport.running = true →
    RxMove p s burst .loop (s.goto s.transport (.rx burst .status))
  | leave : ¬ (burst < 8 ∧ s.transport.running = true) →
    RxMove p s burst .loop (s.goto s.transport (.tx 0 .loop))
  | packet {value : UInt32} : value &&& 0x800000 ≠ 0 →
    RxMove p s burst .status (s.goto s.transport (.rx burst (.length value)))
  | length {interrupt packet length : UInt32} :
    wlhRttSdioAccumulatedLength p.headerSize s.transport.rxByteCount packet = some length →
    RxMove p s burst (.length interrupt)
      (s.goto s.transport (.rx burst (.data interrupt packet length)))
  | data {interrupt packet length : UInt32} :
    RxMove p s burst (.data interrupt packet length)
      (s.goto s.transport (.rx burst (.clear interrupt packet length)))
  /-- `read_frame` returns an error: the loop ends or goes round, and no frame is handed over. -/
  | failed {pc : RxPc} {streak : Nat} {stats : Stats} {lost : Nat} {next : WorkerPc} :
    pc ≠ .loop → next = .tx 0 .loop ∨ next = .rx (burst + 1) .loop →
    RxMove p s burst pc
      { s.goto { s.transport with invalidStreak := streak, stats := stats } next with lost := lost }
  /-- `read_frame` succeeds, and the frame is handed to `wlh_rtt_host_input`. -/
  | input {interrupt packet length : UInt32} {stats : Stats} :
    RxMove p s burst (.clear interrupt packet length)
      { s.goto { s.transport with
          rxByteCount := packet &&& (0x100000 - 1), invalidStreak := 0, stats := stats }
        (.rx (burst + 1) .loop) with inputs := s.inputs ++ [length] }

section Rx
variable {p : Platform} {s : State} {burst : Nat}

/-- The body of the loop after an error of `read_frame`. -/
lemma drainRx_failed {pc : RxPc} (inside : pc ≠ .loop) (stats : Stats) {result : Int}
    (failed : result ≠ rtEok) (length : UInt32) (reply : Reply) :
    RxMove p s burst pc
      (drainRx { s with transport := { s.transport with stats := stats } } burst result length
        reply) := by
  simp only [drainRx]
  split
  · exact .failed inside (.inl rfl)
  · split
    · split
      · exact .failed inside (.inl rfl)
      · exact .failed inside (.inr rfl)
    · exact .failed inside (.inl rfl)

/-- A step of the worker in `drain_rx` is one of those moves. -/
lemma rxStep_move (reply : Reply) (pc : RxPc) : RxMove p s burst pc (s.rxStep p burst reply pc) := by
  cases pc with
  | loop =>
    simp only [rxStep]
    split
    · rename_i go
      exact .enter go.1 go.2
    · rename_i stop
      exact .leave stop
  | status =>
    simp only [rxStep]
    split
    · rename_i failed
      exact drainRx_failed RxPc.noConfusion s.transport.stats failed ..
    · split
      · exact drainRx_failed RxPc.noConfusion s.transport.stats (by decide) ..
      · rename_i bit
        exact .packet bit
  | length interrupt =>
    simp only [rxStep]
    split
    · rename_i failed
      exact drainRx_failed RxPc.noConfusion s.transport.stats failed ..
    · split
      · exact drainRx_failed RxPc.noConfusion _ (by decide) ..
      · rename_i length eq
        exact .length eq
  | data interrupt packet length =>
    simp only [rxStep]
    split
    · rename_i failed
      exact drainRx_failed RxPc.noConfusion s.transport.stats failed ..
    · split
      · exact drainRx_failed RxPc.noConfusion s.transport.stats (by decide) ..
      · exact .data
  | clear interrupt packet length =>
    simp only [rxStep]
    split
    · rename_i failed
      exact drainRx_failed RxPc.noConfusion s.transport.stats failed ..
    · simp only [drainRx]
      rw [if_neg (by decide), if_neg (by decide), if_neg (by decide)]
      exact .input

end Rx

/-! ## Inside `drain_tx` -/

/-- Steps of `drain_tx`, `write_frame` and `wait_for_token` from the given place. -/
inductive TxMove (p : Platform) (s : State) (burst : Nat) : TxPc → State → Prop where
  | enter : burst < 8 → s.transport.running = true →
    TxMove p s burst .loop (s.goto s.transport (.tx burst .recv))
  | leave : ¬ (burst < 8 ∧ s.transport.running = true) →
    TxMove p s burst .loop (s.goto s.transport .unlock)
  | empty : s.transport.txQueue = [] → TxMove p s burst .recv (s.goto s.transport .unlock)
  /-- A message whose reception is taken for an error. -/
  | dropped {m : Message} {queue : List Message} : s.transport.txQueue = m :: queue →
    p.received ≠ rtEok →
    TxMove p s burst .recv (s.goto { s.transport with txQueue := queue } .unlock)
  | received {m : Message} {queue : List Message} : s.transport.txQueue = m :: queue →
    p.received = rtEok →
    TxMove p s burst .recv
      (s.goto { s.transport with txQueue := queue } (.tx burst (.generation m)))
  | stale {m : Message} : m.job.generation ≠ s.transport.generation →
    TxMove p s burst (.generation m) (s.goto s.transport (.tx burst (.done m (-rtEIo))))
  | fresh {m : Message} : m.job.generation = s.transport.generation →
    TxMove p s burst (.generation m) (s.goto s.transport (.tx burst (.frame m)))
  | invalid {m : Message} :
    TxMove p s burst (.frame m) (s.goto s.transport (.tx burst (.done m (-rtEInval))))
  | frame {m : Message} : TxMove p s burst (.frame m) (s.goto s.transport (.tx burst (.token m 0)))
  | timeout {m : Message} {attempt : Nat} :
    TxMove p s burst (.token m attempt) (s.goto s.transport (.tx burst (.done m (-rtETimeout))))
  | token {m : Message} {attempt : Nat} : s.transport.running = true →
    TxMove p s burst (.token m attempt) (s.goto s.transport (.tx burst (.poll m attempt)))
  | failed {m : Message} {attempt : Nat} {error : Int} : error ≠ rtEok →
    TxMove p s burst (.poll m attempt) (s.goto s.transport (.tx burst (.done m error)))
  | retry {m : Message} {attempt : Nat} :
    TxMove p s burst (.poll m attempt) (s.goto s.transport (.tx burst (.token m (attempt + 1))))
  | taken {m : Message} {attempt : Nat} :
    TxMove p s burst (.poll m attempt)
      (s.goto { s.transport with txBufferCount := (s.transport.txBufferCount + 1) % 0x1000 }
        (.tx burst (.write m)))
  | written {m : Message} {error : Int} :
    TxMove p s burst (.write m) (s.goto s.transport (.tx burst (.done m error)))
  | done {m : Message} {result : Int} {stats : Stats} :
    TxMove p s burst (.done m result)
      { s.goto { s.transport with stats := stats } (.tx (burst + 1) .loop) with
        completions := s.completions ++ [m.completion result] }

section Tx
variable {p : Platform} {s : State} {burst : Nat}

/-- A step of the worker in `drain_tx` is one of those moves. -/
lemma txStep_move (reply : Reply) (pc : TxPc) : TxMove p s burst pc (s.txStep p burst reply pc) := by
  cases pc with
  | loop =>
    simp only [txStep]
    split
    · rename_i go
      exact .enter go.1 go.2
    · rename_i stop
      exact .leave stop
  | recv =>
    cases queue : s.transport.txQueue with
    | nil =>
      have same : { s.transport with txQueue := [] } = s.transport := by rw [← queue]
      simp only [txStep, queue, rtMqRecv, same]
      exact .empty queue
    | cons m rest =>
      simp only [txStep, queue, rtMqRecv]
      split
      · rename_i failed
        exact .dropped queue failed
      · rename_i eok
        exact .received queue (not_not.mp eok)
  | generation m =>
    simp only [txStep]
    split
    · rename_i ne
      exact .stale ne
    · rename_i eq
      exact .fresh (not_not.mp eq)
  | frame m =>
    simp only [txStep]
    split
    · exact .invalid
    · exact .frame
  | token m attempt =>
    simp only [txStep]
    split
    · rename_i go
      exact .token go.2
    · exact .timeout
  | poll m attempt =>
    simp only [txStep]
    split
    · rename_i failed
      exact .failed failed
    · split
      · exact .taken
      · exact .retry
  | write m => exact .written
  | done m result => exact .done

end Tx

/-! ## The worker -/

/-- Steps of `worker_main`. -/
inductive WorkerMove (p : Platform) (s : State) : State → Prop where
  | wait : s.worker = .take ∨ s.worker = .lock → WorkerMove p s s
  | take : s.worker = .take → s.transport.wake ≠ 0 →
    WorkerMove p s (s.goto { s.transport with wake := s.transport.wake - 1 } .check)
  | stopped : s.worker = .check → s.transport.running = false →
    WorkerMove p s (s.goto s.transport .take)
  | running : s.worker = .check → s.transport.running = true →
    WorkerMove p s (s.goto s.transport .lock)
  | lock : s.worker = .lock → s.transport.lock = false →
    WorkerMove p s (s.goto { s.transport with lock := true } (.rx 0 .loop))
  | rx {burst pc s'} : s.worker = .rx burst pc → RxMove p s burst pc s' → WorkerMove p s s'
  | tx {burst pc s'} : s.worker = .tx burst pc → TxMove p s burst pc s' → WorkerMove p s s'
  | unlock : s.worker = .unlock →
    WorkerMove p s (s.goto { s.transport with lock := false } .take)

/-- A step of the worker is one of those moves. -/
lemma workerStep_move {p : Platform} {s : State} (reply : Reply) :
    WorkerMove p s (s.workerStep p reply) := by
  simp only [workerStep]
  cases at_pc : s.worker with
  | take =>
    simp only
    split
    · exact .wait (.inl at_pc)
    · rename_i pos
      exact .take at_pc pos
  | check =>
    cases run : s.transport.running with
    | true => exact .running at_pc run
    | false => exact .stopped at_pc run
  | lock =>
    cases free : s.transport.lock with
    | true => exact .wait (.inr at_pc)
    | false => exact .lock at_pc free
  | rx burst pc => exact .rx at_pc (rxStep_move reply pc)
  | tx burst pc => exact .tx at_pc (txStep_move reply pc)
  | unlock => exact .unlock at_pc

/-! ## The operations -/

/-- Steps of `transport_submit_tx`, as the submit with number `n`. -/
inductive SubmitMove (p : Platform) (n : Nat) (t : Transport) (args : TxArgs) :
    SubmitPc → Transport → SubmitPc → Prop where
  | refused : Refused p t args → SubmitMove p n t args .check t (.returned (-rtEInval))
  | accepted : ¬ Refused p t args → SubmitMove p n t args .check t (.send t.generation)
  | full {generation : UInt32} : ¬ t.txQueue.length < txQueueDepth →
    SubmitMove p n t args (.send generation)
      { t with stats.txQueueFull := t.stats.txQueueFull + 1 } (.returned (-rtEFull))
  | sent {generation : UInt32} : t.txQueue.length < txQueueDepth →
    SubmitMove p n t args (.send generation)
      { t with txQueue := t.txQueue ++ [⟨n, { args with generation := generation }⟩] } .release
  | released : SubmitMove p n t args .release { t with wake := rtSemRelease t.wake } (.returned rtEok)

/-- Steps of `transport_stop`, with the callbacks they call. -/
inductive StopMove (p : Platform) (t : Transport) :
    StopPc → Transport → StopPc → List Completion → Prop where
  | halted : StopMove p t .halt { t with running := false } .bump []
  | bumped : StopMove p t .bump { t with generation := t.generation + 1 } .recv []
  | empty : t.txQueue = [] → StopMove p t .recv t .returned []
  | dropped {m : Message} {queue : List Message} : t.txQueue = m :: queue → p.received ≠ rtEok →
    StopMove p t .recv { t with txQueue := queue } .returned []
  | received {m : Message} {queue : List Message} : t.txQueue = m :: queue → p.received = rtEok →
    StopMove p t .recv { t with txQueue := queue } (.done m) []
  | done {m : Message} :
    StopMove p t (.done m) { t with stats.txErrors := t.stats.txErrors + 1 } .recv
      [m.completion (-rtEIo)]

/-- Steps of `transport_start`. -/
inductive StartMove (t : Transport) : StartPc → Transport → StartPc → Prop where
  | present : t.function ≠ none → StartMove t .probed t .enable
  | absent : t.function = none → StartMove t .probed t .wait
  | taken : t.probed ≠ 0 → StartMove t .wait { t with probed := t.probed - 1 } .enable
  | timeout : t.probed = 0 → StartMove t .wait t (.returned (-rtETimeout))
  /-- A bus access fails. -/
  | failed {pc : StartPc} {error : Int} : error ≠ rtEok → StartMove t pc t (.returned error)
  | enabled : StartMove t .enable t .blockSize
  | blockSize : StartMove t .blockSize t .attach
  | attached : StartMove t .attach { t with irqAttached := true } .interrupts
  | interrupts : StartMove t .interrupts t .commit
  | commit :
    StartMove t .commit
      { t with
        rxByteCount := 0
        txBufferCount := 0
        invalidStreak := 0
        generation := t.generation + 1
        running := true
        wake := rtSemRelease t.wake }
      (.returned rtEok)

/-- Steps of `transport_soft_reset`, with the answer of the bus. -/
inductive ResetMove (t : Transport) (error : Int) : ResetPc → Transport → ResetPc → Prop where
  | absent : t.function = none → ResetMove t error .check t (.returned (-rtEIo))
  | present : t.function ≠ none → ResetMove t error .check t .lock
  | lock : t.lock = false → ResetMove t error .lock { t with lock := true } .write
  | written : error = rtEok →
    ResetMove t error .write
      { t with
        rxByteCount := 0
        txBufferCount := 0
        stats.busResets := t.stats.busResets + 1 }
      (.unlock error)
  | failed : error ≠ rtEok → ResetMove t error .write t (.unlock error)
  | unlock {status : Int} :
    ResetMove t error (.unlock status) { t with lock := false } (.returned status)

/-- Every step but one of the worker. -/
inductive Move (p : Platform) (s : State) : Act → State → Prop where
  | idle {a : Act} : Move p s a s
  | submit {args : TxArgs} : Move p s (.submit args) { s with submits := s.submits ++ [⟨args, .check⟩] }
  | submitted {n args pc t pc'} : s.submits[n]? = some ⟨args, pc⟩ →
    SubmitMove p n s.transport args pc t pc' → Move p s (.submitStep n) (s.setSubmit n t pc')
  | stop : Move p s .stop { s with stops := s.stops ++ [.halt] }
  | stopped {n pc t pc' called} : s.stops[n]? = some pc → StopMove p s.transport pc t pc' called →
    Move p s (.stopStep n) { s.setStop n t pc' with completions := s.completions ++ called }
  | start : Move p s .start { s with starts := s.starts ++ [.probed] }
  | started {n reply pc t pc'} : s.starts[n]? = some pc → StartMove s.transport pc t pc' →
    Move p s (.startStep n reply) (s.setStart n t pc')
  | softReset : Move p s .softReset { s with resets := s.resets ++ [.check] }
  | reset {n reply pc t pc'} : s.resets[n]? = some pc →
    ResetMove s.transport reply.error pc t pc' →
    Move p s (.resetStep n reply) (s.setReset n t pc')
  | probed {card function} : Move p s (.probe card) { s with transport := { s.transport with
      function := some function, probed := rtSemRelease s.transport.probed } }
  | removed : Move p s .removeCard s.removeCard
  | irq : Move p s .irq s.sdioIrq

section Operations
variable {p : Platform} {s : State} {n : Nat}

/-- A step of a submit is one of those moves. -/
lemma submitStep_move : Move p s (.submitStep n) (s.submitStep p n) := by
  simp only [submitStep]
  split
  · exact .idle
  · rename_i args pc is
    cases pc with
    | check =>
      simp only
      split
      · rename_i refused
        exact .submitted is (.refused refused)
      · rename_i ok
        exact .submitted is (.accepted ok)
    | send generation =>
      simp only [rtMqSend]
      split
      · rename_i room
        exact .submitted is (.sent room)
      · rename_i full
        exact .submitted is (.full full)
    | release => exact .submitted is .released
    | returned status => exact .idle

/-- A stop that calls no callback. -/
lemma Move.stopped_quiet {pc : StopPc} {t : Transport} {pc' : StopPc} (at_pc : s.stops[n]? = some pc)
    (move : StopMove p s.transport pc t pc' []) : Move p s (.stopStep n) (s.setStop n t pc') := by
  have whole := Move.stopped at_pc move
  rw [List.append_nil] at whole
  exact whole

/-- A step of a stop is one of those moves. -/
lemma stopStep_move : Move p s (.stopStep n) (s.stopStep p n) := by
  cases at_pc : s.stops[n]? with
  | none =>
    simp only [stopStep, at_pc]
    exact .idle
  | some pc =>
    cases pc with
    | halt =>
      simp only [stopStep, at_pc]
      exact .stopped_quiet at_pc .halted
    | bump =>
      simp only [stopStep, at_pc]
      exact .stopped_quiet at_pc .bumped
    | recv =>
      cases queue : s.transport.txQueue with
      | nil =>
        have same : { s.transport with txQueue := [] } = s.transport := by rw [← queue]
        simp only [stopStep, at_pc, queue, rtMqRecv, same]
        exact .stopped_quiet at_pc (.empty queue)
      | cons m rest =>
        simp only [stopStep, at_pc, queue, rtMqRecv]
        split
        · rename_i eok
          exact .stopped_quiet at_pc (.received queue eok)
        · rename_i failed
          exact .stopped_quiet at_pc (.dropped queue failed)
    | done m =>
      simp only [stopStep, at_pc]
      exact .stopped at_pc .done
    | returned =>
      simp only [stopStep, at_pc]
      exact .idle

/-- A step of a start is one of those moves. -/
lemma startStep_move (reply : Reply) : Move p s (.startStep n reply) (s.startStep n reply) := by
  cases at_pc : s.starts[n]? with
  | none =>
    simp only [startStep, at_pc]
    exact .idle
  | some pc =>
    -- a bus access that succeeds, or not
    have access : ∀ {pc'}, StartMove s.transport pc s.transport pc' → Move p s (.startStep n reply)
        (s.setStart n s.transport (if reply.error = rtEok then pc' else .returned reply.error)) := by
      intro pc' move
      split
      · exact .started at_pc move
      · rename_i failed
        exact .started at_pc (.failed failed)
    cases pc with
    | probed =>
      simp only [startStep, at_pc]
      split
      · rename_i absent
        exact .started at_pc (.absent absent)
      · rename_i present
        exact .started at_pc (.present present)
    | wait =>
      simp only [startStep, at_pc]
      split
      · rename_i pos
        exact .started at_pc (.taken pos)
      · rename_i zero
        split
        · exact .started at_pc (.timeout (not_not.mp zero))
        · exact .idle
    | enable =>
      simp only [startStep, at_pc]
      exact access .enabled
    | blockSize =>
      simp only [startStep, at_pc]
      exact access .blockSize
    | attach =>
      simp only [startStep, at_pc]
      split
      · rename_i attached
        have same : { s.transport with irqAttached := true } = s.transport := by rw [← attached]
        have move := StartMove.attached (t := s.transport)
        rw [same] at move
        exact .started at_pc move
      · split
        · exact .started at_pc .attached
        · rename_i failed
          exact .started at_pc (.failed failed)
    | interrupts =>
      simp only [startStep, at_pc]
      exact access .interrupts
    | commit =>
      simp only [startStep, at_pc]
      exact .started at_pc .commit
    | returned status =>
      simp only [startStep, at_pc]
      exact .idle

/-- A step of a soft reset is one of those moves. -/
lemma resetStep_move (reply : Reply) : Move p s (.resetStep n reply) (s.resetStep n reply) := by
  cases at_pc : s.resets[n]? with
  | none =>
    simp only [resetStep, at_pc]
    exact .idle
  | some pc =>
    cases pc with
    | check =>
      simp only [resetStep, at_pc]
      split
      · rename_i absent
        exact .reset at_pc (.absent absent)
      · rename_i present
        exact .reset at_pc (.present present)
    | lock =>
      simp only [resetStep, at_pc]
      cases free : s.transport.lock with
      | true => exact .idle
      | false => exact .reset at_pc (.lock free)
    | write =>
      simp only [resetStep, at_pc]
      split
      · rename_i eok
        exact .reset at_pc (.written eok)
      · rename_i failed
        exact .reset at_pc (.failed failed)
    | unlock status =>
      simp only [resetStep, at_pc]
      exact .reset at_pc .unlock
    | returned status =>
      simp only [resetStep, at_pc]
      exact .idle

/-- A probe is one of those moves. -/
lemma probe_move (card : Card) : Move p s (.probe card) (s.probe card) := by
  simp only [probe]
  split
  · exact .idle
  · split
    · exact .idle
    · split
      · exact .idle
      · exact .probed

/-- There are no other steps. -/
lemma step_move (a : Act) :
    (∃ reply, a = .worker reply ∧ WorkerMove p s (step p s a)) ∨ Move p s a (step p s a) := by
  cases a with
  | submit args => exact .inr .submit
  | submitStep n => exact .inr submitStep_move
  | stop => exact .inr .stop
  | stopStep n => exact .inr stopStep_move
  | start => exact .inr .start
  | startStep n reply => exact .inr (startStep_move reply)
  | softReset => exact .inr .softReset
  | resetStep n reply => exact .inr (resetStep_move reply)
  | worker reply => exact .inl ⟨reply, rfl, workerStep_move reply⟩
  | probe card => exact .inr (probe_move card)
  | removeCard => exact .inr .removed
  | irq => exact .inr .irq

/-- Only the worker moves the worker, and only it hands over frames. -/
lemma Move.worker_eq {a : Act} {s' : State} (move : Move p s a s') :
    s'.worker = s.worker ∧ s'.inputs = s.inputs := by
  cases move <;> exact ⟨rfl, rfl⟩

end Operations

end WlhHpm.Sdio

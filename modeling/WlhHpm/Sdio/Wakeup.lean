import WlhHpm.Lib.Run
import WlhHpm.Sdio.Moves

/-!
# Wake-ups of the worker

`transport_submit_tx` releases the wake semaphore once for every frame that it puts into the TX queue,
and a pass of the worker takes one count and at least one frame, if there is one. The invariant
(`Covered`) counts: there are at most as many frames in the queue as counts in the semaphore, submits
that are about to release it, and the one count with which a pass has begun.

A worker that finds `transport.running` false has taken its count for nothing. If the counts that are
left do not cover the queue, a frame can stay behind when the transport is started again, since
`transport_start` releases the semaphore once only (`removal_strands_frames`); in all other runs a
worker that waits without a count leaves no frame behind (`no_lost_wakeup`).
-/

namespace WlhHpm.Sdio
open State

/-- Number of submits between `rt_mq_send` and `rt_sem_release`. -/
def releasing (submits : List Submit) : Nat := submits.countP fun r => r.pc = .release

/-- The count with which the worker has begun a pass, until it looks into the queue. -/
def WorkerPc.credit : WorkerPc → Nat
  | .check => 1
  | .lock => 1
  | .rx _ _ => 1
  | .tx 0 .loop => 1
  | .tx 0 .recv => 1
  | _ => 0

/-- A pass has one count. -/
lemma WorkerPc.credit_le_one (pc : WorkerPc) : pc.credit ≤ 1 := by
  unfold credit
  split <;> decide

/-- Every frame in the queue has a count. -/
structure Covered (s : State) : Prop where
  depth : s.transport.txQueue.length ≤ txQueueDepth
  counts : s.transport.txQueue.length ≤
    s.transport.wake + releasing s.submits + s.worker.credit

def Act.isWorker : Act → Bool
  | .worker _ => true
  | _ => false

/-- If the worker gives up its pass because the transport is not running, the counts that are left
    cover the queue. -/
def KeepsWakeups (s : State) (a : Act) : Prop :=
  a.isWorker = true → s.worker = .check ∨ s.worker = .tx 0 .loop → s.transport.running = false →
    s.transport.txQueue.length ≤ s.transport.wake + releasing s.submits

instance (s : State) (a : Act) : Decidable (KeepsWakeups s a) := inferInstanceAs (Decidable (_ → _))

/-- A worker of a running transport that waits without a count, and without a submit that is about to
    release one, leaves no frame in the queue. -/
def NoLostWakeup (s : State) : Prop :=
  s.transport.running = true → s.worker = .take → s.transport.wake = 0 → releasing s.submits = 0 →
    s.transport.txQueue = []

instance (s : State) : Decidable (NoLostWakeup s) := inferInstanceAs (Decidable (_ → _))

section Covered
variable {p : Platform} {s s' : State} {a : Act}

/-- A release does not lower the count. -/
lemma le_rtSemRelease (value : Nat) : value ≤ rtSemRelease value := by
  simp only [rtSemRelease]
  split <;> omega

/-- A release adds a count, or the semaphore has more counts than the queue can have frames. -/
lemma rtSemRelease_cases (value : Nat) :
    rtSemRelease value = value + 1 ∨ txQueueDepth ≤ rtSemRelease value := by
  simp only [rtSemRelease]
  split
  · exact .inl rfl
  · right
    simp only [txQueueDepth]
    omega

/-- A submit goes on. -/
lemma releasing_modify {submits : List Submit} {n : Nat} {args : TxArgs} {pc : SubmitPc}
    (is : submits[n]? = some ⟨args, pc⟩) (pc' : SubmitPc) :
    releasing (submits.modify n fun r => { r with pc := pc' }) + (if pc = .release then 1 else 0) =
      releasing submits + if pc' = .release then 1 else 0 := by
  induction submits generalizing n with
  | nil => cases is
  | cons r submits ih =>
    cases n with
    | zero =>
      cases is
      simp only [releasing, List.modify_zero_cons, List.countP_cons, decide_eq_true_eq]
      omega
    | succ n =>
      have rest := ih is
      simp only [releasing, List.modify_succ_cons, List.countP_cons] at rest ⊢
      omega

/-- The counts can only grow, as long as the queue does not. -/
lemma Covered.of_le (cov : Covered s)
    (queue : s'.transport.txQueue.length ≤ s.transport.txQueue.length)
    (wake : s.transport.wake ≤ s'.transport.wake)
    (submits : releasing s'.submits = releasing s.submits) (worker : s'.worker = s.worker) :
    Covered s' := by
  have counts := cov.counts
  have depth := cov.depth
  rw [← worker, ← submits] at counts
  exact ⟨by omega, by omega⟩

/-- A submit that adds a frame to the queue has a count for it. -/
lemma Covered.submitted (cov : Covered s) {n : Nat} {args : TxArgs} {pc pc' : SubmitPc}
    {t : Transport} (is : s.submits[n]? = some ⟨args, pc⟩)
    (move : SubmitMove p n s.transport args pc t pc') : Covered (s.setSubmit n t pc') := by
  have counts := cov.counts
  have depth := cov.depth
  have step := releasing_modify is pc'
  constructor
  · cases move with
    | sent room =>
      simp only [setSubmit, List.length_append, List.length_singleton]
      omega
    | _ => exact depth
  · cases move with
    | sent room =>
      simp only [setSubmit, List.length_append, List.length_singleton, reduceCtorEq, if_true, if_false]
        at step ⊢
      omega
    | released =>
      -- the count moves from the submit into the semaphore
      simp only [setSubmit, reduceCtorEq, if_true, if_false] at step ⊢
      rcases rtSemRelease_cases s.transport.wake with one | full
      · omega
      · omega
    | refused | accepted | full =>
      simp only [setSubmit, reduceCtorEq, if_false] at step ⊢
      omega

/-- Every step but one of the worker keeps the queue covered. -/
lemma Move.covered (move : Move p s a s') (cov : Covered s) : Covered s' := by
  cases move with
  | submitted is submit => exact cov.submitted is submit
  | submit =>
    refine cov.of_le (Nat.le_refl _) (Nat.le_refl _) ?_ rfl
    simp [releasing, List.countP_append]
  | stopped _ stop =>
    cases stop with
    | dropped queue | received queue =>
      refine cov.of_le ?_ (Nat.le_refl _) rfl rfl
      simp only [setStop, queue, List.length_cons]
      exact Nat.le_succ _
    | _ => exact cov.of_le (Nat.le_refl _) (Nat.le_refl _) rfl rfl
  | started _ start =>
    cases start with
    | commit => exact cov.of_le (Nat.le_refl _) (le_rtSemRelease _) rfl rfl
    | _ => exact cov.of_le (Nat.le_refl _) (Nat.le_refl _) rfl rfl
  | reset _ reset => cases reset <;> exact cov.of_le (Nat.le_refl _) (Nat.le_refl _) rfl rfl
  | irq => exact cov.of_le (Nat.le_refl _) (le_rtSemRelease _) rfl rfl
  | _ => exact cov.of_le (Nat.le_refl _) (Nat.le_refl _) rfl rfl

/-- The worker goes on without looking into the queue. -/
lemma Covered.of_worker (cov : Covered s) (queue : s'.transport.txQueue = s.transport.txQueue)
    (wake : s'.transport.wake = s.transport.wake) (submits : s'.submits = s.submits)
    (credit : s.worker.credit ≤ s'.worker.credit) : Covered s' := by
  have counts := cov.counts
  constructor
  · rw [queue]
    exact cov.depth
  · rw [queue, wake, submits]
    omega

/-- A step of `drain_rx` keeps the queue covered. -/
lemma RxMove.covered {burst : Nat} {pc : RxPc} (move : RxMove p s burst pc s') (cov : Covered s) :
    Covered s' := by
  have one := s.worker.credit_le_one
  cases move with
  | failed _ next =>
    rcases next with rfl | rfl
    · exact cov.of_worker rfl rfl rfl one
    · exact cov.of_worker rfl rfl rfl one
  | enter | leave | packet | length | data | input => exact cov.of_worker rfl rfl rfl one

/-- The worker takes a frame, which is worth a count. -/
lemma Covered.of_recv (cov : Covered s) {m : Message} {queue : List Message}
    (was : s.transport.txQueue = m :: queue) (now : s'.transport.txQueue = queue)
    (wake : s'.transport.wake = s.transport.wake) (submits : s'.submits = s.submits) :
    Covered s' := by
  have counts := cov.counts
  have depth := cov.depth
  have credit := s.worker.credit_le_one
  rw [was, List.length_cons] at counts depth
  constructor
  · rw [now]
    omega
  · rw [now, wake, submits]
    omega

/-- A step of `drain_tx` keeps the queue covered, if the worker does not give up a queue without counts.
    -/
lemma TxMove.covered {burst : Nat} {pc : TxPc} (at_pc : s.worker = .tx burst pc)
    (move : TxMove p s burst pc s') (cov : Covered s)
    (kept : s.worker = .tx 0 .loop → s.transport.running = false →
      s.transport.txQueue.length ≤ s.transport.wake + releasing s.submits) : Covered s' := by
  cases move with
  | enter =>
    refine cov.of_worker rfl rfl rfl ?_
    rw [at_pc]
    cases burst <;> exact Nat.le_refl _
  | leave stop =>
    cases burst with
    | zero =>
      -- the first look at the queue does not take place, since the transport is not running
      have halted : s.transport.running = false := by
        rw [← Bool.not_eq_true]
        exact fun run => stop ⟨by decide, run⟩
      exact ⟨cov.depth, kept at_pc halted⟩
    | succ burst =>
      refine cov.of_worker rfl rfl rfl ?_
      rw [at_pc]
      exact Nat.le_refl _
  | empty none =>
    constructor
    · exact cov.depth
    · simp only [goto, none]
      exact Nat.zero_le _
  | dropped was => exact cov.of_recv was rfl rfl rfl
  | received was => exact cov.of_recv was rfl rfl rfl
  | stale | fresh | invalid | frame | timeout | token | failed | retry | taken | written | done =>
    refine cov.of_worker rfl rfl rfl ?_
    rw [at_pc]
    cases burst <;> exact Nat.zero_le _

/-- A step of the worker keeps the queue covered under the same condition. -/
lemma WorkerMove.covered {reply : Reply} (move : WorkerMove p s s') (cov : Covered s)
    (kept : KeepsWakeups s (.worker reply)) : Covered s' := by
  have counts := cov.counts
  cases move with
  | wait => exact cov
  | take at_pc pos =>
    rw [at_pc] at counts
    refine ⟨cov.depth, ?_⟩
    simp only [goto, WorkerPc.credit] at counts ⊢
    omega
  | stopped at_pc halted => exact ⟨cov.depth, kept rfl (.inl at_pc) halted⟩
  | running at_pc =>
    refine cov.of_worker rfl rfl rfl ?_
    rw [at_pc]
    exact Nat.le_refl _
  | lock at_pc =>
    refine cov.of_worker rfl rfl rfl ?_
    rw [at_pc]
    exact Nat.le_refl _
  | rx _ rx => exact rx.covered cov
  | tx at_pc tx => exact tx.covered at_pc cov fun loop => kept rfl (.inr loop)
  | unlock at_pc =>
    refine cov.of_worker rfl rfl rfl ?_
    rw [at_pc]
    exact Nat.zero_le _

/-- Every step keeps the queue covered, if the worker does not give up a queue without counts. -/
lemma Covered.step (cov : Covered s) (kept : KeepsWakeups s a) : Covered (step p s a) := by
  rcases step_move (p := p) (s := s) a with ⟨reply, rfl, move⟩ | move
  · exact move.covered cov kept
  · exact move.covered cov

/-- The queue is empty. -/
lemma Covered.initial : Covered State.initial := ⟨Nat.zero_le _, Nat.zero_le _⟩

/-- A frame in a queue that is covered has a count, which the worker does not wait for. -/
lemma Covered.noLostWakeup (cov : Covered s) : NoLostWakeup s := by
  intro _ at_pc none quiet
  have counts := cov.counts
  rw [at_pc, none, quiet] at counts
  exact List.length_eq_zero_iff.mp (Nat.le_zero.mp counts)

end Covered

/-- In every run in which the worker gives up a pass only with enough counts left for the queue, a
    worker that waits without a count leaves no frame behind. -/
theorem no_lost_wakeup (p : Platform) (acts : List Act)
    (kept : Along (step p) KeepsWakeups initial acts) : NoLostWakeup (run p acts) :=
  (kept.invariant (I := Covered) (fun _ _ cov => cov.step) .initial).noLostWakeup

/-- The steps of a start from the insertion of a card, as the start with number `n`. -/
def startUp (n : Nat) : List Act :=
  [.probe ⟨0x6666, 1, some (1, 0x2222)⟩, .start] ++ List.replicate 6 (.startStep n {})

/-- The steps of a submit with number `n`. -/
def submitUp (n : Nat) : List Act :=
  .submit ⟨0x1000, 64, 0x2000, 0x3000⟩ :: List.replicate 3 (.submitStep n)

def passes (n : Nat) : List Act := List.replicate n (.worker {})

/-- Two frames are submitted and taken in two passes of the worker. -/
theorem no_lost_wakeup_two :
    Along (step (.code 16)) KeepsWakeups initial
        (startUp 0 ++ submitUp 0 ++ submitUp 1 ++ passes 24) ∧
      NoLostWakeup (run (.code 16) (startUp 0 ++ submitUp 0 ++ submitUp 1 ++ passes 24)) :=
  ⟨by decide +kernel, no_lost_wakeup (.code 16) _ (by decide +kernel)⟩

/-- Two frames are submitted and the card is removed before the worker has run; the worker takes the
    three counts without a pass. After the next start one frame is left in the queue, the transport
    is running, and the worker waits without a count. If `rt_mq_recv` returned `RT_EOK`, one of nine
    frames would be left in the same way. -/
theorem removal_strands_frames :
    ¬ NoLostWakeup (run (.code 16) (startUp 0 ++ submitUp 0 ++ submitUp 1 ++ [.removeCard] ++
        passes 6 ++ startUp 1 ++ passes 8)) ∧
      ¬ NoLostWakeup (run ⟨16, rtEok⟩ (startUp 0 ++ (List.range 9).flatMap submitUp ++
        [.removeCard] ++ passes 20 ++ startUp 1 ++ passes 39)) :=
  ⟨by decide +kernel, by decide +kernel⟩

end WlhHpm.Sdio

import WlhHpm.Lib.Run
import WlhHpm.Sdio.Moves

/-!
# Generations of the transport

`transport_submit_tx` stores the generation of the transport in the job, and `transport_stop` and
`transport_start` count it up; `drain_tx` compares the two before it writes the frame. Between this
check and the end of the write lie the polls of `wait_for_token`, which looks at `running` only, and
neither stop nor start waits for the worker. A stop and a start that fall into one sleep of the wait
leave it waiting, and the frame of the old generation goes out in the new session
(`old_frame_in_new_session`).

`generation_isolated_iff` says what the check is worth: frames of another generation are kept from the
bus, and are never reported as sent, exactly as long as the generation does not change under a frame
that is on the bus and no poll takes a token for a frame that has become old. In particular they are
if the generation is not changed at all while a checked frame is on its way.

The runs are those of `State.input`: jobs come out of the queue or are given to `drain_tx` as they are,
whatever `rt_mq_recv` returns for a message.
-/

namespace WlhHpm.Sdio
open State

/-- The frame that has passed the check of its generation and is not completed with an error. -/
def TxPc.checked : TxPc → Option Message
  | .frame m => some m
  | .token m _ => some m
  | .poll m _ => some m
  | .write m => some m
  | .done m result => if result = rtEok then some m else none
  | _ => none

def WorkerPc.checked : WorkerPc → Option Message
  | .tx _ pc => pc.checked
  | _ => none

/-- The step changes the generation. -/
def Bumps (s : State) : Act → Prop
  | .stopStep n => s.stops[n]? = some .bump
  | .startStep n _ => s.starts[n]? = some .commit
  | _ => False

/-- The frame that a step writes to the bus. -/
def writing (s : State) : Act → Option Message
  | .worker _ =>
    match s.worker with
    | .tx _ (.write m) => some m
    | _ => none
  | _ => none

/-- The frame that a step completes, with the result it passes to the callback. -/
def completing (s : State) : Act → Option (Message × Int)
  | .worker _ =>
    match s.worker with
    | .tx _ (.done m result) => some (m, result)
    | _ => none
  | .stopStep n =>
    match s.stops[n]? with
    | some (.done m) => some (m, -rtEIo)
    | _ => none
  | _ => none

/-- Whatever step comes next, it writes a frame under its own generation only, and completes a frame of
    another generation with an error only. -/
structure Isolated (s : State) : Prop where
  written : ∀ a m, writing s a = some m → m.job.generation = s.transport.generation
  completed : ∀ a m result, completing s a = some (m, result) →
    m.job.generation ≠ s.transport.generation → result ≠ rtEok

section Completions
variable {p : Platform} {s : State}

/-- A frame is completed at the end of its job only. -/
lemma TxMove.completions {burst : Nat} {pc : TxPc} {s' : State} (move : TxMove p s burst pc s') :
    s'.completions = s.completions ++ match pc with
      | .done m result => [m.completion result]
      | _ => [] := by
  cases move with
  | done => rfl
  | _ => exact (List.append_nil _).symm

/-- The callbacks that a step of the worker calls are the ones that `completing` names. -/
lemma WorkerMove.completions {s' : State} (move : WorkerMove p s s') (reply : Reply) :
    s'.completions =
      s.completions ++ ((completing s (.worker reply)).map fun c => c.1.completion c.2).toList := by
  simp only [completing]
  cases move with
  | tx at_pc tx =>
    rw [tx.completions, at_pc]
    rename_i pc
    cases pc <;> rfl
  | rx at_pc rx =>
    rw [at_pc]
    cases rx <;> exact (List.append_nil _).symm
  | wait at_pc =>
    rcases at_pc with at_pc | at_pc
    · rw [at_pc]
      exact (List.append_nil _).symm
    · rw [at_pc]
      exact (List.append_nil _).symm
  | take at_pc | stopped at_pc | running at_pc | lock at_pc | unlock at_pc =>
    rw [at_pc]
    exact (List.append_nil _).symm

/-- The callbacks that a stop calls are the ones that `completing` names. -/
lemma stopStep_completions (n : Nat) :
    (s.stopStep p n).completions =
      s.completions ++ ((completing s (.stopStep n)).map fun c => c.1.completion c.2).toList := by
  simp only [completing]
  cases at_pc : s.stops[n]? with
  | none =>
    simp only [stopStep, at_pc]
    exact (List.append_nil _).symm
  | some pc =>
    cases pc with
    | done m =>
      simp only [stopStep, at_pc]
      rfl
    | recv =>
      simp only [stopStep, at_pc]
      split
      · exact (List.append_nil _).symm
      · split
        · exact (List.append_nil _).symm
        · exact (List.append_nil _).symm
    | halt | bump | returned =>
      simp only [stopStep, at_pc]
      exact (List.append_nil _).symm

/-- The other operations call no callback. -/
lemma Move.completions_eq {a : Act} {s' : State} (move : Move p s a s') (other : ∀ n, a ≠ .stopStep n) :
    s'.completions = s.completions ++ [] := by
  rw [List.append_nil]
  cases move with
  | stopped at_pc stop => exact absurd rfl (other _)
  | _ => rfl

/-- Every step calls exactly the callbacks that `completing` names. -/
theorem step_completions (p : Platform) (s : State) (a : Act) :
    (step p s a).completions =
      s.completions ++ ((completing s a).map fun c => c.1.completion c.2).toList := by
  cases a with
  | worker reply => exact (workerStep_move reply).completions reply
  | stopStep n => exact stopStep_completions n
  | submitStep n => exact submitStep_move.completions_eq fun _ => Act.noConfusion
  | startStep n reply => exact (startStep_move reply).completions_eq (p := p) fun _ => Act.noConfusion
  | resetStep n reply => exact (resetStep_move reply).completions_eq (p := p) fun _ => Act.noConfusion
  | probe card => exact (probe_move card).completions_eq (p := p) fun _ => Act.noConfusion
  | submit _ | stop | start | softReset | removeCard | irq => exact (List.append_nil _).symm

end Completions

/-! ## Old frames -/

/-- The frame that is on the bus, or has been taken by it and is not completed yet. -/
def TxPc.sending : TxPc → Option Message
  | .write m => some m
  | .done m result => if result = rtEok then some m else none
  | _ => none

def WorkerPc.sending : WorkerPc → Option Message
  | .tx _ pc => pc.sending
  | _ => none

/-- The frame for which a poll of `wait_for_token` takes a token. -/
def granting (s : State) : Act → Option Message
  | .worker reply =>
    match s.worker with
    | .tx _ (.poll m _) =>
      if reply.error = rtEok ∧
          wlhRttSdioAvailableTokens s.transport.txBufferCount ((reply.value >>> 16) &&& 0xfff) ≠ 0 then
        some m
      else none
    | _ => none
  | _ => none

/-- The generation does not change under a frame on the bus, and no token is taken for a frame that was
    checked under another generation. -/
structure Timely (s : State) (a : Act) : Prop where
  kept : Bumps s a → s.worker.sending = none
  token : ∀ m, granting s a = some m → m.job.generation = s.transport.generation

/-- The generation does not change under a checked frame. -/
def Undisturbed (s : State) (a : Act) : Prop := Bumps s a → s.worker.checked = none

/-- A condition on the steps of a run says nothing about the jobs that come in. -/
def Input.Meets (ok : State → Act → Prop) (s : State) : Input → Prop
  | .job _ => True
  | .step a => ok s a

instance (s : State) (a : Act) : Decidable (Bumps s a) :=
  match a with
  | .stopStep _ => inferInstanceAs (Decidable (_ = _))
  | .startStep _ _ => inferInstanceAs (Decidable (_ = _))
  | .submit _ | .submitStep _ | .stop | .start | .softReset | .resetStep _ _ | .worker _ | .probe _
  | .removeCard | .irq => inferInstanceAs (Decidable False)

instance (s : State) (a : Act) : Decidable (Timely s a) :=
  decidable_of_iff ((Bumps s a → s.worker.sending = none) ∧
      ∀ m ∈ granting s a, m.job.generation = s.transport.generation)
    ⟨fun ok => ⟨ok.1, ok.2⟩, fun ok => ⟨ok.kept, ok.token⟩⟩

instance (s : State) (a : Act) : Decidable (Undisturbed s a) := inferInstanceAs (Decidable (_ → _))

instance (ok : State → Act → Prop) [∀ s a, Decidable (ok s a)] (s : State) (i : Input) :
    Decidable (i.Meets ok s) :=
  match i with
  | .job _ => isTrue trivial
  | .step a => inferInstanceAs (Decidable (ok s a))

section Steps
variable {p : Platform} {s s' : State} {a : Act} {m : Message}

/-- Only these steps change the generation. -/
lemma Move.generation_eq (move : Move p s a s') (quiet : ¬ Bumps s a) :
    s'.transport.generation = s.transport.generation := by
  cases move with
  | submitted _ submit => cases submit <;> rfl
  | stopped at_pc stop =>
    cases stop with
    | bumped => exact absurd at_pc quiet
    | _ => rfl
  | started at_pc start =>
    cases start with
    | commit => exact absurd at_pc quiet
    | _ => rfl
  | reset _ reset => cases reset <;> rfl
  | _ => rfl

/-- These steps count the generation up. -/
lemma Bumps.generation_eq (bumps : Bumps s a) :
    (s.step p a).transport.generation = s.transport.generation + 1 := by
  cases a with
  | stopStep n =>
    simp only [Bumps] at bumps
    simp only [State.step, stopStep, bumps, setStop]
  | startStep n reply =>
    simp only [Bumps] at bumps
    simp only [State.step, startStep, bumps, setStart]
  | _ => exact bumps.elim

/-- Only the worker takes tokens. -/
lemma granting_eq_none (other : ∀ reply, a ≠ .worker reply) : granting s a = none := by
  cases a with
  | worker reply => exact absurd rfl (other reply)
  | _ => rfl

/-- The worker does not change the generation. -/
lemma WorkerMove.generation_eq (move : WorkerMove p s s') :
    s'.transport.generation = s.transport.generation := by
  cases move with
  | tx _ tx => cases tx <;> rfl
  | rx _ rx => cases rx <;> rfl
  | _ => rfl

/-- A frame on the bus has been checked. -/
lemma WorkerPc.checked_of_sending {pc : WorkerPc} (on : pc.sending = some m) : pc.checked = some m := by
  cases pc with
  | tx burst pc =>
    cases pc with
    | write | done => exact on
    | _ => cases on
  | _ => cases on

/-- A frame that gets a token has been checked. -/
lemma checked_of_granting (grants : granting s a = some m) : s.worker.checked = some m := by
  cases a with
  | worker reply =>
    simp only [granting] at grants
    split at grants
    · rename_i at_pc
      split at grants
      · rw [at_pc]
        exact grants
      · cases grants
    · cases grants
  | _ => cases grants

/-- A frame that a step writes is on the bus. -/
lemma sending_of_writing (writes : writing s a = some m) : s.worker.sending = some m := by
  cases a with
  | worker reply =>
    simp only [writing] at writes
    split at writes
    · rename_i at_pc
      rw [at_pc]
      exact writes
    · cases writes
  | _ => cases writes

/-- A frame that a step completes without an error was on the bus; a stop completes none so. -/
lemma sending_of_completing (completes : completing s a = some (m, rtEok)) :
    s.worker.sending = some m := by
  cases a with
  | worker reply =>
    simp only [completing] at completes
    split at completes
    · rename_i at_pc
      cases completes
      rw [at_pc]
      rfl
    · cases completes
  | stopStep n =>
    simp only [completing] at completes
    split at completes
    · cases completes
    · cases completes
  | _ => cases completes

/-- The next step of the worker writes the frame on the bus, or completes it as sent. -/
lemma worker_of_sending (on : s.worker.sending = some m) :
    writing s (.worker {}) = some m ∨ completing s (.worker {}) = some (m, rtEok) := by
  cases at_pc : s.worker with
  | tx burst pc =>
    rw [at_pc] at on
    cases pc with
    | write =>
      simp only [writing, at_pc]
      exact .inl on
    | done m' result =>
      simp only [WorkerPc.sending, TxPc.sending] at on
      split at on
      · rename_i eok
        cases on
        exact .inr (by simp only [completing, at_pc, eok])
      · cases on
    | _ => cases on
  | _ =>
    rw [at_pc] at on
    cases on

/-- A state is isolated if the frame on the bus has the generation of the transport. -/
lemma isolated_iff :
    Isolated s ↔ ∀ m, s.worker.sending = some m → m.job.generation = s.transport.generation := by
  constructor
  · intro isolated m on
    rcases worker_of_sending on with writes | completes
    · exact isolated.written _ m writes
    · by_contra other
      exact isolated.completed _ m rtEok completes other rfl
  · intro same
    refine ⟨fun a m writes => same m (sending_of_writing writes), fun a m result completes other eok => ?_⟩
    subst eok
    exact other (same m (sending_of_completing completes))

instance (s : State) : Decidable (Isolated s) :=
  decidable_of_iff (∀ m ∈ s.worker.sending, m.job.generation = s.transport.generation)
    isolated_iff.symm

/-- A frame comes to the bus when it gets its token. -/
lemma sending_of_granting {reply : Reply} (grants : granting s (.worker reply) = some m) :
    (s.workerStep p reply).worker.sending = some m := by
  simp only [granting] at grants
  split at grants
  · rename_i burst m' attempt at_pc
    split at grants
    · rename_i found
      cases grants
      simp only [workerStep, at_pc, txStep]
      rw [if_neg (not_not.mpr found.1), if_pos found.2]
      rfl
    · cases grants
  · cases grants

/-- Outside of a poll no frame comes to the bus. -/
lemma TxMove.sending {burst : Nat} {pc : TxPc} (move : TxMove p s burst pc s')
    (other : ∀ m attempt, pc ≠ .poll m attempt) (on : s'.worker.sending = some m) : pc.sending = some m := by
  cases move with
  | written =>
    simp only [goto, WorkerPc.sending, TxPc.sending] at on
    split at on
    · exact on
    · cases on
  | taken => exact absurd rfl (other _ _)
  | failed error => exact absurd rfl (other _ _)
  | enter | leave | empty | dropped | received | stale | fresh | invalid | frame | timeout | token
  | retry | done => cases on

/-- The same of the whole worker. -/
lemma WorkerMove.sending (move : WorkerMove p s s')
    (other : ∀ burst m attempt, s.worker ≠ .tx burst (.poll m attempt))
    (on : s'.worker.sending = some m) : s.worker.sending = some m := by
  cases move with
  | wait => exact on
  | tx at_pc tx =>
    rw [at_pc] at other ⊢
    exact tx.sending (fun m attempt poll => other _ m attempt (by rw [poll])) on
  | rx _ rx =>
    cases rx with
    | failed _ next =>
      rcases next with rfl | rfl
      · cases on
      · cases on
    | _ => cases on
  | take | stopped | running | lock | unlock => cases on

/-- A frame that is on the bus after a step of the worker was there before, or has got its token. -/
lemma sending_workerStep {reply : Reply} (on : (s.workerStep p reply).worker.sending = some m) :
    s.worker.sending = some m ∨ granting s (.worker reply) = some m := by
  by_cases polls : ∃ burst m' attempt, s.worker = .tx burst (.poll m' attempt)
  · obtain ⟨burst, m', attempt, at_pc⟩ := polls
    simp only [workerStep, at_pc, txStep] at on
    split at on
    · rename_i error
      simp only [goto, WorkerPc.sending, TxPc.sending, if_neg error] at on
      cases on
    · rename_i eok
      split at on
      · rename_i found
        cases on
        simp only [granting, at_pc]
        exact .inr (if_pos ⟨not_not.mp eok, found⟩)
      · cases on
  · left
    refine (workerStep_move reply).sending (fun burst m' attempt at_pc => ?_) on
    exact polls ⟨burst, m', attempt, at_pc⟩

end Steps

/-! ## Runs -/

section Runs
variable {p : Platform} {s s' : State} {a : Act}

/-- After a step of the worker: a frame that comes to the bus is the one that got a token. -/
lemma Isolated.worker_iff (isolated : Isolated s) (reply : Reply) :
    Isolated (s.step p (.worker reply)) ↔ Timely s (.worker reply) := by
  rw [isolated_iff] at isolated ⊢
  have same := (workerStep_move (p := p) (s := s) reply).generation_eq
  simp only [State.step, same]
  constructor
  · intro after
    exact ⟨fun bumps => bumps.elim, fun m grants => after m (sending_of_granting grants)⟩
  · intro timely m on
    rcases sending_workerStep on with before | grants
    · exact isolated m before
    · exact timely.token m grants

/-- After a step that changes the generation: the frame on the bus keeps its own. -/
lemma Isolated.bump_iff (isolated : Isolated s) (worker : (s.step p a).worker = s.worker)
    (bumps : Bumps s a) : Isolated (s.step p a) ↔ s.worker.sending = none := by
  rw [isolated_iff] at isolated ⊢
  rw [worker, bumps.generation_eq]
  constructor
  · intro after
    rw [Option.eq_none_iff_forall_ne_some]
    intro m on
    have next : s.transport.generation + 1 = s.transport.generation :=
      (after m on).symm.trans (isolated m on)
    simp at next
  · intro empty m on
    rw [empty] at on
    cases on

/-- From an isolated state, exactly the timely steps lead to an isolated state. -/
lemma Isolated.step_iff (isolated : Isolated s) : Isolated (s.step p a) ↔ Timely s a := by
  by_cases worker : ∃ reply, a = .worker reply
  · obtain ⟨reply, rfl⟩ := worker
    exact isolated.worker_iff reply
  · have none : granting s a = none := granting_eq_none fun reply eq => worker ⟨reply, eq⟩
    have timely_iff : Timely s a ↔ (Bumps s a → s.worker.sending = .none) := by
      refine ⟨Timely.kept, fun kept => ⟨kept, fun m grants => ?_⟩⟩
      rw [none] at grants
      cases grants
    rw [timely_iff]
    rcases step_move (p := p) (s := s) a with ⟨reply, eq, -⟩ | move
    · exact absurd ⟨reply, eq⟩ worker
    · by_cases bumps : Bumps s a
      · rw [isolated.bump_iff move.worker_eq.1 bumps]
        exact ⟨fun empty _ => empty, fun kept => kept bumps⟩
      · refine ⟨fun _ now => absurd now bumps, fun _ => ?_⟩
        rw [isolated_iff] at isolated ⊢
        rw [move.generation_eq bumps, move.worker_eq.1]
        exact isolated

/-- A job that comes in is not on the bus. -/
lemma Isolated.input_iff (isolated : Isolated s) (i : Input) :
    Isolated (s.input p i) ↔ i.Meets Timely s := by
  cases i with
  | job m =>
    refine ⟨fun _ => trivial, fun _ => ?_⟩
    simp only [State.input]
    split
    · exact isolated
    · rw [isolated_iff]
      intro m on
      cases on
  | step a => exact isolated.step_iff

/-- Nothing is written or completed before the first job. -/
lemma Isolated.initial : Isolated State.initial := by
  rw [isolated_iff]
  intro m on
  cases on

end Runs

/-! ## Checked frames -/

/-- A checked frame has the current generation. -/
def Current (s : State) : Prop :=
  ∀ m, s.worker.checked = some m → m.job.generation = s.transport.generation

section Current
variable {p : Platform} {s s' : State} {a : Act}

/-- A frame goes on as it was checked, or becomes checked under the current generation. -/
lemma TxMove.current {burst : Nat} {pc : TxPc} (move : TxMove p s burst pc s')
    (cur : ∀ m, pc.checked = some m → m.job.generation = s.transport.generation) : Current s' := by
  intro m checked
  cases move with
  | fresh same =>
    cases checked
    exact same
  | frame => exact cur m checked
  | token => exact cur m checked
  | retry => exact cur m checked
  | taken => exact cur m checked
  | written =>
    simp only [goto, WorkerPc.checked, TxPc.checked] at checked
    split at checked
    · exact cur m checked
    · cases checked
  | failed error =>
    simp only [goto, WorkerPc.checked, TxPc.checked] at checked
    rw [if_neg error] at checked
    cases checked
  | enter | leave | empty | dropped | received | stale | invalid | timeout | done => cases checked

/-- The worker keeps its checked frame current. -/
lemma WorkerMove.current (move : WorkerMove p s s') (cur : Current s) : Current s' := by
  cases move with
  | wait => exact cur
  | tx at_pc tx =>
    apply tx.current
    intro m checked
    apply cur
    rw [at_pc]
    exact checked
  | rx _ rx =>
    intro m checked
    cases rx with
    | failed _ next =>
      rcases next with rfl | rfl
      · cases checked
      · cases checked
    | _ => cases checked
  | take | stopped | running | lock | unlock =>
    intro m checked
    cases checked

/-- A step that does not disturb a checked frame keeps it current. -/
lemma Current.step (cur : Current s) (quiet : Undisturbed s a) : Current (s.step p a) := by
  rcases step_move (p := p) (s := s) a with ⟨reply, rfl, move⟩ | move
  · exact move.current cur
  · intro m checked
    rw [move.worker_eq.1] at checked
    by_cases bumps : Bumps s a
    · rw [quiet bumps] at checked
      cases checked
    · rw [move.generation_eq bumps]
      exact cur m checked

/-- A job that comes in is not checked yet. -/
lemma Current.input (cur : Current s) {i : Input} (quiet : i.Meets Undisturbed s) :
    Current (s.input p i) := by
  cases i with
  | job m =>
    simp only [State.input]
    split
    · exact cur
    · intro m checked
      cases checked
  | step a => exact cur.step quiet

/-- While checked frames are current, a step that does not disturb them is timely. -/
lemma Current.timely (cur : Current s) (quiet : Undisturbed s a) : Timely s a where
  kept := fun bumps => by
    rw [Option.eq_none_iff_forall_ne_some]
    intro m on
    have checked := WorkerPc.checked_of_sending on
    rw [quiet bumps] at checked
    cases checked
  token := fun m grants => cur m (checked_of_granting grants)

/-- No frame has been checked before the first job. -/
lemma Current.initial : Current State.initial := by
  intro m checked
  cases checked

end Current

/-- The generation does not change under a checked frame: then no frame becomes old on its way. -/
lemma timely_of_undisturbed (p : Platform) {inputs : List Input}
    (quiet : Along (State.input p) (fun s i => i.Meets Undisturbed s) initial inputs) :
    Along (State.input p) (fun s i => i.Meets Timely s) initial inputs := by
  refine quiet.carry (I := Current) (fun _ _ cur => cur.input) (fun s i cur quiet => ?_) .initial
  cases i with
  | job m => trivial
  | step a => exact cur.timely quiet

/-- Through any jobs and steps and whatever `rt_mq_recv` returns, generations are isolated exactly as
    long as all steps are timely; they are if no step disturbs a checked frame. -/
theorem generation_isolated_iff (p : Platform) (inputs : List Input) :
    (Along (State.input p) (fun s i => Isolated (s.input p i)) initial inputs ↔
        Along (State.input p) (fun s i => i.Meets Timely s) initial inputs) ∧
      (Along (State.input p) (fun s i => i.Meets Undisturbed s) initial inputs →
        Along (State.input p) (fun s i => Isolated (s.input p i)) initial inputs) := by
  have agree : Along (State.input p) (fun s i => Isolated (s.input p i)) initial inputs ↔
      Along (State.input p) (fun s i => i.Meets Timely s) initial inputs := by
    refine along_congr (I := Isolated) (fun s i isolated ok => ?_) (fun s i isolated => ?_) .initial
    · exact (isolated.input_iff i).mpr ok
    · exact isolated.input_iff i
  exact ⟨agree, fun quiet => agree.mpr (timely_of_undisturbed p quiet)⟩

/-! ## Sample runs -/

/-- A frame of 64 bytes. -/
def sampleFrame : TxArgs := ⟨0x1000, 64, 0x2000, 0x3000⟩

/-- Steps of the worker for which every access succeeds and reads zero. -/
def workerSteps (count : Nat) : List Input := List.replicate count (.step (.worker {}))

/-- Start `n` with a card, from the call to the return. -/
def startSteps (n : Nat) : List Input := .step .start :: List.replicate 6 (.step (.startStep n {}))

/-- Stop `n` with an empty queue. -/
def stopSteps (n : Nat) : List Input := .step .stop :: List.replicate 3 (.step (.stopStep n))

/-- A card is probed and the transport started. -/
def firstStart : List Input := .step (.probe ⟨0x6666, 1, some (1, 0x2222)⟩) :: startSteps 0

/-- A job up to its first poll, which reads `value` from the token register. -/
def firstPoll (m : Message) (value : UInt32) : List Input :=
  .job m :: workerSteps 3 ++ [.step (.worker { value := value })]

/-- One frame in each of two sessions, and between them a job that is left from the first. -/
def twoSessions : List Input :=
  firstStart ++ firstPoll ⟨0, ⟨sampleFrame, 1⟩⟩ 0x10000 ++ workerSteps 2 ++
    stopSteps 0 ++ startSteps 1 ++
    .job ⟨1, ⟨sampleFrame, 1⟩⟩ :: workerSteps 2 ++
    firstPoll ⟨2, ⟨sampleFrame, 3⟩⟩ 0x10000 ++ workerSteps 2

/-- A stop in the middle of a wait for a token, which ends the wait. -/
def stoppedWait : List Input :=
  firstStart ++ firstPoll ⟨0, ⟨sampleFrame, 1⟩⟩ 0 ++ stopSteps 0 ++ workerSteps 2

/-- A frame is submitted and taken from the queue; a stop and a start fall between the first poll, which
    finds no token, and the second, which finds one. -/
def crossing : List Input :=
  firstStart ++ .step (.submit sampleFrame) :: List.replicate 3 (.step (.submitStep 0)) ++
    workerSteps 7 ++ firstPoll ⟨0, ⟨sampleFrame, 1⟩⟩ 0 ++
    stopSteps 0 ++ startSteps 1 ++ [.step (.worker {}), .step (.worker { value := 0x10000 })]

/-- In the first run two frames are written and the old one is not; in the second the frame of the
    interrupted wait is not. -/
theorem generation_isolated_runs :
    (Along (State.input (.code 16)) (fun s i => Isolated (s.input (.code 16) i)) initial twoSessions ∧
        (twoSessions.foldl (State.input (.code 16)) initial).completions =
          [⟨0, sampleFrame, rtEok⟩, ⟨1, sampleFrame, -rtEIo⟩, ⟨2, sampleFrame, rtEok⟩]) ∧
      Along (State.input (.code 16)) (fun s i => Isolated (s.input (.code 16) i)) initial stoppedWait ∧
        (stoppedWait.foldl (State.input (.code 16)) initial).completions =
          [⟨0, sampleFrame, -rtETimeout⟩] :=
  ⟨⟨(generation_isolated_iff (.code 16) twoSessions).2 (by decide), by decide⟩,
    (generation_isolated_iff (.code 16) stoppedWait).1.mpr (by decide), by decide⟩

/-- The submitted frame has generation 1; it is on the bus under generation 3, and reported as sent. -/
theorem old_frame_in_new_session :
    (crossing.foldl (State.input (.code 16)) initial).worker =
        .tx 0 (.write ⟨0, ⟨sampleFrame, 1⟩⟩) ∧
      (crossing.foldl (State.input (.code 16)) initial).transport.generation = 3 ∧
      ((crossing ++ workerSteps 2).foldl
        (State.input (.code 16)) initial).completions = [⟨0, sampleFrame, rtEok⟩] ∧
      ¬ Along (State.input (.code 16)) (fun s i => Isolated (s.input (.code 16) i)) initial crossing := by
  refine ⟨by decide, by decide, by decide, ?_⟩
  decide

end WlhHpm.Sdio

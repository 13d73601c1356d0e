import WlhHpm.Kernel.Fifo

/-!
# A thread that serves a message queue

`executor_main` and `lifecycle_main` of `packages/wlh_rtt_host/src/wlh_rtt_lifecycle.c` are one loop: a
thread takes jobs off a message queue and does them, while other threads put jobs on it. `Worker` is
the loop over the queue of the kernel, for any kind of job. What the loop compares the answer of
`rt_mq_recv` to is a parameter, `expected`.

`Delivers`: if it is the size of a job, every job that has been accepted is done once, in order; if it
is `RT_EOK`, none is.
-/

namespace WlhHpm.Kernel

/-! ## What a call changes -/

/-- The effects that a call can have. -/
def Effect.Of : Op → Effect → Prop
  | .send buffer _, e => e = .enqueue buffer
  | .urgent buffer, e => e = .push buffer
  | .recv _ _, e => ∃ m, e = .dequeue m
  | .reset, e => e = .clear

namespace MqState
variable {s t : MqState} {i j b : Nat} {c : Call} {op : Op}

/-- What a step of the call `i` changes: the log and its own place; others may be resumed. -/
structure Moves (s : MqState) (i : Nat) (op : Op) (s' : MqState) : Prop where
  log : ∃ new : List Effect, s'.log = s.log ++ new.map (i, ·) ∧ ∀ e ∈ new, e.Of op
  own : ∃ pc, s'.calls[i]? = some ⟨op, pc⟩
  others : ∀ j ≠ i, s'.calls[j]? = s.calls[j]? ∨ ∃ op error,
    s.calls[j]? = some ⟨op, .suspended⟩ ∧ s'.calls[j]? = some ⟨op, .resumed error⟩

/-- Nothing has moved. -/
lemma Moves.refl (is : s.calls[i]? = some c) : s.Moves i c.op s where
  log := ⟨[], (List.append_nil _).symm, nofun⟩
  own := ⟨c.pc, is⟩
  others := fun _ _ => .inl rfl

/-- A call goes on elsewhere and does something to the queue. -/
lemma Moves.goto (is : s.calls[i]? = some c) (pc : Pc) (mq' : RtMessagequeue) (new : List Effect)
    (of : ∀ e ∈ new, e.Of c.op) :
    s.Moves i c.op ⟨mq', s.calls.set i ⟨c.op, pc⟩, s.log ++ new.map (i, ·)⟩ where
  log := ⟨new, rfl, of⟩
  own := ⟨pc, List.getElem?_set_self (List.getElem?_eq_some_iff.mp is).1⟩
  others := fun _ ne => .inl (List.getElem?_set_ne ne.symm)

/-- A call goes on elsewhere and does nothing to the queue. -/
lemma Moves.quiet (is : s.calls[i]? = some c) (pc : Pc) (mq' : RtMessagequeue) :
    s.Moves i c.op ⟨mq', s.calls.set i ⟨c.op, pc⟩, s.log⟩ := by
  have moves := Moves.goto is pc mq' [] nofun
  rwa [List.map_nil, List.append_nil] at moves

/-- Another thread is resumed. -/
lemma Moves.woken (moves : s.Moves i op t) {op' : Op} (is : t.calls[j]? = some ⟨op', .suspended⟩)
    (ne : j ≠ i) (error : Int) : s.Moves i op (t.woken j op' error) where
  log := moves.log
  own := by
    obtain ⟨pc, own⟩ := moves.own
    exact ⟨pc, (List.getElem?_set_ne ne).trans own⟩
  others := by
    intro k other
    by_cases eq : j = k
    · subst eq
      rcases moves.others j ne with same | ⟨op, error, -, resumed⟩
      · exact .inr ⟨op', error, same ▸ is, List.getElem?_set_self (List.getElem?_eq_some_iff.mp is).1⟩
      · cases is.symm.trans resumed
    · rw [show (t.woken j op' error).calls[k]? = t.calls[k]? from List.getElem?_set_ne eq]
      exact moves.others k other

/-- A receiver is resumed by the way. -/
lemma Moves.resumeReceiver (moves : s.Moves i op t) (waiting : t.Waiting)
    (runs : ∀ op, t.calls[i]? ≠ some ⟨op, .suspended⟩) : s.Moves i op t.resumeReceiver := by
  rcases waiting.resumeReceiver with ⟨-, eq⟩ | ⟨j, size, wait, is, eq⟩
  · rw [eq]
    exact moves
  · rw [eq]
    exact moves.woken is (fun eq => runs _ (eq ▸ is)) rtEok

/-- A sender is resumed by the way. -/
lemma Moves.resumeSender (moves : s.Moves i op t) (waiting : t.Waiting)
    (runs : ∀ op, t.calls[i]? ≠ some ⟨op, .suspended⟩) : s.Moves i op t.resumeSender := by
  rcases waiting.resumeSender with ⟨-, eq⟩ | ⟨j, buffer, wait, is, eq⟩
  · rw [eq]
    exact moves
  · rw [eq]
    exact moves.woken is (fun eq => runs _ (eq ▸ is)) rtEok

/-- A call that goes to `pc` is there. -/
lemma runs_set (is : s.calls[i]? = some c) {pc : Pc} (ne : pc ≠ .suspended) (op : Op) :
    (s.calls.set i ⟨c.op, pc⟩)[i]? ≠ some ⟨op, .suspended⟩ := by
  rw [List.getElem?_set_self (List.getElem?_eq_some_iff.mp is).1]
  intro eq
  cases eq
  exact ne rfl

/-- A sender looks for a free block. -/
lemma Moves.takeFree (is : s.calls[i]? = some c) (wait : Bool) :
    s.Moves i c.op (s.takeFree i c wait) := by
  unfold MqState.takeFree
  cases s.mq.msgQueueFree with
  | none =>
    dsimp only
    split_ifs
    · exact Moves.quiet is _ _
    · exact Moves.quiet is _ _
  | some b => exact Moves.quiet is _ _

/-- A receiver looks for a message. -/
lemma Moves.takeMessage {size : Nat} {wait' : Bool} {pc : Pc}
    (is : s.calls[i]? = some ⟨.recv size wait', pc⟩) (wait : Bool) :
    s.Moves i (.recv size wait') (s.takeMessage i ⟨.recv size wait', pc⟩ wait) := by
  unfold MqState.takeMessage
  split_ifs
  · exact Moves.quiet is _ _
  · exact Moves.quiet is _ _
  · cases s.mq.msgQueueHead with
    | none => exact Moves.quiet is _ _
    | some b =>
      refine Moves.goto is (.copy b) (s.mq.unlink b) [.dequeue (s.mq.message b)] fun e mem => ?_
      exact ⟨_, List.mem_singleton.mp mem⟩

/-- A message is linked and announced. -/
lemma Moves.announce (waiting : s.Waiting) {pc : Pc} (is : s.calls[i]? = some ⟨op, pc⟩)
    (runs : pc ≠ .suspended) {mq' : RtMessagequeue} (linked : s.mq.Linked mq') {e : Effect}
    (of : e.Of op) : s.Moves i op (({ s with mq := mq' }.logged i e).announce i ⟨op, pc⟩) := by
  have ofs : ∀ e' ∈ [e], e'.Of op := fun e' mem => List.mem_singleton.mp mem ▸ of
  unfold MqState.announce
  split_ifs
  · refine Moves.resumeReceiver (Moves.goto is (.returned rtEok []) _ [e] ofs)
      (waiting.goto is runs (.returned rtEok []) nofun { mq' with entry := mq'.entry + 1 } _
        linked.suspendThread linked.suspendSenderThread) (runs_set is nofun)
  · exact Moves.goto is (.returned (-rtEFull) []) mq' [e] ofs

/-- What a step of a call changes, if the queue is not reset. -/
lemma callStep_moves (waiting : s.Waiting) (is : s.calls[i]? = some c) (plain : c.op ≠ .reset)
    (expired : Bool) : s.Moves i c.op (s.callStep i c expired) := by
  obtain ⟨op, pc⟩ := c
  cases op with
  | send buffer wait =>
    cases pc with
    | start =>
      change s.Moves i _ (if buffer.length > s.mq.msgSize.toNat then _ else _)
      split_ifs
      · exact Moves.quiet is _ _
      · exact Moves.takeFree is wait
    | resumed error =>
      change s.Moves i _ (if error ≠ rtEok then _ else _)
      split_ifs
      · exact Moves.quiet is _ _
      · exact Moves.takeFree is _
    | fill b => exact Moves.quiet is _ _
    | link b => exact Moves.announce waiting is nofun (RtMessagequeue.linked_linkTail ..) rfl
    | _ => exact Moves.refl is
  | urgent buffer =>
    cases pc with
    | start =>
      change s.Moves i _ (if buffer.length > s.mq.msgSize.toNat then _ else _)
      split_ifs
      · exact Moves.quiet is _ _
      · exact Moves.takeFree is false
    | fill b => exact Moves.quiet is _ _
    | link b => exact Moves.announce waiting is nofun (RtMessagequeue.linked_linkHead ..) rfl
    | _ => exact Moves.refl is
  | recv size wait =>
    cases pc with
    | start => exact Moves.takeMessage is wait
    | resumed error =>
      change s.Moves i _ (if error ≠ rtEok then _ else _)
      split_ifs
      · exact Moves.quiet is _ _
      · exact Moves.takeMessage is _
    | copy b => exact Moves.quiet is _ _
    | release b data =>
      exact Moves.resumeSender (Moves.quiet is (.returned data.length data) (s.mq.giveBack b))
        (waiting.goto is nofun (.returned data.length data) nofun (s.mq.giveBack b) s.log rfl rfl)
        (runs_set is nofun)
    | _ => exact Moves.refl is
  | reset => exact absurd rfl plain

/-- A call does not become another one. -/
lemma Moves.before (moves : s.Moves i op t) {pc : Pc} (is : s.calls[i]? = some ⟨op, pc⟩)
    (after : t.calls[j]? = some c) : ∃ pc, s.calls[j]? = some ⟨c.op, pc⟩ := by
  by_cases eq : j = i
  · subst eq
    obtain ⟨pc', own⟩ := moves.own
    cases own.symm.trans after
    exact ⟨pc, is⟩
  · rcases moves.others j eq with same | ⟨op', error, suspended, resumed⟩
    · exact ⟨c.pc, same.symm.trans after⟩
    · cases resumed.symm.trans after
      exact ⟨_, suspended⟩

/-- The calls keep their operations. -/
lemma Moves.after (moves : s.Moves i op t) {pc : Pc} (is : s.calls[i]? = some ⟨op, pc⟩)
    (before : s.calls[j]? = some c) : ∃ pc, t.calls[j]? = some ⟨c.op, pc⟩ := by
  by_cases eq : j = i
  · subst eq
    cases is.symm.trans before
    exact moves.own
  · rcases moves.others j eq with same | ⟨op', error, suspended, resumed⟩
    · exact ⟨c.pc, same.trans before⟩
    · cases suspended.symm.trans before
      exact ⟨_, resumed⟩

/-- A call that has returned does nothing more. -/
lemma callStep_returned (op : Op) (result : Int) (data : List UInt8) (expired : Bool) :
    s.callStep i ⟨op, .returned result data⟩ expired = s := by
  cases op <;> rfl

end MqState

/-- A call has at most one effect. -/
lemma Call.Explained.length_le {mq : RtMessagequeue} {c : Call} {done : List Effect}
    (explained : c.Explained mq done) : done.length ≤ 1 := by
  obtain ⟨op, pc⟩ := c
  cases pc with
  | link b => rw [explained.1]; exact Nat.zero_le 1
  | copy b => rw [show done = _ from explained]; exact le_rfl
  | release b data =>
    obtain ⟨m, eq, -⟩ := explained
    rw [eq]
    exact le_rfl
  | resumed error => rw [explained.1]; exact Nat.zero_le 1
  | returned result data =>
    cases (show Answer op result data done from explained) with
    | failed => exact Nat.zero_le 1
    | _ => exact le_rfl
  | fault => exact explained.elim
  | _ => rw [show done = [] from explained]; exact Nat.zero_le 1

/-! ## First in, first out -/

/-- What a call has done is in the log. -/
lemma mem_effects {log : List (Nat × Effect)} {i : Nat} {e : Effect} (mem : e ∈ effects log i) :
    e ∈ log.map Prod.snd := by
  obtain ⟨p, mem, eq⟩ := List.mem_filterMap.mp mem
  split_ifs at eq
  exact List.mem_map.mpr ⟨p, mem, Option.some.inj eq⟩

/-- The log after a call has done something. -/
lemma effects_snd (log : List (Nat × Effect)) (i : Nat) (new : List Effect) :
    (log ++ new.map (i, ·)).map Prod.snd = log.map Prod.snd ++ new := by
  rw [List.map_append, List.map_map]
  exact congrArg _ (List.map_id new)

/-- The messages put into the queue. -/
def enqueued (log : List Effect) : List (List UInt8) :=
  log.filterMap fun
    | .enqueue m => some m
    | _ => none

/-- The messages taken out. -/
def dequeued (log : List Effect) : List (List UInt8) :=
  log.filterMap fun
    | .dequeue m => some m
    | _ => none

/-- The messages taken out in two parts of a log. -/
lemma dequeued_append (log new : List Effect) : dequeued (log ++ new) = dequeued log ++ dequeued new :=
  List.filterMap_append

/-- The messages put in, as entries of the log. -/
lemma mem_enqueued {log : List Effect} {m : List UInt8} : m ∈ enqueued log ↔ .enqueue m ∈ log := by
  rw [enqueued, List.mem_filterMap]
  constructor
  · rintro ⟨e, mem, eq⟩
    cases e <;> cases eq
    exact mem
  · exact fun mem => ⟨_, mem, rfl⟩

/-- Without urgent messages and resets, messages leave the queue in the order in which they came. -/
lemma fifo {log : List Effect} (plain : ∀ e ∈ log, (∃ m, e = .enqueue m) ∨ ∃ m, e = .dequeue m)
    {q q' : List (List UInt8)} (run : log.foldlM Effect.apply q = some q') :
    q ++ enqueued log = dequeued log ++ q' := by
  induction log generalizing q with
  | nil =>
    cases run
    exact List.append_nil _
  | cons e log ih =>
    have rest := fun e mem => plain e (List.mem_cons_of_mem _ mem)
    rw [List.foldlM_cons] at run
    rcases plain e List.mem_cons_self with ⟨m, rfl⟩ | ⟨m, rfl⟩
    · have next := ih rest run
      rw [List.append_assoc] at next
      exact next
    · cases q with
      | nil => cases run
      | cons m' q =>
        simp only [Effect.apply] at run
        split_ifs at run with eq
        · subst eq
          exact congrArg (m' :: ·) (ih rest run)
        · cases run

/-! ## The thread -/

/-- A kind of job: how it stands in a message, which jobs may be posted, and which are done. -/
structure JobKind (J : Type) where
  size : Nat
  bytes : J → List UInt8
  ofBytes : List UInt8 → J
  valid : J → Bool
  runs : J → Bool
  length_bytes : ∀ job, (bytes job).length = size
  ofBytes_bytes : ∀ job, ofBytes (bytes job) = job
  runs_of_valid : ∀ job, valid job = true → runs job = true
  pos : 0 < size
  noError : (size : Int) ∉ errors

/-- Where the thread stands. -/
inductive WorkerPc (J : Type) where
  | loop
  /-- In the call of `rt_mq_recv` with this number. -/
  | recv (i : Nat)
  | run (job : J)
  | ended

/-- A thread with its queue, and the jobs that it has done, with their results. -/
structure Worker (J R : Type) where
  queue : MqState
  pc : WorkerPc J
  done : List (J × R)

/-- A job is posted, or a call on the queue goes on, or the thread. -/
inductive WorkerAct (J R : Type) where
  | post (job : J)
  | call (i : Nat)
  | work (initialized : Bool) (result : R)

namespace Worker
variable {J R : Type} (K : JobKind J) (expected : Int)

/-- The thread's loop. -/
def work (w : Worker J R) (initialized : Bool) (result : R) : Worker J R :=
  match w.pc with
  | .loop =>
    if initialized then
      { w with
        queue := w.queue.step (.call (.recv K.size true))
        pc := .recv w.queue.calls.length }
    else { w with pc := .ended }
  | .recv i =>
    match w.queue.calls[i]? with
    | some ⟨_, .returned answer data⟩ =>
      if answer = expected ∧ K.runs (K.ofBytes data) then { w with pc := .run (K.ofBytes data) }
      else { w with pc := .loop }
    | _ => w
  | .run job => { w with pc := .loop, done := w.done ++ [(job, result)] }
  | .ended => w

def step (w : Worker J R) : WorkerAct J R → Worker J R
  | .post job =>
    if K.valid job then { w with queue := w.queue.step (.call (.send (K.bytes job) false)) } else w
  | .call i => { w with queue := w.queue.step (.go i false) }
  | .work initialized result => w.work K expected initialized result

/-- A thread whose queue has been created. -/
def initial (maxMsgs : UInt16) (pool : Nat → RtMqMessage) : Worker J R where
  queue := .initial (.ofNat K.size) maxMsgs pool
  pc := .loop
  done := []

/-- The jobs put on the queue, in order. -/
def posted (w : Worker J R) : List J := (enqueued (w.queue.log.map Prod.snd)).map K.ofBytes

/-- The jobs taken off the queue, in order. -/
def taken (w : Worker J R) : List J := (dequeued (w.queue.log.map Prod.snd)).map K.ofBytes

/-- The message that the thread has taken and not done yet. -/
def pending (w : Worker J R) : List (List UInt8) :=
  match w.pc with
  | .recv i => dequeued (effects w.queue.log i)
  | .run job => [K.bytes job]
  | _ => []

/-- What holds in every state. -/
structure Inv (n : UInt16) (w : Worker J R) : Prop where
  sound : w.queue.Sound n
  ops : ∀ (i : Nat) (c : Call), w.queue.calls[i]? = some c → c.op = .recv K.size true ∨
    ∃ job, K.valid job = true ∧ c.op = .send (K.bytes job) false
  plain : ∀ e ∈ w.queue.log.map Prod.snd,
    (∃ job, K.valid job = true ∧ e = .enqueue (K.bytes job)) ∨ ∃ m, e = .dequeue m
  /-- Only one call of `rt_mq_recv` is under way. -/
  busy : ∀ (i : Nat) (pc : Pc), w.queue.calls[i]? = some ⟨.recv K.size true, pc⟩ →
    w.pc = .recv i ∨ ∃ result data, pc = .returned result data
  current : ∀ i, w.pc = .recv i → ∃ pc, w.queue.calls[i]? = some ⟨.recv K.size true, pc⟩
  account : expected = K.size →
    dequeued (w.queue.log.map Prod.snd) = w.done.map (fun d => K.bytes d.1) ++ w.pending K
  never : expected = rtEok → w.done = [] ∧ ∀ job, w.pc ≠ .run job

variable {K expected} {n : UInt16} {w : Worker J R}

/-- Messages are jobs, and come out in the order in which they went in. -/
lemma Inv.fifo (inv : w.Inv K expected n) : ∃ q : List (List UInt8),
    q.length = w.queue.mq.entry.toNat ∧
      enqueued (w.queue.log.map Prod.snd) = dequeued (w.queue.log.map Prod.snd) ++ q := by
  obtain ⟨⟨q, f, books⟩, -⟩ := inv.sound
  have plain : ∀ e ∈ w.queue.log.map Prod.snd, (∃ m, e = .enqueue m) ∨ ∃ m, e = .dequeue m :=
    fun e mem => (inv.plain e mem).imp (fun ⟨job, _, eq⟩ => ⟨_, eq⟩) id
  exact ⟨_, by rw [List.length_map, books.entry], Kernel.fifo plain books.content⟩

/-- A message that has been taken is a job that was posted. -/
lemma Inv.is_job (inv : w.Inv K expected n) {m : List UInt8}
    (mem : m ∈ dequeued (w.queue.log.map Prod.snd)) : ∃ job, K.valid job = true ∧ m = K.bytes job := by
  obtain ⟨q, -, eq⟩ := inv.fifo
  have put : m ∈ enqueued (w.queue.log.map Prod.snd) := eq ▸ List.mem_append_left q mem
  rcases inv.plain _ (mem_enqueued.mp put) with ⟨job, valid, eq⟩ | ⟨m', eq⟩
  · cases eq
    exact ⟨job, valid, rfl⟩
  · cases eq

/-- The invariant holds at the beginning. -/
lemma inv_initial (maxMsgs : UInt16) (pool : Nat → RtMqMessage) :
    (initial K maxMsgs pool : Worker J R).Inv K expected maxMsgs where
  sound := MqState.sound_initial _ _ _
  ops := nofun
  plain := nofun
  busy := nofun
  current := nofun
  account := fun _ => rfl
  never := fun _ => ⟨rfl, nofun⟩

/-- A job is posted. -/
lemma Inv.post (inv : w.Inv K expected n) {job : J} (valid : K.valid job = true) :
    Worker.Inv K expected n
      { w with queue := w.queue.step (.call (.send (K.bytes job) false)) } where
  sound := inv.sound.call _
  ops := by
    intro i c is
    rcases MqState.called_get.mp is with old | ⟨-, rfl⟩
    · exact inv.ops i c old
    · exact .inr ⟨job, valid, rfl⟩
  plain := inv.plain
  busy := by
    intro i pc is
    rcases MqState.called_get.mp is with old | ⟨-, eq⟩
    · exact inv.busy i pc old
    · cases eq
  current := by
    intro i at_pc
    obtain ⟨pc, is⟩ := inv.current i at_pc
    exact ⟨pc, MqState.called_get.mpr (.inl is)⟩
  account := inv.account
  never := inv.never

/-- The thread calls `rt_mq_recv`. -/
lemma Inv.call_recv (inv : w.Inv K expected n) (at_pc : w.pc = .loop) :
    Worker.Inv K expected n
      { w with
        queue := w.queue.step (.call (.recv K.size true))
        pc := .recv w.queue.calls.length } where
  sound := inv.sound.call _
  ops := by
    intro i c is
    rcases MqState.called_get.mp is with old | ⟨-, rfl⟩
    · exact inv.ops i c old
    · exact .inl rfl
  plain := inv.plain
  busy := by
    intro i pc is
    rcases MqState.called_get.mp is with old | ⟨rfl, -⟩
    · rcases inv.busy i pc old with at_pc' | returned
      · rw [at_pc] at at_pc'
        cases at_pc'
      · exact .inr returned
    · exact .inl rfl
  current := by
    rintro i ⟨⟩
    exact ⟨.start, MqState.called_get.mpr (.inr ⟨rfl, rfl⟩)⟩
  account := by
    intro good
    obtain ⟨⟨q, f, books⟩, -⟩ := inv.sound
    have none : effects w.queue.log w.queue.calls.length = [] := books.fresh _ le_rfl
    have account := inv.account good
    simp only [pending, at_pc] at account
    simp only [pending]
    change dequeued (w.queue.log.map Prod.snd) = _ ++ dequeued (effects w.queue.log w.queue.calls.length)
    rw [none]
    exact account
  never := fun bad => ⟨(inv.never bad).1, nofun⟩

/-- The thread goes on, and what it has taken stays what it was. -/
lemma Inv.move (inv : w.Inv K expected n) {pc : WorkerPc J} {done : List (J × R)}
    (idle : ∀ i, pc ≠ .recv i)
    (returned : ∀ i pc', w.pc = .recv i → w.queue.calls[i]? = some ⟨.recv K.size true, pc'⟩ →
      ∃ result data, pc' = .returned result data)
    (account : expected = K.size → done.map (fun d => K.bytes d.1) ++
      (Worker.mk w.queue pc done).pending K = w.done.map (fun d => K.bytes d.1) ++ w.pending K)
    (never : expected = rtEok → done = [] ∧ ∀ job, pc ≠ .run job) :
    Worker.Inv K expected n ⟨w.queue, pc, done⟩ where
  sound := inv.sound
  ops := inv.ops
  plain := inv.plain
  busy := by
    intro i pc' is
    rcases inv.busy i pc' is with at_pc | before
    · exact .inr (returned i pc' at_pc is)
    · exact .inr before
  current := fun i at_pc => absurd at_pc (idle i)
  account := fun good => (inv.account good).trans (account good).symm
  never := never

/-- What the thread has taken, after a step of a call. -/
lemma Inv.taken_step (inv : w.Inv K expected n) {i : Nat} {op : Op} {pc : Pc}
    (is : w.queue.calls[i]? = some ⟨op, pc⟩) (runs : ∀ result data, pc ≠ .returned result data)
    {new : List Effect} (of : ∀ e ∈ new, e.Of op) {t : MqState}
    (log : t.log = w.queue.log ++ new.map (i, ·)) :
    (Worker.mk t w.pc w.done).pending K = w.pending K ++ dequeued new := by
  rcases inv.ops i _ is with rfl | ⟨job, -, rfl⟩
  · rcases inv.busy i pc is with at_pc | ⟨result, data, eq⟩
    · simp only [pending, at_pc, log]
      rw [effects_append_self, dequeued_append]
    · exact absurd eq (runs result data)
  · have none : dequeued new = [] := by
      rw [dequeued, List.filterMap_eq_nil_iff]
      intro e mem
      rw [show e = .enqueue (K.bytes job) from of e mem]
    rw [none, List.append_nil]
    cases at_pc : w.pc with
    | recv j =>
      have ne : i ≠ j := by
        rintro rfl
        obtain ⟨pc', is'⟩ := inv.current i at_pc
        cases is.symm.trans is'
      simp only [pending, at_pc, log]
      rw [effects_append_of_ne _ ne]
    | _ => simp only [pending, at_pc]

/-- A call on the queue goes on. -/
lemma Inv.call (inv : w.Inv K expected n) (i : Nat) :
    Worker.Inv K expected n { w with queue := w.queue.step (.go i false) } := by
  cases is : w.queue.calls[i]? with
  | none =>
    simp only [MqState.step, is]
    exact inv
  | some c =>
    simp only [MqState.step, is]
    obtain ⟨op, pc⟩ := c
    by_cases returned : ∃ result data, pc = .returned result data
    · obtain ⟨result, data, rfl⟩ := returned
      rw [MqState.callStep_returned]
      exact inv
    have runs : ∀ result data, pc ≠ .returned result data := fun result data eq =>
      returned ⟨result, data, eq⟩
    have plain : op ≠ .reset := by
      rintro rfl
      rcases inv.ops i _ is with eq | ⟨job, -, eq⟩ <;> cases eq
    have moves := MqState.callStep_moves inv.sound.2 is plain false
    have sound := inv.sound.callStep is false
    generalize w.queue.callStep i ⟨op, pc⟩ false = t at moves sound ⊢
    obtain ⟨new, log, of⟩ := moves.log
    refine ⟨sound, fun j c after => ?_, ?_, fun j pc' after => ?_, fun j at_pc => ?_, fun good => ?_,
      inv.never⟩
    · obtain ⟨pc', before⟩ := moves.before is after
      exact inv.ops j ⟨c.op, pc'⟩ before
    · intro e mem
      change e ∈ t.log.map Prod.snd at mem
      rw [log, effects_snd] at mem
      rcases List.mem_append.mp mem with old | mem
      · exact inv.plain e old
      · rcases inv.ops i _ is with rfl | ⟨job, valid, rfl⟩
        · exact .inr (of e mem)
        · exact .inl ⟨job, valid, of e mem⟩
    · by_cases eq : j = i
      · subst eq
        obtain ⟨pc'', before⟩ := moves.before is after
        cases is.symm.trans before
        exact .inl ((inv.busy j pc is).resolve_right returned)
      · rcases moves.others j eq with same | ⟨op', error, suspended, resumed⟩
        · exact inv.busy j pc' (same.symm.trans after)
        · cases resumed.symm.trans after
          refine .inl ((inv.busy j .suspended suspended).resolve_right ?_)
          rintro ⟨result, data, eq⟩
          cases eq
    · obtain ⟨pc', before⟩ := inv.current j at_pc
      exact moves.after is before
    · have taken := inv.taken_step is runs of log
      change dequeued (t.log.map Prod.snd) = _ ++ (Worker.mk t w.pc w.done).pending K
      rw [log, effects_snd, dequeued_append, inv.account good, taken, List.append_assoc]

/-- The call of `rt_mq_recv` has returned. -/
lemma Inv.received (inv : w.Inv K expected n) {i : Nat} (at_pc : w.pc = .recv i) {op : Op}
    {answer : Int} {data : List UInt8} (is : w.queue.calls[i]? = some ⟨op, .returned answer data⟩) :
    answer ∈ errors ∧ effects w.queue.log i = [] ∨ ∃ job, K.valid job = true ∧ answer = K.size ∧
      data = K.bytes job ∧ effects w.queue.log i = [.dequeue (K.bytes job)] := by
  obtain ⟨⟨q, f, books⟩, -⟩ := inv.sound
  have answered : Answer op answer data (effects w.queue.log i) := books.calls i _ is
  obtain ⟨pc, is'⟩ := inv.current i at_pc
  cases is.symm.trans is'
  generalize eq : effects w.queue.log i = done at answered
  cases answered with
  | failed error => exact .inl ⟨error, rfl⟩
  | @received _ _ m =>
    have inside : Effect.dequeue m ∈ effects w.queue.log i := eq ▸ List.mem_singleton_self _
    have mem : m ∈ dequeued (w.queue.log.map Prod.snd) :=
      List.mem_filterMap.mpr ⟨_, mem_effects inside, rfl⟩
    obtain ⟨job, valid, rfl⟩ := inv.is_job mem
    have whole : (K.bytes job).take K.size = K.bytes job :=
      List.take_of_length_le (K.length_bytes job).le
    rw [whole]
    exact .inr ⟨job, valid, congrArg _ (K.length_bytes job), rfl, rfl⟩

/-- The thread looks at what `rt_mq_recv` has returned. -/
lemma Inv.look (inv : w.Inv K expected n) {i : Nat} (at_pc : w.pc = .recv i) {op : Op} {answer : Int}
    {data : List UInt8} (is : w.queue.calls[i]? = some ⟨op, .returned answer data⟩) :
    Worker.Inv K expected n
      (if answer = expected ∧ K.runs (K.ofBytes data) then { w with pc := .run (K.ofBytes data) }
      else { w with pc := .loop }) := by
  have gone : ∀ j pc', w.pc = .recv j → w.queue.calls[j]? = some ⟨.recv K.size true, pc'⟩ →
      ∃ result data, pc' = .returned result data := by
    intro j pc' at_pc' is'
    rw [at_pc] at at_pc'
    cases at_pc'
    cases is.symm.trans is'
    exact ⟨answer, data, rfl⟩
  have holds : w.pending K = dequeued (effects w.queue.log i) := by simp only [pending, at_pc]
  rcases inv.received at_pc is with ⟨error, none⟩ | ⟨job, valid, size, rfl, done⟩
  · -- the call has failed, and no job is taken
    have idle : w.pending K = [] := by rw [holds, none]; rfl
    split_ifs with test
    · refine inv.move nofun gone (fun good => ?_) fun bad => ?_
      · exact absurd (good ▸ test.1 ▸ error) K.noError
      · rw [← test.1] at bad
        rw [bad] at error
        exact absurd error (by decide)
    · refine inv.move nofun gone (fun _ => ?_) fun bad => ⟨(inv.never bad).1, nofun⟩
      rw [idle]
      rfl
  · -- a job has been taken
    have one : w.pending K = [K.bytes job] := by rw [holds, done]; rfl
    rw [K.ofBytes_bytes]
    split_ifs with test
    · refine inv.move nofun gone (fun _ => ?_) fun bad => ?_
      · rw [one]
        rfl
      · have pos := K.pos
        rw [← test.1, size] at bad
        exact absurd (Int.natCast_eq_zero.mp bad) (by omega)
    · refine inv.move nofun gone (fun good => ?_) fun bad => ⟨(inv.never bad).1, nofun⟩
      exact absurd ⟨size.trans good.symm, K.runs_of_valid job valid⟩ test

/-- The thread goes on. -/
lemma Inv.work (inv : w.Inv K expected n) (initialized : Bool) (result : R) :
    (w.work K expected initialized result).Inv K expected n := by
  have elsewhere : ∀ {pc : WorkerPc J}, w.pc = pc → (∀ i, pc ≠ .recv i) → ∀ i pc', w.pc = .recv i →
      w.queue.calls[i]? = some ⟨.recv K.size true, pc'⟩ → ∃ result data, pc' = .returned result data :=
    fun at_pc other i _ eq => absurd (at_pc.symm.trans eq) (other i)
  unfold Worker.work
  cases at_pc : w.pc with
  | loop =>
    dsimp only
    split_ifs
    · exact inv.call_recv at_pc
    · refine inv.move nofun (elsewhere at_pc nofun) (fun _ => ?_) fun bad => ⟨(inv.never bad).1, nofun⟩
      simp only [pending, at_pc]
  | recv i =>
    dsimp only
    split
    · next answer data is => exact inv.look at_pc is
    · exact inv
  | run job =>
    refine inv.move nofun (elsewhere at_pc nofun) (fun _ => ?_) fun bad =>
      absurd at_pc ((inv.never bad).2 job)
    simp only [pending, at_pc, List.map_append, List.append_nil]
    rfl
  | ended => exact inv

/-- Every step keeps the invariant. -/
lemma Inv.step (inv : w.Inv K expected n) (a : WorkerAct J R) :
    (w.step K expected a).Inv K expected n := by
  cases a with
  | post job =>
    simp only [Worker.step]
    split_ifs with valid
    · exact inv.post valid
    · exact inv
  | call i => exact inv.call i
  | work initialized result => exact inv.work initialized result

/-- What becomes of the jobs: those whose post has returned `RT_EOK` have been put on the queue, and they
    come off it in the order in which they were put on it. If the thread expects the size of a job,
    those that have come off are done once each, in this order, all but one that it has in hand; if it
    expects `RT_EOK`, it does none. -/
structure Delivers (K : JobKind J) (expected : Int) (w : Worker J R) : Prop where
  accepted : ∀ (i : Nat) (job : J) (data : List UInt8),
    w.queue.calls[i]? = some ⟨.send (K.bytes job) false, .returned rtEok data⟩ → job ∈ w.posted K
  inOrder : ∃ waiting : List J, waiting.length = w.queue.mq.entry.toNat ∧
    w.posted K = w.taken K ++ waiting
  once : expected = K.size → ∃ inHand : List J, inHand.length ≤ 1 ∧
    w.taken K = w.done.map Prod.fst ++ inHand
  never : expected = rtEok → w.done = []

/-- What the invariant says about the jobs. -/
lemma Inv.delivers (inv : w.Inv K expected n) : w.Delivers K expected where
  accepted := by
    intro i job data is
    obtain ⟨⟨q, f, books⟩, -⟩ := inv.sound
    have answered : Answer _ rtEok data (effects w.queue.log i) := books.calls i _ is
    have put : Effect.enqueue (K.bytes job) ∈ effects w.queue.log i := by
      generalize effects w.queue.log i = done at answered
      cases answered with
      | failed error => exact absurd error (by decide)
      | sent => exact List.mem_singleton_self _
    exact List.mem_map.mpr ⟨_, mem_enqueued.mpr (mem_effects put), K.ofBytes_bytes job⟩
  inOrder := by
    obtain ⟨q, length, eq⟩ := inv.fifo
    refine ⟨q.map K.ofBytes, (List.length_map _).trans length, ?_⟩
    rw [posted, eq, List.map_append]
    rfl
  once := by
    intro good
    refine ⟨(w.pending K).map K.ofBytes, ?_, ?_⟩
    · rw [List.length_map]
      unfold pending
      cases at_pc : w.pc with
      | recv i =>
        obtain ⟨pc, is⟩ := inv.current i at_pc
        obtain ⟨⟨q, f, books⟩, -⟩ := inv.sound
        exact (List.length_filterMap_le _ _).trans (books.calls i _ is).length_le
      | run job => exact le_rfl
      | _ => exact Nat.zero_le _
    · rw [taken, inv.account good, List.map_append, List.map_map]
      congr 1
      exact List.map_congr_left fun d _ => K.ofBytes_bytes d.1
  never := fun bad => (inv.never bad).1

end Worker

end WlhHpm.Kernel

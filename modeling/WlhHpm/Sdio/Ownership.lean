import WlhHpm.Lib.Custody
import WlhHpm.Sdio.Moves

/-!
# Who owns a frame

From the moment `rt_mq_send` takes it, a frame is in the TX queue, in the hands of a consumer of the
queue (the worker or a `transport_stop` that drains it), or its `done` callback has been called. The
books of the transport (`books`) record this as a custody of the submits: every step of every thread
keeps, accepts or gives back frames (`step_books`), except an `rt_mq_recv` that takes a message from
the queue and returns something other than `RT_EOK`, for then both consumers drop the message
(`step_loses`).

Were `rt_mq_recv` to return `RT_EOK`, as its callers expect, every accepted frame would have exactly
one owner in every run (`whole_of_eok`). It returns the length of the message, so the frames are
owned exactly as long as no consumer has taken one (`transmit_ownership_iff`).
-/

namespace WlhHpm.Sdio
open State

/-! ## The books -/

/-- The message in the hands of the worker inside `drain_tx`. -/
def TxPc.held : TxPc → List Message
  | .loop => []
  | .recv => []
  | .generation m => [m]
  | .frame m => [m]
  | .token m _ => [m]
  | .poll m _ => [m]
  | .write m => [m]
  | .done m _ => [m]

/-- The message in the hands of the worker. -/
def WorkerPc.held : WorkerPc → List Message
  | .tx _ pc => pc.held
  | _ => []

/-- The message in the hands of a `transport_stop`. -/
def StopPc.held : StopPc → List Message
  | .done m => [m]
  | _ => []

/-- `rt_mq_send` has taken the frame: the submit has returned `RT_EOK` or is about to. -/
def Submit.Accepted (r : Submit) : Prop := r.pc = .release ∨ r.pc = .returned rtEok

instance (r : Submit) : Decidable r.Accepted := inferInstanceAs (Decidable (_ ∨ _))

/-- A message by its submit and the arguments of its callback. -/
def Message.item (m : Message) : Nat × TxArgs := (m.submit, m.job.toTxArgs)

def Completion.item (c : Completion) : Nat × TxArgs := (c.submit, c.args)

/-- The items of a list of messages. -/
def items (l : List Message) : Multiset (Nat × TxArgs) := l.map Message.item

/-- The items in the hands of the calls of `transport_stop`. -/
def stopItems : List StopPc → Multiset (Nat × TxArgs)
  | [] => 0
  | pc :: stops => items pc.held + stopItems stops

/-- The arguments of the accepted submits. -/
def acceptedArgs (submits : List Submit) (n : Nat) : Option TxArgs :=
  (submits[n]?.filter fun r => r.Accepted).map Submit.args

/-- The books of the transport. -/
def books (s : State) : Custody Nat TxArgs where
  accepted := acceptedArgs s.submits
  kept := items s.transport.txQueue + items s.worker.held + stopItems s.stops
  returned := (s.completions.map Completion.item : List _)

section Books
variable {p : Platform} {s s' : State}

/-- The books see the queue, the consumers, the submits and the callbacks. -/
lemma books_congr (queue : s'.transport.txQueue = s.transport.txQueue)
    (held : s'.worker.held = s.worker.held) (stops : stopItems s'.stops = stopItems s.stops)
    (submits : acceptedArgs s'.submits = acceptedArgs s.submits)
    (completions : s'.completions = s.completions) : books s' = books s := by
  simp only [books, queue, held, stops, submits, completions]

/-- A step that leaves the frames and the hands of the consumers alone. -/
structure Same (s s' : State) : Prop where
  queue : s'.transport.txQueue = s.transport.txQueue
  held : s'.worker.held = s.worker.held
  stops : s'.stops = s.stops
  submits : s'.submits = s.submits
  completions : s'.completions = s.completions

/-- Such a step leaves the books alone. -/
lemma Same.books (same : Same s s') : books s' = books s := by
  apply books_congr same.queue same.held ?_ ?_ same.completions
  · rw [same.stops]
  · rw [same.submits]

/-- Books that have not changed are kept. -/
lemma keep_of_eq (eq : books s' = books s) : Custody.Step (books s) (books s') := by
  rw [eq]
  exact .keep

/-- The worker goes on with the same message in its hands, or with none. -/
lemma goto_books {t : Transport} {pc : WorkerPc} (queue : t.txQueue = s.transport.txQueue)
    (held : pc.held = s.worker.held) : Custody.Step (books s) (books (s.goto t pc)) :=
  keep_of_eq (books_congr queue held rfl rfl rfl)

/-- An empty list has no items. -/
@[simp] lemma items_nil : items [] = 0 := rfl

/-- The items of a longer list. -/
@[simp] lemma items_cons (m : Message) (l : List Message) : items (m :: l) = m.item ::ₘ items l := rfl

/-- The items of two lists. -/
lemma items_append (l l' : List Message) : items (l ++ l') = items l + items l' := by
  simp only [items, List.map_append, Multiset.coe_add]

/-- A callback is called. -/
lemma returned_append (l : List Completion) (m : Message) (result : Int) :
    (((l ++ [m.completion result]).map Completion.item : List _) : Multiset (Nat × TxArgs)) =
      m.item ::ₘ (l.map Completion.item : List _) := by
  rw [List.map_append, ← Multiset.coe_add]
  exact add_comm ..

/-- A stop goes on, with or without a message in its hands. -/
lemma stopItems_set {stops : List StopPc} {n : Nat} {pc₀ : StopPc} (is : stops[n]? = some pc₀)
    (pc : StopPc) :
    stopItems (stops.set n pc) + items pc₀.held = stopItems stops + items pc.held := by
  induction stops generalizing n with
  | nil => cases is
  | cons head stops ih =>
    cases n with
    | zero =>
      cases is
      simp only [List.set_cons_zero, stopItems]
      abel
    | succ n =>
      simp only [List.set_cons_succ, stopItems]
      rw [add_assoc, ih is, add_assoc]

/-- The items in the hands of two groups of stops. -/
lemma stopItems_append (stops stops' : List StopPc) :
    stopItems (stops ++ stops') = stopItems stops + stopItems stops' := by
  induction stops with
  | nil => exact (zero_add _).symm
  | cons pc stops ih =>
    simp only [List.cons_append, stopItems]
    rw [ih, add_assoc]

/-- A submit goes on. -/
lemma acceptedArgs_modify {submits : List Submit} {n : Nat} {r : Submit} (is : submits[n]? = some r)
    (pc : SubmitPc) :
    acceptedArgs (submits.modify n fun r => { r with pc := pc }) =
      Function.update (acceptedArgs submits) n
        (if Submit.Accepted ⟨r.args, pc⟩ then some r.args else none) := by
  funext m
  by_cases e : m = n
  · rw [e, Function.update_self]
    simp only [acceptedArgs, List.getElem?_modify, is]
    by_cases acc : Submit.Accepted ⟨r.args, pc⟩
    · simp [acc]
    · simp [acc]
  · rw [Function.update_of_ne e]
    simp only [acceptedArgs, List.getElem?_modify, if_neg (Ne.symm e)]
    simp

/-- The arguments of a submit that has been accepted. -/
lemma acceptedArgs_of_some {submits : List Submit} {n : Nat} {r : Submit}
    (is : submits[n]? = some r) :
    acceptedArgs submits n = if r.Accepted then some r.args else none := by
  simp only [acceptedArgs, is]
  by_cases acc : r.Accepted
  · simp [acc]
  · simp [acc]

/-- A submit goes on without becoming accepted. -/
lemma acceptedArgs_same {submits : List Submit} {n : Nat} {r : Submit} (is : submits[n]? = some r)
    {pc : SubmitPc} (same : Submit.Accepted ⟨r.args, pc⟩ ↔ r.Accepted) :
    acceptedArgs (submits.modify n fun r => { r with pc := pc }) = acceptedArgs submits := by
  rw [acceptedArgs_modify is, Function.update_eq_self_iff, acceptedArgs_of_some is]
  simp only [same]

end Books

/-! ## Steps of the worker -/

section Worker
variable {p : Platform} {s s' : State} {burst : Nat}

/-- `drain_rx` leaves the frames alone. -/
lemma RxMove.same {pc : RxPc} (move : RxMove p s burst pc s') (idle : s.worker.held = []) :
    Same s s' := by
  cases move with
  | failed inside next =>
    rcases next with rfl | rfl
    · exact ⟨rfl, idle.symm, rfl, rfl, rfl⟩
    · exact ⟨rfl, idle.symm, rfl, rfl, rfl⟩
  | _ => exact ⟨rfl, idle.symm, rfl, rfl, rfl⟩

/-- `drain_tx` keeps a message in its hands until it calls the callback. -/
lemma TxMove.books_step {pc : TxPc} (move : TxMove p s burst pc s') (at_pc : s.worker = .tx burst pc)
    (ok : p.received = rtEok ∨ ¬ (pc = .recv ∧ s.transport.txQueue ≠ [])) :
    Custody.Step (books s) (books s') := by
  have held : s.worker.held = pc.held := by rw [at_pc]; rfl
  cases move with
  | dropped queue failed =>
    have busy : s.transport.txQueue ≠ [] := by
      rw [queue]
      exact List.cons_ne_nil _ _
    exact absurd ⟨rfl, busy⟩ (ok.resolve_left failed)
  | received queue eok =>
    -- the message moves from the head of the queue into the hands of the worker
    refine keep_of_eq ?_
    simp only [books, goto, queue, at_pc, WorkerPc.held, TxPc.held, items_cons, items_nil, add_zero,
      Multiset.add_cons, Multiset.cons_add]
  | @done m result stats =>
    have mine : (books s).kept =
        m.item ::ₘ (items s.transport.txQueue + items [] + stopItems s.stops) := by
      simp only [books, at_pc, WorkerPc.held, TxPc.held, items_cons, items_nil, add_zero,
        Multiset.add_cons, Multiset.cons_add]
    have after : books { s.goto { s.transport with stats := stats } (.tx (burst + 1) .loop) with
          completions := s.completions ++ [m.completion result] } = ⟨(books s).accepted,
        items s.transport.txQueue + items [] + stopItems s.stops, m.item ::ₘ (books s).returned⟩ := by
      simp only [books, goto, WorkerPc.held, TxPc.held, returned_append]
    rw [after]
    exact .giveBack mine
  | _ => exact goto_books rfl held.symm

end Worker

/-! ## Steps -/

/-- The step is an `rt_mq_recv` of a consumer that takes a message. -/
def Receives (s : State) : Act → Prop
  | .worker _ => (∃ burst, s.worker = .tx burst .recv) ∧ s.transport.txQueue ≠ []
  | .stopStep n => s.stops[n]? = some .recv ∧ s.transport.txQueue ≠ []
  | _ => False

section Steps
variable {p : Platform} {s s' : State}

/-- A step of the worker moves a frame from one account to another at most, unless it loses the one it
    takes from the queue. -/
lemma WorkerMove.books_step (move : WorkerMove p s s') (reply : Reply)
    (ok : p.received = rtEok ∨ ¬ Receives s (.worker reply)) :
    Custody.Step (books s) (books s') := by
  cases move with
  | wait at_pc => exact .keep
  | rx at_pc move => exact keep_of_eq (move.same (by rw [at_pc]; rfl)).books
  | tx at_pc move =>
    refine move.books_step at_pc (ok.imp id fun idle => ?_)
    rintro ⟨rfl, busy⟩
    exact idle ⟨⟨_, at_pc⟩, busy⟩
  | _ at_pc => exact goto_books rfl (by rw [at_pc]; rfl)

/-- A stop that goes on with the same messages in its hands. -/
lemma setStop_books {n : Nat} {pc₀ pc : StopPc} (is : s.stops[n]? = some pc₀)
    (same : pc.held = pc₀.held) {t : Transport} (queue : t.txQueue = s.transport.txQueue) :
    books (s.setStop n t pc) = books s := by
  refine books_congr queue rfl ?_ rfl rfl
  have set := stopItems_set is pc
  rw [same] at set
  exact add_right_cancel set

/-- A step of a stop moves a frame from one account to another at most, unless it loses the one it takes
    from the queue. -/
lemma StopMove.books_step {n : Nat} {pc pc' : StopPc} {t : Transport} {called : List Completion}
    (move : StopMove p s.transport pc t pc' called) (at_pc : s.stops[n]? = some pc)
    (ok : p.received = rtEok ∨ ¬ (pc = .recv ∧ s.transport.txQueue ≠ [])) :
    Custody.Step (books s)
      (books { s.setStop n t pc' with completions := s.completions ++ called }) := by
  have quiet : ∀ t pc', { s.setStop n t pc' with completions := s.completions ++ [] } =
      s.setStop n t pc' := by
    intro t pc'
    rw [List.append_nil]
    rfl
  have set := stopItems_set at_pc
  cases move with
  | halted =>
    rw [quiet]
    apply keep_of_eq
    apply setStop_books at_pc
    · rfl
    · rfl
  | bumped =>
    rw [quiet]
    apply keep_of_eq
    apply setStop_books at_pc
    · rfl
    · rfl
  | empty queue =>
    rw [quiet]
    apply keep_of_eq
    apply setStop_books at_pc
    · rfl
    · rfl
  | dropped queue failed =>
    have busy : s.transport.txQueue ≠ [] := by
      rw [queue]
      exact List.cons_ne_nil _ _
    exact absurd ⟨rfl, busy⟩ (ok.resolve_left failed)
  | @received m rest queue eok =>
    -- the message moves from the head of the queue into the hands of the stop
    have moved := set (.done m)
    simp only [StopPc.held, items_nil, add_zero, items_cons, Multiset.add_cons] at moved
    rw [quiet]
    refine keep_of_eq ?_
    simp only [books, setStop, queue, moved, items_cons, Multiset.add_cons, Multiset.cons_add]
  | @done m =>
    have gone := set .recv
    simp only [StopPc.held, items_nil, add_zero, items_cons, Multiset.add_cons] at gone
    have mine : (books s).kept = m.item ::ₘ (items s.transport.txQueue + items s.worker.held +
        stopItems (s.stops.set n .recv)) := by
      simp only [books, ← gone, Multiset.add_cons]
    have after : books { s.setStop n
          { s.transport with stats.txErrors := s.transport.stats.txErrors + 1 } .recv with
          completions := s.completions ++ [m.completion (-rtEIo)] } = ⟨(books s).accepted,
        items s.transport.txQueue + items s.worker.held + stopItems (s.stops.set n .recv),
        m.item ::ₘ (books s).returned⟩ := by
      simp only [books, setStop, returned_append]
    rw [after]
    exact .giveBack mine

/-- A submit that does not send leaves the frames alone. -/
lemma setSubmit_books {n : Nat} {r : Submit} (is : s.submits[n]? = some r) {pc : SubmitPc}
    (same : Submit.Accepted ⟨r.args, pc⟩ ↔ r.Accepted) {t : Transport}
    (queue : t.txQueue = s.transport.txQueue) : books (s.setSubmit n t pc) = books s :=
  books_congr queue rfl rfl (acceptedArgs_same is same) rfl

/-- A submit that `rt_mq_send` has taken is a new item. -/
lemma send_books {n : Nat} {args : TxArgs} {generation : UInt32}
    (is : s.submits[n]? = some ⟨args, .send generation⟩) :
    Custody.Step (books s) (books (s.setSubmit n { s.transport with
      txQueue := s.transport.txQueue ++ [⟨n, { args with generation := generation }⟩] } .release)) := by
  have new : (books s).accepted n = none := by
    simp only [books]
    rw [acceptedArgs_of_some is]
    exact if_neg (by simp [Submit.Accepted])
  have after : books (s.setSubmit n { s.transport with
      txQueue := s.transport.txQueue ++ [⟨n, { args with generation := generation }⟩] } .release) =
        ⟨Function.update (books s).accepted n (some args), (n, args) ::ₘ (books s).kept,
          (books s).returned⟩ := by
    simp only [books, setSubmit]
    rw [acceptedArgs_modify is, if_pos (.inl rfl), items_append, add_assoc, add_assoc,
      add_left_comm, ← add_assoc (items s.transport.txQueue)]
    rfl
  rw [after]
  exact .accept new

/-- A submit enters its frame in the books when the queue takes it. -/
lemma SubmitMove.books_step {n : Nat} {args : TxArgs} {pc pc' : SubmitPc} {t : Transport}
    (move : SubmitMove p n s.transport args pc t pc') (is : s.submits[n]? = some ⟨args, pc⟩) :
    Custody.Step (books s) (books (s.setSubmit n t pc')) := by
  cases move with
  | refused _ => exact keep_of_eq (setSubmit_books is (by simp [Submit.Accepted, rtEInval, rtEok]) rfl)
  | accepted _ => exact keep_of_eq (setSubmit_books is (by simp [Submit.Accepted]) rfl)
  | full _ => exact keep_of_eq (setSubmit_books is (by simp [Submit.Accepted, rtEFull, rtEok]) rfl)
  | sent _ => exact send_books is
  | released => exact keep_of_eq (setSubmit_books is (by simp [Submit.Accepted]) rfl)

/-- `transport_start` leaves the queue alone. -/
lemma StartMove.txQueue_eq {t t' : Transport} {pc pc' : StartPc} (move : StartMove t pc t' pc') :
    t'.txQueue = t.txQueue := by
  cases move <;> rfl

/-- `transport_soft_reset` leaves the queue alone. -/
lemma ResetMove.txQueue_eq {t t' : Transport} {error : Int} {pc pc' : ResetPc}
    (move : ResetMove t error pc t' pc') : t'.txQueue = t.txQueue := by
  cases move <;> rfl

/-- A call of `transport_submit_tx` is not accepted yet. -/
lemma acceptedArgs_call (submits : List Submit) (args : TxArgs) :
    acceptedArgs (submits ++ [⟨args, .check⟩]) = acceptedArgs submits := by
  funext n
  rcases Nat.lt_trichotomy n submits.length with lt | rfl | gt
  · simp only [acceptedArgs, List.getElem?_append_left lt]
  · simp [acceptedArgs, Submit.Accepted]
  · have old : submits[n]? = none := List.getElem?_eq_none (Nat.le_of_lt gt)
    have new : (submits ++ [⟨args, .check⟩])[n]? = none := by
      apply List.getElem?_eq_none
      rw [List.length_append]
      exact gt
    simp only [acceptedArgs, old, new]

/-- Every step but one of the worker moves or enters a frame at most, unless it loses the one it takes
    from the queue. -/
lemma Move.books_step {a : Act} (move : Move p s a s')
    (ok : p.received = rtEok ∨ ¬ Receives s a) : Custody.Step (books s) (books s') := by
  cases move with
  | idle => exact .keep
  | submit => exact keep_of_eq (books_congr rfl rfl rfl (acceptedArgs_call ..) rfl)
  | submitted is move => exact move.books_step is
  | stop =>
    refine keep_of_eq (books_congr rfl rfl ?_ rfl rfl)
    exact (stopItems_append ..).trans (add_zero _)
  | stopped at_pc move =>
    refine move.books_step at_pc (ok.imp id fun idle => ?_)
    rintro ⟨rfl, busy⟩
    exact idle ⟨at_pc, busy⟩
  | started _ move => exact keep_of_eq (books_congr move.txQueue_eq rfl rfl rfl rfl)
  | reset _ move => exact keep_of_eq (books_congr move.txQueue_eq rfl rfl rfl rfl)
  | _ => exact keep_of_eq (books_congr rfl rfl rfl rfl rfl)

/-- Every step but an `rt_mq_recv` that fails with a message keeps the books in order. -/
lemma step_books (a : Act) (ok : p.received = rtEok ∨ ¬ Receives s a) :
    Custody.Step (books s) (books (step p s a)) := by
  rcases step_move a with ⟨reply, rfl, move⟩ | move
  · exact move.books_step reply ok
  · exact move.books_step ok

/-- An `rt_mq_recv` that takes a message without returning `RT_EOK` loses the frame: `drain_tx`
    leaves its loop and `transport_stop` returns. -/
lemma step_loses (a : Act) (bad : ¬ (p.received = rtEok ∨ ¬ Receives s a)) :
    Custody.Lost (books s) (books (step p s a)) := by
  rw [not_or, not_not] at bad
  obtain ⟨failed, rec⟩ := bad
  cases a with
  | worker reply =>
    obtain ⟨⟨burst, at_pc⟩, busy⟩ := rec
    obtain ⟨m, rest, queue⟩ := List.exists_cons_of_ne_nil busy
    have mine : (books s).kept = m.item ::ₘ (items rest + items [] + stopItems s.stops) := by
      simp only [books, queue, at_pc, WorkerPc.held, TxPc.held, items_cons, Multiset.cons_add]
    have after : books (step p s (.worker reply)) = ⟨(books s).accepted,
        items rest + items [] + stopItems s.stops, (books s).returned⟩ := by
      simp only [step, workerStep, at_pc, txStep, queue, rtMqRecv, ne_eq, failed, not_false_eq_true,
        if_true]
      rfl
    rw [after]
    exact .lose mine
  | stopStep n =>
    obtain ⟨at_pc, busy⟩ := rec
    obtain ⟨m, rest, queue⟩ := List.exists_cons_of_ne_nil busy
    have same := stopItems_set at_pc .returned
    simp only [StopPc.held, items_nil, add_zero] at same
    have mine : (books s).kept =
        m.item ::ₘ (items rest + items s.worker.held + stopItems s.stops) := by
      simp only [books, queue, items_cons, Multiset.cons_add]
    have after : books (step p s (.stopStep n)) = ⟨(books s).accepted,
        items rest + items s.worker.held + stopItems s.stops, (books s).returned⟩ := by
      simp only [step, stopStep, at_pc, queue, rtMqRecv, failed, if_false, books, setStop, same]
    rw [after]
    exact .lose mine
  | _ => exact absurd rec id

end Steps

/-! ## Runs -/

section Runs
variable {p : Platform}

/-- The books are sound before any frame. -/
lemma initial_sound : (books initial).Sound where
  kept x mem := by cases mem
  returned x mem := by cases mem
  once _ := Nat.zero_le 1

/-- Nothing is missing before any frame. -/
lemma initial_whole : (books initial).Whole := by
  intro n acc
  exact absurd rfl acc

/-- In every run, the books name accepted submits with their own arguments, each at most once. -/
lemma run_sound (p : Platform) (acts : List Act) : (books (run p acts)).Sound :=
  Custody.sound_foldl (fun _ => step_books) (fun _ => step_loses) acts initial_sound

/-- If `rt_mq_recv` returned `RT_EOK` for a message, every accepted frame would be in the queue, in
    the hands of a consumer or completed, exactly once, in every run. -/
theorem whole_of_eok (eok : p.received = rtEok) (acts : List Act) : (books (run p acts)).Whole := by
  refine (Custody.whole_iff_along (fun _ => step_books) (fun _ => step_loses) acts initial_sound
    initial_whole).mpr ?_
  exact .of_forall fun _ _ _ => .inl eok

end Runs

/-! ## The code -/

/-- No consumer has a message in its hands. -/
def EmptyHanded (s : State) : Prop := s.worker.held = [] ∧ ∀ pc ∈ s.stops, pc.held = []

section EmptyHanded
variable {p : Platform} {s s' : State}

/-- If a successful receive is not `RT_EOK`, the worker gets no message into its hands inside
    `drain_tx`. -/
lemma TxMove.held_nil {burst : Nat} {pc : TxPc} (move : TxMove p s burst pc s')
    (failed : p.received ≠ rtEok) (empty : pc.held = []) : s'.worker.held = [] := by
  cases move with
  | enter | leave | empty | dropped => rfl
  | received _ eok => exact absurd eok failed
  -- the other places of `drain_tx` have a message in their hands
  | _ => cases empty

/-- Nor does the worker get one into its hands anywhere else. -/
lemma EmptyHanded.worker (failed : p.received ≠ rtEok) (empty : EmptyHanded s)
    (move : WorkerMove p s s') : EmptyHanded s' := by
  cases move with
  | wait at_pc => exact empty
  | rx at_pc move =>
    have same := move.same empty.1
    refine ⟨same.held.trans empty.1, ?_⟩
    rw [same.stops]
    exact empty.2
  | tx at_pc move =>
    have held := empty.1
    rw [at_pc] at held
    refine ⟨move.held_nil failed held, ?_⟩
    have stops : s'.stops = s.stops := by cases move <;> rfl
    rw [stops]
    exact empty.2
  | _ at_pc => exact ⟨rfl, empty.2⟩

/-- A stop goes on with empty hands. -/
lemma EmptyHanded.set (empty : EmptyHanded s) {n : Nat} {pc : StopPc} (held : pc.held = []) :
    ∀ pc' ∈ s.stops.set n pc, pc'.held = [] := by
  intro pc' mem
  rcases List.mem_or_eq_of_mem_set mem with old | rfl
  · exact empty.2 pc' old
  · exact held

/-- Nor does a stop get one into its hands. -/
lemma StopMove.held_nil {t t' : Transport} {pc pc' : StopPc} {called : List Completion}
    (move : StopMove p t pc t' pc' called) (failed : p.received ≠ rtEok) : pc'.held = [] := by
  cases move with
  | received _ eok => exact absurd eok failed
  | _ => rfl

/-- Consumers that take every message for an error never have one in their hands. -/
lemma EmptyHanded.step (failed : p.received ≠ rtEok) (empty : EmptyHanded s) (a : Act) :
    EmptyHanded (step p s a) := by
  rcases step_move (p := p) (s := s) a with ⟨reply, rfl, move⟩ | move
  · exact empty.worker failed move
  · generalize State.step p s a = s' at move
    cases move with
    | stop =>
      refine ⟨empty.1, fun pc mem => ?_⟩
      rcases List.mem_append.mp mem with old | new
      · exact empty.2 pc old
      · cases List.mem_singleton.mp new
        rfl
    | stopped at_pc move => exact ⟨empty.1, empty.set (move.held_nil failed)⟩
    | _ => exact empty

/-- No consumer has a message before any frame. -/
lemma EmptyHanded.initial : EmptyHanded State.initial := by
  refine ⟨rfl, fun pc mem => ?_⟩
  cases mem

/-- No consumer ever gets a message into its hands. -/
lemma EmptyHanded.run (failed : p.received ≠ rtEok) (acts : List Act) :
    EmptyHanded (run p acts) :=
  foldl_invariant (I := EmptyHanded) (fun _ a empty => empty.step failed a) acts .initial

/-- With empty hands there are no items in the hands of the stops. -/
lemma EmptyHanded.stopItems (empty : EmptyHanded s) : stopItems s.stops = 0 := by
  have zero : ∀ stops : List StopPc, (∀ pc ∈ stops, pc.held = []) → Sdio.stopItems stops = 0 := by
    intro stops
    induction stops with
    | nil => exact fun _ => rfl
    | cons pc stops ih =>
      intro held
      simp only [Sdio.stopItems, held pc List.mem_cons_self, items_nil, zero_add]
      exact ih fun pc' mem => held pc' (List.mem_cons_of_mem _ mem)
  exact zero s.stops empty.2

end EmptyHanded

/-- Every accepted frame has one owner, and the `done` callbacks are those of accepted frames, called
    at most once and with the arguments of the submit. -/
structure Owned (s : State) : Prop where
  /-- In the TX queue once, or in the hands of the worker, or completed. -/
  owner : ∀ n r, s.submits[n]? = some r → r.Accepted →
    s.transport.txQueue.countP (fun m => m.submit = n) +
      s.worker.held.countP (fun m => m.submit = n) +
      s.completions.countP (fun c => c.submit = n) = 1
  once : ∀ n, s.completions.countP (fun c => c.submit = n) ≤ 1
  own : ∀ c ∈ s.completions, ∃ r, s.submits[c.submit]? = some r ∧ r.Accepted ∧ r.args = c.args

section Owned
variable {s : State}

/-- The items of a submit are its messages. -/
lemma countP_items (l : List Message) (n : Nat) :
    (items l).countP (fun x => x.1 = n) = l.countP fun m => m.submit = n := by
  rw [items, Multiset.coe_countP, List.countP_map]
  rfl

/-- The items of a submit in the books are its messages and its callbacks. -/
lemma total_books (empty : EmptyHanded s) (n : Nat) :
    (books s).total n = s.transport.txQueue.countP (fun m => m.submit = n) +
      s.worker.held.countP (fun m => m.submit = n) +
      s.completions.countP (fun c => c.submit = n) := by
  simp only [Custody.total, books, Multiset.countP_add, countP_items, empty.stopItems, add_zero]
  rw [Multiset.coe_countP, List.countP_map]
  rfl

/-- The arguments in the books are those of an accepted submit. -/
lemma acceptedArgs_eq_some {submits : List Submit} {n : Nat} {args : TxArgs} :
    acceptedArgs submits n = some args ↔ ∃ r, submits[n]? = some r ∧ r.Accepted ∧ r.args = args := by
  simp only [acceptedArgs, Option.map_eq_some_iff, Option.filter_eq_some_iff, decide_eq_true_eq,
    and_assoc]

/-- With no message in their hands, sound and whole books say that every frame is owned. -/
lemma owned_iff (sound : (books s).Sound) (empty : EmptyHanded s) : Owned s ↔ (books s).Whole := by
  constructor
  · intro owned n acc
    obtain ⟨args, is⟩ := Option.ne_none_iff_exists'.mp acc
    obtain ⟨r, rn, accepted, -⟩ := acceptedArgs_eq_some.mp is
    rw [total_books empty]
    exact owned.owner n r rn accepted
  · intro whole
    constructor
    case owner =>
      intro n r rn accepted
      rw [← total_books empty]
      apply whole
      have is := acceptedArgs_eq_some.mpr ⟨r, rn, accepted, rfl⟩
      simp only [books]
      rw [is]
      exact Option.some_ne_none _
    case once =>
      intro n
      have once := sound.once n
      rw [total_books empty] at once
      exact (Nat.le_add_left ..).trans once
    case own =>
      intro c mem
      have mem' : c.item ∈ (books s).returned :=
        Multiset.mem_coe.mpr (List.mem_map_of_mem (f := Completion.item) mem)
      exact acceptedArgs_eq_some.mp (sound.returned c.item mem')

end Owned

/-- In every run of the code, all frames are owned exactly as long as no `rt_mq_recv` of the worker or
    of `transport_stop` has found a message in the queue. -/
theorem transmit_ownership_iff (headerSize : UInt32) (acts : List Act) :
    Owned (run (.code headerSize) acts) ↔
      Along (step (.code headerSize)) (fun s a => ¬ Receives s a) initial acts := by
  have failed : (Platform.code headerSize).received ≠ rtEok := by
    simp [Platform.code, rtEok]
  rw [owned_iff (run_sound _ acts) (.run failed acts)]
  have lossless : (books (run (.code headerSize) acts)).Whole ↔ Along (step (.code headerSize))
      (fun s a => (Platform.code headerSize).received = rtEok ∨ ¬ Receives s a) initial acts :=
    Custody.whole_iff_along (fun _ => step_books) (fun _ => step_loses) acts initial_sound
      initial_whole
  simp only [failed, false_or] at lossless
  exact lossless

/-- The first frame after a start is gone with the first pass of the worker: its submit has returned
    `RT_EOK`, and it is not in the queue, not in the hands of the worker and not completed. -/
theorem first_frame_dropped :
    ¬ Owned (run (.code 16)
      [.probe ⟨0x6666, 1, some (1, 0x2222)⟩, .start, .startStep 0 {}, .startStep 0 {},
        .startStep 0 {}, .startStep 0 {}, .startStep 0 {}, .startStep 0 {},
        .submit ⟨0x1000, 64, 0x2000, 0x3000⟩, .submitStep 0, .submitStep 0, .submitStep 0,
        .worker {}, .worker {}, .worker {}, .worker {}, .worker {}, .worker {}, .worker {}]) := by
  intro owned
  have one := owned.owner 0 ⟨⟨0x1000, 64, 0x2000, 0x3000⟩, .returned rtEok⟩ (by decide) (.inr rfl)
  exact absurd one (by decide)

end WlhHpm.Sdio

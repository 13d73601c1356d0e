import WlhHpm.Kernel.Fifo

/-!
# No wake-up is lost

A receiver that waits while there are messages must not wait for good: another receiver has been
resumed and is about to look for them. Likewise for senders and free blocks. `Awake` counts the threads
that have been resumed, and says that there are enough of them; while a message or a block has been put
on its list and nobody has been told, one is missing.
-/

namespace WlhHpm.Kernel

/-- A receiver that has been resumed and has not looked for a message yet. -/
def Call.resumedReceiver (c : Call) : Bool :=
  match c.op, c.pc with
  | .recv _ _, .resumed error => error = rtEok
  | _, _ => false

/-- A sender that has been resumed and has not looked for a free block yet. -/
def Call.resumedSender (c : Call) : Bool :=
  match c.op, c.pc with
  | .send _ _, .resumed error => error = rtEok
  | _, _ => false

def Call.holds (c : Call) : Bool := c.block.isSome

/-- A call that cannot go on by itself. -/
def Call.Rests (c : Call) : Prop := c.pc = .suspended ∨ ∃ result data, c.pc = .returned result data

/-- One call in a list is replaced. -/
lemma countP_set {calls : List Call} {i : Nat} {c : Call} (p : Call → Bool)
    (is : calls[i]? = some c) (c' : Call) :
    (calls.set i c').countP p + (p c).toNat = calls.countP p + (p c').toNat := by
  obtain ⟨lt, eq⟩ := List.getElem?_eq_some_iff.mp is
  have old := (List.getElem_cons_eraseIdx_perm lt).countP_eq p
  have new := (List.set_perm_cons_eraseIdx lt c').countP_eq p
  rw [eq, List.countP_cons] at old
  rw [List.countP_cons] at new
  rw [new, ← old]
  cases p c <;> cases p c' <;> simp

namespace MqState
variable {s : MqState} {n : UInt16} {i j b d d' : Nat} {c : Call} {q f : List Nat}

/-- Enough threads have been resumed: all but `d` receivers and `d'` senders. -/
structure Awake (s : MqState) (n : UInt16) (d d' : Nat) : Prop where
  receivers : s.mq.suspendThread ≠ [] →
    s.mq.entry.toNat ≤ s.calls.countP Call.resumedReceiver + d
  senders : s.mq.suspendSenderThread ≠ [] → n.toNat ≤
    s.mq.entry.toNat + s.calls.countP Call.holds + s.calls.countP Call.resumedSender + d'

/-- A call goes on. It takes no more messages and no more blocks than it gives, if others wait for them;
    or there are none. -/
lemma Awake.goto (awake : s.Awake n 0 0) (is : s.calls[i]? = some c) (c' : Call)
    (mq' : RtMessagequeue) (log' : List (Nat × Effect))
    (messages : mq'.suspendThread ≠ [] → mq'.entry.toNat = 0 ∨ s.mq.suspendThread ≠ [] ∧
      mq'.entry.toNat + c.resumedReceiver.toNat ≤ s.mq.entry.toNat + c'.resumedReceiver.toNat + d)
    (blocks : mq'.suspendSenderThread ≠ [] →
      n.toNat ≤ mq'.entry.toNat + (s.calls.set i c').countP Call.holds ∨
      s.mq.suspendSenderThread ≠ [] ∧
        s.mq.entry.toNat + c.holds.toNat + c.resumedSender.toNat ≤
          mq'.entry.toNat + c'.holds.toNat + c'.resumedSender.toNat + d') :
    (MqState.mk mq' (s.calls.set i c') log').Awake n d d' := by
  have receivers := countP_set Call.resumedReceiver is c'
  have holders := countP_set Call.holds is c'
  have senders := countP_set Call.resumedSender is c'
  refine ⟨fun wait => ?_, fun wait => ?_⟩
  · change mq'.entry.toNat ≤ (s.calls.set i c').countP Call.resumedReceiver + d
    rcases messages wait with none | ⟨wait', le⟩
    · omega
    · have := awake.receivers wait'
      omega
  · change n.toNat ≤ mq'.entry.toNat + (s.calls.set i c').countP Call.holds +
      (s.calls.set i c').countP Call.resumedSender + d'
    rcases blocks wait with none | ⟨wait', le⟩
    · omega
    · have := awake.senders wait'
      omega

/-- A thread that waits is resumed. -/
lemma Awake.woken (awake : s.Awake n d d') {op : Op} (is : s.calls[j]? = some ⟨op, .suspended⟩)
    (error : Int) {e e' : Nat} (le : d ≤ e + (Call.mk op (.resumed error)).resumedReceiver.toNat)
    (le' : d' ≤ e' + (Call.mk op (.resumed error)).resumedSender.toNat) :
    (s.woken j op error).Awake n e e' := by
  have none : Call.resumedReceiver ⟨op, .suspended⟩ = false := by cases op <;> rfl
  have none' : Call.resumedSender ⟨op, .suspended⟩ = false := by cases op <;> rfl
  have receivers := countP_set Call.resumedReceiver is ⟨op, .resumed error⟩
  have holders := countP_set Call.holds is ⟨op, .resumed error⟩
  have senders := countP_set Call.resumedSender is ⟨op, .resumed error⟩
  rw [none, Bool.toNat_false, add_zero] at receivers
  rw [none', Bool.toNat_false, add_zero] at senders
  have same : Call.holds ⟨op, .resumed error⟩ = Call.holds ⟨op, .suspended⟩ := rfl
  rw [same] at holders
  refine ⟨fun wait => ?_, fun wait => ?_⟩
  · have := awake.receivers (mt (congrArg (List.erase · j)) wait)
    change s.mq.entry.toNat ≤ (s.calls.set j ⟨op, .resumed error⟩).countP Call.resumedReceiver + e
    omega
  · have := awake.senders (mt (congrArg (List.erase · j)) wait)
    change n.toNat ≤ s.mq.entry.toNat + (s.calls.set j ⟨op, .resumed error⟩).countP Call.holds +
      (s.calls.set j ⟨op, .resumed error⟩).countP Call.resumedSender + e'
    omega

/-- A message has been linked, and a receiver is told. -/
lemma Awake.resumeReceiver (awake : s.Awake n 1 d') (waiting : s.Waiting) :
    s.resumeReceiver.Awake n 0 d' := by
  rcases waiting.resumeReceiver with ⟨none, eq⟩ | ⟨j, size, wait, is, eq⟩
  · rw [eq]
    exact ⟨fun some => absurd none some, awake.senders⟩
  · rw [eq]
    exact awake.woken is rtEok le_rfl (Nat.le_add_right d' _)

/-- A block has been given back, and a sender is told. -/
lemma Awake.resumeSender (awake : s.Awake n d 1) (waiting : s.Waiting) :
    s.resumeSender.Awake n d 0 := by
  rcases waiting.resumeSender with ⟨none, eq⟩ | ⟨j, buffer, wait, is, eq⟩
  · rw [eq]
    exact ⟨awake.receivers, fun some => absurd none some⟩
  · rw [eq]
    exact awake.woken is rtEok (Nat.le_add_right d _) le_rfl

/-- The blocks of the pool, counted. -/
lemma Books.count (books : s.Books n q f) :
    s.mq.entry.toNat + f.length + s.calls.countP Call.holds = n.toNat := by
  have card := congrArg Multiset.card books.blocks
  rw [holdings] at card
  simp only [Multiset.card_add, Multiset.coe_card, Multiset.card_range,
    List.length_filterMap_eq_countP] at card
  rw [books.entry]
  exact card

/-- A sender looks for a free block. -/
lemma Awake.takeFree (awake : s.Awake n 0 0) (books : s.Books n q f) {op : Op} {pc : Pc}
    (is : s.calls[i]? = some ⟨op, pc⟩) (pcs : pc = .start ∨ ∃ error, pc = .resumed error)
    (sends : ∀ size wait, op ≠ .recv size wait) (wait : Bool) :
    (s.takeFree i ⟨op, pc⟩ wait).Awake n 0 0 := by
  have idle : Call.holds ⟨op, pc⟩ = false := by rcases pcs with rfl | ⟨error, rfl⟩ <;> rfl
  have sender : ∀ pc, Call.resumedReceiver ⟨op, pc⟩ = false := by
    intro pc
    cases op with
    | recv size wait => exact absurd rfl (sends size wait)
    | _ => rfl
  have one := Bool.toNat_le (Call.resumedSender ⟨op, pc⟩)
  unfold MqState.takeFree
  cases head : s.mq.msgQueueFree with
  | none =>
    have count := books.count
    rw [books.free.eq_none_iff.mp head, List.length_nil, add_zero] at count
    have stay : ∀ pc', Call.holds ⟨op, pc'⟩ = false →
        n.toNat ≤ s.mq.entry.toNat + (s.calls.set i ⟨op, pc'⟩).countP Call.holds := by
      intro pc' out
      have same := countP_set Call.holds is ⟨op, pc'⟩
      rw [idle, out, add_left_inj] at same
      omega
    have go : ∀ pc' mq', Call.holds ⟨op, pc'⟩ = false → mq'.suspendThread = s.mq.suspendThread →
        mq'.entry = s.mq.entry → (MqState.mk mq' (s.calls.set i ⟨op, pc'⟩) s.log).Awake n 0 0 := by
      intro pc' mq' out same entry
      refine awake.goto is ⟨op, pc'⟩ mq' s.log (fun wait => .inr ⟨same ▸ wait, ?_⟩) fun _ => .inl ?_
      · rw [sender, sender, entry]
        exact le_rfl
      · rw [entry]
        exact stay pc' out
    dsimp only
    split_ifs
    · exact go .suspended { s.mq with suspendSenderThread := s.mq.suspendSenderThread ++ [i] } rfl rfl
        rfl
    · exact go (.returned (-rtEFull) []) s.mq rfl rfl rfl
  | some b =>
    refine awake.goto is ⟨op, .fill b⟩ { s.mq with msgQueueFree := (s.mq.pool b).next } s.log
      (fun wait => .inr ⟨wait, ?_⟩) fun wait => .inr ⟨wait, ?_⟩
    · rw [sender, sender]
      exact le_rfl
    · have holds : Call.holds ⟨op, .fill b⟩ = true := rfl
      rw [idle, holds, Bool.toNat_false, Bool.toNat_true]
      change s.mq.entry.toNat + 0 + _ ≤ s.mq.entry.toNat + 1 + _ + 0
      omega

/-- A receiver looks for a message. -/
lemma Awake.takeMessage (awake : s.Awake n 0 0) (books : s.Books n q f) {size : Nat}
    {wait' wait : Bool} {pc : Pc} (is : s.calls[i]? = some ⟨.recv size wait', pc⟩)
    (pcs : pc = .start ∨ ∃ error, pc = .resumed error) :
    (s.takeMessage i ⟨.recv size wait', pc⟩ wait).Awake n 0 0 := by
  have idle : Call.holds ⟨.recv size wait', pc⟩ = false := by
    rcases pcs with rfl | ⟨error, rfl⟩ <;> rfl
  have receiver : ∀ pc, Call.resumedSender ⟨.recv size wait', pc⟩ = false := fun _ => rfl
  have one := Bool.toNat_le (Call.resumedReceiver ⟨.recv size wait', pc⟩)
  unfold MqState.takeMessage
  split_ifs with empty
  · refine awake.goto is ⟨.recv size wait', .suspended⟩
      { s.mq with suspendThread := s.mq.suspendThread ++ [i] } s.log
      (fun _ => .inl (congrArg UInt16.toNat empty)) fun wait => .inr ⟨wait, ?_⟩
    rw [idle, receiver, receiver]
    exact le_rfl
  · refine awake.goto is ⟨.recv size wait', .returned (-rtETimeout) []⟩ s.mq s.log
      (fun _ => .inl (congrArg UInt16.toNat empty)) fun wait => .inr ⟨wait, ?_⟩
    rw [idle, receiver, receiver]
    exact le_rfl
  · cases head : s.mq.msgQueueHead with
    | none =>
      have none := books.queue.eq_none_iff.mp head
      have entry := books.entry
      rw [none] at entry
      exact absurd (UInt16.toNat_inj.mp entry) empty
    | some b =>
      have less := RtMessagequeue.entry_unlink empty b
      refine awake.goto is ⟨.recv size wait', .copy b⟩ (s.mq.unlink b) _
        (fun wait => .inr ⟨wait, ?_⟩) fun wait => .inr ⟨wait, ?_⟩
      · omega
      · rw [idle, receiver, receiver]
        change s.mq.entry.toNat + 0 + 0 ≤ (s.mq.unlink b).entry.toNat + 1 + 0 + 0
        omega

/-- A call that nobody waits for goes on. -/
lemma Awake.run (awake : s.Awake n 0 0) (is : s.calls[i]? = some c) (c' : Call)
    (mq' : RtMessagequeue) (log' : List (Nat × Effect)) (entry : mq'.entry = s.mq.entry)
    (same : mq'.suspendThread = s.mq.suspendThread)
    (same' : mq'.suspendSenderThread = s.mq.suspendSenderThread)
    (receiver : c.resumedReceiver = false) (sender : c.resumedSender = false)
    (holds : c.holds.toNat ≤ c'.holds.toNat + d') :
    (MqState.mk mq' (s.calls.set i c') log').Awake n 0 d' := by
  refine awake.goto is c' mq' log' (fun wait => .inr ⟨same ▸ wait, ?_⟩)
    fun wait => .inr ⟨same' ▸ wait, ?_⟩
  · rw [entry, receiver]
    exact Nat.le_add_right _ _
  · rw [entry, sender, Bool.toNat_false]
    omega

/-- A message has been linked. -/
lemma Awake.announce (awake : s.Awake n 0 0) (books : s.Books n q f) (waiting : s.Waiting) {op : Op}
    (is : s.calls[i]? = some ⟨op, .link b⟩) {mq' : RtMessagequeue} (linked : s.mq.Linked mq')
    (e : Effect) : (({ s with mq := mq' }.logged i e).announce i ⟨op, .link b⟩).Awake n 0 0 := by
  have receiver : Call.resumedReceiver ⟨op, .link b⟩ = false := by cases op <;> rfl
  have sender : Call.resumedSender ⟨op, .link b⟩ = false := by cases op <;> rfl
  have holds : Call.holds ⟨op, .link b⟩ = true := rfl
  have more : (mq'.entry + 1).toNat = s.mq.entry.toNat + 1 := by
    rw [linked.entry, (books.room is rfl).2, books.entry]
  rw [books.announce_eq is linked]
  refine Awake.resumeReceiver (awake.goto is _ _ _ (fun wait => .inr ⟨linked.suspendThread ▸ wait, ?_⟩)
    fun wait => .inr ⟨linked.suspendSenderThread ▸ wait, ?_⟩) (waiting.goto is nofun
      (.returned rtEok []) nofun _ _ linked.suspendThread linked.suspendSenderThread)
  · change (mq'.entry + 1).toNat + _ ≤ _
    rw [receiver, more, Bool.toNat_false]
    omega
  · change _ ≤ (mq'.entry + 1).toNat + _ + _ + 0
    rw [sender, holds, more, Bool.toNat_true, Bool.toNat_false]
    omega

/-- A call takes its next step. -/
lemma Awake.callStep (awake : s.Awake n 0 0) (books : s.Books n q f) (waiting : s.Waiting)
    (is : s.calls[i]? = some c) (expired : Bool) : (s.callStep i c expired).Awake n 0 0 := by
  obtain ⟨op, pc⟩ := c
  cases op with
  | send buffer wait =>
    cases pc with
    | start =>
      change (if buffer.length > s.mq.msgSize.toNat then _ else _ : MqState).Awake n 0 0
      split_ifs
      · exact awake.run is ⟨.send buffer wait, .returned (-rtError) []⟩ s.mq s.log rfl rfl rfl rfl rfl
          (Nat.zero_le _)
      · exact awake.takeFree books is (.inl rfl) nofun wait
    | resumed error =>
      change (if error ≠ rtEok then _ else _ : MqState).Awake n 0 0
      split_ifs with failed
      · exact awake.run is ⟨.send buffer wait, .returned error []⟩ s.mq s.log rfl rfl rfl rfl
          (decide_eq_false failed) (Nat.zero_le _)
      · exact awake.takeFree books is (.inr ⟨error, rfl⟩) nofun _
    | fill b =>
      exact awake.run is ⟨.send buffer wait, .link b⟩ (s.mq.store b none buffer) s.log rfl rfl rfl rfl
        rfl le_rfl
    | link b => exact awake.announce books waiting is (RtMessagequeue.linked_linkTail ..) _
    | _ => exact awake
  | urgent buffer =>
    cases pc with
    | start =>
      change (if buffer.length > s.mq.msgSize.toNat then _ else _ : MqState).Awake n 0 0
      split_ifs
      · exact awake.run is ⟨.urgent buffer, .returned (-rtError) []⟩ s.mq s.log rfl rfl rfl rfl rfl
          (Nat.zero_le _)
      · exact awake.takeFree books is (.inl rfl) nofun false
    | fill b =>
      exact awake.run is ⟨.urgent buffer, .link b⟩ (s.mq.store b (s.mq.pool b).next buffer) s.log rfl
        rfl rfl rfl rfl le_rfl
    | link b => exact awake.announce books waiting is (RtMessagequeue.linked_linkHead ..) _
    | _ => exact awake
  | recv size wait =>
    cases pc with
    | start => exact awake.takeMessage books is (.inl rfl)
    | resumed error =>
      change (if error ≠ rtEok then _ else _ : MqState).Awake n 0 0
      split_ifs with failed
      · exact awake.run is ⟨.recv size wait, .returned error []⟩ s.mq s.log rfl rfl rfl
          (decide_eq_false failed) rfl (Nat.zero_le _)
      · exact awake.takeMessage books is (.inr ⟨error, rfl⟩)
    | copy b =>
      exact awake.run is ⟨.recv size wait, .release b ((s.mq.message b).take size)⟩ s.mq s.log rfl rfl
        rfl rfl rfl le_rfl
    | release b data =>
      let answered : Call := ⟨.recv size wait, .returned data.length data⟩
      have given : (MqState.mk (s.mq.giveBack b) (s.calls.set i answered) s.log).Awake n 0 1 :=
        awake.run is answered (s.mq.giveBack b) s.log rfl rfl rfl rfl rfl le_rfl
      exact given.resumeSender (waiting.goto is nofun (.returned data.length data) nofun _ _ rfl rfl)
    | _ => exact awake
  | reset =>
    cases pc with
    | start =>
      obtain ⟨-, -, none, none'⟩ := books.rtMqReset waiting is
      exact ⟨fun some => absurd none some, fun some => absurd none' some⟩
    | _ => exact awake

/-- Every step resumes enough threads. -/
lemma Awake.step (awake : s.Awake n 0 0) (sound : s.Sound n) (a : Act) : (s.step a).Awake n 0 0 := by
  obtain ⟨⟨q, f, books⟩, waiting⟩ := sound
  cases a with
  | call op =>
    refine ⟨fun wait => (awake.receivers wait).trans ?_, fun wait => (awake.senders wait).trans ?_⟩
    · change _ ≤ (s.calls ++ [Call.mk op .start]).countP Call.resumedReceiver + 0
      rw [List.countP_append]
      omega
    · change _ ≤ s.mq.entry.toNat + (s.calls ++ [Call.mk op .start]).countP Call.holds +
        (s.calls ++ [Call.mk op .start]).countP Call.resumedSender + 0
      rw [List.countP_append, List.countP_append]
      omega
  | go i expired =>
    simp only [MqState.step]
    cases is : s.calls[i]? with
    | none => exact awake
    | some c => exact awake.callStep books waiting is expired
  | timer i =>
    simp only [MqState.step]
    cases is : s.calls[i]? with
    | none => exact awake
    | some c =>
      obtain ⟨op, pc⟩ := c
      dsimp only
      split_ifs with suspended
      · subst suspended
        exact awake.woken is (-rtETimeout) (Nat.zero_le _) (Nat.zero_le _)
      · exact awake

/-- At the beginning nobody waits. -/
lemma awake_initial (msgSize maxMsgs : UInt16) (pool : Nat → RtMqMessage) :
    (initial msgSize maxMsgs pool).Awake maxMsgs 0 0 := by
  obtain ⟨-, waiting⟩ := sound_initial msgSize maxMsgs pool
  have none : (initial msgSize maxMsgs pool).mq.suspendThread = [] :=
    List.eq_nil_iff_forall_not_mem.mpr fun j => mt (waiting.receivers j).mp nofun
  have none' : (initial msgSize maxMsgs pool).mq.suspendSenderThread = [] :=
    List.eq_nil_iff_forall_not_mem.mpr fun j => mt (waiting.senders j).mp nofun
  exact ⟨fun some => absurd none some, fun some => absurd none' some⟩

/-- In every state of every run. -/
lemma awake_run (msgSize maxMsgs : UInt16) (pool : Nat → RtMqMessage) (acts : List Act) :
    Sound (acts.foldl MqState.step (initial msgSize maxMsgs pool)) maxMsgs ∧
      Awake (acts.foldl MqState.step (initial msgSize maxMsgs pool)) maxMsgs 0 0 :=
  foldl_invariant (I := fun s => Sound s maxMsgs ∧ Awake s maxMsgs 0 0)
    (fun _ a both => ⟨both.1.step a, both.2.step both.1 a⟩) acts
    ⟨sound_initial msgSize maxMsgs pool, awake_initial msgSize maxMsgs pool⟩

/-- Nobody who rests has just been resumed, or holds a block. -/
lemma rests_count (rest : ∀ c ∈ s.calls, c.Rests) :
    s.calls.countP Call.resumedReceiver = 0 ∧ s.calls.countP Call.resumedSender = 0 ∧
      s.calls.countP Call.holds = 0 := by
  have idle : ∀ c ∈ s.calls, c.resumedReceiver = false ∧ c.resumedSender = false ∧ c.holds = false := by
    intro c mem
    obtain ⟨op, pc⟩ := c
    rcases rest _ mem with eq | ⟨result, data, eq⟩ <;> cases eq <;> cases op <;> exact ⟨rfl, rfl, rfl⟩
  refine ⟨List.countP_eq_zero.mpr fun c mem => ?_, List.countP_eq_zero.mpr fun c mem => ?_,
    List.countP_eq_zero.mpr fun c mem => ?_⟩
  · rw [(idle c mem).1]
    decide
  · rw [(idle c mem).2.1]
    decide
  · rw [(idle c mem).2.2]
    decide

/-- No wake-up is lost: while a receiver waits there are at most as many messages as receivers that
    have been resumed, and while a sender waits at most as many free blocks as senders that have been
    resumed. So when all calls rest, a receiver waits only if there is no message and a sender
    only if all blocks are on the queue; and unless the queue has no blocks at all, they do not
    wait for each other. -/
theorem mq_no_lost_wakeup (msgSize maxMsgs : UInt16) (pool : Nat → RtMqMessage) (acts : List Act) :
    let s := acts.foldl MqState.step (initial msgSize maxMsgs pool)
    ((∃ j, ReceiverWaits s.calls j) →
      s.mq.entry.toNat ≤ s.calls.countP Call.resumedReceiver) ∧
    ((∃ j, SenderWaits s.calls j) → maxMsgs.toNat ≤
      s.mq.entry.toNat + s.held.length + s.calls.countP Call.resumedSender) ∧
    ((∀ c ∈ s.calls, c.Rests) →
      ((∃ j, ReceiverWaits s.calls j) → s.mq.entry = 0) ∧
      ((∃ j, SenderWaits s.calls j) → s.mq.entry = maxMsgs) ∧
      ((∃ j, ReceiverWaits s.calls j) → (∃ j, SenderWaits s.calls j) → maxMsgs = 0)) := by
  intro s
  obtain ⟨⟨⟨q, f, books⟩, waiting⟩, awake⟩ : s.Sound maxMsgs ∧ s.Awake maxMsgs 0 0 :=
    awake_run msgSize maxMsgs pool acts
  have receivers : (∃ j, ReceiverWaits s.calls j) →
      s.mq.entry.toNat ≤ s.calls.countP Call.resumedReceiver := by
    rintro ⟨j, wait⟩
    exact awake.receivers (List.ne_nil_of_mem ((waiting.receivers j).mpr wait))
  have senders : (∃ j, SenderWaits s.calls j) → maxMsgs.toNat ≤
      s.mq.entry.toNat + s.calls.countP Call.holds + s.calls.countP Call.resumedSender := by
    rintro ⟨j, wait⟩
    exact awake.senders (List.ne_nil_of_mem ((waiting.senders j).mpr wait))
  refine ⟨receivers, fun wait => ?_, fun rest => ?_⟩
  · rw [held, List.length_filterMap_eq_countP]
    exact senders wait
  · obtain ⟨none, none', free⟩ := rests_count rest
    have count := books.count
    have empty : (∃ j, ReceiverWaits s.calls j) → s.mq.entry = 0 := by
      intro wait
      have le := receivers wait
      rw [none] at le
      exact UInt16.toNat_inj.mp (Nat.le_zero.mp le)
    have full : (∃ j, SenderWaits s.calls j) → s.mq.entry = maxMsgs := by
      intro wait
      have le := senders wait
      refine UInt16.toNat_inj.mp ?_
      omega
    exact ⟨empty, full, fun wait wait' => (full wait').symm.trans (empty wait)⟩

end MqState

end WlhHpm.Kernel

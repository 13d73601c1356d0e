import WlhHpm.Kernel.MessageQueue
import WlhHpm.Lib.LinkedList
import WlhHpm.Lib.Pool
import WlhHpm.Lib.Run

/-!
# The message queue is a queue

Whatever the calls do, and however they interleave: the two lists of a queue, and the blocks that
calls hold, are all of the pool, each block once. What is on the linked list is what the calls have
done to the queue, one after another, and every call returns what belongs to it (`mq_linearizable`).
-/

namespace WlhHpm.Kernel
open LinkedList

/-! ## The two lists -/

namespace RtMessagequeue
variable {mq : RtMessagequeue} {q f : List Nat} {a b : Nat} {p : Option Nat}

/-- Where a block points. -/
def next (mq : RtMessagequeue) (b : Nat) : Option Nat := (mq.pool b).next

/-- The blocks `q` are queued and the blocks `f` are free. -/
structure Lists (mq : RtMessagequeue) (q f : List Nat) : Prop where
  queue : Links mq.next mq.msgQueueHead q
  tail : mq.msgQueueTail = q.getLast?
  free : Links mq.next mq.msgQueueFree f

/-- Writing the pointer of a block. -/
lemma next_setNext (mq : RtMessagequeue) (b : Nat) (p : Option Nat) :
    (mq.setNext b p).next = Function.update mq.next b p := by
  funext a
  by_cases eq : a = b
  · subst eq
    simp only [next, setNext, Function.update_self]
  · simp only [next, setNext, Function.update_of_ne eq]

/-- Pointers are not part of a message. -/
lemma message_setNext (mq : RtMessagequeue) (b : Nat) (p : Option Nat) :
    (mq.setNext b p).message = mq.message := by
  funext a
  by_cases eq : a = b
  · subst eq
    simp only [message, setNext, Function.update_self]
  · simp only [message, setNext, Function.update_of_ne eq]

/-- A block that is on neither list is written. -/
lemma next_store_of_ne (ne : a ≠ b) (buffer : List UInt8) :
    (mq.store b p buffer).next a = mq.next a := by
  simp only [next, store, Function.update_of_ne ne]

/-- The pointer of a block that is written. -/
lemma next_store (mq : RtMessagequeue) (b : Nat) (p : Option Nat) (buffer : List UInt8) :
    (mq.store b p buffer).next b = p := by
  simp only [next, store, Function.update_self]

/-- Writing a block leaves the other messages alone. -/
lemma message_store_of_ne (ne : a ≠ b) (buffer : List UInt8) :
    (mq.store b p buffer).message a = mq.message a := by
  simp only [message, store, Function.update_of_ne ne]

/-- The message that has been written. -/
lemma message_store (mq : RtMessagequeue) (b : Nat) (p : Option Nat) (buffer : List UInt8) :
    (mq.store b p buffer).message b = buffer := by
  simp only [message, store, Function.update_self]
  refine Eq.trans (Mem.toList_congr fun i lt => ?_) (Mem.toList_ofList rfl)
  rw [Mem.copy_in (Nat.zero_le i) (by omega), Nat.sub_zero]

/-- A block on neither list may be written. -/
lemma Lists.store (lists : mq.Lists q f) (notQ : b ∉ q) (notF : b ∉ f) (p : Option Nat)
    (buffer : List UInt8) : (mq.store b p buffer).Lists q f where
  queue := lists.queue.congr fun _ mem => next_store_of_ne (ne_of_mem_of_not_mem mem notQ) buffer
  tail := lists.tail
  free := lists.free.congr fun _ mem => next_store_of_ne (ne_of_mem_of_not_mem mem notF) buffer

/-- The first free block is taken. -/
lemma Lists.take (lists : mq.Lists q f) (head : mq.msgQueueFree = some b) :
    ∃ rest, f = b :: rest ∧ { mq with msgQueueFree := mq.next b }.Lists q rest := by
  have free := lists.free
  rw [head] at free
  obtain ⟨rest, eq, links⟩ := free.of_some
  exact ⟨rest, eq, lists.queue, lists.tail, links⟩

/-- A block is put on the free list. -/
lemma Lists.giveBack (lists : mq.Lists q f) (notQ : b ∉ q) (notF : b ∉ f) :
    (mq.giveBack b).Lists q (b :: f) where
  queue := by
    change Links (mq.setNext b mq.msgQueueFree).next _ _
    rw [next_setNext]
    exact lists.queue.update notQ _
  tail := lists.tail
  free := by
    change Links (mq.setNext b mq.msgQueueFree).next _ _
    rw [next_setNext]
    exact lists.free.front notF

/-- A message is linked to the end of an empty queue. -/
lemma linkTail_empty (tail : mq.msgQueueTail = none) (head : mq.msgQueueHead = none) :
    mq.linkTail b = { mq with msgQueueTail := some b, msgQueueHead := some b } := by
  simp only [linkTail, tail, head, if_true]

/-- A message is linked behind the last one. -/
lemma linkTail_more {t : Nat} (tail : mq.msgQueueTail = some t) (head : mq.msgQueueHead ≠ none) :
    mq.linkTail b = { mq.setNext t (some b) with msgQueueTail := some b } := by
  simp only [linkTail, tail, setNext, if_neg head]

/-- A message is linked to the beginning of an empty queue. -/
lemma linkHead_empty (tail : mq.msgQueueTail = none) :
    mq.linkHead b =
      { mq.setNext b mq.msgQueueHead with msgQueueHead := some b, msgQueueTail := some b } := by
  simp only [linkHead, tail, if_true]

/-- A message is linked before the first one. -/
lemma linkHead_more (tail : mq.msgQueueTail ≠ none) :
    mq.linkHead b = { mq.setNext b mq.msgQueueHead with msgQueueHead := some b } := by
  simp only [linkHead, setNext, if_neg tail]

/-- A message is linked to the end. -/
lemma Lists.linkTail (lists : mq.Lists q f) (nodup : q.Nodup) (notQ : b ∉ q)
    (disjoint : q.Disjoint f) (last : mq.next b = none) : (mq.linkTail b).Lists (q ++ [b]) f := by
  rcases List.eq_nil_or_concat q with rfl | ⟨front, t, eq⟩
  · rw [linkTail_empty lists.tail (lists.queue.eq_none_iff.mpr rfl)]
    exact ⟨⟨rfl, last⟩, rfl, lists.free⟩
  · rw [List.concat_eq_append] at eq
    subst eq
    have tail : mq.msgQueueTail = some t := by rw [lists.tail, List.getLast?_concat]
    have head := mt lists.queue.eq_none_iff.mp (by simp)
    have next := mq.next_setNext t (some b)
    rw [linkTail_more tail head]
    refine ⟨?_, ?_, ?_⟩
    · change Links (mq.setNext t (some b)).next _ _
      rw [next]
      exact lists.queue.snoc nodup notQ last
    · rw [List.getLast?_concat]
    · change Links (mq.setNext t (some b)).next _ _
      rw [next]
      exact lists.free.update (disjoint (by simp)) _

/-- A message is linked to the beginning. -/
lemma Lists.linkHead (lists : mq.Lists q f) (notQ : b ∉ q) (notF : b ∉ f) :
    (mq.linkHead b).Lists (b :: q) f := by
  have next := mq.next_setNext b mq.msgQueueHead
  have queue : Links (mq.setNext b mq.msgQueueHead).next (some b) (b :: q) := by
    rw [next]
    exact lists.queue.front notQ
  have free : Links (mq.setNext b mq.msgQueueHead).next mq.msgQueueFree f := by
    rw [next]
    exact lists.free.update notF _
  cases q with
  | nil =>
    rw [linkHead_empty lists.tail]
    exact ⟨queue, rfl, free⟩
  | cons a q =>
    have tail : mq.msgQueueTail ≠ none := by
      rw [lists.tail, List.getLast?_cons]
      exact nofun
    rw [linkHead_more tail]
    exact ⟨queue, lists.tail.trans (List.getLast?_cons_cons ..).symm, free⟩

/-- The tail after the first message has left. -/
lemma Lists.tail_rest (lists : mq.Lists (b :: q) f) (nodup : (b :: q).Nodup) :
    (if mq.msgQueueTail = some b then none else mq.msgQueueTail) = q.getLast? := by
  rw [lists.tail]
  cases q with
  | nil => exact if_pos rfl
  | cons a q =>
    rw [List.getLast?_cons_cons, if_neg]
    intro last
    exact (List.nodup_cons.mp nodup).1 (List.mem_of_getLast? last)

/-- The first message leaves the queue. -/
lemma Lists.unlink (lists : mq.Lists q f) (nodup : q.Nodup) (head : mq.msgQueueHead = some b) :
    ∃ rest, q = b :: rest ∧ (mq.unlink b).Lists rest f := by
  have queue := lists.queue
  rw [head] at queue
  obtain ⟨rest, rfl, links⟩ := queue.of_some
  exact ⟨rest, rfl, links, lists.tail_rest nodup, lists.free⟩

/-- A message that leaves the queue is not counted any more. -/
lemma entry_unlink (some : mq.entry ≠ 0) (b : Nat) :
    (mq.unlink b).entry.toNat + 1 = mq.entry.toNat := by
  have pos : mq.entry > 0 := UInt16.pos_iff_ne_zero.mpr some
  have le : (1 : UInt16) ≤ mq.entry := UInt16.le_iff_toNat_le.mpr (UInt16.lt_iff_toNat_lt.mp pos)
  change (if mq.entry > 0 then mq.entry - 1 else mq.entry).toNat + 1 = _
  rw [if_pos pos, UInt16.toNat_sub_of_le _ _ le]
  exact Nat.sub_add_cancel (UInt16.le_iff_toNat_le.mp le)

/-- Only pointers change. -/
structure Linked (mq mq' : RtMessagequeue) : Prop where
  entry : mq'.entry = mq.entry
  maxMsgs : mq'.maxMsgs = mq.maxMsgs
  suspendThread : mq'.suspendThread = mq.suspendThread
  suspendSenderThread : mq'.suspendSenderThread = mq.suspendSenderThread
  message : mq'.message = mq.message

/-- Two changes of pointers are one. -/
lemma Linked.trans {mq₁ mq₂ mq₃ : RtMessagequeue} (first : mq₁.Linked mq₂) (second : mq₂.Linked mq₃) :
    mq₁.Linked mq₃ where
  entry := second.entry.trans first.entry
  maxMsgs := second.maxMsgs.trans first.maxMsgs
  suspendThread := second.suspendThread.trans first.suspendThread
  suspendSenderThread := second.suspendSenderThread.trans first.suspendSenderThread
  message := second.message.trans first.message

/-- Giving a block back changes pointers only. -/
lemma linked_giveBack (mq : RtMessagequeue) (b : Nat) : mq.Linked (mq.giveBack b) :=
  ⟨rfl, rfl, rfl, rfl, mq.message_setNext b _⟩

/-- So does taking it off the queue first. -/
lemma linked_unlinked (mq : RtMessagequeue) (b : Nat) (head tail : Option Nat) :
    mq.Linked ({ mq with msgQueueHead := head, msgQueueTail := tail }.giveBack b) :=
  ⟨rfl, rfl, rfl, rfl, mq.message_setNext b _⟩

/-- So does linking a message to the end. -/
lemma linked_linkTail (mq : RtMessagequeue) (b : Nat) : mq.Linked (mq.linkTail b) := by
  unfold linkTail
  cases mq.msgQueueTail with
  | none => exact ⟨rfl, rfl, rfl, rfl, rfl⟩
  | some t => exact ⟨rfl, rfl, rfl, rfl, mq.message_setNext t _⟩

/-- So does linking a message to the beginning. -/
lemma linked_linkHead (mq : RtMessagequeue) (b : Nat) : mq.Linked (mq.linkHead b) :=
  ⟨rfl, rfl, rfl, rfl, mq.message_setNext b _⟩

/-- The blocks that are not queued keep their pointers when a message is linked to the end. -/
lemma Lists.next_linkTail (lists : mq.Lists q f) (notQ : a ∉ q) :
    (mq.linkTail b).next a = mq.next a := by
  unfold RtMessagequeue.linkTail
  cases tail : mq.msgQueueTail with
  | none => rfl
  | some t =>
    have mem : t ∈ q := List.mem_of_getLast? (lists.tail.symm.trans tail)
    have ne : a ≠ t := (ne_of_mem_of_not_mem mem notQ).symm
    change (mq.setNext t (some b)).next a = _
    rw [next_setNext, Function.update_of_ne ne]

/-- Linking a block to the beginning leaves the pointers of the others alone. -/
lemma next_linkHead (ne : a ≠ b) : (mq.linkHead b).next a = mq.next a := by
  change (mq.setNext b mq.msgQueueHead).next a = _
  rw [next_setNext, Function.update_of_ne ne]

/-- Giving a block back leaves the pointers of the others alone. -/
lemma next_giveBack (ne : a ≠ b) : (mq.giveBack b).next a = mq.next a := by
  change (mq.setNext b mq.msgQueueFree).next a = _
  rw [next_setNext, Function.update_of_ne ne]

/-- All messages are released. -/
lemma Lists.releaseAll (lists : mq.Lists q f) (nodup : (q ++ f).Nodup) {fuel : Nat}
    (enough : q.length ≤ fuel) :
    (mq.releaseAll fuel).Lists [] (q.reverse ++ f) ∧ mq.Linked (mq.releaseAll fuel) ∧
      ∀ a ∉ q, (mq.releaseAll fuel).next a = mq.next a := by
  induction fuel generalizing mq q f with
  | zero =>
    rw [List.length_eq_zero_iff.mp (Nat.le_zero.mp enough)] at lists ⊢
    exact ⟨lists, ⟨rfl, rfl, rfl, rfl, rfl⟩, fun _ _ => rfl⟩
  | succ fuel ih =>
    cases q with
    | nil =>
      have head := lists.queue.eq_none_iff.mpr rfl
      simp only [RtMessagequeue.releaseAll, head]
      exact ⟨lists, ⟨rfl, rfl, rfl, rfl, rfl⟩, fun _ _ => trivial⟩
    | cons b q =>
      obtain ⟨head, links⟩ := lists.queue
      obtain ⟨notQF, nodup'⟩ := List.nodup_cons.mp nodup
      obtain ⟨notQ, notF⟩ := not_or.mp (mt List.mem_append.mpr notQF)
      have tail := lists.tail_rest (List.nodup_append.mp nodup).1
      have left : { mq with
          msgQueueHead := (mq.pool b).next
          msgQueueTail := if mq.msgQueueTail = some b then none else mq.msgQueueTail }.Lists q f :=
        ⟨links, tail, lists.free⟩
      have perm : (q ++ b :: f).Nodup :=
        List.nodup_middle.mpr (List.nodup_cons.mpr ⟨notQF, nodup'⟩)
      obtain ⟨rest, linked, same⟩ :=
        ih (left.giveBack notQ notF) perm (Nat.le_of_succ_le_succ enough)
      simp only [RtMessagequeue.releaseAll, head]
      rw [List.reverse_cons, List.append_assoc]
      refine ⟨rest, (linked_unlinked ..).trans linked, fun a out => ?_⟩
      obtain ⟨ne, out'⟩ := not_or.mp (mt List.mem_cons.mpr out)
      exact (same a out').trans (next_giveBack ne)

/-- A queue that has been created has no messages, and all blocks are free. -/
lemma lists_create (l : List Nat) (lists : mq.Lists [] f) (nodup : (l ++ f).Nodup) :
    (l.foldl RtMessagequeue.giveBack mq).Lists [] (l.reverse ++ f) ∧
      mq.Linked (l.foldl RtMessagequeue.giveBack mq) := by
  induction l generalizing mq f with
  | nil => exact ⟨lists, rfl, rfl, rfl, rfl, rfl⟩
  | cons b l ih =>
    obtain ⟨out, nodup'⟩ := List.nodup_cons.mp nodup
    have notF : b ∉ f := fun mem => out (List.mem_append_right l mem)
    obtain ⟨rest, linked⟩ := ih (lists.giveBack List.not_mem_nil notF)
      (List.nodup_middle.mpr (List.nodup_cons.mpr ⟨out, nodup'⟩))
    rw [List.foldl_cons, List.reverse_cons, List.append_assoc]
    exact ⟨rest, (linked_giveBack mq b).trans linked⟩

end RtMessagequeue

/-! ## Who waits -/

namespace MqState
variable {s : MqState} {i j : Nat} {c : Call}

/-- A receiver that is suspended. -/
def ReceiverWaits (calls : List Call) (j : Nat) : Prop :=
  ∃ size wait, calls[j]? = some ⟨.recv size wait, .suspended⟩

/-- A sender that is suspended. -/
def SenderWaits (calls : List Call) (j : Nat) : Prop :=
  ∃ buffer wait, calls[j]? = some ⟨.send buffer wait, .suspended⟩

/-- The lists of the queue are those of the suspended calls. -/
structure Waiting (s : MqState) : Prop where
  receivers : ∀ j, j ∈ s.mq.suspendThread ↔ ReceiverWaits s.calls j
  senders : ∀ j, j ∈ s.mq.suspendSenderThread ↔ SenderWaits s.calls j
  once : s.mq.suspendThread.Nodup
  onceSender : s.mq.suspendSenderThread.Nodup

/-- Which receivers are suspended after a call has moved. -/
lemma receiverWaits_set (is : s.calls[i]? = some c) (c' : Call) :
    ReceiverWaits (s.calls.set i c') j ↔
      if j = i then ∃ size wait, c' = ⟨.recv size wait, .suspended⟩ else ReceiverWaits s.calls j := by
  unfold ReceiverWaits
  split_ifs with eq
  · rw [eq, List.getElem?_set_self (List.getElem?_eq_some_iff.mp is).1]
    simp only [Option.some.injEq]
  · rw [List.getElem?_set_ne (Ne.symm eq)]

/-- Which senders are suspended after a call has moved. -/
lemma senderWaits_set (is : s.calls[i]? = some c) (c' : Call) :
    SenderWaits (s.calls.set i c') j ↔
      if j = i then ∃ buffer wait, c' = ⟨.send buffer wait, .suspended⟩ else SenderWaits s.calls j := by
  unfold SenderWaits
  split_ifs with eq
  · rw [eq, List.getElem?_set_self (List.getElem?_eq_some_iff.mp is).1]
    simp only [Option.some.injEq]
  · rw [List.getElem?_set_ne (Ne.symm eq)]

/-- A call that does not wait is on no list. -/
lemma Waiting.not_mem (waiting : s.Waiting) (is : s.calls[i]? = some c) (runs : c.pc ≠ .suspended) :
    i ∉ s.mq.suspendThread ∧ i ∉ s.mq.suspendSenderThread := by
  constructor
  · intro mem
    obtain ⟨size, wait, is'⟩ := (waiting.receivers i).mp mem
    cases is.symm.trans is'
    exact runs rfl
  · intro mem
    obtain ⟨buffer, wait, is'⟩ := (waiting.senders i).mp mem
    cases is.symm.trans is'
    exact runs rfl

/-- A call that does not wait goes on. -/
lemma Waiting.goto (waiting : s.Waiting) (is : s.calls[i]? = some c) (runs : c.pc ≠ .suspended)
    (pc : Pc) (runs' : pc ≠ .suspended) (mq' : RtMessagequeue) (log' : List (Nat × Effect))
    (same : mq'.suspendThread = s.mq.suspendThread)
    (same' : mq'.suspendSenderThread = s.mq.suspendSenderThread) :
    (MqState.mk mq' (s.calls.set i { c with pc := pc }) log').Waiting := by
  obtain ⟨out, out'⟩ := waiting.not_mem is runs
  refine ⟨fun j => ?_, fun j => ?_, same ▸ waiting.once, same' ▸ waiting.onceSender⟩
  · change j ∈ mq'.suspendThread ↔ ReceiverWaits (s.calls.set i ⟨c.op, pc⟩) j
    rw [receiverWaits_set is, same]
    split_ifs with eq
    · subst eq
      exact iff_of_false out fun ⟨_, _, e⟩ => runs' (congrArg Call.pc e)
    · exact waiting.receivers j
  · change j ∈ mq'.suspendSenderThread ↔ SenderWaits (s.calls.set i ⟨c.op, pc⟩) j
    rw [senderWaits_set is, same']
    split_ifs with eq
    · subst eq
      exact iff_of_false out' fun ⟨_, _, e⟩ => runs' (congrArg Call.pc e)
    · exact waiting.senders j

/-- A receiver begins to wait. -/
lemma Waiting.suspendReceiver (waiting : s.Waiting) {size : Nat} {wait : Bool} {pc : Pc}
    (is : s.calls[i]? = some ⟨.recv size wait, pc⟩) (runs : pc ≠ .suspended) :
    ({ s with mq := { s.mq with suspendThread := s.mq.suspendThread ++ [i] } }.goto i
      ⟨.recv size wait, pc⟩ .suspended).Waiting := by
  obtain ⟨out, out'⟩ := waiting.not_mem is runs
  refine ⟨fun j => ?_, fun j => ?_, List.nodup_append.mpr ⟨waiting.once, List.nodup_singleton i, ?_⟩,
    waiting.onceSender⟩
  · change j ∈ s.mq.suspendThread ++ [i] ↔ ReceiverWaits (s.calls.set i ⟨.recv size wait, .suspended⟩) j
    rw [receiverWaits_set is, List.mem_append, List.mem_singleton, waiting.receivers]
    split_ifs with eq
    · exact iff_of_true (.inr eq) ⟨size, wait, rfl⟩
    · exact or_iff_left eq
  · change j ∈ s.mq.suspendSenderThread ↔ SenderWaits (s.calls.set i ⟨.recv size wait, .suspended⟩) j
    rw [senderWaits_set is, waiting.senders]
    split_ifs with eq
    · subst eq
      exact iff_of_false (mt (waiting.senders j).mpr out') nofun
    · exact Iff.rfl
  · intro a mem b mem'
    rw [List.mem_singleton.mp mem']
    exact ne_of_mem_of_not_mem mem out

/-- A sender begins to wait. -/
lemma Waiting.suspendSender (waiting : s.Waiting) {buffer : List UInt8} {wait : Bool} {pc : Pc}
    (is : s.calls[i]? = some ⟨.send buffer wait, pc⟩) (runs : pc ≠ .suspended) :
    ({ s with mq := { s.mq with suspendSenderThread := s.mq.suspendSenderThread ++ [i] } }.goto i
      ⟨.send buffer wait, pc⟩ .suspended).Waiting := by
  obtain ⟨out, out'⟩ := waiting.not_mem is runs
  refine ⟨fun j => ?_, fun j => ?_, waiting.once,
    List.nodup_append.mpr ⟨waiting.onceSender, List.nodup_singleton i, ?_⟩⟩
  · change j ∈ s.mq.suspendThread ↔ ReceiverWaits (s.calls.set i ⟨.send buffer wait, .suspended⟩) j
    rw [receiverWaits_set is, waiting.receivers]
    split_ifs with eq
    · subst eq
      exact iff_of_false (mt (waiting.receivers j).mpr out) nofun
    · exact Iff.rfl
  · change j ∈ s.mq.suspendSenderThread ++ [i] ↔
      SenderWaits (s.calls.set i ⟨.send buffer wait, .suspended⟩) j
    rw [senderWaits_set is, List.mem_append, List.mem_singleton, waiting.senders]
    split_ifs with eq
    · exact iff_of_true (.inr eq) ⟨buffer, wait, rfl⟩
    · exact or_iff_left eq
  · intro a mem b mem'
    rw [List.mem_singleton.mp mem']
    exact ne_of_mem_of_not_mem mem out'

/-- To resume a thread is to move its call. -/
lemma resume_eq (is : s.calls[j]? = some c) (error : Int) :
    s.resume error j = s.goto j c (.resumed error) := by
  rw [MqState.resume, MqState.goto]
  congr 1
  rw [List.modify_eq_set_getElem?, is]
  rfl

/-- A thread is taken off the lists and resumed. -/
def woken (s : MqState) (j : Nat) (op : Op) (error : Int) : MqState :=
  { s with mq := { s.mq with
      suspendThread := s.mq.suspendThread.erase j
      suspendSenderThread := s.mq.suspendSenderThread.erase j } }.goto j ⟨op, .suspended⟩
    (.resumed error)

/-- A thread that is woken leaves the list that it was on. -/
lemma Waiting.woken (waiting : s.Waiting) {op : Op} (is : s.calls[j]? = some ⟨op, .suspended⟩)
    (error : Int) : (s.woken j op error).Waiting := by
  refine ⟨fun k => ?_, fun k => ?_, waiting.once.erase j, waiting.onceSender.erase j⟩
  · change k ∈ s.mq.suspendThread.erase j ↔ ReceiverWaits (s.calls.set j ⟨op, .resumed error⟩) k
    rw [receiverWaits_set is, waiting.once.mem_erase_iff, waiting.receivers]
    split_ifs with eq
    · exact iff_of_false (fun both => both.1 eq) nofun
    · exact and_iff_right eq
  · change k ∈ s.mq.suspendSenderThread.erase j ↔ SenderWaits (s.calls.set j ⟨op, .resumed error⟩) k
    rw [senderWaits_set is, waiting.onceSender.mem_erase_iff, waiting.senders]
    split_ifs with eq
    · exact iff_of_false (fun both => both.1 eq) nofun
    · exact and_iff_right eq

/-- A thread that waits on one list is not on the other. -/
lemma Waiting.apart (waiting : s.Waiting) (mem : j ∈ s.mq.suspendThread) :
    j ∉ s.mq.suspendSenderThread := by
  intro mem'
  obtain ⟨size, wait, is⟩ := (waiting.receivers j).mp mem
  obtain ⟨buffer, wait', is'⟩ := (waiting.senders j).mp mem'
  cases is.symm.trans is'

/-- Nobody waits, or the first receiver is resumed. -/
lemma Waiting.resumeReceiver (waiting : s.Waiting) :
    s.mq.suspendThread = [] ∧ s.resumeReceiver = s ∨
      ∃ j size wait, s.calls[j]? = some ⟨.recv size wait, .suspended⟩ ∧
        s.resumeReceiver = s.woken j (.recv size wait) rtEok := by
  cases list : s.mq.suspendThread with
  | nil => exact .inl ⟨rfl, by simp only [MqState.resumeReceiver, list]⟩
  | cons j rest =>
    have mem : j ∈ s.mq.suspendThread := list ▸ List.mem_cons_self
    obtain ⟨size, wait, is⟩ := (waiting.receivers j).mp mem
    refine .inr ⟨j, size, wait, is, ?_⟩
    simp only [MqState.resumeReceiver, list]
    rw [resume_eq (s := { s with mq := { s.mq with suspendThread := rest } }) is, MqState.woken, list,
      List.erase_cons_head, List.erase_of_not_mem (waiting.apart mem)]

/-- Nobody waits, or the first sender is resumed. -/
lemma Waiting.resumeSender (waiting : s.Waiting) :
    s.mq.suspendSenderThread = [] ∧ s.resumeSender = s ∨
      ∃ j buffer wait, s.calls[j]? = some ⟨.send buffer wait, .suspended⟩ ∧
        s.resumeSender = s.woken j (.send buffer wait) rtEok := by
  cases list : s.mq.suspendSenderThread with
  | nil => exact .inl ⟨rfl, by simp only [MqState.resumeSender, list]⟩
  | cons j rest =>
    have mem : j ∈ s.mq.suspendSenderThread := list ▸ List.mem_cons_self
    obtain ⟨buffer, wait, is⟩ := (waiting.senders j).mp mem
    refine .inr ⟨j, buffer, wait, is, ?_⟩
    simp only [MqState.resumeSender, list]
    rw [resume_eq (s := { s with mq := { s.mq with suspendSenderThread := rest } }) is, MqState.woken,
      list, List.erase_cons_head, List.erase_of_not_mem fun mem' => waiting.apart mem' mem]

/-- All threads of a list are resumed. -/
def resumeAll (s : MqState) (error : Int) (l : List Nat) : MqState :=
  l.foldl (fun s j => s.resume error j) s

/-- Resuming threads changes neither the queue nor the log. -/
lemma resumeAll_mq (s : MqState) (error : Int) (l : List Nat) :
    (s.resumeAll error l).mq = s.mq ∧ (s.resumeAll error l).log = s.log := by
  induction l generalizing s with
  | nil => exact ⟨rfl, rfl⟩
  | cons j l ih => exact ih (s.resume error j)

/-- The calls after some threads have been resumed. -/
lemma resumeAll_get (s : MqState) (error : Int) (l : List Nat) (j : Nat) :
    (s.resumeAll error l).calls[j]? =
      s.calls[j]?.map fun c => if j ∈ l then { c with pc := .resumed error } else c := by
  induction l generalizing s with
  | nil =>
    change s.calls[j]? = _
    cases s.calls[j]? <;> rfl
  | cons k l ih =>
    refine (ih (s.resume error k)).trans ?_
    change ((s.calls.modify k _)[j]?).map _ = _
    rw [List.getElem?_modify]
    by_cases eq : k = j
    · subst eq
      cases s.calls[k]? with
      | none => rfl
      | some c => simp
    · cases s.calls[j]? with
      | none => rfl
      | some c => simp [eq, Ne.symm eq]

/-- After all threads have been resumed nobody waits. -/
lemma Waiting.resumeAll (waiting : s.Waiting) (error : Int) :
    ({ s.resumeAll error (s.mq.suspendThread ++ s.mq.suspendSenderThread) with
        mq := { s.mq with suspendThread := [], suspendSenderThread := [] } } : MqState).Waiting := by
  have none : ∀ j c, (s.resumeAll error (s.mq.suspendThread ++ s.mq.suspendSenderThread)).calls[j]? =
      some c → c.pc = .suspended → ¬ ReceiverWaits s.calls j ∧ ¬ SenderWaits s.calls j ∧
        s.calls[j]? = some c := by
    intro j c is suspended
    rw [resumeAll_get] at is
    obtain ⟨c', is', eq⟩ := Option.map_eq_some_iff.mp is
    split_ifs at eq with mem
    · rw [← eq] at suspended
      cases suspended
    · rw [List.mem_append, waiting.receivers, waiting.senders, not_or] at mem
      exact ⟨mem.1, mem.2, eq ▸ is'⟩
  refine ⟨fun j => ?_, fun j => ?_, List.nodup_nil, List.nodup_nil⟩
  · refine iff_of_false List.not_mem_nil ?_
    rintro ⟨size, wait, is⟩
    obtain ⟨out, -, is'⟩ := none j _ is rfl
    exact out ⟨size, wait, is'⟩
  · refine iff_of_false List.not_mem_nil ?_
    rintro ⟨buffer, wait, is⟩
    obtain ⟨-, out, is'⟩ := none j _ is rfl
    exact out ⟨buffer, wait, is'⟩

end MqState

/-! ## What calls do -/

/-- The block that a call holds. -/
def Call.block (c : Call) : Option Nat :=
  match c.pc with
  | .fill b => some b
  | .link b => some b
  | .copy b => some b
  | .release b _ => some b
  | _ => none

/-- A queue of messages. -/
def Effect.apply : List (List UInt8) → Effect → Option (List (List UInt8))
  | q, .enqueue m => some (q ++ [m])
  | q, .push m => some (m :: q)
  | m' :: q, .dequeue m => if m' = m then some q else none
  | [], .dequeue _ => none
  | _, .clear => some []

/-- What a call that fails returns. A reset resumes with `RT_ERROR`, which is positive. -/
def errors : List Int := [-rtError, -rtEFull, -rtETimeout, rtError]

/-- What a call may return, given what it has done to the queue. -/
inductive Answer : Op → Int → List UInt8 → List Effect → Prop where
  | failed {op result} (error : result ∈ errors) : Answer op result [] []
  | sent {buffer wait} : Answer (.send buffer wait) rtEok [] [.enqueue buffer]
  | pushed {buffer} : Answer (.urgent buffer) rtEok [] [.push buffer]
  | received {size wait m} :
    Answer (.recv size wait) (m.take size).length (m.take size) [.dequeue m]
  | reset : Answer .reset rtEok [] [.clear]

/-- What a call has done so far, and what its block holds. -/
def Call.Explained (mq : RtMessagequeue) (c : Call) (done : List Effect) : Prop :=
  match c.pc with
  | .link b => done = [] ∧
      (∀ buffer wait, c.op = .send buffer wait → mq.next b = none ∧ mq.message b = buffer) ∧
      ∀ buffer, c.op = .urgent buffer → mq.message b = buffer
  | .copy b => done = [.dequeue (mq.message b)]
  | .release _ data =>
    ∃ m, done = [.dequeue m] ∧ ∀ size wait, c.op = .recv size wait → data = m.take size
  | .returned result data => Answer c.op result data done
  | .fault => False
  | .resumed error => done = [] ∧ (error = rtEok ∨ error ∈ errors)
  | _ => done = []

/-- What a call has done depends only on the block that it holds. -/
lemma Call.Explained.congr {mq mq' : RtMessagequeue} {c : Call} {done : List Effect}
    (explained : c.Explained mq done)
    (same : ∀ b, c.block = some b → mq'.next b = mq.next b ∧ mq'.message b = mq.message b) :
    c.Explained mq' done := by
  obtain ⟨op, pc⟩ := c
  cases pc with
  | link b =>
    obtain ⟨next, message⟩ := same b rfl
    simp only [Call.Explained, next, message] at explained ⊢
    exact explained
  | copy b =>
    obtain ⟨-, message⟩ := same b rfl
    simp only [Call.Explained, message] at explained ⊢
    exact explained
  | _ => exact explained

/-- What a call has done. -/
def effects (log : List (Nat × Effect)) (i : Nat) : List Effect :=
  log.filterMap fun e => if e.1 = i then some e.2 else none

/-- What a call has done, after it has done something. -/
lemma effects_append_self (log : List (Nat × Effect)) (i : Nat) (new : List Effect) :
    effects (log ++ new.map (i, ·)) i = effects log i ++ new := by
  rw [effects, List.filterMap_append, List.filterMap_map, effects]
  congr 1
  simp

/-- What another call has done stays the same. -/
lemma effects_append_of_ne (log : List (Nat × Effect)) {i j : Nat} (ne : i ≠ j) (new : List Effect) :
    effects (log ++ new.map (i, ·)) j = effects log j := by
  rw [effects, List.filterMap_append, List.filterMap_map, effects]
  simp [ne]

namespace MqState
variable {s : MqState} {n : UInt16} {i j b : Nat} {c : Call} {q f : List Nat}

/-- The queue and the free list, what the calls hold, and what they have done. -/
structure Books (s : MqState) (n : UInt16) (q f : List Nat) : Prop extends s.mq.Lists q f where
  entry : s.mq.entry.toNat = q.length
  maxMsgs : s.mq.maxMsgs = n
  blocks : (q + f + holdings Call.block s.calls : Multiset Nat) = Multiset.range n.toNat
  content : (s.log.map Prod.snd).foldlM Effect.apply [] = some (q.map s.mq.message)
  calls : ∀ (i : Nat) (c : Call), s.calls[i]? = some c → c.Explained s.mq (effects s.log i)
  fresh : ∀ i : Nat, s.calls.length ≤ i → effects s.log i = []

/-- No block is in two places. -/
lemma Books.nodup (books : s.Books n q f) :
    (q + f + holdings Call.block s.calls : Multiset Nat).Nodup := by
  rw [books.blocks]
  exact Multiset.nodup_range _

/-- No block is on both lists, or twice on one. -/
lemma Books.nodup_lists (books : s.Books n q f) : (q ++ f).Nodup := by
  have nodup := (Multiset.nodup_add.mp books.nodup).1
  rwa [Multiset.coe_add, Multiset.coe_nodup] at nodup

/-- A block that a call holds is on neither list. -/
lemma Books.apart (books : s.Books n q f) (is : s.calls[i]? = some c) (holds : c.block = some b) :
    b ∉ q ∧ b ∉ f := by
  have disjoint := (Multiset.nodup_add.mp books.nodup).2.2
  have held : b ∈ holdings Call.block s.calls :=
    mem_holdings.mpr ⟨c, List.mem_of_getElem? is, holds⟩
  have out : b ∉ q ++ f := by
    have := Multiset.disjoint_right.mp disjoint held
    rwa [Multiset.coe_add, Multiset.mem_coe] at this
  exact not_or.mp (mt List.mem_append.mpr out)

/-- No block is held by two calls. -/
lemma Books.not_shared (books : s.Books n q f) (is : s.calls[i]? = some c) {c' : Call}
    (is' : s.calls[j]? = some c') (ne : i ≠ j) (holds : c.block = some b) : c'.block ≠ some b := by
  intro holds'
  have nodup := (Multiset.nodup_add.mp books.nodup).2.1
  rw [holdings_get Call.block is, holdings_some holds] at nodup
  have disjoint := (Multiset.nodup_add.mp nodup).2.2
  refine Multiset.disjoint_left.mp disjoint (Multiset.mem_singleton_self b) (mem_holdings.mpr ?_)
  exact ⟨c', List.mem_eraseIdx_iff_getElem?.mpr ⟨j, ne.symm, is'⟩, holds'⟩

/-- A call changes the queue, and its own place. -/
lemma Books.change (books : s.Books n q f) (is : s.calls[i]? = some c) {mq' : RtMessagequeue}
    {q' f' : List Nat} (pc : Pc) (new : List Effect) (lists : mq'.Lists q' f')
    (entry : mq'.entry.toNat = q'.length) (max : mq'.maxMsgs = s.mq.maxMsgs)
    (blocks : (q' + f' + holdings Call.block [⟨c.op, pc⟩] : Multiset Nat) =
      q + f + holdings Call.block [c])
    (content : new.foldlM Effect.apply (q.map s.mq.message) = some (q'.map mq'.message))
    (frame : ∀ b, b ∉ q → b ∉ f → c.block ≠ some b →
      mq'.next b = s.mq.next b ∧ mq'.message b = s.mq.message b)
    (own : Call.Explained mq' ⟨c.op, pc⟩ (effects s.log i ++ new)) :
    (MqState.mk mq' (s.calls.set i { c with pc := pc }) (s.log ++ new.map (i, ·))).Books n q' f' where
  toLists := lists
  entry := entry
  maxMsgs := max.trans books.maxMsgs
  blocks := by
    change (q' + f' + holdings Call.block (s.calls.set i ⟨c.op, pc⟩) : Multiset Nat) =
      Multiset.range n.toNat
    rw [holdings_set Call.block is, ← add_assoc, blocks, ← books.blocks,
      holdings_get Call.block is, ← add_assoc]
  content := by
    change ((s.log ++ new.map (i, ·)).map Prod.snd).foldlM Effect.apply [] = some (q'.map mq'.message)
    rw [List.map_append, List.map_map, List.foldlM_append, books.content]
    exact (congrArg (List.foldlM Effect.apply _) (List.map_id new)).trans content
  calls := by
    intro j c' is'
    change (s.calls.set i ⟨c.op, pc⟩)[j]? = some c' at is'
    change c'.Explained mq' (effects (s.log ++ new.map (i, ·)) j)
    by_cases eq : i = j
    · subst eq
      rw [List.getElem?_set_self (List.getElem?_eq_some_iff.mp is).1] at is'
      cases is'
      rw [effects_append_self]
      exact own
    · rw [List.getElem?_set_ne eq] at is'
      rw [effects_append_of_ne _ eq]
      refine (books.calls j c' is').congr fun b holds => ?_
      obtain ⟨notQ, notF⟩ := books.apart is' holds
      exact frame b notQ notF (books.not_shared is' is (Ne.symm eq) holds)
  fresh := by
    intro j le
    change (s.calls.set i ⟨c.op, pc⟩).length ≤ j at le
    change effects (s.log ++ new.map (i, ·)) j = []
    rw [List.length_set] at le
    have ne : i ≠ j := fun eq => absurd (List.getElem?_eq_some_iff.mp is).1 (by omega)
    rw [effects_append_of_ne _ ne]
    exact books.fresh j le

/-- A call goes on, and nothing else changes. -/
lemma Books.goto (books : s.Books n q f) (is : s.calls[i]? = some c) (pc : Pc)
    (block : Call.block ⟨c.op, pc⟩ = c.block)
    (own : Call.Explained s.mq ⟨c.op, pc⟩ (effects s.log i)) : (s.goto i c pc).Books n q f := by
  have same : holdings Call.block [⟨c.op, pc⟩] = holdings Call.block [c] := by
    rw [holdings, holdings, List.filterMap_cons, List.filterMap_cons, block]
  have changed := books.change is pc [] books.toLists books.entry rfl (by rw [same]) rfl
    (fun _ _ _ _ => ⟨rfl, rfl⟩) (by rw [List.append_nil]; exact own)
  rw [List.map_nil, List.append_nil] at changed
  exact changed

/-- Who waits does not matter to the books. -/
lemma Books.waiting (books : s.Books n q f) (l l' : List Nat) :
    MqState.Books { s with mq := { s.mq with suspendThread := l, suspendSenderThread := l' } } n q f where
  queue := books.queue
  tail := books.tail
  free := books.free
  entry := books.entry
  maxMsgs := books.maxMsgs
  blocks := books.blocks
  content := books.content
  calls := books.calls
  fresh := books.fresh

/-- A call is over without having done anything. -/
lemma Books.fail (books : s.Books n q f) (is : s.calls[i]? = some c) (none : c.block = none)
    (idle : effects s.log i = []) {result : Int} (error : result ∈ errors) :
    (s.goto i c (.returned result [])).Books n q f := by
  refine books.goto is _ none.symm ?_
  rw [idle]
  exact .failed error

/-- A sender looks for a free block. -/
lemma Books.takeFree (books : s.Books n q f) (is : s.calls[i]? = some c) (none : c.block = none)
    (idle : effects s.log i = []) (wait : Bool) : ∃ f', (s.takeFree i c wait).Books n q f' := by
  unfold MqState.takeFree
  cases head : s.mq.msgQueueFree with
  | none =>
    dsimp only
    split_ifs
    · have booked := books.waiting s.mq.suspendThread (s.mq.suspendSenderThread ++ [i])
      exact ⟨f, booked.goto is .suspended none.symm idle⟩
    · exact ⟨f, books.fail is none idle (by decide)⟩
  | some b =>
    obtain ⟨rest, rfl, lists⟩ := books.toLists.take head
    refine ⟨rest, ?_⟩
    have changed := books.change is (.fill b) [] lists books.entry rfl ?_ rfl
      (fun _ _ _ _ => ⟨rfl, rfl⟩) (by rw [idle]; rfl)
    · rw [List.map_nil, List.append_nil] at changed
      exact changed
    · rw [holdings_some (f := Call.block) (b := b) rfl, holdings_none none, ← Multiset.cons_coe,
        ← Multiset.singleton_add]
      abel

/-- A receiver looks for a message. -/
lemma Books.takeMessage (books : s.Books n q f) (is : s.calls[i]? = some c) (none : c.block = none)
    (idle : effects s.log i = []) (wait : Bool) : ∃ q', (s.takeMessage i c wait).Books n q' f := by
  unfold MqState.takeMessage
  by_cases empty : s.mq.entry = 0
  · rw [if_pos empty]
    split_ifs
    · have booked := books.waiting (s.mq.suspendThread ++ [i]) s.mq.suspendSenderThread
      exact ⟨q, booked.goto is .suspended none.symm idle⟩
    · exact ⟨q, books.fail is none idle (by decide)⟩
  · rw [if_neg empty]
    have more : q ≠ [] := by
      rintro rfl
      exact empty (UInt16.toNat_inj.mp books.entry)
    cases head : s.mq.msgQueueHead with
    | none => exact absurd (books.queue.eq_none_iff.mp head) more
    | some b =>
      have nodup := (List.nodup_append.mp books.nodup_lists).1
      obtain ⟨rest, rfl, lists⟩ := books.toLists.unlink nodup head
      have entry := books.entry
      refine ⟨rest, books.change is (.copy b) [.dequeue (s.mq.message b)] lists ?_ rfl ?_ ?_
        (fun _ _ _ _ => ⟨rfl, rfl⟩) ?_⟩
      · have less := RtMessagequeue.entry_unlink empty b
        rw [entry, List.length_cons, add_left_inj] at less
        exact less
      · rw [holdings_some (f := Call.block) (b := b) rfl, holdings_none none, ← Multiset.cons_coe,
          ← Multiset.singleton_add]
        abel
      · simp only [List.map_cons, List.foldlM_cons, Effect.apply, if_true]
        rfl
      · rw [idle]
        rfl

/-- A call that is still running has done nothing yet, unless it receives. -/
lemma Books.idle (books : s.Books n q f) (is : s.calls[i]? = some c)
    (pc : c.pc = .start ∨ c.pc = .suspended ∨ (∃ error, c.pc = .resumed error) ∨ ∃ b, c.pc = .fill b) :
    effects s.log i = [] := by
  have explained := books.calls i c is
  unfold Call.Explained at explained
  rcases pc with pc | pc | ⟨error, pc⟩ | ⟨b, pc⟩ <;> rw [pc] at explained
  · exact explained
  · exact explained
  · exact explained.1
  · exact explained

/-- A thread that is woken holds no block and has done nothing. -/
lemma Books.woken (books : s.Books n q f) {op : Op} (is : s.calls[j]? = some ⟨op, .suspended⟩)
    {error : Int} (valid : error = rtEok ∨ error ∈ errors) : (s.woken j op error).Books n q f :=
  (books.waiting (s.mq.suspendThread.erase j) (s.mq.suspendSenderThread.erase j)).goto is
    (.resumed error) rfl ⟨books.idle is (.inr (.inl rfl)), valid⟩

/-- A receiver is resumed, or nobody waits. -/
lemma Books.resumeReceiver (books : s.Books n q f) (waiting : s.Waiting) :
    s.resumeReceiver.Books n q f ∧ s.resumeReceiver.Waiting := by
  rcases waiting.resumeReceiver with ⟨-, eq⟩ | ⟨j, size, wait, is, eq⟩
  · rw [eq]
    exact ⟨books, waiting⟩
  · rw [eq]
    exact ⟨books.woken is (.inl rfl), waiting.woken is _⟩

/-- Resuming a sender keeps the books. -/
lemma Books.resumeSender (books : s.Books n q f) (waiting : s.Waiting) :
    s.resumeSender.Books n q f ∧ s.resumeSender.Waiting := by
  rcases waiting.resumeSender with ⟨-, eq⟩ | ⟨j, buffer, wait, is, eq⟩
  · rw [eq]
    exact ⟨books, waiting⟩
  · rw [eq]
    exact ⟨books.woken is (.inl rfl), waiting.woken is _⟩

/-- All threads that wait are resumed. -/
lemma Books.resumeAll (books : s.Books n q f) {l : List Nat} (nodup : l.Nodup)
    (wait : ∀ j ∈ l, ∃ op, s.calls[j]? = some ⟨op, .suspended⟩) (error : Int)
    (valid : error ∈ errors) :
    (s.resumeAll error l).Books n q f := by
  induction l generalizing s with
  | nil => exact books
  | cons j l ih =>
    obtain ⟨out, nodup'⟩ := List.nodup_cons.mp nodup
    obtain ⟨op, is⟩ := wait j List.mem_cons_self
    have next : (s.resume error j).Books n q f := by
      rw [resume_eq is]
      exact books.goto is (.resumed error) rfl ⟨books.idle is (.inr (.inl rfl)), .inr valid⟩
    refine ih next nodup' fun k mem => ?_
    obtain ⟨op', is'⟩ := wait k (List.mem_cons_of_mem _ mem)
    refine ⟨op', ?_⟩
    change (s.resume error j).calls[k]? = _
    rw [resume_eq is]
    exact (List.getElem?_set_ne (ne_of_mem_of_not_mem mem out).symm).trans is'

/-- The message is stored in the block. -/
lemma Books.fill (books : s.Books n q f) {op : Op} (is : s.calls[i]? = some ⟨op, .fill b⟩)
    (p : Option Nat) (buffer : List UInt8)
    (own : (∀ buffer' wait, op = .send buffer' wait → p = none ∧ buffer = buffer') ∧
      ∀ buffer', op = .urgent buffer' → buffer = buffer') :
    ({ s with mq := s.mq.store b p buffer }.goto i ⟨op, .fill b⟩ (.link b)).Books n q f := by
  obtain ⟨notQ, notF⟩ := books.apart is rfl
  have idle := books.idle is (.inr (.inr (.inr ⟨b, rfl⟩)))
  have same : q.map (s.mq.store b p buffer).message = q.map s.mq.message :=
    List.map_congr_left fun a mem =>
      RtMessagequeue.message_store_of_ne (ne_of_mem_of_not_mem mem notQ) buffer
  have changed := books.change is (.link b) [] (books.toLists.store notQ notF p buffer) books.entry
    rfl rfl (congrArg some same.symm) ?_ ?_
  · rw [List.map_nil, List.append_nil] at changed
    exact changed
  · intro a _ _ other
    have ne : a ≠ b := fun eq => other (congrArg some eq.symm)
    exact ⟨RtMessagequeue.next_store_of_ne ne buffer, RtMessagequeue.message_store_of_ne ne buffer⟩
  · rw [idle]
    refine ⟨rfl, fun buffer' wait eq => ?_, fun buffer' eq => ?_⟩
    · obtain ⟨next, message⟩ := own.1 buffer' wait eq
      exact ⟨(RtMessagequeue.next_store ..).trans next, (RtMessagequeue.message_store ..).trans message⟩
    · exact (RtMessagequeue.message_store ..).trans (own.2 buffer' eq)

/-- A block that a call holds leaves room in the queue. -/
lemma Books.room (books : s.Books n q f) (is : s.calls[i]? = some c) (holds : c.block = some b) :
    s.mq.entry < rtMqEntryMax ∧ (s.mq.entry + 1).toNat = q.length + 1 := by
  have card := congrArg Multiset.card books.blocks
  rw [holdings_get Call.block is, holdings_some holds] at card
  simp only [Multiset.card_add, Multiset.coe_card, Multiset.card_singleton, Multiset.card_range]
    at card
  have small : n.toNat < 2 ^ 16 := n.toNat_lt
  have entry := books.entry
  have lt : s.mq.entry.toNat + 1 < 2 ^ 16 := by omega
  constructor
  · rw [UInt16.lt_iff_toNat_lt]
    change s.mq.entry.toNat < 65535
    omega
  · rw [UInt16.toNat_add, ← entry]
    exact Nat.mod_eq_of_lt lt

/-- A message that has been linked is counted, and its call is over. -/
lemma Books.announce_eq (books : s.Books n q f) {op : Op} (is : s.calls[i]? = some ⟨op, .link b⟩)
    {mq' : RtMessagequeue} (linked : s.mq.Linked mq') (e : Effect) :
    ({ s with mq := mq' }.logged i e).announce i ⟨op, .link b⟩ =
      (MqState.mk { mq' with entry := mq'.entry + 1 } (s.calls.set i ⟨op, .returned rtEok []⟩)
        (s.log ++ [e].map (i, ·))).resumeReceiver := by
  refine if_pos ?_
  change mq'.entry < rtMqEntryMax
  rw [linked.entry]
  exact (books.room is rfl).1

/-- The message is linked, counted and announced. -/
lemma Books.announce (books : s.Books n q f) (waiting : s.Waiting) {op : Op}
    (is : s.calls[i]? = some ⟨op, .link b⟩) {mq' : RtMessagequeue} {q' : List Nat} {e : Effect}
    (lists : mq'.Lists q' f) (linked : s.mq.Linked mq') (perm : q'.Perm (b :: q))
    (content : Effect.apply (q.map s.mq.message) e = some (q'.map s.mq.message))
    (frame : ∀ a, a ∉ q → a ≠ b → mq'.next a = s.mq.next a)
    (answer : Answer op rtEok [] [e]) :
    (({ s with mq := mq' }.logged i e).announce i ⟨op, .link b⟩).Books n q' f ∧
      (({ s with mq := mq' }.logged i e).announce i ⟨op, .link b⟩).Waiting := by
  have count := (books.room is rfl).2
  have idle : effects s.log i = [] := (books.calls i _ is).1
  have booked : (MqState.mk { mq' with entry := mq'.entry + 1 }
      (s.calls.set i ⟨op, .returned rtEok []⟩) (s.log ++ [e].map (i, ·))).Books n q' f := by
    refine books.change is (.returned rtEok []) [e] ⟨lists.queue, lists.tail, lists.free⟩ ?_
      linked.maxMsgs ?_ ?_ ?_ ?_
    · change (mq'.entry + 1).toNat = q'.length
      rw [linked.entry, count, perm.length_eq]
      rfl
    · rw [holdings_none (f := Call.block) (a := ⟨op, .returned rtEok []⟩) rfl,
        holdings_some (f := Call.block) (a := ⟨op, .link b⟩) (b := b) rfl,
        Multiset.coe_eq_coe.mpr perm, ← Multiset.cons_coe, ← Multiset.singleton_add]
      abel
    · change [e].foldlM Effect.apply _ = some (q'.map mq'.message)
      rw [List.foldlM_cons, content, linked.message]
      rfl
    · intro a notQ _ other
      exact ⟨frame a notQ fun eq => other (congrArg some eq.symm), congrFun linked.message a⟩
    · rw [idle]
      exact answer
  have waits := waiting.goto is nofun (.returned rtEok []) nofun { mq' with entry := mq'.entry + 1 }
    (s.log ++ [e].map (i, ·)) linked.suspendThread linked.suspendSenderThread
  rw [books.announce_eq is linked]
  exact booked.resumeReceiver waits

/-- A message is linked to the end of the queue. -/
lemma Books.send (books : s.Books n q f) (waiting : s.Waiting) {buffer : List UInt8} {wait : Bool}
    (is : s.calls[i]? = some ⟨.send buffer wait, .link b⟩) :
    let s' := ({ s with mq := s.mq.linkTail b }.logged i (.enqueue buffer)).announce i
      ⟨.send buffer wait, .link b⟩
    s'.Books n (q ++ [b]) f ∧ s'.Waiting := by
  obtain ⟨notQ, notF⟩ := books.apart is rfl
  obtain ⟨-, ready, -⟩ := books.calls i _ is
  obtain ⟨last, message⟩ := ready buffer wait rfl
  have nodup := List.nodup_append.mp books.nodup_lists
  have disjoint : q.Disjoint f := fun a mem mem' => nodup.2.2 a mem a mem' rfl
  refine books.announce waiting is (books.toLists.linkTail nodup.1 notQ disjoint last)
    (RtMessagequeue.linked_linkTail ..) (List.perm_append_singleton b q) ?_
    (fun a out _ => books.toLists.next_linkTail out) .sent
  rw [Effect.apply, List.map_append, List.map_singleton, message]

/-- A message is linked to the beginning of the queue. -/
lemma Books.push (books : s.Books n q f) (waiting : s.Waiting) {buffer : List UInt8}
    (is : s.calls[i]? = some ⟨.urgent buffer, .link b⟩) :
    let s' := ({ s with mq := s.mq.linkHead b }.logged i (.push buffer)).announce i
      ⟨.urgent buffer, .link b⟩
    s'.Books n (b :: q) f ∧ s'.Waiting := by
  obtain ⟨notQ, notF⟩ := books.apart is rfl
  obtain ⟨-, -, ready⟩ := books.calls i _ is
  refine books.announce waiting is (books.toLists.linkHead notQ notF)
    (RtMessagequeue.linked_linkHead ..) (List.Perm.refl _) ?_
    (fun a _ ne => RtMessagequeue.next_linkHead ne) .pushed
  rw [Effect.apply, List.map_cons, ready buffer rfl]

/-- The message is copied to the receiver. -/
lemma Books.copy (books : s.Books n q f) {size : Nat} {wait : Bool}
    (is : s.calls[i]? = some ⟨.recv size wait, .copy b⟩) :
    (s.goto i ⟨.recv size wait, .copy b⟩ (.release b ((s.mq.message b).take size))).Books n q f := by
  have done : effects s.log i = [.dequeue (s.mq.message b)] := books.calls i _ is
  refine books.goto is _ rfl ⟨s.mq.message b, done, fun size' wait' eq => ?_⟩
  cases eq
  rfl

/-- The block of a message that has been received is free again. -/
lemma Books.release (books : s.Books n q f) (waiting : s.Waiting) {size : Nat} {wait : Bool}
    {data : List UInt8} (is : s.calls[i]? = some ⟨.recv size wait, .release b data⟩) :
    let s' := ({ s with mq := s.mq.giveBack b }.goto i ⟨.recv size wait, .release b data⟩
      (.returned data.length data)).resumeSender
    s'.Books n q (b :: f) ∧ s'.Waiting := by
  obtain ⟨notQ, notF⟩ := books.apart is rfl
  obtain ⟨m, done, eq⟩ := books.calls i _ is
  have linked := s.mq.linked_giveBack b
  have booked := books.change is (.returned data.length data) []
    (books.toLists.giveBack notQ notF) books.entry rfl ?_ ?_ ?_ ?_
  · rw [List.map_nil, List.append_nil] at booked
    have waits := waiting.goto is nofun (.returned data.length data) nofun (s.mq.giveBack b) s.log
      rfl rfl
    exact booked.resumeSender waits
  · rw [holdings_none (f := Call.block) (a := ⟨.recv size wait, .returned data.length data⟩) rfl,
      holdings_some (f := Call.block) (a := ⟨.recv size wait, .release b data⟩) (b := b) rfl,
      ← Multiset.cons_coe, ← Multiset.singleton_add]
    abel
  · rw [linked.message]
    rfl
  · intro a _ _ other
    have ne : a ≠ b := fun eq => other (congrArg some eq.symm)
    exact ⟨RtMessagequeue.next_giveBack ne, congrFun linked.message a⟩
  · rw [done, eq size wait rfl]
    exact .received

/-- The queue is reset. -/
lemma Books.rtMqReset (books : s.Books n q f) (waiting : s.Waiting)
    (is : s.calls[i]? = some ⟨.reset, .start⟩) :
    let s' := s.rtMqReset i ⟨.reset, .start⟩
    s'.Books n [] (q.reverse ++ f) ∧ s'.Waiting ∧ s'.mq.suspendThread = [] ∧
      s'.mq.suspendSenderThread = [] := by
  intro s'
  obtain ⟨out, out'⟩ := waiting.not_mem is nofun
  set l := s.mq.suspendThread ++ s.mq.suspendSenderThread with l_eq
  set t : MqState := { s.resumeAll rtError l with
    mq := { s.mq with suspendThread := [], suspendSenderThread := [] } } with t_eq
  have nodup : l.Nodup := List.nodup_append.mpr ⟨waiting.once, waiting.onceSender,
    fun a mem b mem' => ne_of_mem_of_not_mem mem fun mem => waiting.apart mem mem'⟩
  have suspended : ∀ j ∈ l, ∃ op, s.calls[j]? = some ⟨op, .suspended⟩ := by
    intro j mem
    rcases List.mem_append.mp mem with mem | mem
    · obtain ⟨size, wait, is⟩ := (waiting.receivers j).mp mem
      exact ⟨_, is⟩
    · obtain ⟨buffer, wait, is⟩ := (waiting.senders j).mp mem
      exact ⟨_, is⟩
  obtain ⟨same, sameLog⟩ := s.resumeAll_mq rtError l
  have booked : t.Books n q f := by
    have booked := (books.resumeAll nodup suspended rtError (by decide)).waiting [] []
    rw [same] at booked
    exact booked
  have waits : t.Waiting := waiting.resumeAll rtError
  have is' : t.calls[i]? = some ⟨.reset, .start⟩ := by
    have notL : i ∉ l := fun mem => (List.mem_append.mp mem).elim out out'
    change (s.resumeAll rtError l).calls[i]? = _
    rw [resumeAll_get, is, Option.map_some, if_neg notL]
  have enough : q.length ≤ t.mq.maxMsgs.toNat := by
    rw [booked.maxMsgs]
    have card := congrArg Multiset.card booked.blocks
    simp only [Multiset.card_add, Multiset.coe_card, Multiset.card_range] at card
    omega
  obtain ⟨lists, linked, frame⟩ := booked.toLists.releaseAll booked.nodup_lists enough
  have eq : s' =
      ⟨{ t.mq.releaseAll t.mq.maxMsgs.toNat with entry := 0 },
        t.calls.set i ⟨.reset, .returned rtEok []⟩, t.log ++ [Effect.clear].map (i, ·)⟩ := by
    change MqState.goto (MqState.logged _ _ _) _ _ _ = _
    rw [show List.foldl (fun s j => s.resume rtError j) s _ = s.resumeAll rtError l from rfl, same]
    rfl
  rw [eq]
  refine ⟨?_, ?_, linked.suspendThread, linked.suspendSenderThread⟩
  · refine booked.change is' (.returned rtEok []) [.clear] ⟨lists.queue, lists.tail, lists.free⟩ rfl
      linked.maxMsgs ?_ rfl ?_ ?_
    · rw [holdings_none (f := Call.block) (a := ⟨.reset, .returned rtEok []⟩) rfl,
        holdings_none (f := Call.block) (a := ⟨.reset, .start⟩) rfl, ← Multiset.coe_add,
        Multiset.coe_reverse]
      rfl
    · intro a notQ _ _
      exact ⟨frame a notQ, congrFun linked.message a⟩
    · rw [booked.idle is' (.inl rfl)]
      exact .reset
  · exact waits.goto is' nofun (.returned rtEok []) nofun
      { t.mq.releaseAll t.mq.maxMsgs.toNat with entry := 0 } _ linked.suspendThread
      linked.suspendSenderThread

/-! ## Steps -/

/-- A sender that finds no free block enters its list. -/
lemma Waiting.takeFree (waiting : s.Waiting) {op : Op} {pc : Pc} {wait : Bool}
    (is : s.calls[i]? = some ⟨op, pc⟩) (runs : pc ≠ .suspended)
    (sends : wait = true → ∃ buffer wait', op = .send buffer wait') :
    (s.takeFree i ⟨op, pc⟩ wait).Waiting := by
  unfold MqState.takeFree
  cases s.mq.msgQueueFree with
  | none =>
    dsimp only
    split_ifs with waits
    · obtain ⟨buffer, wait', rfl⟩ := sends waits
      exact waiting.suspendSender is runs
    · exact waiting.goto is runs (.returned (-rtEFull) []) nofun s.mq s.log rfl rfl
  | some b =>
    exact waiting.goto is runs (.fill b) nofun { s.mq with msgQueueFree := (s.mq.pool b).next } s.log
      rfl rfl

/-- A receiver that finds no message enters its list. -/
lemma Waiting.takeMessage (waiting : s.Waiting) {size : Nat} {wait' wait : Bool} {pc : Pc}
    (is : s.calls[i]? = some ⟨.recv size wait', pc⟩) (runs : pc ≠ .suspended) :
    (s.takeMessage i ⟨.recv size wait', pc⟩ wait).Waiting := by
  unfold MqState.takeMessage
  split_ifs
  · exact waiting.suspendReceiver is runs
  · exact waiting.goto is runs (.returned (-rtETimeout) []) nofun s.mq s.log rfl rfl
  · cases s.mq.msgQueueHead with
    | none => exact waiting.goto is runs .fault nofun s.mq s.log rfl rfl
    | some b => exact waiting.goto is runs (.copy b) nofun (s.mq.unlink b) _ rfl rfl

/-- The books are kept, and the lists of the threads that wait. -/
def Sound (s : MqState) (n : UInt16) : Prop := (∃ q f, s.Books n q f) ∧ s.Waiting

/-- A call is over without having done anything. -/
lemma Sound.fail (books : s.Books n q f) (waiting : s.Waiting) {op : Op} {pc : Pc}
    (is : s.calls[i]? = some ⟨op, pc⟩) (pcs : pc = .start ∨ ∃ error, pc = .resumed error)
    {result : Int} (error : result ∈ errors) : (s.goto i ⟨op, pc⟩ (.returned result [])).Sound n := by
  have idle : effects s.log i = [] := books.idle is (pcs.imp id fun pcs => .inr (.inl pcs))
  have none : Call.block ⟨op, pc⟩ = none := by rcases pcs with rfl | ⟨error, rfl⟩ <;> rfl
  have runs : pc ≠ .suspended := by rcases pcs with rfl | ⟨error, rfl⟩ <;> exact nofun
  exact ⟨⟨q, f, books.fail is none idle error⟩,
    waiting.goto is runs (.returned result []) nofun s.mq s.log rfl rfl⟩

/-- A sender takes a free block, waits, or fails. -/
lemma Sound.takeFree (books : s.Books n q f) (waiting : s.Waiting) {op : Op} {pc : Pc} {wait : Bool}
    (is : s.calls[i]? = some ⟨op, pc⟩) (pcs : pc = .start ∨ ∃ error, pc = .resumed error)
    (sends : wait = true → ∃ buffer wait', op = .send buffer wait') :
    (s.takeFree i ⟨op, pc⟩ wait).Sound n := by
  have idle : effects s.log i = [] := books.idle is (pcs.imp id fun pcs => .inr (.inl pcs))
  have none : Call.block ⟨op, pc⟩ = none := by rcases pcs with rfl | ⟨error, rfl⟩ <;> rfl
  have runs : pc ≠ .suspended := by rcases pcs with rfl | ⟨error, rfl⟩ <;> exact nofun
  obtain ⟨f', books'⟩ := books.takeFree is none idle wait
  exact ⟨⟨q, f', books'⟩, waiting.takeFree is runs sends⟩

/-- A receiver takes the first message, waits, or fails. -/
lemma Sound.takeMessage (books : s.Books n q f) (waiting : s.Waiting) {size : Nat} {wait' wait : Bool}
    {pc : Pc} (is : s.calls[i]? = some ⟨.recv size wait', pc⟩)
    (pcs : pc = .start ∨ ∃ error, pc = .resumed error) :
    (s.takeMessage i ⟨.recv size wait', pc⟩ wait).Sound n := by
  have idle : effects s.log i = [] := books.idle is (pcs.imp id fun pcs => .inr (.inl pcs))
  have none : Call.block ⟨.recv size wait', pc⟩ = none := by rcases pcs with rfl | ⟨error, rfl⟩ <;> rfl
  have runs : pc ≠ .suspended := by rcases pcs with rfl | ⟨error, rfl⟩ <;> exact nofun
  obtain ⟨q', books'⟩ := books.takeMessage is none idle wait
  exact ⟨⟨q', f, books'⟩, waiting.takeMessage is runs⟩

/-- A call takes its next step. -/
lemma Sound.callStep (sound : s.Sound n) (is : s.calls[i]? = some c) (expired : Bool) :
    (s.callStep i c expired).Sound n := by
  obtain ⟨⟨q, f, books⟩, waiting⟩ := sound
  obtain ⟨op, pc⟩ := c
  cases op with
  | send buffer wait =>
    cases pc with
    | start =>
      change (if buffer.length > s.mq.msgSize.toNat then _ else _ : MqState).Sound n
      split_ifs
      · exact Sound.fail books waiting is (.inl rfl) (by decide)
      · exact Sound.takeFree books waiting is (.inl rfl) fun _ => ⟨buffer, wait, rfl⟩
    | resumed error =>
      change (if error ≠ rtEok then _ else _ : MqState).Sound n
      split_ifs with failed
      · exact Sound.fail books waiting is (.inr ⟨error, rfl⟩)
          ((books.calls i _ is).2.resolve_left failed)
      · exact Sound.takeFree books waiting is (.inr ⟨error, rfl⟩) fun _ => ⟨buffer, wait, rfl⟩
    | fill b =>
      refine ⟨⟨q, f, books.fill is none buffer ⟨fun buffer' wait' eq => ?_, nofun⟩⟩,
        waiting.goto is nofun (.link b) nofun (s.mq.store b none buffer) s.log rfl rfl⟩
      cases eq
      exact ⟨rfl, rfl⟩
    | link b => exact ⟨⟨_, _, (books.send waiting is).1⟩, (books.send waiting is).2⟩
    | _ => exact ⟨⟨q, f, books⟩, waiting⟩
  | urgent buffer =>
    cases pc with
    | start =>
      change (if buffer.length > s.mq.msgSize.toNat then _ else _ : MqState).Sound n
      split_ifs
      · exact Sound.fail books waiting is (.inl rfl) (by decide)
      · exact Sound.takeFree books waiting is (.inl rfl) nofun
    | fill b =>
      refine ⟨⟨q, f, books.fill is _ buffer ⟨nofun, fun buffer' eq => ?_⟩⟩,
        waiting.goto is nofun (.link b) nofun (s.mq.store b (s.mq.pool b).next buffer) s.log rfl rfl⟩
      cases eq
      rfl
    | link b => exact ⟨⟨_, _, (books.push waiting is).1⟩, (books.push waiting is).2⟩
    | _ => exact ⟨⟨q, f, books⟩, waiting⟩
  | recv size wait =>
    cases pc with
    | start => exact Sound.takeMessage books waiting is (.inl rfl)
    | resumed error =>
      change (if error ≠ rtEok then _ else _ : MqState).Sound n
      split_ifs with failed
      · exact Sound.fail books waiting is (.inr ⟨error, rfl⟩)
          ((books.calls i _ is).2.resolve_left failed)
      · exact Sound.takeMessage books waiting is (.inr ⟨error, rfl⟩)
    | copy b =>
      exact ⟨⟨q, f, books.copy is⟩, waiting.goto is nofun
        (.release b ((s.mq.message b).take size)) nofun s.mq s.log rfl rfl⟩
    | release b data => exact ⟨⟨_, _, (books.release waiting is).1⟩, (books.release waiting is).2⟩
    | _ => exact ⟨⟨q, f, books⟩, waiting⟩
  | reset =>
    cases pc with
    | start =>
      obtain ⟨books', waiting', -⟩ := books.rtMqReset waiting is
      exact ⟨⟨_, _, books'⟩, waiting'⟩
    | _ => exact ⟨⟨q, f, books⟩, waiting⟩

/-- The calls after a new one has begun. -/
lemma called_get {calls : List Call} {op : Op} :
    (calls ++ [⟨op, .start⟩])[j]? = some c ↔
      calls[j]? = some c ∨ j = calls.length ∧ c = ⟨op, .start⟩ := by
  rw [List.getElem?_append]
  split_ifs with lt
  · exact (or_iff_left fun new => lt.ne new.1).symm
  · rw [List.getElem?_eq_none (not_lt.mp lt), List.getElem?_singleton]
    split_ifs with eq
    · have last : j = calls.length := by omega
      simp only [Option.some.injEq, false_or, last, true_and, eq_comm]
    · have more : j ≠ calls.length := by omega
      simp only [more, false_and, or_self]

/-- A call is made. -/
lemma Sound.call (sound : s.Sound n) (op : Op) : (s.step (.call op)).Sound n := by
  obtain ⟨⟨q, f, books⟩, waiting⟩ := sound
  constructor
  · refine ⟨q, f, books.toLists, books.entry, books.maxMsgs, ?_, books.content, fun j c' is => ?_,
      fun j le => ?_⟩
    · change (q + f + holdings Call.block (s.calls ++ [⟨op, .start⟩]) : Multiset Nat) =
        Multiset.range n.toNat
      rw [holdings_append, holdings_none (f := Call.block) (a := ⟨op, .start⟩) rfl, add_zero]
      exact books.blocks
    · rcases called_get.mp is with old | ⟨rfl, rfl⟩
      · exact books.calls j c' old
      · exact books.fresh _ le_rfl
    · refine books.fresh j (le_trans ?_ le)
      exact (List.length_append ..).symm ▸ Nat.le_add_right ..
  · refine ⟨fun j => ?_, fun j => ?_, waiting.once, waiting.onceSender⟩
    · refine (waiting.receivers j).trans (exists_congr fun size => exists_congr fun wait => ?_)
      refine Iff.symm (called_get.trans (or_iff_left ?_))
      exact fun new => by cases new.2
    · refine (waiting.senders j).trans (exists_congr fun buffer => exists_congr fun wait => ?_)
      refine Iff.symm (called_get.trans (or_iff_left ?_))
      exact fun new => by cases new.2

/-- Every step keeps the books. -/
lemma Sound.step (sound : s.Sound n) (a : Act) : (s.step a).Sound n := by
  cases a with
  | call op => exact sound.call op
  | go i expired =>
    simp only [MqState.step]
    cases is : s.calls[i]? with
    | none => exact sound
    | some c => exact sound.callStep is expired
  | timer i =>
    simp only [MqState.step]
    cases is : s.calls[i]? with
    | none => exact sound
    | some c =>
      obtain ⟨op, pc⟩ := c
      dsimp only
      split_ifs with suspended
      · subst suspended
        obtain ⟨⟨q, f, books⟩, waiting⟩ := sound
        exact ⟨⟨q, f, books.woken is (.inr (by decide))⟩, waiting.woken is _⟩
      · exact sound

/-- The books of a queue that has been created. -/
lemma sound_initial (msgSize maxMsgs : UInt16) (pool : Nat → RtMqMessage) :
    (initial msgSize maxMsgs pool).Sound maxMsgs := by
  have nodup : (List.range maxMsgs.toNat ++ []).Nodup := by
    rw [List.append_nil]
    exact List.nodup_range
  have empty : RtMessagequeue.Lists
      ⟨msgSize, maxMsgs, 0, pool, none, none, none, [], []⟩ [] [] := ⟨rfl, rfl, rfl⟩
  obtain ⟨lists, linked⟩ := RtMessagequeue.lists_create (List.range maxMsgs.toNat) empty nodup
  refine ⟨⟨[], _, lists, congrArg UInt16.toNat linked.entry, linked.maxMsgs, ?_, rfl, nofun,
    fun _ _ => rfl⟩, ?_⟩
  · rw [List.append_nil, Multiset.coe_reverse]
    exact (congrArg (· + _) (zero_add _)).trans (add_zero _)
  · have none : (initial msgSize maxMsgs pool).mq.suspendThread = [] := linked.suspendThread
    have none' : (initial msgSize maxMsgs pool).mq.suspendSenderThread = [] :=
      linked.suspendSenderThread
    refine ⟨fun j => ?_, fun j => ?_, none ▸ List.nodup_nil, none' ▸ List.nodup_nil⟩
    · rw [none]
      exact iff_of_false List.not_mem_nil nofun
    · rw [none']
      exact iff_of_false List.not_mem_nil nofun

/-- In every state of every run. -/
lemma sound_run (msgSize maxMsgs : UInt16) (pool : Nat → RtMqMessage) (acts : List Act) :
    (acts.foldl MqState.step (initial msgSize maxMsgs pool)).Sound maxMsgs :=
  foldl_invariant (I := fun s => Sound s maxMsgs) (fun _ a sound => Sound.step sound a) acts
    (sound_initial msgSize maxMsgs pool)

/-- The blocks that calls hold. -/
def held (s : MqState) : List Nat := s.calls.filterMap Call.block

/-- The message queue is a queue. The linked list from `msg_queue_head` holds the blocks `q`, and the free
    list the blocks `f`: what the calls have done, one after another, are the operations of a queue, and
    they leave the messages of `q` on it, as many as `entry` says; every block of the pool is once in
    `q`, in `f` or in the hands of one call, and there is no free block exactly if the messages on the
    queue and the blocks in the hands of calls are all there are. Every call that has returned has
    done its own operation once and returns what belongs to it, or has done nothing and fails; and no
    call follows a null pointer. -/
theorem mq_linearizable (msgSize maxMsgs : UInt16) (pool : Nat → RtMqMessage) (acts : List Act) :
    let s := acts.foldl MqState.step (initial msgSize maxMsgs pool)
    ∃ q f : List Nat, s.mq.Lists q f ∧
      (s.log.map Prod.snd).foldlM Effect.apply [] = some (q.map s.mq.message) ∧
      s.mq.entry.toNat = q.length ∧
      (q ++ f ++ s.held).Perm (List.range maxMsgs.toNat) ∧
      (s.mq.msgQueueFree = none ↔ q.length + s.held.length = maxMsgs.toNat) ∧
      ∀ (i : Nat) (c : Call), s.calls[i]? = some c → c.pc ≠ .fault ∧
        ∀ result data, c.pc = .returned result data →
          Answer c.op result data (effects s.log i) := by
  intro s
  obtain ⟨⟨q, f, books⟩, -⟩ : s.Sound maxMsgs := sound_run msgSize maxMsgs pool acts
  have perm : (q ++ f ++ s.held).Perm (List.range maxMsgs.toNat) := by
    rw [← Multiset.coe_eq_coe, ← Multiset.coe_add, ← Multiset.coe_add]
    exact books.blocks
  refine ⟨q, f, books.toLists, books.content, books.entry, perm, ?_, fun i c is => ?_⟩
  · have card := perm.length_eq
    simp only [List.length_append, List.length_range] at card
    rw [books.free.eq_none_iff, ← List.length_eq_zero_iff]
    omega
  · have explained := books.calls i c is
    obtain ⟨op, pc⟩ := c
    refine ⟨?_, fun result data eq => ?_⟩
    · rintro rfl
      exact explained
    · cases eq
      exact explained

end MqState

end WlhHpm.Kernel

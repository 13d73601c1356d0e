import Mathlib.Logic.Function.Basic
import WlhHpm.Lib.Memory

/-!
# Message queues

The message queue of `rt-thread/src/ipc.c`: a pool of blocks on two linked lists, the queue and the
free list. A call of `rt_mq_send_wait`, `rt_mq_urgent` or `rt_mq_recv` holds the spinlock twice, and
copies the message in between; while it does, its block is on neither list. A step here is
what a call does in one go, so calls interleave at these points, and at the points where a thread
waits.

The threads that wait are in the lists `suspend_thread` and `suspend_sender_thread`, in the order in
which they came (`RT_IPC_FLAG_FIFO`). A thread is resumed by its partner with `RT_EOK`, by a reset of
the queue with `RT_ERROR`, or by its timer. `log` is not in the source: it says when a call has put
a message into the queue or has taken one out.
-/

namespace WlhHpm.Kernel

/-! The error codes of `klibc/kerrno.h`: `RT_EFULL` and `RT_ETIMEOUT` are `ENOSPC` and `ETIMEDOUT` of
the C library, which is newlib here (`rtconfig.py` builds with GCC for RISC-V). -/

def rtEok : Int := 0
def rtError : Int := 255
def rtEFull : Int := 28
def rtETimeout : Int := 116

/-- `RT_MQ_ENTRY_MAX`. -/
def rtMqEntryMax : UInt16 := 0xffff

/-! ## The queue -/

/-- C `struct rt_mq_message` with the bytes behind it. -/
structure RtMqMessage where
  next : Option Nat
  length : Nat
  bytes : Mem

/-- C `struct rt_messagequeue`. The blocks of the pool have numbers, and so have the threads. -/
structure RtMessagequeue where
  msgSize : UInt16
  maxMsgs : UInt16
  entry : UInt16
  pool : Nat → RtMqMessage
  msgQueueHead : Option Nat
  msgQueueTail : Option Nat
  msgQueueFree : Option Nat
  suspendThread : List Nat
  suspendSenderThread : List Nat

namespace RtMessagequeue

/-- The message that a block holds. -/
def message (mq : RtMessagequeue) (b : Nat) : List UInt8 := (mq.pool b).bytes.toList (mq.pool b).length

/-- `msg->next = p`. -/
def setNext (mq : RtMessagequeue) (b : Nat) (p : Option Nat) : RtMessagequeue :=
  { mq with pool := Function.update mq.pool b { mq.pool b with next := p } }

/-- A block is put on the free list. -/
def giveBack (mq : RtMessagequeue) (b : Nat) : RtMessagequeue :=
  { mq.setNext b mq.msgQueueFree with msgQueueFree := some b }

/-- C `rt_mq_create`, on memory that holds anything. -/
def rtMqCreate (msgSize maxMsgs : UInt16) (pool : Nat → RtMqMessage) : RtMessagequeue :=
  (List.range maxMsgs.toNat).foldl giveBack
    { msgSize := msgSize
      maxMsgs := maxMsgs
      entry := 0
      pool := pool
      msgQueueHead := none
      msgQueueTail := none
      msgQueueFree := none
      suspendThread := []
      suspendSenderThread := [] }

/-- The length and the bytes of a message are stored. -/
def store (mq : RtMessagequeue) (b : Nat) (next : Option Nat) (buffer : List UInt8) :
    RtMessagequeue :=
  { mq with
    pool := Function.update mq.pool b
      ⟨next, buffer.length, (mq.pool b).bytes.copy 0 buffer.length (Mem.ofList buffer)⟩ }

/-- The message is linked to the end of the queue. -/
def linkTail (mq : RtMessagequeue) (b : Nat) : RtMessagequeue :=
  let mq := match mq.msgQueueTail with
    | some t => mq.setNext t (some b)
    | none => mq
  { mq with
    msgQueueTail := some b
    msgQueueHead := if mq.msgQueueHead = none then some b else mq.msgQueueHead }

/-- The message is linked to the beginning of the queue. -/
def linkHead (mq : RtMessagequeue) (b : Nat) : RtMessagequeue :=
  { mq.setNext b mq.msgQueueHead with
    msgQueueHead := some b
    msgQueueTail := if mq.msgQueueTail = none then some b else mq.msgQueueTail }

/-- The first message leaves the queue. -/
def unlink (mq : RtMessagequeue) (b : Nat) : RtMessagequeue :=
  { mq with
    msgQueueHead := (mq.pool b).next
    msgQueueTail := if mq.msgQueueTail = some b then none else mq.msgQueueTail
    entry := if mq.entry > 0 then mq.entry - 1 else mq.entry }

/-- The loop of `rt_mq_control` that releases the messages. It ends after at most as many passes as
    there are blocks. -/
def releaseAll : Nat → RtMessagequeue → RtMessagequeue
  | 0, mq => mq
  | fuel + 1, mq =>
    match mq.msgQueueHead with
    | none => mq
    | some b =>
      releaseAll fuel ({ mq with
        msgQueueHead := (mq.pool b).next
        msgQueueTail := if mq.msgQueueTail = some b then none else mq.msgQueueTail }.giveBack b)

end RtMessagequeue

/-! ## Calls -/

/-- A call: `rt_mq_send_wait` or `rt_mq_recv`, which wait or do not (their timeout is zero),
    `rt_mq_urgent`, or `rt_mq_control` with `RT_IPC_CMD_RESET`. -/
inductive Op where
  | send (buffer : List UInt8) (wait : Bool)
  | urgent (buffer : List UInt8)
  | recv (size : Nat) (wait : Bool)
  | reset
  deriving DecidableEq, Repr

/-- Where a call stands; the numbers are those of the block it holds. -/
inductive Pc where
  | start
  | fill (b : Nat)
  | link (b : Nat)
  | copy (b : Nat)
  | release (b : Nat) (data : List UInt8)
  | suspended
  /-- Resumed, with `thread->error`. -/
  | resumed (error : Int)
  | returned (result : Int) (data : List UInt8)
  /-- A null pointer has been followed. -/
  | fault
  deriving DecidableEq, Repr

structure Call where
  op : Op
  pc : Pc
  deriving DecidableEq, Repr

/-- What a call does to the queue of messages. -/
inductive Effect where
  | enqueue (m : List UInt8)
  | push (m : List UInt8)
  | dequeue (m : List UInt8)
  | clear
  deriving DecidableEq, Repr

/-- A queue with the calls made so far. -/
structure MqState where
  mq : RtMessagequeue
  calls : List Call
  log : List (Nat × Effect)

namespace MqState

/-- A call goes on elsewhere. -/
def goto (s : MqState) (i : Nat) (c : Call) (pc : Pc) : MqState :=
  { s with calls := s.calls.set i { c with pc := pc } }

def logged (s : MqState) (i : Nat) (e : Effect) : MqState := { s with log := s.log ++ [(i, e)] }

/-- A thread is resumed. -/
def resume (s : MqState) (error : Int) (i : Nat) : MqState :=
  { s with calls := s.calls.modify i fun c => { c with pc := .resumed error } }

/-- C `rt_susp_list_dequeue` on `suspend_thread`. -/
def resumeReceiver (s : MqState) : MqState :=
  match s.mq.suspendThread with
  | [] => s
  | i :: rest => { s with mq := { s.mq with suspendThread := rest } }.resume rtEok i

/-- C `rt_susp_list_dequeue` on `suspend_sender_thread`. -/
def resumeSender (s : MqState) : MqState :=
  match s.mq.suspendSenderThread with
  | [] => s
  | i :: rest => { s with mq := { s.mq with suspendSenderThread := rest } }.resume rtEok i

/-- A sender looks for a free block. -/
def takeFree (s : MqState) (i : Nat) (c : Call) (wait : Bool) : MqState :=
  match s.mq.msgQueueFree with
  | some b =>
    { s with mq := { s.mq with msgQueueFree := (s.mq.pool b).next } }.goto i c (.fill b)
  | none =>
    if wait then
      { s with mq := { s.mq with suspendSenderThread := s.mq.suspendSenderThread ++ [i] } }.goto i c
        .suspended
    else s.goto i c (.returned (-rtEFull) [])

/-- A receiver looks for a message. -/
def takeMessage (s : MqState) (i : Nat) (c : Call) (wait : Bool) : MqState :=
  if s.mq.entry = 0 then
    if wait then
      { s with mq := { s.mq with suspendThread := s.mq.suspendThread ++ [i] } }.goto i c .suspended
    else s.goto i c (.returned (-rtETimeout) [])
  else
    match s.mq.msgQueueHead with
    | none => s.goto i c .fault
    | some b =>
      ({ s with mq := s.mq.unlink b }.logged i (.dequeue (s.mq.message b))).goto i c (.copy b)

/-- The message has been linked: it is counted, and a receiver is resumed. -/
def announce (s : MqState) (i : Nat) (c : Call) : MqState :=
  if s.mq.entry < rtMqEntryMax then
    ({ s with mq := { s.mq with entry := s.mq.entry + 1 } }.goto i c (.returned rtEok [])).resumeReceiver
  else s.goto i c (.returned (-rtEFull) [])

/-- C `rt_mq_control` with `RT_IPC_CMD_RESET`. -/
def rtMqReset (s : MqState) (i : Nat) (c : Call) : MqState :=
  let waiting := s.mq.suspendThread ++ s.mq.suspendSenderThread
  let s := waiting.foldl (fun s j => s.resume rtError j) s
  let mq := { s.mq with suspendThread := [], suspendSenderThread := [] }
  ({ s with mq := { mq.releaseAll mq.maxMsgs.toNat with entry := 0 } }.logged i .clear).goto i c
    (.returned rtEok [])

/-- The next step of a call. `expired` says whether the time that a resumed thread may wait is over. -/
def callStep (s : MqState) (i : Nat) (c : Call) (expired : Bool) : MqState :=
  match c.op, c.pc with
  | .send buffer wait, .start =>
    if buffer.length > s.mq.msgSize.toNat then s.goto i c (.returned (-rtError) [])
    else s.takeFree i c wait
  | .send _ wait, .resumed error =>
    if error ≠ rtEok then s.goto i c (.returned error []) else s.takeFree i c (wait && !expired)
  | .send buffer _, .fill b => { s with mq := s.mq.store b none buffer }.goto i c (.link b)
  | .send buffer _, .link b =>
    ({ s with mq := s.mq.linkTail b }.logged i (.enqueue buffer)).announce i c
  | .urgent buffer, .start =>
    if buffer.length > s.mq.msgSize.toNat then s.goto i c (.returned (-rtError) [])
    else s.takeFree i c false
  | .urgent buffer, .fill b => { s with mq := s.mq.store b (s.mq.pool b).next buffer }.goto i c (.link b)
  | .urgent buffer, .link b =>
    ({ s with mq := s.mq.linkHead b }.logged i (.push buffer)).announce i c
  | .recv _ wait, .start => s.takeMessage i c wait
  | .recv _ wait, .resumed error =>
    if error ≠ rtEok then s.goto i c (.returned error []) else s.takeMessage i c (wait && !expired)
  | .recv size _, .copy b => s.goto i c (.release b ((s.mq.message b).take size))
  | .recv _ _, .release b data =>
    ({ s with mq := s.mq.giveBack b }.goto i c (.returned data.length data)).resumeSender
  | .reset, .start => s.rtMqReset i c
  | _, _ => s

/-- A call begins or goes on, or the timer of a thread that waits runs out. -/
inductive Act where
  | call (op : Op)
  | go (i : Nat) (expired : Bool)
  | timer (i : Nat)
  deriving DecidableEq, Repr

def step (s : MqState) : Act → MqState
  | .call op => { s with calls := s.calls ++ [⟨op, .start⟩] }
  | .go i expired =>
    match s.calls[i]? with
    | none => s
    | some c => s.callStep i c expired
  | .timer i =>
    match s.calls[i]? with
    | none => s
    | some c =>
      if c.pc = .suspended then
        { s with mq := { s.mq with
            suspendThread := s.mq.suspendThread.erase i
            suspendSenderThread := s.mq.suspendSenderThread.erase i } }.goto i c
          (.resumed (-rtETimeout))
      else s

/-- A queue that has been created. -/
def initial (msgSize maxMsgs : UInt16) (pool : Nat → RtMqMessage) : MqState where
  mq := .rtMqCreate msgSize maxMsgs pool
  calls := []
  log := []

end MqState

end WlhHpm.Kernel

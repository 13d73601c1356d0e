import Mathlib.Data.UInt
import Mathlib.Tactic

/-!
# The SDIO transport

Model of `packages/wlh_rtt_host/transport/sdio/wlh_rtt_sdio.c` and of the functions of
`wlh_rtt_sdio_protocol.c` that it uses. The worker thread, every call of `transport_submit_tx`,
`transport_stop`, `transport_start` and `transport_soft_reset` are threads with a program counter,
and a step of the machine (`State.step`) is one step of one of them, an interrupt, or the insertion
or removal of a card. A step does one access to the bus, the message queue, a semaphore, the lock or
the fields that the threads share.

The bus, the frame validation and `wlh_rtt_host_input` (both Host Core) are the environment: a step
takes their answers from its `Reply`. The contents of the frames and of the staging buffer are left
out.

Message queues are as in `rt-thread/src/ipc.c`, restricted to calls that do not wait: `rt_mq_send`
returns `-RT_EFULL` if the queue is full, and `rt_mq_recv` returns `-RT_ETIMEOUT` if it is empty and
the length of the message otherwise. What `rt_mq_recv` returns for a message is a parameter of the
machine (`Platform.received`), so that the callers can be read under the other convention too;
`Platform.code` has the value that the code has.
-/

namespace WlhHpm.Sdio

/-! ## Error codes

Those of `klibc/kerrno.h`, which are the `errno` values of the C library: newlib's, since `rtconfig.py`
builds with GCC for RISC-V. -/

def rtEok : Int := 0
def rtEIo : Int := 5
def rtEInval : Int := 22
def rtEFull : Int := 28
def rtEEmpty : Int := 61
def rtETimeout : Int := 116

/-! ## Protocol -/

/-- Size of a transfer in blocks of 512 bytes (C `wlh_rtt_sdio_padded_size`). -/
def wlhRttSdioPaddedSize (frameSize : UInt32) : UInt32 :=
  if frameSize = 0 ∨ frameSize > 4092 then 0 else (frameSize + 512 - 1) &&& ~~~(512 - 1)

/-- Length of the next packet, from two readings of the byte counter
    (C `wlh_rtt_sdio_accumulated_length`). -/
def wlhRttSdioAccumulatedLength (headerSize previous current : UInt32) : Option UInt32 :=
  if current = 0xffffffff then none
  else
    let delta := ((current &&& (0x100000 - 1)) + 0x100000 - (previous &&& (0x100000 - 1))) % 0x100000
    if delta < headerSize ∨ delta > 4092 then none else some delta

/-- C `wlh_rtt_sdio_available_tokens`. -/
def wlhRttSdioAvailableTokens (consumed offered : UInt32) : UInt32 :=
  (offered + 0x1000 - consumed) % 0x1000

/-! ## Data -/

/-- The arguments of `transport_submit_tx`; pointers are addresses. -/
structure TxArgs where
  frame : UInt32
  length : UInt32
  done : UInt32
  context : UInt32
  deriving DecidableEq, Repr

/-- C `wlh_sdio_tx_job_t`. -/
structure TxJob extends TxArgs where
  generation : UInt32
  deriving DecidableEq, Repr

/-- A message of the TX queue, with the number of the submit that sent it. -/
structure Message where
  submit : Nat
  job : TxJob
  deriving DecidableEq, Repr

/-- One call of a `done` callback. -/
structure Completion where
  submit : Nat
  args : TxArgs
  result : Int
  deriving DecidableEq, Repr

/-- The call that ends a job. -/
def Message.completion (m : Message) (result : Int) : Completion :=
  ⟨m.submit, m.job.toTxArgs, result⟩

/-- What depends on the platform: `WLH_FRAME_HEADER_SIZE` and the value that `rt_mq_recv` returns for
    a received message. -/
structure Platform where
  headerSize : UInt32
  received : Int

/-- `rt_mq_recv` returns the length of the message, here `sizeof(wlh_sdio_tx_job_t)`. -/
def Platform.code (headerSize : UInt32) : Platform := ⟨headerSize, 20⟩

/-- C `wlh_rtt_transport_stats_t`. -/
structure Stats where
  txFrames : UInt32 := 0
  txErrors : UInt32 := 0
  txQueueFull : UInt32 := 0
  rxFrames : UInt32 := 0
  rxErrors : UInt32 := 0
  rxInvalidLength : UInt32 := 0
  busResets : UInt32 := 0
  deriving DecidableEq, Repr

/-- C `wlh_sdio_transport_t`. -/
structure Transport where
  function : Option Nat
  lock : Bool
  wake : Nat
  probed : Nat
  txQueue : List Message
  rxByteCount : UInt32
  txBufferCount : UInt32
  generation : UInt32
  invalidStreak : Nat
  running : Bool
  irqAttached : Bool
  stats : Stats
  deriving DecidableEq, Repr

/-- The transport after `wlh_rtt_sdio_transport_create`. -/
def Transport.initial : Transport where
  function := none
  lock := false
  wake := 0
  probed := 0
  txQueue := []
  rxByteCount := 0
  txBufferCount := 0
  generation := 0
  invalidStreak := 0
  running := false
  irqAttached := false
  stats := {}

/-- C `rt_sem_release`, with the limit `RT_SEM_VALUE_MAX`. -/
def rtSemRelease (value : Nat) : Nat := if value < 65535 then value + 1 else value

/-- C `WLH_RTT_HOST_TX_QUEUE_DEPTH`. -/
def txQueueDepth : Nat := 16

/-- C `rt_mq_send`. -/
def rtMqSend (queue : List Message) (m : Message) : List Message × Int :=
  if queue.length < txQueueDepth then (queue ++ [m], rtEok) else (queue, -rtEFull)

/-- C `rt_mq_recv` with `RT_WAITING_NO`: the rest of the queue, the message and the returned value. -/
def rtMqRecv (p : Platform) : List Message → List Message × Option Message × Int
  | [] => ([], none, -rtETimeout)
  | m :: queue => (queue, some m, p.received)

/-! ## Threads -/

/-- Inside `drain_rx`. -/
inductive RxPc where
  | loop
  | status
  | length (interrupt : UInt32)
  | data (interrupt packet length : UInt32)
  | clear (interrupt packet length : UInt32)
  deriving DecidableEq, Repr

/-- Inside `drain_tx`; a message that `rt_mq_recv` has returned is in the hands of the worker. -/
inductive TxPc where
  | loop
  | recv
  | generation (m : Message)
  | frame (m : Message)
  | token (m : Message) (attempt : Nat)
  | poll (m : Message) (attempt : Nat)
  | write (m : Message)
  | done (m : Message) (result : Int)
  deriving DecidableEq, Repr

/-- Inside `worker_main`, with the number of the burst. -/
inductive WorkerPc where
  | take
  | check
  | lock
  | rx (burst : Nat) (pc : RxPc)
  | tx (burst : Nat) (pc : TxPc)
  | unlock
  deriving DecidableEq, Repr

/-- Inside `transport_submit_tx`. -/
inductive SubmitPc where
  | check
  | send (generation : UInt32)
  | release
  | returned (status : Int)
  deriving DecidableEq, Repr

/-- A call of `transport_submit_tx`. -/
structure Submit where
  args : TxArgs
  pc : SubmitPc
  deriving DecidableEq, Repr

/-- Inside `transport_stop`. -/
inductive StopPc where
  | halt
  | bump
  | recv
  | done (m : Message)
  | returned
  deriving DecidableEq, Repr

/-- Inside `transport_start`. -/
inductive StartPc where
  | probed
  | wait
  | enable
  | blockSize
  | attach
  | interrupts
  | commit
  | returned (status : Int)
  deriving DecidableEq, Repr

/-- Inside `transport_soft_reset`. -/
inductive ResetPc where
  | check
  | lock
  | write
  | unlock (status : Int)
  | returned (status : Int)
  deriving DecidableEq, Repr

/-- The transport with all its threads, the `done` callbacks called so far, the lengths of the frames
    handed to `wlh_rtt_host_input` and the number of `WLH_RTT_LINK_LOST` events. -/
structure State where
  transport : Transport
  worker : WorkerPc
  submits : List Submit
  stops : List StopPc
  starts : List StartPc
  resets : List ResetPc
  completions : List Completion
  inputs : List UInt32
  lost : Nat
  deriving DecidableEq, Repr

/-- The state after `wlh_rtt_sdio_transport_create`. -/
def State.initial : State := ⟨.initial, .take, [], [], [], [], [], [], 0⟩

/-- What the environment answers to a step: the error code and the value of a bus access, whether
    `wlh_frame_validate` and `wlh_rtt_host_input` accept the frame, and whether a wait is over. -/
structure Reply where
  error : Int := 0
  value : UInt32 := 0
  valid : Bool := true
  accepted : Bool := true
  timeout : Bool := false
  deriving DecidableEq, Repr

/-- C `struct rt_mmcsd_card`: manufacturer, number of functions, and function 1 with its product. -/
structure Card where
  manufacturer : UInt32
  sdioFunctionNum : UInt32
  function : Option (Nat × UInt32)
  deriving DecidableEq, Repr

namespace State

/-! ## The worker -/

/-- The worker goes on, with the shared fields changed. -/
def goto (s : State) (t : Transport) (pc : WorkerPc) : State :=
  { s with transport := t, worker := pc }

/-- The body of the loop of `drain_rx`, once `read_frame` has returned. -/
def drainRx (s : State) (burst : Nat) (result : Int) (length : UInt32) (reply : Reply) : State :=
  let t := s.transport
  if result = -rtEEmpty then s.goto { t with invalidStreak := 0 } (.tx 0 .loop)
  else if result = -rtEInval then
    if t.invalidStreak + 1 ≥ 10 then
      let t := { t with invalidStreak := 0, stats.rxErrors := t.stats.rxErrors + 1 }
      { s.goto t (.tx 0 .loop) with lost := s.lost + 1 }
    else s.goto { t with invalidStreak := t.invalidStreak + 1 } (.rx (burst + 1) .loop)
  else if result ≠ rtEok then
    s.goto { t with stats.rxErrors := t.stats.rxErrors + 1 } (.tx 0 .loop)
  else
    let stats := if reply.accepted then { t.stats with rxFrames := t.stats.rxFrames + 1 }
      else { t.stats with rxErrors := t.stats.rxErrors + 1 }
    { s.goto { t with invalidStreak := 0, stats := stats } (.rx (burst + 1) .loop) with
      inputs := s.inputs ++ [length] }

/-- A step of `drain_rx` and `read_frame`. -/
def rxStep (p : Platform) (s : State) (burst : Nat) (reply : Reply) : RxPc → State
  | .loop =>
    if burst < 8 ∧ s.transport.running = true then s.goto s.transport (.rx burst .status)
    else s.goto s.transport (.tx 0 .loop)
  | .status =>
    if reply.error ≠ rtEok then s.drainRx burst reply.error 0 reply
    else if reply.value &&& 0x800000 = 0 then s.drainRx burst (-rtEEmpty) 0 reply
    else s.goto s.transport (.rx burst (.length reply.value))
  | .length interrupt =>
    if reply.error ≠ rtEok then s.drainRx burst reply.error 0 reply
    else
      match wlhRttSdioAccumulatedLength p.headerSize s.transport.rxByteCount reply.value with
      | none =>
        let t := s.transport
        let stats := { t.stats with rxInvalidLength := t.stats.rxInvalidLength + 1 }
        { s with transport := { t with stats := stats } }.drainRx burst (-rtEInval) 0 reply
      | some length => s.goto s.transport (.rx burst (.data interrupt reply.value length))
  | .data interrupt packet length =>
    if reply.error ≠ rtEok then s.drainRx burst reply.error length reply
    else if reply.valid = false then s.drainRx burst (-rtEInval) length reply
    else s.goto s.transport (.rx burst (.clear interrupt packet length))
  | .clear _ packet length =>
    if reply.error ≠ rtEok then s.drainRx burst reply.error length reply
    else
      { s with transport := { s.transport with rxByteCount := packet &&& (0x100000 - 1) } }.drainRx
        burst rtEok length reply

/-- A step of `drain_tx`, `write_frame` and `wait_for_token`. -/
def txStep (p : Platform) (s : State) (burst : Nat) (reply : Reply) : TxPc → State
  | .loop =>
    if burst < 8 ∧ s.transport.running = true then s.goto s.transport (.tx burst .recv)
    else s.goto s.transport .unlock
  | .recv =>
    match rtMqRecv p s.transport.txQueue with
    | (queue, message, status) =>
      let t := { s.transport with txQueue := queue }
      match message with
      | none => s.goto t .unlock
      | some m => if status ≠ rtEok then s.goto t .unlock else s.goto t (.tx burst (.generation m))
  | .generation m =>
    if m.job.generation ≠ s.transport.generation then
      s.goto s.transport (.tx burst (.done m (-rtEIo)))
    else s.goto s.transport (.tx burst (.frame m))
  | .frame m =>
    if wlhRttSdioPaddedSize m.job.length = 0 then s.goto s.transport (.tx burst (.done m (-rtEInval)))
    else s.goto s.transport (.tx burst (.token m 0))
  | .token m attempt =>
    if attempt < 200 ∧ s.transport.running = true then
      s.goto s.transport (.tx burst (.poll m attempt))
    else s.goto s.transport (.tx burst (.done m (-rtETimeout)))
  | .poll m attempt =>
    if reply.error ≠ rtEok then s.goto s.transport (.tx burst (.done m reply.error))
    else
      let token := (reply.value >>> 16) &&& 0xfff
      let count := s.transport.txBufferCount
      if wlhRttSdioAvailableTokens count token ≠ 0 then
        s.goto { s.transport with txBufferCount := (count + 1) % 0x1000 } (.tx burst (.write m))
      else s.goto s.transport (.tx burst (.token m (attempt + 1)))
  | .write m => s.goto s.transport (.tx burst (.done m reply.error))
  | .done m result =>
    let t := s.transport
    let stats := if result = rtEok then { t.stats with txFrames := t.stats.txFrames + 1 }
      else { t.stats with txErrors := t.stats.txErrors + 1 }
    { s.goto { t with stats := stats } (.tx (burst + 1) .loop) with
      completions := s.completions ++ [m.completion result] }

/-- A step of `worker_main`. -/
def workerStep (p : Platform) (s : State) (reply : Reply) : State :=
  match s.worker with
  | .take =>
    if s.transport.wake = 0 then s
    else s.goto { s.transport with wake := s.transport.wake - 1 } .check
  | .check => s.goto s.transport (if s.transport.running then .lock else .take)
  | .lock =>
    if s.transport.lock then s else s.goto { s.transport with lock := true } (.rx 0 .loop)
  | .rx burst pc => s.rxStep p burst reply pc
  | .tx burst pc => s.txStep p burst reply pc
  | .unlock => s.goto { s.transport with lock := false } .take

/-! ## The operations -/

/-- `transport_submit_tx` refuses a frame. -/
def Refused (p : Platform) (t : Transport) (args : TxArgs) : Prop :=
  t.running = false ∨ args.frame = 0 ∨ args.done = 0 ∨
    args.length < p.headerSize ∨ args.length > 4092

instance (p : Platform) (t : Transport) (args : TxArgs) : Decidable (Refused p t args) :=
  inferInstanceAs (Decidable (_ ∨ _))

/-- Submit `n` goes on. -/
def setSubmit (s : State) (n : Nat) (t : Transport) (pc : SubmitPc) : State :=
  { s with transport := t, submits := s.submits.modify n fun r => { r with pc := pc } }

/-- A step of `transport_submit_tx`, as the submit with number `n`. -/
def submitStep (p : Platform) (s : State) (n : Nat) : State :=
  let t := s.transport
  match s.submits[n]? with
  | none => s
  | some ⟨args, pc⟩ =>
    match pc with
    | .check =>
      if Refused p t args then s.setSubmit n t (.returned (-rtEInval))
      else s.setSubmit n t (.send t.generation)
    | .send generation =>
      match rtMqSend t.txQueue ⟨n, { args with generation := generation }⟩ with
      | (queue, status) =>
        if status ≠ rtEok then
          s.setSubmit n { t with stats.txQueueFull := t.stats.txQueueFull + 1 } (.returned (-rtEFull))
        else s.setSubmit n { t with txQueue := queue } .release
    | .release => s.setSubmit n { t with wake := rtSemRelease t.wake } (.returned rtEok)
    | .returned _ => s

/-- Stop `n` goes on. -/
def setStop (s : State) (n : Nat) (t : Transport) (pc : StopPc) : State :=
  { s with transport := t, stops := s.stops.set n pc }

/-- A step of `transport_stop`. -/
def stopStep (p : Platform) (s : State) (n : Nat) : State :=
  let t := s.transport
  match s.stops[n]? with
  | none => s
  | some .halt => s.setStop n { t with running := false } .bump
  | some .bump => s.setStop n { t with generation := t.generation + 1 } .recv
  | some .recv =>
    match rtMqRecv p t.txQueue with
    | (queue, message, status) =>
      let t := { t with txQueue := queue }
      match message with
      | none => s.setStop n t .returned
      | some m => if status = rtEok then s.setStop n t (.done m) else s.setStop n t .returned
  | some (.done m) =>
    { s.setStop n { t with stats.txErrors := t.stats.txErrors + 1 } .recv with
      completions := s.completions ++ [m.completion (-rtEIo)] }
  | some .returned => s

/-- Start `n` goes on. -/
def setStart (s : State) (n : Nat) (t : Transport) (pc : StartPc) : State :=
  { s with transport := t, starts := s.starts.set n pc }

/-- A step of `transport_start`. -/
def startStep (s : State) (n : Nat) (reply : Reply) : State :=
  let t := s.transport
  match s.starts[n]? with
  | none => s
  | some .probed => s.setStart n t (if t.function = none then .wait else .enable)
  | some .wait =>
    if t.probed ≠ 0 then s.setStart n { t with probed := t.probed - 1 } .enable
    else if reply.timeout then s.setStart n t (.returned (-rtETimeout))
    else s
  | some .enable =>
    s.setStart n t (if reply.error = rtEok then .blockSize else .returned reply.error)
  | some .blockSize =>
    s.setStart n t (if reply.error = rtEok then .attach else .returned reply.error)
  | some .attach =>
    if t.irqAttached then s.setStart n t .interrupts
    else if reply.error = rtEok then s.setStart n { t with irqAttached := true } .interrupts
    else s.setStart n t (.returned reply.error)
  | some .interrupts =>
    s.setStart n t (if reply.error = rtEok then .commit else .returned reply.error)
  | some .commit =>
    s.setStart n
      { t with
        rxByteCount := 0
        txBufferCount := 0
        invalidStreak := 0
        generation := t.generation + 1
        running := true
        wake := rtSemRelease t.wake }
      (.returned rtEok)
  | some (.returned _) => s

/-- Reset `n` goes on. -/
def setReset (s : State) (n : Nat) (t : Transport) (pc : ResetPc) : State :=
  { s with transport := t, resets := s.resets.set n pc }

/-- A step of `transport_soft_reset`. -/
def resetStep (s : State) (n : Nat) (reply : Reply) : State :=
  let t := s.transport
  match s.resets[n]? with
  | none => s
  | some .check =>
    s.setReset n t (if t.function = none then .returned (-rtEIo) else .lock)
  | some .lock => if t.lock then s else s.setReset n { t with lock := true } .write
  | some .write =>
    if reply.error = rtEok then
      s.setReset n
        { t with
          rxByteCount := 0
          txBufferCount := 0
          stats.busResets := t.stats.busResets + 1 }
        (.unlock reply.error)
    else s.setReset n t (.unlock reply.error)
  | some (.unlock status) => s.setReset n { t with lock := false } (.returned status)
  | some (.returned _) => s

/-- C `probe`. -/
def probe (s : State) (card : Card) : State :=
  if card.manufacturer ≠ 0x6666 ∨ card.sdioFunctionNum < 1 then s
  else
    match card.function with
    | none => s
    | some (function, product) =>
      if product ≠ 0x2222 then s
      else
        { s with transport := { s.transport with
            function := some function
            probed := rtSemRelease s.transport.probed } }

/-- C `remove_card`. -/
def removeCard (s : State) : State :=
  { s with
    transport := { s.transport with running := false, function := none }
    lost := s.lost + 1 }

/-- C `sdio_irq`. -/
def sdioIrq (s : State) : State :=
  { s with transport := { s.transport with wake := rtSemRelease s.transport.wake } }

end State

/-- One step: a call is made, or a thread goes on, or the card or its interrupt acts. -/
inductive Act where
  | submit (args : TxArgs)
  | submitStep (n : Nat)
  | stop
  | stopStep (n : Nat)
  | start
  | startStep (n : Nat) (reply : Reply)
  | softReset
  | resetStep (n : Nat) (reply : Reply)
  | worker (reply : Reply)
  | probe (card : Card)
  | removeCard
  | irq
  deriving DecidableEq, Repr

namespace State

def step (p : Platform) (s : State) : Act → State
  | .submit args => { s with submits := s.submits ++ [⟨args, .check⟩] }
  | .submitStep n => s.submitStep p n
  | .stop => { s with stops := s.stops ++ [.halt] }
  | .stopStep n => s.stopStep p n
  | .start => { s with starts := s.starts ++ [.probed] }
  | .startStep n reply => s.startStep n reply
  | .softReset => { s with resets := s.resets ++ [.check] }
  | .resetStep n reply => s.resetStep n reply
  | .worker reply => s.workerStep p reply
  | .probe card => s.probe card
  | .removeCard => s.removeCard
  | .irq => s.sdioIrq

/-- The state after a run of steps from the creation of the transport. -/
def run (p : Platform) (acts : List Act) : State := acts.foldl (step p) initial

end State

/-! ## Jobs given to `drain_tx` -/

/-- The worker has a job in hand. -/
def WorkerPc.inJob : WorkerPc → Bool
  | .tx _ .loop => false
  | .tx _ .recv => false
  | .tx _ _ => true
  | _ => false

/-- A job that `drain_tx` has received, whatever `rt_mq_recv` returned for it, or one step. -/
inductive Input where
  | job (m : Message)
  | step (a : Act)

namespace State

/-- `drain_tx` begins with a job. -/
def takeJob (s : State) (m : Message) : State := { s with worker := .tx 0 (.generation m) }

/-- A job is not begun inside another. -/
def input (p : Platform) (s : State) : Input → State
  | .job m => if s.worker.inJob then s else s.takeJob m
  | .step a => s.step p a

end State

end WlhHpm.Sdio

import WlhHpm.Lib.Run
import WlhHpm.Lib.Word
import WlhHpm.Wlan.Host

/-!
# The receive path

Model of `packages/wlh_rtt_host/wlan/wlh_rtt_wlan_rx.c` and of the block pools of
`src/wlh_rtt_logic.c`. Each interface has a pool of blocks in `rx_storage`, and the free ones are the
bits of `rx_free_mask`. A call of `wlh_rtt_wlan_rx_enqueue` takes a block, copies the frame into it
and sends a job to the queue that both interfaces share; the thread `rx_main` receives the jobs,
reports the frames to RT-Thread and frees the blocks.

Every call of `wlh_rtt_wlan_rx_enqueue` and the thread `rx_main` are threads with a program counter,
and a step of the machine (`step`) is one step of one of them, or a link that goes up or down. A step
does one access to a mask (under `rt_hw_interrupt_disable`), a byte of storage, the queue, a counter
or `active`. `rt_mq_send` fails only if the queue is full. `rt_wlan_dev_report_data` is the
environment: the step that calls it takes its answer.

What `rt_mq_recv` returns for a message is a parameter of the machine (`received`). In
`rt-thread/src/ipc.c` it is the length of the message, here `Job.size`.

The state has three records of the run beside the data of the program: the number of calls that
passed the checks of their arguments, the frames that were sent to the queue, and the frames that
were handed to `rt_wlan_dev_report_data`.
-/

namespace WlhHpm.Wlan.Rx
open Word

/-! ## Block pools -/

/-- The sizes that `Kconfig` admits for `WLH_RTT_HOST_RX_POOL_PER_INTERFACE`. -/
abbrev PoolSize := { n : Nat // 2 ≤ n ∧ n ≤ 64 }

/-- C `wlh_rtt_pool_initial_mask`. -/
def wlhRttPoolInitialMask (count : Nat) : UInt64 :=
  if count = 0 ∨ count > 64 then 0
  else if count = 64 then 0xffffffffffffffff else (1 <<< UInt64.ofNat count) - 1

/-- C `wlh_rtt_pool_take`: the new mask and the block, `none` for `-1`. -/
def wlhRttPoolTake (freeMask : UInt64) (count : Nat) : UInt64 × Option Nat :=
  if count > 64 then (freeMask, none)
  else
    match (List.range count).find? fun index => freeMask &&& (1 <<< UInt64.ofNat index) ≠ 0 with
    | some index => (freeMask &&& ~~~(1 <<< UInt64.ofNat index), some index)
    | none => (freeMask, none)

/-- C `wlh_rtt_pool_put`. -/
def wlhRttPoolPut (freeMask : UInt64) (index : Nat) : UInt64 :=
  if index < 64 then freeMask ||| (1 <<< UInt64.ofNat index) else freeMask

section Masks
variable (n : PoolSize) (mask : UInt64)

/-- At first all blocks are free, and there are no others. -/
lemma hasBit_initialMask (b : Nat) : HasBit (wlhRttPoolInitialMask n) b ↔ b < n := by
  have ⟨two, le⟩ := n.property
  rw [wlhRttPoolInitialMask, if_neg (by omega)]
  split
  · rename_i all
    rw [all]
    exact hasBit_max b
  · exact hasBit_shift_sub_one (by omega) b

/-- What `wlh_rtt_pool_take` does: it takes one free block, or there is none. -/
lemma wlhRttPoolTake_cases :
    (∃ block < n.val, HasBit mask block ∧
      wlhRttPoolTake mask n = (mask &&& ~~~(1 <<< UInt64.ofNat block), some block)) ∨
    ((∀ b < n.val, ¬ HasBit mask b) ∧ wlhRttPoolTake mask n = (mask, none)) := by
  have le := n.property.2
  rw [wlhRttPoolTake, if_neg (by omega)]
  cases found : (List.range n).find? fun index => mask &&& (1 <<< UInt64.ofNat index) ≠ 0 with
  | none =>
    refine .inr ⟨fun b lt has => ?_, rfl⟩
    have not := List.find?_eq_none.mp found b (List.mem_range.mpr lt)
    rw [decide_eq_true_eq, and_shift_ne_zero mask (by omega)] at not
    exact not has
  | some block =>
    have lt := List.mem_range.mp (List.mem_of_find?_eq_some found)
    have bit := List.find?_some found
    rw [decide_eq_true_eq, and_shift_ne_zero mask (by omega)] at bit
    exact .inl ⟨block, lt, bit, rfl⟩

/-- What `wlh_rtt_pool_put` does. -/
lemma hasBit_put {block : Nat} (lt : block < 64) (b : Nat) :
    HasBit (wlhRttPoolPut mask block) b ↔ HasBit mask b ∨ b = block := by
  rw [wlhRttPoolPut, if_pos lt]
  exact hasBit_or_shift mask lt b

end Masks

/-! ## Data -/

/-- C `RT_EOK`. -/
def rtEok : Int := 0

/-- C `WLH_RTT_ETHERNET_MAX_FRAME`. -/
def ethernetMaxFrame : Nat := 1600

/-- C `WLH_RTT_RX_QUEUE_DEPTH`, for two interfaces. -/
def rxQueueDepth (n : PoolSize) : Nat := n.val * 2

/-- The number of an interface. -/
def ifaceId : Iface → UInt8
  | .sta => 0
  | .ap => 1

/-- The interface of a number, if it is below `WLH_RTT_INTERFACE_COUNT`. -/
def ifaceOf (id : UInt8) : Option Iface :=
  if id = 0 then some .sta else if id = 1 then some .ap else none

/-- The bytes of an Ethernet frame. -/
abbrev Frame := List UInt8

/-- C `wlh_rtt_rx_job_t`. -/
structure Job where
  interfaceId : UInt8
  block : UInt8
  length : UInt16
  deriving DecidableEq, Repr

/-- C `sizeof(wlh_rtt_rx_job_t)`. -/
def Job.size : Int := 4

/-- C `wlh_rtt_interface_t`, as far as the receive path uses it. -/
structure Interface where
  active : Bool
  rxFreeMask : UInt64
  rxStorage : Mem
  rxFrames : UInt32
  rxDeliveryFailed : UInt32
  rxPoolEmpty : UInt32
  rxQueueFull : UInt32

/-- The bytes of a job in `rx_storage`. -/
def Job.frame (job : Job) (storage : Mem) : Frame :=
  (storage.shift (job.block.toNat * ethernetMaxFrame)).toList job.length.toNat

/-- The job that `wlh_rtt_wlan_rx_enqueue` sends. -/
def jobOf (i : Iface) (frame : Frame) (block : Nat) : Job :=
  ⟨ifaceId i, UInt8.ofNat block, UInt16.ofNat frame.length⟩

/-! ## Threads -/

/-- Inside `wlh_rtt_wlan_rx_enqueue`, after the checks of the arguments. -/
inductive EnqueuePc where
  | allocate (i : Iface) (frame : Frame)
  | empty (i : Iface)
  | fill (i : Iface) (frame : Frame) (block copied : Nat)
  | send (i : Iface) (frame : Frame) (block : Nat)
  | full (i : Iface) (block : Nat)
  | free (i : Iface) (block : Nat)
  | returned
  deriving DecidableEq, Repr

/-- Inside `rx_main`. -/
inductive WorkerPc where
  | recv
  | check (i : Iface) (job : Job)
  | report (i : Iface) (job : Job)
  | count (i : Iface) (job : Job) (delivered : Bool)
  | free (i : Iface) (job : Job)
  deriving DecidableEq, Repr

/-- The machine. -/
structure State where
  interfaces : Iface → Interface
  rxQueue : List Job
  calls : List EnqueuePc
  worker : WorkerPc
  valid : Iface → Nat
  enqueued : Iface → List Frame
  reported : Iface → List Frame

/-- The machine after `wlh_rtt_wlan_rx_init`; `memory` is what `rt_malloc` has found in the heap. -/
def initial (n : PoolSize) (memory : Iface → Mem) : State where
  interfaces := fun i => ⟨false, wlhRttPoolInitialMask n, memory i, 0, 0, 0, 0⟩
  rxQueue := []
  calls := []
  worker := .recv
  valid := fun _ => 0
  enqueued := fun _ => []
  reported := fun _ => []

/-- Change one interface. -/
def State.update (s : State) (i : Iface) (f : Interface → Interface) : State :=
  { s with interfaces := Function.update s.interfaces i (f (s.interfaces i)) }

/-- The interfaces after a change of one. -/
lemma update_apply (s : State) (i : Iface) (f : Interface → Interface) (j : Iface) :
    (s.update i f).interfaces j = if j = i then f (s.interfaces j) else s.interfaces j := by
  by_cases e : j = i
  · subst e
    rw [if_pos rfl]
    exact Function.update_self ..
  · rw [if_neg e]
    exact Function.update_of_ne e ..

/-- Change the free blocks of an interface. -/
def State.setMask (s : State) (i : Iface) (mask : UInt64) : State :=
  s.update i fun interface => { interface with rxFreeMask := mask }

/-- C `free_block`. -/
def State.freeBlock (s : State) (i : Iface) (block : Nat) : State :=
  s.setMask i (wlhRttPoolPut (s.interfaces i).rxFreeMask block)

/-- Write one byte of `rx_storage`. -/
def State.write (s : State) (i : Iface) (a : Nat) (byte : UInt8) : State :=
  s.update i fun interface =>
    { interface with rxStorage := Function.update interface.rxStorage a byte }

/-- A step of a call of `wlh_rtt_wlan_rx_enqueue`, and where the call stands after it. -/
def State.callStep (n : PoolSize) (s : State) : EnqueuePc → State × EnqueuePc
  | .allocate i frame =>
    -- C `allocate_block`
    match wlhRttPoolTake (s.interfaces i).rxFreeMask n with
    | (mask, some block) => (s.setMask i mask, .fill i frame block 0)
    | (_, none) => (s, .empty i)
  | .empty i =>
    (s.update i fun interface => { interface with rxPoolEmpty := interface.rxPoolEmpty + 1 },
      .returned)
  | .fill i frame block copied =>
    -- `rt_memcpy`, byte by byte
    match frame[copied]? with
    | some byte =>
      (s.write i (block * ethernetMaxFrame + copied) byte, .fill i frame block (copied + 1))
    | none => (s, .send i frame block)
  | .send i frame block =>
    if s.rxQueue.length < rxQueueDepth n then
      ({ s with
          rxQueue := s.rxQueue ++ [jobOf i frame block]
          enqueued := Function.update s.enqueued i (s.enqueued i ++ [frame]) }, .returned)
    else (s, .full i block)
  | .full i block =>
    (s.update i fun interface => { interface with rxQueueFull := interface.rxQueueFull + 1 },
      .free i block)
  | .free i block => (s.freeBlock i block, .returned)
  | .returned => (s, .returned)

/-- A step of `rx_main`; `delivered` is the answer of `rt_wlan_dev_report_data`. -/
def State.workerStep (received : Int) (s : State) (delivered : Bool) : State :=
  match s.worker with
  | .recv =>
    match s.rxQueue with
    -- `RT_WAITING_FOREVER`
    | [] => s
    | job :: queue =>
      if received ≠ rtEok then { s with rxQueue := queue }
      else
        match ifaceOf job.interfaceId with
        | none => { s with rxQueue := queue }
        | some i => { s with rxQueue := queue, worker := .check i job }
  | .check i job =>
    if (s.interfaces i).active then { s with worker := .report i job }
    else { s with worker := .count i job false }
  | .report i job =>
    { s with
      reported := Function.update s.reported i (s.reported i ++ [job.frame (s.interfaces i).rxStorage])
      worker := .count i job delivered }
  | .count i job delivered =>
    let counted := s.update i fun interface =>
      if delivered then { interface with rxFrames := interface.rxFrames + 1 }
      else { interface with rxDeliveryFailed := interface.rxDeliveryFailed + 1 }
    { counted with worker := .free i job }
  | .free i job => { s.freeBlock i job.block.toNat with worker := .recv }

/-- What can happen next. -/
inductive Act where
  /-- A call of `wlh_rtt_wlan_rx_enqueue`; a null pointer is `none`. -/
  | enqueue (interfaceId : UInt8) (frame : Option Frame)
  /-- A step of a call. -/
  | call (k : Nat)
  | worker (delivered : Bool)
  /-- A link goes up or down. -/
  | link (i : Iface) (up : Bool)
  deriving DecidableEq, Repr

/-- The checks at the head of `wlh_rtt_wlan_rx_enqueue`. -/
def State.enqueue (s : State) (interfaceId : UInt8) (frame : Option Frame) : State :=
  match ifaceOf interfaceId, frame with
  | some i, some frame =>
    if frame.length < 1 ∨ frame.length > ethernetMaxFrame then s
    else
      { s with
        calls := s.calls ++ [.allocate i frame]
        valid := Function.update s.valid i (s.valid i + 1) }
  | _, _ => s

/-- One step of the machine. -/
def step (n : PoolSize) (received : Int) (s : State) : Act → State
  | .enqueue interfaceId frame => s.enqueue interfaceId frame
  | .call k =>
    match s.calls[k]? with
    | none => s
    | some pc =>
      let next := s.callStep n pc
      { next.1 with calls := s.calls.set k next.2 }
  | .worker delivered => s.workerStep received delivered
  | .link i up => s.update i fun interface => { interface with active := up }

/-- The machine after a run. -/
def run (n : PoolSize) (memory : Iface → Mem) (received : Int) (acts : List Act) : State :=
  acts.foldl (step n received) (initial n memory)

/-! ## Moves -/

section Moves
variable {n : PoolSize} {received : Int} {s : State}

/-- What a step of a call of `wlh_rtt_wlan_rx_enqueue` can do. -/
inductive CallMove (n : PoolSize) (s : State) : EnqueuePc → State → EnqueuePc → Prop where
  | taken {i frame block} :
    block < n.val →
    HasBit (s.interfaces i).rxFreeMask block →
    CallMove n s (.allocate i frame)
      (s.setMask i ((s.interfaces i).rxFreeMask &&& ~~~(1 <<< UInt64.ofNat block)))
      (.fill i frame block 0)
  | exhausted {i frame} :
    (∀ b < n.val, ¬ HasBit (s.interfaces i).rxFreeMask b) →
    CallMove n s (.allocate i frame) s (.empty i)
  | counted {i} :
    CallMove n s (.empty i)
      (s.update i fun interface => { interface with rxPoolEmpty := interface.rxPoolEmpty + 1 })
      .returned
  | copied {i frame block k byte} :
    frame[k]? = some byte →
    CallMove n s (.fill i frame block k) (s.write i (block * ethernetMaxFrame + k) byte)
      (.fill i frame block (k + 1))
  | filled {i frame block k} :
    frame.length ≤ k →
    CallMove n s (.fill i frame block k) s (.send i frame block)
  | sent {i frame block} :
    s.rxQueue.length < rxQueueDepth n →
    CallMove n s (.send i frame block)
      { s with
        rxQueue := s.rxQueue ++ [jobOf i frame block]
        enqueued := Function.update s.enqueued i (s.enqueued i ++ [frame]) }
      .returned
  | full {i frame block} :
    rxQueueDepth n ≤ s.rxQueue.length →
    CallMove n s (.send i frame block) s (.full i block)
  | refused {i block} :
    CallMove n s (.full i block)
      (s.update i fun interface => { interface with rxQueueFull := interface.rxQueueFull + 1 })
      (.free i block)
  | freed {i block} : CallMove n s (.free i block) (s.freeBlock i block) .returned
  | returned : CallMove n s .returned s .returned

/-- A step of a call is one of those moves. -/
lemma callStep_move (pc : EnqueuePc) :
    CallMove n s pc (s.callStep n pc).1 (s.callStep n pc).2 := by
  cases pc with
  | allocate i frame =>
    rcases wlhRttPoolTake_cases n (s.interfaces i).rxFreeMask with
      ⟨block, lt, free, is⟩ | ⟨none, is⟩
    · simp only [State.callStep, is]
      exact .taken lt free
    · simp only [State.callStep, is]
      exact .exhausted none
  | empty i => exact .counted
  | fill i frame block copied =>
    cases is : frame[copied]? with
    | some byte =>
      simp only [State.callStep, is]
      exact .copied is
    | none =>
      simp only [State.callStep, is]
      exact .filled (List.getElem?_eq_none_iff.mp is)
  | send i frame block =>
    simp only [State.callStep]
    split
    · rename_i room
      exact .sent room
    · exact .full (by omega)
  | full i block => exact .refused
  | free i block => exact .freed
  | returned => exact .returned

/-- What a step of `rx_main` can do. -/
inductive WorkerMove (received : Int) (s : State) : State → Prop where
  | wait : s.worker = .recv → s.rxQueue = [] → WorkerMove received s s
  | dropped {job queue} :
    s.worker = .recv →
    s.rxQueue = job :: queue →
    received ≠ rtEok ∨ ifaceOf job.interfaceId = none →
    WorkerMove received s { s with rxQueue := queue, worker := .recv }
  | received {job queue i} :
    s.worker = .recv →
    s.rxQueue = job :: queue →
    ifaceOf job.interfaceId = some i →
    WorkerMove received s { s with rxQueue := queue, worker := .check i job }
  | up {i job} : s.worker = .check i job → WorkerMove received s { s with worker := .report i job }
  | down {i job} :
    s.worker = .check i job →
    WorkerMove received s { s with worker := .count i job false }
  | reported {i job} (delivered) :
    s.worker = .report i job →
    WorkerMove received s
      { s with
        reported := Function.update s.reported i (s.reported i ++ [job.frame (s.interfaces i).rxStorage])
        worker := .count i job delivered }
  | delivered {i job} :
    s.worker = .count i job true →
    WorkerMove received s
      { s.update i fun interface => { interface with rxFrames := interface.rxFrames + 1 } with
        worker := .free i job }
  | failed {i job} :
    s.worker = .count i job false →
    WorkerMove received s
      { s.update i fun interface =>
          { interface with rxDeliveryFailed := interface.rxDeliveryFailed + 1 } with
        worker := .free i job }
  | freed {i job} :
    s.worker = .free i job →
    WorkerMove received s { s.freeBlock i job.block.toNat with worker := .recv }

/-- A step of `rx_main` is one of those moves. -/
lemma workerStep_move (delivered : Bool) :
    WorkerMove received s (s.workerStep received delivered) := by
  cases at_pc : s.worker with
  | recv =>
    cases queue : s.rxQueue with
    | nil =>
      simp only [State.workerStep, at_pc, queue]
      exact .wait at_pc queue
    | cons job rest =>
      simp only [State.workerStep, at_pc, queue]
      split
      · rename_i failed
        exact .dropped at_pc queue (.inl failed)
      · cases is : ifaceOf job.interfaceId with
        | none => exact .dropped at_pc queue (.inr is)
        | some i => exact .received at_pc queue is
  | check i job =>
    simp only [State.workerStep, at_pc]
    split
    · exact .up at_pc
    · exact .down at_pc
  | report i job =>
    simp only [State.workerStep, at_pc]
    exact .reported delivered at_pc
  | count i job delivered =>
    simp only [State.workerStep, at_pc]
    cases delivered with
    | true => exact .delivered at_pc
    | false => exact .failed at_pc
  | free i job =>
    simp only [State.workerStep, at_pc]
    exact .freed at_pc

/-- What a step of the machine can do. -/
inductive Move (n : PoolSize) (received : Int) (s : State) : Act → State → Prop where
  | none {a} : (∀ d, a ≠ .worker d) → Move n received s a s
  | called {id i frame} :
    ifaceOf id = some i →
    frame.length ≤ ethernetMaxFrame →
    Move n received s (.enqueue id (some frame))
      { s with
        calls := s.calls ++ [.allocate i frame]
        valid := Function.update s.valid i (s.valid i + 1) }
  | call {k pc s' pc'} :
    s.calls[k]? = some pc →
    CallMove n s pc s' pc' →
    Move n received s (.call k) { s' with calls := s.calls.set k pc' }
  | worker {d s'} : WorkerMove received s s' → Move n received s (.worker d) s'
  | link {i up} :
    Move n received s (.link i up) (s.update i fun interface => { interface with active := up })

variable (n received s)

/-- A step of the machine is one of those moves. -/
lemma step_move (a : Act) : Move n received s a (step n received s a) := by
  cases a with
  | enqueue id frame =>
    have other : ∀ d, Act.enqueue id frame ≠ .worker d := fun d e => by cases e
    cases is : ifaceOf id with
    | none =>
      simp only [step, State.enqueue, is]
      exact .none other
    | some i =>
      cases frame with
      | none =>
        simp only [step, State.enqueue, is]
        exact .none other
      | some frame =>
        simp only [step, State.enqueue, is]
        split
        · exact .none other
        · exact .called is (by omega)
  | call k =>
    cases is : s.calls[k]? with
    | none =>
      simp only [step, is]
      exact .none fun d e => by cases e
    | some pc =>
      simp only [step, is]
      exact .call is (callStep_move pc)
  | worker delivered => exact .worker (workerStep_move delivered)
  | link i up => exact .link

end Moves

end WlhHpm.Wlan.Rx

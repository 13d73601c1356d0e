import Mathlib.Logic.Function.Basic
import Mathlib.Order.Fin.Basic
import WlhHpm.Kernel.MessageQueue
import WlhHpm.Lib.PrioList

/-!
# Mutexes

The mutex of `rt-thread/src/ipc.c`. A thread that waits for a mutex lends its priority to the thread that
has it, which may wait for another mutex and lends it on. The less the number, the more urgent the
thread.

A step is what a call does while it holds the spinlock of the mutex, so `rt_mutex_take` is two steps if
it waits: one up to `rt_schedule`, and one from there on. The threads of this program wait
`RT_WAITING_FOREVER` or not at all, and no mutex has a priority ceiling or is deleted. `log` is not in the
source: it has the calls that have returned. `fault` is set if an assertion fails or a null pointer is
followed.
-/

namespace WlhHpm.Kernel
open PrioList

/-- The priority of a thread, a `rt_uint8_t`. -/
abbrev Priority := Fin 256

instance priorityOrder : LinearOrder Priority := Fin.instLinearOrder

/-- The priority of a mutex for which no thread waits. -/
def maximalPriority : Priority := 0xff

/-- `RT_MUTEX_HOLD_MAX`. -/
def rtMutexHoldMax : UInt8 := 0xff

def rtEIntr : Int := 4

/-- C `struct rt_thread`. The mutexes have numbers. -/
structure RtThread where
  initPriority : Priority
  currentPriority : Priority
  /-- `stat` is `RT_THREAD_SUSPEND`. -/
  suspended : Bool
  error : Int
  takenObjectList : List Nat
  pendingObject : Option Nat

/-- C `struct rt_mutex`. -/
structure RtMutex (n : Nat) where
  owner : Option (Fin n)
  hold : UInt8
  priority : Priority
  suspendThread : List (Fin n)

inductive MutexCall where
  | take
  | release
  deriving DecidableEq, Repr

/-- A call that has returned. -/
structure Returned (n : Nat) where
  thread : Fin n
  mutex : Nat
  call : MutexCall
  result : Int
  deriving DecidableEq, Repr

/-- `n` threads and the mutexes. `waitsIn` says which `rt_mutex_take` of a thread has called
    `rt_schedule` and has not returned. -/
structure MutexState (n : Nat) where
  threads : Fin n → RtThread
  mutexes : Nat → RtMutex n
  waitsIn : Fin n → Option Nat
  fault : Bool
  log : List (Returned n)

namespace MutexState
variable {n : Nat}

def currPrio (s : MutexState n) (t : Fin n) : Priority := (s.threads t).currentPriority

def setThread (s : MutexState n) (t : Fin n) (x : RtThread) : MutexState n :=
  { s with threads := Function.update s.threads t x }

def setMutex (s : MutexState n) (m : Nat) (x : RtMutex n) : MutexState n :=
  { s with mutexes := Function.update s.mutexes m x }

/-- The mutex that has been written. -/
@[simp] lemma setMutex_self (s : MutexState n) (m : Nat) (x : RtMutex n) :
    (s.setMutex m x).mutexes m = x :=
  Function.update_self ..

/-- Another mutex. -/
@[simp] lemma setMutex_of_ne {m k : Nat} (ne : k ≠ m) (s : MutexState n) (x : RtMutex n) :
    (s.setMutex m x).mutexes k = s.mutexes k :=
  Function.update_of_ne ne ..

/-- Writing a mutex leaves the threads alone. -/
@[simp] lemma setMutex_threads (s : MutexState n) (m : Nat) (x : RtMutex n) :
    (s.setMutex m x).threads = s.threads :=
  rfl

/-- Writing a mutex sets no current priority. -/
@[simp] lemma setMutex_currPrio (s : MutexState n) (m : Nat) (x : RtMutex n) :
    (s.setMutex m x).currPrio = s.currPrio :=
  rfl

/-- The thread that has been written. -/
@[simp] lemma setThread_self (s : MutexState n) (t : Fin n) (x : RtThread) :
    (s.setThread t x).threads t = x :=
  Function.update_self ..

/-- Another thread. -/
@[simp] lemma setThread_of_ne {t u : Fin n} (ne : u ≠ t) (s : MutexState n) (x : RtThread) :
    (s.setThread t x).threads u = s.threads u :=
  Function.update_of_ne ne ..

/-- Writing a thread leaves the mutexes alone. -/
@[simp] lemma setThread_mutexes (s : MutexState n) (t : Fin n) (x : RtThread) :
    (s.setThread t x).mutexes = s.mutexes :=
  rfl

/-- A call returns. -/
def returns (s : MutexState n) (t : Fin n) (m : Nat) (call : MutexCall) (result : Int) : MutexState n :=
  { s with waitsIn := Function.update s.waitsIn t none, log := s.log ++ [⟨t, m, call, result⟩] }

/-- C `rt_sched_thread_change_priority`. -/
def changePriority (s : MutexState n) (t : Fin n) (p : Priority) : MutexState n :=
  s.setThread t { s.threads t with currentPriority := p }

/-- C `rt_susp_list_enqueue` with `RT_IPC_FLAG_PRIO`. -/
def enqueue (s : MutexState n) (m : Nat) (t : Fin n) : MutexState n :=
  s.setMutex m { s.mutexes m with suspendThread := insertPrio s.currPrio t (s.mutexes m).suspendThread }

/-- `rt_list_remove` on a thread in the list of a mutex. -/
def dequeue (s : MutexState n) (m : Nat) (t : Fin n) : MutexState n :=
  s.setMutex m { s.mutexes m with suspendThread := (s.mutexes m).suspendThread.erase t }

/-- C `_mutex_update_priority`. -/
def mutexUpdatePriority (s : MutexState n) (m : Nat) : MutexState n :=
  s.setMutex m
    { s.mutexes m with priority := frontPrio s.currPrio maximalPriority (s.mutexes m).suspendThread }

/-- A thread whose priority has changed is put in its place in the list of a mutex. -/
def requeue (s : MutexState n) (m : Nat) (t : Fin n) : MutexState n :=
  ((s.dequeue m t).enqueue m t).mutexUpdatePriority m

/-- C `_thread_get_mutex_priority`. -/
def threadGetMutexPriority (s : MutexState n) (t : Fin n) : Priority :=
  (s.threads t).takenObjectList.foldl
    (fun p m => if p > (s.mutexes m).priority then (s.mutexes m).priority else p)
    (s.threads t).initPriority

/-- The loop of `_thread_update_priority`. Each pass makes a thread more urgent, so there are fewer
    than `256 * n`. -/
def updateLoop : Nat → MutexState n → Fin n → MutexState n
  | 0, s, _ => s
  | fuel + 1, s, t =>
    if (s.threads t).suspended then
      match (s.threads t).pendingObject with
      | none => s
      | some m =>
        let s := s.requeue m t
        match (s.mutexes m).owner with
        | none => { s with fault := true }
        | some owner =>
          let p := s.threadGetMutexPriority owner
          if p ≠ s.currPrio owner then updateLoop fuel (s.changePriority owner p) owner else s
    else s

/-- C `_thread_update_priority`. -/
def threadUpdatePriority (s : MutexState n) (t : Fin n) (p : Priority) : MutexState n :=
  updateLoop (256 * n) (s.changePriority t p) t

/-- C `_check_and_update_prio`. -/
def checkAndUpdatePrio (s : MutexState n) (t : Fin n) (m : Nat) : MutexState n :=
  if s.currPrio t = (s.mutexes m).priority then s.changePriority t (s.threadGetMutexPriority t) else s

/-- C `rt_thread_suspend_to_list`; the mutex is set as the pending object. -/
def suspendToList (s : MutexState n) (t : Fin n) (m : Nat) : MutexState n :=
  let s := s.enqueue m t
  let s := s.setThread t { s.threads t with suspended := true, pendingObject := some m }
  { s with waitsIn := Function.update s.waitsIn t (some m) }

/-- `rt_mutex_take` waits, up to `rt_schedule`. -/
def suspend (s : MutexState n) (t : Fin n) (m : Nat) (owner : Fin n) : MutexState n :=
  let s := s.suspendToList t m
  let priority := s.currPrio t
  if priority < (s.mutexes m).priority then
    let s := s.setMutex m { s.mutexes m with priority := priority }
    if priority < s.currPrio owner then s.threadUpdatePriority owner priority else s
  else s

/-- C `rt_mutex_take`, with `RT_WAITING_FOREVER` or with `RT_WAITING_NO`. -/
def rtMutexTake (s : MutexState n) (t : Fin n) (m : Nat) (wait : Bool) : MutexState n :=
  let s := s.setThread t { s.threads t with error := rtEok }
  match (s.mutexes m).owner with
  | none =>
    let s := s.setMutex m { s.mutexes m with owner := some t, priority := maximalPriority, hold := 1 }
    let s := s.setThread t { s.threads t with takenObjectList := m :: (s.threads t).takenObjectList }
    s.returns t m .take rtEok
  | some owner =>
    if owner = t then
      if (s.mutexes m).hold < rtMutexHoldMax then
        let s := s.setMutex m { s.mutexes m with hold := (s.mutexes m).hold + 1 }
        s.returns t m .take rtEok
      else s.returns t m .take (-rtEFull)
    else if wait then s.suspend t m owner
    else
      let s := s.setThread t { s.threads t with error := rtETimeout }
      s.returns t m .take (-rtETimeout)

/-- C `rt_mutex_take` after `rt_schedule`. -/
def afterSchedule (s : MutexState n) (t : Fin n) (m : Nat) : MutexState n :=
  if (s.mutexes m).owner = some t then
    let s := if (s.threads t).error = rtEok then s else { s with fault := true }
    s.returns t m .take rtEok
  else
    let ret := if (s.threads t).error = rtEok then -rtEIntr else (s.threads t).error
    let s' := s.mutexUpdatePriority m
    let s' := match (s.mutexes m).owner with
      | none => s'
      | some owner =>
        let priority := s'.threadGetMutexPriority owner
        if s.currPrio owner = s.currPrio t ∧ priority ≠ s'.currPrio owner then
          s'.threadUpdatePriority owner priority
        else s'
    let s' := s'.setThread t { s'.threads t with pendingObject := none }
    s'.returns t m .take (if ret > 0 then -ret else ret)

/-- `rt_mutex_release` when `hold` has become zero. -/
def handOver (s : MutexState n) (owner : Fin n) (m : Nat) : MutexState n :=
  let s := s.setThread owner
    { s.threads owner with takenObjectList := (s.threads owner).takenObjectList.erase m }
  let s := s.checkAndUpdatePrio owner m
  match (s.mutexes m).suspendThread with
  | [] => s.setMutex m { s.mutexes m with owner := none, priority := maximalPriority }
  | next :: rest =>
    if (s.threads next).suspended then
      let s := s.setMutex m { s.mutexes m with owner := some next, hold := 1, suspendThread := rest }
      let s := s.setThread next { s.threads next with
        suspended := false
        takenObjectList := m :: (s.threads next).takenObjectList
        pendingObject := none }
      s.mutexUpdatePriority m
    else { s with fault := true }

/-- C `rt_mutex_release`. -/
def rtMutexRelease (s : MutexState n) (t : Fin n) (m : Nat) : MutexState n :=
  if (s.mutexes m).owner = some t then
    let hold := (s.mutexes m).hold - 1
    let s := s.setMutex m { s.mutexes m with hold := hold }
    let s := if hold = 0 then s.handOver t m else s
    s.returns t m .release rtEok
  else
    let s := s.setThread t { s.threads t with error := -rtError }
    s.returns t m .release (-rtError)

/-- What the threads do. -/
inductive Act (n : Nat) where
  | take (t : Fin n) (m : Nat) (wait : Bool)
  | release (t : Fin n) (m : Nat)
  /-- A thread that has been resumed goes on. -/
  | resumed (t : Fin n)
  deriving DecidableEq, Repr

/-- A thread calls if it is not in a call. -/
def step (s : MutexState n) : Act n → MutexState n
  | .take t m wait => if s.waitsIn t = none then s.rtMutexTake t m wait else s
  | .release t m => if s.waitsIn t = none then s.rtMutexRelease t m else s
  | .resumed t =>
    match s.waitsIn t with
    | none => s
    | some m => if (s.threads t).suspended then s else s.afterSchedule t m

/-- No mutex is taken, and each thread has its own priority. -/
def initial (priority : Fin n → Priority) : MutexState n where
  threads t := ⟨priority t, priority t, false, rtEok, [], none⟩
  mutexes _ := ⟨none, 0, maximalPriority, []⟩
  waitsIn _ := none
  fault := false
  log := []

/-- How often a thread has taken a mutex and not released it, as far as its calls have returned. -/
def held (s : MutexState n) (t : Fin n) (m : Nat) : Int :=
  s.log.foldl (fun k r =>
    if r.thread = t ∧ r.mutex = m ∧ r.result = rtEok then
      match r.call with
      | .take => k + 1
      | .release => k - 1
    else k) 0

/-- A thread waits for a mutex that another has. -/
def Waits (s : MutexState n) (t u : Fin n) : Prop :=
  ∃ m, t ∈ (s.mutexes m).suspendThread ∧ (s.mutexes m).owner = some u

end MutexState

end WlhHpm.Kernel

import WlhHpm.Kernel.Worker
import WlhHpm.Lib.Word

/-!
# The executor and the lifecycle thread

The two threads of `packages/wlh_rtt_host/src/wlh_rtt_lifecycle.c` and those who post jobs to them. Host
Core runs its tasks through `executor_post`, and starts and stops the transport through
`core_transport_start` and `core_transport_stop`. Pointers are addresses; the bytes between the fields of
a job are zero. `expected` is what `executor_main` and `lifecycle_main` compare the answer of
`rt_mq_recv` to: `RT_EOK` in the code.
-/

namespace WlhHpm.Wlan
open Kernel Word

/-- C `wlh_rtt_executor_job_t`. -/
structure ExecutorJob where
  task : UInt32
  context : UInt32
  deriving DecidableEq, Repr

/-- C `wlh_rtt_lifecycle_job_t`. -/
structure LifecycleJob where
  start : Bool
  completion : UInt32
  context : UInt32
  deriving DecidableEq, Repr

/-- A word in the middle of a message. -/
lemma le32_append (l l' : List UInt8) (x : UInt32) :
    le32 (Mem.ofList (l ++ (le32Bytes x ++ l'))) l.length = x := by
  refine le32_of_bytes fun j lt => ?_
  rw [Mem.ofList_get (by simp only [List.length_append]; omega),
    List.getElem_append_right (Nat.le_add_right ..)]
  simp only [Nat.add_sub_cancel_left]
  exact List.getElem_append_left lt

/-- The jobs of `executor_main`: `executor_post` refuses a null task, and a null task is not run. -/
def executorJob : JobKind ExecutorJob where
  size := 8
  bytes := fun job => le32Bytes job.task ++ le32Bytes job.context
  ofBytes := fun l => ⟨le32 (Mem.ofList l) 0, le32 (Mem.ofList l) 4⟩
  valid := fun job => job.task ≠ 0
  runs := fun job => job.task ≠ 0
  length_bytes := fun _ => rfl
  ofBytes_bytes := fun job => by
    have context := le32_append (le32Bytes job.task) [] job.context
    rw [List.append_nil] at context
    exact congrArg₂ ExecutorJob.mk (le32_append [] _ job.task) context
  runs_of_valid := fun _ => id
  pos := by decide
  noError := by decide

/-- The jobs of `lifecycle_main`: `submit_lifecycle` refuses a null completion. -/
def lifecycleJob : JobKind LifecycleJob where
  size := 12
  bytes := fun job =>
    [if job.start then 1 else 0, 0, 0, 0] ++ (le32Bytes job.completion ++ le32Bytes job.context)
  ofBytes := fun l =>
    ⟨Mem.ofList l 0 ≠ 0, le32 (Mem.ofList l) 4, le32 (Mem.ofList l) 8⟩
  valid := fun job => job.completion ≠ 0
  runs := fun _ => true
  length_bytes := fun _ => rfl
  ofBytes_bytes := fun job => by
    obtain ⟨start, completion, context⟩ := job
    have first := le32_append [if start then 1 else 0, 0, 0, 0] (le32Bytes context) completion
    have second := le32_append ([if start then 1 else 0, 0, 0, 0] ++ le32Bytes completion) [] context
    rw [List.append_nil, List.append_assoc] at second
    refine (LifecycleJob.mk.injEq ..).mpr ⟨?_, first, second⟩
    cases start <;> rfl
  runs_of_valid := fun _ _ => rfl
  pos := by decide
  noError := by decide

/-- The two threads with their queues; `initialized` is the host's. -/
structure Threads where
  initialized : Bool
  executor : Worker ExecutorJob Unit
  lifecycle : Worker LifecycleJob Int

/-- What can happen next. -/
inductive ThreadsAct where
  | executorPost (task context : UInt32)
  | submitLifecycle (start : Bool) (completion context : UInt32)
  /-- A call on one of the queues goes on. -/
  | executorQueue (i : Nat)
  | lifecycleQueue (i : Nat)
  | executorMain
  /-- With what the transport answers, if it is asked. -/
  | lifecycleMain (result : Int)
  | deinit
  deriving DecidableEq, Repr

namespace Threads

def step (expected : Int) (s : Threads) : ThreadsAct → Threads
  | .executorPost task context =>
    { s with executor := s.executor.step executorJob expected (.post ⟨task, context⟩) }
  | .submitLifecycle start completion context =>
    { s with
      lifecycle := s.lifecycle.step lifecycleJob expected (.post ⟨start, completion, context⟩) }
  | .executorQueue i => { s with executor := s.executor.step executorJob expected (.call i) }
  | .lifecycleQueue i => { s with lifecycle := s.lifecycle.step lifecycleJob expected (.call i) }
  | .executorMain =>
    { s with executor := s.executor.step executorJob expected (.work s.initialized ()) }
  | .lifecycleMain result =>
    { s with lifecycle := s.lifecycle.step lifecycleJob expected (.work s.initialized result) }
  | .deinit => { s with initialized := false }

/-- C `wlh_rtt_lifecycle_init`, as far as the threads are concerned; the queues have
    `WLH_RTT_EXECUTOR_DEPTH` and `WLH_RTT_LIFECYCLE_DEPTH` blocks. -/
def initial (pool pool' : Nat → RtMqMessage) : Threads where
  initialized := true
  executor := .initial executorJob 16 pool
  lifecycle := .initial lifecycleJob 4 pool'

/-- Jobs that have been accepted come off their queue in order. With `RT_EOK` in the place of
    `expected`, as in the code, no task is ever run, and the transport is never started or stopped: each
    accepted job is lost when it comes off the queue. With the size of the job there, each would be
    done once, in order. -/
theorem jobs_delivered (expected : Int) (pool pool' : Nat → RtMqMessage) (acts : List ThreadsAct) :
    let s := acts.foldl (step expected) (initial pool pool')
    s.executor.Delivers executorJob expected ∧ s.lifecycle.Delivers lifecycleJob expected := by
  intro s
  have inv : s.executor.Inv executorJob expected 16 ∧ s.lifecycle.Inv lifecycleJob expected 4 := by
    refine foldl_invariant (I := fun s => Worker.Inv executorJob expected 16 (executor s) ∧
      Worker.Inv lifecycleJob expected 4 (lifecycle s)) (fun s a inv => ?_) acts
      ⟨Worker.inv_initial 16 pool, Worker.inv_initial 4 pool'⟩
    cases a with
    | executorPost task context => exact ⟨inv.1.step (.post ⟨task, context⟩), inv.2⟩
    | submitLifecycle start completion context =>
      exact ⟨inv.1, inv.2.step (.post ⟨start, completion, context⟩)⟩
    | executorQueue i => exact ⟨inv.1.step (.call i), inv.2⟩
    | lifecycleQueue i => exact ⟨inv.1, inv.2.step (.call i)⟩
    | executorMain => exact ⟨inv.1.step (.work s.initialized ()), inv.2⟩
    | lifecycleMain result => exact ⟨inv.1, inv.2.step (.work s.initialized result)⟩
    | deinit => exact inv
  exact ⟨inv.1.delivers, inv.2.delivers⟩

end Threads

end WlhHpm.Wlan

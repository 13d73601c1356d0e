import WlhHpm.Lib.Leases
import WlhHpm.Wlan.ApClients

/-!
# Initialisation of the host

Model of `wlh_rtt_host_init` of `src/wlh_rtt_host.c` with `wlh_rtt_wlan_rx_init`, `wlh_rtt_wlan_register`
and `wlh_rtt_lifecycle_init`, as far as they acquire resources: which of them fail is the environment's
choice. Both `WLH_RTT_HOST_USING_STA` and `WLH_RTT_HOST_USING_SOFTAP` are set. A device that is
registered with RT-Thread is a resource too, its handle the flag `registered` of its interface;
`rt_wlan_dev_register` fails if the name is taken, and then nothing is registered. What
`wlh_host_init` acquires inside Host Core, and what `rt_thread_startup` returns for the executor's and
the life cycle's threads, which nobody looks at, is left out.

The clean-up path matches every prefix of the initialisation but for the devices: it does not
unregister them. Initialisation is all or nothing exactly if the station is not registered or nothing
fails after it (`init_all_or_nothing_iff`).
-/

namespace WlhHpm.Wlan

def rtEnomem : Int := 12

namespace HostInit
open Leases

/-- What `wlh_rtt_host_init` acquires. -/
inductive Resource where
  | lock
  | rxQueue
  | rxStorage (i : Iface)
  | rxThread
  | device (i : Iface)
  | executorQueue
  | lifecycleQueue
  | executorThread
  | lifecycleThread
  deriving DecidableEq, Repr

/-- The environment: whether the arguments are as they should be, which resources can be acquired, what
    `rt_thread_startup` returns for the RX thread, and what `wlh_host_init` returns. -/
structure Env where
  arguments : Bool
  ok : Resource → Bool
  startup : Int
  core : HostResult

/-- C `wlh_rtt_wlan_rx_init`. -/
def wlhRttWlanRxInit (env : Env) (l : Leases Resource) : Leases Resource × Int :=
  let r := acquireUntil env.ok [.rxQueue, .rxStorage .sta, .rxStorage .ap, .rxThread] l
  (r.1, if r.2 then env.startup else -rtEnomem)

/-- C `wlh_rtt_wlan_register`. -/
def wlhRttWlanRegister (env : Env) (l : Leases Resource) : Leases Resource × Int :=
  let r := acquireUntil env.ok [.device .sta, .device .ap] l
  (r.1, if r.2 then rtEok else -rtError)

/-- C `wlh_rtt_lifecycle_init`: both queues are created before either is looked at, and so are both
    threads. -/
def wlhRttLifecycleInit (env : Env) (l : Leases Resource) : Leases Resource × Int :=
  let l := acquireEach env.ok [.executorQueue, .lifecycleQueue] l
  if (l .executorQueue).handle = false ∨ (l .lifecycleQueue).handle = false then (l, -rtEnomem)
  else
    let l := acquireEach env.ok [.executorThread, .lifecycleThread] l
    if (l .executorThread).handle = false ∨ (l .lifecycleThread).handle = false then (l, -rtEnomem)
    else (l, if env.core = .ok then 0 else -rtError)

/-- C `wlh_rtt_lifecycle_deinit`. -/
def wlhRttLifecycleDeinit (l : Leases Resource) : Leases Resource :=
  releaseAll [.executorThread, .lifecycleThread, .executorQueue, .lifecycleQueue] l

/-- C `wlh_rtt_wlan_rx_deinit`. -/
def wlhRttWlanRxDeinit (l : Leases Resource) : Leases Resource :=
  releaseAll [.rxThread, .rxQueue, .rxStorage .sta, .rxStorage .ap] l

/-- The three initialisers, up to the first that fails. -/
def initialisers (env : Env) (l : Leases Resource) : Leases Resource × Int :=
  let rx := wlhRttWlanRxInit env l
  if rx.2 ≠ rtEok then rx
  else
    let wlan := wlhRttWlanRegister env rx.1
    if wlan.2 ≠ rtEok then wlan else wlhRttLifecycleInit env wlan.1

/-- C `wlh_rtt_host_init`. -/
def wlhRttHostInit (env : Env) : Leases Resource × Int :=
  let l : Leases Resource := fun _ => .unused
  if env.arguments = false then (l, -rtEinval)
  else
    let l := acquire l (env.ok .lock) .lock
    if (l .lock).handle = false then (l, -rtEnomem)
    else
      let r := initialisers env l
      if r.2 ≠ rtEok then
        (release (wlhRttWlanRxDeinit (wlhRttLifecycleDeinit r.1)) .lock, -rtError)
      else (r.1, rtEok)

/-- If initialisation fails, everything that was acquired has been given back exactly once. -/
def AllOrNothing (r : Leases Resource × Int) : Prop := r.2 ≠ rtEok → ∀ resource, (r.1 resource).Settled

/-- The station's device gets registered. -/
def RegistersStation (env : Env) : Prop :=
  env.arguments = true ∧ env.ok .lock = true ∧
    (∀ r ∈ [Resource.rxQueue, .rxStorage .sta, .rxStorage .ap, .rxThread], env.ok r = true) ∧
    env.startup = rtEok ∧ env.ok (.device .sta) = true

/-- Nothing fails after the station's device. -/
def Completes (env : Env) : Prop :=
  env.ok (.device .ap) = true ∧
    (∀ r ∈ [Resource.executorQueue, .lifecycleQueue, .executorThread, .lifecycleThread],
      env.ok r = true) ∧ env.core = .ok

instance (env : Env) : Decidable (RegistersStation env) := inferInstanceAs (Decidable (_ ∧ _))

instance (env : Env) : Decidable (Completes env) := inferInstanceAs (Decidable (_ ∧ _))

/-! ## The clean-up path -/

/-- Everything but the devices is given back. -/
lemma settled_cleanUp {l : Leases Resource} (each : ∀ r, (l r).Settled ∨ l r = .held) (r : Resource) :
    (release (wlhRttWlanRxDeinit (wlhRttLifecycleDeinit l)) .lock r).Settled ↔
      (∃ i, r = .device i) → (l r).Settled := by
  have path : release (wlhRttWlanRxDeinit (wlhRttLifecycleDeinit l)) .lock =
      releaseAll [.executorThread, .lifecycleThread, .executorQueue, .lifecycleQueue, .rxThread, .rxQueue,
        .rxStorage .sta, .rxStorage .ap, .lock] l := rfl
  rw [path, settled_releaseAll each]
  cases r with
  | device i => simp
  | rxStorage i => cases i <;> simp
  | _ => simp

/-! ## The initialisers -/

/-- The RX resources are acquired and the RX thread is started. -/
def RxReady (env : Env) : Prop :=
  (∀ r ∈ [Resource.rxQueue, .rxStorage .sta, .rxStorage .ap, .rxThread], env.ok r = true) ∧
    env.startup = rtEok

instance (env : Env) : Decidable (RxReady env) := inferInstanceAs (Decidable (_ ∧ _))

/-- `-RT_ENOMEM` is an error. -/
lemma enomem_ne_eok : -rtEnomem ≠ rtEok := by decide

/-- `-RT_ERROR` is an error. -/
lemma error_ne_eok : -rtError ≠ rtEok := by decide

section Initialisers
variable {env : Env} {l : Leases Resource}

/-- The RX path is initialised exactly when all of its resources are there. -/
lemma rxInit_eok : (wlhRttWlanRxInit env l).2 = rtEok ↔ RxReady env := by
  simp only [wlhRttWlanRxInit, acquireUntil_ok, RxReady, ← List.all_eq_true]
  split
  · rename_i all
    simp only [all, true_and]
  · rename_i some
    simp only [some, Bool.false_eq_true, false_and, iff_false]
    exact enomem_ne_eok

/-- The devices are registered exactly when both registrations succeed. -/
lemma register_eok :
    (wlhRttWlanRegister env l).2 = rtEok ↔ env.ok (.device .sta) = true ∧ env.ok (.device .ap) = true := by
  simp only [wlhRttWlanRegister, acquireUntil_ok, List.all_cons, List.all_nil, Bool.and_true,
    Bool.and_eq_true]
  split
  · rename_i both
    exact iff_of_true rfl both
  · rename_i some
    exact iff_of_false error_ne_eok some

/-- Some device is left registered exactly if the station's is. -/
lemma register_settled (env : Env) (none : ∀ i, l (.device i) = .unused) :
    (∀ i, ((wlhRttWlanRegister env l).1 (.device i)).Settled) ↔ env.ok (.device .sta) = false := by
  simp only [wlhRttWlanRegister]
  cases sta : env.ok (.device .sta) with
  | true =>
    refine iff_of_false (fun settled => ?_) Bool.noConfusion
    have held := settled .sta
    rw [acquireUntil_held sta (none .sta) (by decide)] at held
    exact absurd held (by decide)
  | false =>
    refine iff_of_true (fun i => ?_) rfl
    rw [acquireUntil_failed sta (none .sta), none i]
    decide

/-- The life cycle is initialised exactly when all of its resources are there and Core is. -/
lemma lifecycle_eok : (wlhRttLifecycleInit env l).2 = rtEok ↔
    (∀ r ∈ [Resource.executorQueue, .lifecycleQueue, .executorThread, .lifecycleThread],
      env.ok r = true) ∧ env.core = .ok := by
  simp only [wlhRttLifecycleInit, handle_acquireEach, List.mem_cons, true_or, or_true,
    forall_eq_or_imp, List.not_mem_nil, false_implies, implies_true, and_true]
  split
  · rename_i failed
    refine iff_of_false enomem_ne_eok ?_
    rintro ⟨⟨executor, lifecycle, -, -⟩, -⟩
    simp [executor, lifecycle] at failed
  · rename_i queues
    split
    · rename_i failed
      refine iff_of_false enomem_ne_eok ?_
      rintro ⟨⟨-, -, executor, lifecycle⟩, -⟩
      simp [executor, lifecycle] at failed
    · rename_i threads
      simp only [not_or, Bool.not_eq_false] at queues threads
      split
      · rename_i core
        exact iff_of_true rfl ⟨⟨queues.1, queues.2, threads.1, threads.2⟩, core⟩
      · rename_i core
        exact iff_of_false error_ne_eok fun all => core all.2

/-- The devices are left alone. -/
lemma lifecycle_devices (i : Iface) : (wlhRttLifecycleInit env l).1 (.device i) = l (.device i) := by
  simp only [wlhRttLifecycleInit]
  split
  · exact acquireEach_of_notMem (by simp)
  · split
    · exact (acquireEach_of_notMem (by simp)).trans (acquireEach_of_notMem (by simp))
    · exact (acquireEach_of_notMem (by simp)).trans (acquireEach_of_notMem (by simp))

/-- The initialisers acquire no resource twice. -/
lemma initialisers_within (within : Within {.lock} l) :
    Within Set.univ (initialisers env l).1 := by
  have rx : Within _ (wlhRttWlanRxInit env l).1 :=
    within.acquireUntil env.ok _ (by simp) (by decide)
  have wlan : Within _ (wlhRttWlanRegister env (wlhRttWlanRxInit env l).1).1 :=
    rx.acquireUntil env.ok _ (by simp) (by decide)
  have queues := wlan.acquireEach env.ok [.executorQueue, .lifecycleQueue] (by simp) (by decide)
  have threads := queues.acquireEach env.ok [.executorThread, .lifecycleThread] (by simp) (by decide)
  simp only [initialisers]
  split
  · exact rx.mono (Set.subset_univ _)
  · split
    · exact wlan.mono (Set.subset_univ _)
    · simp only [wlhRttLifecycleInit]
      split
      · exact queues.mono (Set.subset_univ _)
      · split
        · exact threads.mono (Set.subset_univ _)
        · exact threads.mono (Set.subset_univ _)

/-- All three succeed exactly when nothing fails. -/
lemma initialisers_eok (env : Env) (l : Leases Resource) : (initialisers env l).2 = rtEok ↔
    (RxReady env ∧ env.ok (.device .sta) = true) ∧ Completes env := by
  simp only [initialisers, ne_eq, rxInit_eok, register_eok, Completes]
  split
  · rename_i rx
    rw [rxInit_eok]
    tauto
  · split
    · rename_i wlan
      rw [register_eok]
      tauto
    · rw [lifecycle_eok]
      tauto

/-- No device is left registered exactly if the station's is not. -/
lemma initialisers_settled (none : ∀ i, l (.device i) = .unused) :
    (∀ i, ((initialisers env l).1 (.device i)).Settled) ↔
      ¬ (RxReady env ∧ env.ok (.device .sta) = true) := by
  have none' (i : Iface) : (wlhRttWlanRxInit env l).1 (.device i) = .unused :=
    (acquireUntil_of_notMem (by simp)).trans (none i)
  have devices := register_settled env none'
  simp only [initialisers, ne_eq, rxInit_eok]
  split
  · rename_i rx
    refine iff_of_true (fun i => ?_) fun ready => rx ready.1
    rw [none' i]
    decide
  · rename_i rx
    rw [not_not] at rx
    simp only [rx, true_and, Bool.not_eq_true, ← devices]
    split
    · rfl
    · simp only [lifecycle_devices]

end Initialisers

/-- After a failure of the initialisers everything is given back exactly if no device was registered. -/
lemma failed_settled {env : Env} {l : Leases Resource} (within : Within {.lock} l) :
    (∀ resource, (release (wlhRttWlanRxDeinit (wlhRttLifecycleDeinit (initialisers env l).1)) .lock
        resource).Settled) ↔ ¬ (RxReady env ∧ env.ok (.device .sta) = true) := by
  have none (i : Iface) : l (.device i) = .unused := within.only _ (by simp)
  rw [← initialisers_settled none]
  simp only [settled_cleanUp (initialisers_within within).settled_or_held]
  constructor
  · exact fun all i => all _ ⟨i, rfl⟩
  · rintro devices _ ⟨i, rfl⟩
    exact devices i

/-- Initialisation gives back everything it has acquired if it fails, exactly if the station's device
    is not registered on the way or nothing fails after it. -/
theorem init_all_or_nothing_iff (env : Env) :
    AllOrNothing (wlhRttHostInit env) ↔ (RegistersStation env → Completes env) := by
  have unused : Lease.unused.Settled := by decide
  unfold wlhRttHostInit
  by_cases arguments : env.arguments = false
  · -- nothing was acquired
    rw [if_pos arguments]
    refine iff_of_true (fun _ _ => unused) fun registers => ?_
    rw [registers.1] at arguments
    cases arguments
  · rw [if_neg arguments]
    have handle : (acquire (fun _ => .unused) (env.ok .lock) Resource.lock .lock).handle =
        env.ok .lock := by rw [acquire, Function.update_self]
    simp only [handle]
    by_cases lock : env.ok .lock = false
    · rw [if_pos lock, lock]
      refine iff_of_true (fun _ resource => ?_) fun registers => ?_
      · have same : acquire (fun _ => .unused) false Resource.lock = fun _ => .unused :=
          acquire_failed rfl
        rw [same]
        exact unused
      · rw [registers.2.1] at lock
        cases lock
    · have within : Within {.lock} (acquire (fun _ => .unused) (env.ok .lock) Resource.lock) :=
        (within_unused.acquire (Set.notMem_empty _) _).mono (by simp)
      rw [if_neg lock]
      have registers : RegistersStation env ↔ RxReady env ∧ env.ok (.device .sta) = true := by
        simp only [Bool.not_eq_false] at arguments lock
        simp only [RegistersStation, RxReady, arguments, lock, true_and, and_assoc]
      rw [registers]
      have eok := initialisers_eok env (acquire (fun _ => .unused) (env.ok .lock) .lock)
      by_cases fails : (initialisers env (acquire (fun _ => .unused) (env.ok .lock) .lock)).2 ≠ rtEok
      · rw [if_pos fails, AllOrNothing, forall_prop_of_true error_ne_eok, failed_settled within]
        rw [ne_eq, eok] at fails
        constructor
        · intro none registered
          exact absurd registered none
        · intro completes registered
          exact fails ⟨registered, completes registered⟩
      · rw [if_neg fails]
        refine iff_of_true (fun error => absurd rfl error) fun _ => (eok.mp (not_not.mp fails)).2

/-- The name of the AP's device is taken: initialisation fails, and the station's device stays
    registered. -/
theorem init_station_left :
    (wlhRttHostInit ⟨true, fun r => r ≠ .device .ap, rtEok, .ok⟩).2 = -rtError ∧
      (wlhRttHostInit ⟨true, fun r => r ≠ .device .ap, rtEok, .ok⟩).1 (.device .sta) = .held ∧
      ¬ AllOrNothing (wlhRttHostInit ⟨true, fun r => r ≠ .device .ap, rtEok, .ok⟩) := by
  refine ⟨by decide, by decide, fun all => ?_⟩
  exact absurd (all (by decide) (.device .sta)) (by decide)

end HostInit

end WlhHpm.Wlan

import WlhHpm.Wlan.RxPool

/-!
# Accounts of the receive path

Every valid call of `wlh_rtt_wlan_rx_enqueue` is in flight until it is counted: as received, as not
delivered, or as one that found no free block. `rx_main` expects `RT_EOK` from `rt_mq_recv` and takes
every other value for an error. With `RT_EOK` the receive path would account for all its blocks and
frames in every run (`accounts_of_eok`). But `rt_mq_recv` returns the length of the job, so the first
job that `rx_main` takes is dropped, uncounted and with its block, and the accounts hold exactly as
long as it has taken none (`rx_pool_accounts_iff`, `first_job_leaks`). Even then no block is used twice
and no frame is reported out of order (`rx_safe`).
-/

namespace WlhHpm.Wlan.Rx
open Word

/-! ## Counters -/

/-- The interface of a call that has not been counted yet. -/
def EnqueuePc.pending : EnqueuePc → Option Iface
  | .allocate i _ => some i
  | .empty i => some i
  | .fill i .. => some i
  | .send i .. => some i
  | .full i _ => some i
  | .free .. => none
  | .returned => none

/-- The interface of a queued job. -/
def Job.pending (job : Job) : Option Iface := ifaceOf job.interfaceId

/-- The interface of a job that `rx_main` has not counted yet. -/
def WorkerPc.pending : WorkerPc → Option Iface
  | .check i _ => some i
  | .report i _ => some i
  | .count i _ _ => some i
  | .recv => none
  | .free .. => none

/-- The jobs in flight, by their interfaces: calls that passed the checks of their arguments, queued
    jobs, and the job that `rx_main` delivers, until it is counted. -/
def inFlight (s : State) : Multiset Iface :=
  holdings EnqueuePc.pending s.calls + holdings Job.pending s.rxQueue +
    holdings WorkerPc.pending [s.worker]

/-- The frames of an interface that were counted. -/
def Interface.counted (interface : Interface) : UInt32 :=
  interface.rxFrames + interface.rxDeliveryFailed + interface.rxPoolEmpty

/-- The counters and the jobs in flight make up the valid calls, modulo 2^32. -/
def Balanced (s : State) : Prop :=
  ∀ i, (s.interfaces i).counted + UInt32.ofNat ((inFlight s).count i) = UInt32.ofNat (s.valid i)

section Counters
variable {n : PoolSize} {received : Int} {s s' : State}

/-- Nothing is counted. -/
lemma Balanced.of_same (bal : Balanced s) (flight : inFlight s' = inFlight s)
    (count : ∀ i, (s'.interfaces i).counted = (s.interfaces i).counted)
    (valid : s'.valid = s.valid) : Balanced s' := by
  intro i
  rw [flight, count, valid]
  exact bal i

/-- A job leaves and is counted. -/
lemma Balanced.settle (bal : Balanced s) {i : Iface} (flight : inFlight s = i ::ₘ inFlight s')
    (count : ∀ j, (s'.interfaces j).counted =
      if j = i then (s.interfaces j).counted + 1 else (s.interfaces j).counted)
    (valid : s'.valid = s.valid) : Balanced s' := by
  intro j
  have old := bal j
  rw [flight] at old
  rw [count, valid, ← old]
  by_cases e : j = i
  · subst e
    rw [if_pos rfl, Multiset.count_cons_self, UInt32.ofNat_add, UInt32.add_assoc,
      UInt32.add_comm (UInt32.ofNat _)]
    rfl
  · rw [if_neg e, Multiset.count_cons_of_ne e]

/-- A call begins. -/
lemma Balanced.enter (bal : Balanced s) {i : Iface} (flight : inFlight s' = i ::ₘ inFlight s)
    (count : ∀ j, (s'.interfaces j).counted = (s.interfaces j).counted)
    (valid : s'.valid = Function.update s.valid i (s.valid i + 1)) : Balanced s' := by
  intro j
  rw [flight, count, valid]
  by_cases e : j = i
  · subst e
    rw [Multiset.count_cons_self, Function.update_self, UInt32.ofNat_add, UInt32.ofNat_add,
      ← UInt32.add_assoc, bal j]
  · rw [Multiset.count_cons_of_ne e, Function.update_of_ne e]
    exact bal j

/-- A frame that finds no block is counted. -/
lemma counted_rxPoolEmpty (x : Interface) :
    Interface.counted { x with rxPoolEmpty := x.rxPoolEmpty + 1 } = x.counted + 1 :=
  (UInt32.add_assoc ..).symm

/-- A frame that is delivered is counted. -/
lemma counted_rxFrames (x : Interface) :
    Interface.counted { x with rxFrames := x.rxFrames + 1 } = x.counted + 1 := by
  simp only [Interface.counted]
  ac_rfl

/-- A frame that cannot be delivered is counted. -/
lemma counted_rxDeliveryFailed (x : Interface) :
    Interface.counted { x with rxDeliveryFailed := x.rxDeliveryFailed + 1 } = x.counted + 1 := by
  simp only [Interface.counted]
  ac_rfl

/-- A step of a call counts its frame or passes it on. -/
lemma CallMove.balanced {k : Nat} {pc pc' : EnqueuePc} (move : CallMove n s pc s' pc')
    (is : s.calls[k]? = some pc) (sound : pc.Sound s.storage) (bal : Balanced s) :
    Balanced { s' with calls := s.calls.set k pc' } := by
  have before : inFlight s = holdings EnqueuePc.pending [pc] +
      (holdings EnqueuePc.pending (s.calls.eraseIdx k) + (holdings Job.pending s.rxQueue +
        holdings WorkerPc.pending [s.worker])) := by
    rw [inFlight, holdings_get _ is, add_assoc, add_assoc]
  have after : inFlight { s' with calls := s.calls.set k pc' } = holdings EnqueuePc.pending [pc'] +
      (holdings EnqueuePc.pending (s.calls.eraseIdx k) + (holdings Job.pending s'.rxQueue +
        holdings WorkerPc.pending [s'.worker])) := by
    rw [inFlight, holdings_set _ is, add_assoc, add_assoc]
  cases move with
  | taken lt free =>
    refine bal.of_same (after.trans before.symm) (fun j => ?_) rfl
    rw [State.setMask, update_apply]
    split <;> rfl
  | exhausted none => exact bal.of_same (after.trans before.symm) (fun _ => rfl) rfl
  | @counted i =>
    refine bal.settle (i := i) ?_ (fun j => ?_) rfl
    · have mine : holdings EnqueuePc.pending [.empty i] = {i} := rfl
      have done : holdings EnqueuePc.pending [.returned] = 0 := rfl
      rw [before, after, mine, done, zero_add, Multiset.singleton_add]
      rfl
    · rw [update_apply]
      split
      · exact counted_rxPoolEmpty _
      · rfl
  | copied byte =>
    refine bal.of_same (after.trans before.symm) (fun j => ?_) rfl
    rw [State.write, update_apply]
    split <;> rfl
  | filled le => exact bal.of_same (after.trans before.symm) (fun _ => rfl) rfl
  | @sent i frame block room =>
    refine bal.of_same ?_ (fun _ => rfl) rfl
    have mine : holdings EnqueuePc.pending [.send i frame block] = {i} := rfl
    have done : holdings EnqueuePc.pending [.returned] = 0 := rfl
    have job : (jobOf i frame block).pending = some i := ifaceOf_ifaceId i
    rw [before, after, mine, done, holdings_append, holdings_some job]
    abel
  | full le => exact bal.of_same (after.trans before.symm) (fun _ => rfl) rfl
  | refused => exact sound.elim
  | freed => exact sound.elim
  | returned => exact bal.of_same (after.trans before.symm) (fun _ => rfl) rfl

/-- A step of `rx_main` counts its frame or passes it on, unless it loses the job that it receives. -/
lemma WorkerMove.balanced (move : WorkerMove received s s') (bal : Balanced s)
    (ok : received = rtEok ∨ ¬ (s.worker = .recv ∧ s.rxQueue ≠ [])) : Balanced s' := by
  cases move with
  | wait _ _ => exact bal
  | @dropped job queue at_pc is why =>
    have eok := eok_of_taken at_pc is ok
    refine bal.of_same ?_ (fun _ => rfl) rfl
    simp only [inFlight, at_pc, is]
    rw [holdings_cons _ job, holdings_none (f := Job.pending) (why.resolve_left fun ne => ne eok),
      zero_add]
  | @received job queue i at_pc is iface =>
    refine bal.of_same ?_ (fun _ => rfl) rfl
    simp only [inFlight, at_pc, is]
    rw [holdings_cons _ job, holdings_some (f := Job.pending) iface,
      holdings_some (f := WorkerPc.pending) (a := .check i job) rfl,
      holdings_none (f := WorkerPc.pending) (a := .recv) rfl]
    abel
  | up at_pc => exact bal.of_same (by simp only [inFlight, at_pc]; rfl) (fun _ => rfl) rfl
  | down at_pc => exact bal.of_same (by simp only [inFlight, at_pc]; rfl) (fun _ => rfl) rfl
  | reported delivered at_pc =>
    exact bal.of_same (by simp only [inFlight, at_pc]; rfl) (fun _ => rfl) rfl
  | @delivered i job at_pc =>
    refine bal.settle (i := i) ?_ (fun j => ?_) rfl
    · simp only [inFlight, State.update, at_pc]
      rw [add_comm, ← Multiset.singleton_add,
        holdings_none (f := WorkerPc.pending) (a := .free i job) rfl, add_zero]
      rfl
    · rw [update_apply]
      split
      · exact counted_rxFrames _
      · rfl
  | @failed i job at_pc =>
    refine bal.settle (i := i) ?_ (fun j => ?_) rfl
    · simp only [inFlight, State.update, at_pc]
      rw [add_comm, ← Multiset.singleton_add,
        holdings_none (f := WorkerPc.pending) (a := .free i job) rfl, add_zero]
      rfl
    · rw [update_apply]
      split
      · exact counted_rxDeliveryFailed _
      · rfl
  | freed at_pc =>
    refine bal.of_same ?_ (fun j => ?_) rfl
    · simp only [inFlight, State.freeBlock, State.setMask, State.update, at_pc]
      rfl
    · rw [State.freeBlock, State.setMask, update_apply]
      split <;> rfl

/-- A step that drops no job keeps the balance. -/
lemma Balanced.step (bal : Balanced s) (inv : Inv n s) (a : Act)
    (ok : received = rtEok ∨ ¬ Receives s a) : Balanced (step n received s a) := by
  have move := step_move n received s a
  generalize Rx.step n received s a = s' at move
  cases move with
  | none _ => exact bal
  | @called id i frame iface le =>
    refine bal.enter (i := i) ?_ (fun _ => rfl) rfl
    have new : holdings EnqueuePc.pending [.allocate i frame] = {i} := rfl
    rw [inFlight, holdings_append, new, inFlight, ← Multiset.singleton_add]
    abel
  | call is move => exact move.balanced is (inv.calls _ (List.mem_of_getElem? is)) bal
  | worker move => exact move.balanced bal ok
  | link =>
    refine bal.of_same rfl (fun j => ?_) rfl
    rw [update_apply]
    split <;> rfl

end Counters

/-! ## Runs -/

/-- How often a block is in use: filled by a call, in a queued job, or delivered by `rx_main`. -/
def used (s : State) (i : Iface) (b : Nat) : Nat :=
  s.calls.countP (fun pc => pc.holds = some (i, b)) +
    s.rxQueue.countP (fun job => job.holds = some (i, b)) +
    [s.worker].countP fun pc => pc.holds = some (i, b)

/-- The number of places where a block is: in the free mask or in use. -/
def places (s : State) (i : Iface) (b : Nat) : Nat :=
  (if HasBit (s.interfaces i).rxFreeMask b then 1 else 0) + used s i b

/-- The receive path accounts for its blocks and frames. -/
structure Accounts (n : PoolSize) (s : State) : Prop where
  /-- Every block is in one place. -/
  block : ∀ i, ∀ b < n.val, places s i b = 1
  depth : s.rxQueue.length ≤ rxQueueDepth n
  room : ∀ i, (s.interfaces i).rxQueueFull = 0
  /-- The pool of an interface is empty only if its own frames use all its blocks. -/
  own : ∀ i, (wlhRttPoolTake (s.interfaces i).rxFreeMask n).2 = none → ∀ b < n.val, used s i b = 1
  order : ∀ i, (s.reported i).Sublist (s.enqueued i)
  counters : Balanced s

section Runs
variable {n : PoolSize} {received : Int} {s : State}

/-- The places of a block are those in the books. -/
lemma places_eq (s : State) (i : Iface) (b : Nat) : places s i b = (pool s).places (i, b) := by
  rw [places, used, Pool.places, pool, Multiset.count_add, Multiset.count_add, count_holdings,
    count_holdings, count_holdings]
  congr 1
  split
  · rename_i has
    exact (congrArg Bool.toNat (decide_eq_true has)).symm
  · rename_i has
    exact (congrArg Bool.toNat (decide_eq_false has)).symm

/-- Nothing is missing in the books when every block is in one place. -/
lemma whole_iff : Pool.Whole (blocks n) (pool s) ↔ ∀ i, ∀ b < n.val, places s i b = 1 := by
  constructor
  · intro whole i b lt
    rw [places_eq]
    exact whole (i, b) (mem_blocks.mpr lt)
  · rintro block ⟨i, b⟩ mem
    rw [← places_eq]
    exact block i b (mem_blocks.mp mem)

/-- At first every block is free. -/
lemma places_initial (memory : Iface → Mem) (x : Iface × Nat) :
    (pool (initial n memory)).places x = if x.2 < n.val then 1 else 0 := by
  rw [← places_eq, places, used]
  simp only [initial, hasBit_initialMask]
  rfl

/-- All blocks are free at first. -/
lemma Inv.initial (memory : Iface → Mem) : Inv n (initial n memory) where
  exclusive := by
    constructor
    · intro x
      rw [places_initial]
      split <;> decide
    · intro x foreign
      rw [places_initial, if_neg fun lt => foreign (mem_blocks.mpr lt)]
  calls pc mem := by cases mem
  iface job mem := by cases mem
  length i job mem := by cases mem
  room i := rfl
  order i := ⟨[], rfl, List.Sublist.refl _⟩

/-- No block is missing at first. -/
lemma initial_whole (memory : Iface → Mem) : Pool.Whole (blocks n) (pool (initial n memory)) := by
  intro x mem
  rw [places_initial, if_pos (mem_blocks.mp mem)]

/-- The frames that were reported were enqueued in this order. -/
lemma Inv.reported_sublist (inv : Inv n s) (i : Iface) : (s.reported i).Sublist (s.enqueued i) := by
  obtain ⟨past, enqueued, sub⟩ := inv.order i
  rw [enqueued]
  exact sub.trans (List.sublist_append_left ..)

/-- Whatever `rt_mq_recv` returns: in every run no block is in two places, the queue never overflows,
    and the frames are reported as they were enqueued. -/
theorem rx_safe (n : PoolSize) (memory : Iface → Mem) (received : Int) (acts : List Act) :
    let s := run n memory received acts
    (∀ i b, places s i b ≤ 1) ∧ s.rxQueue.length ≤ rxQueueDepth n ∧
      (∀ i, (s.interfaces i).rxQueueFull = 0) ∧ ∀ i, (s.reported i).Sublist (s.enqueued i) := by
  intro s
  have inv : Inv n s :=
    foldl_invariant (I := Inv n) (fun _ a inv => inv.step a) acts (.initial memory)
  refine ⟨fun i b => ?_, inv.queue_le, inv.room, inv.reported_sublist⟩
  rw [places_eq]
  exact inv.exclusive.once (i, b)

/-- Nothing is in flight at first. -/
lemma Balanced.initial (memory : Iface → Mem) : Balanced (initial n memory) := fun _ => rfl

/-- With all blocks in their places and the counters balanced, the invariant gives the rest. -/
lemma Inv.accounts (inv : Inv n s) (whole : Pool.Whole (blocks n) (pool s)) (bal : Balanced s) :
    Accounts n s where
  block := whole_iff.mp whole
  depth := inv.queue_le
  room := inv.room
  own i empty b lt := by
    rcases wlhRttPoolTake_cases n (s.interfaces i).rxFreeMask with ⟨block, -, -, is⟩ | ⟨none, -⟩
    · rw [is] at empty
      cases empty
    · have one := whole_iff.mp whole i b lt
      rw [places, if_neg (none b lt), Nat.zero_add] at one
      exact one
  order := inv.reported_sublist
  counters := bal

/-- In every run, the receive path accounts for everything exactly as long as no job is dropped. -/
lemma accounts_iff (memory : Iface → Mem) (acts : List Act) :
    Accounts n (run n memory received acts) ↔
      Along (step n received) (fun s a => received = rtEok ∨ ¬ Receives s a) (initial n memory)
        acts := by
  have whole : Pool.Whole (blocks n) (pool (run n memory received acts)) ↔
      Along (step n received) (fun s a => received = rtEok ∨ ¬ Receives s a) (initial n memory)
        acts :=
    Pool.whole_iff_along (I := Inv n) (fun _ a inv => inv.step a) (fun _ inv => inv.exclusive)
      (fun _ a inv ok => step_pool a inv.exclusive ok) (fun _ a inv bad => step_leak a inv.iface bad)
      acts (.initial memory) (initial_whole memory)
  constructor
  · intro accounts
    exact whole.mp (whole_iff.mpr accounts.block)
  · intro al
    have both : Inv n (run n memory received acts) ∧ Balanced (run n memory received acts) :=
      al.invariant (I := fun s => Inv n s ∧ Balanced s)
        (fun s a both ok => ⟨both.1.step a, both.2.step both.1 a ok⟩)
        ⟨.initial memory, .initial memory⟩
    exact both.1.accounts (whole.mpr al) both.2

/-- If `rt_mq_recv` returned `RT_EOK` for a job, the receive path would account for everything in
    every run. -/
theorem accounts_of_eok (n : PoolSize) (memory : Iface → Mem) (acts : List Act) :
    Accounts n (run n memory rtEok acts) :=
  (accounts_iff memory acts).mpr (.of_forall fun _ _ _ => .inl rfl)

end Runs

/-- In every run of the code, the receive path accounts for its blocks and frames exactly as long as
    no `rt_mq_recv` of `rx_main` has taken a job. -/
theorem rx_pool_accounts_iff (n : PoolSize) (memory : Iface → Mem) (acts : List Act) :
    Accounts n (run n memory Job.size acts) ↔
      Along (step n Job.size) (fun s a => ¬ Receives s a) (initial n memory) acts := by
  have failed : Job.size ≠ rtEok := by decide
  rw [accounts_iff]
  simp only [failed, false_or]

/-- The first frame leaks its block: after `rx_main` has taken the job, block 0 is not free and not in
    use. -/
theorem first_job_leaks :
    ¬ Accounts ⟨16, by decide⟩ (run ⟨16, by decide⟩ (fun _ _ => 0) Job.size
      [.enqueue 0 (some [0x42]), .call 0, .call 0, .call 0, .call 0, .worker true]) := by
  intro accounts
  have one := accounts.block .sta 0 (by decide)
  exact absurd one (by decide +kernel)

end WlhHpm.Wlan.Rx

import WlhHpm.Lib.Pool
import WlhHpm.Wlan.Rx

/-!
# The blocks of the receive path

A block of an interface is free, or it is held: by a call that fills it, by a job in the queue, or by
`rx_main`. Read as the books of a pool (`pool`), every step of the machine takes a block, gives one
back or passes one on (`step_pool`), except for an `rt_mq_recv` that takes a job and returns something
other than `RT_EOK`: `rx_main` then goes on to the next job and the block leaks (`step_leak`).

Whether blocks leak or not, no block has two holders in any run. This keeps the frames apart: what a
call has stored is not disturbed until `rx_main` has reported it, so that the frames on their way are
those that were enqueued, in their order (`Inv.order`), and every call that has a block finds room in
the queue (`Inv.queue_lt`). `Inv` is the invariant of all runs.
-/

namespace WlhHpm.Wlan.Rx
open Word

/-! ## Blocks -/

/-- The block that a call has taken. -/
def EnqueuePc.holds : EnqueuePc → Option (Iface × Nat)
  | .fill i _ block _ => some (i, block)
  | .send i _ block => some (i, block)
  | .full i block => some (i, block)
  | .free i block => some (i, block)
  | .allocate .. => none
  | .empty _ => none
  | .returned => none

/-- The block of a job. -/
def Job.holds (job : Job) : Option (Iface × Nat) :=
  (ifaceOf job.interfaceId).map fun i => (i, job.block.toNat)

/-- The block that `rx_main` has received. -/
def WorkerPc.holds : WorkerPc → Option (Iface × Nat)
  | .recv => none
  | .check i job => some (i, job.block.toNat)
  | .report i job => some (i, job.block.toNat)
  | .count i job _ => some (i, job.block.toNat)
  | .free i job => some (i, job.block.toNat)

/-- The blocks of both interfaces. -/
def blocks (n : PoolSize) : Finset (Iface × Nat) := {.sta, .ap} ×ˢ Finset.range n

/-- The books of the blocks. -/
def pool (s : State) : Pool (Iface × Nat) where
  free x := decide (HasBit (s.interfaces x.1).rxFreeMask x.2)
  held := holdings EnqueuePc.holds s.calls + holdings Job.holds s.rxQueue +
    holdings WorkerPc.holds [s.worker]

/-- `rx_main` takes a job out of the queue. -/
def Receives (s : State) : Act → Prop
  | .worker _ => s.worker = .recv ∧ s.rxQueue ≠ []
  | _ => False

section Blocks
variable {n : PoolSize} {s : State} {i : Iface}

/-- The blocks of both interfaces. -/
lemma mem_blocks {x : Iface × Nat} : x ∈ blocks n ↔ x.2 < n.val := by
  obtain ⟨i, b⟩ := x
  cases i <;> simp [blocks]

/-- There are as many blocks as places in the queue. -/
lemma card_blocks (n : PoolSize) : (blocks n).card = rxQueueDepth n := by
  rw [blocks, Finset.card_product, Finset.card_range, rxQueueDepth, Nat.mul_comm]
  rfl

/-- An interface has its own number. -/
lemma ifaceOf_ifaceId (i : Iface) : ifaceOf (ifaceId i) = some i := by
  cases i <;> rfl

/-- The free blocks after a change of a mask. -/
lemma free_setMask {s' : State} {mask : UInt64} {block : Nat} {free : Bool}
    (set : s'.interfaces = (s.setMask i mask).interfaces)
    (other : ∀ b, b ≠ block → (HasBit mask b ↔ HasBit (s.interfaces i).rxFreeMask b))
    (this : decide (HasBit mask block) = free) :
    (pool s').free = Function.update (pool s).free (i, block) free := by
  funext ⟨j, b⟩
  simp only [pool, set, State.setMask, State.update]
  by_cases iface : j = i
  · subst iface
    rw [Function.update_self]
    by_cases e : b = block
    · subst e
      rw [Function.update_self]
      exact this
    · rw [Function.update_of_ne fun h => e (Prod.mk.inj h).2]
      exact decide_eq_decide.mpr (other b e)
  · rw [Function.update_of_ne iface, Function.update_of_ne fun h => iface (Prod.mk.inj h).1]

/-- The free blocks depend on the masks alone. -/
lemma free_same {s' : State}
    (same : ∀ j, (s'.interfaces j).rxFreeMask = (s.interfaces j).rxFreeMask) :
    (pool s').free = (pool s).free := by
  funext ⟨j, b⟩
  simp only [pool, same]

/-- A block that is given back is free. -/
lemma free_freeBlock {s' : State} {block : Nat} (lt : block < 64)
    (set : s'.interfaces = (s.freeBlock i block).interfaces) :
    (pool s').free = Function.update (pool s).free (i, block) true := by
  refine free_setMask set (fun b ne => ?_) (decide_eq_true ?_)
  · rw [hasBit_put _ lt, or_iff_left ne]
  · exact (hasBit_put _ lt block).mpr (.inr rfl)

end Blocks

section Steps
variable {n : PoolSize} {received : Int} {s s' : State}

/-- A held block has a number below the size of the pool. -/
lemma block_lt (excl : Pool.Exclusive (blocks n) (pool s)) {i block}
    (mem : (i, block) ∈ (pool s).held) : block < n.val := mem_blocks.mp (excl.mem_own mem)

/-- The block of a call and the other held blocks. -/
lemma held_call {k : Nat} {pc : EnqueuePc} {x : Iface × Nat} (is : s.calls[k]? = some pc)
    (holds : pc.holds = some x) :
    (pool s).held = x ::ₘ (holdings EnqueuePc.holds (s.calls.eraseIdx k) +
      (holdings Job.holds s.rxQueue + holdings WorkerPc.holds [s.worker])) := by
  rw [pool, holdings_get _ is, holdings_some holds, add_assoc, add_assoc, Multiset.singleton_add]

/-- A step of a call takes its block, passes it on to the queue, or gives it back. -/
lemma CallMove.pool_step {k : Nat} {pc pc' : EnqueuePc} (move : CallMove n s pc s' pc')
    (is : s.calls[k]? = some pc) (excl : Pool.Exclusive (blocks n) (pool s)) :
    Pool.Step (pool s) (pool { s' with calls := s.calls.set k pc' }) := by
  have before : (pool s).held = holdings EnqueuePc.holds [pc] +
      holdings EnqueuePc.holds (s.calls.eraseIdx k) + holdings Job.holds s.rxQueue +
      holdings WorkerPc.holds [s.worker] := by
    rw [pool, holdings_get _ is]
  have after : (pool { s' with calls := s.calls.set k pc' }).held =
      holdings EnqueuePc.holds [pc'] + holdings EnqueuePc.holds (s.calls.eraseIdx k) +
        holdings Job.holds s'.rxQueue + holdings WorkerPc.holds [s'.worker] := by
    rw [pool, holdings_set _ is]
  have mine : ∀ {i block}, pc.holds = some (i, block) → (i, block) ∈ (pool s).held := by
    intro i block holds
    rw [held_call is holds]
    exact Multiset.mem_cons_self ..
  cases move with
  | @taken i frame block lt free =>
    refine .take (b := (i, block)) (decide_eq_true free) ?_ ?_
    · have lt64 : block < 64 := lt.trans_le n.property.2
      refine free_setMask rfl (fun b ne => ?_) (decide_eq_false fun has => ?_)
      · rw [hasBit_and_not_shift _ lt64, and_iff_left ne]
      · exact ((hasBit_and_not_shift _ lt64 block).mp has).2 rfl
    · rw [after, before]
      simp only [holdings_some (f := EnqueuePc.holds) (a := .fill i frame block 0) rfl,
        holdings_none (f := EnqueuePc.holds) (a := .allocate i frame) rfl, zero_add, add_assoc]
      rfl
  | exhausted none => exact .pass rfl (after.trans before.symm)
  | counted =>
    refine .pass (free_same fun j => ?_) (after.trans before.symm)
    rw [update_apply]
    split <;> rfl
  | copied byte =>
    refine .pass (free_same fun j => ?_) (after.trans before.symm)
    rw [State.write, update_apply]
    split <;> rfl
  | filled le => exact .pass rfl (after.trans before.symm)
  | @sent i frame block room =>
    refine .pass rfl ?_
    have lt := block_lt excl (mine rfl)
    have le := n.property.2
    have holds : Job.holds (jobOf i frame block) =
        some (i, block) := by
      rw [Job.holds, jobOf, ifaceOf_ifaceId, Option.map_some, UInt8.toNat_ofNat',
        Nat.mod_eq_of_lt (by omega)]
    rw [after, before, holdings_append, holdings_some holds]
    simp only [holdings_none (f := EnqueuePc.holds) (a := .returned) rfl,
      holdings_some (f := EnqueuePc.holds) (a := .send i frame block) rfl, zero_add]
    abel
  | full le => exact .pass rfl (after.trans before.symm)
  | refused =>
    refine .pass (free_same fun j => ?_) (after.trans before.symm)
    rw [update_apply]
    split <;> rfl
  | @freed i block =>
    have lt := block_lt excl (mine rfl)
    refine .give (b := (i, block)) (free_freeBlock (lt.trans_le n.property.2) rfl) ?_
    rw [after, before]
    simp only [holdings_none (f := EnqueuePc.holds) (a := .returned) rfl,
      holdings_some (f := EnqueuePc.holds) (a := .free i block) rfl, zero_add, add_assoc]
    rfl
  | returned => exact .pass rfl (after.trans before.symm)

/-- A job is taken without a loss only if `rt_mq_recv` returns `RT_EOK`. -/
lemma eok_of_taken {job : Job} {queue : List Job} (at_pc : s.worker = .recv)
    (is : s.rxQueue = job :: queue)
    (ok : received = rtEok ∨ ¬ (s.worker = .recv ∧ s.rxQueue ≠ [])) : received = rtEok := by
  rcases ok with eok | not
  · exact eok
  · exact absurd ⟨at_pc, by rw [is]; exact List.cons_ne_nil _ _⟩ not

/-- A step of `rx_main` that does not drop a job passes a block on or gives it back. -/
lemma WorkerMove.pool_step (move : WorkerMove received s s')
    (excl : Pool.Exclusive (blocks n) (pool s))
    (ok : received = rtEok ∨ ¬ (s.worker = .recv ∧ s.rxQueue ≠ [])) :
    Pool.Step (pool s) (pool s') := by
  cases move with
  | wait _ _ => exact .pass rfl rfl
  | @dropped job queue at_pc is why =>
    have eok := eok_of_taken at_pc is ok
    have invalid : job.holds = none := by
      rw [Job.holds, why.resolve_left fun ne => ne eok]
      rfl
    refine .pass rfl ?_
    simp only [pool, at_pc, is]
    rw [holdings_cons _ job, holdings_none invalid, zero_add]
  | @received job queue i at_pc is iface =>
    have holds : job.holds = some (i, job.block.toNat) := by
      rw [Job.holds, iface]
      rfl
    refine .pass rfl ?_
    simp only [pool, at_pc, is]
    rw [holdings_cons _ job, holdings_some holds,
      holdings_some (f := WorkerPc.holds) (a := .check i job) rfl,
      holdings_none (f := WorkerPc.holds) (a := .recv) rfl]
    abel
  | up at_pc => exact .pass rfl (by simp only [pool, at_pc]; rfl)
  | down at_pc => exact .pass rfl (by simp only [pool, at_pc]; rfl)
  | reported delivered at_pc => exact .pass rfl (by simp only [pool, at_pc]; rfl)
  | delivered at_pc =>
    refine .pass (free_same fun j => ?_) ?_
    · rw [update_apply]
      split <;> rfl
    · simp only [pool, State.update, at_pc]
      rfl
  | failed at_pc =>
    refine .pass (free_same fun j => ?_) ?_
    · rw [update_apply]
      split <;> rfl
    · simp only [pool, State.update, at_pc]
      rfl
  | @freed i job at_pc =>
    have held : (pool s).held = (i, job.block.toNat) ::ₘ
        (pool { s.freeBlock i job.block.toNat with worker := .recv }).held := by
      simp only [pool, State.freeBlock, State.setMask, State.update, at_pc]
      rw [holdings_some (f := WorkerPc.holds) (a := .free i job) rfl,
        holdings_none (f := WorkerPc.holds) (a := .recv) rfl, add_zero, add_comm]
      rfl
    have lt := block_lt excl (by rw [held]; exact Multiset.mem_cons_self ..)
    exact .give (free_freeBlock (lt.trans_le n.property.2) rfl) held

/-- A step that does not drop a job keeps the books of the blocks. -/
lemma step_pool (a : Act) (excl : Pool.Exclusive (blocks n) (pool s))
    (ok : received = rtEok ∨ ¬ Receives s a) :
    Pool.Step (pool s) (pool (step n received s a)) := by
  have move := step_move n received s a
  generalize step n received s a = s' at move
  cases move with
  | none _ => exact .pass rfl rfl
  | @called id i frame iface le =>
    refine .pass rfl ?_
    simp only [pool]
    rw [holdings_append, holdings_none (f := EnqueuePc.holds) (a := .allocate i frame) rfl, add_zero]
  | call is move => exact move.pool_step is excl
  | worker move => exact move.pool_step excl ok
  | link =>
    refine .pass (free_same fun j => ?_) rfl
    rw [update_apply]
    split <;> rfl

/-- An `rt_mq_recv` that takes a job without returning `RT_EOK` drops its block. -/
lemma step_leak (a : Act) (jobs : ∀ job ∈ s.rxQueue, ∃ i, ifaceOf job.interfaceId = some i)
    (bad : ¬ (received = rtEok ∨ ¬ Receives s a)) :
    Pool.Leak (pool s) (pool (step n received s a)) := by
  obtain ⟨failed, notnot⟩ := not_or.mp bad
  have receives := not_not.mp notnot
  cases a with
  | worker delivered =>
    obtain ⟨at_pc, ne⟩ := receives
    obtain ⟨job, queue, is⟩ := List.exists_cons_of_ne_nil ne
    obtain ⟨i, iface⟩ := jobs job (by rw [is]; exact List.mem_cons_self)
    have holds : job.holds = some (i, job.block.toNat) := by
      rw [Job.holds, iface]
      rfl
    refine .drop (b := (i, job.block.toNat)) ?_ ?_
    · simp only [step, State.workerStep, at_pc, is, ne_eq, failed, not_false_eq_true, if_true]
      rfl
    · simp only [step, State.workerStep, at_pc, is, ne_eq, failed, not_false_eq_true, if_true, pool]
      rw [holdings_cons _ job, holdings_some holds, ← Multiset.singleton_add]
      abel
  | _ => exact absurd receives id

end Steps

/-! ## Contents -/

/-- The bytes of both interfaces. -/
def State.storage (s : State) (i : Iface) : Mem := (s.interfaces i).rxStorage

/-- The job that `rx_main` has received and not yet reported. -/
def WorkerPc.unreported : WorkerPc → Iface → List Job
  | .check i job, j => if i = j then [job] else []
  | .report i job, j => if i = j then [job] else []
  | .recv, _ => []
  | .count .., _ => []
  | .free .., _ => []

/-- The jobs of an interface that are on their way, the oldest first. -/
def State.jobs (s : State) (i : Iface) : List Job :=
  s.worker.unreported i ++ s.rxQueue.filter fun job => ifaceOf job.interfaceId = some i

/-- A call has a frame that fits in a block and has stored what it has copied, and it has found room
    in the queue. -/
def EnqueuePc.Sound (storage : Iface → Mem) : EnqueuePc → Prop
  | .allocate _ frame => frame.length ≤ ethernetMaxFrame
  | .fill i frame block copied =>
    frame.length ≤ ethernetMaxFrame ∧ copied ≤ frame.length ∧
      ((storage i).shift (block * ethernetMaxFrame)).toList copied = frame.take copied
  | .send i frame block =>
    frame.length ≤ ethernetMaxFrame ∧
      ((storage i).shift (block * ethernetMaxFrame)).toList frame.length = frame
  | .full .. => False
  | .free .. => False
  | .empty _ => True
  | .returned => True

/-- What holds in all runs. -/
structure Inv (n : PoolSize) (s : State) : Prop where
  exclusive : Pool.Exclusive (blocks n) (pool s)
  calls : ∀ pc ∈ s.calls, pc.Sound s.storage
  iface : ∀ job ∈ s.rxQueue, ∃ i, ifaceOf job.interfaceId = some i
  length : ∀ i, ∀ job ∈ s.jobs i, job.length.toNat ≤ ethernetMaxFrame
  room : ∀ i, (s.interfaces i).rxQueueFull = 0
  order : ∀ i, ∃ past,
    s.enqueued i = past ++ (s.jobs i).map (·.frame (s.storage i)) ∧ (s.reported i).Sublist past

/-- The oldest jobs may leave and be reported; otherwise the contents stay. -/
structure Consumes (s s' : State) : Prop where
  storage : s'.storage = s.storage
  rxQueue : s'.rxQueue ⊆ s.rxQueue
  room : ∀ i, (s'.interfaces i).rxQueueFull = (s.interfaces i).rxQueueFull
  enqueued : s'.enqueued = s.enqueued
  jobs : ∀ i, ∃ left out, s.jobs i = left ++ s'.jobs i ∧ s'.reported i = s.reported i ++ out ∧
    out.Sublist (left.map (·.frame (s.storage i)))

section Contents
variable {n : PoolSize} {received : Int} {s s' : State}

/-- Nothing leaves. -/
lemma Consumes.of_same (storage : s'.storage = s.storage) (rxQueue : s'.rxQueue = s.rxQueue)
    (unreported : s'.worker.unreported = s.worker.unreported)
    (room : ∀ i, (s'.interfaces i).rxQueueFull = (s.interfaces i).rxQueueFull)
    (enqueued : s'.enqueued = s.enqueued) (reported : s'.reported = s.reported) :
    Consumes s s' where
  storage := storage
  rxQueue := by
    rw [rxQueue]
    exact List.Subset.refl _
  room := room
  enqueued := enqueued
  jobs i := by
    refine ⟨[], [], ?_, ?_, List.Sublist.refl _⟩
    · rw [List.nil_append, State.jobs, State.jobs, rxQueue, unreported]
    · rw [reported, List.append_nil]

/-- The fields that the contents do not depend on. -/
lemma Consumes.of_update (i : Iface) (f : Interface → Interface)
    (storage : ∀ interface, (f interface).rxStorage = interface.rxStorage)
    (room : ∀ interface, (f interface).rxQueueFull = interface.rxQueueFull) :
    Consumes s (s.update i f) := by
  refine .of_same ?_ rfl rfl (fun j => ?_) rfl rfl
  · funext j
    rw [State.storage, State.storage, update_apply]
    split
    · exact storage _
    · rfl
  · rw [update_apply]
    split
    · exact room _
    · rfl

/-- A step of `rx_main` after the report. -/
lemma Consumes.worker (cons : Consumes s s') {pc : WorkerPc}
    (unreported : pc.unreported = s'.worker.unreported) : Consumes s { s' with worker := pc } where
  storage := cons.storage
  rxQueue := cons.rxQueue
  room := cons.room
  enqueued := cons.enqueued
  jobs i := by
    have same : State.jobs { s' with worker := pc } i = s'.jobs i := by
      rw [State.jobs, State.jobs, unreported]
    rw [same]
    exact cons.jobs i

/-- A step that consumes jobs keeps the invariant, as far as the calls and the blocks do. -/
lemma Inv.consumes (inv : Inv n s) (cons : Consumes s s')
    (exclusive : Pool.Exclusive (blocks n) (pool s')) (calls : ∀ pc ∈ s'.calls, pc.Sound s.storage) :
    Inv n s' where
  exclusive := exclusive
  calls pc mem := by
    rw [cons.storage]
    exact calls pc mem
  iface job mem := inv.iface job (cons.rxQueue mem)
  length i job mem := by
    obtain ⟨left, out, jobs, -, -⟩ := cons.jobs i
    exact inv.length i job (by rw [jobs]; exact List.mem_append_right _ mem)
  room i := (cons.room i).trans (inv.room i)
  order i := by
    obtain ⟨left, out, jobs, reported, sub⟩ := cons.jobs i
    obtain ⟨past, enqueued, old⟩ := inv.order i
    refine ⟨past ++ left.map (·.frame (s.storage i)), ?_, ?_⟩
    · rw [cons.enqueued, enqueued, jobs, List.map_append, cons.storage, List.append_assoc]
    · rw [reported]
      exact old.append sub

/-- Every step of `rx_main` consumes jobs. -/
lemma WorkerMove.consumes (move : WorkerMove received s s') : Consumes s s' := by
  cases move with
  | wait _ _ => exact .of_same rfl rfl rfl (fun _ => rfl) rfl rfl
  | @dropped job queue at_pc is _ =>
    refine ⟨rfl, ?_, fun _ => rfl, rfl, fun i => ?_⟩
    · rw [is]
      exact List.subset_cons_self ..
    · refine ⟨[job].filter fun job => ifaceOf job.interfaceId = some i, [], ?_,
        (List.append_nil _).symm, List.nil_sublist _⟩
      simp only [State.jobs, at_pc, is, WorkerPc.unreported, List.nil_append]
      rw [← List.filter_append, List.singleton_append]
  | @received job queue i at_pc is iface =>
    refine ⟨rfl, ?_, fun _ => rfl, rfl, fun j => ?_⟩
    · rw [is]
      exact List.subset_cons_self ..
    · refine ⟨[], [], ?_, (List.append_nil _).symm, List.Sublist.refl _⟩
      simp only [State.jobs, at_pc, is, WorkerPc.unreported, List.nil_append]
      by_cases e : i = j
      · rw [List.filter_cons_of_pos (by simp [iface, e]), if_pos e]
        rfl
      · rw [List.filter_cons_of_neg (by simp [iface, e]), if_neg e]
        rfl
  | up at_pc => exact .of_same rfl rfl (by rw [at_pc]; rfl) (fun _ => rfl) rfl rfl
  | @down i job at_pc =>
    refine ⟨rfl, List.Subset.refl _, fun _ => rfl, rfl, fun j => ?_⟩
    refine ⟨s.worker.unreported j, [], ?_, (List.append_nil _).symm, List.nil_sublist _⟩
    rw [State.jobs]
    rfl
  | @reported i job delivered at_pc =>
    refine ⟨rfl, List.Subset.refl _, fun _ => rfl, rfl, fun j => ?_⟩
    refine ⟨s.worker.unreported j, (s.worker.unreported j).map (·.frame (s.storage j)), ?_, ?_,
      List.Sublist.refl _⟩
    · rw [State.jobs]
      rfl
    · simp only [at_pc, WorkerPc.unreported]
      by_cases e : i = j
      · subst e
        rw [Function.update_self, if_pos rfl]
        rfl
      · rw [Function.update_of_ne (Ne.symm e), if_neg e, List.map_nil, List.append_nil]
  | delivered at_pc =>
    refine Consumes.worker (.of_update _ _ ?_ ?_) ?_
    · exact fun _ => rfl
    · exact fun _ => rfl
    · rw [State.update, at_pc]
      rfl
  | failed at_pc =>
    refine Consumes.worker (.of_update _ _ ?_ ?_) ?_
    · exact fun _ => rfl
    · exact fun _ => rfl
    · rw [State.update, at_pc]
      rfl
  | freed at_pc =>
    refine Consumes.worker (.of_update _ _ ?_ ?_) ?_
    · exact fun _ => rfl
    · exact fun _ => rfl
    · rw [State.update, at_pc]
      rfl

/-- The block of a call is nowhere else. -/
lemma Inv.apart (inv : Inv n s) {k : Nat} {pc : EnqueuePc} {x : Iface × Nat}
    (is : s.calls[k]? = some pc) (holds : pc.holds = some x) :
    x ∉ holdings EnqueuePc.holds (s.calls.eraseIdx k) + (holdings Job.holds s.rxQueue +
      holdings WorkerPc.holds [s.worker]) := by
  have nodup := inv.exclusive.nodup
  rw [held_call is holds] at nodup
  exact (Multiset.nodup_cons.mp nodup).1

/-- A job that is on its way holds its block. -/
lemma mem_of_jobs {i : Iface} {job : Job} (mem : job ∈ s.jobs i) :
    (i, job.block.toNat) ∈ holdings Job.holds s.rxQueue + holdings WorkerPc.holds [s.worker] := by
  rw [Multiset.mem_add, mem_holdings, mem_holdings]
  rcases List.mem_append.mp mem with worker | queue
  · refine .inr ⟨s.worker, List.mem_singleton_self _, ?_⟩
    cases at_pc : s.worker with
    | check j job' =>
      rw [at_pc, WorkerPc.unreported] at worker
      split at worker
      · rename_i e
        rw [WorkerPc.holds, e, List.mem_singleton.mp worker]
      · cases worker
    | report j job' =>
      rw [at_pc, WorkerPc.unreported] at worker
      split at worker
      · rename_i e
        rw [WorkerPc.holds, e, List.mem_singleton.mp worker]
      · cases worker
    | recv | count | free =>
      rw [at_pc] at worker
      cases worker
  · obtain ⟨queued, iface⟩ := List.mem_filter.mp queue
    refine .inl ⟨job, queued, ?_⟩
    rw [Job.holds, of_decide_eq_true iface]
    rfl

/-- One byte of one interface has changed. -/
lemma storage_write (i : Iface) (a : Nat) (byte : UInt8) :
    (s.write i a byte).storage =
      Function.update s.storage i (Function.update (s.storage i) a byte) := by
  funext j
  simp only [State.storage, State.write, update_apply]
  by_cases e : j = i
  · subst e
    rw [if_pos rfl, Function.update_self]
  · rw [if_neg e, Function.update_of_ne e]
    rfl

/-- Writing into one block leaves the others as they are. -/
lemma toList_write {i j : Iface} {block b k len : Nat} {byte : UInt8}
    (apart : (j, b) ≠ (i, block)) (lt : k < ethernetMaxFrame) (le : len ≤ ethernetMaxFrame) :
    (((s.write i (block * ethernetMaxFrame + k) byte).storage j).shift (b * ethernetMaxFrame)).toList
      len = ((s.storage j).shift (b * ethernetMaxFrame)).toList len := by
  rw [storage_write]
  by_cases e : j = i
  · subst e
    rw [Function.update_self]
    have ne : b ≠ block := fun e => apart (by rw [e])
    refine Mem.toList_shift_congr fun l ltl => ?_
    apply Function.update_of_ne
    unfold ethernetMaxFrame at *
    omega
  · rw [Function.update_of_ne e]

/-- A call is not disturbed by a write into another block. -/
lemma EnqueuePc.Sound.write {pc : EnqueuePc} {i : Iface} {block k : Nat} {byte : UInt8}
    (sound : pc.Sound s.storage) (apart : pc.holds ≠ some (i, block)) (lt : k < ethernetMaxFrame) :
    pc.Sound (s.write i (block * ethernetMaxFrame + k) byte).storage := by
  cases pc with
  | allocate j frame => exact sound
  | fill j frame b copied =>
    obtain ⟨fits, le, stored⟩ := sound
    refine ⟨fits, le, ?_⟩
    rw [toList_write (fun e => apart (congrArg some e)) lt (le.trans fits)]
    exact stored
  | send j frame b =>
    obtain ⟨fits, stored⟩ := sound
    refine ⟨fits, ?_⟩
    rw [toList_write (fun e => apart (congrArg some e)) lt fits]
    exact stored
  | full j b => exact sound
  | free j b => exact sound
  | empty j => exact sound
  | returned => exact sound

/-- The calls after a step of one of them. -/
lemma mem_set {k : Nat} {pc pc' pc'' : EnqueuePc} (is : s.calls[k]? = some pc)
    (mem : pc'' ∈ s.calls.set k pc') : pc'' = pc' ∨ pc'' ∈ s.calls.eraseIdx k := by
  obtain ⟨lt, -⟩ := List.getElem?_eq_some_iff.mp is
  exact List.mem_cons.mp ((List.set_perm_cons_eraseIdx lt pc').mem_iff.mp mem)

/-- A step of a call that leaves the contents alone. -/
lemma Inv.call (inv : Inv n s) {k : Nat} {pc pc' : EnqueuePc} (is : s.calls[k]? = some pc)
    (exclusive : Pool.Exclusive (blocks n) (pool { s' with calls := s.calls.set k pc' }))
    (cons : Consumes s s') (sound : pc'.Sound s.storage) :
    Inv n { s' with calls := s.calls.set k pc' } := by
  refine inv.consumes ⟨cons.storage, cons.rxQueue, cons.room, cons.enqueued, cons.jobs⟩ exclusive ?_
  intro pc'' mem
  rcases mem_set is mem with rfl | old
  · exact sound
  · exact inv.calls pc'' (List.mem_of_mem_eraseIdx old)

/-- A call copies a byte into its block. -/
lemma Inv.copied (inv : Inv n s) {k copied block : Nat} {i : Iface} {frame : Frame} {byte : UInt8}
    (is : s.calls[k]? = some (.fill i frame block copied)) (at_copied : frame[copied]? = some byte)
    (exclusive : Pool.Exclusive (blocks n)
      (pool { s.write i (block * ethernetMaxFrame + copied) byte with
        calls := s.calls.set k (.fill i frame block (copied + 1)) })) :
    Inv n { s.write i (block * ethernetMaxFrame + copied) byte with
      calls := s.calls.set k (.fill i frame block (copied + 1)) } := by
  obtain ⟨fits, -, stored⟩ := inv.calls _ (List.mem_of_getElem? is)
  have lt : copied < frame.length := (List.getElem?_eq_some_iff.mp at_copied).1
  have apart := inv.apart is rfl
  constructor
  case exclusive => exact exclusive
  case calls =>
    intro pc mem
    rcases mem_set is mem with rfl | old
    · refine ⟨fits, lt, ?_⟩
      change (Mem.shift ((s.write i (block * ethernetMaxFrame + copied) byte).storage i) _).toList _ =
        _
      rw [storage_write, Function.update_self, Mem.toList_shift_update, stored, List.take_add_one,
        at_copied]
      rfl
    · refine (inv.calls pc (List.mem_of_mem_eraseIdx old)).write (fun holds => ?_)
        (lt.trans_le fits)
      exact apart (Multiset.mem_add.mpr (.inl (mem_holdings.mpr ⟨pc, old, holds⟩)))
  case iface => exact inv.iface
  case length => exact inv.length
  case room =>
    intro j
    simp only [State.write, update_apply]
    split
    · exact inv.room j
    · exact inv.room j
  case order =>
    intro j
    obtain ⟨past, enqueued, sub⟩ := inv.order j
    refine ⟨past, enqueued.trans (congrArg (past ++ ·) ?_), sub⟩
    refine List.map_congr_left fun job mem => ?_
    -- a job on its way has another block
    refine (toList_write (fun e => ?_) (lt.trans_le fits) (inv.length j job mem)).symm
    have other := mem_of_jobs mem
    rw [e] at other
    exact apart (Multiset.mem_add.mpr (.inr other))

/-- A call sends its job. -/
lemma Inv.sent (inv : Inv n s) {k block : Nat} {i : Iface} {frame : Frame}
    (is : s.calls[k]? = some (.send i frame block)) {s' : State}
    (after : s' = { s with
      rxQueue := s.rxQueue ++ [jobOf i frame block]
      enqueued := Function.update s.enqueued i (s.enqueued i ++ [frame])
      calls := s.calls.set k .returned })
    (exclusive : Pool.Exclusive (blocks n) (pool s')) : Inv n s' := by
  obtain ⟨fits, stored⟩ := inv.calls _ (List.mem_of_getElem? is)
  have lt : block < n.val := by
    refine block_lt inv.exclusive (i := i) ?_
    rw [held_call is rfl]
    exact Multiset.mem_cons_self ..
  have le := n.property.2
  have max : ethernetMaxFrame = 1600 := rfl
  have blockIs : (jobOf i frame block).block.toNat = block := by
    rw [jobOf, UInt8.toNat_ofNat', Nat.mod_eq_of_lt (by omega)]
  have lengthIs : (jobOf i frame block).length.toNat = frame.length := by
    rw [jobOf, UInt16.toNat_ofNat', Nat.mod_eq_of_lt (by omega)]
  have jobs : ∀ j, s'.jobs j = s.jobs j ++ if i = j then [jobOf i frame block] else [] := by
    intro j
    subst after
    simp only [State.jobs, List.filter_append, List.append_assoc, jobOf]
    congr 2
    by_cases e : i = j
    · rw [if_pos e, List.filter_cons_of_pos (by simp [ifaceOf_ifaceId, e])]
      rfl
    · rw [if_neg e, List.filter_cons_of_neg (by simp [ifaceOf_ifaceId, e])]
      rfl
  constructor
  case exclusive => exact exclusive
  case calls =>
    intro pc mem
    subst after
    rcases mem_set is mem with rfl | old
    · trivial
    · exact inv.calls pc (List.mem_of_mem_eraseIdx old)
  case iface =>
    intro job mem
    subst after
    rcases List.mem_append.mp mem with old | new
    · exact inv.iface job old
    · rw [List.mem_singleton.mp new]
      exact ⟨i, ifaceOf_ifaceId i⟩
  case length =>
    intro j job mem
    rw [jobs] at mem
    rcases List.mem_append.mp mem with old | new
    · exact inv.length j job old
    · split at new
      · rw [List.mem_singleton.mp new, lengthIs]
        exact fits
      · cases new
  case room =>
    subst after
    exact inv.room
  case order =>
    intro j
    obtain ⟨past, enqueued, sub⟩ := inv.order j
    rw [jobs]
    subst after
    refine ⟨past, ?_, sub⟩
    by_cases e : i = j
    · subst e
      rw [if_pos rfl, List.map_append, ← List.append_assoc]
      change Function.update s.enqueued i _ i =
        past ++ (s.jobs i).map (·.frame (s.storage i)) ++ [(jobOf i frame block).frame (s.storage i)]
      rw [Function.update_self, enqueued, Job.frame, blockIs, lengthIs, stored]
    · rw [if_neg e, List.append_nil]
      change Function.update s.enqueued i _ j = _
      rw [Function.update_of_ne (Ne.symm e)]
      exact enqueued

/-- Every queued job holds a block. -/
lemma Inv.card_queue (inv : Inv n s) : (holdings Job.holds s.rxQueue).card = s.rxQueue.length := by
  refine card_holdings fun job mem => ?_
  obtain ⟨i, iface⟩ := inv.iface job mem
  exact ⟨(i, job.block.toNat), by rw [Job.holds, iface]; rfl⟩

/-- The queue holds no more jobs than there are blocks. -/
lemma Inv.queue_le (inv : Inv n s) : s.rxQueue.length ≤ rxQueueDepth n := by
  have card := inv.exclusive.card_le
  rw [card_blocks, pool, Multiset.card_add, Multiset.card_add, inv.card_queue] at card
  omega

/-- A call that has a block finds room in the queue. -/
lemma Inv.queue_lt (inv : Inv n s) {k block : Nat} {i : Iface} {frame : Frame}
    (is : s.calls[k]? = some (.send i frame block)) : s.rxQueue.length < rxQueueDepth n := by
  have card := inv.exclusive.card_le
  rw [card_blocks, held_call is rfl, Multiset.card_cons, Multiset.card_add, Multiset.card_add,
    inv.card_queue] at card
  omega

/-- A step of a call keeps the invariant, if it keeps the blocks apart. -/
lemma Inv.callMove (inv : Inv n s) {k : Nat} {pc pc' : EnqueuePc} (is : s.calls[k]? = some pc)
    (move : CallMove n s pc s' pc')
    (exclusive : Pool.Exclusive (blocks n) (pool { s' with calls := s.calls.set k pc' })) :
    Inv n { s' with calls := s.calls.set k pc' } := by
  have sound := inv.calls pc (List.mem_of_getElem? is)
  have same : Consumes s s := .of_same rfl rfl rfl (fun _ => rfl) rfl rfl
  cases move with
  | taken lt free =>
    refine inv.call is exclusive (.of_update _ _ ?_ ?_) ⟨sound, Nat.zero_le _, rfl⟩
    · exact fun _ => rfl
    · exact fun _ => rfl
  | exhausted none => exact inv.call is exclusive same trivial
  | counted =>
    refine inv.call is exclusive (.of_update _ _ ?_ ?_) trivial
    · exact fun _ => rfl
    · exact fun _ => rfl
  | copied byte => exact inv.copied is byte exclusive
  | @filled i frame block copied le =>
    obtain ⟨fits, ge, stored⟩ := sound
    have all : copied = frame.length := Nat.le_antisymm ge le
    subst all
    refine inv.call is exclusive same ⟨fits, ?_⟩
    rw [stored, List.take_length]
  | sent room => exact inv.sent is rfl exclusive
  | full le => exact absurd (inv.queue_lt is) (by omega)
  | refused => exact sound.elim
  | freed => exact sound.elim
  | returned => exact inv.call is exclusive same trivial

/-- Every step keeps the invariant. -/
lemma Inv.step (inv : Inv n s) (a : Act) : Inv n (step n received s a) := by
  have exclusive : Pool.Exclusive (blocks n) (pool (Rx.step n received s a)) := by
    by_cases ok : received = rtEok ∨ ¬ Receives s a
    · exact inv.exclusive.step (step_pool a inv.exclusive ok)
    · exact inv.exclusive.leak (step_leak a inv.iface ok)
  have move := step_move n received s a
  generalize Rx.step n received s a = s' at move exclusive
  have same : Consumes s s := .of_same rfl rfl rfl (fun _ => rfl) rfl rfl
  cases move with
  | none _ => exact inv
  | called iface le =>
    refine inv.consumes ⟨same.storage, same.rxQueue, same.room, rfl, same.jobs⟩ exclusive ?_
    intro pc mem
    rcases List.mem_append.mp mem with old | new
    · exact inv.calls pc old
    · rw [List.mem_singleton.mp new]
      exact le
  | call is move => exact inv.callMove is move exclusive
  | worker move =>
    refine inv.consumes move.consumes exclusive ?_
    have calls : s'.calls = s.calls := by cases move <;> rfl
    rw [calls]
    exact inv.calls
  | link =>
    refine inv.consumes (.of_update _ _ ?_ ?_) exclusive inv.calls
    · exact fun _ => rfl
    · exact fun _ => rfl

end Contents

end WlhHpm.Wlan.Rx

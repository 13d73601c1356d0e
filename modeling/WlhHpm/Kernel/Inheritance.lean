import Mathlib.Algebra.Order.BigOperators.Group.Finset
import Mathlib.Data.Fintype.BigOperators
import Mathlib.Logic.Relation
import Mathlib.Order.Bounds.Basic
import WlhHpm.Kernel.Mutex

/-!
# Priority inheritance

A thread has the least of its own priority and of those of its mutexes, and a mutex that of the first
thread that waits for it (`Fair`, `Lists`). Taking a mutex, giving it back and waiting for it keep this.

A change of priority is carried along the chain of the threads that wait for one another. In each
pass one thread is left whose priority is not the one that its mutexes give it (`SettledBut`), and
it becomes more urgent, so the passes end, even if the chain is a circle.
-/

namespace WlhHpm.Kernel
open PrioList Relation

namespace MutexState
variable {n : Nat} {s s' s'' : MutexState n} {t u owner : Fin n} {m k : Nat} {p : Priority}

/-! ## The priority that its mutexes give a thread -/

/-- The priorities that a thread may have. -/
def lent (s : MutexState n) (t : Fin n) : Set Priority :=
  {p | p = (s.threads t).initPriority ∨
    ∃ m ∈ (s.threads t).takenObjectList, p = (s.mutexes m).priority}

/-- The loop over a list finds the least of its priorities and of the one it begins with. -/
lemma foldl_isLeast (f : Nat → Priority) (l : List Nat) (p : Priority) :
    IsLeast {q | q = p ∨ ∃ m ∈ l, q = f m} (l.foldl (fun p m => if p > f m then f m else p) p) := by
  induction l generalizing p with
  | nil => exact ⟨.inl rfl, by rintro q (rfl | ⟨m, mem, -⟩); exacts [le_rfl, nomatch mem]⟩
  | cons x l ih =>
    obtain ⟨mem, low⟩ := ih (if p > f x then f x else p)
    constructor
    · rcases mem with eq | ⟨m, mem, eq⟩
      · rw [List.foldl_cons, eq]
        split_ifs with gt
        · exact .inr ⟨x, List.mem_cons_self, rfl⟩
        · exact .inl rfl
      · exact .inr ⟨m, List.mem_cons_of_mem x mem, eq⟩
    · have first := low (.inl rfl)
      rintro q (rfl | ⟨m, mem, rfl⟩)
      · refine first.trans ?_
        split_ifs with gt
        · exact gt.le
        · exact le_rfl
      · rcases List.mem_cons.mp mem with rfl | mem
        · refine first.trans ?_
          split_ifs with gt
          · exact le_rfl
          · exact not_lt.mp gt
        · exact low (.inr ⟨m, mem, rfl⟩)

/-- `_thread_get_mutex_priority` is the least priority that a thread may have. -/
lemma threadGetMutexPriority_isLeast (s : MutexState n) (t : Fin n) :
    IsLeast (s.lent t) (s.threadGetMutexPriority t) :=
  foldl_isLeast (fun m => (s.mutexes m).priority) _ _

/-- It does not go up if none of the thread's mutexes becomes more urgent. -/
lemma threadGetMutexPriority_mono
    (init : (s'.threads t).initPriority = (s.threads t).initPriority)
    (taken : (s'.threads t).takenObjectList = (s.threads t).takenObjectList)
    (le : ∀ m ∈ (s.threads t).takenObjectList, (s'.mutexes m).priority ≤ (s.mutexes m).priority) :
    s'.threadGetMutexPriority t ≤ s.threadGetMutexPriority t := by
  obtain ⟨mem, -⟩ := s.threadGetMutexPriority_isLeast t
  obtain ⟨-, low⟩ := s'.threadGetMutexPriority_isLeast t
  rcases mem with eq | ⟨m, mem, eq⟩
  · rw [eq, ← init]
    exact low (.inl rfl)
  · rw [eq]
    exact (low (.inr ⟨m, taken ▸ mem, rfl⟩)).trans (le m mem)

/-- It depends only on the thread's own priority and those of its mutexes. -/
lemma threadGetMutexPriority_congr
    (init : (s'.threads t).initPriority = (s.threads t).initPriority)
    (taken : (s'.threads t).takenObjectList = (s.threads t).takenObjectList)
    (priority : ∀ m ∈ (s.threads t).takenObjectList, (s'.mutexes m).priority = (s.mutexes m).priority) :
    s'.threadGetMutexPriority t = s.threadGetMutexPriority t :=
  le_antisymm (threadGetMutexPriority_mono init taken fun m mem => (priority m mem).le)
    (threadGetMutexPriority_mono init.symm taken.symm fun m mem => (priority m (taken ▸ mem)).ge)

/-! ## Who has what, and who waits for what -/

/-- The lists of the threads and those of the mutexes agree. -/
structure Graph (s : MutexState n) : Prop where
  taken : ∀ t m, m ∈ (s.threads t).takenObjectList ↔ (s.mutexes m).owner = some t
  takenNodup : ∀ t, (s.threads t).takenObjectList.Nodup
  waiting : ∀ t m, t ∈ (s.mutexes m).suspendThread ↔ (s.threads t).pendingObject = some m
  nodup : ∀ m, (s.mutexes m).suspendThread.Nodup
  other : ∀ t m, t ∈ (s.mutexes m).suspendThread → (s.mutexes m).owner ≠ some t
  suspended : ∀ t, (s.threads t).suspended = (s.threads t).pendingObject.isSome

/-- No thread waits for a mutex that no thread has. -/
def Owned (s : MutexState n) : Prop :=
  ∀ m, (s.mutexes m).owner = none → (s.mutexes m).suspendThread = []

/-- The lists are in order, and the mutexes have the priority of the first thread. -/
def Lists (s : MutexState n) : Prop :=
  ∀ m, InOrder s.currPrio (s.mutexes m).suspendThread ∧
    (s.mutexes m).priority = frontPrio s.currPrio maximalPriority (s.mutexes m).suspendThread

/-- A priority comes from a thread that waits, directly or through others. -/
def Origin (s : MutexState n) (t : Fin n) (p : Priority) : Prop :=
  ∃ u, ReflTransGen s.Waits u t ∧ (s.threads u).initPriority = p

/-- A thread has the priority that its mutexes give it. -/
def Fair (s : MutexState n) (t : Fin n) : Prop :=
  s.currPrio t = s.threadGetMutexPriority t ∧ s.Origin t (s.currPrio t)

/-- All threads but one have the priority that their mutexes give them. -/
structure SettledBut (s : MutexState n) (t : Fin n) : Prop where
  lists : s.Lists
  fair : ∀ u, u ≠ t → s.Fair u

structure Settled (s : MutexState n) : Prop where
  lists : s.Lists
  fair : ∀ t, s.Fair t

/-- `s'` differs from `s` in priorities and in the order of the lists. -/
structure Reprio (s s' : MutexState n) : Prop where
  owner : ∀ m, (s'.mutexes m).owner = (s.mutexes m).owner
  hold : ∀ m, (s'.mutexes m).hold = (s.mutexes m).hold
  perm : ∀ m, (s'.mutexes m).suspendThread.Perm (s.mutexes m).suspendThread
  thread : ∀ t, s'.threads t = { s.threads t with currentPriority := (s'.threads t).currentPriority }
  waitsIn : s'.waitsIn = s.waitsIn
  fault : s'.fault = s.fault
  log : s'.log = s.log

/-- Two changes of priorities are one. -/
lemma Reprio.trans (re : Reprio s s') (re' : Reprio s' s'') : Reprio s s'' where
  owner m := (re'.owner m).trans (re.owner m)
  hold m := (re'.hold m).trans (re.hold m)
  perm m := (re'.perm m).trans (re.perm m)
  thread t := by
    rw [re'.thread t, re.thread t]
  waitsIn := re'.waitsIn.trans re.waitsIn
  fault := re'.fault.trans re.fault
  log := re'.log.trans re.log

/-- A change of priorities leaves the threads their own ones. -/
lemma Reprio.init (re : Reprio s s') (t : Fin n) :
    (s'.threads t).initPriority = (s.threads t).initPriority := by
  rw [re.thread t]

/-- It leaves each thread its mutexes. -/
lemma Reprio.takenObjectList (re : Reprio s s') (t : Fin n) :
    (s'.threads t).takenObjectList = (s.threads t).takenObjectList := by
  rw [re.thread t]

/-- It leaves each thread what it waits for. -/
lemma Reprio.pendingObject (re : Reprio s s') (t : Fin n) :
    (s'.threads t).pendingObject = (s.threads t).pendingObject := by
  rw [re.thread t]

/-- No thread is suspended or resumed by it. -/
lemma Reprio.suspended (re : Reprio s s') (t : Fin n) :
    (s'.threads t).suspended = (s.threads t).suspended := by
  rw [re.thread t]

/-- The lists go on agreeing. -/
lemma Reprio.graph (re : Reprio s s') (graph : s.Graph) : s'.Graph where
  taken t m := by
    rw [re.takenObjectList, re.owner]
    exact graph.taken t m
  takenNodup t := by
    rw [re.takenObjectList]
    exact graph.takenNodup t
  waiting t m := by
    rw [(re.perm m).mem_iff, re.pendingObject]
    exact graph.waiting t m
  nodup m := (re.perm m).nodup_iff.mpr (graph.nodup m)
  other t m mem := by
    rw [re.owner]
    exact graph.other t m ((re.perm m).mem_iff.mp mem)
  suspended t := by
    rw [re.suspended, re.pendingObject]
    exact graph.suspended t

/-- What a thread waits for goes on having an owner. -/
lemma Reprio.owned (re : Reprio s s') (owned : s.Owned) : s'.Owned := by
  intro m none
  rw [re.owner] at none
  exact ((re.perm m).trans (.of_eq (owned m none))).eq_nil

/-- The same threads wait for each other. -/
lemma Reprio.waits (re : Reprio s s') : s'.Waits = s.Waits := by
  funext t u
  refine propext (exists_congr fun m => ?_)
  rw [(re.perm m).mem_iff, re.owner]

/-- Priorities come from the same threads. -/
lemma Reprio.origin (re : Reprio s s') : s'.Origin t p ↔ s.Origin t p := by
  rw [Origin, Origin, re.waits]
  exact exists_congr fun u => by rw [re.init]

/-- Setting one thread's priority changes nothing else. -/
lemma reprio_changePriority (s : MutexState n) (t : Fin n) (p : Priority) :
    Reprio s (s.changePriority t p) where
  owner _ := rfl
  hold _ := rfl
  perm _ := List.Perm.refl _
  thread u := by
    by_cases is : u = t
    · subst is
      simp [changePriority, setThread]
    · simp [changePriority, setThread, is]
  waitsIn := rfl
  fault := rfl
  log := rfl

/-- The current priorities after one has been set. -/
lemma currPrio_changePriority (s : MutexState n) (t : Fin n) (p : Priority) :
    (s.changePriority t p).currPrio = Function.update s.currPrio t p := by
  funext u
  by_cases is : u = t
  · subst is
    simp [currPrio, changePriority, setThread]
  · simp [currPrio, changePriority, setThread, is]

/-- The mutexes after a thread has been put in its new place. -/
lemma requeue_mutexes (s : MutexState n) (m : Nat) (t : Fin n) :
    (s.requeue m t).mutexes = Function.update s.mutexes m { s.mutexes m with
      suspendThread := insertPrio s.currPrio t ((s.mutexes m).suspendThread.erase t)
      priority := frontPrio s.currPrio maximalPriority
        (insertPrio s.currPrio t ((s.mutexes m).suspendThread.erase t)) } := by
  funext k
  by_cases is : k = m
  · subst is
    simp [requeue, mutexUpdatePriority, enqueue, dequeue]
  · simp [requeue, mutexUpdatePriority, enqueue, dequeue, is]

/-- Putting a waiting thread in its new place changes priorities and the order only. -/
lemma reprio_requeue (mem : t ∈ (s.mutexes m).suspendThread) : Reprio s (s.requeue m t) := by
  have perm := again_perm s.currPrio mem
  refine ⟨fun k => ?_, fun k => ?_, fun k => ?_, fun _ => rfl, rfl, rfl, rfl⟩
  all_goals
    rw [requeue_mutexes]
    by_cases is : k = m
    · subst is
      simp [perm]
    · simp [is]

/-! ## A change of priority is carried on -/

/-- A priority that a thread has from its mutexes has its origin in a thread that waits. -/
lemma Graph.origin (graph : s.Graph) (settled : s.SettledBut t) :
    s.Origin t (s.threadGetMutexPriority t) := by
  obtain ⟨mem, low⟩ := s.threadGetMutexPriority_isLeast t
  by_cases own : s.threadGetMutexPriority t = (s.threads t).initPriority
  · exact ⟨t, .refl, own.symm⟩
  obtain eq | ⟨m, taken, eq⟩ := mem
  · exact absurd eq own
  by_cases none : (s.mutexes m).suspendThread = []
  · have top := (settled.lists m).2
    rw [none, frontPrio, ← eq] at top
    have le := low (.inl rfl)
    rw [top] at le own
    exact absurd (le_antisymm le (Fin.le_last _)) own
  · obtain ⟨u, mem, front⟩ := frontPrio_mem s.currPrio maximalPriority none
    have waits : s.Waits u t := ⟨m, mem, (graph.taken t m).mp taken⟩
    have other : u ≠ t := by
      rintro rfl
      exact graph.other u m mem ((graph.taken u m).mp taken)
    obtain ⟨v, path, init⟩ := (settled.fair u other).2
    refine ⟨v, path.tail waits, ?_⟩
    rw [init, ← front, ← (settled.lists m).2, eq]

/-- The last thread has its priority, too. -/
lemma SettledBut.settled (settled : s.SettledBut t) (graph : s.Graph)
    (curr : s.currPrio t = s.threadGetMutexPriority t) : s.Settled where
  lists := settled.lists
  fair u := by
    by_cases is : u = t
    · subst is
      exact ⟨curr, curr ▸ graph.origin settled⟩
    · exact settled.fair u is

/-- What its mutexes give a thread does not depend on current priorities. -/
lemma threadGetMutexPriority_changePriority (s : MutexState n) (t u : Fin n) (p : Priority) :
    (s.changePriority t p).threadGetMutexPriority u = s.threadGetMutexPriority u :=
  threadGetMutexPriority_congr ((reprio_changePriority s t p).init u)
    ((reprio_changePriority s t p).takenObjectList u) fun _ _ => rfl

/-- The priority of a thread that does not wait matters to no other. -/
lemma SettledBut.changePriority (settled : s.SettledBut t) (graph : s.Graph)
    (free : (s.threads t).pendingObject = none) (p : Priority) : (s.changePriority t p).SettledBut t where
  lists k := by
    have out : ∀ x ∈ (s.mutexes k).suspendThread, (s.changePriority t p).currPrio x = s.currPrio x := by
      intro x mem
      rw [currPrio_changePriority, Function.update_of_ne]
      rintro rfl
      cases free.symm.trans ((graph.waiting x k).mp mem)
    refine ⟨(settled.lists k).1.congr out, ?_⟩
    exact (settled.lists k).2.trans (frontPrio_congr out).symm
  fair u ne := by
    rw [Fair, threadGetMutexPriority_changePriority, (reprio_changePriority s t p).origin,
      currPrio_changePriority, Function.update_of_ne ne]
    exact settled.fair u ne

/-- What one pass leaves. -/
lemma SettledBut.requeue (settled : s.SettledBut t) (graph : s.Graph)
    (le : s.threadGetMutexPriority t ≤ s.currPrio t)
    (mem : t ∈ (s.mutexes m).suspendThread) (own : (s.mutexes m).owner = some u) :
    ((s.changePriority t (s.threadGetMutexPriority t)).requeue m t).SettledBut u ∧
      ((s.changePriority t (s.threadGetMutexPriority t)).requeue m t).threadGetMutexPriority u ≤
        s.threadGetMutexPriority u := by
  generalize eq : s.threadGetMutexPriority t = p at le ⊢
  have re : Reprio s ((s.changePriority t p).requeue m t) :=
    (reprio_changePriority s t p).trans (reprio_requeue mem)
  have curr : ((s.changePriority t p).requeue m t).currPrio = Function.update s.currPrio t p :=
    currPrio_changePriority s t p
  have mutexes := requeue_mutexes (s.changePriority t p) m t
  rw [currPrio_changePriority] at mutexes
  generalize (s.changePriority t p).requeue m t = s' at re curr mutexes ⊢
  have others : ∀ x, x ≠ t → s'.currPrio x = s.currPrio x := by
    intro x ne
    rw [curr, Function.update_of_ne ne]
  have elsewhere : ∀ k, k ≠ m → s'.mutexes k = s.mutexes k := by
    intro k ne
    rw [mutexes, Function.update_of_ne ne]
    rfl
  have urgent : s'.currPrio t ≤ s.currPrio t := by
    rw [curr, Function.update_self]
    exact le
  have here : (s'.mutexes m).suspendThread =
        insertPrio s'.currPrio t ((s.mutexes m).suspendThread.erase t) ∧
      (s'.mutexes m).priority = frontPrio s'.currPrio maximalPriority (s'.mutexes m).suspendThread := by
    rw [mutexes, Function.update_self, curr]
    exact ⟨rfl, rfl⟩
  have lists : s'.Lists := by
    intro k
    by_cases is : k = m
    · subst is
      refine ⟨?_, here.2⟩
      rw [here.1]
      exact (settled.lists k).1.again (graph.nodup k) others
    · have out : ∀ x ∈ (s.mutexes k).suspendThread, s'.currPrio x = s.currPrio x := by
        intro x mem'
        refine others x ?_
        rintro rfl
        exact is (Option.some.inj (((graph.waiting x k).mp mem').symm.trans
          ((graph.waiting x m).mp mem)))
      rw [elsewhere k is]
      refine ⟨(settled.lists k).1.congr out, ?_⟩
      rw [(settled.lists k).2]
      exact (frontPrio_congr out).symm
  have lower : (s'.mutexes m).priority ≤ (s.mutexes m).priority := by
    rw [here.2, here.1, (settled.lists m).2]
    exact (settled.lists m).1.front_again (graph.nodup m) mem others urgent
  have keeps : ∀ x, x ≠ u → s'.threadGetMutexPriority x = s.threadGetMutexPriority x := by
    intro x ne
    refine threadGetMutexPriority_congr (re.init x) (re.takenObjectList x) fun k taken => ?_
    rw [elsewhere]
    rintro rfl
    exact ne (Option.some.inj (((graph.taken x k).mp taken).symm.trans own))
  refine ⟨⟨lists, fun x ne => ?_⟩, ?_⟩
  · by_cases is : x = t
    · subst is
      have now : s'.currPrio x = s.threadGetMutexPriority x := by
        rw [curr, Function.update_self, eq]
      rw [Fair, keeps x ne, re.origin, now]
      exact ⟨rfl, graph.origin settled⟩
    · rw [Fair, keeps x ne, re.origin, others x is]
      exact settled.fair x is
  · refine threadGetMutexPriority_mono (re.init u) (re.takenObjectList u) fun k _ => ?_
    by_cases is : k = m
    · rw [is]
      exact lower
    · rw [elsewhere k is]

/-- The sum of the priorities, which each pass makes less. -/
def total (s : MutexState n) : Nat := ∑ t, (s.currPrio t : Nat)

/-- The sum of the priorities is bounded. -/
lemma total_le (s : MutexState n) : s.total ≤ 255 * n := by
  have each : ∀ t ∈ Finset.univ, (s.currPrio t : Nat) ≤ 255 := fun t _ => by omega
  refine (Finset.sum_le_card_nsmul _ _ 255 each).trans ?_
  rw [Finset.card_univ, Fintype.card_fin, smul_eq_mul, Nat.mul_comm]

/-- A thread that becomes more urgent makes the sum less. -/
lemma total_changePriority (lt : p < s.currPrio t) : (s.changePriority t p).total < s.total := by
  rw [total, total, currPrio_changePriority]
  refine Finset.sum_lt_sum (fun u _ => ?_) ⟨t, Finset.mem_univ t, ?_⟩
  · by_cases is : u = t
    · subst is
      rw [Function.update_self]
      exact lt.le
    · rw [Function.update_of_ne is]
  · rw [Function.update_self]
    exact lt

/-- The passes end with all threads settled. -/
lemma SettledBut.updateLoop (fuel : Nat) (settled : s.SettledBut t) (graph : s.Graph) (owned : s.Owned)
    (lt : s.threadGetMutexPriority t < s.currPrio t)
    (enough : (s.changePriority t (s.threadGetMutexPriority t)).total < fuel) :
    Reprio s (updateLoop fuel (s.changePriority t (s.threadGetMutexPriority t)) t) ∧
      (updateLoop fuel (s.changePriority t (s.threadGetMutexPriority t)) t).Settled := by
  induction fuel generalizing s t with
  | zero => exact absurd enough (Nat.not_lt_zero _)
  | succ fuel ih =>
    have changed := reprio_changePriority s t (s.threadGetMutexPriority t)
    have waits : ((s.changePriority t (s.threadGetMutexPriority t)).threads t).suspended =
        (s.threads t).pendingObject.isSome := (changed.suspended t).trans (graph.suspended t)
    rw [MutexState.updateLoop, changed.pendingObject, waits]
    cases pending : (s.threads t).pendingObject with
    | none =>
      refine ⟨changed, (settled.changePriority graph pending _).settled (changed.graph graph) ?_⟩
      rw [currPrio_changePriority, Function.update_self, threadGetMutexPriority_changePriority]
    | some m =>
      have mem := (graph.waiting t m).mpr pending
      obtain ⟨u, own⟩ := Option.ne_none_iff_exists'.mp fun none => List.ne_nil_of_mem mem (owned m none)
      have ne : u ≠ t := fun is => graph.other t m mem (is ▸ own)
      obtain ⟨rest, le⟩ := settled.requeue graph lt.le mem own
      have re := changed.trans (reprio_requeue mem)
      have same : ((s.changePriority t (s.threadGetMutexPriority t)).requeue m t).currPrio u =
          s.threadGetMutexPriority u := by
        rw [← (settled.fair u ne).1]
        exact congrFun (currPrio_changePriority s t _) u |>.trans (Function.update_of_ne ne ..)
      have less : ((s.changePriority t (s.threadGetMutexPriority t)).requeue m t).total =
          (s.changePriority t (s.threadGetMutexPriority t)).total := rfl
      have own' := (re.owner m).trans own
      simp only [Option.isSome_some, if_true]
      generalize (s.changePriority t (s.threadGetMutexPriority t)).requeue m t = s₂ at *
      simp only [own']
      split_ifs with ends
      · have lt₂ : s₂.threadGetMutexPriority u < s₂.currPrio u := by
          refine lt_of_le_of_ne ?_ ends
          rw [same]
          exact le
        obtain ⟨re', settled'⟩ := ih rest (re.graph graph) (re.owned owned) lt₂
          (lt_of_lt_of_le (total_changePriority lt₂) (by omega))
        exact ⟨re.trans re', settled'⟩
      · exact ⟨re, rest.settled (re.graph graph) (not_not.mp ends).symm⟩

/-- C `_thread_update_priority` settles all threads, if one of them should become more urgent. -/
lemma SettledBut.threadUpdatePriority (settled : s.SettledBut t) (graph : s.Graph) (owned : s.Owned)
    (eq : s.threadGetMutexPriority t = p) (lt : p < s.currPrio t) :
    Reprio s (s.threadUpdatePriority t p) ∧ (s.threadUpdatePriority t p).Settled := by
  subst eq
  refine settled.updateLoop (256 * n) graph owned lt ((total_changePriority lt).trans_le ?_)
  have le := s.total_le
  omega

/-! ## The calls keep the threads settled -/

/-- `s'` differs from `s` in what matters to no priority. -/
structure Alike (s s' : MutexState n) : Prop where
  thread : ∀ t, s'.threads t = { s.threads t with error := (s'.threads t).error }
  mutex : ∀ m, s'.mutexes m = { s.mutexes m with hold := (s'.mutexes m).hold }

/-- A call that returns matters to no priority. -/
lemma alike_returns (s : MutexState n) (t : Fin n) (m : Nat) (call : MutexCall) (result : Int) :
    Alike s (s.returns t m call result) :=
  ⟨fun _ => rfl, fun _ => rfl⟩

/-- The error of a thread matters to no priority. -/
lemma alike_error (s : MutexState n) (t : Fin n) (error : Int) :
    Alike s (s.setThread t { s.threads t with error := error }) where
  thread u := by
    by_cases is : u = t
    · subst is
      simp
    · simp [is]
  mutex _ := rfl

/-- How often a mutex is held matters to no priority. -/
lemma alike_hold (s : MutexState n) (m : Nat) (hold : UInt8) :
    Alike s (s.setMutex m { s.mutexes m with hold := hold }) where
  thread _ := rfl
  mutex k := by
    by_cases is : k = m
    · subst is
      simp
    · simp [is]

/-- Two such changes are one. -/
lemma Alike.trans (alike : Alike s s') (alike' : Alike s' s'') : Alike s s'' where
  thread t := by
    rw [alike'.thread t, alike.thread t]
  mutex m := by
    rw [alike'.mutex m, alike.mutex m]

/-- The lists go on agreeing. -/
lemma Alike.graph (alike : Alike s s') (graph : s.Graph) : s'.Graph where
  taken t m := by
    rw [alike.thread t, alike.mutex m]
    exact graph.taken t m
  takenNodup t := by
    rw [alike.thread t]
    exact graph.takenNodup t
  waiting t m := by
    rw [alike.thread t, alike.mutex m]
    exact graph.waiting t m
  nodup m := by
    rw [alike.mutex m]
    exact graph.nodup m
  other t m := by
    rw [alike.mutex m]
    exact graph.other t m
  suspended t := by
    rw [alike.thread t]
    exact graph.suspended t

/-- What a thread waits for goes on having an owner. -/
lemma Alike.owned (alike : Alike s s') (owned : s.Owned) : s'.Owned := by
  intro m
  rw [alike.mutex m]
  exact owned m

/-- All threads keep the priority that their mutexes give them. -/
lemma Alike.settled (alike : Alike s s') (settled : s.Settled) : s'.Settled := by
  have curr : s'.currPrio = s.currPrio := by
    funext t
    rw [currPrio, alike.thread t]
    rfl
  have waits : s'.Waits = s.Waits := by
    funext t u
    refine propext (exists_congr fun m => ?_)
    rw [alike.mutex m]
  refine ⟨fun m => ?_, fun t => ?_⟩
  · rw [curr, alike.mutex m]
    exact settled.lists m
  · have same : s'.threadGetMutexPriority t = s.threadGetMutexPriority t :=
      threadGetMutexPriority_congr (by rw [alike.thread t]) (by rw [alike.thread t])
        fun m _ => by rw [alike.mutex m]
    obtain ⟨eq, u, path, init⟩ := settled.fair t
    refine ⟨?_, u, waits ▸ path, ?_⟩
    · rw [curr, same]
      exact eq
    · rw [curr, alike.thread u]
      exact init

/-- A mutex that is taken lends nothing that the thread does not have. -/
lemma threadGetMutexPriority_cons
    (init : (s'.threads t).initPriority = (s.threads t).initPriority)
    (taken : (s'.threads t).takenObjectList = m :: (s.threads t).takenObjectList)
    (priority : ∀ k ∈ (s.threads t).takenObjectList, (s'.mutexes k).priority = (s.mutexes k).priority)
    (le : s.threadGetMutexPriority t ≤ (s'.mutexes m).priority) :
    s'.threadGetMutexPriority t = s.threadGetMutexPriority t := by
  obtain ⟨mem, low⟩ := s.threadGetMutexPriority_isLeast t
  refine (s'.threadGetMutexPriority_isLeast t).unique ⟨?_, ?_⟩
  · rcases mem with eq | ⟨k, mem, eq⟩
    · exact .inl (eq.trans init.symm)
    · exact .inr ⟨k, taken ▸ List.mem_cons_of_mem m mem, eq.trans (priority k mem).symm⟩
  · rintro q (rfl | ⟨k, mem', rfl⟩)
    · rw [init]
      exact low (.inl rfl)
    · rw [taken] at mem'
      rcases List.mem_cons.mp mem' with rfl | mem'
      · exact le
      · rw [priority k mem']
        exact low (.inr ⟨k, mem', rfl⟩)

/-- A mutex that no thread has is given to one that waits for it first, or to one that does not wait. -/
def give (s : MutexState n) (t : Fin n) (m : Nat) : MutexState n :=
  let rest := (s.mutexes m).suspendThread.tail
  let s := s.setMutex m { s.mutexes m with
    owner := some t
    suspendThread := rest
    priority := frontPrio s.currPrio maximalPriority rest }
  s.setThread t { s.threads t with
    suspended := false
    takenObjectList := m :: (s.threads t).takenObjectList
    pendingObject := none }

/-- The thread is the first to wait, or no thread waits. -/
def Next (s : MutexState n) (t : Fin n) (m : Nat) : Prop :=
  (s.mutexes m).suspendThread = [] ∧ (s.threads t).pendingObject = none ∨
    ∃ rest, (s.mutexes m).suspendThread = t :: rest

/-- The mutexes after one has been given to a thread. -/
lemma give_mutexes (s : MutexState n) (t : Fin n) (m : Nat) :
    (s.give t m).mutexes = Function.update s.mutexes m { s.mutexes m with
      owner := some t
      suspendThread := (s.mutexes m).suspendThread.tail
      priority := frontPrio s.currPrio maximalPriority (s.mutexes m).suspendThread.tail } :=
  rfl

/-- The threads after one has been given a mutex. -/
lemma give_threads (s : MutexState n) (t : Fin n) (m : Nat) :
    (s.give t m).threads = Function.update s.threads t { s.threads t with
      suspended := false
      takenObjectList := m :: (s.threads t).takenObjectList
      pendingObject := none } :=
  rfl

/-- Giving a mutex away sets no current priority. -/
lemma currPrio_give (s : MutexState n) (t : Fin n) (m : Nat) : (s.give t m).currPrio = s.currPrio := by
  funext u
  by_cases is : u = t
  · subst is
    simp [currPrio, give_threads]
  · simp [currPrio, give_threads, is]

/-- It sets no thread's own priority either. -/
lemma init_give (s : MutexState n) (t u : Fin n) (m : Nat) :
    ((s.give t m).threads u).initPriority = (s.threads u).initPriority := by
  by_cases is : u = t
  · subst is
    simp [give_threads]
  · simp [give_threads, is]

/-- Those that wait after the next thread has left. -/
lemma Next.tail (next : s.Next t m) (graph : s.Graph) :
    u ∈ (s.mutexes m).suspendThread.tail ↔ u ∈ (s.mutexes m).suspendThread ∧ u ≠ t := by
  rcases next with ⟨empty, -⟩ | ⟨rest, eq⟩
  · simp [empty]
  · have nodup := graph.nodup m
    rw [eq] at nodup ⊢
    rw [List.tail_cons, List.mem_cons]
    constructor
    · exact fun mem => ⟨.inr mem, fun is => (List.nodup_cons.mp nodup).1 (is ▸ mem)⟩
    · rintro ⟨rfl | mem, ne⟩
      · exact absurd rfl ne
      · exact mem

/-- The thread waits for no other mutex. -/
lemma Next.only (next : s.Next t m) (graph : s.Graph) (ne : k ≠ m) :
    t ∉ (s.mutexes k).suspendThread := by
  intro mem
  have pending := (graph.waiting t k).mp mem
  rcases next with ⟨-, none⟩ | ⟨rest, eq⟩
  · cases none.symm.trans pending
  · have mem' : t ∈ (s.mutexes m).suspendThread := eq ▸ List.mem_cons_self
    exact ne (Option.some.inj (pending.symm.trans ((graph.waiting t m).mp mem')))

/-- The lists agree after a mutex has been given to the next thread. -/
lemma Graph.give (graph : s.Graph) (free : (s.mutexes m).owner = none) (next : s.Next t m) :
    (s.give t m).Graph := by
  have fresh : ∀ u, m ∉ (s.threads u).takenObjectList := by
    intro u mem
    cases free.symm.trans ((graph.taken u m).mp mem)
  constructor
  case taken =>
    intro u k
    have before := graph.taken u k
    by_cases is : k = m
    · subst is
      by_cases own : u = t
      · simp [give_threads, give_mutexes, own]
      · simp [give_threads, give_mutexes, own, fresh, Ne.symm own]
    · by_cases own : u = t
      · subst own
        simp [give_threads, give_mutexes, is, before]
      · simp [give_threads, give_mutexes, is, own, before]
  case takenNodup =>
    intro u
    by_cases own : u = t
    · subst own
      simp [give_threads, fresh, graph.takenNodup]
    · simp [give_threads, own, graph.takenNodup]
  case waiting =>
    intro u k
    have before := graph.waiting u k
    by_cases is : k = m
    · subst is
      by_cases own : u = t
      · simp [give_threads, give_mutexes, own, next.tail graph]
      · simp [give_threads, give_mutexes, own, next.tail graph, before]
    · by_cases own : u = t
      · subst own
        simp [give_threads, give_mutexes, is, next.only graph is]
      · simp [give_threads, give_mutexes, is, own, before]
  case nodup =>
    intro k
    by_cases is : k = m
    · subst is
      simp [give_mutexes, (graph.nodup k).sublist (List.tail_sublist _)]
    · simp [give_mutexes, is, graph.nodup]
  case other =>
    intro u k mem
    by_cases is : k = m
    · subst is
      rw [give_mutexes, Function.update_self] at mem ⊢
      exact fun own => ((next.tail graph).mp mem).2 (Option.some.inj own).symm
    · rw [give_mutexes, Function.update_of_ne is] at mem ⊢
      exact graph.other u k mem
  case suspended =>
    intro u
    by_cases own : u = t
    · simp [give_threads, own]
    · simp [give_threads, own, graph.suspended]

/-- The next thread is served without a change of priorities. -/
lemma Settled.give (settled : s.Settled) (graph : s.Graph) (free : (s.mutexes m).owner = none)
    (next : s.Next t m) : (s.give t m).Settled := by
  have lists : (s.give t m).Lists := by
    intro k
    rw [currPrio_give]
    by_cases is : k = m
    · subst is
      rw [give_mutexes, Function.update_self]
      exact ⟨(settled.lists k).1.sublist (List.tail_sublist _), rfl⟩
    · rw [give_mutexes, Function.update_of_ne is]
      exact settled.lists k
  have elsewhere : ∀ u, ∀ k ∈ (s.threads u).takenObjectList,
      (s.give t m).mutexes k = s.mutexes k := by
    intro u k mem
    rw [give_mutexes, Function.update_of_ne]
    rintro rfl
    cases free.symm.trans ((graph.taken u k).mp mem)
  have less : s.threadGetMutexPriority t ≤ ((s.give t m).mutexes m).priority := by
    rw [← (settled.fair t).1, give_mutexes, Function.update_self]
    rcases next with ⟨empty, -⟩ | ⟨rest, eq⟩
    · rw [empty]
      exact Fin.le_last _
    · have order := (settled.lists m).1
      rw [eq] at order ⊢
      exact order.front_rest (Fin.le_last _)
  have same : ∀ u, (s.give t m).threadGetMutexPriority u = s.threadGetMutexPriority u := by
    intro u
    by_cases own : u = t
    · subst own
      refine threadGetMutexPriority_cons (init_give s u u m) ?_ (fun k mem => ?_) less
      · rw [give_threads, Function.update_self]
      · rw [elsewhere u k mem]
    · refine threadGetMutexPriority_congr (init_give s t u m) ?_ fun k mem => ?_
      · rw [give_threads, Function.update_of_ne own]
      · rw [elsewhere u k mem]
  have waits : ∀ u v, s.Waits u v → (s.give t m).Waits u v := by
    rintro u v ⟨k, mem, own⟩
    have kept := elsewhere v k ((graph.taken v k).mpr own)
    exact ⟨k, kept ▸ mem, kept ▸ own⟩
  refine ⟨lists, fun u => ?_⟩
  obtain ⟨eq, v, path, init⟩ := settled.fair u
  rw [Fair, currPrio_give, same]
  exact ⟨eq, v, ReflTransGen.mono waits v u path, (init_give s t v m).trans init⟩

/-- A thread gives a mutex back. -/
def drop (s : MutexState n) (t : Fin n) (m : Nat) : MutexState n :=
  (s.setThread t { s.threads t with takenObjectList := (s.threads t).takenObjectList.erase m }).setMutex m
    { s.mutexes m with owner := none }

/-- The mutexes after one has been given back. -/
lemma drop_mutexes (s : MutexState n) (t : Fin n) (m : Nat) :
    (s.drop t m).mutexes = Function.update s.mutexes m { s.mutexes m with owner := none } :=
  rfl

/-- The threads after one has given a mutex back. -/
lemma drop_threads (s : MutexState n) (t : Fin n) (m : Nat) :
    (s.drop t m).threads = Function.update s.threads t
      { s.threads t with takenObjectList := (s.threads t).takenObjectList.erase m } :=
  rfl

/-- Giving a mutex back sets no current priority. -/
lemma currPrio_drop (s : MutexState n) (t : Fin n) (m : Nat) : (s.drop t m).currPrio = s.currPrio := by
  funext u
  by_cases is : u = t
  · subst is
    simp [currPrio, drop_threads]
  · simp [currPrio, drop_threads, is]

/-- It leaves the lists of the mutexes and their priorities alone. -/
lemma list_drop (s : MutexState n) (t : Fin n) (m k : Nat) :
    ((s.drop t m).mutexes k).suspendThread = (s.mutexes k).suspendThread ∧
      ((s.drop t m).mutexes k).priority = (s.mutexes k).priority := by
  by_cases is : k = m
  · subst is
    simp [drop_mutexes]
  · simp [drop_mutexes, is]

/-- It leaves a thread everything but the mutex. -/
lemma thread_drop (s : MutexState n) (t u : Fin n) (m : Nat) :
    ((s.drop t m).threads u).initPriority = (s.threads u).initPriority ∧
      ((s.drop t m).threads u).pendingObject = (s.threads u).pendingObject ∧
      ((s.drop t m).threads u).suspended = (s.threads u).suspended := by
  by_cases is : u = t
  · subst is
    simp [drop_threads]
  · simp [drop_threads, is]

/-- The lists agree after a mutex has been given back. -/
lemma Graph.drop (graph : s.Graph) (own : (s.mutexes m).owner = some t) : (s.drop t m).Graph := by
  constructor
  case taken =>
    intro u k
    have before := graph.taken u k
    by_cases is : k = m
    · subst is
      by_cases same : u = t
      · subst same
        simp [drop_threads, drop_mutexes, (graph.takenNodup u).mem_erase_iff]
      · simp [drop_threads, drop_mutexes, same, before, own, Ne.symm same]
    · by_cases same : u = t
      · subst same
        simp [drop_threads, drop_mutexes, is, (graph.takenNodup u).mem_erase_iff, before]
      · simp [drop_threads, drop_mutexes, same, is, before]
  case takenNodup =>
    intro u
    by_cases same : u = t
    · subst same
      simp [drop_threads, (graph.takenNodup u).erase m]
    · simp [drop_threads, same, graph.takenNodup]
  case waiting =>
    intro u k
    rw [(list_drop s t m k).1, (thread_drop s t u m).2.1]
    exact graph.waiting u k
  case nodup =>
    intro k
    rw [(list_drop s t m k).1]
    exact graph.nodup k
  case other =>
    intro u k mem
    rw [(list_drop s t m k).1] at mem
    by_cases is : k = m
    · simp [drop_mutexes, is]
    · rw [drop_mutexes, Function.update_of_ne is]
      exact graph.other u k mem
  case suspended =>
    intro u
    rw [(thread_drop s t u m).2.1, (thread_drop s t u m).2.2]
    exact graph.suspended u

/-- Only the thread that has given the mutex back may now be too urgent. -/
lemma Settled.drop (settled : s.Settled) (graph : s.Graph) (own : (s.mutexes m).owner = some t)
    (free : (s.threads t).pendingObject = none) : (s.drop t m).SettledBut t := by
  -- the thread does not wait, so no chain of threads leads through it
  have waits : ∀ u v, v ≠ t → s.Waits u v → (s.drop t m).Waits u v := by
    rintro u v ne ⟨k, mem, has⟩
    refine ⟨k, (list_drop s t m k).1 ▸ mem, ?_⟩
    rw [drop_mutexes, Function.update_of_ne]
    · exact has
    · rintro rfl
      exact ne (Option.some.inj (has.symm.trans own))
  have paths : ∀ u v, v ≠ t → ReflTransGen s.Waits u v → ReflTransGen (s.drop t m).Waits u v := by
    intro u v ne path
    induction path with
    | refl => exact .refl
    | @tail v w _ last ih =>
      refine (ih ?_).tail (waits v w ne last)
      rintro rfl
      obtain ⟨k, mem, -⟩ := last
      cases free.symm.trans ((graph.waiting v k).mp mem)
  constructor
  case lists =>
    intro k
    rw [currPrio_drop, (list_drop s t m k).1, (list_drop s t m k).2]
    exact settled.lists k
  case fair =>
    intro u ne
    have same : (s.drop t m).threadGetMutexPriority u = s.threadGetMutexPriority u := by
      refine threadGetMutexPriority_congr (thread_drop s t u m).1 ?_ fun k _ => (list_drop s t m k).2
      rw [drop_threads, Function.update_of_ne ne]
    obtain ⟨eq, v, path, init⟩ := settled.fair u
    rw [Fair, currPrio_drop, same]
    exact ⟨eq, v, paths v u ne path, (thread_drop s t v m).1.trans init⟩

/-- A thread that has a priority from another mutex keeps it. -/
lemma Settled.keeps (settled : s.Settled) (graph : s.Graph)
    (ne : s.currPrio t ≠ (s.mutexes m).priority) :
    (s.drop t m).threadGetMutexPriority t = s.currPrio t := by
  have taken : ((s.drop t m).threads t).takenObjectList = (s.threads t).takenObjectList.erase m := by
    rw [drop_threads, Function.update_self]
  refine ((s.drop t m).threadGetMutexPriority_isLeast t).unique ?_
  obtain ⟨mem, low⟩ := s.threadGetMutexPriority_isLeast t
  rw [(settled.fair t).1] at ne ⊢
  constructor
  · rcases mem with eq | ⟨k, mem, eq⟩
    · exact .inl (eq.trans (thread_drop s t t m).1.symm)
    · refine .inr ⟨k, ?_, eq.trans (list_drop s t m k).2.symm⟩
      rw [taken, (graph.takenNodup t).mem_erase_iff]
      refine ⟨?_, mem⟩
      rintro rfl
      exact ne eq
  · rintro q (rfl | ⟨k, mem, rfl⟩)
    · rw [(thread_drop s t t m).1]
      exact low (.inl rfl)
    · rw [(list_drop s t m k).2]
      exact low (.inr ⟨k, List.mem_of_mem_erase (taken ▸ mem), rfl⟩)

/-- A thread waits for a mutex, which has the priority of the first that waits. -/
def park (s : MutexState n) (t : Fin n) (m : Nat) : MutexState n :=
  (s.suspendToList t m).mutexUpdatePriority m

/-- Entering a list sets no current priority. -/
lemma currPrio_suspendToList (s : MutexState n) (t : Fin n) (m : Nat) :
    (s.suspendToList t m).currPrio = s.currPrio := by
  funext u
  by_cases is : u = t
  · subst is
    simp [currPrio, suspendToList, setThread, enqueue]
  · simp [currPrio, suspendToList, setThread, enqueue, is]

/-- The mutexes after a thread has entered the list of one. -/
lemma suspendToList_mutexes (s : MutexState n) (t : Fin n) (m : Nat) :
    (s.suspendToList t m).mutexes = Function.update s.mutexes m { s.mutexes m with
      suspendThread := insertPrio s.currPrio t (s.mutexes m).suspendThread } :=
  rfl

/-- The mutexes after a thread has begun to wait for one. -/
lemma park_mutexes (s : MutexState n) (t : Fin n) (m : Nat) :
    (s.park t m).mutexes = Function.update s.mutexes m { s.mutexes m with
      suspendThread := insertPrio s.currPrio t (s.mutexes m).suspendThread
      priority := frontPrio s.currPrio maximalPriority
        (insertPrio s.currPrio t (s.mutexes m).suspendThread) } := by
  rw [park, mutexUpdatePriority, setMutex, currPrio_suspendToList, suspendToList_mutexes]
  simp only [Function.update_idem, Function.update_self]

/-- The threads after one has begun to wait. -/
lemma park_threads (s : MutexState n) (t : Fin n) (m : Nat) :
    (s.park t m).threads = Function.update s.threads t
      { s.threads t with suspended := true, pendingObject := some m } :=
  rfl

/-- Beginning to wait sets no current priority. -/
lemma currPrio_park (s : MutexState n) (t : Fin n) (m : Nat) : (s.park t m).currPrio = s.currPrio :=
  currPrio_suspendToList s t m

/-- It leaves the threads their own priorities and their mutexes. -/
lemma thread_park (s : MutexState n) (t u : Fin n) (m : Nat) :
    ((s.park t m).threads u).initPriority = (s.threads u).initPriority ∧
      ((s.park t m).threads u).takenObjectList = (s.threads u).takenObjectList := by
  by_cases is : u = t
  · subst is
    simp [park_threads]
  · simp [park_threads, is]

/-- It leaves the owners alone. -/
lemma owner_park (s : MutexState n) (t : Fin n) (m k : Nat) :
    ((s.park t m).mutexes k).owner = (s.mutexes k).owner := by
  by_cases is : k = m
  · subst is
    simp [park_mutexes]
  · simp [park_mutexes, is]

/-- The lists agree after a thread has begun to wait for another's mutex. -/
lemma Graph.park (graph : s.Graph) (free : (s.threads t).pendingObject = none)
    (other : (s.mutexes m).owner ≠ some t) : (s.park t m).Graph := by
  have out : ∀ k, t ∉ (s.mutexes k).suspendThread := by
    intro k mem
    cases free.symm.trans ((graph.waiting t k).mp mem)
  constructor
  case taken =>
    intro u k
    rw [(thread_park s t u m).2, owner_park]
    exact graph.taken u k
  case takenNodup =>
    intro u
    rw [(thread_park s t u m).2]
    exact graph.takenNodup u
  case waiting =>
    intro u k
    have before := graph.waiting u k
    by_cases is : k = m
    · subst is
      by_cases same : u = t
      · simp [park_threads, park_mutexes, same, mem_insertPrio]
      · simp [park_threads, park_mutexes, same, mem_insertPrio, before]
    · by_cases same : u = t
      · subst same
        simp [park_threads, park_mutexes, is, out, Ne.symm is]
      · simp [park_threads, park_mutexes, is, same, before]
  case nodup =>
    intro k
    by_cases is : k = m
    · subst is
      rw [park_mutexes, Function.update_self, (insertPrio_perm _ _ _).nodup_iff]
      exact List.nodup_cons.mpr ⟨out k, graph.nodup k⟩
    · rw [park_mutexes, Function.update_of_ne is]
      exact graph.nodup k
  case other =>
    intro u k mem
    rw [owner_park]
    by_cases is : k = m
    · subst is
      rw [park_mutexes, Function.update_self] at mem
      rcases mem_insertPrio.mp mem with rfl | mem
      · exact other
      · exact graph.other u k mem
    · rw [park_mutexes, Function.update_of_ne is] at mem
      exact graph.other u k mem
  case suspended =>
    intro u
    by_cases same : u = t
    · simp [park_threads, same]
    · simp [park_threads, same, graph.suspended]

/-- Only the owner of the mutex may now be not urgent enough. -/
lemma Settled.park (settled : s.Settled) (graph : s.Graph)
    (own : (s.mutexes m).owner = some u) : (s.park t m).SettledBut u := by
  constructor
  case lists =>
    intro k
    rw [currPrio_park]
    by_cases is : k = m
    · subst is
      rw [park_mutexes, Function.update_self]
      exact ⟨(settled.lists k).1.insertPrio t, rfl⟩
    · rw [park_mutexes, Function.update_of_ne is]
      exact settled.lists k
  case fair =>
    intro x ne
    have same : (s.park t m).threadGetMutexPriority x = s.threadGetMutexPriority x := by
      refine threadGetMutexPriority_congr (thread_park s t x m).1 (thread_park s t x m).2 fun k mem => ?_
      rw [park_mutexes, Function.update_of_ne]
      rintro rfl
      exact ne (Option.some.inj (((graph.taken x k).mp mem).symm.trans own))
    have waits : ∀ a b, s.Waits a b → (s.park t m).Waits a b := by
      rintro a b ⟨k, mem, has⟩
      refine ⟨k, ?_, (owner_park s t m k).trans has⟩
      by_cases is : k = m
      · subst is
        rw [park_mutexes, Function.update_self]
        exact mem_insertPrio.mpr (.inr mem)
      · rw [park_mutexes, Function.update_of_ne is]
        exact mem
    obtain ⟨eq, v, path, init⟩ := settled.fair x
    rw [Fair, currPrio_park, same]
    exact ⟨eq, v, ReflTransGen.mono waits v x path, (thread_park s t v m).1.trans init⟩

/-- The priority of the mutex is the lower of its old one and that of the thread. -/
lemma priority_park (settled : s.Settled) (t : Fin n) (m : Nat) :
    ((s.park t m).mutexes m).priority =
      if s.currPrio t < (s.mutexes m).priority then s.currPrio t else (s.mutexes m).priority := by
  rw [park_mutexes, Function.update_self, (settled.lists m).2]
  exact frontPrio_insertPrio (Fin.le_last _)

/-- The thread that has the mutex gets the priority of the one that waits, if that is more urgent. -/
lemma Settled.lends (settled : s.Settled) (graph : s.Graph) (own : (s.mutexes m).owner = some u) :
    (s.park t m).threadGetMutexPriority u =
      if s.currPrio t < (s.mutexes m).priority ∧ s.currPrio t < s.currPrio u then s.currPrio t
      else s.currPrio u := by
  have here := priority_park settled t m
  have elsewhere : ∀ k, k ≠ m → ((s.park t m).mutexes k).priority = (s.mutexes k).priority := by
    intro k ne
    rw [park_mutexes, Function.update_of_ne ne]
  have taken := (graph.taken u m).mpr own
  obtain ⟨init, list⟩ := thread_park s t u m
  obtain ⟨mem, low⟩ := s.threadGetMutexPriority_isLeast u
  rw [← (settled.fair u).1] at mem low
  refine ((s.park t m).threadGetMutexPriority_isLeast u).unique ?_
  split_ifs with lt
  · rw [if_pos lt.1] at here
    refine ⟨.inr ⟨m, list ▸ taken, here.symm⟩, ?_⟩
    rintro q (rfl | ⟨k, mem', rfl⟩)
    · rw [init]
      exact lt.2.le.trans (low (.inl rfl))
    · by_cases is : k = m
      · rw [is, here]
      · rw [elsewhere k is]
        exact lt.2.le.trans (low (.inr ⟨k, list ▸ mem', rfl⟩))
  · constructor
    · rcases mem with eq | ⟨k, mem, eq⟩
      · exact .inl (eq.trans init.symm)
      · refine .inr ⟨k, list ▸ mem, ?_⟩
        by_cases is : k = m
        · subst is
          rw [here, if_neg fun urgent => lt ⟨urgent, eq ▸ urgent⟩]
          exact eq
        · rw [elsewhere k is]
          exact eq
    · rintro q (rfl | ⟨k, mem', rfl⟩)
      · rw [init]
        exact low (.inl rfl)
      · have before := low (.inr ⟨k, list ▸ mem', rfl⟩)
        by_cases is : k = m
        · subst is
          rw [here]
          split_ifs with urgent
          · exact not_lt.mp fun urgent' => lt ⟨urgent, urgent'⟩
          · exact before
        · rw [elsewhere k is]
          exact before

end MutexState

end WlhHpm.Kernel

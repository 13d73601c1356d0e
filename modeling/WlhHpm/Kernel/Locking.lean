import WlhHpm.Kernel.Inheritance

/-!
# Runs of the threads that use mutexes

The invariant of every run (`Inv`), its step lemma and its run lemma, and the two results: a mutex
excludes (`mutex_excludes`), and it lends the priorities of the threads that wait (`mutex_inherits`).
-/

namespace WlhHpm.Kernel
open PrioList Relation

namespace MutexState
variable {n : Nat} {s s' : MutexState n} {t u : Fin n} {m k : Nat}

/-! ## Calls -/

/-- What a thread holds, as the mutex has it. A thread that has been resumed does not hold it yet. -/
def share (s : MutexState n) (t : Fin n) (m : Nat) : Int :=
  if (s.mutexes m).owner = some t ∧ s.waitsIn t ≠ some m then (s.mutexes m).hold.toNat else 0

/-- The calls agree with the mutexes. -/
structure Calls (s : MutexState n) : Prop where
  blocked : ∀ t m, (s.threads t).pendingObject = some m → s.waitsIn t = some m
  woken : ∀ t m, s.waitsIn t = some m → (s.threads t).pendingObject = some m ∨
    (s.threads t).pendingObject = none ∧ (s.mutexes m).owner = some t ∧ (s.mutexes m).hold = 1
  error : ∀ t m, s.waitsIn t = some m → (s.threads t).error = rtEok
  hold : ∀ t m, (s.mutexes m).owner = some t → (s.mutexes m).hold ≠ 0
  held : ∀ t m, s.held t m = s.share t m
  fault : s.fault = false

/-- A mutex that is held is held at least once. -/
lemma hold_pos {hold : UInt8} (some : hold ≠ 0) : 0 < hold.toNat :=
  Nat.pos_of_ne_zero fun zero => some (UInt8.toNat_inj.mp zero)

structure Inv (s : MutexState n) : Prop where
  graph : s.Graph
  owned : s.Owned
  settled : s.Settled
  calls : s.Calls

/-- A change that matters to no priority keeps the invariant if the calls still agree. -/
lemma Alike.sound (alike : Alike s s') (graph : s.Graph) (owned : s.Owned) (settled : s.Settled)
    (calls : s'.Calls) : s'.Inv :=
  ⟨alike.graph graph, alike.owned owned, alike.settled settled, calls⟩

/-- How often a thread holds a mutex after a call has returned. -/
lemma held_returns (s : MutexState n) (t u : Fin n) (m k : Nat) (call : MutexCall) (result : Int) :
    (s.returns t m call result).held u k =
      if t = u ∧ m = k ∧ result = rtEok then
        match call with
        | .take => s.held u k + 1
        | .release => s.held u k - 1
      else s.held u k := by
  rw [held, returns, List.foldl_append]
  cases call <;> rfl

/-- A thread that is not in a call waits for nothing. -/
lemma Calls.free (calls : s.Calls) (idle : s.waitsIn t = none) : (s.threads t).pendingObject = none := by
  cases pending : (s.threads t).pendingObject with
  | none => rfl
  | some m => cases idle.symm.trans (calls.blocked t m pending)

/-- A change of priorities leaves the calls alone. -/
lemma Calls.reprio (calls : s.Calls) (re : Reprio s s') : s'.Calls where
  blocked t m := by
    rw [re.pendingObject, re.waitsIn]
    exact calls.blocked t m
  woken t m := by
    rw [re.pendingObject, re.waitsIn, re.owner, re.hold]
    exact calls.woken t m
  error t m := by
    rw [re.waitsIn, re.thread t]
    exact calls.error t m
  hold t m := by
    rw [re.owner, re.hold]
    exact calls.hold t m
  held t m := by
    have before := calls.held t m
    rw [MutexState.held, share] at before ⊢
    rw [re.owner, re.hold, re.waitsIn, re.log]
    exact before
  fault := re.fault.trans calls.fault

/-- A call that returns with an error has changed nothing else. -/
lemma Inv.refused (inv : s.Inv) (idle : s.waitsIn t = none) (m : Nat) (call : MutexCall) {result : Int}
    (bad : result ≠ rtEok) : (s.returns t m call result).Inv := by
  have waitsIn : (s.returns t m call result).waitsIn = s.waitsIn := by
    rw [returns, ← idle, Function.update_eq_self]
  refine (alike_returns s t m call result).sound inv.graph inv.owned inv.settled ?_
  constructor
  case blocked =>
    rw [waitsIn]
    exact inv.calls.blocked
  case woken =>
    rw [waitsIn]
    exact inv.calls.woken
  case error =>
    rw [waitsIn]
    exact inv.calls.error
  case hold => exact inv.calls.hold
  case held =>
    intro u k
    rw [held_returns, if_neg fun h => bad h.2.2, share, waitsIn]
    exact inv.calls.held u k
  case fault => exact inv.calls.fault

/-- The error of a thread that is not waiting matters to nothing. -/
lemma Inv.setError (inv : s.Inv) (idle : s.waitsIn t = none) (error : Int) :
    (s.setThread t { s.threads t with error := error }).Inv := by
  have alike := alike_error s t error
  refine alike.sound inv.graph inv.owned inv.settled ?_
  constructor
  case blocked =>
    intro u k
    rw [alike.thread u]
    exact inv.calls.blocked u k
  case woken =>
    intro u k
    rw [alike.thread u]
    exact inv.calls.woken u k
  case error =>
    intro u k waits
    have ne : u ≠ t := by
      rintro rfl
      cases idle.symm.trans waits
    rw [setThread_of_ne ne]
    exact inv.calls.error u k waits
  case hold => exact inv.calls.hold
  case held => exact inv.calls.held
  case fault => exact inv.calls.fault

/-! ## `rt_mutex_take` -/

/-- `rt_mutex_take` returns, and the thread has the mutex once more. -/
lemma Calls.takes (calls : s.Calls) (threads : ∀ u, u ≠ t → s'.threads u = s.threads u)
    (free : (s'.threads t).pendingObject = none) (waitsIn : s'.waitsIn = s.waitsIn)
    (log : s'.log = s.log) (fault : s'.fault = false)
    (mutexes : ∀ k, k ≠ m → s'.mutexes k = s.mutexes k)
    (alone : ∀ u, u ≠ t → (s.mutexes m).owner ≠ some u) (own : (s'.mutexes m).owner = some t)
    (more : (s'.mutexes m).hold.toNat = s.held t m + 1) (idle : ∀ k, k ≠ m → s.waitsIn t ≠ some k) :
    (s'.returns t m .take rtEok).Calls := by
  have at_t : (s'.returns t m .take rtEok).waitsIn t = none := Function.update_self ..
  have at_u : ∀ u, u ≠ t → (s'.returns t m .take rtEok).waitsIn u = s.waitsIn u := by
    intro u ne
    exact (Function.update_of_ne ne ..).trans (congrFun waitsIn u)
  have held : ∀ u k, s'.held u k = s.held u k := by
    intro u k
    rw [MutexState.held, MutexState.held, log]
  constructor
  case blocked =>
    intro u k pending
    by_cases is : u = t
    · subst is
      cases free.symm.trans pending
    · rw [at_u u is]
      exact calls.blocked u k (threads u is ▸ pending)
  case woken =>
    intro u k waits
    by_cases is : u = t
    · subst is
      cases at_t.symm.trans waits
    · rw [at_u u is] at waits
      simp only [returns, threads u is]
      rcases calls.woken u k waits with pending | ⟨none, own', hold⟩
      · exact .inl pending
      · rw [mutexes k]
        · exact .inr ⟨none, own', hold⟩
        · rintro rfl
          exact alone u is own'
  case error =>
    intro u k waits
    by_cases is : u = t
    · subst is
      cases at_t.symm.trans waits
    · rw [at_u u is] at waits
      simp only [returns, threads u is]
      exact calls.error u k waits
  case hold =>
    intro u k own' zero
    by_cases is : k = m
    · subst is
      have nonneg : 0 ≤ s.held t k := by
        rw [calls.held, share]
        split_ifs <;> omega
      have none : (s'.mutexes k).hold.toNat = 0 := by
        rw [show (s'.mutexes k).hold = 0 from zero]
        rfl
      omega
    · have own' : (s'.mutexes k).owner = some u := own'
      have zero : (s'.mutexes k).hold = 0 := zero
      rw [mutexes k is] at own' zero
      exact calls.hold u k own' zero
  case held =>
    intro u k
    have mutex : (s'.returns t m .take rtEok).mutexes = s'.mutexes := rfl
    rw [held_returns, held, share, mutex]
    by_cases same : k = m
    · subst same
      by_cases is : u = t
      · subst is
        simp [at_t, own, more]
      · have ne : t ≠ u := Ne.symm is
        rw [calls.held, share]
        simp [own, ne, alone u is]
    · rw [if_neg fun h => same h.2.1.symm, calls.held, share, mutexes k same]
      by_cases is : u = t
      · subst is
        simp [at_t, idle k same]
      · rw [at_u u is]
  case fault => exact fault

/-- A thread takes a mutex that no thread has. -/
lemma Inv.take_free (inv : s.Inv) (idle : s.waitsIn t = none) (free : (s.mutexes m).owner = none)
    (wait : Bool) : (s.rtMutexTake t m wait).Inv := by
  have empty := inv.owned m free
  have out := inv.calls.free idle
  have next : s.Next t m := .inl ⟨empty, out⟩
  have alike : Alike (s.give t m) (s.rtMutexTake t m wait) := by
    constructor
    case thread =>
      intro u
      by_cases is : u = t
      · subst is
        simp [rtMutexTake, free, give_threads, returns, inv.graph.suspended, out]
      · simp [rtMutexTake, free, give_threads, returns, is]
    case mutex =>
      intro k
      by_cases is : k = m
      · subst is
        simp [rtMutexTake, free, give_mutexes, returns, empty, frontPrio]
      · simp [rtMutexTake, free, give_mutexes, returns, is]
  have owned : (s.give t m).Owned := by
    intro k none
    by_cases is : k = m
    · subst is
      simp [give_mutexes] at none
    · rw [give_mutexes, Function.update_of_ne is] at none ⊢
      exact inv.owned k none
  refine alike.sound (inv.graph.give free next) owned (inv.settled.give inv.graph free next) ?_
  have zero : s.held t m = 0 := by
    rw [inv.calls.held, share, free]
    refine if_neg ?_
    rintro ⟨own, -⟩
    cases own
  simp only [rtMutexTake, setThread_mutexes, free]
  refine inv.calls.takes (fun u ne => ?_) ?_ rfl rfl inv.calls.fault (fun k ne => ?_) (fun u _ => ?_) ?_ ?_
    (fun k _ => ?_)
  · simp [ne]
  · simp [out]
  · simp [ne]
  · simp [free]
  · simp
  · simp [zero]
  · simp [idle]

/-- A thread takes a mutex again. -/
lemma Inv.take_again (inv : s.Inv) (idle : s.waitsIn t = none) (own : (s.mutexes m).owner = some t)
    (wait : Bool) : (s.rtMutexTake t m wait).Inv := by
  rw [rtMutexTake]
  simp only [setThread_mutexes, own, if_true]
  split_ifs with max
  · have hold : s.held t m = (s.mutexes m).hold.toNat := by
      rw [inv.calls.held, share, if_pos ⟨own, by simp [idle]⟩]
    refine Alike.sound (s := s) ⟨fun u => ?_, fun k => ?_⟩ inv.graph inv.owned inv.settled ?_
    · by_cases is : u = t
      · subst is
        simp [returns]
      · simp [returns, is]
    · by_cases is : k = m
      · subst is
        simp [returns, own]
      · simp [returns, is]
    refine inv.calls.takes (fun u ne => ?_) ?_ rfl rfl inv.calls.fault (fun k ne => ?_) (fun u ne => ?_)
      ?_ ?_ (fun k _ => ?_)
    · simp [ne]
    · simp [inv.calls.free idle]
    · simp [ne]
    · rw [own]
      exact fun is => ne (Option.some.inj is).symm
    · simp
    · have lt : (s.mutexes m).hold.toNat < 255 := UInt8.lt_iff_toNat_lt.mp max
      simp [hold]
      omega
    · simp [idle]
  · exact (inv.setError idle rtEok).refused idle m .take (by decide)

/-- A thread that has been resumed has the mutex. -/
lemma Inv.resumed (inv : s.Inv) (waits : s.waitsIn t = some m) (ready : (s.threads t).suspended = false) :
    (s.mutexes m).owner = some t ∧ s.afterSchedule t m = s.returns t m .take rtEok := by
  have free : (s.threads t).pendingObject = none := by
    have pending := inv.graph.suspended t
    rw [ready] at pending
    exact Option.not_isSome_iff_eq_none.mp (by simp [← pending])
  rcases inv.calls.woken t m waits with pending | ⟨-, own, -⟩
  · cases free.symm.trans pending
  · rw [afterSchedule, if_pos own, if_pos (inv.calls.error t m waits)]
    exact ⟨own, rfl⟩

/-- A thread that has been resumed returns from its take. -/
lemma Inv.afterSchedule (inv : s.Inv) (waits : s.waitsIn t = some m)
    (ready : (s.threads t).suspended = false) : (s.afterSchedule t m).Inv := by
  obtain ⟨own, eq⟩ := inv.resumed waits ready
  rw [eq]
  refine (alike_returns s t m .take rtEok).sound inv.graph inv.owned inv.settled ?_
  have zero : s.held t m = 0 := by
    rw [inv.calls.held, share, if_neg fun h => h.2 waits]
  obtain ⟨none, hold⟩ : (s.threads t).pendingObject = none ∧ (s.mutexes m).hold = 1 := by
    rcases inv.calls.woken t m waits with pending | ⟨none, -, hold⟩
    · exact absurd own (inv.graph.other t m ((inv.graph.waiting t m).mpr pending))
    · exact ⟨none, hold⟩
  refine inv.calls.takes (fun _ _ => rfl) none rfl rfl inv.calls.fault (fun _ _ => rfl)
    (fun u ne => ?_) own ?_ (fun k ne => ?_)
  · rw [own]
    exact fun is => ne (Option.some.inj is).symm
  · rw [zero, hold]
    rfl
  · rw [waits]
    exact fun is => ne (Option.some.inj is).symm

/-- A thread waits, and lends its priority. -/
lemma suspend_eq (settled : s.Settled) (t u : Fin n) (m : Nat) :
    s.suspend t m u =
      if s.currPrio t < (s.mutexes m).priority ∧ s.currPrio t < s.currPrio u then
        (s.park t m).threadUpdatePriority u (s.currPrio t)
      else s.park t m := by
  have front := priority_park settled t m
  have here : ((s.suspendToList t m).mutexes m).priority = (s.mutexes m).priority := by
    rw [suspendToList_mutexes, Function.update_self]
  have parked : s.park t m = (s.suspendToList t m).setMutex m
      { (s.suspendToList t m).mutexes m with priority := ((s.park t m).mutexes m).priority } := by
    conv_rhs => rw [park, mutexUpdatePriority, setMutex_self]
    rfl
  rw [suspend]
  simp only [currPrio_suspendToList, here, setMutex_currPrio]
  by_cases urgent : s.currPrio t < (s.mutexes m).priority
  · rw [front, if_pos urgent] at parked
    rw [if_pos urgent, ← parked]
    simp only [urgent, true_and]
  · rw [front, if_neg urgent, ← here, setMutex, Function.update_eq_self] at parked
    rw [if_neg urgent, if_neg fun h => urgent h.1, parked]

/-- The calls agree after a thread has begun to wait. -/
lemma Inv.park (inv : s.Inv) (idle : s.waitsIn t = none) (own : (s.mutexes m).owner = some u)
    (ne : u ≠ t) (error : (s.threads t).error = rtEok) : (s.park t m).Calls := by
  have waitsIn : (s.park t m).waitsIn = Function.update s.waitsIn t (some m) := rfl
  have hold : ∀ k, ((s.park t m).mutexes k).hold = (s.mutexes k).hold := by
    intro k
    by_cases is : k = m
    · subst is
      simp [park_mutexes]
    · simp [park_mutexes, is]
  constructor
  case blocked =>
    intro v k pending
    by_cases is : v = t
    · subst is
      rw [park_threads, Function.update_self] at pending
      rw [waitsIn, Function.update_self]
      exact pending
    · rw [park_threads, Function.update_of_ne is] at pending
      rw [waitsIn, Function.update_of_ne is]
      exact inv.calls.blocked v k pending
  case woken =>
    intro v k waits
    by_cases is : v = t
    · subst is
      rw [waitsIn, Function.update_self] at waits
      refine .inl ?_
      rw [park_threads, Function.update_self]
      exact waits
    · rw [waitsIn, Function.update_of_ne is] at waits
      rw [park_threads, Function.update_of_ne is, owner_park, hold]
      exact inv.calls.woken v k waits
  case error =>
    intro v k waits
    by_cases is : v = t
    · subst is
      rw [park_threads, Function.update_self]
      exact error
    · rw [waitsIn, Function.update_of_ne is] at waits
      rw [park_threads, Function.update_of_ne is]
      exact inv.calls.error v k waits
  case hold =>
    intro v k
    rw [owner_park, hold]
    exact inv.calls.hold v k
  case held =>
    intro v k
    have before := inv.calls.held v k
    rw [share] at before ⊢
    rw [owner_park, hold, waitsIn]
    refine before.trans ?_
    by_cases is : v = t
    · subst is
      rw [Function.update_self, idle]
      by_cases same : k = m
      · subst same
        have other : (s.mutexes k).owner ≠ some v := by
          rw [own]
          exact fun eq => ne (Option.some.inj eq)
        rw [if_neg fun h => other h.1, if_neg fun h => other h.1]
      · simp [Ne.symm same]
    · rw [Function.update_of_ne is]
  case fault => exact inv.calls.fault

/-- A take that has to wait keeps the invariant, with the owner's priority raised. -/
lemma Inv.suspend (inv : s.Inv) (idle : s.waitsIn t = none) (own : (s.mutexes m).owner = some u)
    (ne : u ≠ t) (error : (s.threads t).error = rtEok) : (s.suspend t m u).Inv := by
  have other : (s.mutexes m).owner ≠ some t := by
    rw [own]
    exact fun eq => ne (Option.some.inj eq)
  have graph := inv.graph.park (inv.calls.free idle) other
  have owned : (s.park t m).Owned := by
    intro k none
    rw [owner_park] at none
    rw [park_mutexes, Function.update_of_ne]
    · exact inv.owned k none
    · rintro rfl
      cases own.symm.trans none
  have calls := inv.park idle own ne error
  have but := inv.settled.park (t := t) inv.graph own
  have lends := inv.settled.lends (t := t) inv.graph own
  rw [suspend_eq inv.settled]
  split_ifs at lends ⊢ with urgent
  · obtain ⟨re, settled⟩ := but.threadUpdatePriority graph owned lends <| by
      rw [currPrio_park]
      exact urgent.2
    exact ⟨re.graph graph, re.owned owned, settled, calls.reprio re⟩
  · refine ⟨graph, owned, but.settled graph ?_, calls⟩
    rw [currPrio_park, lends]

/-- `rt_mutex_take` keeps the invariant. -/
lemma Inv.rtMutexTake (inv : s.Inv) (idle : s.waitsIn t = none) (m : Nat) (wait : Bool) :
    (s.rtMutexTake t m wait).Inv := by
  cases own : (s.mutexes m).owner with
  | none => exact inv.take_free idle own wait
  | some u =>
    by_cases is : u = t
    · subst is
      exact inv.take_again idle own wait
    · have ready := inv.setError idle rtEok
      rw [MutexState.rtMutexTake]
      simp only [setThread_mutexes, own, if_neg is]
      split_ifs
      · exact ready.suspend idle own is (by rw [setThread_self])
      · exact (ready.setError idle rtETimeout).refused idle m .take (by decide)

/-! ## `rt_mutex_release` -/

/-- `rt_mutex_release` returns. The mutex may have been handed over to a thread that waits for it. -/
lemma Calls.releases (calls : s.Calls) (idle : s.waitsIn t = none) (own : (s.mutexes m).owner = some t)
    (error : ∀ u, (s'.threads u).error = (s.threads u).error) (waitsIn : s'.waitsIn = s.waitsIn)
    (log : s'.log = s.log) (fault : s'.fault = false)
    (mutexes : ∀ k, k ≠ m →
      (s'.mutexes k).owner = (s.mutexes k).owner ∧ (s'.mutexes k).hold = (s.mutexes k).hold)
    (pending : ∀ u, (s'.threads u).pendingObject = (s.threads u).pendingObject ∨
      (s.threads u).pendingObject = some m ∧ (s'.threads u).pendingObject = none ∧
        (s'.mutexes m).owner = some u ∧ (s'.mutexes m).hold = 1)
    (mine : s'.share t m = s.held t m - 1)
    (others : ∀ u, u ≠ t → (s'.mutexes m).owner = some u → s.waitsIn u = some m)
    (hold : ∀ u, (s'.mutexes m).owner = some u → (s'.mutexes m).hold ≠ 0) :
    (s'.returns t m .release rtEok).Calls := by
  have waits : (s'.returns t m .release rtEok).waitsIn = s.waitsIn := by
    rw [returns, waitsIn, ← idle, Function.update_eq_self]
  have mutex : (s'.returns t m .release rtEok).mutexes = s'.mutexes := rfl
  have thread : (s'.returns t m .release rtEok).threads = s'.threads := rfl
  constructor
  case blocked =>
    intro u k is
    rw [waits]
    rw [thread] at is
    rcases pending u with same | ⟨-, none, -⟩
    · exact calls.blocked u k (same ▸ is)
    · cases none.symm.trans is
  case woken =>
    intro u k is
    rw [waits] at is
    rw [thread, mutex]
    rcases calls.woken u k is with before | ⟨none, own', once⟩
    · rcases pending u with same | ⟨for_m, none, own', once⟩
      · exact .inl (same.trans before)
      · cases Option.some.inj (for_m.symm.trans before)
        exact .inr ⟨none, own', once⟩
    · have ne : k ≠ m := by
        rintro rfl
        cases Option.some.inj (own.symm.trans own')
        cases idle.symm.trans is
      rw [(mutexes k ne).1, (mutexes k ne).2]
      rcases pending u with same | ⟨for_m, -⟩
      · exact .inr ⟨same.trans none, own', once⟩
      · cases none.symm.trans for_m
  case error =>
    intro u k is
    rw [waits] at is
    rw [thread, error]
    exact calls.error u k is
  case hold =>
    intro u k own'
    rw [mutex] at own' ⊢
    by_cases is : k = m
    · subst is
      exact hold u own'
    · rw [(mutexes k is).1] at own'
      rw [(mutexes k is).2]
      exact calls.hold u k own'
  case held =>
    intro u k
    have same : ∀ v j, s'.held v j = s.held v j := by
      intro v j
      rw [MutexState.held, MutexState.held, log]
    have share_eq : (s'.returns t m .release rtEok).share u k = s'.share u k := by
      rw [share, share, waits, waitsIn, mutex]
    rw [held_returns, same, share_eq]
    by_cases is : k = m
    · subst is
      by_cases eq : u = t
      · subst eq
        rw [if_pos ⟨rfl, rfl, rfl⟩]
        exact mine.symm
      · rw [if_neg fun h => eq h.1.symm, calls.held, share, share, own, waitsIn]
        rw [if_neg fun h => eq (Option.some.inj h.1).symm, if_neg fun h => h.2 (others u eq h.1)]
    · rw [if_neg fun h => is h.2.1.symm, calls.held, share, share, (mutexes k is).1, (mutexes k is).2,
        waitsIn]
  case fault => exact fault

/-- Setting the priority that a thread has changes nothing. -/
lemma changePriority_self (s : MutexState n) (t : Fin n) : s.changePriority t (s.currPrio t) = s := by
  change { s with threads := Function.update s.threads t (s.threads t) } = s
  rw [Function.update_eq_self]

/-- A thread has given a mutex back, and has the priority that it has without it. -/
def gaveBack (s : MutexState n) (t : Fin n) (m : Nat) : MutexState n :=
  (s.drop t m).changePriority t ((s.drop t m).threadGetMutexPriority t)

/-- All threads are settled once the one that gave the mutex back has its priority without it. -/
lemma Settled.gaveBack (settled : s.Settled) (graph : s.Graph) (own : (s.mutexes m).owner = some t)
    (free : (s.threads t).pendingObject = none) : (s.gaveBack t m).Graph ∧ (s.gaveBack t m).Settled := by
  have graph' := graph.drop own
  have free' : ((s.drop t m).threads t).pendingObject = none := (thread_drop s t t m).2.1.trans free
  have re := reprio_changePriority (s.drop t m) t ((s.drop t m).threadGetMutexPriority t)
  refine ⟨re.graph graph', ?_⟩
  refine ((settled.drop graph own free).changePriority graph' free' _).settled (re.graph graph') ?_
  rw [currPrio_changePriority, Function.update_self, threadGetMutexPriority_changePriority]

/-- C `_check_and_update_prio` finds the priority that the thread has without the mutex. -/
lemma Settled.checkAndUpdatePrio (settled : s.Settled) (graph : s.Graph) (t : Fin n) (m : Nat) :
    (s.setThread t { s.threads t with
      takenObjectList := (s.threads t).takenObjectList.erase m }).checkAndUpdatePrio t m =
      { s.gaveBack t m with mutexes := s.mutexes } := by
  have curr : (s.setThread t { s.threads t with
      takenObjectList := (s.threads t).takenObjectList.erase m }).currPrio = s.currPrio :=
    currPrio_drop s t m
  have want : (s.setThread t { s.threads t with
      takenObjectList := (s.threads t).takenObjectList.erase m }).threadGetMutexPriority t =
      (s.drop t m).threadGetMutexPriority t :=
    threadGetMutexPriority_congr rfl rfl fun k _ => (list_drop s t m k).2.symm
  rw [MutexState.checkAndUpdatePrio, curr, want]
  split_ifs with eq
  · rfl
  · have same : s.gaveBack t m = s.drop t m := by
      rw [MutexState.gaveBack, settled.keeps graph eq, ← currPrio_drop s t m, changePriority_self]
    rw [same]
    rfl

/-- The mutexes after one has been given back. -/
lemma gaveBack_mutexes (s : MutexState n) (t : Fin n) (m : Nat) :
    (s.gaveBack t m).mutexes = Function.update s.mutexes m { s.mutexes m with owner := none } :=
  rfl

/-- Of the thread itself, only its mutexes and its priority have changed. -/
lemma thread_gaveBack (s : MutexState n) (t u : Fin n) (m : Nat) :
    ((s.gaveBack t m).threads u).error = (s.threads u).error ∧
      ((s.gaveBack t m).threads u).pendingObject = (s.threads u).pendingObject ∧
      ((s.gaveBack t m).threads u).suspended = (s.threads u).suspended := by
  by_cases is : u = t
  · subst is
    simp [MutexState.gaveBack, changePriority, drop_threads]
  · simp [MutexState.gaveBack, changePriority, drop_threads, is]

/-- No thread waits for the mutex. -/
lemma handOver_nil (settled : s.Settled) (graph : s.Graph)
    (list : (s.mutexes m).suspendThread = []) : s.handOver t m = s.gaveBack t m := by
  have top := (settled.lists m).2
  rw [list, frontPrio] at top
  rw [handOver]
  simp only [settled.checkAndUpdatePrio graph t m]
  split
  case h_1 =>
    rw [setMutex, ← top]
    rfl
  case h_2 next rest eq => cases list.symm.trans eq

/-- The mutex is given to the first thread that waits. -/
lemma handOver_cons (settled : s.Settled) (graph : s.Graph) {next : Fin n} {rest : List (Fin n)}
    (list : (s.mutexes m).suspendThread = next :: rest) :
    s.handOver t m = ((s.gaveBack t m).give next m).setMutex m
      { ((s.gaveBack t m).give next m).mutexes m with hold := 1 } := by
  have mem : next ∈ (s.mutexes m).suspendThread := list ▸ List.mem_cons_self
  have suspended : ((s.gaveBack t m).threads next).suspended = true := by
    rw [(thread_gaveBack s t next m).2.2, graph.suspended, (graph.waiting next m).mp mem]
    rfl
  rw [handOver]
  simp only [settled.checkAndUpdatePrio graph t m]
  split
  case h_1 eq => cases list.symm.trans eq
  case h_2 next' rest' eq =>
    cases list.symm.trans eq
    rw [if_pos suspended, mutexUpdatePriority]
    have curr := currPrio_give (s.gaveBack t m) next m
    refine congrArg (fun x => MutexState.mk _ x _ _ _) (funext fun k => ?_)
    by_cases is : k = m
    · subst is
      simp only [Function.update_self, setThread_mutexes, setMutex_self, give_mutexes, gaveBack_mutexes,
        list, List.tail_cons]
      rw [← curr]
      rfl
    · simp [give_mutexes, gaveBack_mutexes, is]

/-- One hold less, in numbers. -/
lemma pred_hold {hold : UInt8} (some : hold ≠ 0) : ((hold - 1).toNat : Int) = hold.toNat - 1 := by
  have pos := hold_pos some
  have lt := hold.toNat_lt
  rw [UInt8.toNat_sub]
  simp
  omega

/-- A release of a mutex that stays held keeps the invariant. -/
lemma Inv.release_again (inv : s.Inv) (idle : s.waitsIn t = none) (own : (s.mutexes m).owner = some t)
    (rest : (s.mutexes m).hold - 1 ≠ 0) :
    ((s.setMutex m { s.mutexes m with hold := (s.mutexes m).hold - 1 }).returns t m .release rtEok).Inv := by
  have alike := (alike_hold s m ((s.mutexes m).hold - 1)).trans (alike_returns _ t m .release rtEok)
  refine alike.sound inv.graph inv.owned inv.settled ?_
  have held : s.held t m = (s.mutexes m).hold.toNat := by
    rw [inv.calls.held, share, if_pos ⟨own, by simp [idle]⟩]
  have less := pred_hold (inv.calls.hold t m own)
  refine inv.calls.releases idle own (fun _ => rfl) rfl rfl inv.calls.fault (fun k ne => ?_)
    (fun _ => .inl rfl) ?_ (fun u ne is => ?_) (fun u _ => ?_)
  · rw [setMutex_of_ne ne]
    exact ⟨rfl, rfl⟩
  · rw [share, setMutex_self, held, less]
    exact if_pos ⟨own, by simp [setMutex, idle]⟩
  · rw [setMutex_self] at is
    exact absurd (Option.some.inj (is.symm.trans own)) ne
  · rw [setMutex_self]
    exact rest

/-- The last release, which hands the mutex over, keeps the invariant. -/
lemma Inv.release_last (inv : s.Inv) (idle : s.waitsIn t = none) (own : (s.mutexes m).owner = some t)
    (once : (s.mutexes m).hold = 1) :
    (((s.setMutex m { s.mutexes m with hold := 0 }).handOver t m).returns t m .release rtEok).Inv := by
  have alike := alike_hold s m 0
  have free := inv.calls.free idle
  have held : s.held t m = 1 := by
    rw [inv.calls.held, share, if_pos ⟨own, by simp [idle]⟩, once]
    rfl
  generalize eq : s.setMutex m { s.mutexes m with hold := 0 } = z at alike ⊢
  have graph := alike.graph inv.graph
  have settled := alike.settled inv.settled
  have own_z : (z.mutexes m).owner = some t := by
    rw [alike.mutex m]
    exact own
  have free_z : (z.threads t).pendingObject = none := by
    rw [alike.thread t]
    exact free
  have thread : z.threads = s.threads := eq ▸ rfl
  have waitsIn : z.waitsIn = s.waitsIn := eq ▸ rfl
  have log : z.log = s.log := eq ▸ rfl
  have fault : z.fault = false := eq ▸ inv.calls.fault
  have elsewhere : ∀ k, k ≠ m → z.mutexes k = s.mutexes k := fun k ne => eq ▸ setMutex_of_ne ne s _
  have listed : (z.mutexes m).suspendThread = (s.mutexes m).suspendThread := by
    rw [alike.mutex m]
  obtain ⟨graph', settled'⟩ := settled.gaveBack graph own_z free_z
  cases list : (z.mutexes m).suspendThread with
  | nil =>
    rw [handOver_nil settled graph list]
    have owned : (z.gaveBack t m).Owned := by
      intro k none
      by_cases is : k = m
      · subst is
        rw [gaveBack_mutexes, Function.update_self]
        exact list
      · rw [gaveBack_mutexes, Function.update_of_ne is, elsewhere k is] at none ⊢
        exact inv.owned k none
    refine (alike_returns _ t m .release rtEok).sound graph' owned settled' ?_
    refine inv.calls.releases idle own (fun u => ?_) waitsIn log fault (fun k ne => ?_)
      (fun u => .inl ?_) ?_ (fun u _ is => ?_) (fun u is => ?_)
    · rw [(thread_gaveBack z t u m).1, thread]
    · rw [gaveBack_mutexes, Function.update_of_ne ne, elsewhere k ne]
      exact ⟨rfl, rfl⟩
    · rw [(thread_gaveBack z t u m).2.1, thread]
    · rw [share, gaveBack_mutexes, Function.update_self, held]
      refine if_neg ?_
      rintro ⟨is, -⟩
      cases is
    · rw [gaveBack_mutexes, Function.update_self] at is
      cases is
    · rw [gaveBack_mutexes, Function.update_self] at is
      cases is
  | cons next rest =>
    rw [handOver_cons settled graph list]
    have mem : next ∈ (z.mutexes m).suspendThread := list ▸ List.mem_cons_self
    have pending : (s.threads next).pendingObject = some m := by
      rw [← thread]
      exact (graph.waiting next m).mp mem
    have ne : next ≠ t := by
      rintro rfl
      exact graph.other next m mem own_z
    have given : ((z.gaveBack t m).mutexes m).owner = none := by
      rw [gaveBack_mutexes, Function.update_self]
    have first : (z.gaveBack t m).Next next m := by
      refine .inr ⟨rest, ?_⟩
      rw [gaveBack_mutexes, Function.update_self]
      exact list
    have alike' := alike_hold ((z.gaveBack t m).give next m) m 1
    have owned : ((z.gaveBack t m).give next m).Owned := by
      intro k none
      by_cases is : k = m
      · subst is
        simp [give_mutexes] at none
      · rw [give_mutexes, Function.update_of_ne is, gaveBack_mutexes, Function.update_of_ne is,
          elsewhere k is] at none ⊢
        exact inv.owned k none
    refine (alike'.trans (alike_returns _ t m .release rtEok)).sound (graph'.give given first) owned
      (settled'.give graph' given first) ?_
    have at_next : (((z.gaveBack t m).give next m).threads next).error =
        ((z.gaveBack t m).threads next).error ∧
        (((z.gaveBack t m).give next m).threads next).pendingObject = none := by
      rw [give_threads, Function.update_self]
      exact ⟨rfl, rfl⟩
    have at_u : ∀ u, u ≠ next →
        ((z.gaveBack t m).give next m).threads u = (z.gaveBack t m).threads u := by
      intro u away
      rw [give_threads, Function.update_of_ne away]
    have owner : (((z.gaveBack t m).give next m).mutexes m).owner = some next := by
      rw [give_mutexes, Function.update_self]
    refine inv.calls.releases idle own (fun u => ?_) waitsIn log fault (fun k ne => ?_)
      (fun u => ?_) ?_ (fun u _ is => ?_) (fun u _ => ?_)
    · rw [setMutex_threads, ← thread, ← (thread_gaveBack z t u m).1]
      by_cases is : u = next
      · rw [is]
        exact at_next.1
      · rw [at_u u is]
    · rw [setMutex_of_ne ne, give_mutexes, Function.update_of_ne ne, gaveBack_mutexes,
        Function.update_of_ne ne, elsewhere k ne]
      exact ⟨rfl, rfl⟩
    · rw [setMutex_threads, setMutex_self]
      by_cases is : u = next
      · subst is
        exact .inr ⟨pending, at_next.2, owner, rfl⟩
      · rw [at_u u is, (thread_gaveBack z t u m).2.1, thread]
        exact .inl rfl
    · rw [share, setMutex_self, held]
      exact if_neg fun h => ne (Option.some.inj (owner.symm.trans h.1))
    · rw [setMutex_self] at is
      cases Option.some.inj (owner.symm.trans is)
      exact inv.calls.blocked next m pending
    · rw [setMutex_self]
      change (1 : UInt8) ≠ 0
      decide

/-- `rt_mutex_release` keeps the invariant. -/
lemma Inv.rtMutexRelease (inv : s.Inv) (idle : s.waitsIn t = none) (m : Nat) :
    (s.rtMutexRelease t m).Inv := by
  rw [MutexState.rtMutexRelease]
  by_cases own : (s.mutexes m).owner = some t
  · rw [if_pos own]
    dsimp only
    split_ifs with zero
    · have once : (s.mutexes m).hold = 1 := by
        have sub : (s.mutexes m).hold - 1 + 1 = 0 + 1 := congrArg (· + 1) zero
        simpa using sub
      rw [zero]
      exact inv.release_last idle own once
    · exact inv.release_again idle own zero
  · rw [if_neg own]
    exact (inv.setError idle (-rtError)).refused idle m .release (by decide)

/-! ## Runs -/

/-- The invariant holds at the beginning. -/
lemma Inv.initial (priority : Fin n → Priority) : (initial priority).Inv := by
  have want : ∀ t, (MutexState.initial priority).threadGetMutexPriority t = priority t := fun _ => rfl
  refine ⟨⟨fun t m => ?_, fun _ => List.nodup_nil, fun t m => ?_, fun _ => List.nodup_nil,
    fun t m mem => ?_, fun _ => rfl⟩, fun _ _ => rfl,
    ⟨fun m => ⟨List.Pairwise.nil, rfl⟩, fun t => ⟨(want t).symm, t, .refl, rfl⟩⟩,
    ⟨fun t m is => ?_, fun t m is => ?_, fun t m is => ?_, fun t m is => ?_, fun t m => ?_, rfl⟩⟩
  · constructor <;> intro is <;> cases is
  · constructor <;> intro is <;> cases is
  · cases mem
  · cases is
  · cases is
  · cases is
  · cases is
  · rw [share, if_neg]
    · rfl
    · rintro ⟨is, -⟩
      cases is

/-- Every step keeps the invariant. -/
lemma Inv.step (inv : s.Inv) (a : Act n) : (s.step a).Inv := by
  cases a with
  | take t m wait =>
    rw [MutexState.step]
    split_ifs with idle
    · exact inv.rtMutexTake idle m wait
    · exact inv
  | release t m =>
    rw [MutexState.step]
    split_ifs with idle
    · exact inv.rtMutexRelease idle m
    · exact inv
  | resumed t =>
    cases waits : s.waitsIn t with
    | none =>
      simp only [MutexState.step, waits]
      exact inv
    | some m =>
      simp only [MutexState.step, waits]
      split_ifs with suspended
      · exact inv
      · exact inv.afterSchedule waits (Bool.eq_false_of_not_eq_true suspended)

/-- Every run keeps the invariant. -/
lemma Inv.run (inv : s.Inv) (acts : List (Act n)) : (acts.foldl MutexState.step s).Inv := by
  induction acts generalizing s with
  | nil => exact inv
  | cons a acts ih => exact ih (inv.step a)

/-! ## The own priority of a thread does not change -/

/-- The own priorities after a thread has been written. -/
@[simp] lemma init_setThread (s : MutexState n) (t u : Fin n) (x : RtThread) :
    ((s.setThread t x).threads u).initPriority =
      if u = t then x.initPriority else (s.threads u).initPriority := by
  by_cases is : u = t
  · subst is
    simp
  · simp [is]

/-- Writing a thread with the priority that it had. -/
lemma init_self (s : MutexState n) (t u : Fin n) :
    (if u = t then (s.threads t).initPriority else (s.threads u).initPriority) =
      (s.threads u).initPriority := by
  split_ifs with is
  · rw [is]
  · rfl

/-- The loop over the owners leaves the own priorities alone. -/
lemma init_updateLoop (fuel : Nat) (s : MutexState n) (t u : Fin n) :
    ((updateLoop fuel s t).threads u).initPriority = (s.threads u).initPriority := by
  induction fuel generalizing s t with
  | zero => rfl
  | succ fuel ih =>
    rw [updateLoop]
    split_ifs
    · split
      · rfl
      · dsimp only
        split
        · rfl
        · split_ifs
          · rw [ih, changePriority, init_setThread, init_self]
            rfl
          · rfl
    · rfl

/-- So does `_thread_update_priority`. -/
lemma init_threadUpdatePriority (s : MutexState n) (t u : Fin n) (p : Priority) :
    ((s.threadUpdatePriority t p).threads u).initPriority = (s.threads u).initPriority := by
  rw [threadUpdatePriority, init_updateLoop, changePriority, init_setThread, init_self]

/-- So does a take that waits. -/
lemma init_suspend (s : MutexState n) (t owner u : Fin n) (m : Nat) :
    ((s.suspend t m owner).threads u).initPriority = (s.threads u).initPriority := by
  have before : ((s.suspendToList t m).threads u).initPriority = (s.threads u).initPriority := by
    change (((s.enqueue m t).setThread t _).threads u).initPriority = _
    rw [init_setThread]
    exact init_self s t u
  rw [suspend]
  dsimp only
  split_ifs
  · exact (init_threadUpdatePriority _ owner u _).trans before
  · exact before
  · exact before

/-- So does a release that hands the mutex over. -/
lemma init_handOver (s : MutexState n) (t u : Fin n) (m : Nat) :
    ((s.handOver t m).threads u).initPriority = (s.threads u).initPriority := by
  have checked : (((s.setThread t { s.threads t with
      takenObjectList := (s.threads t).takenObjectList.erase m }).checkAndUpdatePrio t m).threads
        u).initPriority = (s.threads u).initPriority := by
    rw [MutexState.checkAndUpdatePrio]
    split_ifs
    · rw [changePriority, init_setThread, init_self, init_setThread, init_self]
    · rw [init_setThread, init_self]
  rw [handOver]
  dsimp only
  split
  · exact checked
  · split_ifs
    · change ((MutexState.setThread _ _ _).threads u).initPriority = _
      rw [init_setThread]
      exact (init_self _ _ u).trans checked
    · exact checked

/-- No step changes a thread's own priority. -/
lemma init_step (s : MutexState n) (a : Act n) (u : Fin n) :
    ((s.step a).threads u).initPriority = (s.threads u).initPriority := by
  cases a with
  | take t m wait =>
    have error : ∀ e, ((s.setThread t { s.threads t with error := e }).threads u).initPriority =
        (s.threads u).initPriority := fun e => by rw [init_setThread, init_self]
    rw [step]
    split_ifs
    · rw [rtMutexTake]
      dsimp only
      split
      · change ((MutexState.setThread _ _ _).threads u).initPriority = _
        rw [init_setThread]
        exact (init_self _ t u).trans (error rtEok)
      · split_ifs
        · exact error rtEok
        · exact error rtEok
        · exact (init_suspend _ t _ u m).trans (error rtEok)
        · change ((MutexState.setThread _ _ _).threads u).initPriority = _
          rw [init_setThread]
          exact (init_self _ t u).trans (error rtEok)
    · rfl
  | release t m =>
    rw [step]
    split_ifs
    · rw [rtMutexRelease]
      split_ifs
      · dsimp only
        split_ifs
        · exact init_handOver _ t u m
        · rfl
      · change ((MutexState.setThread _ _ _).threads u).initPriority = _
        rw [init_setThread]
        exact init_self s t u
    · rfl
  | resumed t =>
    rw [step]
    split
    · rfl
    · split_ifs
      · rfl
      · rw [afterSchedule]
        split_ifs
        · rfl
        · rfl
        all_goals
          change ((MutexState.setThread _ _ _).threads u).initPriority = _
          rw [init_setThread]
          refine (init_self _ t u).trans ?_
          split
          · rfl
          · dsimp only
            split_ifs
            · exact init_threadUpdatePriority _ _ u _
            · rfl

/-- No run does. -/
lemma init_run (s : MutexState n) (acts : List (Act n)) (u : Fin n) :
    ((acts.foldl step s).threads u).initPriority = (s.threads u).initPriority := by
  induction acts generalizing s with
  | nil => rfl
  | cons a acts ih => exact (ih (s.step a)).trans (init_step s a u)

/-! ## What a state of a run says -/

/-- A thread is at least as urgent as each that waits for it. -/
lemma Inv.urgent (inv : s.Inv) (path : ReflTransGen s.Waits u t) : s.currPrio t ≤ s.currPrio u := by
  induction path with
  | refl => exact le_rfl
  | @tail v t _ waits ih =>
    obtain ⟨m, mem, own⟩ := waits
    refine le_trans ?_ ih
    rw [(inv.settled.fair t).1]
    refine ((s.threadGetMutexPriority_isLeast t).2 (.inr ⟨m, (inv.graph.taken t m).mpr own, rfl⟩)).trans ?_
    rw [(inv.settled.lists m).2]
    exact (inv.settled.lists m).1.front_le mem

/-- A mutex that is handed over goes to the first thread that waits. -/
lemma handOver_owner (settled : s.Settled) (graph : s.Graph) :
    ((s.handOver t m).mutexes m).owner = (s.mutexes m).suspendThread.head? := by
  cases list : (s.mutexes m).suspendThread with
  | nil =>
    rw [handOver_nil settled graph list, gaveBack_mutexes, Function.update_self]
    rfl
  | cons next rest =>
    rw [handOver_cons settled graph list, setMutex_self, give_mutexes, Function.update_self]
    rfl

/-- A mutex that is not held any more is handed over to the first thread that waits. -/
lemma Inv.hands_over (inv : s.Inv) (once : s.held t m = 1) :
    ((s.rtMutexRelease t m).mutexes m).owner = (s.mutexes m).suspendThread.head? := by
  rw [inv.calls.held, share] at once
  split_ifs at once with own
  swap
  · cases once
  have last : (s.mutexes m).hold - 1 = 0 := by
    have one : (s.mutexes m).hold.toNat = 1 := by omega
    rw [UInt8.toNat_inj.mp (one.trans UInt8.toNat_one.symm)]
    rfl
  have alike := alike_hold s m ((s.mutexes m).hold - 1)
  rw [MutexState.rtMutexRelease, if_pos own.1]
  dsimp only
  rw [if_pos last]
  refine (handOver_owner (alike.settled inv.settled) (alike.graph inv.graph)).trans ?_
  rw [setMutex_self]

/-- Handing over returns from no call. -/
lemma handOver_log (s : MutexState n) (t : Fin n) (m : Nat) : (s.handOver t m).log = s.log := by
  have checked : ∀ x : MutexState n, (x.checkAndUpdatePrio t m).log = x.log := by
    intro x
    rw [checkAndUpdatePrio]
    split_ifs <;> rfl
  rw [handOver]
  dsimp only
  split
  · exact checked _
  · split_ifs
    · exact checked _
    · exact checked _

/-- A thread that is not in a call holds what the mutex says. -/
lemma Inv.holds (inv : s.Inv) (idle : s.waitsIn t = none) :
    0 < s.held t m ↔ (s.mutexes m).owner = some t := by
  rw [inv.calls.held, share, idle]
  constructor
  · intro pos
    split_ifs at pos with own
    · exact own.1
    · cases pos
  · intro own
    rw [if_pos ⟨own, (Option.some_ne_none m).symm⟩]
    exact Int.natCast_pos.mpr (hold_pos (inv.calls.hold t m own))

/-- A thread that holds a mutex is its owner. -/
lemma Inv.held_owner (inv : s.Inv) (pos : 0 < s.held t m) : (s.mutexes m).owner = some t := by
  rw [inv.calls.held, share] at pos
  split_ifs at pos with own
  · exact own.1
  · cases pos

/-- A thread that waits, waits for one that has the mutex or is about to return with it. -/
lemma Inv.waits_for (inv : s.Inv) (waits : s.waitsIn t = some m)
    (suspended : (s.threads t).suspended = true) :
    ∃ u, u ≠ t ∧ (0 < s.held u m ∨ s.waitsIn u = some m ∧ (s.threads u).suspended = false) := by
  have pending : (s.threads t).pendingObject = some m := by
    rcases inv.calls.woken t m waits with pending | ⟨none, -⟩
    · exact pending
    · rw [inv.graph.suspended, none] at suspended
      cases suspended
  have mem := (inv.graph.waiting t m).mpr pending
  obtain ⟨u, own⟩ := Option.ne_none_iff_exists'.mp fun none => List.ne_nil_of_mem mem (inv.owned m none)
  refine ⟨u, fun is => inv.graph.other t m mem (is ▸ own), ?_⟩
  by_cases idle : s.waitsIn u = some m
  · refine .inr ⟨idle, ?_⟩
    rcases inv.calls.woken u m idle with pending' | ⟨none, -⟩
    · exact absurd own (inv.graph.other u m ((inv.graph.waiting u m).mpr pending'))
    · rw [inv.graph.suspended, none]
      rfl
  · refine .inl ?_
    rw [inv.calls.held, share, if_pos ⟨own, idle⟩]
    exact Int.natCast_pos.mpr (hold_pos (inv.calls.hold u m own))

/-! ## Results -/

/-- In every run a thread has the priority of the most urgent of itself and the threads that wait for
    it, directly or through others. The threads that wait for a mutex are in the order of their
    priorities, and the first of them gets it when it is released. -/
theorem mutex_inherits (priority : Fin n → Priority) (acts : List (Act n)) :
    let s := acts.foldl step (initial priority)
    (∀ t, IsLeast {p | ∃ u, ReflTransGen s.Waits u t ∧ priority u = p} (s.currPrio t)) ∧
      ∀ m, (s.mutexes m).suspendThread.Pairwise (s.currPrio · ≤ s.currPrio ·) ∧
        ∀ t, s.waitsIn t = none → s.held t m = 1 →
          ((s.step (.release t m)).mutexes m).owner = (s.mutexes m).suspendThread.head? := by
  intro s
  have inv : s.Inv := (Inv.initial priority).run acts
  have own : ∀ t, (s.threads t).initPriority = priority t := init_run (initial priority) acts
  refine ⟨fun t => ⟨?_, ?_⟩, fun m => ⟨(inv.settled.lists m).1, fun t idle once => ?_⟩⟩
  · obtain ⟨u, path, init⟩ := (inv.settled.fair t).2
    exact ⟨u, path, (own u).symm.trans init⟩
  · rintro p ⟨u, path, rfl⟩
    refine (inv.urgent path).trans ?_
    rw [(inv.settled.fair u).1, ← own u]
    exact (s.threadGetMutexPriority_isLeast u).2 (.inl rfl)
  · simp only [step, idle, if_true]
    exact inv.hands_over once

/-- In every run at most one thread holds a mutex, as far as the calls that have returned say, and
    only that thread can release it. No assertion fails. A thread that waits does so because of
    another, and one that has been resumed returns with the mutex, which no other thread holds. -/
theorem mutex_excludes (priority : Fin n → Priority) (acts : List (Act n)) :
    let s := acts.foldl step (initial priority)
    s.fault = false ∧
      (∀ t m, 0 ≤ s.held t m ∧ (0 < s.held t m → ∀ u, 0 < s.held u m → u = t)) ∧
      (∀ t m, s.waitsIn t = none → (s.step (.release t m)).log =
        s.log ++ [⟨t, m, .release, if 0 < s.held t m then rtEok else -rtError⟩]) ∧
      ∀ t m, s.waitsIn t = some m →
        if (s.threads t).suspended then
          ∃ u, u ≠ t ∧ (0 < s.held u m ∨ s.waitsIn u = some m ∧ (s.threads u).suspended = false)
        else (s.step (.resumed t)).log = s.log ++ [⟨t, m, .take, rtEok⟩] ∧ ∀ u, s.held u m = 0 := by
  intro s
  have inv : s.Inv := (Inv.initial priority).run acts
  refine ⟨inv.calls.fault, fun t m => ⟨?_, fun pos u pos' => ?_⟩, fun t m idle => ?_, fun t m waits => ?_⟩
  · rw [inv.calls.held, share]
    split_ifs <;> omega
  · exact Option.some.inj ((inv.held_owner pos').symm.trans (inv.held_owner pos))
  · simp only [step, idle, if_true, inv.holds idle, rtMutexRelease]
    by_cases own : (s.mutexes m).owner = some t
    · rw [if_pos own, if_pos own]
      refine congrArg (· ++ _) ?_
      split_ifs
      · exact handOver_log _ t m
      · rfl
    · rw [if_neg own, if_neg own]
      rfl
  · split_ifs with suspended
    · exact inv.waits_for waits suspended
    · have ready := Bool.eq_false_of_not_eq_true suspended
      obtain ⟨own, eq⟩ := inv.resumed waits ready
      refine ⟨?_, fun u => ?_⟩
      · simp only [step, waits, ready, eq]
        rfl
      · rw [inv.calls.held, share, own, if_neg]
        rintro ⟨is, other⟩
        cases is
        exact other waits

end MutexState

end WlhHpm.Kernel

import WlhHpm.Wlan.ApClients
import WlhHpm.Wlan.Requests

/-!
# Overlapping calls of the host

`wlh_rtt_host_start`, `wlh_rtt_host_stop` and `wlh_rtt_host_recover` of `src/wlh_rtt_host.c` as calls
that overlap: each is a program counter (`CallPc`), and a step of a call is one call into Core or the
transport, or the work on the host between two of them. Core is running or stopped; `wlh_host_start`
succeeds only from stopped and `wlh_host_stop` only from running, and either may fail. Any number of
calls may be on their way, among the operations and events of `Wlan/Requests.lean`.

Nothing but the order of these steps keeps `started` in step with Core. A start sets it after Core has
started, a stop clears it after Core has stopped, and a recovery leaves it set while Core is stopped
in between. `started_iff_running` says that the flag is right whenever no call is on its way, if no
call into Core succeeds in the middle of another call that it disturbs and if no recovery fails with
Core stopped. `stopped_after_failed_recovery` is the second case.

A call that runs on its own does what the functions of `Wlan/ApClients.lean` say (`start_alone`,
`stop_alone`, `recover_alone`).
-/

namespace WlhHpm.Wlan

/-- Where a call stands. -/
inductive CallPc where
  | startCheck
  | startWifi
  | startCore
  | startFlag
  | stopCheck
  | stopSta
  | stopAp
  | stopClients
  | stopWifi
  | stopCore
  | stopFlag
  | recoverCheck
  | recoverLock
  | recoverSta
  | recoverAp
  | recoverClients
  | recoverStop
  | recoverReset
  | recoverWifi (result : Int)
  | recoverStart (result : Int)
  | recoverCount (result : Int)
  | recoverDone (result : Int)
  | returned (result : Int)
  deriving DecidableEq, Repr

/-- The host with Core, and the calls so far. -/
structure System where
  wlan : State
  started : Bool
  wifiInitialized : Bool
  recovering : Bool
  recoveries : UInt32
  running : Bool
  calls : List CallPc

/-- What the environment answers to a step of a call: the result of a call into Core, and the result
    of the transport's `soft_reset` (`none` if it has none). -/
structure CallReply where
  core : HostResult := .ok
  softReset : Option Int := none

namespace System

/-- The host after `wlh_rtt_host_init`. -/
def initial (counter : UInt32) (maxClients : Nat) : System :=
  ⟨.initial counter maxClients, false, false, false, 0, false, []⟩

/-- Core's `wlh_host_start` would succeed. -/
def StartsCore (s : System) (r : CallReply) : Prop := s.running = false ∧ r.core = .ok

/-- Core's `wlh_host_stop` would succeed. -/
def StopsCore (s : System) (r : CallReply) : Prop := s.running = true ∧ r.core = .ok

instance (s : System) (r : CallReply) : Decidable (s.StartsCore r) :=
  inferInstanceAs (Decidable (_ ∧ _))

instance (s : System) (r : CallReply) : Decidable (s.StopsCore r) :=
  inferInstanceAs (Decidable (_ ∧ _))

/-- A pass of the loop of `wlh_rtt_wlan_reset`. -/
def resetWlan (s : System) (i : Iface) : System :=
  { s with wlan := s.wlan.moved (resetInterface s.wlan.host i) }

/-- The end of `wlh_rtt_wlan_reset`. -/
def clearClients (s : System) : System :=
  { s with wlan := { s.wlan with host := wlhRttApClientClear s.wlan.host } }

/-- A step of a call: what it does to the host, and where it stands after it. -/
def callStep (s : System) (r : CallReply) : CallPc → System × CallPc
  -- wlh_rtt_host_start
  | .startCheck => (s, if s.started then .returned (-rtEbusy) else .startWifi)
  | .startWifi => ({ s with wifiInitialized := false }, .startCore)
  | .startCore =>
    if s.StartsCore r then ({ s with running := true }, .startFlag) else (s, .returned (-rtError))
  | .startFlag => ({ s with started := true }, .returned rtEok)
  -- wlh_rtt_host_stop
  | .stopCheck => (s, if s.started then .stopSta else .returned (-rtEinval))
  | .stopSta => (s.resetWlan .sta, .stopAp)
  | .stopAp => (s.resetWlan .ap, .stopClients)
  | .stopClients => (s.clearClients, .stopWifi)
  | .stopWifi => ({ s with wifiInitialized := false }, .stopCore)
  | .stopCore =>
    if s.StopsCore r then ({ s with running := false }, .stopFlag) else (s, .returned (-rtError))
  | .stopFlag => ({ s with started := false }, .returned rtEok)
  -- wlh_rtt_host_recover; the test and the setting of `recovering` are under the lock
  | .recoverCheck => (s, if s.started then .recoverLock else .returned (-rtEinval))
  | .recoverLock =>
    if s.recovering then (s, .returned (-rtEbusy)) else ({ s with recovering := true }, .recoverSta)
  | .recoverSta => (s.resetWlan .sta, .recoverAp)
  | .recoverAp => (s.resetWlan .ap, .recoverClients)
  | .recoverClients => (s.clearClients, .recoverStop)
  | .recoverStop =>
    if s.StopsCore r then ({ s with running := false }, .recoverReset)
    else (s, .recoverWifi (-rtError))
  | .recoverReset => (s, .recoverWifi (r.softReset.getD rtEok))
  | .recoverWifi result => ({ s with wifiInitialized := false }, .recoverStart result)
  | .recoverStart result =>
    if result = rtEok then
      if s.StartsCore r then ({ s with running := true }, .recoverCount rtEok)
      else (s, .recoverCount (-rtError))
    else (s, .recoverCount result)
  | .recoverCount result =>
    (if result = rtEok then { s with recoveries := s.recoveries + 1 } else s, .recoverDone result)
  | .recoverDone result => ({ s with recovering := false }, .returned result)
  | .returned result => (s, .returned result)

end System

/-- One step of the system: a call is made or goes on, or the adapter works. -/
inductive SysAct where
  | start
  | stop
  | recover
  | step (n : Nat) (r : CallReply)
  | wlan (a : Act)

namespace System

def step (s : System) : SysAct → System
  | .start => { s with calls := s.calls ++ [.startCheck] }
  | .stop => { s with calls := s.calls ++ [.stopCheck] }
  | .recover => { s with calls := s.calls ++ [.recoverCheck] }
  | .step n r =>
    match s.calls[n]? with
    | none => s
    | some pc =>
      let next := s.callStep r pc
      { next.1 with calls := s.calls.set n next.2 }
  | .wlan a => { s with wlan := s.wlan.step a }

/-- No call is on its way. -/
def Quiet (s : System) : Prop := ∀ pc ∈ s.calls, ∃ result, pc = .returned result

end System

/-! ## Calls between Core and the flag -/

namespace CallPc

/-- A recovery that has stopped Core and will start it again. -/
def Restarting : CallPc → Prop
  | .recoverReset => True
  | .recoverWifi result => result = rtEok
  | .recoverStart result => result = rtEok
  | _ => False

/-- A call that has changed Core and has not yet brought the flag and Core together again. -/
def Transit : CallPc → Prop
  | .startFlag => True
  | .stopFlag => True
  | .recoverReset => True
  | .recoverWifi result => result = rtEok
  | .recoverStart result => result = rtEok
  | _ => False

/-- A recovery that will start Core again has the flag and Core apart. -/
lemma Restarting.transit {pc : CallPc} (h : pc.Restarting) : pc.Transit := by
  cases pc <;> first | exact h | exact h.elim

/-- A call that is not in transit is not about to set the flag. -/
lemma ne_of_not_transit {pc : CallPc} (out : ¬ pc.Transit) : pc ≠ .startFlag ∧ pc ≠ .stopFlag := by
  constructor
  · rintro rfl
    exact out trivial
  · rintro rfl
    exact out trivial

end CallPc

namespace System

/-- Some recovery has stopped Core and will start it again. -/
def SomeRestart (s : System) : Prop := ∃ pc ∈ s.calls, pc.Restarting

/-- The step of a call that stands at `pc` does not meet another call halfway. Core is not started
    while a stop is about to clear the flag, and not stopped while a start is about to set it or a
    recovery is about to start Core again; and a recovery that has stopped Core does not fail while
    Core is stopped. -/
def Undisturbed (s : System) (r : CallReply) : CallPc → Prop
  | .startCore => s.StartsCore r → .stopFlag ∉ s.calls
  | .stopCore => s.StopsCore r → .startFlag ∉ s.calls ∧ ¬ s.SomeRestart
  | .recoverStop => s.StopsCore r → .startFlag ∉ s.calls ∧ ¬ s.SomeRestart
  | .recoverReset => r.softReset.getD rtEok = rtEok ∨ s.running = true
  | .recoverStart result =>
    result = rtEok → (s.StartsCore r → .stopFlag ∉ s.calls) ∧ (s.running = false → r.core = .ok)
  | _ => True

/-- The step disturbs no call. -/
def Orderly (s : System) : SysAct → Prop
  | .step n r => ∀ pc, s.calls[n]? = some pc → s.Undisturbed r pc
  | _ => True

/-- How the flag and Core stand to each other while calls are on their way. -/
structure FlagInv (s : System) : Prop where
  noClear : s.running = true → .stopFlag ∉ s.calls
  setting : .startFlag ∈ s.calls → s.running = true
  on : s.running = true → .startFlag ∉ s.calls → s.started = true
  restart : s.SomeRestart → s.started = true ∧ .stopFlag ∉ s.calls
  off : s.running = false → s.started = false ∨ .stopFlag ∈ s.calls ∨ s.SomeRestart

/-- What is in a list after one of its elements has been replaced. -/
lemma mem_set_iff {α : Type*} {l : List α} {n : Nat} {old new x : α} (h : l[n]? = some old)
    (ne : x ≠ old) : x ∈ l.set n new ↔ x = new ∨ x ∈ l := by
  obtain ⟨lt, get⟩ := List.getElem?_eq_some_iff.mp h
  constructor
  · exact fun mem => (List.mem_or_eq_of_mem_set mem).symm
  · rintro (rfl | mem)
    · exact List.mem_set lt _
    · obtain ⟨k, ltk, getk⟩ := List.getElem_of_mem mem
      have other : n ≠ k := by
        rintro rfl
        exact ne (getk.symm.trans get)
      refine List.mem_iff_getElem.mpr ⟨k, by simpa using ltk, ?_⟩
      rw [List.getElem_set_ne other, getk]

/-- A step that neither begins nor ends a transit, and touches neither the flag nor Core. -/
lemma FlagInv.neutral {s s' : System} {n : Nat} {pc pc' : CallPc} (inv : s.FlagInv)
    (at_n : s.calls[n]? = some pc) (calls : s'.calls = s.calls.set n pc') (out : ¬ pc.Transit)
    (out' : ¬ pc'.Transit) (started : s'.started = s.started) (running : s'.running = s.running) :
    s'.FlagInv := by
  obtain ⟨noSet, noClear⟩ := CallPc.ne_of_not_transit out
  obtain ⟨noSet', noClear'⟩ := CallPc.ne_of_not_transit out'
  have set : .startFlag ∈ s'.calls ↔ .startFlag ∈ s.calls := by
    rw [calls, mem_set_iff at_n noSet.symm]
    exact ⟨fun h => h.resolve_left noSet'.symm, .inr⟩
  have clear : .stopFlag ∈ s'.calls ↔ .stopFlag ∈ s.calls := by
    rw [calls, mem_set_iff at_n noClear.symm]
    exact ⟨fun h => h.resolve_left noClear'.symm, .inr⟩
  have restart : s'.SomeRestart ↔ s.SomeRestart := by
    unfold SomeRestart
    refine exists_congr fun x => and_congr_left fun rx => ?_
    rw [calls, mem_set_iff at_n (fun e => out (e ▸ rx.transit))]
    exact ⟨fun h => h.resolve_left fun e => out' (e ▸ rx.transit), .inr⟩
  constructor
  · rw [running, clear]
    exact inv.noClear
  · rw [running, set]
    exact inv.setting
  · rw [running, set, started]
    exact inv.on
  · rw [restart, started, clear]
    exact inv.restart
  · rw [running, started, clear, restart]
    exact inv.off

/-- What a replaced element can bring into a list. -/
lemma restart_of_set {s s' : System} {n : Nat} {pc' : CallPc} (calls : s'.calls = s.calls.set n pc')
    (out' : ¬ pc'.Restarting) (h : s'.SomeRestart) : s.SomeRestart := by
  obtain ⟨x, mem, rx⟩ := h
  rw [calls] at mem
  rcases List.mem_or_eq_of_mem_set mem with mem | rfl
  · exact ⟨x, mem, rx⟩
  · exact absurd rx out'

/-- The calls besides the one that has moved are old ones. -/
lemma mem_of_set {s s' : System} {n : Nat} {pc' x : CallPc} (calls : s'.calls = s.calls.set n pc')
    (ne : x ≠ pc') (mem : x ∈ s'.calls) : x ∈ s.calls := by
  rw [calls] at mem
  exact (List.mem_or_eq_of_mem_set mem).resolve_right ne

/-- The call that has moved is one of the calls. -/
lemma mem_calls_set {s s' : System} {n : Nat} {pc pc' : CallPc} (at_n : s.calls[n]? = some pc)
    (calls : s'.calls = s.calls.set n pc') : pc' ∈ s'.calls := by
  rw [calls]
  exact List.mem_set (List.getElem?_eq_some_iff.mp at_n).1 _

section Transit
variable {s s' : System} {n : Nat} {pc pc' : CallPc}

/-- A recovery goes on towards its restart. -/
lemma FlagInv.restart_goes (inv : s.FlagInv) (at_n : s.calls[n]? = some pc)
    (calls : s'.calls = s.calls.set n pc') (was : pc.Restarting) (is : pc'.Restarting)
    (started : s'.started = s.started) (running : s'.running = s.running) : s'.FlagInv := by
  have here : s.SomeRestart := ⟨pc, List.mem_of_getElem? at_n, was⟩
  have still : s'.SomeRestart := ⟨pc', mem_calls_set at_n calls, is⟩
  obtain ⟨flag, noClear⟩ := inv.restart here
  have clear : .stopFlag ∉ s'.calls := fun mem =>
    noClear (mem_of_set calls (fun e => by subst e; exact is) mem)
  refine ⟨fun _ => clear, fun mem => ?_, fun _ _ => started ▸ flag, fun _ => ⟨started ▸ flag, clear⟩,
    fun _ => .inr (.inr still)⟩
  rw [running]
  exact inv.setting (mem_of_set calls (fun e => by subst e; exact is) mem)

/-- A recovery ends its restart with Core running. -/
lemma FlagInv.restart_leaves (inv : s.FlagInv) (at_n : s.calls[n]? = some pc)
    (calls : s'.calls = s.calls.set n pc') (was : pc.Restarting) (out : ¬ pc'.Transit)
    (started : s'.started = s.started) (running : s'.running = true) : s'.FlagInv := by
  have here : s.SomeRestart := ⟨pc, List.mem_of_getElem? at_n, was⟩
  obtain ⟨flag, noClear⟩ := inv.restart here
  have clear : .stopFlag ∉ s'.calls := fun mem =>
    noClear (mem_of_set calls (CallPc.ne_of_not_transit out).2.symm mem)
  refine ⟨fun _ => clear, fun _ => running, fun _ _ => started ▸ flag,
    fun _ => ⟨started ▸ flag, clear⟩, fun off => ?_⟩
  rw [running] at off
  cases off

/-- A start has started Core. -/
lemma FlagInv.startCore (inv : s.FlagInv) (calls : s'.calls = s.calls.set n .startFlag)
    (at_n : s.calls[n]? = some pc) (noStop : .stopFlag ∉ s.calls)
    (started : s'.started = s.started) (running : s'.running = true) : s'.FlagInv := by
  have set : .startFlag ∈ s'.calls := mem_calls_set at_n calls
  have clear : .stopFlag ∉ s'.calls := fun mem => noStop (mem_of_set calls (by decide) mem)
  refine ⟨fun _ => clear, fun _ => running, fun _ unset => absurd set unset, fun h => ?_,
    fun off => ?_⟩
  · exact ⟨started ▸ (inv.restart (restart_of_set calls (by simp [CallPc.Restarting]) h)).1, clear⟩
  · rw [running] at off
    cases off

/-- A start sets the flag. -/
lemma FlagInv.startFlag {result : Int} (inv : s.FlagInv) (at_n : s.calls[n]? = some .startFlag)
    (calls : s'.calls = s.calls.set n (.returned result)) (started : s'.started = true)
    (running : s'.running = s.running) : s'.FlagInv := by
  have on : s'.running = true := running.trans (inv.setting (List.mem_of_getElem? at_n))
  have clear : .stopFlag ∉ s'.calls := fun mem =>
    inv.noClear (running ▸ on) (mem_of_set calls (by simp) mem)
  refine ⟨fun _ => clear, fun _ => on, fun _ _ => started, fun _ => ⟨started, clear⟩, fun off => ?_⟩
  rw [on] at off
  cases off

/-- A stop has stopped Core. -/
lemma FlagInv.stopCore (calls : s'.calls = s.calls.set n .stopFlag)
    (at_n : s.calls[n]? = some pc) (noSet : .startFlag ∉ s.calls) (noRestart : ¬ s.SomeRestart)
    (running : s'.running = false) : s'.FlagInv := by
  have clear : .stopFlag ∈ s'.calls := mem_calls_set at_n calls
  refine ⟨fun on => ?_, fun mem => ?_, fun on => ?_, fun h => ?_, fun _ => .inr (.inl clear)⟩
  · rw [running] at on
    cases on
  · exact absurd (mem_of_set calls (by decide) mem) noSet
  · rw [running] at on
    cases on
  · exact absurd (restart_of_set calls (by simp [CallPc.Restarting]) h) noRestart

/-- A stop clears the flag. -/
lemma FlagInv.stopFlag {result : Int} (inv : s.FlagInv) (at_n : s.calls[n]? = some .stopFlag)
    (calls : s'.calls = s.calls.set n (.returned result)) (started : s'.started = false)
    (running : s'.running = s.running) : s'.FlagInv := by
  have mem := List.mem_of_getElem? at_n
  have stopped : ¬ s.running = true := fun on => inv.noClear on mem
  refine ⟨fun on => absurd (running ▸ on) stopped, fun set => ?_,
    fun on => absurd (running ▸ on) stopped, fun h => ?_, fun _ => .inl started⟩
  · exact absurd (inv.setting (mem_of_set calls (by simp) set)) stopped
  · have before := restart_of_set calls (by simp [CallPc.Restarting]) h
    exact absurd mem (inv.restart before).2

/-- A recovery has stopped Core. -/
lemma FlagInv.recoverStop (inv : s.FlagInv) (at_n : s.calls[n]? = some pc)
    (calls : s'.calls = s.calls.set n .recoverReset) (on : s.running = true)
    (noSet : .startFlag ∉ s.calls) (started : s'.started = s.started) : s'.FlagInv := by
  have flag : s'.started = true := started.trans (inv.on on noSet)
  have clear : .stopFlag ∉ s'.calls := fun mem =>
    inv.noClear on (mem_of_set calls (by decide) mem)
  have here : s'.SomeRestart := ⟨.recoverReset, mem_calls_set at_n calls, trivial⟩
  exact ⟨fun _ => clear, fun mem => absurd (mem_of_set calls (by decide) mem) noSet,
    fun _ _ => flag, fun _ => ⟨flag, clear⟩, fun _ => .inr (.inr here)⟩

end Transit

/-- A step of a call that disturbs no other keeps the invariant. -/
lemma FlagInv.callStep {s : System} {n : Nat} {pc : CallPc} (inv : s.FlagInv)
    (at_n : s.calls[n]? = some pc) (r : CallReply) (ok : s.Undisturbed r pc) :
    FlagInv { (s.callStep r pc).1 with calls := s.calls.set n (s.callStep r pc).2 } := by
  cases pc with
  | startCheck =>
    simp only [System.callStep]
    split
    · exact inv.neutral at_n rfl id id rfl rfl
    · exact inv.neutral at_n rfl id id rfl rfl
  | startCore =>
    simp only [System.callStep]
    split
    · rename_i starts
      exact inv.startCore rfl at_n (ok starts) rfl rfl
    · exact inv.neutral at_n rfl id id rfl rfl
  | startFlag => exact inv.startFlag at_n rfl rfl rfl
  | stopCheck =>
    simp only [System.callStep]
    split
    · exact inv.neutral at_n rfl id id rfl rfl
    · exact inv.neutral at_n rfl id id rfl rfl
  | stopCore =>
    simp only [System.callStep]
    split
    · rename_i stops
      exact FlagInv.stopCore rfl at_n (ok stops).1 (ok stops).2 rfl
    · exact inv.neutral at_n rfl id id rfl rfl
  | stopFlag => exact inv.stopFlag at_n rfl rfl rfl
  | recoverCheck =>
    simp only [System.callStep]
    split
    · exact inv.neutral at_n rfl id id rfl rfl
    · exact inv.neutral at_n rfl id id rfl rfl
  | recoverLock =>
    simp only [System.callStep]
    split
    · exact inv.neutral at_n rfl id id rfl rfl
    · exact inv.neutral at_n rfl id id rfl rfl
  | recoverStop =>
    simp only [System.callStep]
    split
    · rename_i stops
      exact inv.recoverStop at_n rfl stops.1 (ok stops).1 rfl
    · have failed : ¬ -rtError = rtEok := by decide
      exact inv.neutral at_n rfl id failed rfl rfl
  | recoverReset =>
    simp only [System.callStep]
    rcases ok with ok | on
    · exact inv.restart_goes at_n rfl trivial ok rfl rfl
    · by_cases ok : r.softReset.getD rtEok = rtEok
      · exact inv.restart_goes at_n rfl trivial ok rfl rfl
      · exact inv.restart_leaves at_n rfl trivial ok rfl on
  | recoverWifi result =>
    by_cases ok : result = rtEok
    · exact inv.restart_goes at_n rfl ok ok rfl rfl
    · exact inv.neutral at_n rfl ok ok rfl rfl
  | recoverStart result =>
    simp only [System.callStep]
    split
    · rename_i eok
      obtain ⟨noStop, fine⟩ := ok eok
      split
      · exact inv.restart_leaves at_n rfl eok id rfl rfl
      · rename_i fails
        have on : s.running = true := by
          by_contra off
          have off' := Bool.eq_false_iff.mpr off
          exact fails ⟨off', fine off'⟩
        exact inv.restart_leaves at_n rfl eok id rfl on
    · rename_i bad
      exact inv.neutral at_n rfl bad id rfl rfl
  | recoverCount result =>
    simp only [System.callStep]
    split
    · exact inv.neutral at_n rfl id id rfl rfl
    · exact inv.neutral at_n rfl id id rfl rfl
  | _ => exact inv.neutral at_n rfl id id rfl rfl

/-- A new call disturbs nothing. -/
lemma FlagInv.call {s : System} (inv : s.FlagInv) {pc : CallPc} (out : ¬ pc.Transit) :
    FlagInv { s with calls := s.calls ++ [pc] } := by
  obtain ⟨noSet, noClear⟩ := CallPc.ne_of_not_transit out
  have set : .startFlag ∈ s.calls ++ [pc] ↔ .startFlag ∈ s.calls := by simp [noSet.symm]
  have clear : .stopFlag ∈ s.calls ++ [pc] ↔ .stopFlag ∈ s.calls := by simp [noClear.symm]
  have restart : SomeRestart { s with calls := s.calls ++ [pc] } ↔ s.SomeRestart := by
    unfold SomeRestart
    refine exists_congr fun x => and_congr_left fun rx => ?_
    have ne : x ≠ pc := fun e => out (e ▸ rx.transit)
    simp [ne]
  constructor
  · exact fun on => clear.not.mpr (inv.noClear on)
  · exact fun mem => inv.setting (set.mp mem)
  · exact fun on unset => inv.on on (set.not.mp unset)
  · exact fun h => ⟨(inv.restart (restart.mp h)).1, clear.not.mpr (inv.restart (restart.mp h)).2⟩
  · exact fun off => (inv.off off).imp_right (Or.imp clear.mpr restart.mpr)

/-- An orderly step keeps the flag and Core together. -/
lemma FlagInv.step {s : System} (inv : s.FlagInv) {a : SysAct} (ok : s.Orderly a) :
    (s.step a).FlagInv := by
  cases a with
  | start => exact inv.call id
  | stop => exact inv.call id
  | recover => exact inv.call id
  | step n r =>
    simp only [System.step]
    split
    · exact inv
    · rename_i pc at_n
      exact inv.callStep at_n r (ok pc at_n)
  | wlan a => exact ⟨inv.noClear, inv.setting, inv.on, inv.restart, inv.off⟩

/-- The flag and Core are together after `wlh_rtt_host_init`. -/
lemma flagInv_initial (counter : UInt32) (maxClients : Nat) : (initial counter maxClients).FlagInv := by
  refine ⟨fun on => ?_, fun mem => ?_, fun on => ?_, fun h => ?_, fun _ => .inl rfl⟩
  · cases on
  · cases mem
  · cases on
  · obtain ⟨pc, mem, -⟩ := h
    cases mem

/-- If no call is on its way, none is in transit. -/
lemma Quiet.not_mem {s : System} (quiet : s.Quiet) {pc : CallPc} (mem : pc ∈ s.calls) :
    ¬ pc.Transit := by
  obtain ⟨result, rfl⟩ := quiet pc mem
  exact id

/-- In every run in which no call is disturbed, the flag says whether Core is running whenever no
    call is on its way. -/
theorem started_iff_running (counter : UInt32) (maxClients : Nat) (acts : List SysAct)
    (ok : Along step Orderly (initial counter maxClients) acts)
    (quiet : (acts.foldl step (initial counter maxClients)).Quiet) :
    (acts.foldl step (initial counter maxClients)).started = true ↔
      (acts.foldl step (initial counter maxClients)).running = true := by
  have inv : (acts.foldl step (initial counter maxClients)).FlagInv :=
    ok.invariant (fun s a inv now => inv.step now) (flagInv_initial counter maxClients)
  generalize acts.foldl step (initial counter maxClients) = s at inv quiet
  have noSet : .startFlag ∉ s.calls := fun mem => quiet.not_mem mem trivial
  have noClear : .stopFlag ∉ s.calls := fun mem => quiet.not_mem mem trivial
  have noRestart : ¬ s.SomeRestart := fun ⟨pc, mem, rpc⟩ => quiet.not_mem mem rpc.transit
  constructor
  · intro started
    by_contra off
    rcases inv.off (Bool.eq_false_iff.mpr off) with clear | clear | restart
    · rw [started] at clear
      cases clear
    · exact noClear clear
    · exact noRestart restart
  · exact fun on => inv.on on noSet

/-- Host started, then a recovery of which nothing fails. -/
def recovered : List SysAct :=
  [[.start], List.replicate 4 (.step 0 {}), [.recover], List.replicate 11 (.step 1 {})].flatten

/-- Host started, then a recovery whose soft reset fails. -/
def failedRecovery : List SysAct :=
  [[.start], List.replicate 4 (.step 0 {}), [.recover],
    List.replicate 11 (.step 1 { softReset := some (-5) })].flatten

/-- Calls that have all returned are not on their way. -/
lemma quiet_of_calls {s : System} {results : List Int} (h : s.calls = results.map .returned) :
    s.Quiet := by
  intro pc mem
  rw [h] at mem
  obtain ⟨result, -, e⟩ := List.mem_map.mp mem
  exact ⟨result, e.symm⟩

/-- After a recovery in which nothing fails. -/
theorem started_after_recovery :
    (recovered.foldl step (initial 0 8)).started = true ↔
      (recovered.foldl step (initial 0 8)).running = true := by
  have calls : (recovered.foldl step (initial 0 8)).calls = [0, 0].map .returned := by decide +kernel
  refine started_iff_running 0 8 recovered ?_ (quiet_of_calls calls)
  simp [recovered, Along, Orderly, step, callStep, initial, Undisturbed, StartsCore, StopsCore,
    SomeRestart, CallPc.Restarting, resetWlan, clearClients]

/-- With the flag set and Core stopped the host can neither be started nor stopped. -/
lemma refused_of_flag {s : System} (started : s.started = true) (running : s.running = false)
    (r : CallReply) :
    (s.callStep r .startCheck).2 = .returned (-rtEbusy) ∧
      (s.callStep r .stopCore).2 = .returned (-rtError) := by
  constructor
  · simp [callStep, started]
  · simp [callStep, StopsCore, running]

/-- After a recovery whose soft reset fails, Core is stopped and the flag is set; the host can then
    neither be started nor stopped. -/
theorem stopped_after_failed_recovery :
    let s := failedRecovery.foldl step (initial 0 8)
    (s.Quiet ∧ s.started = true ∧ s.running = false) ∧
      ∀ r : CallReply,
        (s.callStep r .startCheck).2 = .returned (-rtEbusy) ∧
        (s.callStep r .stopCore).2 = .returned (-rtError) := by
  have calls : (failedRecovery.foldl step (initial 0 8)).calls = [0, -5].map .returned := by
    decide +kernel
  have started : (failedRecovery.foldl step (initial 0 8)).started = true := by decide +kernel
  have running : (failedRecovery.foldl step (initial 0 8)).running = false := by decide +kernel
  exact ⟨⟨quiet_of_calls calls, started, running⟩, refused_of_flag started running⟩

/-- Two threads: a start passes its check and waits, the other thread starts the host and runs a stop
    up to its last step, the start goes on to its end, and the stop goes on. -/
def race : List SysAct :=
  let go (k n : Nat) : List SysAct := List.replicate k (.step n {})
  [[.start], go 2 0, [.start], go 4 1, [.stop], go 6 2, go 2 0, go 1 2].flatten

/-- The stop clears the flag under a running Core. -/
theorem flag_lost_in_race :
    (race.foldl step (initial 0 8)).Quiet ∧ (race.foldl step (initial 0 8)).started = false ∧
      (race.foldl step (initial 0 8)).running = true := by
  have calls : (race.foldl step (initial 0 8)).calls = [0, 0, 0].map .returned := by decide +kernel
  exact ⟨quiet_of_calls calls, by decide +kernel, by decide +kernel⟩

/-! ## A call on its own -/

/-- The part of the host that `Wlan/ApClients.lean` describes. -/
def lifecycle (s : System) : Lifecycle :=
  ⟨s.wlan.host, s.started, s.wifiInitialized, s.recovering, s.recoveries⟩

/-- A call that runs without another step in between. -/
def callRun : System → CallPc → List CallReply → System × CallPc
  | s, pc, [] => (s, pc)
  | s, pc, r :: replies => callRun (s.callStep r pc).1 (s.callStep r pc).2 replies

/-- A call that runs alone takes one step and then the others. -/
lemma callRun_cons {s s' : System} {r : CallReply} {pc pc' : CallPc}
    (h : s.callStep r pc = (s', pc')) (replies : List CallReply) :
    s.callRun pc (r :: replies) = s'.callRun pc' replies := by
  rw [callRun, h]

/-- A call that has returned does nothing. -/
lemma callRun_returned (s : System) (result : Int) (replies : List CallReply) :
    s.callRun (.returned result) replies = (s, .returned result) := by
  induction replies with
  | nil => rfl
  | cons r replies ih => exact ih

/-- A start on its own does what `wlhRttHostStart` says, with the answer of Core. -/
theorem start_alone (s : System) (r : CallReply) (core : HostResult)
    (answer : core = .ok ↔ s.StartsCore r) :
    ((s.callRun .startCheck [{}, {}, r, {}]).1.lifecycle, (s.callRun .startCheck [{}, {}, r, {}]).2) =
      ((s.lifecycle.wlhRttHostStart core).1, .returned (s.lifecycle.wlhRttHostStart core).2) := by
  cases flag : s.started with
  | true =>
    have check : s.callStep {} .startCheck = (s, .returned (-rtEbusy)) := by
      rw [callStep, flag]
      rfl
    rw [callRun_cons check, callRun_returned, Lifecycle.wlhRttHostStart]
    simp only [lifecycle, flag, if_true]
  | false =>
    have check : s.callStep {} .startCheck = (s, .startWifi) := by
      rw [callStep, flag]
      rfl
    rw [callRun_cons check, callRun_cons rfl, Lifecycle.wlhRttHostStart]
    by_cases ok : s.StartsCore r
    · have core' := answer.mpr ok
      have starts : callStep { s with wifiInitialized := false } r .startCore =
          ({ s with wifiInitialized := false, running := true }, .startFlag) := if_pos ok
      rw [callRun_cons starts, callRun_cons rfl, callRun]
      simp only [lifecycle, flag, core', Bool.false_eq_true, if_false, ne_eq, not_true_eq_false]
    · have core' : core ≠ .ok := fun h => ok (answer.mp h)
      have fails : callStep { s with wifiInitialized := false } r .startCore =
          ({ s with wifiInitialized := false }, .returned (-rtError)) := if_neg ok
      rw [callRun_cons fails, callRun_returned]
      simp only [lifecycle, flag, core', Bool.false_eq_true, if_false, ne_eq, not_false_eq_true,
        if_true]

/-- The host after the three steps of `wlh_rtt_wlan_reset`. -/
def wlanReset (s : System) : System := ((s.resetWlan .sta).resetWlan .ap).clearClients

/-- A stop on its own does what `wlhRttHostStop` says, with the answer of Core. -/
theorem stop_alone (s : System) (r : CallReply) (core : HostResult)
    (answer : core = .ok ↔ s.StopsCore r) :
    ((s.callRun .stopCheck [{}, {}, {}, {}, {}, r, {}]).1.lifecycle,
        (s.callRun .stopCheck [{}, {}, {}, {}, {}, r, {}]).2) =
      ((s.lifecycle.wlhRttHostStop core).1, .returned (s.lifecycle.wlhRttHostStop core).2) := by
  cases flag : s.started with
  | false =>
    have check : s.callStep {} .stopCheck = (s, .returned (-rtEinval)) := by
      rw [callStep, flag]
      rfl
    rw [callRun_cons check, callRun_returned, Lifecycle.wlhRttHostStop]
    simp only [lifecycle, flag, if_true]
  | true =>
    have check : s.callStep {} .stopCheck = (s, .stopSta) := by
      rw [callStep, flag]
      rfl
    have reset (replies : List CallReply) : s.callRun .stopSta ({} :: {} :: {} :: {} :: replies) =
        callRun { s.wlanReset with wifiInitialized := false } .stopCore replies := rfl
    rw [callRun_cons check, reset, Lifecycle.wlhRttHostStop]
    by_cases ok : s.StopsCore r
    · have core' := answer.mpr ok
      have stops : callStep { s.wlanReset with wifiInitialized := false } r .stopCore =
          ({ s.wlanReset with wifiInitialized := false, running := false }, .stopFlag) := if_pos ok
      rw [callRun_cons stops, callRun_cons rfl, callRun]
      simp only [lifecycle, flag, core', Bool.true_eq_false, if_false, ne_eq, not_true_eq_false]
      rfl
    · have core' : core ≠ .ok := fun h => ok (answer.mp h)
      have fails : callStep { s.wlanReset with wifiInitialized := false } r .stopCore =
          ({ s.wlanReset with wifiInitialized := false }, .returned (-rtError)) := if_neg ok
      rw [callRun_cons fails, callRun_returned]
      have kept : s.wlanReset.started = true := flag
      simp only [lifecycle, flag, kept, core', Bool.true_eq_false, if_false, ne_eq,
        not_false_eq_true, if_true]
      rfl

/-- The end of a recovery, from its second call into Core on. -/
lemma recover_ends (s : System) (result : Int) (start r r' : CallReply) (replies : List CallReply) :
    let final := if result = rtEok ∧ ¬ s.StartsCore start then -rtError else result
    let e := s.callRun (.recoverStart result) (start :: r :: r' :: replies)
    (e.1.lifecycle, e.2) =
      ({ s.lifecycle with
        recoveries := if final = rtEok then s.recoveries + 1 else s.recoveries
        recovering := false }, .returned final) := by
  have counted (s : System) (result : Int) :
      let e := s.callRun (.recoverCount result) (r :: r' :: replies)
      (e.1.lifecycle, e.2) =
        ({ s.lifecycle with
          recoveries := if result = rtEok then s.recoveries + 1 else s.recoveries
          recovering := false }, .returned result) := by
    by_cases ok : result = rtEok
    · have count : s.callStep r (.recoverCount result) =
          ({ s with recoveries := s.recoveries + 1 }, .recoverDone result) := by
        rw [callStep, if_pos ok]
      rw [callRun_cons count, callRun_cons rfl, callRun_returned, if_pos ok]
      rfl
    · have count : s.callStep r (.recoverCount result) = (s, .recoverDone result) := by
        rw [callStep, if_neg ok]
      rw [callRun_cons count, callRun_cons rfl, callRun_returned, if_neg ok]
      rfl
  intro final e
  by_cases eok : result = rtEok
  · by_cases ok : s.StartsCore start
    · have starts : s.callStep start (.recoverStart result) =
          ({ s with running := true }, .recoverCount result) := by
        rw [callStep, if_pos eok, if_pos ok, eok]
      simp only [e, final, callRun_cons starts, counted, eok, ok, not_true_eq_false, and_false, if_false]
      rfl
    · have fails : s.callStep start (.recoverStart result) = (s, .recoverCount (-rtError)) := by
        rw [callStep, if_pos eok, if_neg ok]
      simp only [e, final, callRun_cons fails, counted, eok, ok, not_false_eq_true, and_true, if_true]
  · have skips : s.callStep start (.recoverStart result) = (s, .recoverCount result) := by
      rw [callStep, if_neg eok]
    simp only [e, final, callRun_cons skips, counted, eok, false_and, if_false]

/-- A recovery on its own does what `wlhRttHostRecover` says, with the answers of Core. -/
theorem recover_alone (s : System) (stop reset start : CallReply) (coreStop : HostResult)
    (answer : coreStop = .ok ↔ s.StopsCore stop) :
    let e := s.callRun .recoverCheck [{}, {}, {}, {}, {}, stop, reset, {}, start, {}, {}]
    (e.1.lifecycle, e.2) =
      ((s.lifecycle.wlhRttHostRecover coreStop reset.softReset start.core).1,
        .returned (s.lifecycle.wlhRttHostRecover coreStop reset.softReset start.core).2) := by
  intro e
  unfold Lifecycle.wlhRttHostRecover
  cases flag : s.started with
  | false =>
    have check : s.callStep {} .recoverCheck = (s, .returned (-rtEinval)) := by
      rw [callStep, flag]
      rfl
    simp only [e, callRun_cons check, callRun_returned, lifecycle, flag, if_true]
  | true =>
    have check : s.callStep {} .recoverCheck = (s, .recoverLock) := by
      rw [callStep, flag]
      rfl
    cases busy : s.recovering with
    | true =>
      have lock : s.callStep {} .recoverLock = (s, .returned (-rtEbusy)) := by
        rw [callStep, busy]
        rfl
      simp only [e, callRun_cons check, callRun_cons lock, callRun_returned, lifecycle, flag, busy,
        Bool.true_eq_false, if_false, if_true]
    | false =>
      have lock : s.callStep {} .recoverLock = ({ s with recovering := true }, .recoverSta) := by
        rw [callStep, busy]
        rfl
      have clean (rs : List CallReply) :
          callRun { s with recovering := true } .recoverSta ({} :: {} :: {} :: rs) =
            callRun { s.wlanReset with recovering := true } .recoverStop rs := rfl
      by_cases ok : s.StopsCore stop
      · have core := answer.mpr ok
        have stops : callStep { s.wlanReset with recovering := true } stop .recoverStop =
            ({ s.wlanReset with recovering := true, running := false }, .recoverReset) := if_pos ok
        have restarts : StartsCore { s.wlanReset with
            recovering := true
            running := false
            wifiInitialized := false } start ↔ start.core = .ok := ⟨fun h => h.2, fun h => ⟨rfl, h⟩⟩
        simp only [e, callRun_cons check, callRun_cons lock, clean, callRun_cons stops, core, if_true]
        refine (recover_ends { s.wlanReset with
            recovering := true
            running := false
            wifiInitialized := false } (reset.softReset.getD rtEok) start {} {} []).trans ?_
        have kept : s.wlanReset.started = true := flag
        simp only [restarts]
        simp only [lifecycle, flag, kept, busy, Bool.true_eq_false, Bool.false_eq_true, if_false,
          ne_eq]
        rfl
      · have core : coreStop ≠ .ok := fun h => ok (answer.mp h)
        have failed : ¬ -rtError = rtEok := by decide
        have fails : callStep { s.wlanReset with recovering := true } stop .recoverStop =
            ({ s.wlanReset with recovering := true }, .recoverWifi (-rtError)) := if_neg ok
        simp only [e, callRun_cons check, callRun_cons lock, clean, callRun_cons fails, core, if_false]
        refine (recover_ends { s.wlanReset with recovering := true, wifiInitialized := false }
          (-rtError) {} start {} [{}]).trans ?_
        have kept : s.wlanReset.started = true := flag
        simp only [lifecycle, flag, kept, busy, failed, Bool.true_eq_false, Bool.false_eq_true,
          if_false, false_and]
        rfl

end System

end WlhHpm.Wlan

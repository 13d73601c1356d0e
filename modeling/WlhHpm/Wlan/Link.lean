import WlhHpm.Wlan.Requests

/-!
# The link state and the reports to RT-Thread

The adapter keeps the state of each link in `interface->active` (and a copy in
`interface->stats.active`), and reports every change of it to RT-Thread. `Link` is the machine of
`Wlan/Requests.lean` with the reports it has made, the submission that the request of each interface
was begun with, and the submissions that Core has completed with success.

Link events are reported in four places. A connected event, a disconnected event and a reset set the
flag together with the report. A failed completion of the active request reports that the link is
down (`RT_WLAN_DEV_EVT_CONNECT_FAIL`, `DISCONNECT`, `AP_STOP`) and leaves the flag as it is; so the
flag and the reports agree exactly as long as this happens on a link that is down
(`link_state_agrees_iff`).

A disconnected event ends a request to take the link down, and not one to bring it up. A connect that
Core has completed with success is still active after the event that refuses it, and the interface
stays busy (`disconnected_ends_requests_iff`).
-/

namespace WlhHpm.Wlan

/-! ## Reports -/

/-- The reports that tell the state of the link of an interface. -/
def isLink : Iface → DevEvent → Bool
  | .sta, .connect => true
  | .sta, .connectFail => true
  | .sta, .disconnect => true
  | .ap, .apStart => true
  | .ap, .apStop => true
  | _, _ => false

/-- The last report on the link of an interface. -/
def lastLink (i : Iface) (reports : List Report) : Option DevEvent :=
  (reports.filter fun r => r.interface = i ∧ isLink i r.event).getLast?.map (·.event)

/-- The last report is the last of the new ones, if any is on the link. -/
lemma lastLink_append (i : Iface) (reports out : List Report) :
    lastLink i (reports ++ out) = (lastLink i out).or (lastLink i reports) := by
  simp only [lastLink, List.filter_append, List.getLast?_append]
  cases (out.filter fun r => r.interface = i ∧ isLink i r.event).getLast? <;> rfl

/-- Reports that are not on the link of the interface. -/
lemma lastLink_eq_none {i : Iface} {out : List Report}
    (other : ∀ r ∈ out, r.interface = i → isLink i r.event = false) : lastLink i out = none := by
  have empty : out.filter (fun r => r.interface = i ∧ isLink i r.event) = [] := by
    rw [List.filter_eq_nil_iff]
    intro r mem
    simp only [decide_eq_true_eq, not_and, Bool.not_eq_true]
    exact other r mem
  rw [lastLink, empty]
  rfl

/-- A single report. -/
lemma lastLink_singleton (i j : Iface) (event : DevEvent) (data : Option WlanInfo) :
    lastLink i [⟨j, event, data⟩] = if j = i ∧ isLink i event then some event else none := by
  simp only [lastLink, List.filter_cons, List.filter_nil]
  split
  · rename_i told
    rw [if_pos (of_decide_eq_true told)]
    rfl
  · rename_i told
    rw [if_neg fun h => told (decide_eq_true h)]
    rfl

/-- The reports of a step. -/
def State.reports (s : State) : Act → List Report
  | .complete n result =>
    match s.inPhase n .accepted with
    | some r => (wlhRttRequestComplete s.host r.slot result).2
    | none => []
  | .event e => (wlhRttWlanEvent s.host e).2
  | .scanStop i => (wlanScanStop s.host i).2
  | .reset => (wlhRttWlanReset s.host).2
  | _ => []

/-! ## The machine -/

/-- The adapter with what it has told RT-Thread and what Core has told it. -/
structure Link where
  state : State
  reports : List Report
  /-- The submission that the last request of an interface was begun with. -/
  owner : Iface → Option Nat
  /-- The submissions completed with `WLH_HOST_OK`. -/
  succeeded : List Nat

namespace Link

def initial (counter : UInt32) (maxClients : Nat) : Link where
  state := .initial counter maxClients
  reports := []
  owner := fun _ => none
  succeeded := []

/-- The submission behind the last request of each interface, after a step. -/
def nextOwner (s : Link) : Act → Iface → Option Nat
  | .begin i op =>
    match wlhRttRequestBegin s.state.host i op.kind with
    | (_, _, some _) => Function.update s.owner i (some s.state.rpcs.length)
    | (_, _, none) => s.owner
  | _ => s.owner

/-- The submissions completed with success, after a step. -/
def nextSucceeded (s : Link) : Act → List Nat
  | .complete n .ok =>
    match s.state.inPhase n .accepted with
    | some _ => s.succeeded ++ [n]
    | none => s.succeeded
  | _ => s.succeeded

def step (s : Link) (a : Act) : Link where
  state := s.state.step a
  reports := s.reports ++ s.state.reports a
  owner := s.nextOwner a
  succeeded := s.nextSucceeded a

def run (counter : UInt32) (maxClients : Nat) (acts : List Act) : Link :=
  acts.foldl step (initial counter maxClients)

/-- The flags of both interfaces say what the last report on the link said. -/
def Agrees (s : Link) : Prop :=
  ∀ i, ((s.state.host.interfaces i).active = true ↔ lastLink i s.reports = some (upEvent i)) ∧
    ((s.state.host.interfaces i).statsActive = true ↔ lastLink i s.reports = some (upEvent i))

end Link

/-! ## Flags -/

namespace Host
variable (h : Host) (i j : Iface)

/-- The two copies of the link state of an interface. -/
def flags : Bool × Bool := ((h.interfaces i).active, (h.interfaces i).statsActive)

/-- The flags after a change of an interface. -/
lemma flags_modify (f : Interface → Interface) :
    (h.modify i f).flags j =
      if j = i then ((f (h.interfaces i)).active, (f (h.interfaces i)).statsActive)
      else h.flags j := by
  simp only [flags, modify]
  split
  · rename_i e
    rw [e, Function.update_self]
  · rename_i ne
    rw [Function.update_of_ne ne]

/-- A new request leaves the flags alone. -/
@[simp] lemma flags_setRequest (r : Request) : (h.setRequest i r).flags j = h.flags j := by
  rw [setRequest, flags_modify]
  split
  · rename_i e
    rw [e]
    rfl
  · rfl

/-- A new slot leaves the flags alone. -/
@[simp] lemma flags_setCompletion (slot : Slot) (c : RequestCompletion) :
    (h.setCompletion slot c).flags j = h.flags j := by
  rw [setCompletion, flags_modify]
  split
  · rename_i e
    rw [e]
    rfl
  · rfl

/-- The end of a request leaves the flags alone. -/
@[simp] lemma flags_finish (kind : RequestKind) :
    (wlhRttRequestFinish h i kind).flags j = h.flags j := by
  simp only [wlhRttRequestFinish]
  split
  · exact h.flags_setRequest i j _
  · rfl

/-- Clearing the count of the clients, as a disconnected AP does, leaves the flags alone. -/
lemma flags_apDown : (if i = .ap then { h with apClients := 0 } else h).flags j = h.flags j := by
  split <;> rfl

/-- The start of a request leaves the flags alone. -/
lemma flags_begun (slot : Slot) (kind : RequestKind) : (h.begun slot kind).flags j = h.flags j := by
  simp only [begun]
  rw [flags_setCompletion, flags_setRequest]
  rfl

end Host

/-- What an operation does to the flags of an interface, with the last report it makes on the link:
    nothing, both flags with a report, or both flags cleared without one when the link was down. -/
inductive Told (i : Iface) (flags flags' : Bool × Bool) (last : Option DevEvent) : Prop where
  | quiet : flags' = flags → last = none → Told i flags flags' last
  | report (b : Bool) (event : DevEvent) : flags' = (b, b) → last = some event →
    (event = upEvent i ↔ b = true) → Told i flags flags' last
  | down : flags.1 = false → flags' = (false, false) → last = none → Told i flags flags' last

section Told
variable {h : Host} {i : Iface}

/-- Nothing has been done or reported. -/
lemma Told.refl : Told i (h.flags i) (h.flags i) (lastLink i []) := .quiet rfl rfl

/-- An abort leaves the flags alone. -/
lemma abort_flags (h : Host) (slot : Slot) (i : Iface) :
    (wlhRttRequestAbort h slot).flags i = h.flags i := by
  simp only [wlhRttRequestAbort]
  split
  · split
    · rfl
    · rw [Host.flags_setCompletion]
      split
      · exact h.flags_setRequest _ i _
      · rfl
  · rfl

/-- The end of a scan says nothing on a link. -/
lemma scanStop_told (h : Host) (i j : Iface) :
    Told i (h.flags i) ((wlanScanStop h j).1.flags i) (lastLink i (wlanScanStop h j).2) := by
  simp only [wlanScanStop]
  split
  · refine .quiet (h.flags_finish j i _) ?_
    cases i <;> cases j <;> rfl
  · exact .refl

/-- A connected event sets both flags and reports that the link is up. -/
lemma connected_told (h : Host)
    (decoded : Option (Option (WifiInterface × WifiNetwork × List UInt8))) (i : Iface) :
    Told i (h.flags i) ((reportConnected h decoded).1.flags i)
      (lastLink i (reportConnected h decoded).2) := by
  unfold reportConnected
  split
  · split
    · exact .refl
    · rename_i j _
      simp only
      rw [Host.flags_finish, Host.flags_modify, lastLink_singleton]
      by_cases e : i = j
      · rw [if_pos e, e]
        refine .report true (upEvent j) rfl ?_ (by simp)
        cases j <;> rfl
      · rw [if_neg e, if_neg fun h => e h.1.symm]
        exact .quiet rfl rfl
  · exact .refl

/-- A disconnected event clears both flags and reports that the link is down. -/
lemma disconnected_told (h : Host) (decoded : Option WifiInterface) (i : Iface) :
    Told i (h.flags i) ((reportDisconnected h decoded).1.flags i)
      (lastLink i (reportDisconnected h decoded).2) := by
  unfold reportDisconnected
  split
  · exact .refl
  · split
    · exact .refl
    · rename_i j _
      simp only
      rw [Host.flags_apDown, Host.flags_finish, Host.flags_modify, lastLink_singleton]
      by_cases e : i = j
      · rw [if_pos e, e]
        refine .report false (downEvent j) rfl ?_ ?_
        · cases j <;> rfl
        · cases j <;> decide
      · rw [if_neg e, if_neg fun h => e h.1.symm]
        exact .quiet rfl rfl

/-- A report on a client says nothing on a link. -/
lemma apClientUpdate_told (h : Host) (mac : List UInt8) (joined : Bool) (rssi : Int16)
    (associationId reason : UInt32) (i : Iface) :
    Told i (h.flags i) ((apClientUpdate h mac joined rssi associationId reason).1.flags i)
      (lastLink i (apClientUpdate h mac joined rssi associationId reason).2) := by
  refine .quiet rfl ?_
  simp only [apClientUpdate]
  rw [lastLink_singleton]
  cases i <;> cases joined <;> rfl

/-- An event of Core changes the flags of a link only with a report, or clears those of a link that is
    down. -/
lemma event_told (h : Host) (event : CoreEvent) (i : Iface) :
    Told i (h.flags i) ((wlhRttWlanEvent h event).1.flags i)
      (lastLink i (wlhRttWlanEvent h event).2) := by
  cases event with
  | scanResult decoded =>
    simp only [wlhRttWlanEvent]
    unfold reportScanResult
    split
    · exact .refl
    · split
      · refine .quiet rfl (lastLink_eq_none fun r mem _ => ?_)
        obtain ⟨network, -, rfl⟩ := List.mem_map.mp mem
        cases i <;> rfl
      · exact .refl
  | scanCompleted decoded =>
    simp only [wlhRttWlanEvent]
    unfold reportScanComplete
    split
    · exact .refl
    · split
      · refine .quiet (h.flags_finish .sta i _) ?_
        cases i <;> rfl
      · exact .refl
  | connected decoded => exact connected_told h decoded i
  | disconnected decoded => exact disconnected_told h decoded i
  | apClientJoined decoded =>
    simp only [wlhRttWlanEvent]
    unfold reportApClientJoined
    split
    · split
      · exact apClientUpdate_told ..
      · exact .refl
    · exact .refl
  | apClientLeft decoded =>
    simp only [wlhRttWlanEvent]
    unfold reportApClientLeft
    split
    · split
      · exact apClientUpdate_told ..
      · exact .refl
    · exact .refl

/-- A pass of the reset clears the flags of its interface. -/
lemma resetInterface_flags (h : Host) (i j : Iface) :
    (resetInterface h j).1.flags i = if i = j then (false, false) else h.flags i := by
  simp only [resetInterface]
  rw [Host.flags_modify]

/-- The reports of one pass of the reset are on its own interface. -/
lemma resetInterface_other (h : Host) {i j : Iface} (ne : j ≠ i) :
    lastLink i (resetInterface h j).2 = none := by
  refine lastLink_eq_none fun r mem own => absurd ?_ ne
  rw [← own]
  simp only [resetInterface, List.mem_append] at mem
  rcases mem with pending | down
  · split at pending
    · rw [List.mem_singleton.mp pending]
    · cases pending
  · split at down
    · rw [List.mem_singleton.mp down]
    · cases down

/-- The last report of a pass of the reset: the link is down, if it was up; else at most the end of
    the pending request. -/
lemma resetInterface_told (h : Host) (i : Iface) :
    Told i (h.flags i) (false, false) (lastLink i (resetInterface h i).2) := by
  have split_last : lastLink i (resetInterface h i).2 =
      (lastLink i (if (h.interfaces i).active then [⟨i, downEvent i, none⟩] else [])).or
        (lastLink i (if (h.request i).active then [⟨i, resetEvent (h.request i).kind, none⟩]
          else [])) := lastLink_append ..
  rw [split_last]
  cases up : (h.interfaces i).active with
  | true =>
    refine .report false (downEvent i) rfl ?_ ?_
    · cases i <;> rfl
    · cases i <;> decide
  | false =>
    cases (h.request i).active with
    | false => exact .down up rfl rfl
    | true =>
      have last : lastLink i [⟨i, resetEvent (h.request i).kind, none⟩] =
          if isLink i (resetEvent (h.request i).kind) then some (resetEvent (h.request i).kind)
          else none := by
        rw [lastLink_singleton]
        simp only [true_and]
      simp only [if_true, Bool.false_eq_true, if_false]
      rw [last, show lastLink i [] = none from rfl, Option.none_or]
      split
      · refine .report false _ rfl rfl ?_
        cases i <;> cases (h.request _).kind <;> decide
      · exact .down up rfl rfl

/-- A reset clears all flags and reports the links that were up. -/
lemma reset_told (h : Host) (i : Iface) :
    Told i (h.flags i) ((wlhRttWlanReset h).1.flags i) (lastLink i (wlhRttWlanReset h).2) := by
  have flags : (wlhRttWlanReset h).1.flags i =
      (resetInterface (resetInterface h .sta).1 .ap).1.flags i := rfl
  have last : lastLink i (wlhRttWlanReset h).2 =
      (lastLink i (resetInterface (resetInterface h .sta).1 .ap).2).or
        (lastLink i (resetInterface h .sta).2) := lastLink_append ..
  rw [flags, last, resetInterface_flags, resetInterface_flags]
  cases i with
  | sta =>
    rw [resetInterface_other _ (show Iface.ap ≠ .sta by decide), Option.none_or]
    exact resetInterface_told h .sta
  | ap =>
    rw [resetInterface_other h (show Iface.sta ≠ .ap by decide), Option.or_none]
    have told := resetInterface_told (resetInterface h .sta).1 .ap
    rwa [resetInterface_flags] at told

end Told

/-! ## Failed completions -/

/-- A request to change the link of the interface. -/
def isLinkKind (i : Iface) (kind : RequestKind) : Prop := kind = upKind i ∨ kind = downKind i

instance (i : Iface) (kind : RequestKind) : Decidable (isLinkKind i kind) :=
  inferInstanceAs (Decidable (_ ∨ _))

/-- The step is a failed completion of the active request of interface `i`, and that request is one
    to change its link. -/
def State.Refuses (s : State) (i : Iface) : Act → Prop
  | .complete n result => result ≠ .ok ∧ ∃ r, s.inPhase n .accepted = some r ∧
      (s.host.completion r.slot).inUse = true ∧ (s.host.completion r.slot).interface = some i ∧
      Matches (s.host.request i) (s.host.completion r.slot) ∧ isLinkKind i (s.host.request i).kind
  | _ => False

/-- The report for a failed request to change the link. -/
lemma lastLink_failure {i : Iface} {kind : RequestKind} (link : isLinkKind i kind) :
    ∃ event ≠ upEvent i, lastLink i
      ((failureEvent kind).map fun event => (⟨i, event, none⟩ : Report)).toList = some event := by
  cases i with
  | sta =>
    rcases link with rfl | rfl
    · exact ⟨.connectFail, by decide, rfl⟩
    · exact ⟨.disconnect, by decide, rfl⟩
  | ap =>
    rcases link with rfl | rfl
    · exact ⟨.apStop, by decide, rfl⟩
    · exact ⟨.apStop, by decide, rfl⟩

/-- Other failed requests say nothing about the link. -/
lemma lastLink_failure_other {i j : Iface} {kind : RequestKind}
    (other : ¬ (j = i ∧ isLinkKind i kind)) :
    lastLink i ((failureEvent kind).map fun event => (⟨j, event, none⟩ : Report)).toList = none := by
  revert other
  cases i <;> cases j <;> cases kind <;> decide

/-- A completion leaves the flags alone until its request is ended. -/
lemma complete_flags (h : Host) (slot : Slot) (result : HostResult) (i : Iface) :
    (wlhRttRequestComplete h slot result).1.flags i = h.flags i := by
  have cleared : ∀ (b : Prop) [Decidable b] (j : Iface) (c : RequestCompletion),
      ((if b then h.setRequest j .zero else h).setCompletion slot c).flags i = h.flags i := by
    intro b _ j c
    rw [Host.flags_setCompletion]
    split
    · exact h.flags_setRequest j i _
    · rfl
  simp only [wlhRttRequestComplete]
  split
  · split
    · rfl
    · split
      · exact cleared _ _ _
      · exact cleared _ _ _
  · rfl

/-- What a completion says about the link, unless it is such a failure. -/
lemma complete_quiet {h : Host} {slot : Slot} {result : HostResult} {i : Iface}
    (quiet : ¬ (result ≠ .ok ∧ (h.completion slot).inUse = true ∧
      (h.completion slot).interface = some i ∧ Matches (h.request i) (h.completion slot) ∧
      isLinkKind i (h.request i).kind)) :
    lastLink i (wlhRttRequestComplete h slot result).2 = none := by
  simp only [wlhRttRequestComplete]
  split
  · rename_i use
    split
    · rfl
    · rename_i j own
      split
      · rfl
      · rename_i fail
        rw [not_or, not_not] at fail
        refine lastLink_failure_other ?_
        rintro ⟨rfl, link⟩
        rw [← fail.2.2.1] at link
        exact quiet ⟨fail.1, use, own, fail.2, link⟩
  · rfl

section Step
variable (s : State) (a : Act) (i : Iface)

/-- A step that is no such failure sets the flags as it reports. -/
lemma step_told (quiet : ¬ s.Refuses i a) :
    Told i (s.host.flags i) ((s.step a).host.flags i) (lastLink i (s.reports a)) := by
  cases a with
  | begin j op =>
    simp only [State.step, State.reports]
    rcases begin_cases s.host j op.kind with busy | ⟨k, -, eq⟩
    · rw [busy]
      exact .refl
    · rw [eq]
      exact .quiet (s.host.flags_begun i _ _) rfl
  | accept n =>
    simp only [State.step, State.reports]
    split <;> exact .refl
  | reject n =>
    simp only [State.step, State.reports]
    split
    · exact .quiet (abort_flags _ _ i) rfl
    · exact .refl
  | complete n result =>
    cases found : s.inPhase n .accepted with
    | none =>
      simp only [State.step, State.reports, found]
      exact .refl
    | some r =>
      simp only [State.step, State.reports, found]
      refine .quiet (complete_flags _ _ _ i) (complete_quiet ?_)
      rintro ⟨failed, rest⟩
      exact quiet ⟨failed, r, found, rest⟩
  | finish j kind => exact .quiet (s.host.flags_finish j i kind) rfl
  | event e => exact event_told s.host e i
  | scanStop j => exact scanStop_told s.host i j
  | reset => exact reset_told s.host i

/-- Such a failure leaves the flags alone and reports that the link is down. -/
lemma step_refuses (fail : s.Refuses i a) :
    (s.step a).host.flags i = s.host.flags i ∧
      ∃ event ≠ upEvent i, lastLink i (s.reports a) = some event := by
  cases a with
  | complete n result =>
    obtain ⟨failed, r, found, use, own, matched, link⟩ := fail
    simp only [State.step, State.reports, found]
    refine ⟨complete_flags _ _ _ i, ?_⟩
    simp only [wlhRttRequestComplete, use, if_true, own]
    rw [if_neg (not_or.mpr ⟨failed, not_not.mpr matched⟩), ← matched.2.1]
    exact lastLink_failure link
  | _ => exact fail.elim

end Step

/-! ## Agreement -/

namespace Link

/-- Agreement at one interface, with the last report on its link. -/
def AgreesAt (i : Iface) (flags : Bool × Bool) (last : Option DevEvent) : Prop :=
  (flags.1 = true ↔ last = some (upEvent i)) ∧ (flags.2 = true ↔ last = some (upEvent i))

/-- Agreement at an interface outlives such an operation. -/
lemma AgreesAt.told {i : Iface} {flags flags' : Bool × Bool} {last now : Option DevEvent}
    (agrees : AgreesAt i flags last) (told : Told i flags flags' now) :
    AgreesAt i flags' (now.or last) := by
  cases told with
  | quiet same none =>
    subst same none
    exact agrees
  | report b event set some up =>
    subst set some
    have up' : b = true ↔ (some event).or last = some (upEvent i) := by
      rw [Option.some_or, Option.some_inj]
      exact up.symm
    exact ⟨up', up'⟩
  | down was set none =>
    subst set none
    -- the link was down and nothing is reported: the last report was not that it is up
    have ne : last ≠ some (upEvent i) := by
      intro up
      rw [agrees.1.mpr up] at was
      cases was
    exact ⟨iff_of_false Bool.false_ne_true ne, iff_of_false Bool.false_ne_true ne⟩

/-- The steps that keep flags and reports in agreement: no request to change a link fails while that
    link is up. -/
def Kept (s : Link) (a : Act) : Prop :=
  ∀ i, s.state.Refuses i a → (s.state.host.interfaces i).active = false

/-- Agreement is kept by exactly these steps. -/
lemma Agrees.step_iff {s : Link} (agrees : s.Agrees) (a : Act) : (s.step a).Agrees ↔ s.Kept a := by
  have now : ∀ i, lastLink i (s.step a).reports =
      (lastLink i (s.state.reports a)).or (lastLink i s.reports) := fun i => lastLink_append ..
  constructor
  · intro after i fail
    obtain ⟨flags, event, ne, last⟩ := step_refuses s.state a i fail
    have active := congrArg Prod.fst flags
    have down := (after i).1
    rw [now, last, Option.some_or, Option.some_inj] at down
    cases up : (s.state.host.interfaces i).active with
    | false => rfl
    | true => exact absurd (down.mp (active.trans up)) ne
  · intro kept i
    show AgreesAt i ((s.state.step a).host.flags i) (lastLink i (s.step a).reports)
    have agrees_i : AgreesAt i (s.state.host.flags i) (lastLink i s.reports) := agrees i
    rw [now]
    by_cases fail : s.state.Refuses i a
    · -- a failure on a link that is down: the report changes nothing
      obtain ⟨flags, event, ne, last⟩ := step_refuses s.state a i fail
      have was := kept i fail
      have notUp : lastLink i s.reports ≠ some (upEvent i) := by
        intro up
        have up' := (agrees i).1.mpr up
        rw [was] at up'
        cases up'
      have ne' : (some event).or (lastLink i s.reports) ≠ some (upEvent i) := by
        rw [Option.some_or]
        exact fun h => ne (Option.some_inj.mp h)
      rw [flags, last]
      exact ⟨iff_of_false (fun h => notUp (agrees_i.1.mp h)) ne',
        iff_of_false (fun h => notUp (agrees_i.2.mp h)) ne'⟩
    · exact agrees_i.told (step_told s.state a i fail)

/-- Both interfaces are down and nothing has been reported. -/
lemma Agrees.initial (counter : UInt32) (maxClients : Nat) : (initial counter maxClients).Agrees := by
  intro i
  exact ⟨iff_of_false Bool.false_ne_true (by rintro ⟨⟩),
    iff_of_false Bool.false_ne_true (by rintro ⟨⟩)⟩

/-- Flags and reports agree after every step of a run exactly when no request to change a link fails
    while that link is up. -/
theorem link_state_agrees_iff (counter : UInt32) (maxClients : Nat) (acts : List Act) :
    Along step (fun s a => (s.step a).Agrees) (initial counter maxClients) acts ↔
      Along step Kept (initial counter maxClients) acts :=
  along_congr (I := Agrees) (fun _ a agrees kept => (agrees.step_iff a).mpr kept)
    (fun _ a agrees => agrees.step_iff a) (.initial counter maxClients)

/-- A second join on a station that is up fails: RT-Thread is told `CONNECT_FAIL`, and the flag is
    still set. -/
theorem second_join_fails_up :
    ¬ Along step (fun s a => (s.step a).Agrees) (initial 0 4)
      [.event (.connected (some (some (.sta, ⟨.open, true, 1, 0, [], []⟩, [])))),
        .begin .sta .join, .accept 0, .complete 0 (.error 1)] := by
  intro agrees
  have after := (agrees.2.2.2.1 .sta).1
  revert after
  decide

/-! ## Requests and disconnected events -/

/-- The active request of an interface belongs to its last submission. -/
def Owned (s : Link) : Prop :=
  ∀ i, (s.state.host.request i).active = true → ∃ n r, s.owner i = some n ∧
    s.state.rpcs[n]? = some r ∧ r.interface = i ∧
    s.state.host.request i = ⟨r.kind, r.generation, true⟩

/-- Submissions keep all but their phase. -/
def RpcsKept (rpcs rpcs' : List Rpc) : Prop :=
  ∀ (n : Nat) (r : Rpc), rpcs[n]? = some r → ∃ r', rpcs'[n]? = some r' ∧
    r'.interface = r.interface ∧ r'.kind = r.kind ∧ r'.generation = r.generation

/-- Nothing has changed. -/
lemma RpcsKept.refl (rpcs : List Rpc) : RpcsKept rpcs rpcs := by
  intro n r rn
  exact ⟨r, rn, rfl, rfl, rfl⟩

/-- A submission that goes on keeps the rest of it. -/
lemma RpcsKept.advance (s : State) (m : Nat) (phase : Phase) :
    RpcsKept s.rpcs (s.advance m phase).rpcs := by
  intro n r rn
  rw [getElem?_advance, rn]
  refine ⟨_, rfl, ?_⟩
  split <;> exact ⟨rfl, rfl, rfl⟩

/-- A step that begins no request on the interface keeps the active request, or ends it. -/
lemma Owned.of_request {s s' : Link} (owned : s.Owned) (owner : s'.owner = s.owner)
    (rpcs : RpcsKept s.state.rpcs s'.state.rpcs)
    (request : ∀ i, (s'.state.host.request i).active = true →
      s'.state.host.request i = s.state.host.request i) : s'.Owned := by
  intro i active
  have same := request i active
  rw [same] at active ⊢
  obtain ⟨n, r, own, rn, at_i, eq⟩ := owned i active
  obtain ⟨r', rn', at', kind, generation⟩ := rpcs n r rn
  refine ⟨n, r', ?_, rn', at'.trans at_i, ?_⟩
  · rw [owner]
    exact own
  · rw [kind, generation]
    exact eq

/-- A step that does nothing to the adapter. -/
lemma Owned.idle {s s' : Link} (owned : s.Owned) (owner : s'.owner = s.owner)
    (same : s'.state = s.state) : s'.Owned := by
  intro i active
  rw [owner, same] at *
  exact owned i active

/-- An abort or a completion keeps or ends each request. -/
lemma setCompletion_request {h : Host} (b : Prop) [Decidable b] {j : Iface} {slot : Slot}
    {c : RequestCompletion} {i : Iface}
    (active : (((if b then h.setRequest j .zero else h).setCompletion slot c).request i).active =
      true) :
    ((if b then h.setRequest j .zero else h).setCompletion slot c).request i = h.request i := by
  rw [Host.request_setCompletion] at active ⊢
  split at active
  · rename_i cleared
    rw [if_pos cleared]
    rw [Host.request_setRequest] at active ⊢
    split at active
    · cases active
    · rename_i ne
      rw [if_neg ne]
  · rename_i kept
    rw [if_neg kept]

/-- A request that is active after an abort was so before. -/
lemma abort_request {h : Host} {slot : Slot} {i : Iface}
    (active : ((wlhRttRequestAbort h slot).request i).active = true) :
    (wlhRttRequestAbort h slot).request i = h.request i := by
  revert active
  simp only [wlhRttRequestAbort]
  split
  · split
    · exact fun _ => rfl
    · exact setCompletion_request _
  · exact fun _ => rfl

/-- A request that is active after a completion was so before. -/
lemma complete_request {h : Host} {slot : Slot} {result : HostResult} {i : Iface}
    (active : ((wlhRttRequestComplete h slot result).1.request i).active = true) :
    (wlhRttRequestComplete h slot result).1.request i = h.request i := by
  revert active
  simp only [wlhRttRequestComplete]
  split
  · split
    · exact fun _ => rfl
    · split
      · exact setCompletion_request _
      · exact setCompletion_request _
  · exact fun _ => rfl

/-- Every step leaves the active requests to the last submissions. -/
lemma Owned.step {s : Link} (owned : s.Owned) (a : Act) : (s.step a).Owned := by
  have kept := RpcsKept.refl s.state.rpcs
  cases a with
  | begin j op =>
    rcases begin_cases s.state.host j op.kind with busy | ⟨k, -, eq⟩
    · refine owned.idle ?_ ?_
      · simp only [Link.step, nextOwner, busy]
      · simp only [Link.step, State.step, busy]
    · intro i active
      simp only [Link.step, State.step, nextOwner, eq] at active ⊢
      rw [Host.request_begun] at active ⊢
      split at active
      · rename_i same
        rw [if_pos same, same, Function.update_self]
        exact ⟨_, _, rfl, List.getElem?_concat_length .., rfl, rfl⟩
      · rename_i ne
        rw [if_neg ne, Function.update_of_ne ne]
        obtain ⟨n, r, own, rn, at_i, eq⟩ := owned i active
        obtain ⟨lt, -⟩ := List.getElem?_eq_some_iff.mp rn
        exact ⟨n, r, own, (List.getElem?_append_left lt).trans rn, at_i, eq⟩
  | accept n =>
    cases found : s.state.inPhase n .begun with
    | none => exact owned.idle rfl (by simp only [Link.step, State.step, found])
    | some r =>
      refine owned.of_request rfl ?_ ?_
      · simp only [Link.step, State.step, found]
        exact .advance s.state n _
      · simp only [Link.step, State.step, found]
        exact fun _ _ => rfl
  | reject n =>
    cases found : s.state.inPhase n .begun with
    | none => exact owned.idle rfl (by simp only [Link.step, State.step, found])
    | some r =>
      refine owned.of_request rfl ?_ ?_
      · simp only [Link.step, State.step, found]
        exact RpcsKept.advance (s.state.moved _) n _
      · simp only [Link.step, State.step, found]
        exact fun _ => abort_request
  | complete n result =>
    cases found : s.state.inPhase n .accepted with
    | none => exact owned.idle rfl (by simp only [Link.step, State.step, found])
    | some r =>
      refine owned.of_request rfl ?_ ?_
      · simp only [Link.step, State.step, found]
        exact RpcsKept.advance (s.state.moved _) n _
      · simp only [Link.step, State.step, found]
        exact fun _ => complete_request
  | finish j kind =>
    have moves : Moves s.state.host (wlhRttRequestFinish s.state.host j kind) [] none :=
      finish_moves j kind rfl ⟨rfl, rfl⟩ fun _ => rfl
    exact owned.of_request rfl kept fun _ => moves.request_eq
  | event e => exact owned.of_request rfl kept fun _ => (event_moves _ e).request_eq
  | scanStop j => exact owned.of_request rfl kept fun _ => (scanStop_moves _ j).request_eq
  | reset => exact owned.of_request rfl kept fun _ => (reset_moves _).request_eq

/-- In every run the active request of an interface is the one of its last submission. -/
theorem Owned.run (counter : UInt32) (maxClients : Nat) (acts : List Act) :
    (run counter maxClients acts).Owned :=
  foldl_invariant (I := Owned) (fun _ a owned => owned.step a) acts (by rintro i ⟨⟩)

/-- The interface has an active request that Core has completed with success. -/
def Answered (s : Link) (i : Iface) : Prop :=
  (s.state.host.request i).active = true ∧ ∃ n ∈ s.succeeded, s.owner i = some n

/-- The step is a disconnected event for the interface. -/
def Disconnects (i : Iface) : Act → Prop
  | .event (.disconnected (some wire)) => wlhRttRouteWireInterface wire = some i
  | _ => False

/-- The active request after a disconnected event: a request to take the link down has ended. -/
lemma disconnects_request {s : Link} {a : Act} {i : Iface} (event : Disconnects i a) :
    (s.step a).state.host.request i =
      if (s.state.host.request i).active = true ∧ (s.state.host.request i).kind = downKind i
      then .zero else s.state.host.request i := by
  cases a with
  | event e =>
    cases e with
    | disconnected decoded =>
      cases decoded with
      | none => exact event.elim
      | some wire =>
        simp only [Disconnects] at event
        simp only [Link.step, State.step, State.moved, wlhRttWlanEvent, reportDisconnected, event]
        have ap : ∀ h : Host, (if i = .ap then { h with apClients := 0 } else h).request i =
            h.request i := by
          intro h
          split <;> rfl
        have link := (s.state.host.modify_link i (fun interface =>
          { interface with active := false, statsActive := false }) (fun _ => rfl) fun _ => rfl).1
        rw [ap, finish_request, link]
        simp only [true_and]
    | _ => exact event.elim
  | _ => exact event.elim

/-- Core's completions are not touched by an event. -/
lemma disconnects_answered {s : Link} {a : Act} {i : Iface} (event : Disconnects i a) :
    (s.step a).succeeded = s.succeeded ∧ (s.step a).owner = s.owner := by
  cases a with
  | event e => exact ⟨rfl, rfl⟩
  | _ => exact event.elim

/-- After a disconnected event an answered request to change the link is there exactly when one to
    bring it up was there before. -/
lemma disconnects_iff {s : Link} {a : Act} {i : Iface} (event : Disconnects i a) :
    ((s.step a).Answered i ∧ isLinkKind i ((s.step a).state.host.request i).kind) ↔
      (s.Answered i ∧ (s.state.host.request i).kind = upKind i) := by
  simp only [Answered]
  obtain ⟨succeeded, owner⟩ := disconnects_answered (s := s) event
  rw [disconnects_request event, succeeded, owner]
  split
  · rename_i ended
    constructor
    · rintro ⟨⟨active, -⟩, -⟩
      cases active
    · rintro ⟨-, up⟩
      rw [ended.2] at up
      cases i <;> cases up
  · rename_i kept
    constructor
    · rintro ⟨⟨active, rest⟩, up | down⟩
      · exact ⟨⟨active, rest⟩, up⟩
      · exact absurd ⟨active, down⟩ kept
    · rintro ⟨answered, up⟩
      exact ⟨answered, .inl up⟩

/-- Every disconnected event of a run leaves no answered request to change the link, exactly when
    none of these events comes while a request to bring the link up is answered and active. -/
theorem disconnected_ends_requests_iff (counter : UInt32) (maxClients : Nat) (acts : List Act) :
    Along step (fun s a => ∀ i, Disconnects i a →
        ¬ ((s.step a).Answered i ∧ isLinkKind i ((s.step a).state.host.request i).kind))
      (initial counter maxClients) acts ↔
    Along step (fun s a => ∀ i, Disconnects i a →
        ¬ (s.Answered i ∧ (s.state.host.request i).kind = upKind i))
      (initial counter maxClients) acts := by
  refine along_congr (I := fun _ => True) (fun _ _ _ _ => trivial) (fun s a _ => ?_) trivial
  exact forall_congr' fun i => forall_congr' fun event => not_congr (disconnects_iff event)

/-- Core accepts a connect and completes it with success; the disconnected event that follows leaves
    the request active, and the station can begin neither a scan nor a join nor a disconnect. -/
theorem refused_connect_stays :
    ¬ Along step (fun s a => ∀ i, Disconnects i a →
          ¬ ((s.step a).Answered i ∧ isLinkKind i ((s.step a).state.host.request i).kind))
        (initial 0 4) [.begin .sta .join, .accept 0, .complete 0 .ok,
          .event (.disconnected (some .sta))] ∧
      ∀ op, (wlhRttRequestBegin (run 0 4 [.begin .sta .join, .accept 0, .complete 0 .ok,
        .event (.disconnected (some .sta))]).state.host .sta op).2.1 = 0 := by
  constructor
  · intro ended
    refine ended.2.2.2.1 .sta rfl ⟨⟨by decide, 0, ?_, rfl⟩, by decide⟩
    exact List.mem_singleton.mpr rfl
  · intro op
    cases op <;> decide

end Link

end WlhHpm.Wlan

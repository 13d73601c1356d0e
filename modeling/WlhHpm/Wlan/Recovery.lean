import WlhHpm.Wlan.Link
import WlhHpm.Wlan.Calls

/-!
# What a recovery leaves of the old session

`wlh_rtt_host_recover` clears the adapter (`wlh_rtt_wlan_reset`) and stops Core after that. Until
`wlh_host_stop` returns the executor may deliver events of the old session, and the WLAN framework
may issue requests all the time. Of a recovery that returns `RT_EOK`, before the new session has
reported anything, one expects that nothing of the old session is left (`Gone`): both interfaces are
down and there is no AP client.

Requests do not touch what `Gone` speaks of (`request_session`), so everything depends on the events.
`session_gone` says that nothing is left if no event undoes what the reset has done: no interface is
reported connected after its pass of the reset, and no client joins after the clients have been
cleared. The second part shows that any such event is enough: after it, whatever requests come, the
recovery ends with a piece of the old session.

An event is delivered as one step, although `wlh_rtt_wlan_event` holds `host->lock` only inside
`wlh_rtt_request_finish`: a recovery that runs between the parts of one event is not covered.
-/

namespace WlhHpm.Wlan

/-! ## The session in the adapter -/

/-- What the adapter knows of the session: the link flags and the AP clients. -/
def Host.session (h : Host) : (Iface → Bool × Bool) × List ApClientStats × UInt32 :=
  (h.flags, h.apClient, h.apClients)

/-- Nothing of a session is left. -/
structure Gone (h : Host) : Prop where
  down : ∀ i, (h.interfaces i).active = false ∧ (h.interfaces i).statsActive = false
  count : h.apClients = 0
  clients : NoClient h

namespace Host
variable (h : Host)

/-- A session is its flags, its table and its count. -/
lemma session_eq {h h' : Host} (flags : ∀ i, h'.flags i = h.flags i)
    (table : h'.apClient = h.apClient) (count : h'.apClients = h.apClients) :
    h'.session = h.session := by
  unfold session
  rw [table, count, funext flags]

/-- A new request leaves the session alone. -/
@[simp] lemma session_setRequest (i : Iface) (r : Request) :
    (h.setRequest i r).session = h.session :=
  session_eq (fun j => h.flags_setRequest i j r) rfl rfl

/-- A new slot leaves the session alone. -/
@[simp] lemma session_setCompletion (slot : Slot) (c : RequestCompletion) :
    (h.setCompletion slot c).session = h.session :=
  session_eq (fun j => h.flags_setCompletion j slot c) rfl rfl

/-- The request of an interface may be cleared on the way. -/
lemma session_cleared (b : Prop) [Decidable b] (i : Iface) :
    (if b then h.setRequest i .zero else h).session = h.session := by
  split
  · exact h.session_setRequest i _
  · rfl

/-- The start of a request leaves the session alone. -/
lemma session_begun (slot : Slot) (kind : RequestKind) : (h.begun slot kind).session = h.session :=
  session_eq (fun j => h.flags_begun j slot kind) rfl rfl

end Host

/-- The end of a request leaves the session alone. -/
lemma finish_session (h : Host) (i : Iface) (kind : RequestKind) :
    (wlhRttRequestFinish h i kind).session = h.session := by
  rw [wlhRttRequestFinish]
  exact h.session_cleared _ i

/-- An abort leaves the session alone. -/
lemma abort_session (h : Host) (slot : Slot) : (wlhRttRequestAbort h slot).session = h.session := by
  simp only [wlhRttRequestAbort]
  split
  · split
    · rfl
    · rw [Host.session_setCompletion]
      exact h.session_cleared _ _
  · rfl

/-- A completion leaves the session alone. -/
lemma complete_session (h : Host) (slot : Slot) (result : HostResult) :
    (wlhRttRequestComplete h slot result).1.session = h.session := by
  simp only [wlhRttRequestComplete]
  split
  · split
    · rfl
    · split
      · exact (Host.session_setCompletion ..).trans (h.session_cleared _ _)
      · exact (Host.session_setCompletion ..).trans (h.session_cleared _ _)
  · rfl

/-- The end of a scan leaves the session alone. -/
lemma scanStop_session (h : Host) (i : Iface) : (wlanScanStop h i).1.session = h.session := by
  simp only [wlanScanStop]
  split
  · exact finish_session h i .scan
  · rfl

/-- A step of the adapter that is neither an event nor a reset. -/
def Act.Request : Act → Prop
  | .event _ => False
  | .reset => False
  | _ => True

/-- Requests, their completions and local stops leave the session alone. -/
lemma request_session (s : State) {a : Act} (request : a.Request) :
    (s.step a).host.session = s.host.session := by
  cases a with
  | begin i op =>
    rcases begin_cases s.host i op.kind with refused | ⟨k, -, begun⟩
    · simp only [State.step, refused]
    · simp only [State.step, begun]
      exact s.host.session_begun (i, k) op.kind
  | accept n =>
    simp only [State.step]
    split <;> rfl
  | reject n =>
    simp only [State.step]
    split
    · exact abort_session s.host _
    · rfl
  | complete n result =>
    simp only [State.step]
    split
    · exact complete_session s.host _ result
    · rfl
  | finish i kind => exact finish_session s.host i kind
  | event e => exact request.elim
  | scanStop i => exact scanStop_session s.host i
  | reset => exact request.elim

/-! ## Events -/

/-- The event reports that interface `i` is connected. -/
def CoreEvent.Connects (i : Iface) : CoreEvent → Prop
  | .connected (some (some (wire, _, _))) => wlhRttRouteWireInterface wire = some i
  | _ => False

/-- The event reports a new client of the AP. -/
def CoreEvent.Joins : CoreEvent → Prop
  | .apClientJoined (some (some (mac, _, _))) => mac.length = 6
  | _ => False

/-- The AP has no client. -/
def Host.Empty (h : Host) : Prop := h.apClients = 0 ∧ NoClient h

/-- A connected event sets the flags of its interface. -/
lemma connected_flags (h : Host) {wire : WifiInterface} {i : Iface}
    (route : wlhRttRouteWireInterface wire = some i) (link : WifiNetwork) (mac : List UInt8)
    (j : Iface) :
    (reportConnected h (some (some (wire, link, mac)))).1.flags j =
      if j = i then (true, true) else h.flags j := by
  simp only [reportConnected, route]
  rw [Host.flags_finish, Host.flags_modify]

/-- A disconnected event clears the flags of its interface. -/
lemma disconnected_flags (h : Host) (decoded : Option WifiInterface) (i : Iface) :
    (reportDisconnected h decoded).1.flags i =
      if decoded.bind wlhRttRouteWireInterface = some i then (false, false) else h.flags i := by
  cases decoded with
  | none => rfl
  | some wire =>
    cases route : wlhRttRouteWireInterface wire with
    | none => simp [reportDisconnected, route]
    | some j =>
      simp only [reportDisconnected, route]
      rw [Host.flags_apDown, Host.flags_finish, Host.flags_modify, Option.bind_some, route]
      exact if_congr ⟨fun e => congrArg some e.symm, fun e => (Option.some_inj.mp e).symm⟩ rfl rfl

/-- An interface that is down stays down, unless the event reports it connected. -/
lemma event_down {h : Host} {i : Iface} (down : h.flags i = (false, false)) {e : CoreEvent}
    (other : ¬ e.Connects i) : (wlhRttWlanEvent h e).1.flags i = (false, false) := by
  cases e with
  | scanResult decoded =>
    have same : (reportScanResult h decoded).1 = h := by
      unfold reportScanResult
      split
      · rfl
      · split <;> rfl
    simp only [wlhRttWlanEvent, same, down]
  | scanCompleted decoded =>
    simp only [wlhRttWlanEvent]
    unfold reportScanComplete
    split
    · exact down
    · split
      · rw [Host.flags_finish, down]
      · exact down
  | connected decoded =>
    rcases decoded with _ | _ | ⟨wire, link, mac⟩
    · exact down
    · exact down
    · cases route : wlhRttRouteWireInterface wire with
      | none =>
        simp only [wlhRttWlanEvent, reportConnected, route]
        exact down
      | some j =>
        have ne : i ≠ j := by
          rintro rfl
          exact other route
        rw [wlhRttWlanEvent, connected_flags h route, if_neg ne, down]
  | disconnected decoded =>
    rw [wlhRttWlanEvent, disconnected_flags, down, ite_self]
  | apClientJoined decoded =>
    simp only [wlhRttWlanEvent]
    unfold reportApClientJoined
    split
    · split <;> exact down
    · exact down
  | apClientLeft decoded =>
    simp only [wlhRttWlanEvent]
    unfold reportApClientLeft
    split
    · split <;> exact down
    · exact down

/-- In an empty table nobody can leave. -/
lemma apClientFind_empty {table : List ApClientStats} (none : ∀ entry ∈ table, entry.active = false)
    (mac : List UInt8) : apClientFind mac false table 0 .none = .none := by
  cases found : apClientFind mac false table 0 .none with
  | none => rfl
  | some k =>
    obtain ⟨entry, get, hit | ⟨join, -, -⟩⟩ := apClientFind_picks found
    · have inactive := none entry (List.mem_of_getElem? get)
      rw [hit.1] at inactive
      cases inactive
    · cases join

/-- An AP without clients stays so, unless the event reports a new one. -/
lemma event_empty {h : Host} (empty : h.Empty) {e : CoreEvent} (other : ¬ e.Joins) :
    (wlhRttWlanEvent h e).1.Empty := by
  have keep {h' : Host} (table : h'.apClient = h.apClient) (count : h'.apClients = h.apClients) :
      h'.Empty := by
    refine ⟨count.trans empty.1, ?_⟩
    rw [NoClient, table]
    exact empty.2
  cases e with
  | scanResult decoded =>
    simp only [wlhRttWlanEvent]
    unfold reportScanResult
    split
    · exact empty
    · split <;> exact empty
  | scanCompleted decoded =>
    simp only [wlhRttWlanEvent]
    unfold reportScanComplete
    split
    · exact empty
    · split
      · exact keep (finish_clients ..).1 (finish_clients ..).2
      · exact empty
  | connected decoded =>
    simp only [wlhRttWlanEvent]
    unfold reportConnected
    split
    · split
      · exact empty
      · exact keep (finish_clients ..).1 (finish_clients ..).2
    · exact empty
  | disconnected decoded =>
    obtain ⟨table, count⟩ := disconnected_clients h decoded
    refine keep table (count.trans ?_)
    rw [empty.1, ite_self]
  | apClientJoined decoded =>
    rcases decoded with _ | _ | ⟨mac, rssi, associationId⟩
    · exact empty
    · exact empty
    · have short : ¬ mac.length = 6 := other
      simp only [wlhRttWlanEvent, reportApClientJoined]
      rw [if_neg short]
      exact empty
  | apClientLeft decoded =>
    simp only [wlhRttWlanEvent]
    unfold reportApClientLeft
    split
    · split
      · simp only [apClientUpdate, wlhRttApClientUpdate]
        rw [apClientFind_empty empty.2]
        exact empty
      · exact empty
    · exact empty

/-! ## The recovery -/

namespace CallPc

/-- A recovery in which `wlh_host_stop` has not returned yet. -/
def BeforeStop : CallPc → Prop
  | .recoverCheck => True
  | .recoverLock => True
  | .recoverSta => True
  | .recoverAp => True
  | .recoverClients => True
  | .recoverStop => True
  | _ => False

/-- The event undoes what the recovery has cleared so far. -/
def Late (e : CoreEvent) : CallPc → Prop
  | .recoverAp => e.Connects .sta
  | .recoverClients => ∃ i, e.Connects i
  | .recoverStop => (∃ i, e.Connects i) ∨ e.Joins
  | _ => False

/-- A recovery that has cleared everything. -/
def PastClear : CallPc → Prop
  | .recoverStop => True
  | .recoverReset => True
  | .recoverWifi _ => True
  | .recoverStart _ => True
  | .recoverCount _ => True
  | .recoverDone _ => True
  | .returned _ => True
  | _ => False

end CallPc

/-- Both interfaces are down and the AP has no client. -/
def Host.Cleared (h : Host) : Prop := (∀ i, h.flags i = (false, false)) ∧ h.Empty

/-- What a recovery has cleared where it stands. Of a recovery that has failed nothing is said. -/
def ClearedAt (h : Host) : CallPc → Prop
  | .recoverCheck => True
  | .recoverLock => True
  | .recoverSta => True
  | .recoverAp => h.flags .sta = (false, false)
  | .recoverClients => ∀ i, h.flags i = (false, false)
  | .recoverStop => h.Cleared
  | .recoverReset => h.Cleared
  | .recoverWifi result => result = rtEok → h.Cleared
  | .recoverStart result => result = rtEok → h.Cleared
  | .recoverCount result => result = rtEok → h.Cleared
  | .recoverDone result => result = rtEok → h.Cleared
  | .returned result => result = rtEok → h.Cleared
  | _ => False

/-- Nothing of a session is left when everything has been cleared. -/
lemma gone_iff (h : Host) : Gone h ↔ h.Cleared := by
  constructor
  · intro gone
    exact ⟨fun i => Prod.ext (gone.down i).1 (gone.down i).2, gone.count, gone.clients⟩
  · rintro ⟨down, count, clients⟩
    exact ⟨fun i => ⟨congrArg Prod.fst (down i), congrArg Prod.snd (down i)⟩, count, clients⟩

/-- What has been cleared stays so as long as the session does. -/
lemma Host.Cleared.of_session {h h' : Host} (same : h'.session = h.session) (cleared : h.Cleared) :
    h'.Cleared := by
  obtain ⟨flags, table, count⟩ : h'.flags = h.flags ∧ h'.apClient = h.apClient ∧
      h'.apClients = h.apClients := by
    simpa only [session, Prod.mk.injEq] using same
  obtain ⟨down, zero, none⟩ := cleared
  refine ⟨fun i => ?_, count.trans zero, ?_⟩
  · rw [flags]
    exact down i
  · rw [NoClient, table]
    exact none

/-- What a recovery has cleared so far stays so as long as the session does. -/
lemma ClearedAt.of_session {h h' : Host} (same : h'.session = h.session) {pc : CallPc}
    (cleared : ClearedAt h pc) : ClearedAt h' pc := by
  have flags : h'.flags = h.flags := congrArg Prod.fst same
  cases pc with
  | recoverAp => exact (congrFun flags _).trans cleared
  | recoverClients => exact fun i => (congrFun flags i).trans (cleared i)
  | recoverStop => exact Host.Cleared.of_session same cleared
  | recoverReset => exact Host.Cleared.of_session same cleared
  | recoverWifi result => exact fun ok => (cleared ok).of_session same
  | recoverStart result => exact fun ok => (cleared ok).of_session same
  | recoverCount result => exact fun ok => (cleared ok).of_session same
  | recoverDone result => exact fun ok => (cleared ok).of_session same
  | returned result => exact fun ok => (cleared ok).of_session same
  | _ => exact cleared

/-- An event that comes before the stop and undoes nothing. -/
lemma ClearedAt.event {h : Host} {pc : CallPc} (cleared : ClearedAt h pc) (before : pc.BeforeStop)
    {e : CoreEvent} (timely : ¬ pc.Late e) : ClearedAt (wlhRttWlanEvent h e).1 pc := by
  cases pc with
  | recoverCheck => trivial
  | recoverLock => trivial
  | recoverSta => trivial
  | recoverAp => exact event_down cleared timely
  | recoverClients => exact fun i => event_down (cleared i) fun up => timely ⟨i, up⟩
  | recoverStop =>
    obtain ⟨down, empty⟩ := cleared
    refine ⟨fun i => event_down (down i) fun up => timely (.inl ⟨i, up⟩), ?_⟩
    exact event_empty empty fun joins => timely (.inr joins)
  | _ => exact before.elim

namespace System
variable {s : System} {n : Nat}

/-- A pass of the loop clears the flags of its interface. -/
lemma resetWlan_flags (s : System) (i j : Iface) :
    (s.resetWlan i).wlan.host.flags j = if j = i then (false, false) else s.wlan.host.flags j :=
  resetInterface_flags s.wlan.host j i

/-- The end of the reset leaves no client. -/
lemma clearClients_empty (s : System) : s.clearClients.wlan.host.Empty := by
  refine ⟨rfl, fun entry mem => ?_⟩
  rw [(List.mem_replicate.mp mem).2]
  rfl

/-- A step of the recovery clears what it has to and touches nothing after that. -/
lemma ClearedAt.callStep {pc : CallPc} (cleared : ClearedAt s.wlan.host pc) (r : CallReply) :
    ClearedAt (s.callStep r pc).1.wlan.host (s.callStep r pc).2 := by
  cases pc with
  | recoverCheck =>
    simp only [System.callStep]
    split
    · trivial
    · exact fun ok => absurd ok (by decide)
  | recoverLock =>
    simp only [System.callStep]
    split
    · exact fun ok => absurd ok (by decide)
    · trivial
  | recoverSta => exact (s.resetWlan_flags .sta .sta).trans (if_pos rfl)
  | recoverAp =>
    intro i
    rw [System.callStep, resetWlan_flags]
    cases i with
    | sta => exact (if_neg (by decide)).trans cleared
    | ap => exact if_pos rfl
  | recoverClients => exact ⟨cleared, s.clearClients_empty⟩
  | recoverStop =>
    simp only [System.callStep]
    split
    · exact cleared
    · exact fun _ => cleared
  | recoverReset => exact fun _ => cleared
  | recoverWifi result => exact cleared
  | recoverStart result =>
    simp only [System.callStep]
    split
    · rename_i eok
      split
      · exact fun _ => cleared eok
      · exact fun _ => cleared eok
    · exact cleared
  | recoverCount result =>
    simp only [System.callStep]
    split <;> exact cleared
  | recoverDone result => exact cleared
  | returned result => exact cleared
  | _ => exact cleared.elim

/-- The steps of the claimed interleavings: call `n` goes on, requests come and go, and until the call
    has stopped Core there are events of the old session. -/
def Within (n : Nat) (s : System) : SysAct → Prop
  | .step m _ => m = n
  | .wlan a => a.Request ∨ ∃ e pc, a = .event e ∧ s.calls[n]? = some pc ∧ pc.BeforeStop
  | _ => False

/-- The step is not an event that undoes what call `n` has cleared so far. -/
def Timely (n : Nat) (s : System) : SysAct → Prop
  | .wlan (.event e) => ∀ pc, s.calls[n]? = some pc → ¬ pc.Late e
  | _ => True

/-- What holds in every state of such a run. -/
def Recovers (n : Nat) (s : System) : Prop :=
  ∃ pc, s.calls[n]? = some pc ∧ ClearedAt s.wlan.host pc

/-- A step of a call changes the adapter and the place where the call stands. -/
lemma step_call {pc : CallPc} (at_n : s.calls[n]? = some pc) (r : CallReply) :
    (s.step (.step n r)).wlan = (s.callStep r pc).1.wlan ∧
      (s.step (.step n r)).calls[n]? = some (s.callStep r pc).2 := by
  have lt : n < s.calls.length := (List.getElem?_eq_some_iff.mp at_n).1
  constructor
  · simp only [step, at_n]
  · simp only [step, at_n, List.getElem?_set_self lt]

/-- What the recovery has cleared stays so along every step of such a run that is timely. -/
lemma Recovers.step (inv : s.Recovers n) {a : SysAct} (within : s.Within n a) (ok : s.Timely n a) :
    (s.step a).Recovers n := by
  obtain ⟨pc, at_n, cleared⟩ := inv
  cases a with
  | start => exact within.elim
  | stop => exact within.elim
  | recover => exact within.elim
  | step m r =>
    obtain rfl : m = n := within
    obtain ⟨wlan, calls⟩ := step_call at_n r
    refine ⟨_, calls, ?_⟩
    rw [wlan]
    exact ClearedAt.callStep cleared r
  | wlan a =>
    refine ⟨pc, at_n, ?_⟩
    rcases within with request | ⟨e, pc', rfl, at_n', before⟩
    · exact cleared.of_session (request_session s.wlan request)
    · obtain rfl : pc = pc' := Option.some_inj.mp (at_n.symm.trans at_n')
      exact cleared.event before (ok pc at_n)

/-! ## Late events -/

/-- A client that joins is in the table afterwards, or the table is full of others. -/
lemma joined_client {h : Host} (room : h.apClient ≠ []) {e : CoreEvent} (joins : e.Joins) :
    ¬ NoClient (wlhRttWlanEvent h e).1 := by
  cases e with
  | apClientJoined decoded =>
    rcases decoded with _ | _ | ⟨mac, rssi, associationId⟩
    · exact joins.elim
    · exact joins.elim
    · have six : mac.length = 6 := joins
      simp only [wlhRttWlanEvent, reportApClientJoined]
      rw [if_pos six]
      simp only [apClientUpdate, wlhRttApClientUpdate]
      intro none
      cases found : apClientFind mac true h.apClient 0 .none with
      | none =>
        rw [found] at none
        obtain ⟨entry, mem⟩ := List.exists_mem_of_ne_nil _ room
        have active := (apClientFind_none found).2.2 rfl entry mem
        rw [none entry mem] at active
        cases active
      | some k =>
        rw [found] at none
        obtain ⟨entry, get, -⟩ := apClientFind_picks found
        have active := none _ (List.mem_set (List.getElem?_eq_some_iff.mp get).1 _)
        cases active
  | _ => exact joins.elim

/-- An event that connects an interface or brings a client leaves a session behind. -/
lemma late_not_cleared {h : Host} (room : h.apClient ≠ []) {e : CoreEvent}
    (late : CallPc.Late e .recoverStop) : ¬ (wlhRttWlanEvent h e).1.Cleared := by
  rintro ⟨down, -, none⟩
  rcases late with ⟨i, up⟩ | joins
  · cases e with
    | connected decoded =>
      rcases decoded with _ | _ | ⟨wire, link, mac⟩
      · exact up.elim
      · exact up.elim
      · have still := down i
        rw [wlhRttWlanEvent, connected_flags h up, if_pos rfl] at still
        cases still
    | _ => exact up.elim
  · exact joined_client room joins none

/-- A recovery that has cleared everything leaves the adapter alone. -/
lemma callStep_pastClear {pc : CallPc} (past : pc.PastClear) (s : System) (r : CallReply) :
    (s.callStep r pc).1.wlan = s.wlan ∧ (s.callStep r pc).2.PastClear := by
  cases pc with
  | recoverStop =>
    simp only [callStep]
    split <;> exact ⟨rfl, trivial⟩
  | recoverReset => exact ⟨rfl, trivial⟩
  | recoverWifi result => exact ⟨rfl, trivial⟩
  | recoverStart result =>
    simp only [callStep]
    split
    · split <;> exact ⟨rfl, trivial⟩
    · exact ⟨rfl, trivial⟩
  | recoverCount result =>
    simp only [callStep]
    split <;> exact ⟨rfl, trivial⟩
  | recoverDone result => exact ⟨rfl, trivial⟩
  | returned result => exact ⟨rfl, trivial⟩
  | _ => exact past.elim

/-- Call `n` goes on or a request does, without any event. -/
def Silent (n : Nat) : SysAct → Prop
  | .step m _ => m = n
  | .wlan a => a.Request
  | _ => False

/-- After the clearing, only events change the session. -/
lemma silent_session {pc : CallPc} (at_n : s.calls[n]? = some pc) (past : pc.PastClear)
    (acts : List SysAct) (silent : ∀ a ∈ acts, Silent n a) :
    (acts.foldl step s).wlan.host.session = s.wlan.host.session := by
  induction acts generalizing s pc with
  | nil => rfl
  | cons a acts ih =>
    have later : ∀ a ∈ acts, Silent n a := fun a mem => silent a (List.mem_cons_of_mem _ mem)
    have now := silent a List.mem_cons_self
    cases a with
    | step m r =>
      obtain rfl : m = n := now
      obtain ⟨wlan, calls⟩ := step_call at_n r
      obtain ⟨same, past'⟩ := callStep_pastClear past s r
      rw [List.foldl_cons, ih calls past' later, wlan, same]
    | wlan a =>
      refine (ih (s := s.step (.wlan a)) at_n past later).trans ?_
      exact request_session s.wlan now
    | _ => exact now.elim

/-- In every interleaving of a recovery with requests and with events of the old session in which no
    event is late, a recovery that returns `RT_EOK` leaves nothing of that session. A late event
    that comes before Core is stopped leaves something, whatever requests follow. -/
theorem session_gone (s : System) (n : Nat) (called : s.calls[n]? = some .recoverCheck)
    (acts : List SysAct) (within : Along step (Within n) s acts) :
    (Along step (Timely n) s acts →
      (acts.foldl step s).calls[n]? = some (.returned rtEok) →
      Gone (acts.foldl step s).wlan.host) ∧
    ∀ (e : CoreEvent) (rest : List SysAct),
      (acts.foldl step s).calls[n]? = some .recoverStop → CallPc.Late e .recoverStop →
      (acts.foldl step s).wlan.host.apClient ≠ [] → (∀ a ∈ rest, Silent n a) →
      ¬ Gone (rest.foldl step ((acts.foldl step s).step (.wlan (.event e)))).wlan.host := by
  constructor
  · intro timely ended
    have inv : (acts.foldl step s).Recovers n := by
      refine (within.and timely).invariant (fun s a inv now => inv.step now.1 now.2) ?_
      exact ⟨_, called, trivial⟩
    obtain ⟨pc, at_n, cleared⟩ := inv
    obtain rfl : pc = .returned rtEok := Option.some_inj.mp (at_n.symm.trans ended)
    exact (gone_iff _).mpr (cleared rfl)
  · intro e rest at_stop late room silent gone
    generalize acts.foldl step s = s' at at_stop room gone
    have session := silent_session (s := s'.step (.wlan (.event e))) at_stop trivial rest silent
    have cleared := ((gone_iff _).mp gone).of_session session.symm
    exact late_not_cleared room late cleared

/-- A started host on which a recovery is called. -/
def recoveryCalled : System :=
  [[.start], List.replicate 4 (.step 0 {}), [.recover]].flatten.foldl step (initial 0 8)

/-- A connected event of the station. -/
def stationUp : CoreEvent := .connected (some (some (.sta, ⟨.open, true, 1, 0, [], []⟩, [])))

/-- A recovery that finds the station connected, with a request in the middle and an event that comes
    late but undoes nothing. -/
def timelyRecovery : List SysAct :=
  [[.wlan (.event stationUp)], List.replicate 3 (.step 1 {}), [.wlan (.begin .sta .scan)],
    [.wlan (.event (.disconnected (some .sta)))], List.replicate 8 (.step 1 {})].flatten

/-- A recovery with a connected event between the reset of the station and the stop of Core. -/
def lateRecovery : List SysAct :=
  [List.replicate 5 (.step 1 {}), [.wlan (.event stationUp)], List.replicate 6 (.step 1 {})].flatten

/-- After a recovery whose events are in time. -/
theorem session_gone_timely : Gone (timelyRecovery.foldl step recoveryCalled).wlan.host := by
  have called : recoveryCalled.calls[1]? = some .recoverCheck := by decide +kernel
  have ended : (timelyRecovery.foldl step recoveryCalled).calls[1]? = some (.returned rtEok) := by
    decide +kernel
  refine (session_gone recoveryCalled 1 called timelyRecovery ?_).1 ?_ ended
  · simp [timelyRecovery, recoveryCalled, Along, Within, step, callStep, initial, StartsCore,
      resetWlan, Act.Request, CallPc.BeforeStop]
  · simp [timelyRecovery, recoveryCalled, Along, Timely, step, callStep, initial, StartsCore,
      resetWlan, CallPc.Late, CoreEvent.Connects]

/-- The event is one of the old session and comes before the stop; the recovery returns `RT_EOK` and
    the station is still up. -/
theorem session_left_by_late_event :
    recoveryCalled.calls[1]? = some .recoverCheck ∧
      Along step (Within 1) recoveryCalled lateRecovery ∧
      (lateRecovery.foldl step recoveryCalled).calls[1]? = some (.returned rtEok) ∧
      ¬ Gone (lateRecovery.foldl step recoveryCalled).wlan.host := by
  have up : ((lateRecovery.foldl step recoveryCalled).wlan.host.interfaces .sta).active = true := by
    decide +kernel
  refine ⟨by decide +kernel, ?_, by decide +kernel, fun gone => ?_⟩
  · simp [lateRecovery, recoveryCalled, Along, Within, step, callStep, initial, StartsCore,
      resetWlan, clearClients, Act.Request, CallPc.BeforeStop]
  · have down := (gone.down .sta).1
    rw [up] at down
    cases down

end System

end WlhHpm.Wlan

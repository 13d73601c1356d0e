import WlhHpm.Lib.Run
import WlhHpm.Wlan.Host

/-!
# The table of AP clients

`host->ap_clients` counts the active entries of `host->ap_client`. `wlh_rtt_ap_client_update` changes
the count with the table and `wlh_rtt_ap_client_clear` clears both; `report_disconnected` sets the
count of the AP to zero and leaves the table alone. The count is therefore right exactly as long as
the AP goes down with no active entry (`ap_clients_counted_iff`).

The machine is the adapter under the events that change the table or the links, and under
`wlh_rtt_host_start`, `wlh_rtt_host_stop` and `wlh_rtt_host_recover` of `src/wlh_rtt_host.c`. Core's
and the transport's answers are inputs. Left out are the stop of iperf2 and the board's callback for
a failed recovery.
-/

namespace WlhHpm.Wlan

/-- C `wlh_rtt_host_impl_t`, with the fields of its life cycle. -/
structure Lifecycle where
  host : Host
  started : Bool
  wifiInitialized : Bool
  recovering : Bool
  recoveries : UInt32

def rtEok : Int := 0
def rtError : Int := 255
def rtEbusy : Int := 16
def rtEinval : Int := 22

namespace Lifecycle

/-- The host after `wlh_rtt_host_init`. -/
def initial (counter : UInt32) (maxClients : Nat) : Lifecycle :=
  ⟨.initial counter maxClients, false, false, false, 0⟩

/-- C `wlh_rtt_host_start`; `core` is the answer of `wlh_host_start`. -/
def wlhRttHostStart (s : Lifecycle) (core : HostResult) : Lifecycle × Int :=
  if s.started then (s, -rtEbusy)
  else
    let s := { s with wifiInitialized := false }
    if core ≠ .ok then (s, -rtError)
    else ({ s with started := true }, rtEok)

/-- C `wlh_rtt_host_stop`; `core` is the answer of `wlh_host_stop`. -/
def wlhRttHostStop (s : Lifecycle) (core : HostResult) : Lifecycle × Int :=
  if s.started = false then (s, -rtEinval)
  else
    let s := { s with host := (wlhRttWlanReset s.host).1, wifiInitialized := false }
    if core ≠ .ok then (s, -rtError)
    else ({ s with started := false }, rtEok)

/-- C `wlh_rtt_host_recover`, with the answers of `wlh_host_stop`, of the transport's `soft_reset`
    (`none` if it has none) and of `wlh_host_start`. -/
def wlhRttHostRecover (s : Lifecycle) (coreStop : HostResult) (softReset : Option Int)
    (coreStart : HostResult) : Lifecycle × Int :=
  if s.started = false then (s, -rtEinval)
  else if s.recovering then (s, -rtEbusy)
  else
    let s := { s with recovering := true }
    let s := { s with host := (wlhRttWlanReset s.host).1 }
    let result := if coreStop = .ok then rtEok else -rtError
    let result := if result = rtEok then softReset.getD result else result
    let s := { s with wifiInitialized := false }
    let result := if result = rtEok ∧ coreStart ≠ .ok then -rtError else result
    let recoveries := if result = rtEok then s.recoveries + 1 else s.recoveries
    ({ s with recoveries := recoveries, recovering := false }, result)

inductive Act where
  | joined (decoded : Option (Option (List UInt8 × Int32 × UInt32)))
  | left (decoded : Option (List UInt8 × UInt32 × UInt32))
  | connected (decoded : Option (Option (WifiInterface × WifiNetwork × List UInt8)))
  | disconnected (decoded : Option WifiInterface)
  | start (core : HostResult)
  | stop (core : HostResult)
  | recover (coreStop : HostResult) (softReset : Option Int) (coreStart : HostResult)

def step (s : Lifecycle) : Act → Lifecycle
  | .joined decoded => { s with host := (wlhRttWlanEvent s.host (.apClientJoined decoded)).1 }
  | .left decoded => { s with host := (wlhRttWlanEvent s.host (.apClientLeft decoded)).1 }
  | .connected decoded => { s with host := (wlhRttWlanEvent s.host (.connected decoded)).1 }
  | .disconnected decoded => { s with host := (wlhRttWlanEvent s.host (.disconnected decoded)).1 }
  | .start core => (s.wlhRttHostStart core).1
  | .stop core => (s.wlhRttHostStop core).1
  | .recover coreStop softReset coreStart => (s.wlhRttHostRecover coreStop softReset coreStart).1

/-- The step is a disconnected event for the AP. -/
def ApDown : Act → Prop
  | .disconnected (some wire) => wlhRttRouteWireInterface wire = some .ap
  | _ => False

end Lifecycle

/-! ## The table -/

/-- Number of active entries. -/
def activeClients (table : List ApClientStats) : Nat := table.countP (·.active)

/-- The count is the number of active entries. -/
def Counted (h : Host) : Prop := h.apClients.toNat = activeClients h.apClient

/-- No entry is active. -/
def NoClient (h : Host) : Prop := ∀ entry ∈ h.apClient, entry.active = false

/-- No entry is active exactly when none is counted. -/
lemma noClient_iff (h : Host) : NoClient h ↔ activeClients h.apClient = 0 := by
  rw [activeClients, List.countP_eq_zero]
  exact forall₂_congr fun _ _ => (Bool.not_eq_true _).symm.to_iff

/-- The entry is an active one of this MAC. -/
def ApClientStats.Is (mac : List UInt8) (entry : ApClientStats) : Prop :=
  entry.active = true ∧ entry.mac = mac

/-- The entry that the search of an update ends with: the active one of the MAC or, if there is none,
    the free one it was started with or, for a join, another free one. -/
lemma apClientFind_some {mac : List UInt8} {joined : Bool} {table : List ApClientStats}
    {index : Nat} {client : Option Nat} {k : Nat}
    (found : apClientFind mac joined table index client = some k) :
    (∃ d entry, k = index + d ∧ table[d]? = some entry ∧ entry.Is mac) ∨
      (∀ entry ∈ table, ¬ entry.Is mac) ∧
        (client = some k ∨
          joined = true ∧ ∃ d entry, k = index + d ∧ table[d]? = some entry ∧ entry.active = false) := by
  induction table generalizing index client with
  | nil => exact .inr ⟨fun entry mem => (List.not_mem_nil mem).elim, .inl found⟩
  | cons entry table ih =>
    simp only [apClientFind] at found
    split at found
    · rename_i hit
      exact .inl ⟨0, entry, (Option.some_inj.mp found).symm, rfl, hit⟩
    · rename_i miss
      -- an entry further on, and no entry of the MAC before it
      have none {rest : Prop} (none : ∀ entry' ∈ table, ¬ entry'.Is mac) (there : rest) :
          (∀ entry' ∈ entry :: table, ¬ entry'.Is mac) ∧ rest :=
        ⟨List.forall_mem_cons.mpr ⟨miss, none⟩, there⟩
      split at found
      · rename_i free
        rcases ih found with ⟨d, entry', rfl, get, hit⟩ | ⟨miss', same | ⟨join, d, entry', rfl, get, free'⟩⟩
        · exact .inl ⟨d + 1, entry', by omega, get, hit⟩
        · refine .inr (none miss' (.inr ⟨free.1, 0, entry, ?_, rfl, free.2.2⟩))
          exact (Option.some_inj.mp same).symm
        · exact .inr (none miss' (.inr ⟨join, d + 1, entry', by omega, get, free'⟩))
      · rcases ih found with ⟨d, entry', rfl, get, hit⟩ | ⟨miss', same | ⟨join, d, entry', rfl, get, free'⟩⟩
        · exact .inl ⟨d + 1, entry', by omega, get, hit⟩
        · exact .inr (none miss' (.inl same))
        · exact .inr (none miss' (.inr ⟨join, d + 1, entry', by omega, get, free'⟩))

/-- The entry that an update picks. -/
lemma apClientFind_picks {mac : List UInt8} {joined : Bool} {table : List ApClientStats} {k : Nat}
    (found : apClientFind mac joined table 0 none = some k) :
    ∃ entry, table[k]? = some entry ∧
      (entry.Is mac ∨ joined = true ∧ entry.active = false ∧ ∀ entry ∈ table, ¬ entry.Is mac) := by
  rcases apClientFind_some found with ⟨d, entry, rfl, get, hit⟩ | ⟨miss, same | ⟨join, d, entry, rfl, get, free⟩⟩
  · exact ⟨entry, by rwa [Nat.zero_add], .inl hit⟩
  · cases same
  · exact ⟨entry, by rwa [Nat.zero_add], .inr ⟨join, free, miss⟩⟩

/-- An update that picks no entry: the MAC has none, and for a join no entry is free. -/
lemma apClientFind_none {mac : List UInt8} {joined : Bool} {table : List ApClientStats} {index : Nat}
    {client : Option Nat} (full : apClientFind mac joined table index client = none) :
    client = none ∧ (∀ entry ∈ table, ¬ entry.Is mac) ∧
      (joined = true → ∀ entry ∈ table, entry.active = true) := by
  induction table generalizing index client with
  | nil => exact ⟨full, fun entry mem => (List.not_mem_nil mem).elim, fun _ entry mem => by cases mem⟩
  | cons entry table ih =>
    simp only [apClientFind] at full
    split at full
    · cases full
    · rename_i miss
      split at full
      · cases (ih full).1
      · rename_i taken
        obtain ⟨none, misses, rest⟩ := ih full
        refine ⟨none, List.forall_mem_cons.mpr ⟨miss, misses⟩, fun join => ?_⟩
        refine List.forall_mem_cons.mpr ⟨?_, rest join⟩
        by_contra free
        exact taken ⟨join, none, Bool.eq_false_iff.mpr free⟩

/-- An update keeps the size of the table, and keeps the count right. -/
lemma update_counted {table : List ApClientStats} {count : UInt32} (mac : List UInt8) (joined : Bool)
    (rssi : Int16) (associationId reason : UInt32) (small : table.length < 2 ^ 32)
    (counted : count.toNat = activeClients table) :
    (wlhRttApClientUpdate table mac joined rssi associationId reason count).1.length = table.length ∧
    (wlhRttApClientUpdate table mac joined rssi associationId reason count).2.1.toNat =
      activeClients (wlhRttApClientUpdate table mac joined rssi associationId reason count).1 := by
  simp only [wlhRttApClientUpdate]
  cases found : apClientFind mac joined table 0 none with
  | none => exact ⟨rfl, counted⟩
  | some k =>
    obtain ⟨entry, get, picked⟩ := apClientFind_picks found
    obtain ⟨lt, at_k⟩ := List.getElem?_eq_some_iff.mp get
    refine ⟨List.length_set, ?_⟩
    have getD : table.getD k .zero = entry := by
      rw [List.getD_eq_getElem?_getD, get]
      rfl
    -- the entry itself was counted if it was active
    have set : activeClients (table.set k ⟨mac, joined, rssi, associationId, reason⟩) =
        activeClients table - (if entry.active then 1 else 0) + if joined then 1 else 0 := by
      rw [activeClients, List.countP_set lt, at_k]
      rfl
    have most : activeClients table ≤ table.length := List.countP_le_length
    simp only [getD, set]
    cases was : entry.active with
    | true =>
      have pos : 0 < activeClients table :=
        List.countP_pos_iff.mpr ⟨entry, List.mem_of_getElem? get, was⟩
      have nonzero : count ≠ 0 := by
        rintro rfl
        rw [← counted] at pos
        exact absurd pos (Nat.lt_irrefl 0)
      cases joined with
      | true =>
        simp only [Bool.true_eq_false, and_false, if_false, false_and, if_true]
        omega
      | false =>
        have le : (1 : UInt32) ≤ count := by
          rw [UInt32.le_iff_toNat_le, counted]
          exact pos
        simp only [Bool.false_eq_true, false_and, if_false, true_and, ne_eq, nonzero,
          not_false_eq_true, if_true, Nat.add_zero]
        rw [UInt32.toNat_sub_of_le _ _ le, counted]
        rfl
    | false =>
      cases joined with
      | true =>
        -- an inactive entry is there, so the count is below the size of the table
        have lt_length : activeClients table < table.length := by
          refine lt_of_le_of_ne most fun all => ?_
          have mem := List.countP_eq_length.mp all entry (List.mem_of_getElem? get)
          rw [was] at mem
          cases mem
        simp only [true_and, if_true, Bool.false_eq_true, if_false, Nat.sub_zero]
        rw [UInt32.toNat_add, counted, UInt32.toNat_one, Nat.mod_eq_of_lt (by omega)]
      | false =>
        rcases picked with hit | ⟨join, -, -⟩
        · rw [ApClientStats.Is, was] at hit
          cases hit.1
        · cases join

/-! ## Steps -/

/-- The count is right and the table has the size it was given. -/
structure ApClients (maxClients : Nat) (h : Host) : Prop where
  size : h.apClient.length = maxClients
  counted : Counted h

section ApClients
variable {maxClients : Nat} {h : Host}

/-- The table is right after `wlh_rtt_host_init`. -/
lemma ApClients.initial (counter : UInt32) (maxClients : Nat) :
    ApClients maxClients (.initial counter maxClients) where
  size := List.length_replicate ..
  counted := by
    simp only [Counted, Host.initial, activeClients]
    rw [List.countP_replicate]
    rfl

/-- Operations that touch neither the table nor the count. -/
lemma ApClients.of_eq {h' : Host} (clients : ApClients maxClients h) (table : h'.apClient = h.apClient)
    (count : h'.apClients = h.apClients) : ApClients maxClients h' := by
  constructor
  · rw [table]
    exact clients.size
  · rw [Counted, table, count]
    exact clients.counted

/-- A report on a client keeps the count right. -/
lemma ApClients.update (clients : ApClients maxClients h) (small : maxClients < 2 ^ 32)
    (mac : List UInt8) (joined : Bool) (rssi : Int16) (associationId reason : UInt32) :
    ApClients maxClients (apClientUpdate h mac joined rssi associationId reason).1 := by
  have small' : h.apClient.length < 2 ^ 32 := by
    rw [clients.size]
    exact small
  obtain ⟨size, counted⟩ :=
    update_counted mac joined rssi associationId reason small' clients.counted
  exact ⟨size.trans clients.size, counted⟩

/-- The end of a request leaves the clients alone. -/
lemma finish_clients (h : Host) (i : Iface) (kind : RequestKind) :
    (wlhRttRequestFinish h i kind).apClient = h.apClient ∧
      (wlhRttRequestFinish h i kind).apClients = h.apClients := by
  simp only [wlhRttRequestFinish]
  split <;> exact ⟨rfl, rfl⟩

/-- A connected event clears the whole table or leaves it alone. -/
lemma ApClients.connected (clients : ApClients maxClients h)
    (decoded : Option (Option (WifiInterface × WifiNetwork × List UInt8))) :
    ApClients maxClients (reportConnected h decoded).1 := by
  unfold reportConnected
  split
  · split
    · exact clients
    · obtain ⟨table, count⟩ := finish_clients (h.modify _ _) _ _
      exact clients.of_eq table count
  · exact clients

/-- A reset empties the table, whatever it held. -/
lemma ApClients.reset (clients : ApClients maxClients h) :
    ApClients maxClients (wlhRttWlanReset h).1 := by
  constructor
  · exact (List.length_replicate ..).trans clients.size
  · simp only [Counted, wlhRttWlanReset, wlhRttApClientClear, activeClients]
    rw [List.countP_replicate]
    rfl

/-- What a disconnected event does to the table and the count. -/
lemma disconnected_clients (h : Host) (decoded : Option WifiInterface) :
    (reportDisconnected h decoded).1.apClient = h.apClient ∧
      (reportDisconnected h decoded).1.apClients =
        if (decoded.bind wlhRttRouteWireInterface) = some .ap then 0 else h.apClients := by
  unfold reportDisconnected
  cases decoded with
  | none => exact ⟨rfl, rfl⟩
  | some wire =>
    cases route : wlhRttRouteWireInterface wire with
    | none =>
      simp only [Option.bind_some, route, reduceCtorEq, if_false, and_self]
    | some i =>
      simp only [Option.bind_some, route]
      obtain ⟨table, count⟩ := finish_clients (h.modify i fun interface =>
        { interface with active := false, statsActive := false }) i (downKind i)
      cases i with
      | sta => exact ⟨table, count⟩
      | ap => exact ⟨table, rfl⟩

end ApClients

namespace Lifecycle
variable {maxClients : Nat} {s : Lifecycle}

/-- Every step but the end of the AP keeps the count right. -/
lemma step_counted (clients : ApClients maxClients s.host) (small : maxClients < 2 ^ 32) {a : Act}
    (other : ¬ ApDown a) : ApClients maxClients (s.step a).host := by
  cases a with
  | joined decoded =>
    simp only [step, wlhRttWlanEvent]
    unfold reportApClientJoined
    split
    · split
      · exact clients.update small ..
      · exact clients
    · exact clients
  | left decoded =>
    simp only [step, wlhRttWlanEvent]
    unfold reportApClientLeft
    split
    · split
      · exact clients.update small ..
      · exact clients
    · exact clients
  | connected decoded => exact clients.connected decoded
  | disconnected decoded =>
    obtain ⟨table, count⟩ := disconnected_clients s.host decoded
    refine clients.of_eq table (count.trans (if_neg fun route => other ?_))
    cases decoded with
    | none => cases route
    | some wire => exact route
  | start core =>
    simp only [step, wlhRttHostStart]
    split
    · exact clients
    · split <;> exact clients
  | stop core =>
    simp only [step, wlhRttHostStop]
    split
    · exact clients
    · split <;> exact clients.reset
  | recover coreStop softReset coreStart =>
    simp only [step, wlhRttHostRecover]
    split
    · exact clients
    · split
      · exact clients
      · exact clients.reset

/-- The end of the AP sets the count to zero and leaves the table alone. -/
lemma step_apDown {a : Act} (down : ApDown a) :
    (s.step a).host.apClient = s.host.apClient ∧ (s.step a).host.apClients = 0 := by
  cases a with
  | disconnected decoded =>
    cases decoded with
    | none => exact down.elim
    | some wire =>
      obtain ⟨table, count⟩ := disconnected_clients s.host (some wire)
      exact ⟨table, count.trans (if_pos down)⟩
  | _ => exact down.elim

/-- A disconnected event for the AP sets the count to zero and leaves the table alone. -/
lemma step_apDown_iff (clients : ApClients maxClients s.host) {a : Act} (down : ApDown a) :
    (ApClients maxClients (s.step a).host ↔ NoClient s.host) ∧
      (NoClient (s.step a).host ↔ NoClient s.host) := by
  obtain ⟨table, count⟩ := step_apDown (s := s) down
  constructor
  · rw [noClient_iff]
    constructor
    · rintro ⟨-, counted⟩
      rw [Counted, table, count] at counted
      exact counted.symm
    · intro none
      refine ⟨?_, ?_⟩
      · rw [table]
        exact clients.size
      · rw [Counted, table, count, none]
        rfl
  · rw [NoClient, NoClient, table]

/-- The count is right after every step of a run, and no entry is active after the end of the AP,
    exactly when no entry is active whenever the AP goes down. -/
theorem ap_clients_counted_iff (counter : UInt32) (maxClients : Nat) (small : maxClients < 2 ^ 32)
    (acts : List Act) :
    Along step (fun s a => Counted (s.step a).host ∧ (ApDown a → NoClient (s.step a).host))
        (initial counter maxClients) acts ↔
      Along step (fun s a => ApDown a → NoClient s.host) (initial counter maxClients) acts := by
  refine along_congr (I := fun s => ApClients maxClients s.host) ?_ ?_
    (ApClients.initial counter maxClients)
  · intro s a clients ok
    by_cases down : ApDown a
    · exact (step_apDown_iff clients down).1.mpr (ok down)
    · exact step_counted clients small down
  · intro s a clients
    by_cases down : ApDown a
    · obtain ⟨counted, none⟩ := step_apDown_iff clients down
      constructor
      · intro good _
        exact none.mp (good.2 down)
      · intro ok
        exact ⟨(counted.mpr (ok down)).counted, fun _ => none.mpr (ok down)⟩
    · exact iff_of_true ⟨(step_counted clients small down).counted, fun h => absurd h down⟩
        fun h => absurd h down

/-- A client joins and leaves before the AP goes down. -/
theorem ap_clients_counted_left :
    (4 < 2 ^ 32) ∧ Along step
      (fun s a => Counted (s.step a).host ∧ (ApDown a → NoClient (s.step a).host)) (initial 0 4)
      [.joined (some (some ([2, 0, 0, 0, 0, 1], -40, 1))), .left (some ([2, 0, 0, 0, 0, 1], 1, 0)),
        .disconnected (some .ap)] := by
  refine ⟨by decide, (ap_clients_counted_iff 0 4 (by decide) _).mpr ⟨?_, ?_, ?_, trivial⟩⟩
  · exact False.elim
  · exact False.elim
  · intro _
    unfold NoClient
    decide

/-- The AP goes down with a client: the count is zero and the entry is still active. -/
theorem ap_down_with_client :
    ¬ Along step
      (fun s a => Counted (s.step a).host ∧ (ApDown a → NoClient (s.step a).host)) (initial 0 4)
      [.joined (some (some ([2, 0, 0, 0, 0, 1], -40, 1))), .disconnected (some .ap)] := by
  rintro ⟨-, ⟨counted, -⟩, -⟩
  revert counted
  unfold Counted
  decide

end Lifecycle

end WlhHpm.Wlan

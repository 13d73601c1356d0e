import Mathlib.Data.UInt
import Mathlib.Tactic

/-!
# The WLAN adapter of the host

Model of `packages/wlh_rtt_host`: the request bookkeeping of `src/wlh_rtt_request.c`, the counters
and tables of `src/wlh_rtt_logic.c` that it uses, the local scan stop and the reset of
`wlan/wlh_rtt_wlan.c`, and the Core events of `wlan/wlh_rtt_wlan_event.c`.

Host Core and the protobuf decoder are not part of the repository. A Core event is therefore the
message that `pb_decode` has produced (`none` if it failed), and the enumerations of the wire
protocol appear by the names that the adapter tests for. Reports to RT-Thread
(`wlh_rtt_report_event`) are the output of the functions that make them, in order.

A pointer to a completion slot is the pair of its interface and its index (`Slot`). Left out are the
RX buffers and traffic counters (`rx_storage`, `stats` except `active`), the copy of the MAC address
in the network interface, and the Ethernet events.
-/

namespace WlhHpm.Wlan

/-- The two WLAN interfaces (C `WLH_RTT_INTERFACE_STA`, `WLH_RTT_INTERFACE_AP`). -/
inductive Iface where
  | sta
  | ap
  deriving DecidableEq, Repr

/-- C `wlh_rtt_request_kind_t`. -/
inductive RequestKind where
  | none
  | scan
  | connect
  | disconnect
  | apStart
  | apStop
  deriving DecidableEq, Repr

/-- C `wlh_rtt_request_t`. -/
structure Request where
  kind : RequestKind
  generation : UInt32
  active : Bool
  deriving DecidableEq, Repr

/-- The request after `rt_memset(&interface->request, 0, sizeof(interface->request))`. -/
def Request.zero : Request := ⟨.none, 0, false⟩

/-- C `wlh_rtt_request_completion_t`; `interface` is a pointer, null in a slot never used. -/
structure RequestCompletion where
  interface : Option Iface
  kind : RequestKind
  generation : UInt32
  inUse : Bool
  deriving DecidableEq, Repr

/-- A slot never used. -/
def RequestCompletion.zero : RequestCompletion := ⟨Option.none, .none, 0, false⟩

/-- A pointer to one of the `WLH_RTT_REQUEST_COMPLETION_SLOTS` slots of an interface. -/
abbrev Slot := Iface × Fin 4

/-! ## Messages and reports -/

/-- Security types of the wire protocol that the adapter knows. -/
inductive WifiSecurity where
  | open
  | wpaPsk
  | wpa2Psk
  | wpaWpa2Psk
  | other
  deriving DecidableEq, Repr

/-- C `rt_wlan_security_t`, as far as the adapter produces it. -/
inductive WlanSecurity where
  | open
  | wpaAesPsk
  | wpa2AesPsk
  | wpa2MixedPsk
  | unknown
  deriving DecidableEq, Repr

/-- C `wlh_rtt_security_from_wire`. -/
def wlhRttSecurityFromWire : WifiSecurity → WlanSecurity
  | .open => .open
  | .wpaPsk => .wpaAesPsk
  | .wpa2Psk => .wpa2AesPsk
  | .wpaWpa2Psk => .wpa2MixedPsk
  | .other => .unknown

/-- C `struct rt_wlan_info`, without the fields that stay zero. -/
structure WlanInfo where
  security : WlanSecurity
  band24 : Bool
  channel : Int16
  rssi : Int16
  ssidLen : UInt8
  ssid : List UInt8
  bssid : List UInt8
  deriving DecidableEq, Repr

/-- The fields shared by `WifiNetwork` and `WifiLinkInfo`. -/
structure WifiNetwork where
  security : WifiSecurity
  band24 : Bool
  channel : UInt32
  rssiDbm : Int32
  ssid : List UInt8
  bssid : List UInt8
  deriving DecidableEq, Repr

/-- Conversion of a network or link description (C `link_to_info` and the loop body of
    `report_scan_result`). -/
def linkToInfo (link : WifiNetwork) : WlanInfo where
  security := wlhRttSecurityFromWire link.security
  band24 := link.band24
  channel := link.channel.toUInt16.toInt16
  rssi := link.rssiDbm.toInt16
  ssidLen := UInt8.ofNat link.ssid.length
  ssid := link.ssid
  bssid := if link.bssid.length = 6 then link.bssid else List.replicate 6 0

/-- Interfaces of the wire protocol. -/
inductive WifiInterface where
  | sta
  | ap
  | other
  deriving DecidableEq, Repr

/-- C `wlh_rtt_route_wire_interface`, with `none` for `WLH_RTT_ROUTE_INVALID`. -/
def wlhRttRouteWireInterface : WifiInterface → Option Iface
  | .sta => some .sta
  | .ap => some .ap
  | .other => none

/-- An event that Core delivers, as decoded. -/
inductive CoreEvent where
  | scanResult (decoded : Option (UInt32 × List WifiNetwork))
  | scanCompleted (decoded : Option UInt32)
  | connected (decoded : Option (Option (WifiInterface × WifiNetwork × List UInt8)))
  | disconnected (decoded : Option WifiInterface)
  | apClientJoined (decoded : Option (Option (List UInt8 × Int32 × UInt32)))
  | apClientLeft (decoded : Option (List UInt8 × UInt32 × UInt32))

/-- C `rt_wlan_dev_event_t`, as far as the adapter reports it. -/
inductive DevEvent where
  | connect
  | connectFail
  | disconnect
  | apStart
  | apStop
  | apAssociated
  | apDisassociated
  | scanReport
  | scanDone
  deriving DecidableEq, Repr

/-- One call of `wlh_rtt_report_event`. -/
structure Report where
  interface : Iface
  event : DevEvent
  data : Option WlanInfo
  deriving DecidableEq, Repr

/-! ## State -/

/-- C `wlh_rtt_ap_client_stats_t`. -/
structure ApClientStats where
  mac : List UInt8
  active : Bool
  rssiDbm : Int16
  associationId : UInt32
  ieee80211Reason : UInt32
  deriving DecidableEq, Repr

def ApClientStats.zero : ApClientStats := ⟨List.replicate 6 0, false, 0, 0, 0⟩

/-- C `wlh_rtt_interface_t`. -/
structure Interface where
  active : Bool
  statsActive : Bool
  mac : List UInt8
  info : Option WlanInfo
  request : Request
  completions : Fin 4 → RequestCompletion

/-- C `wlh_rtt_host_impl_t`. -/
structure Host where
  interfaces : Iface → Interface
  nextGeneration : UInt32
  apClient : List ApClientStats
  apClients : UInt32

namespace Host

def request (h : Host) (i : Iface) : Request := (h.interfaces i).request

def completion (h : Host) (slot : Slot) : RequestCompletion :=
  (h.interfaces slot.1).completions slot.2

/-- Change one interface. -/
def modify (h : Host) (i : Iface) (f : Interface → Interface) : Host :=
  { h with interfaces := Function.update h.interfaces i (f (h.interfaces i)) }

def setRequest (h : Host) (i : Iface) (r : Request) : Host :=
  h.modify i fun interface => { interface with request := r }

def setCompletion (h : Host) (slot : Slot) (c : RequestCompletion) : Host :=
  h.modify slot.1 fun interface =>
    { interface with completions := Function.update interface.completions slot.2 c }

/-- The host after `wlh_rtt_host_init` with the given counter value. -/
def initial (counter : UInt32) (maxClients : Nat) : Host where
  interfaces := fun _ =>
    { active := false, statsActive := false, mac := List.replicate 6 0, info := none
      request := .zero, completions := fun _ => .zero }
  nextGeneration := counter
  apClient := List.replicate maxClients .zero
  apClients := 0

end Host

/-! ## Requests -/

/-- Next non-zero generation (C `wlh_rtt_next_generation`). -/
def wlhRttNextGeneration (current : UInt32) : UInt32 :=
  let current := current + 1
  if current = 0 then 1 else current

/-- Begin a request: take the first free slot and a new generation (C `wlh_rtt_request_begin`).
    Generation `0` reports that the interface is busy or has no free slot. -/
def wlhRttRequestBegin (h : Host) (i : Iface) (kind : RequestKind) : Host × UInt32 × Option Slot :=
  if (h.request i).active then (h, 0, none)
  else
    match (List.finRange 4).find? fun k => !(h.completion (i, k)).inUse with
    | none => (h, 0, none)
    | some k =>
      let generation := wlhRttNextGeneration h.nextGeneration
      let h := { h with nextGeneration := generation }
      let h := h.setRequest i ⟨kind, generation, true⟩
      let h := h.setCompletion (i, k) ⟨some i, kind, generation, true⟩
      (h, generation, some (i, k))

/-- The slot belongs to the active request. -/
def Matches (r : Request) (c : RequestCompletion) : Prop :=
  r.active = true ∧ r.kind = c.kind ∧ r.generation = c.generation

instance (r : Request) (c : RequestCompletion) : Decidable (Matches r c) :=
  inferInstanceAs (Decidable (_ ∧ _))

/-- Give back a slot whose submission was rejected (C `wlh_rtt_request_abort`). -/
def wlhRttRequestAbort (h : Host) (slot : Slot) : Host :=
  let c := h.completion slot
  if c.inUse then
    match c.interface with
    | none => h
    | some i =>
      let h' := if Matches (h.request i) c then h.setRequest i .zero else h
      h'.setCompletion slot { c with inUse := false }
  else h

/-- End the active request if it is of the given kind (C `wlh_rtt_request_finish`). -/
def wlhRttRequestFinish (h : Host) (i : Iface) (kind : RequestKind) : Host :=
  if (h.request i).active = true ∧ (h.request i).kind = kind then h.setRequest i .zero else h

/-- C `wlh_host_result_t`. -/
inductive HostResult where
  | ok
  | error (code : Int)
  deriving DecidableEq, Repr

/-- The report for a request whose RPC has failed. -/
def failureEvent : RequestKind → Option DevEvent
  | .none => none
  | .scan => some .scanDone
  | .connect => some .connectFail
  | .disconnect => some .disconnect
  | .apStart => some .apStop
  | .apStop => some .apStop

/-- Core's completion callback (C `wlh_rtt_request_complete`). -/
def wlhRttRequestComplete (h : Host) (slot : Slot) (result : HostResult) : Host × List Report :=
  let c := h.completion slot
  if c.inUse then
    match c.interface with
    | none => (h, [])
    | some i =>
      let matched := Matches (h.request i) c
      let h' := if result ≠ .ok ∧ matched then h.setRequest i .zero else h
      let h' := h'.setCompletion slot { c with inUse := false }
      if result = .ok ∨ ¬ matched then (h', [])
      else (h', ((failureEvent c.kind).map fun event => ⟨i, event, none⟩).toList)
  else (h, [])

/-! ## AP clients -/

/-- The entry that `wlh_rtt_ap_client_update` picks: the active one with this MAC, else, for a join,
    the first inactive one before it. -/
def apClientFind (mac : List UInt8) (joined : Bool) :
    List ApClientStats → Nat → Option Nat → Option Nat
  | [], _, client => client
  | entry :: table, index, client =>
    if entry.active = true ∧ entry.mac = mac then some index
    else if joined = true ∧ client = none ∧ entry.active = false then
      apClientFind mac joined table (index + 1) (some index)
    else apClientFind mac joined table (index + 1) client

/-- C `wlh_rtt_ap_client_update`: the table, the count and whether an entry was changed. -/
def wlhRttApClientUpdate (table : List ApClientStats) (mac : List UInt8) (joined : Bool)
    (rssiDbm : Int16) (associationId ieee80211Reason activeCount : UInt32) :
    List ApClientStats × UInt32 × Bool :=
  match apClientFind mac joined table 0 none with
  | none => (table, activeCount, false)
  | some index =>
    let wasActive := (table.getD index .zero).active
    let count :=
      if joined = true ∧ wasActive = false then activeCount + 1
      else if joined = false ∧ wasActive = true ∧ activeCount ≠ 0 then activeCount - 1
      else activeCount
    (table.set index ⟨mac, joined, rssiDbm, associationId, ieee80211Reason⟩, count, true)

/-- C `wlh_rtt_ap_client_clear`. -/
def wlhRttApClientClear (h : Host) : Host :=
  { h with apClient := List.replicate h.apClient.length .zero, apClients := 0 }

/-! ## Core events -/

/-- The station has an active scan with this id. -/
def ScanActive (h : Host) (scanId : UInt32) : Prop :=
  (h.request .sta).active = true ∧ (h.request .sta).kind = .scan ∧
    scanId = (h.request .sta).generation

instance (h : Host) (scanId : UInt32) : Decidable (ScanActive h scanId) :=
  inferInstanceAs (Decidable (_ ∧ _))

/-- C `report_scan_result`. -/
def reportScanResult (h : Host) : Option (UInt32 × List WifiNetwork) → Host × List Report
  | none => (h, [])
  | some (scanId, networks) =>
    if ScanActive h scanId then
      (h, networks.map fun network => ⟨.sta, .scanReport, some (linkToInfo network)⟩)
    else (h, [])

/-- C `report_scan_complete`. -/
def reportScanComplete (h : Host) : Option UInt32 → Host × List Report
  | none => (h, [])
  | some scanId =>
    if ScanActive h scanId then (wlhRttRequestFinish h .sta .scan, [⟨.sta, .scanDone, none⟩])
    else (h, [])

/-- The request that a connected event ends. -/
def upKind : Iface → RequestKind
  | .sta => .connect
  | .ap => .apStart

/-- The request that a disconnected event ends. -/
def downKind : Iface → RequestKind
  | .sta => .disconnect
  | .ap => .apStop

/-- The report of a link that has come up. -/
def upEvent : Iface → DevEvent
  | .sta => .connect
  | .ap => .apStart

/-- The report of a link that has gone down. -/
def downEvent : Iface → DevEvent
  | .sta => .disconnect
  | .ap => .apStop

/-- C `report_connected`. -/
def reportConnected (h : Host) :
    Option (Option (WifiInterface × WifiNetwork × List UInt8)) → Host × List Report
  | some (some (wire, link, mac)) =>
    match wlhRttRouteWireInterface wire with
    | none => (h, [])
    | some i =>
      let h := h.modify i fun interface =>
        { interface with
          info := some (linkToInfo link)
          mac := if mac.length = 6 then mac else interface.mac
          active := true
          statsActive := true }
      (wlhRttRequestFinish h i (upKind i), [⟨i, upEvent i, some (linkToInfo link)⟩])
  | _ => (h, [])

/-- C `report_disconnected`. -/
def reportDisconnected (h : Host) : Option WifiInterface → Host × List Report
  | none => (h, [])
  | some wire =>
    match wlhRttRouteWireInterface wire with
    | none => (h, [])
    | some i =>
      let h := h.modify i fun interface =>
        { interface with active := false, statsActive := false }
      let h := wlhRttRequestFinish h i (downKind i)
      let h := if i = .ap then { h with apClients := 0 } else h
      (h, [⟨i, downEvent i, none⟩])

/-- The info reported for an AP client: its MAC address and signal strength. -/
def clientInfo (mac : List UInt8) (rssi : Int16) : WlanInfo :=
  ⟨.open, false, 0, rssi, 0, [], mac⟩

/-- The common end of `report_ap_client`. -/
def apClientUpdate (h : Host) (mac : List UInt8) (joined : Bool) (rssi : Int16)
    (associationId reason : UInt32) : Host × List Report :=
  let u := wlhRttApClientUpdate h.apClient mac joined rssi associationId reason h.apClients
  ({ h with apClient := u.1, apClients := u.2.1 },
    [⟨.ap, if joined then .apAssociated else .apDisassociated, some (clientInfo mac rssi)⟩])

/-- C `report_ap_client` for a joined event. -/
def reportApClientJoined (h : Host) :
    Option (Option (List UInt8 × Int32 × UInt32)) → Host × List Report
  | some (some (mac, rssi, associationId)) =>
    if mac.length = 6 then apClientUpdate h mac true rssi.toInt16 associationId 0 else (h, [])
  | _ => (h, [])

/-- C `report_ap_client` for a left event. -/
def reportApClientLeft (h : Host) : Option (List UInt8 × UInt32 × UInt32) → Host × List Report
  | some (mac, associationId, reason) =>
    if mac.length = 6 then apClientUpdate h mac false 0 associationId reason else (h, [])
  | none => (h, [])

/-- C `wlh_rtt_wlan_event`. -/
def wlhRttWlanEvent (h : Host) : CoreEvent → Host × List Report
  | .scanResult decoded => reportScanResult h decoded
  | .scanCompleted decoded => reportScanComplete h decoded
  | .connected decoded => reportConnected h decoded
  | .disconnected decoded => reportDisconnected h decoded
  | .apClientJoined decoded => reportApClientJoined h decoded
  | .apClientLeft decoded => reportApClientLeft h decoded

/-! ## Local operations -/

/-- Stop a scan locally (C `wlan_scan_stop`). -/
def wlanScanStop (h : Host) (i : Iface) : Host × List Report :=
  if (h.request i).active = true ∧ (h.request i).kind = .scan then
    (wlhRttRequestFinish h i .scan, [⟨i, .scanDone, none⟩])
  else (h, [])

/-- The report for a request that a reset ends. -/
def resetEvent : RequestKind → DevEvent
  | .scan => .scanDone
  | .connect => .connectFail
  | .apStart => .apStop
  | .apStop => .apStop
  | .disconnect => .disconnect
  | .none => .disconnect

/-- One pass of the loop of `wlh_rtt_wlan_reset`. -/
def resetInterface (h : Host) (i : Iface) : Host × List Report :=
  let wasActive := (h.interfaces i).active
  let pending := h.request i
  let h := h.modify i fun interface =>
    { interface with active := false, statsActive := false, request := .zero }
  (h, (if pending.active then [⟨i, resetEvent pending.kind, none⟩] else []) ++
    (if wasActive then [⟨i, downEvent i, none⟩] else []))

/-- C `wlh_rtt_wlan_reset`. -/
def wlhRttWlanReset (h : Host) : Host × List Report :=
  let s := resetInterface h .sta
  let a := resetInterface s.1 .ap
  (wlhRttApClientClear a.1, s.2 ++ a.2)

end WlhHpm.Wlan

import WlhHpm.Lib.SlotMap
import WlhHpm.Wlan.ApClients

/-!
# The table of AP clients as a bounded map

`wlh_rtt_ap_client_update` and `wlh_rtt_ap_client_clear` keep a finite map from MACs to what was last
reported of them, with as many entries as the table has at most. `ClientMap.update` says what an update
does to the map. The table refines it: from a zeroed table on, every sequence of calls leaves a table
that stores the map, and every call returns what the map says (`ap_client_map`).
-/

namespace WlhHpm.Wlan

/-- What is known of a client: its RSSI, its association id and its reason code. -/
abbrev ClientValues := Int16 × UInt32 × UInt32

abbrev ClientMap := Finmap fun _ : List UInt8 => ClientValues

/-- A call into the table of AP clients. -/
inductive ClientCall where
  | update (mac : List UInt8) (joined : Bool) (rssiDbm : Int16) (associationId reason : UInt32)
  | clear

/-- A call on the map; whether it changes an entry. -/
def ClientMap.step (capacity : Nat) (m : ClientMap) : ClientCall → ClientMap × Bool
  | .update mac true rssiDbm associationId reason =>
    if mac ∈ m ∨ m.keys.card < capacity then (m.insert mac (rssiDbm, associationId, reason), true)
    else (m, false)
  | .update mac false _ _ _ => if mac ∈ m then (m.erase mac, true) else (m, false)
  | .clear => (∅, true)

/-- A call on the table. -/
def Host.clientStep (h : Host) : ClientCall → Host × Bool
  | .update mac joined rssiDbm associationId reason =>
    let u := wlhRttApClientUpdate h.apClient mac joined rssiDbm associationId reason h.apClients
    ({ h with apClient := u.1, apClients := u.2.1 }, u.2.2)
  | .clear => (wlhRttApClientClear h, true)

/-- An entry as a slot of a table. -/
def ApClientStats.slot (entry : ApClientStats) : Option (List UInt8 × ClientValues) :=
  if entry.active then
    some (entry.mac, entry.rssiDbm, entry.associationId, entry.ieee80211Reason)
  else none

/-- The table stores the map, and the count is its size. -/
structure Stores (capacity : Nat) (h : Host) (m : ClientMap) : Prop where
  size : h.apClient.length = capacity
  table : Represents (h.apClient.map ApClientStats.slot) m
  count : h.apClients.toNat = m.keys.card

/-- A slot in use is an active entry. -/
lemma slot_eq_some {entry : ApClientStats} {mac : List UInt8} {v : ClientValues} :
    entry.slot = some (mac, v) ↔
      entry.Is mac ∧ (entry.rssiDbm, entry.associationId, entry.ieee80211Reason) = v := by
  unfold ApClientStats.slot ApClientStats.Is
  split
  · rename_i active
    rw [Option.some_inj, Prod.mk.injEq, active]
    simp only [true_and]
  · rename_i inactive
    simp [inactive]

/-- An empty slot is an entry that is not active. -/
lemma slot_eq_none {entry : ApClientStats} : entry.slot = none ↔ entry.active = false := by
  unfold ApClientStats.slot
  split
  · rename_i active
    simp [active]
  · rename_i inactive
    simp [inactive]

/-- The slots that are taken are the active entries. -/
lemma countP_slot (table : List ApClientStats) :
    (table.map ApClientStats.slot).countP Option.isSome = activeClients table := by
  rw [List.countP_map, activeClients]
  refine congrArg (List.countP · table) (funext fun entry => ?_)
  simp only [Function.comp_apply, ApClientStats.slot]
  cases entry.active <;> rfl

namespace Stores
variable {capacity : Nat} {h : Host} {m : ClientMap}

/-- The table after `wlh_rtt_host_init` stores the empty map. -/
lemma initial (counter : UInt32) (capacity : Nat) : Stores capacity (.initial counter capacity) ∅ where
  size := List.length_replicate ..
  table := by
    rw [Host.initial, List.map_replicate]
    exact .empty capacity
  count := rfl

/-- The table stores the empty map after it has been cleared. -/
lemma clear (stores : Stores capacity h m) : Stores capacity (wlhRttApClientClear h) ∅ where
  size := (List.length_replicate ..).trans stores.size
  table := by
    rw [wlhRttApClientClear, List.map_replicate]
    exact .empty _
  count := rfl

/-- The count is the number of active entries. -/
lemma counted (stores : Stores capacity h m) : h.apClients.toNat = activeClients h.apClient := by
  rw [stores.count, stores.table.card, countP_slot]

/-- A MAC is in the map exactly if it has an active entry. -/
lemma mem_iff (stores : Stores capacity h m) (mac : List UInt8) :
    mac ∈ m ↔ ∃ entry ∈ h.apClient, entry.Is mac := by
  rw [stores.table.mem_iff]
  simp only [List.getElem?_map, Option.map_eq_some_iff, slot_eq_some]
  constructor
  · rintro ⟨i, v, entry, get, hit, -⟩
    exact ⟨entry, List.mem_of_getElem? get, hit⟩
  · rintro ⟨entry, mem, hit⟩
    obtain ⟨i, get⟩ := List.mem_iff_getElem?.mp mem
    exact ⟨i, _, entry, get, hit, rfl⟩

/-- The map is full exactly if every entry is active. -/
lemma room_iff (stores : Stores capacity h m) :
    m.keys.card < capacity ↔ ∃ entry ∈ h.apClient, entry.active = false := by
  rw [← stores.size, ← List.length_map ApClientStats.slot, ← stores.table.free_iff, List.mem_map]
  simp only [slot_eq_none]

/-- What a table stores after a client has joined at an entry that is its own or, if it has none, free. -/
lemma join_table (stores : Stores capacity h m) {mac : List UInt8} {k : Nat} {entry : ApClientStats}
    (get : h.apClient[k]? = some entry)
    (picked : entry.Is mac ∨ entry.active = false ∧ ∀ entry ∈ h.apClient, ¬ entry.Is mac)
    (rssiDbm : Int16) (associationId reason : UInt32) :
    Represents ((h.apClient.set k ⟨mac, true, rssiDbm, associationId, reason⟩).map ApClientStats.slot)
      (m.insert mac (rssiDbm, associationId, reason)) := by
  have slot : (h.apClient.map ApClientStats.slot)[k]? = some entry.slot := by
    rw [List.getElem?_map, get, Option.map_some]
  rw [List.map_set]
  refine stores.table.set_some slot (fun j w at_j => ?_) (fun e mem => ?_) _
  · rcases picked with hit | ⟨-, misses⟩
    · have own : entry.slot = some (mac, entry.rssiDbm, entry.associationId, entry.ieee80211Reason) :=
        slot_eq_some.mpr ⟨hit, rfl⟩
      exact stores.table.distinct _ _ _ _ _ at_j (slot.trans (congrArg some own))
    · rw [List.getElem?_map, Option.map_eq_some_iff] at at_j
      obtain ⟨other, at_j, taken⟩ := at_j
      exact absurd (slot_eq_some.mp taken).1 (misses other (List.mem_of_getElem? at_j))
  · obtain ⟨mac', v⟩ := e
    obtain ⟨⟨active, rfl⟩, -⟩ := slot_eq_some.mp mem
    rcases picked with hit | ⟨free, -⟩
    · exact hit.2
    · rw [active] at free
      cases free

/-- What a table stores after a client has left its entry. -/
lemma leave_table (stores : Stores capacity h m) {mac : List UInt8} {k : Nat} {entry : ApClientStats}
    (get : h.apClient[k]? = some entry) (hit : entry.Is mac) (rssiDbm : Int16)
    (associationId reason : UInt32) :
    Represents ((h.apClient.set k ⟨mac, false, rssiDbm, associationId, reason⟩).map ApClientStats.slot)
      (m.erase mac) := by
  have own : entry.slot = some (mac, entry.rssiDbm, entry.associationId, entry.ieee80211Reason) :=
    slot_eq_some.mpr ⟨hit, rfl⟩
  have slot : (h.apClient.map ApClientStats.slot)[k]? = some entry.slot := by
    rw [List.getElem?_map, get, Option.map_some]
  rw [own] at slot
  rw [List.map_set]
  exact stores.table.set_none slot

/-- An update of the table is the update of the map. -/
lemma update (stores : Stores capacity h m) (small : capacity < 2 ^ 32) (mac : List UInt8)
    (joined : Bool) (rssiDbm : Int16) (associationId reason : UInt32) :
    Stores capacity (h.clientStep (.update mac joined rssiDbm associationId reason)).1
        (m.step capacity (.update mac joined rssiDbm associationId reason)).1 ∧
      (h.clientStep (.update mac joined rssiDbm associationId reason)).2 =
        (m.step capacity (.update mac joined rssiDbm associationId reason)).2 := by
  have small' : h.apClient.length < 2 ^ 32 := stores.size ▸ small
  obtain ⟨size, counted⟩ := update_counted mac joined rssiDbm associationId reason small' stores.counted
  -- it is enough to find the map that the new table stores
  have of_table {m' : ClientMap} (rep : Represents ((wlhRttApClientUpdate h.apClient mac joined rssiDbm
      associationId reason h.apClients).1.map ApClientStats.slot) m') :
      Stores capacity (h.clientStep (.update mac joined rssiDbm associationId reason)).1 m' := by
    refine ⟨size.trans stores.size, rep, ?_⟩
    rw [rep.card, countP_slot]
    exact counted
  have mem := stores.mem_iff mac
  simp only [Host.clientStep] at of_table ⊢
  unfold wlhRttApClientUpdate at of_table ⊢
  cases found : apClientFind mac joined h.apClient 0 none with
  | none =>
    obtain ⟨-, misses, full⟩ := apClientFind_none found
    have absent : mac ∉ m := fun there => by
      obtain ⟨entry, at_table, hit⟩ := mem.mp there
      exact misses entry at_table hit
    cases joined with
    | true =>
      have no_room : ¬ m.keys.card < capacity := fun room => by
        obtain ⟨entry, at_table, free⟩ := stores.room_iff.mp room
        rw [full rfl entry at_table] at free
        cases free
      rw [ClientMap.step, if_neg (not_or.mpr ⟨absent, no_room⟩)]
      exact ⟨stores, rfl⟩
    | false =>
      rw [ClientMap.step, if_neg absent]
      exact ⟨stores, rfl⟩
  | some k =>
    rw [found] at of_table
    obtain ⟨entry, get, picked⟩ := apClientFind_picks found
    have at_table := List.mem_of_getElem? get
    cases joined with
    | true =>
      have room : mac ∈ m ∨ m.keys.card < capacity := by
        rw [mem, stores.room_iff]
        exact picked.imp (fun hit => ⟨entry, at_table, hit⟩) fun free => ⟨entry, at_table, free.2.1⟩
      rw [ClientMap.step, if_pos room]
      exact ⟨of_table (stores.join_table get (picked.imp_right And.right) _ _ _), rfl⟩
    | false =>
      have hit : entry.Is mac := picked.resolve_right fun free => by cases free.1
      rw [ClientMap.step, if_pos (mem.mpr ⟨entry, at_table, hit⟩)]
      exact ⟨of_table (stores.leave_table get hit _ _ _), rfl⟩

/-- A call on the table is the call on the map. -/
lemma step (stores : Stores capacity h m) (small : capacity < 2 ^ 32) (call : ClientCall) :
    Stores capacity (h.clientStep call).1 (m.step capacity call).1 ∧
      (h.clientStep call).2 = (m.step capacity call).2 := by
  cases call with
  | update mac joined rssiDbm associationId reason => exact stores.update small ..
  | clear => exact ⟨stores.clear, rfl⟩

end Stores

/-- A call that returns false changes nothing. -/
lemma clientStep_false {h : Host} {call : ClientCall} (refused : (h.clientStep call).2 = false) :
    (h.clientStep call).1 = h := by
  cases call with
  | clear => cases refused
  | update mac joined rssiDbm associationId reason =>
    simp only [Host.clientStep] at refused ⊢
    unfold wlhRttApClientUpdate at refused ⊢
    split at refused
    · rename_i found
      rfl
    · cases refused

/-- After every sequence of calls on a zeroed table, the table stores the map that the calls give, and
    the next call returns what the map says; if it returns false, it changes nothing. -/
theorem ap_client_map (counter : UInt32) (capacity : Nat) (small : capacity < 2 ^ 32)
    (calls : List ClientCall) :
    let h := calls.foldl (fun h call => (h.clientStep call).1) (Host.initial counter capacity)
    let m := calls.foldl (fun m call => (ClientMap.step capacity m call).1) (∅ : ClientMap)
    Stores capacity h m ∧ ∀ call,
      (h.clientStep call).2 = (m.step capacity call).2 ∧
        ((h.clientStep call).2 = false → (h.clientStep call).1 = h) := by
  intro h m
  have any : Along (fun h call => (Host.clientStep h call).1) (fun _ _ => True)
      (Host.initial counter capacity) calls := .of_forall fun _ _ _ => trivial
  have stores : Stores capacity h m :=
    any.simulate (fun _ _ call stores _ => (stores.step small call).1) (.initial counter capacity)
  exact ⟨stores, fun call => ⟨(stores.step small call).2, clientStep_false⟩⟩

/-- A table of two, after two clients have joined and the first has left. -/
theorem ap_client_map_two :
    let calls : List ClientCall := [.update [1] true (-40) 1 0, .update [2] true (-50) 2 0,
      .update [1] false 0 1 3]
    let h := calls.foldl (fun h call => (h.clientStep call).1) (Host.initial 0 2)
    let m := calls.foldl (fun m call => (ClientMap.step 2 m call).1) (∅ : ClientMap)
    Stores 2 h m ∧ ∀ call,
      (h.clientStep call).2 = (m.step 2 call).2 ∧
        ((h.clientStep call).2 = false → (h.clientStep call).1 = h) :=
  ap_client_map 0 2 (by decide) _

end WlhHpm.Wlan

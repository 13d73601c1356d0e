import WlhHpm.Wlan.Host

/-!
# Effects on requests and slots

What each operation of `Wlan/Host.lean` does to the active requests and to the completion slots, in
one relation: `Moves h h' out freed` says that the operation from `h` to `h'` with the reports `out`
leaves the generation counter alone, changes no slot except that it frees `freed`, and keeps or ends
each active request, with at most one `SCAN_DONE` report per interface and that only for a scan it
ends. Every operation but `wlh_rtt_request_begin` is such a move (`abort_moves`, `complete_moves`,
`finish_moves`, `event_moves`, `scanStop_moves`, `reset_moves`); `begin_cases` describes the latter.
-/

namespace WlhHpm.Wlan

namespace Host
variable (h : Host) (i : Iface) (r : Request) (slot : Slot) (c : RequestCompletion)

/-- The request of an interface is replaced. -/
@[simp] lemma request_setRequest (j : Iface) :
    (h.setRequest i r).request j = if j = i then r else h.request j := by
  simp only [setRequest, modify, request]
  split
  · rename_i e
    rw [e, Function.update_self]
  · rename_i ne
    rw [Function.update_of_ne ne]

/-- A new request leaves the slots alone. -/
@[simp] lemma completion_setRequest (s : Slot) :
    (h.setRequest i r).completion s = h.completion s := by
  simp only [setRequest, modify, completion]
  by_cases e : s.1 = i
  · rw [e, Function.update_self]
  · rw [Function.update_of_ne e]

/-- A new request leaves the counter alone. -/
@[simp] lemma nextGeneration_setRequest : (h.setRequest i r).nextGeneration = h.nextGeneration := rfl

/-- A new slot leaves the requests alone. -/
@[simp] lemma request_setCompletion (j : Iface) :
    (h.setCompletion slot c).request j = h.request j := by
  simp only [setCompletion, modify, request]
  by_cases e : j = slot.1
  · rw [e, Function.update_self]
  · rw [Function.update_of_ne e]

/-- A slot is replaced. -/
@[simp] lemma completion_setCompletion (s : Slot) :
    (h.setCompletion slot c).completion s = if s = slot then c else h.completion s := by
  simp only [setCompletion, modify, completion]
  by_cases e : s.1 = slot.1
  · rw [e, Function.update_self]
    dsimp only
    by_cases k : s.2 = slot.2
    · rw [k, Function.update_self, if_pos (Prod.ext e k)]
    · rw [Function.update_of_ne k, if_neg fun h => k (by rw [h]), ← e]
  · rw [Function.update_of_ne e, if_neg fun h => e (by rw [h])]

/-- A new slot leaves the counter alone. -/
@[simp] lemma nextGeneration_setCompletion :
    (h.setCompletion slot c).nextGeneration = h.nextGeneration := rfl

/-- Changing the link state of an interface touches neither requests nor slots. -/
lemma modify_link (f : Interface → Interface) (req : ∀ x, (f x).request = x.request)
    (comp : ∀ x, (f x).completions = x.completions) :
    (h.modify i f).request = h.request ∧ (h.modify i f).completion = h.completion := by
  constructor
  · funext j
    simp only [modify, request]
    by_cases e : j = i
    · rw [e, Function.update_self, req]
    · rw [Function.update_of_ne e]
  · funext s
    simp only [modify, completion]
    by_cases e : s.1 = i
    · rw [e, Function.update_self, comp]
    · rw [Function.update_of_ne e]

end Host

/-! ## Beginning a request -/

/-- A generation is never zero. -/
lemma nextGeneration_ne_zero (g : UInt32) : wlhRttNextGeneration g ≠ 0 := by
  unfold wlhRttNextGeneration
  simp only
  split
  · decide
  · assumption

/-- Generations run through the non-zero words in a cycle. -/
lemma nextGeneration_toNat (g : UInt32) :
    (wlhRttNextGeneration g).toNat = g.toNat % 4294967295 + 1 := by
  unfold wlhRttNextGeneration
  have lt := g.toNat_lt
  have e : (g + 1).toNat = (g.toNat + 1) % 4294967296 := by
    simp only [UInt32.toNat_add, UInt32.reduceToNat]
  simp only
  split
  · rename_i z
    rw [z] at e
    simp only [UInt32.reduceToNat] at e ⊢
    omega
  · rename_i nz
    have ne : (g + 1).toNat ≠ 0 := fun z => nz (UInt32.toNat_inj.mp z)
    omega

/-- The host after a request of the given kind has taken a slot. -/
def Host.begun (h : Host) (slot : Slot) (kind : RequestKind) : Host :=
  let generation := wlhRttNextGeneration h.nextGeneration
  ({ h with nextGeneration := generation }.setRequest slot.1 ⟨kind, generation, true⟩).setCompletion
    slot ⟨some slot.1, kind, generation, true⟩

/-- The interface has a new request once it has taken a slot. -/
lemma Host.request_begun (h : Host) (slot : Slot) (kind : RequestKind) (i : Iface) :
    (h.begun slot kind).request i =
      if i = slot.1 then ⟨kind, wlhRttNextGeneration h.nextGeneration, true⟩ else h.request i := by
  simp only [begun]
  rw [request_setCompletion, request_setRequest]
  rfl

/-- The two outcomes of beginning a request: nothing happens, or a free slot and a new generation
    are taken. -/
lemma begin_cases (h : Host) (i : Iface) (kind : RequestKind) :
    wlhRttRequestBegin h i kind = (h, 0, none) ∨
      ∃ k, (h.completion (i, k)).inUse = false ∧
        wlhRttRequestBegin h i kind =
          (h.begun (i, k) kind, wlhRttNextGeneration h.nextGeneration, some (i, k)) := by
  unfold wlhRttRequestBegin
  split
  · exact .inl rfl
  · cases found : (List.finRange 4).find? fun k => !(h.completion (i, k)).inUse with
    | none => exact .inl rfl
    | some k =>
      have free := List.find?_some found
      exact .inr ⟨k, by simpa using free, rfl⟩

/-! ## Everything else -/

/-- Number of `SCAN_DONE` reports for an interface. -/
def scanDones (i : Iface) (out : List Report) : Nat :=
  out.countP fun report => report.interface = i ∧ report.event = .scanDone

/-- A request is kept, without a `SCAN_DONE` report, or cleared, with at most one, and that only for
    an active scan. -/
def Ended (r r' : Request) (n : Nat) : Prop :=
  (r' = r ∧ n = 0) ∨ (r' = .zero ∧ (n = 0 ∨ (n = 1 ∧ r.active = true ∧ r.kind = .scan)))

/-- An operation that begins no request. -/
structure Moves (h h' : Host) (out : List Report) (freed : Option Slot) : Prop where
  counter : h'.nextGeneration = h.nextGeneration
  slots : ∀ s, h'.completion s =
    if freed = some s then { h.completion s with inUse := false } else h.completion s
  requests : ∀ i, Ended (h.request i) (h'.request i) (scanDones i out)

/-- Two operations in a row report at most one `SCAN_DONE` per interface, since the first one to do
    so has ended the scan. -/
lemma Ended.trans {r r' r'' : Request} {n n' : Nat} (fst : Ended r r' n) (snd : Ended r' r'' n') :
    Ended r r'' (n + n') := by
  rcases fst with ⟨rfl, rfl⟩ | ⟨rfl, why⟩
  · rw [Nat.zero_add]
    exact snd
  · rcases snd with ⟨rfl, rfl⟩ | ⟨rfl, rfl | ⟨-, act, -⟩⟩
    · exact .inr ⟨rfl, why⟩
    · exact .inr ⟨rfl, why⟩
    · exact absurd act Bool.false_ne_true

/-- Nothing has been done. -/
lemma Moves.refl (h : Host) : Moves h h [] none :=
  ⟨rfl, fun _ => rfl, fun _ => .inl ⟨rfl, rfl⟩⟩

/-- Moves that free no slot, from the request of each interface. -/
lemma Moves.of_requests {h h' : Host} {out : List Report}
    (counter : h'.nextGeneration = h.nextGeneration) (slots : h'.completion = h.completion)
    (requests : ∀ i, Ended (h.request i) (h'.request i) (scanDones i out)) : Moves h h' out none :=
  ⟨counter, fun s => by rw [slots]; rfl, requests⟩

/-- Two such operations, one after the other. -/
lemma Moves.trans {h h' h'' : Host} {out out' : List Report} (fst : Moves h h' out none)
    (snd : Moves h' h'' out' none) : Moves h h'' (out ++ out') none := by
  refine ⟨snd.counter.trans fst.counter, fun s => (snd.slots s).trans (fst.slots s), fun i => ?_⟩
  rw [scanDones, List.countP_append]
  exact (fst.requests i).trans (snd.requests i)

/-- Ending a request of a given kind. -/
lemma finish_request (h : Host) (i : Iface) (kind : RequestKind) (j : Iface) :
    (wlhRttRequestFinish h i kind).request j =
      if j = i ∧ (h.request i).active = true ∧ (h.request i).kind = kind then .zero
      else h.request j := by
  unfold wlhRttRequestFinish
  by_cases act : (h.request i).active = true ∧ (h.request i).kind = kind
  · rw [if_pos act, Host.request_setRequest]
    by_cases e : j = i
    · rw [if_pos e, if_pos ⟨e, act⟩]
    · rw [if_neg e, if_neg fun h => e h.1]
  · rw [if_neg act, if_neg fun h => act h.2]

/-- The end of a request leaves the slots alone. -/
lemma finish_completion (h : Host) (i : Iface) (kind : RequestKind) :
    (wlhRttRequestFinish h i kind).completion = h.completion := by
  funext s
  unfold wlhRttRequestFinish
  split <;> simp

/-- The end of a request leaves the counter alone. -/
lemma finish_counter (h : Host) (i : Iface) (kind : RequestKind) :
    (wlhRttRequestFinish h i kind).nextGeneration = h.nextGeneration := by
  unfold wlhRttRequestFinish
  split <;> rfl

/-- Ending a request without a `SCAN_DONE` report, after a change of the link state. -/
lemma finish_moves {h h₁ : Host} {out : List Report} (i : Iface) (kind : RequestKind)
    (counter : h₁.nextGeneration = h.nextGeneration)
    (same : h₁.request = h.request ∧ h₁.completion = h.completion)
    (quiet : ∀ j, scanDones j out = 0) : Moves h (wlhRttRequestFinish h₁ i kind) out none := by
  refine .of_requests ?_ ?_ fun j => ?_
  · rw [finish_counter, counter]
  · rw [finish_completion, same.2]
  · rw [finish_request, quiet]
    split
    · exact .inr ⟨rfl, .inl rfl⟩
    · exact .inl ⟨by rw [same.1], rfl⟩

/-- Ending an active scan, with the report that goes with it. -/
lemma finish_scan_moves {h : Host} {i : Iface}
    (act : (h.request i).active = true ∧ (h.request i).kind = .scan) :
    Moves h (wlhRttRequestFinish h i .scan) [⟨i, .scanDone, none⟩] none := by
  refine .of_requests (finish_counter h i _) (finish_completion h i _) fun j => ?_
  rw [finish_request]
  by_cases e : j = i
  · subst e
    rw [if_pos ⟨rfl, act⟩]
    exact .inr ⟨rfl, .inr ⟨by simp [scanDones], act⟩⟩
  · rw [if_neg fun h => e h.1]
    exact .inl ⟨rfl, by simp [scanDones, Ne.symm e]⟩

/-- The end of a scan begins no request. -/
lemma scanStop_moves (h : Host) (i : Iface) :
    Moves h (wlanScanStop h i).1 (wlanScanStop h i).2 none := by
  unfold wlanScanStop
  split
  · rename_i act
    exact finish_scan_moves act
  · exact .refl h

/-- Freeing a slot that belongs to interface `i`, and ending the request of that interface. -/
lemma freed_moves {h : Host} {slot : Slot} {i : Iface} {c : RequestCompletion} {out : List Report}
    (b : Prop) [Decidable b] (freed : c = { h.completion slot with inUse := false })
    (one : scanDones i out = 0 ∨
      (scanDones i out = 1 ∧ b ∧ (h.request i).active = true ∧ (h.request i).kind = .scan))
    (none_else : ∀ j ≠ i, scanDones j out = 0) :
    Moves h ((if b then h.setRequest i .zero else h).setCompletion slot c) out (some slot) := by
  refine ⟨?_, fun s => ?_, fun j => ?_⟩
  · split <;> rfl
  · rw [Host.completion_setCompletion]
    by_cases e : s = slot
    · rw [if_pos e, if_pos (by rw [e]), freed, e]
    · rw [if_neg e, if_neg fun h => e (Option.some_inj.mp h).symm]
      split <;> simp
  · rw [Host.request_setCompletion]
    by_cases e : j = i
    · -- the interface of the slot: its request is ended if it matched, and only then reported
      subst e
      split
      · rw [Host.request_setRequest, if_pos rfl]
        exact .inr ⟨rfl, one.imp id fun h => ⟨h.1, h.2.2⟩⟩
      · rename_i nb
        refine .inl ⟨rfl, ?_⟩
        rcases one with zero | bad
        · exact zero
        · exact absurd bad.2.1 nb
    · refine .inl ⟨?_, none_else j e⟩
      split
      · rw [Host.request_setRequest, if_neg e]
      · rfl

/-- An abort frees a slot in use. -/
lemma abort_moves {h : Host} {slot : Slot} {i : Iface} (use : (h.completion slot).inUse = true)
    (own : (h.completion slot).interface = some i) :
    Moves h (wlhRttRequestAbort h slot) [] (some slot) := by
  unfold wlhRttRequestAbort
  simp only [use, if_true, own]
  exact freed_moves _ (by simp only [own]) (.inl rfl) fun _ _ => rfl

/-- The report for a failed request of the given kind. -/
lemma scanDones_failure (i j : Iface) (kind : RequestKind) :
    scanDones j ((failureEvent kind).map fun event => (⟨i, event, none⟩ : Report)).toList =
      if j = i ∧ kind = .scan then 1 else 0 := by
  cases kind <;> cases i <;> cases j <;> rfl

/-- A completion frees a slot in use. -/
lemma complete_moves {h : Host} {slot : Slot} {i : Iface} (result : HostResult)
    (use : (h.completion slot).inUse = true) (own : (h.completion slot).interface = some i) :
    Moves h (wlhRttRequestComplete h slot result).1 (wlhRttRequestComplete h slot result).2
      (some slot) := by
  unfold wlhRttRequestComplete
  simp only [use, if_true, own]
  split
  · exact freed_moves _ (by simp only [own]) (.inl rfl) fun _ _ => rfl
  · rename_i fail
    rw [not_or, not_not] at fail
    refine freed_moves _ (by simp only [own]) ?_ fun j ne => ?_
    · rw [scanDones_failure]
      by_cases k : (h.completion slot).kind = .scan
      · rw [if_pos ⟨rfl, k⟩]
        exact .inr ⟨rfl, fail, fail.2.1, fail.2.2.1.trans k⟩
      · rw [if_neg fun h => k h.2]
        exact .inl rfl
    · rw [scanDones_failure, if_neg fun h => ne h.1]

/-- The completion of a request that is no longer the active one only frees its slot. -/
lemma complete_unmatched {h : Host} {slot : Slot} {i : Iface} (result : HostResult)
    (use : (h.completion slot).inUse = true) (own : (h.completion slot).interface = some i)
    (stale : ¬ Matches (h.request i) (h.completion slot)) :
    wlhRttRequestComplete h slot result =
      (h.setCompletion slot { h.completion slot with inUse := false }, []) := by
  simp only [wlhRttRequestComplete, use, if_true, own, stale, and_false, if_false,
    not_false_eq_true, or_true]

/-- A connected event begins no request. -/
lemma connected_moves (h : Host)
    (decoded : Option (Option (WifiInterface × WifiNetwork × List UInt8))) :
    Moves h (reportConnected h decoded).1 (reportConnected h decoded).2 none := by
  unfold reportConnected
  split
  · split
    · exact .refl h
    · rename_i i _
      refine finish_moves i _ rfl (h.modify_link i _ (fun _ => rfl) fun _ => rfl) fun j => ?_
      cases i <;> cases j <;> rfl
  · exact .refl h

/-- A disconnected event begins no request. -/
lemma disconnected_moves (h : Host) (decoded : Option WifiInterface) :
    Moves h (reportDisconnected h decoded).1 (reportDisconnected h decoded).2 none := by
  unfold reportDisconnected
  split
  · exact .refl h
  · split
    · exact .refl h
    · rename_i i _
      have moves : Moves h (wlhRttRequestFinish (h.modify i fun interface =>
          { interface with active := false, statsActive := false }) i (downKind i))
          [⟨i, downEvent i, none⟩] none := by
        refine finish_moves i _ rfl (h.modify_link i _ (fun _ => rfl) fun _ => rfl) fun j => ?_
        cases i <;> cases j <;> rfl
      cases i with
      | sta => exact moves
      | ap => exact ⟨moves.counter, moves.slots, moves.requests⟩

/-- A report on a client begins no request. -/
lemma apClientUpdate_moves (h : Host) (mac : List UInt8) (joined : Bool) (rssi : Int16)
    (associationId reason : UInt32) :
    Moves h (apClientUpdate h mac joined rssi associationId reason).1
      (apClientUpdate h mac joined rssi associationId reason).2 none := by
  refine .of_requests rfl rfl fun j => .inl ⟨rfl, ?_⟩
  cases joined <;> cases j <;> rfl

/-- A Core event ends at most the active request of one interface. -/
lemma event_moves (h : Host) (event : CoreEvent) :
    Moves h (wlhRttWlanEvent h event).1 (wlhRttWlanEvent h event).2 none := by
  cases event with
  | scanResult decoded =>
    simp only [wlhRttWlanEvent]
    unfold reportScanResult
    split
    · exact .refl h
    · split
      · refine .of_requests rfl rfl fun j => .inl ⟨rfl, ?_⟩
        rw [scanDones, List.countP_eq_zero]
        simp only [List.mem_map, forall_exists_index, and_imp]
        rintro report network - rfl
        simp
      · exact .refl h
  | scanCompleted decoded =>
    simp only [wlhRttWlanEvent]
    unfold reportScanComplete
    split
    · exact .refl h
    · split
      · rename_i act
        exact finish_scan_moves ⟨act.1, act.2.1⟩
      · exact .refl h
  | connected decoded => exact connected_moves h decoded
  | disconnected decoded => exact disconnected_moves h decoded
  | apClientJoined decoded =>
    simp only [wlhRttWlanEvent]
    unfold reportApClientJoined
    split
    · split
      · exact apClientUpdate_moves ..
      · exact .refl h
    · exact .refl h
  | apClientLeft decoded =>
    simp only [wlhRttWlanEvent]
    unfold reportApClientLeft
    split
    · split
      · exact apClientUpdate_moves ..
      · exact .refl h
    · exact .refl h

/-- The reports of one pass of the reset. -/
lemma scanDones_resetInterface (h : Host) (i j : Iface) :
    scanDones j (resetInterface h i).2 =
      if j = i ∧ (h.request i).active = true ∧ (h.request i).kind = .scan then 1 else 0 := by
  unfold resetInterface
  rw [scanDones, List.countP_append]
  have down : ∀ b : Bool, List.countP (fun report => report.interface = j ∧ report.event = .scanDone)
      (if b then [(⟨i, downEvent i, none⟩ : Report)] else []) = 0 := by
    intro b
    cases b <;> cases i <;> cases j <;> rfl
  rw [down, Nat.add_zero]
  -- only the report for the pending request can be a `SCAN_DONE`
  cases (h.request i).active with
  | false => simp
  | true => cases (h.request i).kind <;> cases i <;> cases j <;> rfl

/-- A pass of the reset clears the request of its interface. -/
lemma resetInterface_request (h : Host) (i j : Iface) :
    (resetInterface h i).1.request j = if j = i then .zero else h.request j := by
  simp only [resetInterface, Host.modify, Host.request]
  split
  · rename_i e
    rw [e, Function.update_self]
  · rename_i ne
    rw [Function.update_of_ne ne]

/-- A pass of the reset begins no request. -/
lemma resetInterface_moves (h : Host) (i : Iface) :
    Moves h (resetInterface h i).1 (resetInterface h i).2 none := by
  refine .of_requests rfl (funext fun s => ?_) fun j => ?_
  · simp only [resetInterface, Host.modify, Host.completion]
    by_cases e : s.1 = i
    · rw [e, Function.update_self]
    · rw [Function.update_of_ne e]
  · rw [scanDones_resetInterface, resetInterface_request]
    by_cases e : j = i
    · rw [if_pos e]
      refine .inr ⟨rfl, ?_⟩
      split
      · rename_i act
        exact .inr ⟨rfl, e ▸ act.2⟩
      · exact .inl rfl
    · rw [if_neg e, if_neg fun h => e h.1]
      exact .inl ⟨rfl, rfl⟩

/-- A reset begins no request. -/
lemma reset_moves (h : Host) : Moves h (wlhRttWlanReset h).1 (wlhRttWlanReset h).2 none := by
  have both := (resetInterface_moves h .sta).trans (resetInterface_moves _ .ap)
  exact ⟨both.counter, both.slots, both.requests⟩

/-- A reset ends every request. -/
lemma reset_request (h : Host) (i : Iface) : (wlhRttWlanReset h).1.request i = .zero := by
  have eq : (wlhRttWlanReset h).1.request i =
      (resetInterface (resetInterface h .sta).1 .ap).1.request i := rfl
  rw [eq, resetInterface_request, resetInterface_request]
  cases i <;> rfl

/-- A scan stop ends the scan. -/
lemma scanStop_request {h : Host} {i : Iface}
    (act : (h.request i).active = true ∧ (h.request i).kind = .scan) :
    (wlanScanStop h i).1.request i = .zero := by
  simp only [wlanScanStop]
  rw [if_pos act, finish_request, if_pos ⟨rfl, act⟩]

end WlhHpm.Wlan

import WlhHpm.Wlan.Requests

/-!
# Scans

A scan can end by a failed RPC, by the completed event, by `wlan_scan_stop`, by a reset or by a
rejected submission, while older submissions still wait for Core in their slots. The generation,
which the scan passes to Core as its `scan_id`, keeps these apart.

`Reported` is the invariant on the reports: no scan is reported twice, and the scan that is active
now has not been reported. `Stale n s` says that submission `n` is not the active request any more;
since generations do not come back, it stays so, and its completion does no more than free its slot.
-/

namespace WlhHpm.Wlan
open State

/-! ## At most one report -/

/-- The reports attributed to a generation. -/
lemma count_doneOf (h : Host) (out : List Report) (i : Iface) (g : UInt32) :
    (doneOf h out).count (i, g) =
      if g = (h.request i).generation then scanDones i out else 0 := by
  induction out with
  | nil =>
    simp only [doneOf, scanDones, List.filterMap_nil, List.count_nil, List.countP_nil, ite_self]
  | cons report out ih =>
    simp only [doneOf, scanDones] at ih
    simp only [doneOf, scanDones, List.filterMap_cons, List.countP_cons]
    by_cases scan : report.event = .scanDone
    · rw [if_pos scan]
      simp only [List.count_cons, ih]
      by_cases own : report.interface = i
      · cases own
        by_cases eq : g = (h.request report.interface).generation
        · simp [eq, scan]
        · simp [eq, Ne.symm eq]
      · simp [own]
    · rw [if_neg scan]
      simp only [ih, scan, and_false, decide_false, Bool.false_eq_true, if_false, Nat.add_zero]

/-- Every `SCAN_DONE` belongs to a scan of its own, which is not active any more. -/
structure Reported (s : State) : Prop where
  once : ∀ d, s.done.count d ≤ 1
  fresh : ∀ i, (s.host.request i).active = true →
    s.done.count (i, (s.host.request i).generation) = 0
  begun : ∀ d ∈ s.done, ∃ r ∈ s.rpcs, r.kind = .scan ∧ d = (r.interface, r.generation)

section Reported
variable {c : UInt32} {s s' : State}

/-- Nothing has been reported at first. -/
lemma Reported.initial (counter : UInt32) (maxClients : Nat) :
    Reported (State.initial counter maxClients) where
  once _ := Nat.zero_le 1
  fresh _ _ := rfl
  begun _ mem := by cases mem

/-- A `SCAN_DONE` report ends the active scan, which had none before. -/
lemma Reported.moved (rep : Reported s) (inv : Ledger c s) {result : Host × List Report}
    {freed : Option Slot} (moves : Moves s.host result.1 result.2 freed) :
    Reported (s.moved result) := by
  constructor
  case once =>
    rintro ⟨i, g⟩
    simp only [State.moved]
    rw [List.count_append, count_doneOf]
    split
    · rename_i eq
      rcases moves.requests i with ⟨-, none⟩ | ⟨-, none | ⟨one, act, -⟩⟩
      · rw [none]
        exact rep.once (i, g)
      · rw [none]
        exact rep.once (i, g)
      · -- the reported scan was the active one, and so had no report before
        rw [one, eq, rep.fresh i act]
    · exact rep.once (i, g)
  case fresh =>
    intro i act
    simp only [State.moved] at act ⊢
    rw [List.count_append, count_doneOf]
    rcases moves.requests i with ⟨same, none⟩ | ⟨cleared, -⟩
    · rw [same] at act ⊢
      rw [if_pos rfl, none]
      exact rep.fresh i act
    · rw [cleared] at act
      cases act
  case begun =>
    rintro ⟨i, g⟩ mem
    rcases List.mem_append.mp mem with old | new
    · exact rep.begun (i, g) old
    · have pos := List.count_pos_iff.mpr new
      rw [count_doneOf] at pos
      split at pos
      · rename_i eq
        rcases moves.requests i with ⟨-, none⟩ | ⟨-, none | ⟨-, act, scan⟩⟩
        · exact absurd none (Nat.ne_of_gt pos)
        · exact absurd none (Nat.ne_of_gt pos)
        · obtain ⟨r, mem, own, is⟩ := inv.request i act
          rw [is] at scan eq
          exact ⟨r, mem, scan, by rw [own, eq]⟩
      · exact absurd pos (Nat.lt_irrefl 0)

/-- A change of phase reports nothing. -/
lemma Reported.advance (rep : Reported s) (n : Nat) (phase : Phase) :
    Reported (s.advance n phase) where
  once := rep.once
  fresh := rep.fresh
  begun d mem := by
    obtain ⟨r, mem, scan, eq⟩ := rep.begun d mem
    obtain ⟨phase', mem'⟩ := mem_advance mem n phase
    exact ⟨_, mem', scan, eq⟩

/-- The generation of a new submission is new. -/
lemma Ledger.begun_new {slot : Slot} {op : WlanOp} (inv : Ledger c (s.begun slot op))
    (few : (s.begun slot op).rpcs.length ≤ cycle) {r : Rpc} (mem : r ∈ s.rpcs) :
    r.generation ≠ wlhRttNextGeneration s.host.nextGeneration := by
  intro eq
  obtain ⟨n, rn⟩ := List.mem_iff_getElem?.mp mem
  obtain ⟨lt, -⟩ := List.getElem?_eq_some_iff.mp rn
  have old : (s.begun slot op).rpcs[n]? = some r := by
    simp only [State.begun]
    rw [List.getElem?_append_left lt, rn]
  have new : (s.begun slot op).rpcs[s.rpcs.length]? =
      some ⟨slot.1, slot, op.kind, wlhRttNextGeneration s.host.nextGeneration, .begun⟩ := by
    simp only [State.begun]
    rw [List.getElem?_append_right (Nat.le_refl _), Nat.sub_self]
    rfl
  exact Nat.ne_of_lt lt (inv.generation_inj few old new eq)

/-- A new request has no report yet. -/
lemma Reported.begin (rep : Reported s) {slot : Slot} {op : WlanOp}
    (inv : Ledger c (s.begun slot op)) (few : (s.begun slot op).rpcs.length ≤ cycle) :
    Reported (s.begun slot op) where
  once := rep.once
  fresh i act := by
    simp only [State.begun] at act ⊢
    rw [Host.request_begun] at act ⊢
    split at act
    · rename_i own
      rw [if_pos own, List.count_eq_zero]
      intro mem
      obtain ⟨r, mem, -, eq⟩ := rep.begun _ mem
      exact inv.begun_new few mem (congrArg Prod.snd eq).symm
    · rename_i other
      rw [if_neg other]
      exact rep.fresh i act
  begun d mem := by
    obtain ⟨r, mem, is⟩ := rep.begun d mem
    exact ⟨r, List.mem_append_left _ mem, is⟩

/-- Every step adds reports of scans that it ends. -/
lemma Reported.of_effect (rep : Reported s) (inv : Inv c s) (inv' : Inv c s')
    (few : s'.rpcs.length ≤ cycle) (eff : Effect s s') : Reported s' := by
  cases eff with
  | idle => exact rep
  | begun op free => exact rep.begin inv'.toLedger few
  | accepted rn out => exact rep.advance _ _
  | moved moves => exact rep.moved inv.toLedger moves
  | freed rn out moves => exact (rep.moved inv.toLedger moves).advance _ _

/-! ## Stale submissions -/

/-- Submission `n` is not the active request of its interface. -/
def Stale (n : Nat) (s : State) : Prop :=
  ∃ r, s.rpcs[n]? = some r ∧
    ¬ ((s.host.request r.interface).active = true ∧
      (s.host.request r.interface).generation = r.generation)

/-- An operation that begins no request does not bring an old one back. -/
lemma Stale.moved {n : Nat} (stale : Stale n s) {result : Host × List Report} {freed : Option Slot}
    (moves : Moves s.host result.1 result.2 freed) : Stale n (s.moved result) := by
  obtain ⟨r, rn, ne⟩ := stale
  refine ⟨r, rn, fun ⟨act, eq⟩ => ?_⟩
  simp only [State.moved] at act eq
  have same := moves.request_eq act
  rw [same] at act eq
  exact ne ⟨act, eq⟩

/-- A change of phase does not bring an old request back. -/
lemma Stale.advance {n : Nat} (stale : Stale n s) (m : Nat) (phase : Phase) :
    Stale n (s.advance m phase) := by
  obtain ⟨r, rn, ne⟩ := stale
  refine ⟨if m = n then { r with phase := phase } else r, ?_, ?_⟩
  · rw [getElem?_advance, rn]
    rfl
  · split <;> exact ne

/-- A new request does not bring an old one back. -/
lemma Stale.begin {n : Nat} (stale : Stale n s) {slot : Slot} {op : WlanOp}
    (inv : Ledger c (s.begun slot op)) (few : (s.begun slot op).rpcs.length ≤ cycle) :
    Stale n (s.begun slot op) := by
  obtain ⟨r, rn, ne⟩ := stale
  obtain ⟨lt, -⟩ := List.getElem?_eq_some_iff.mp rn
  refine ⟨r, ?_, fun ⟨act, eq⟩ => ?_⟩
  · simp only [State.begun]
    rw [List.getElem?_append_left lt, rn]
  · simp only [State.begun] at act eq
    rw [Host.request_begun] at act eq
    split at act
    · rename_i own
      rw [if_pos own] at eq
      exact inv.begun_new few (List.mem_of_getElem? rn) eq.symm
    · rename_i other
      rw [if_neg other] at eq
      exact ne ⟨act, eq⟩

/-- No step brings an old request back. -/
lemma Stale.of_effect {n : Nat} (stale : Stale n s) (_ : Inv c s) (inv' : Inv c s')
    (few : s'.rpcs.length ≤ cycle) (eff : Effect s s') : Stale n s' := by
  cases eff with
  | idle => exact stale
  | begun op free => exact stale.begin inv'.toLedger few
  | accepted rn out => exact stale.advance _ _
  | moved moves => exact stale.moved moves
  | freed rn out moves => exact (stale.moved moves).advance _ _

/-- The completion of a stale submission only frees its slot. -/
lemma Stale.complete {n : Nat} (stale : Stale n s) (inv : Inv c s) {r : Rpc}
    (accepted : s.inPhase n .accepted = some r) (result : HostResult) :
    wlhRttRequestComplete s.host r.slot result =
      (s.host.setCompletion r.slot { s.host.completion r.slot with inUse := false }, []) := by
  obtain ⟨rn, -, held⟩ := inv.held_inPhase accepted Phase.noConfusion
  obtain ⟨r', rn', ne⟩ := stale
  cases Option.some_inj.mp (rn.symm.trans rn')
  -- the slot still carries the generation of the submission, which is not the active one
  refine complete_unmatched (i := r.interface) result (by rw [held]; rfl) (by rw [held]; rfl) ?_
  rintro ⟨act, -, eq⟩
  rw [held] at eq
  exact ne ⟨act, eq⟩

/-- A scan stop or a reset makes the active scan stale. -/
lemma Stale.of_stop {n : Nat} {r : Rpc} {stop : Act} (rn : s.rpcs[n]? = some r)
    (act : s.host.request r.interface = ⟨.scan, r.generation, true⟩)
    (is : stop = .scanStop r.interface ∨ stop = .reset) : Stale n (step s stop) := by
  rcases is with rfl | rfl
  · refine ⟨r, rn, fun bad => ?_⟩
    simp only [State.step, State.moved] at bad
    rw [scanStop_request (by rw [act]; exact ⟨rfl, rfl⟩)] at bad
    cases bad.1
  · refine ⟨r, rn, fun bad => ?_⟩
    simp only [State.step, State.moved] at bad
    rw [reset_request] at bad
    cases bad.1

end Reported

/-! ## Runs -/

section Runs
variable {c : UInt32} {s : State}

/-- In every run each `SCAN_DONE` belongs to a scan of its own. -/
lemma Reported.run (c : UInt32) (maxClients : Nat) (acts : List Act)
    (few : (run c maxClients acts).rpcs.length ≤ cycle) : Reported (run c maxClients acts) :=
  (Inv.foldl Reported.of_effect acts
    (fun _ => ⟨.initial c maxClients, .initial c maxClients⟩) few).2

/-- A stale submission stays stale. -/
lemma Stale.foldl {n : Nat} (acts : List Act) (inv : s.rpcs.length ≤ cycle → Inv c s)
    (stale : Stale n s) (few : (acts.foldl step s).rpcs.length ≤ cycle) :
    Stale n (acts.foldl step s) :=
  (Inv.foldl Stale.of_effect acts (fun few => ⟨inv few, stale⟩) few).2

end Runs

/-- The `scan_id` that an event carries. -/
def CoreEvent.scanId : CoreEvent → Option UInt32
  | .scanResult decoded => decoded.map Prod.fst
  | .scanCompleted decoded => decoded
  | _ => none

/-- An event makes scan reports only for the active scan. -/
lemma event_scan {h : Host} {e : CoreEvent} {report : Report}
    (mem : report ∈ (wlhRttWlanEvent h e).2)
    (is : report.event = .scanReport ∨ report.event = .scanDone) :
    ∃ scanId, e.scanId = some scanId ∧ h.request report.interface = ⟨.scan, scanId, true⟩ := by
  have active : ∀ {scanId}, ScanActive h scanId → h.request .sta = ⟨.scan, scanId, true⟩ := by
    rintro scanId ⟨act, kind, id⟩
    rw [← act, ← kind, id]
  cases e with
  | scanResult decoded =>
    simp only [wlhRttWlanEvent] at mem
    unfold reportScanResult at mem
    split at mem
    · cases mem
    · split at mem
      · rename_i scanId networks here
        obtain ⟨network, -, rfl⟩ := List.mem_map.mp mem
        exact ⟨scanId, rfl, active here⟩
      · cases mem
  | scanCompleted decoded =>
    simp only [wlhRttWlanEvent] at mem
    unfold reportScanComplete at mem
    split at mem
    · cases mem
    · split at mem
      · rename_i scanId here
        cases List.mem_singleton.mp mem
        exact ⟨scanId, rfl, active here⟩
      · cases mem
  | connected decoded =>
    simp only [wlhRttWlanEvent] at mem
    unfold reportConnected at mem
    split at mem
    · split at mem
      · cases mem
      · rename_i i _
        cases List.mem_singleton.mp mem
        cases i <;> simp [upEvent] at is
    · cases mem
  | disconnected decoded =>
    simp only [wlhRttWlanEvent] at mem
    unfold reportDisconnected at mem
    split at mem
    · cases mem
    · split at mem
      · cases mem
      · rename_i i _
        cases List.mem_singleton.mp mem
        cases i <;> simp [downEvent] at is
  | apClientJoined decoded =>
    simp only [wlhRttWlanEvent] at mem
    unfold reportApClientJoined at mem
    split at mem
    · split at mem
      · cases List.mem_singleton.mp mem
        simp at is
      · cases mem
    · cases mem
  | apClientLeft decoded =>
    simp only [wlhRttWlanEvent] at mem
    unfold reportApClientLeft at mem
    split at mem
    · split at mem
      · cases List.mem_singleton.mp mem
        simp at is
      · cases mem
    · cases mem

/-- What holds of scans after the run `acts` from a fresh adapter. -/
structure ScanIsolation (c : UInt32) (maxClients : Nat) (acts : List Act) : Prop where
  /-- Every begun scan has at most one `SCAN_DONE`. -/
  once : ∀ r ∈ (run c maxClients acts).rpcs, r.kind = .scan →
    (run c maxClients acts).done.count (r.interface, r.generation) ≤ 1
  /-- Every `SCAN_DONE` is that of a begun scan. -/
  begun : ∀ d ∈ (run c maxClients acts).done, ∃ r ∈ (run c maxClients acts).rpcs,
    r.kind = .scan ∧ d = (r.interface, r.generation)
  /-- No two requests have the same generation. -/
  distinct : ∀ (n m : Nat) (r r' : Rpc), (run c maxClients acts).rpcs[n]? = some r →
    (run c maxClients acts).rpcs[m]? = some r' → r.generation = r'.generation → n = m
  /-- An event causes scan reports only if its `scan_id` is that of the active scan. -/
  event : ∀ e, ∀ report ∈ (wlhRttWlanEvent (run c maxClients acts).host e).2,
    report.event = .scanReport ∨ report.event = .scanDone →
    ∃ scanId, e.scanId = some scanId ∧
      (run c maxClients acts).host.request report.interface = ⟨.scan, scanId, true⟩
  /-- The completion of a scan that was stopped or reset earlier only frees its slot. -/
  late : ∀ before stop after, acts = before ++ stop :: after →
    ∀ n r, (run c maxClients before).rpcs[n]? = some r →
    (run c maxClients before).host.request r.interface = ⟨.scan, r.generation, true⟩ →
    stop = .scanStop r.interface ∨ stop = .reset →
    ∀ r' result, (run c maxClients acts).inPhase n .accepted = some r' →
    wlhRttRequestComplete (run c maxClients acts).host r'.slot result =
      ((run c maxClients acts).host.setCompletion r'.slot
        { (run c maxClients acts).host.completion r'.slot with inUse := false }, [])

/-- Scans do not disturb each other, with fewer than `2^32 - 1` requests begun. -/
theorem scan_isolation (c : UInt32) (maxClients : Nat) (acts : List Act)
    (few : (run c maxClients acts).rpcs.length < 2 ^ 32 - 1) : ScanIsolation c maxClients acts := by
  have few := Nat.le_of_lt few
  have inv := Inv.run c maxClients acts few
  have rep := Reported.run c maxClients acts few
  constructor
  case once =>
    intro r _ _
    exact rep.once _
  case begun => exact rep.begun
  case distinct =>
    intro n m r r' rn rm
    exact inv.generation_inj few rn rm
  case event =>
    intro e report mem is
    exact event_scan mem is
  case late =>
    rintro before stop after rfl n r rn act is r' result accepted
    -- stale after the stop, hence stale at the end of the run
    have stale := Stale.of_stop rn act is
    have split : run c maxClients (before ++ stop :: after) =
        after.foldl step (step (run c maxClients before) stop) := by
      simp only [run, List.foldl_append, List.foldl_cons]
    refine Stale.complete (n := n) ?_ inv accepted result
    rw [split] at few ⊢
    refine stale.foldl (c := c) after (fun few => ?_) few
    have here : step (run c maxClients before) stop = run c maxClients (before ++ [stop]) := by
      simp only [run, List.foldl_append, List.foldl_cons, List.foldl_nil]
    rw [here] at few ⊢
    exact Inv.run c maxClients _ few

/-- A second scan runs while Core still holds the stopped first one; the late failure of the first
    leaves it alone. -/
theorem scan_isolation_stopped :
    (run 0 1 [.begin .sta .scan, .accept 0, .scanStop .sta, .begin .sta .scan]).done = [(.sta, 1)] ∧
      (wlhRttRequestComplete
        (run 0 1 [.begin .sta .scan, .accept 0, .scanStop .sta, .begin .sta .scan]).host (.sta, 0)
        (.error 1)).2 = [] := by
  refine ⟨by decide, ?_⟩
  have isolated := scan_isolation 0 1
    [.begin .sta .scan, .accept 0, .scanStop .sta, .begin .sta .scan] (by decide)
  rw [isolated.late [.begin .sta .scan, .accept 0] (.scanStop .sta) [.begin .sta .scan] rfl 0
    ⟨.sta, (.sta, 0), .scan, 1, .accepted⟩ (by decide) (by decide) (.inl rfl)
    ⟨.sta, (.sta, 0), .scan, 1, .accepted⟩ (.error 1) (by decide)]

end WlhHpm.Wlan

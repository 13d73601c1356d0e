import WlhHpm.Lib.Run
import WlhHpm.Wlan.Effect

/-!
# Requests and their completion slots

The adapter as a machine. A request of the WLAN framework (`wlan_scan`, `wlan_join`,
`wlan_disconnect`, `wlan_softap`, `wlan_ap_stop`) begins with `wlh_rtt_request_begin` and hands its
completion slot to Core; Core accepts the submission and completes it at some later time, or rejects
it, and the adapter aborts the request. In between, requests are finished, events arrive, scans are
stopped and the adapter is reset, in any order. The submissions are kept in a list (`Rpc`), in the
order in which they were begun.

A request is divided into its begin, its hand-over to Core and its completion. `wlan_scan_stop`, the
reports of events (`report_scan_complete` among them) and `wlh_rtt_wlan_reset` are one step each,
although the source holds `host->lock` in them only inside `wlh_rtt_request_finish`: what another
thread does between their parts is not covered.

The invariant (`Inv`) ties the list to the slots: the submissions that are not over are exactly the
slots in use, and the generation of a submission is determined by its position in the list. As the
counter takes `2^32 - 1` values in a cycle, submissions have distinct generations as long as fewer
than that many were begun (`Ledger.generation_inj`). `completion_slots` draws the conclusions.
-/

namespace WlhHpm.Wlan

/-- The operations of `struct rt_wlan_dev_ops` that begin a request. -/
inductive WlanOp where
  | scan
  | join
  | disconnect
  | softap
  | apStop
  deriving DecidableEq, Repr

/-- The kind that the operation passes to `wlh_rtt_request_begin`. -/
def WlanOp.kind : WlanOp → RequestKind
  | .scan => .scan
  | .join => .connect
  | .disconnect => .disconnect
  | .softap => .apStart
  | .apStop => .apStop

/-- An operation begins a request of some kind. -/
lemma WlanOp.kind_ne_none (op : WlanOp) : op.kind ≠ .none := by
  cases op <;> exact RequestKind.noConfusion

/-- How far a submission is: begun and being handed to Core, accepted by Core, or over (completed,
    or rejected and aborted). -/
inductive Phase where
  | begun
  | accepted
  | over
  deriving DecidableEq, Repr

/-- A request begun on `interface`, with the slot and the generation it was given. -/
structure Rpc where
  interface : Iface
  slot : Slot
  kind : RequestKind
  generation : UInt32
  phase : Phase
  deriving DecidableEq, Repr

/-- Begun and neither aborted nor completed. -/
def Rpc.Outstanding (r : Rpc) : Prop := r.phase ≠ .over

instance (r : Rpc) : Decidable r.Outstanding := inferInstanceAs (Decidable (_ ≠ _))

/-- The contents of the slot of an outstanding request. -/
def Rpc.completion (r : Rpc) : RequestCompletion := ⟨some r.interface, r.kind, r.generation, true⟩

/-- The adapter, the submissions so far, and for every `SCAN_DONE` reported so far the interface
    with the generation of the request that was active there when the report was caused. -/
structure State where
  host : Host
  rpcs : List Rpc
  done : List (Iface × UInt32)

inductive Act where
  /-- A WLAN operation begins a request. -/
  | begin (i : Iface) (op : WlanOp)
  /-- Core accepts a submission. -/
  | accept (n : Nat)
  /-- Core rejects a submission and the request is aborted. -/
  | reject (n : Nat)
  /-- Core completes an accepted submission. -/
  | complete (n : Nat) (result : HostResult)
  | finish (i : Iface) (kind : RequestKind)
  | event (e : CoreEvent)
  | scanStop (i : Iface)
  | reset

namespace State

def initial (counter : UInt32) (maxClients : Nat) : State := ⟨.initial counter maxClients, [], []⟩

/-- The `SCAN_DONE` reports of an operation from `h`, with the request that was active. -/
def doneOf (h : Host) (out : List Report) : List (Iface × UInt32) :=
  out.filterMap fun report =>
    if report.event = .scanDone then some (report.interface, (h.request report.interface).generation)
    else none

/-- Take the result of an operation. -/
def moved (s : State) (result : Host × List Report) : State :=
  { s with host := result.1, done := s.done ++ doneOf s.host result.2 }

/-- Submission `n` changes its phase. -/
def advance (s : State) (n : Nat) (phase : Phase) : State :=
  { s with rpcs := s.rpcs.modify n fun r => { r with phase := phase } }

/-- Submission `n`, if it is in the given phase. -/
def inPhase (s : State) (n : Nat) (phase : Phase) : Option Rpc :=
  s.rpcs[n]?.filter fun r => r.phase = phase

/-- One step. Core accepts or rejects a submission once, and completes only what it has accepted,
    once; any other such step does nothing. -/
def step (s : State) : Act → State
  | .begin i op =>
    match wlhRttRequestBegin s.host i op.kind with
    | (h, generation, some slot) =>
      { s with host := h, rpcs := s.rpcs ++ [⟨i, slot, op.kind, generation, .begun⟩] }
    | (h, _, none) => { s with host := h }
  | .accept n =>
    match s.inPhase n .begun with
    | some _ => s.advance n .accepted
    | none => s
  | .reject n =>
    match s.inPhase n .begun with
    | some r => (s.moved (wlhRttRequestAbort s.host r.slot, [])).advance n .over
    | none => s
  | .complete n result =>
    match s.inPhase n .accepted with
    | some r => (s.moved (wlhRttRequestComplete s.host r.slot result)).advance n .over
    | none => s
  | .finish i kind => s.moved (wlhRttRequestFinish s.host i kind, [])
  | .event e => s.moved (wlhRttWlanEvent s.host e)
  | .scanStop i => s.moved (wlanScanStop s.host i)
  | .reset => s.moved (wlhRttWlanReset s.host)

/-- The state after a run of steps from a fresh adapter. -/
def run (counter : UInt32) (maxClients : Nat) (acts : List Act) : State :=
  acts.foldl step (initial counter maxClients)

end State

open State

/-! ## The invariant -/

/-- Number of generations in the cycle of the counter. -/
abbrev cycle : Nat := 4294967295

/-- The counter, which started at `c`, and the active requests belong to the submissions. -/
structure Ledger (c : UInt32) (s : State) : Prop where
  counter : s.host.nextGeneration.toNat % cycle = (c.toNat + s.rpcs.length) % cycle
  generation : ∀ n r, s.rpcs[n]? = some r → r.generation.toNat = (c.toNat + n) % cycle + 1
  place : ∀ r ∈ s.rpcs, r.slot.1 = r.interface ∧ r.kind ≠ .none
  request : ∀ i, (s.host.request i).active = true → ∃ r ∈ s.rpcs, r.interface = i ∧
    s.host.request i = ⟨r.kind, r.generation, true⟩

/-- The outstanding submissions hold the slots in use. -/
structure Inv (c : UInt32) (s : State) : Prop extends Ledger c s where
  held : ∀ r ∈ s.rpcs, r.Outstanding → s.host.completion r.slot = r.completion
  holder : ∀ slot, (s.host.completion slot).inUse = true →
    ∃ r ∈ s.rpcs, r.Outstanding ∧ r.slot = slot

section Inv
variable {c : UInt32} {s : State}

/-- There are no submissions at first. -/
lemma Inv.initial (c : UInt32) (maxClients : Nat) : Inv c (State.initial c maxClients) where
  counter := rfl
  generation := by
    intro n r rpc
    cases rpc
  place := by
    intro r mem
    cases mem
  held := by
    intro r mem
    cases mem
  holder := by
    intro slot use
    cases use
  request := by
    intro i act
    cases act

/-- Generations identify submissions. -/
lemma Ledger.generation_inj (inv : Ledger c s) (few : s.rpcs.length ≤ cycle) {n m : Nat} {r r' : Rpc}
    (rn : s.rpcs[n]? = some r) (rm : s.rpcs[m]? = some r') (eq : r.generation = r'.generation) :
    n = m := by
  have gn := inv.generation n r rn
  have gm := inv.generation m r' rm
  obtain ⟨ln, -⟩ := List.getElem?_eq_some_iff.mp rn
  obtain ⟨lm, -⟩ := List.getElem?_eq_some_iff.mp rm
  -- two positions less than a cycle apart have different remainders
  rw [eq] at gn
  simp only [cycle] at *
  omega

/-- A generation has one submission as long as the counter has not gone round. -/
lemma Ledger.eq_of_generation (inv : Ledger c s) (few : s.rpcs.length ≤ cycle) {r r' : Rpc}
    (mem : r ∈ s.rpcs) (mem' : r' ∈ s.rpcs) (eq : r.generation = r'.generation) : r = r' := by
  obtain ⟨n, rn⟩ := List.mem_iff_getElem?.mp mem
  obtain ⟨m, rm⟩ := List.mem_iff_getElem?.mp mem'
  cases inv.generation_inj few rn rm eq
  exact Option.some_inj.mp (rn.symm.trans rm)

/-- No submission has generation 0. -/
lemma Ledger.generation_ne_zero (inv : Ledger c s) {r} (mem : r ∈ s.rpcs) : r.generation ≠ 0 := by
  intro zero
  obtain ⟨n, rn⟩ := List.mem_iff_getElem?.mp mem
  have gn := inv.generation n r rn
  rw [zero] at gn
  cases gn

/-! ## Steps -/

/-- The state after a new submission has taken a slot. -/
def State.begun (s : State) (slot : Slot) (op : WlanOp) : State :=
  { s with
    host := s.host.begun slot op.kind
    rpcs := s.rpcs ++
      [⟨slot.1, slot, op.kind, wlhRttNextGeneration s.host.nextGeneration, .begun⟩] }

/-- A new submission takes a free slot and the next generation. -/
lemma Inv.begun (inv : Inv c s) {slot : Slot} (free : (s.host.completion slot).inUse = false)
    (op : WlanOp) : Inv c (s.begun slot op) := by
  simp only [State.begun, Host.begun]
  have next := nextGeneration_toNat s.host.nextGeneration
  -- no outstanding submission has the slot that is taken
  have other : ∀ r ∈ s.rpcs, r.Outstanding → r.slot ≠ slot := by
    intro r mem out same
    have held := inv.held r mem out
    rw [same] at held
    rw [held] at free
    cases free
  refine { counter := ?counter, generation := ?generation, place := ?place, request := ?request,
           held := ?held, holder := ?holder }
  case counter =>
    simp only [Host.nextGeneration_setCompletion, Host.nextGeneration_setRequest,
      List.length_append, List.length_singleton]
    have counter := inv.counter
    rw [next, counter, ← Nat.add_assoc, Nat.mod_add_mod]
  case generation =>
    intro n r rpc
    rw [List.getElem?_append] at rpc
    split at rpc
    · exact inv.generation n r rpc
    · rename_i le
      obtain ⟨lt, rfl⟩ := List.getElem?_eq_some_iff.mp rpc
      have last : n = s.rpcs.length := by
        rw [List.length_singleton] at lt
        omega
      simp only [List.getElem_singleton]
      rw [next, inv.counter, last]
  case place =>
    intro r mem
    rcases List.mem_append.mp mem with old | new
    · exact inv.place r old
    · cases List.mem_singleton.mp new
      exact ⟨rfl, op.kind_ne_none⟩
  case held =>
    intro r mem out
    rw [Host.completion_setCompletion]
    rcases List.mem_append.mp mem with old | new
    · rw [if_neg (other r old out), Host.completion_setRequest]
      exact inv.held r old out
    · cases List.mem_singleton.mp new
      rw [if_pos rfl]
      rfl
  case holder =>
    intro slot' use
    rw [Host.completion_setCompletion] at use
    split at use
    · rename_i same
      exact ⟨_, List.mem_append_right _ (List.mem_singleton.mpr rfl), Phase.noConfusion, same.symm⟩
    · rw [Host.completion_setRequest] at use
      obtain ⟨r, mem, out, at_slot⟩ := inv.holder slot' use
      exact ⟨r, List.mem_append_left _ mem, out, at_slot⟩
  case request =>
    intro j act
    rw [Host.request_setCompletion, Host.request_setRequest] at act ⊢
    split at act
    · rename_i same
      rw [if_pos same]
      exact ⟨_, List.mem_append_right _ (List.mem_singleton.mpr rfl), same.symm, rfl⟩
    · rename_i ne
      rw [if_neg ne]
      obtain ⟨r, mem, own, eq⟩ := inv.request j act
      exact ⟨r, List.mem_append_left _ mem, own, eq⟩

/-- A request that is still active after a move is the one that was active before. -/
lemma Moves.request_eq {h h' : Host} {out : List Report} {freed : Option Slot}
    (moves : Moves h h' out freed) {i : Iface} (act : (h'.request i).active = true) :
    h'.request i = h.request i := by
  rcases moves.requests i with ⟨same, -⟩ | ⟨cleared, -⟩
  · exact same
  · rw [cleared] at act
    cases act

/-- The ledger outlives an operation that begins no request. -/
lemma Ledger.moved (inv : Ledger c s) {result : Host × List Report} {freed : Option Slot}
    (moves : Moves s.host result.1 result.2 freed) : Ledger c (s.moved result) := by
  constructor
  case counter =>
    simp only [State.moved]
    rw [moves.counter]
    exact inv.counter
  case generation => exact inv.generation
  case place => exact inv.place
  case request =>
    intro i act
    simp only [State.moved] at act ⊢
    have same := moves.request_eq act
    rw [same] at act ⊢
    exact inv.request i act

/-- Operations that neither begin a request nor free a slot. -/
lemma Inv.moved (inv : Inv c s) {result : Host × List Report}
    (moves : Moves s.host result.1 result.2 none) : Inv c (s.moved result) := by
  have slots : result.1.completion = s.host.completion := funext moves.slots
  constructor
  case toLedger => exact inv.toLedger.moved moves
  case held =>
    simp only [State.moved]
    rw [slots]
    exact inv.held
  case holder =>
    simp only [State.moved]
    rw [slots]
    exact inv.holder

/-- The submission that has changed its phase, and the others. -/
lemma getElem?_advance (s : State) (n m : Nat) (phase : Phase) :
    (s.advance n phase).rpcs[m]? =
      s.rpcs[m]?.map fun r => if n = m then { r with phase := phase } else r := by
  simp only [State.advance, List.getElem?_modify]
  rfl

/-- A change of phase adds no submission. -/
lemma length_advance (s : State) (n : Nat) (phase : Phase) :
    (s.advance n phase).rpcs.length = s.rpcs.length := List.length_modify ..

/-- A submission after a change of phase was there before, but for its phase. -/
lemma of_mem_advance {n : Nat} {phase : Phase} {r : Rpc} (mem : r ∈ (s.advance n phase).rpcs) :
    ∃ r₀ ∈ s.rpcs, r = { r₀ with phase := r.phase } := by
  obtain ⟨m, rm⟩ := List.mem_iff_getElem?.mp mem
  rw [getElem?_advance, Option.map_eq_some_iff] at rm
  obtain ⟨r₀, r₀m, rfl⟩ := rm
  refine ⟨r₀, List.mem_of_getElem? r₀m, ?_⟩
  split <;> rfl

/-- A submission stays there, but for its phase. -/
lemma mem_advance {r : Rpc} (mem : r ∈ s.rpcs) (n : Nat) (phase : Phase) :
    ∃ phase', { r with phase := phase' } ∈ (s.advance n phase).rpcs := by
  obtain ⟨m, rm⟩ := List.mem_iff_getElem?.mp mem
  refine ⟨if n = m then phase else r.phase, List.mem_iff_getElem?.mpr ⟨m, ?_⟩⟩
  rw [getElem?_advance, rm]
  split <;> rfl

/-- The ledger outlives a change of phase. -/
lemma Ledger.advance (inv : Ledger c s) (n : Nat) (phase : Phase) :
    Ledger c (s.advance n phase) := by
  constructor
  case counter =>
    rw [length_advance]
    exact inv.counter
  case generation =>
    intro m r rm
    rw [getElem?_advance, Option.map_eq_some_iff] at rm
    obtain ⟨r₀, r₀m, rfl⟩ := rm
    rw [← inv.generation m r₀ r₀m]
    split <;> rfl
  case place =>
    intro r mem
    obtain ⟨r₀, mem₀, eq⟩ := of_mem_advance mem
    rw [eq]
    exact inv.place r₀ mem₀
  case request =>
    intro i act
    obtain ⟨r, mem, own, eq⟩ := inv.request i act
    obtain ⟨phase', mem'⟩ := mem_advance mem n phase
    exact ⟨_, mem', own, eq⟩

/-- A submission in a phase is one of the submissions. -/
lemma inPhase_eq_some {n : Nat} {phase : Phase} {r : Rpc} :
    s.inPhase n phase = some r ↔ s.rpcs[n]? = some r ∧ r.phase = phase := by
  simp [State.inPhase, Option.filter_eq_some_iff]

/-- A submission that Core has not answered holds its slot. -/
lemma Inv.held_inPhase (inv : Inv c s) {n : Nat} {phase : Phase} {r : Rpc}
    (found : s.inPhase n phase = some r) (ne : phase ≠ .over) :
    s.rpcs[n]? = some r ∧ r.Outstanding ∧ s.host.completion r.slot = r.completion := by
  obtain ⟨rn, rfl⟩ := inPhase_eq_some.mp found
  exact ⟨rn, ne, inv.held r (List.mem_of_getElem? rn) ne⟩

/-- Core accepts an outstanding submission: its slot stays in use. -/
lemma Inv.accept (inv : Inv c s) {n : Nat} {r : Rpc} (rn : s.rpcs[n]? = some r)
    (outstanding : r.Outstanding) : Inv c (s.advance n .accepted) := by
  constructor
  case toLedger => exact inv.toLedger.advance n .accepted
  case held =>
    intro q mem out
    obtain ⟨m, qm⟩ := List.mem_iff_getElem?.mp mem
    rw [getElem?_advance, Option.map_eq_some_iff] at qm
    obtain ⟨q₀, q₀m, eq⟩ := qm
    split at eq
    · rename_i same
      cases same
      cases Option.some_inj.mp (rn.symm.trans q₀m)
      cases eq
      exact inv.held r (List.mem_of_getElem? rn) outstanding
    · cases eq
      exact inv.held q (List.mem_of_getElem? q₀m) out
  case holder =>
    intro slot use
    obtain ⟨q, mem, out, at_slot⟩ := inv.holder slot use
    obtain ⟨m, qm⟩ := List.mem_iff_getElem?.mp mem
    refine ⟨if n = m then { q with phase := .accepted } else q,
      List.mem_iff_getElem?.mpr ⟨m, ?_⟩, ?_, ?_⟩
    · rw [getElem?_advance, qm]
      rfl
    · split
      · exact Phase.noConfusion
      · exact out
    · rw [← at_slot]
      split <;> rfl

/-- A submission is over: its slot is freed, and no other submission had it. -/
lemma Inv.freed (inv : Inv c s) (few : s.rpcs.length ≤ cycle) {result : Host × List Report} {n : Nat}
    {r : Rpc} (rn : s.rpcs[n]? = some r) (outstanding : r.Outstanding)
    (moves : Moves s.host result.1 result.2 (some r.slot)) :
    Inv c ((s.moved result).advance n .over) := by
  have held := inv.held r (List.mem_of_getElem? rn) outstanding
  constructor
  case toLedger => exact (inv.toLedger.moved moves).advance n .over
  case held =>
    intro q mem out
    obtain ⟨m, qm⟩ := List.mem_iff_getElem?.mp mem
    rw [getElem?_advance, Option.map_eq_some_iff] at qm
    obtain ⟨q₀, q₀m, eq⟩ := qm
    split at eq
    · cases eq
      exact absurd rfl out
    · -- another submission: it cannot share the slot, since a slot carries one generation
      rename_i ne
      cases eq
      have held' := inv.held q (List.mem_of_getElem? q₀m) out
      have other : r.slot ≠ q.slot := by
        intro same
        rw [← same, held] at held'
        exact ne (inv.generation_inj few rn q₀m (congrArg RequestCompletion.generation held'))
      simp only [State.advance, State.moved]
      rw [moves.slots, if_neg fun h => other (Option.some_inj.mp h)]
      exact held'
  case holder =>
    intro slot use
    simp only [State.advance, State.moved] at use
    rw [moves.slots] at use
    split at use
    · cases use
    · rename_i ne
      obtain ⟨q, mem, out, at_slot⟩ := inv.holder slot use
      obtain ⟨m, qm⟩ := List.mem_iff_getElem?.mp mem
      have other : n ≠ m := by
        rintro rfl
        cases Option.some_inj.mp (rn.symm.trans qm)
        exact ne (congrArg some at_slot)
      refine ⟨q, List.mem_iff_getElem?.mpr ⟨m, ?_⟩, out, at_slot⟩
      rw [getElem?_advance]
      simp only [State.moved]
      rw [qm, Option.map_some, if_neg other]

/-- All that a step can do. -/
inductive Effect (s : State) : State → Prop where
  | idle : Effect s s
  | begun {slot} (op : WlanOp) : (s.host.completion slot).inUse = false → Effect s (s.begun slot op)
  | accepted {n r} : s.rpcs[n]? = some r → r.Outstanding → Effect s (s.advance n .accepted)
  | moved {result} : Moves s.host result.1 result.2 none → Effect s (s.moved result)
  | freed {result n r} : s.rpcs[n]? = some r → r.Outstanding →
    Moves s.host result.1 result.2 (some r.slot) → Effect s ((s.moved result).advance n .over)

/-- Every step does one of these. -/
lemma Inv.effect (inv : Inv c s) (a : Act) : Effect s (step s a) := by
  cases a with
  | begin i op =>
    simp only [State.step]
    rcases begin_cases s.host i op.kind with busy | ⟨k, free, eq⟩
    · rw [busy]
      exact .idle
    · rw [eq]
      exact .begun op free
  | accept n =>
    simp only [State.step]
    split
    · rename_i r found
      obtain ⟨rn, out, -⟩ := inv.held_inPhase found Phase.noConfusion
      exact .accepted rn out
    · exact .idle
  | reject n =>
    simp only [State.step]
    split
    · rename_i r found
      obtain ⟨rn, out, held⟩ := inv.held_inPhase found Phase.noConfusion
      exact .freed rn out (abort_moves (by rw [held]; rfl) (by rw [held]; rfl))
    · exact .idle
  | complete n result =>
    simp only [State.step]
    split
    · rename_i r found
      obtain ⟨rn, out, held⟩ := inv.held_inPhase found Phase.noConfusion
      exact .freed rn out (complete_moves result (by rw [held]; rfl) (by rw [held]; rfl))
    · exact .idle
  | finish i kind => exact .moved (finish_moves i kind rfl ⟨rfl, rfl⟩ fun _ => rfl)
  | event e => exact .moved (event_moves s.host e)
  | scanStop i => exact .moved (scanStop_moves s.host i)
  | reset => exact .moved (reset_moves s.host)

/-- Every step keeps the correspondence, as long as the counter has not gone round. -/
lemma Inv.of_effect (inv : Inv c s) (few : s.rpcs.length ≤ cycle) {s' : State} (eff : Effect s s') :
    Inv c s' := by
  cases eff with
  | idle => exact inv
  | begun op free => exact inv.begun free op
  | accepted rn out => exact inv.accept rn out
  | moved moves => exact inv.moved moves
  | freed rn out moves => exact inv.freed few rn out moves

/-- Submissions are never forgotten. -/
lemma length_le_step (s : State) (a : Act) : s.rpcs.length ≤ (step s a).rpcs.length := by
  cases a with
  | begin i op =>
    simp only [State.step]
    split
    · rw [List.length_append]
      exact Nat.le_add_right ..
    · exact Nat.le_refl _
  | accept n =>
    simp only [State.step]
    split
    · rw [length_advance]
    · exact Nat.le_refl _
  | reject n =>
    simp only [State.step]
    split
    · rw [length_advance]
      exact Nat.le_refl _
    · exact Nat.le_refl _
  | complete n result =>
    simp only [State.step]
    split
    · rw [length_advance]
      exact Nat.le_refl _
    · exact Nat.le_refl _
  | finish i kind => exact Nat.le_refl _
  | event e => exact Nat.le_refl _
  | scanStop i => exact Nat.le_refl _
  | reset => exact Nat.le_refl _

/-- What every step keeps, beside the correspondence, holds along every run that has not taken the
    counter round. -/
lemma Inv.foldl {I : State → Prop}
    (keep : ∀ {s s'}, I s → Inv c s → Inv c s' → s'.rpcs.length ≤ cycle → Effect s s' → I s')
    (acts : List Act) (start : s.rpcs.length ≤ cycle → Inv c s ∧ I s)
    (few : (acts.foldl step s).rpcs.length ≤ cycle) :
    Inv c (acts.foldl step s) ∧ I (acts.foldl step s) := by
  refine foldl_invariant (I := fun s => s.rpcs.length ≤ cycle → Inv c s ∧ I s) ?_ acts start few
  intro s a before few
  -- the list of submissions only grows, so the bound at the end is a bound before the step
  have few₀ := (length_le_step s a).trans few
  obtain ⟨inv, has⟩ := before few₀
  have eff := inv.effect a
  have inv' := inv.of_effect few₀ eff
  exact ⟨inv', keep has inv inv' few eff⟩

/-- The correspondence holds after every run that has not taken the counter round. -/
lemma Inv.run (c : UInt32) (maxClients : Nat) (acts : List Act)
    (few : (run c maxClients acts).rpcs.length ≤ cycle) : Inv c (run c maxClients acts) :=
  (Inv.foldl (I := fun _ => True) (fun _ _ _ _ _ => trivial) acts
    (fun _ => ⟨.initial c maxClients, trivial⟩) few).1

end Inv

/-! ## Conclusions -/

/-- What the slots and the active requests of the adapter say about the submissions. -/
structure CompletionSlots (s : State) : Prop where
  /-- The slots in use are those of the outstanding requests. -/
  inUse : ∀ slot, (s.host.completion slot).inUse = true ↔
    ∃ r ∈ s.rpcs, r.Outstanding ∧ r.slot = slot
  /-- The slot of an outstanding request lies in its interface and carries its kind and generation. -/
  own : ∀ r ∈ s.rpcs, r.Outstanding →
    r.slot.1 = r.interface ∧ s.host.completion r.slot = r.completion
  /-- No two outstanding requests share a slot. -/
  one : ∀ (n m : Nat) (r r' : Rpc), s.rpcs[n]? = some r → s.rpcs[m]? = some r' →
    r.Outstanding → r'.Outstanding → r.slot = r'.slot → n = m
  nonzero : ∀ slot, (s.host.completion slot).inUse = true → (s.host.completion slot).generation ≠ 0
  /-- The slots in use, of both interfaces, have distinct generations. -/
  distinct : ∀ slot slot', (s.host.completion slot).inUse = true →
    (s.host.completion slot').inUse = true →
    (s.host.completion slot).generation = (s.host.completion slot').generation → slot = slot'
  active : ∀ i, (s.host.request i).active = true →
    (s.host.request i).generation ≠ 0 ∧ (s.host.request i).kind ≠ .none ∧
      ∀ slot, (s.host.completion slot).inUse = true →
        (s.host.completion slot).generation = (s.host.request i).generation →
        slot.1 = i ∧ (s.host.completion slot).kind = (s.host.request i).kind
  /-- A request that cannot be begun changes nothing. -/
  busy : ∀ i kind, (wlhRttRequestBegin s.host i kind).2.1 = 0 →
    (wlhRttRequestBegin s.host i kind).1 = s.host

section Conclusions
variable {c : UInt32} {s : State}

/-- The request behind a slot in use. -/
lemma Inv.of_inUse (inv : Inv c s) {slot : Slot} (use : (s.host.completion slot).inUse = true) :
    ∃ r ∈ s.rpcs, r.Outstanding ∧ r.slot = slot ∧ s.host.completion slot = r.completion := by
  obtain ⟨r, mem, out, rfl⟩ := inv.holder slot use
  exact ⟨r, mem, out, rfl, inv.held r mem out⟩

/-- Beginning a request with generation `0` has done nothing. -/
lemma begin_zero {h : Host} {i : Iface} {kind : RequestKind}
    (zero : (wlhRttRequestBegin h i kind).2.1 = 0) : (wlhRttRequestBegin h i kind).1 = h := by
  rcases begin_cases h i kind with busy | ⟨k, -, eq⟩
  · rw [busy]
  · rw [eq] at zero
    exact absurd zero (nextGeneration_ne_zero _)

/-- The invariant has what is said of the slots. -/
lemma Inv.completionSlots (inv : Inv c s) (few : s.rpcs.length ≤ cycle) : CompletionSlots s where
  inUse slot := by
    constructor
    · exact inv.holder slot
    · rintro ⟨r, mem, out, rfl⟩
      rw [inv.held r mem out]
      rfl
  own r mem out := ⟨(inv.place r mem).1, inv.held r mem out⟩
  one n m r r' rn rm out out' same := by
    have held := inv.held r (List.mem_of_getElem? rn) out
    rw [same, inv.held r' (List.mem_of_getElem? rm) out'] at held
    exact inv.generation_inj few rn rm (congrArg RequestCompletion.generation held).symm
  nonzero slot use := by
    obtain ⟨r, mem, -, -, eq⟩ := inv.of_inUse use
    rw [eq]
    exact inv.generation_ne_zero mem
  distinct slot slot' use use' same := by
    obtain ⟨r, mem, -, rfl, eq⟩ := inv.of_inUse use
    obtain ⟨r', mem', -, rfl, eq'⟩ := inv.of_inUse use'
    rw [eq, eq'] at same
    rw [inv.eq_of_generation few mem mem' same]
  active i act := by
    obtain ⟨r, mem, own, eq⟩ := inv.request i act
    rw [eq]
    refine ⟨inv.generation_ne_zero mem, (inv.place r mem).2, fun slot use same => ?_⟩
    obtain ⟨r', mem', -, rfl, eq'⟩ := inv.of_inUse use
    rw [eq'] at same ⊢
    cases inv.eq_of_generation few mem' mem same
    exact ⟨(inv.place r mem).1.trans own, rfl⟩
  busy _ _ zero := begin_zero zero

end Conclusions

/-- In every state that the adapter reaches, with fewer than `2^32 - 1` requests begun, the slots in
    use are exactly the outstanding requests. -/
theorem completion_slots (c : UInt32) (maxClients : Nat) (acts : List Act)
    (few : (run c maxClients acts).rpcs.length < 2 ^ 32 - 1) :
    CompletionSlots (run c maxClients acts) :=
  (Inv.run c maxClients acts (Nat.le_of_lt few)).completionSlots (Nat.le_of_lt few)

/-- A stopped scan keeps its slot while the interface begins its next request; the counter wraps. -/
theorem completion_slots_wrap :
    (run 4294967294 1 [.begin .sta .scan, .accept 0, .scanStop .sta, .begin .sta .join]).rpcs =
        [⟨.sta, (.sta, 0), .scan, 4294967295, .accepted⟩, ⟨.sta, (.sta, 1), .connect, 1, .begun⟩] ∧
      CompletionSlots
        (run 4294967294 1 [.begin .sta .scan, .accept 0, .scanStop .sta, .begin .sta .join]) :=
  ⟨by decide, completion_slots _ _ _ (by decide)⟩

end WlhHpm.Wlan

import WlhHpm.Wlan.Calls

/-!
# Interface initialisation of a session

The callbacks `host_event` and `wifi_initialize_complete` of `src/wlh_rtt_lifecycle.c` among the calls
of `Wlan/Calls.lean`. While it is running, Core establishes sessions, one after another: the first
after a start, a new one by itself after the transport was lost. In a session it reports `READY` at
least once, and again after a congested phase. On `READY` the host asks Core to initialise the
interfaces, unless `wifi_initialized` is set; the completion of that call runs on the executor at any
later time, also when its session is over, and sets the flag on success. Starts, stops and recoveries
clear it.

The machine records the sessions and the calls made in each of them. A session that has reached
`READY` should have one call, unless a completion has reported failure (`OneInit`). As the flag is not
tied to a session this depends on the flag alone: `one_init_per_session` says that it holds along a
run exactly if every `READY` finds the flag right, and that this is so if sessions are established
with a clear flag, successful completions run in their own session, and `READY` is repeated only once
the flag is set. `no_init_after_link_loss` is a session that gets no call, `two_inits_when_congested`
one that gets two.
-/

namespace WlhHpm.Wlan

/-- What has become of a call of `wlh_host_wifi_initialize_interfaces`. -/
inductive InitStatus where
  | pending
  | refused
  | succeeded
  | failed
  deriving DecidableEq, Repr

/-- A call of `wlh_host_wifi_initialize_interfaces`, with the session it was made in. -/
structure InitCall where
  session : Nat
  status : InitStatus
  deriving DecidableEq, Repr

/-- The host with the sessions of Core. -/
structure Sessions where
  system : System
  /-- The session that is established. -/
  current : Option Nat
  /-- Number of sessions established so far. -/
  established : Nat
  /-- The sessions that have reached `READY`. -/
  readied : List Nat
  inits : List InitCall

inductive SessionAct where
  /-- A step of `Wlan/Calls.lean`. -/
  | system (a : SysAct)
  /-- Core establishes a session. -/
  | establish
  /-- `wlh_host_transport_lost`, or any other end of the session. -/
  | lost
  /-- Core reports `READY`; `submit` is its answer to a call made in return. -/
  | ready (submit : HostResult)
  /-- The executor runs the completion of call `k`. -/
  | complete (k : Nat) (result : HostResult)

namespace Sessions

/-- After `wlh_rtt_host_init`. -/
def initial (counter : UInt32) (maxClients : Nat) : Sessions :=
  ⟨.initial counter maxClients, none, 0, [], []⟩

/-- C `host_event` for a change of state to `READY` in session `n`. -/
def hostEvent (s : Sessions) (n : Nat) (submit : HostResult) : Sessions :=
  if s.system.wifiInitialized then s
  else { s with inits := s.inits ++ [⟨n, if submit = .ok then .pending else .refused⟩] }

/-- C `wifi_initialize_complete`. -/
def wifiInitializeComplete (s : System) (result : HostResult) : System :=
  if result ≠ .ok then s else { s with wifiInitialized := true }

/-- The status that a completion leaves. -/
def statusOf (result : HostResult) : InitStatus := if result = .ok then .succeeded else .failed

def step (s : Sessions) : SessionAct → Sessions
  | .system a =>
    -- a session ends with Core at the latest
    { s with
      system := s.system.step a
      current := if (s.system.step a).running then s.current else none }
  | .establish =>
    if s.system.running = true ∧ s.current = none then
      { s with current := some s.established, established := s.established + 1 }
    else s
  | .lost => { s with current := none }
  | .ready submit =>
    match s.current with
    | none => s
    | some n => { s.hostEvent n submit with readied := n :: s.readied }
  | .complete k result =>
    match s.inits[k]? with
    | some ⟨n, .pending⟩ =>
      { s with
        system := wifiInitializeComplete s.system result
        inits := s.inits.set k ⟨n, statusOf result⟩ }
    | _ => s

/-- Number of calls made in session `n`. -/
def calls (s : Sessions) (n : Nat) : Nat := s.inits.countP fun c => c.session = n

/-- A completion of session `n` has reported failure. -/
def Failed (s : Sessions) (n : Nat) : Prop := ⟨n, .failed⟩ ∈ s.inits

/-- Session `n` has a call, and only one until a completion has reported failure. -/
def OneInitIn (s : Sessions) (n : Nat) : Prop := 0 < s.calls n ∧ (¬ s.Failed n → s.calls n = 1)

/-- Every session that has reached `READY` is initialised once. -/
def OneInit (s : Sessions) : Prop := ∀ n ∈ s.readied, s.OneInitIn n

/-- A `READY` finds the flag clear when it is the first of its session, and else set, unless a
    completion of the session has reported failure. -/
def FlagRight (s : Sessions) : SessionAct → Prop
  | .ready _ => ∀ n, s.current = some n →
    (n ∉ s.readied → s.system.wifiInitialized = false) ∧
      (n ∈ s.readied → ¬ s.Failed n → s.system.wifiInitialized = true)
  | _ => True

/-- A session is established with the flag clear, a completion that succeeds belongs to the session
    that is established, and a `READY` is repeated only with the flag set, unless a completion of the
    session has reported failure. -/
def Orderly (s : Sessions) : SessionAct → Prop
  | .establish => s.current = none → s.system.wifiInitialized = false
  | .complete k .ok => ∀ n, s.inits[k]? = some ⟨n, .pending⟩ → s.current = some n
  | .ready _ => ∀ n, s.current = some n → n ∈ s.readied → ¬ s.Failed n →
    s.system.wifiInitialized = true
  | _ => True

/-! ## One step -/

/-- Calls are made in sessions that have reached `READY`. -/
def Sound (s : Sessions) : Prop := ∀ c ∈ s.inits, c.session ∈ s.readied

section Step
variable {s : Sessions}

/-- A session that has not reached `READY` has no call. -/
lemma Sound.calls_eq_zero (sound : s.Sound) {n : Nat} (new : n ∉ s.readied) : s.calls n = 0 := by
  refine List.countP_eq_zero.mpr fun c mem eq => new ?_
  rw [← of_decide_eq_true eq]
  exact sound c mem

/-- What a `READY` leaves of the calls: one more in its session if the flag is clear. -/
lemma hostEvent_calls (s : Sessions) (n : Nat) (submit : HostResult) :
    (s.hostEvent n submit).calls n = s.calls n + if s.system.wifiInitialized then 0 else 1 := by
  unfold hostEvent calls
  split
  · rfl
  · simp [List.countP_append]

/-- A `READY` makes calls in its own session only. -/
lemma hostEvent_calls_other (s : Sessions) {n m : Nat} (ne : m ≠ n) (submit : HostResult) :
    (s.hostEvent n submit).calls m = s.calls m := by
  unfold hostEvent calls
  split
  · rfl
  · simp [List.countP_append, ne.symm]

/-- A `READY` completes no call. -/
lemma hostEvent_failed (s : Sessions) (n m : Nat) (submit : HostResult) :
    (s.hostEvent n submit).Failed m ↔ s.Failed m := by
  unfold hostEvent Failed
  split
  · rfl
  · have new : (⟨m, .failed⟩ : InitCall) ≠ ⟨n, if submit = .ok then .pending else .refused⟩ := by
      split <;> simp
    simp [new]

/-- A completion changes no session's number of calls and takes back no failure. -/
lemma complete_calls {k n : Nat} (at_k : s.inits[k]? = some ⟨n, .pending⟩) (result : HostResult)
    (m : Nat) :
    ((s.inits.set k ⟨n, statusOf result⟩).countP fun c => c.session = m) = s.calls m ∧
      (s.Failed m → ⟨m, .failed⟩ ∈ s.inits.set k ⟨n, statusOf result⟩) := by
  obtain ⟨lt, get⟩ := List.getElem?_eq_some_iff.mp at_k
  constructor
  · rw [List.countP_set lt, get]
    have le : (if decide (n = m) = true then 1 else 0) ≤ s.calls m := by
      split
      · rename_i eq
        exact List.countP_pos_iff.mpr ⟨_, List.mem_of_getElem? at_k, eq⟩
      · exact Nat.zero_le _
    exact Nat.sub_add_cancel le
  · intro failed
    have other : (⟨m, .failed⟩ : InitCall) ≠ ⟨n, .pending⟩ := by simp
    exact (System.mem_set_iff at_k other).mpr (.inr failed)

/-- Every step keeps the calls to sessions that have reached `READY`. -/
lemma Sound.step (sound : s.Sound) (a : SessionAct) : (s.step a).Sound := by
  cases a with
  | system a => exact sound
  | establish =>
    simp only [Sessions.step]
    split <;> exact sound
  | lost => exact sound
  | ready submit =>
    simp only [Sessions.step]
    split
    · exact sound
    · intro c mem
      simp only [hostEvent] at mem
      split at mem
      · exact List.mem_cons_of_mem _ (sound c mem)
      · rcases List.mem_append.mp mem with old | new
        · exact List.mem_cons_of_mem _ (sound c old)
        · rw [List.mem_singleton.mp new]
          exact List.mem_cons_self
  | complete k result =>
    simp only [Sessions.step]
    split
    · rename_i n at_k
      intro c mem
      rcases List.mem_or_eq_of_mem_set mem with old | rfl
      · exact sound c old
      · have made := sound _ (List.mem_of_getElem? at_k)
        exact made
    · exact sound

/-- The session of a `READY` is initialised once exactly if the flag is right. -/
lemma hostEvent_oneInitIn (sound : s.Sound) (one : s.OneInit) (n : Nat) (submit : HostResult) :
    (s.hostEvent n submit).OneInitIn n ↔
      (n ∉ s.readied → s.system.wifiInitialized = false) ∧
        (n ∈ s.readied → ¬ s.Failed n → s.system.wifiInitialized = true) := by
  unfold OneInitIn
  rw [hostEvent_calls, hostEvent_failed]
  by_cases mem : n ∈ s.readied
  · obtain ⟨pos, single⟩ := one n mem
    cases s.system.wifiInitialized with
    | true => exact iff_of_true ⟨pos, single⟩ ⟨fun new => absurd mem new, fun _ _ => rfl⟩
    | false =>
      refine ⟨fun h => ⟨fun _ => rfl, fun _ fine => ?_⟩, fun h => ⟨Nat.succ_pos _, fun fine => ?_⟩⟩
      · exact absurd (Nat.succ.inj (h.2 fine)) (Nat.ne_of_gt pos)
      · cases h.2 mem fine
  · rw [sound.calls_eq_zero mem]
    cases s.system.wifiInitialized with
    | true => exact iff_of_false (fun h => Nat.lt_irrefl 0 h.1) fun h => by cases h.1 mem
    | false => exact iff_of_true ⟨Nat.one_pos, fun _ => rfl⟩ ⟨fun _ => rfl, fun old => absurd old mem⟩

/-- The other sessions keep their calls. -/
lemma hostEvent_oneInitIn_other {n m : Nat} (ne : m ≠ n) (submit : HostResult) :
    (s.hostEvent n submit).OneInitIn m ↔ s.OneInitIn m := by
  unfold OneInitIn
  rw [hostEvent_calls_other s ne, hostEvent_failed]

/-- A `READY` in session `n` leaves every session with one call exactly if the flag is right. -/
lemma oneInit_ready_iff (sound : s.Sound) (one : s.OneInit) (n : Nat) (submit : HostResult) :
    OneInit { s.hostEvent n submit with readied := n :: s.readied } ↔
      (n ∉ s.readied → s.system.wifiInitialized = false) ∧
        (n ∈ s.readied → ¬ s.Failed n → s.system.wifiInitialized = true) := by
  rw [← hostEvent_oneInitIn sound one n submit]
  constructor
  · intro all
    exact all n List.mem_cons_self
  · intro own m mem
    by_cases eq : m = n
    · rw [eq]
      exact own
    · have old := (List.mem_cons.mp mem).resolve_left eq
      exact (hostEvent_oneInitIn_other eq submit).mpr (one m old)

/-- A step keeps the calls right exactly if a `READY` finds the flag right. -/
lemma oneInit_step_iff (sound : s.Sound) (one : s.OneInit) (a : SessionAct) :
    (s.step a).OneInit ↔ s.FlagRight a := by
  cases a with
  | system a => exact iff_of_true one trivial
  | establish =>
    simp only [Sessions.step]
    split <;> exact iff_of_true one trivial
  | lost => exact iff_of_true one trivial
  | ready submit =>
    simp only [Sessions.step, FlagRight]
    cases s.current with
    | none => exact iff_of_true one fun n none => by cases none
    | some n =>
      refine (oneInit_ready_iff sound one n submit).trans ⟨fun right m eq => ?_, fun right => ?_⟩
      · rw [← Option.some_inj.mp eq]
        exact right
      · exact right n rfl
  | complete k result =>
    simp only [Sessions.step]
    split
    · rename_i n at_k
      refine iff_of_true (fun m mem => ?_) trivial
      obtain ⟨calls, failed⟩ := complete_calls at_k result m
      obtain ⟨pos, single⟩ := one m mem
      refine ⟨?_, fun fine => calls.trans (single fun f => fine (failed f))⟩
      exact pos.trans_eq calls.symm
    · exact iff_of_true one trivial

end Step

/-! ## The flag -/

section Flag
variable {s : Sessions}

/-- No call of the host sets the flag. -/
lemma callStep_wifi (s : System) (r : CallReply) (pc : CallPc)
    (set : (s.callStep r pc).1.wifiInitialized = true) : s.wifiInitialized = true := by
  cases pc with
  | startWifi => cases set
  | stopWifi => cases set
  | recoverWifi result => cases set
  | startCore =>
    simp only [System.callStep] at set
    split at set <;> exact set
  | stopCore =>
    simp only [System.callStep] at set
    split at set <;> exact set
  | recoverLock =>
    simp only [System.callStep] at set
    split at set <;> exact set
  | recoverStop =>
    simp only [System.callStep] at set
    split at set <;> exact set
  | recoverStart result =>
    simp only [System.callStep] at set
    split at set
    · split at set <;> exact set
    · exact set
  | recoverCount result =>
    simp only [System.callStep] at set
    split at set <;> exact set
  | _ => exact set

/-- Only a completion or a `READY` sets the flag. -/
lemma system_wifi (s : System) (a : SysAct) (set : (s.step a).wifiInitialized = true) :
    s.wifiInitialized = true := by
  cases a with
  | step n r =>
    simp only [System.step] at set
    split at set
    · exact set
    · exact callStep_wifi s r _ set
  | _ => exact set

/-- The flag is clear as long as the session has not reached `READY`. -/
def Clear (s : Sessions) : Prop :=
  ∀ n, s.current = some n → n ∉ s.readied → s.system.wifiInitialized = false

/-- An orderly step keeps the flag clear until the session reaches `READY`. -/
lemma Clear.step (clear : s.Clear) (sound : s.Sound) {a : SessionAct} (ok : s.Orderly a) :
    (s.step a).Clear := by
  cases a with
  | system a =>
    intro n at_n new
    simp only [Sessions.step] at at_n
    split at at_n
    · refine Bool.eq_false_iff.mpr fun set => ?_
      have was := system_wifi s.system a set
      rw [clear n at_n new] at was
      cases was
    · cases at_n
  | establish =>
    simp only [Sessions.step]
    split
    · rename_i free
      exact fun _ _ _ => ok free.2
    · exact clear
  | lost => exact fun n none => by cases none
  | ready submit =>
    simp only [Sessions.step]
    split
    · exact clear
    · rename_i m at_m
      intro n at_n new
      have kept : (s.hostEvent m submit).current = s.current := by
        unfold hostEvent
        split <;> rfl
      obtain rfl : m = n := Option.some_inj.mp (at_m.symm.trans (kept.symm.trans at_n))
      exact absurd List.mem_cons_self new
  | complete k result =>
    simp only [Sessions.step]
    split
    · rename_i m at_k
      intro n at_n new
      cases result with
      | ok =>
        obtain rfl : m = n := Option.some_inj.mp ((ok m at_k).symm.trans at_n)
        exact absurd (sound _ (List.mem_of_getElem? at_k)) new
      | error code => exact clear n at_n new
    · exact clear

end Flag

/-- Along every run, every session that has reached `READY` has exactly one call until a completion
    has reported failure, if and only if every `READY` finds the flag right; and it does so in every
    orderly run. -/
theorem one_init_per_session (counter : UInt32) (maxClients : Nat) (acts : List SessionAct) :
    (Along step (fun s a => (s.step a).OneInit) (initial counter maxClients) acts ↔
      Along step FlagRight (initial counter maxClients) acts) ∧
    (Along step Orderly (initial counter maxClients) acts →
      Along step (fun s a => (s.step a).OneInit) (initial counter maxClients) acts) := by
  have sound : (initial counter maxClients).Sound := fun c mem => by cases mem
  have one : (initial counter maxClients).OneInit := fun n mem => by cases mem
  have clear : (initial counter maxClients).Clear := fun n none => by cases none
  have iff : Along step (fun s a => (s.step a).OneInit) (initial counter maxClients) acts ↔
      Along step FlagRight (initial counter maxClients) acts := by
    refine along_congr (I := fun s => s.Sound ∧ s.OneInit) (fun s a inv right => ?_)
      (fun s a inv => oneInit_step_iff inv.1 inv.2 a) ⟨sound, one⟩
    exact ⟨inv.1.step a, (oneInit_step_iff inv.1 inv.2 a).mpr right⟩
  refine ⟨iff, fun orderly => iff.mpr ?_⟩
  refine orderly.carry (I := fun s => s.Sound ∧ s.Clear) (fun s a inv ok => ?_)
    (fun s a inv ok => ?_) ⟨sound, clear⟩
  · exact ⟨inv.1.step a, inv.2.step inv.1 ok⟩
  · cases a with
    | ready submit => exact fun n at_n => ⟨inv.2 n at_n, ok n at_n⟩
    | _ => trivial

/-- The host is started. -/
def starting : List SessionAct := .system .start :: List.replicate 4 (.system (.step 0 {}))

/-- A session that is initialised, with a second `READY` after a congested phase; then the host is
    stopped and started again and a second session is initialised. -/
def twoSessions : List SessionAct :=
  [starting, [.establish, .ready .ok, .complete 0 .ok, .ready .ok],
    [.system .stop], List.replicate 7 (.system (.step 1 {})),
    [.system .start], List.replicate 4 (.system (.step 2 {})),
    [.establish, .ready .ok, .complete 1 .ok]].flatten

/-- A session that is initialised and lost; Core establishes a new one by itself. -/
def linkLoss : List SessionAct :=
  starting.append [.establish, .ready .ok, .complete 0 .ok, .lost, .establish, .ready .ok]

/-- A second `READY` before the completion of the first call has run. -/
def congested : List SessionAct := starting.append [.establish, .ready .ok, .ready .ok]

/-- Both sessions get one call. -/
theorem one_init_two_sessions :
    Along step (fun s a => (s.step a).OneInit) (initial 0 8) twoSessions := by
  refine (one_init_per_session 0 8 twoSessions).2 ?_
  simp [twoSessions, starting, Along, Orderly, step, System.step, System.callStep, initial,
    System.initial, System.StartsCore, System.StopsCore, System.resetWlan, System.clearClients,
    hostEvent, wifiInitializeComplete]

/-- The new session reaches `READY` and gets no call. -/
theorem no_init_after_link_loss :
    1 ∈ (linkLoss.foldl step (initial 0 8)).readied ∧
      (linkLoss.foldl step (initial 0 8)).calls 1 = 0 ∧
      ¬ (linkLoss.foldl step (initial 0 8)).OneInit := by
  have ready : 1 ∈ (linkLoss.foldl step (initial 0 8)).readied := by decide +kernel
  have none : (linkLoss.foldl step (initial 0 8)).calls 1 = 0 := by decide +kernel
  refine ⟨ready, none, fun one => ?_⟩
  have pos := (one 1 ready).1
  rw [none] at pos
  exact Nat.lt_irrefl 0 pos

/-- The session gets two calls, and no completion has reported anything. -/
theorem two_inits_when_congested :
    0 ∈ (congested.foldl step (initial 0 8)).readied ∧
      (congested.foldl step (initial 0 8)).inits = [⟨0, .pending⟩, ⟨0, .pending⟩] := by
  constructor
  · decide +kernel
  · decide +kernel

end Sessions

end WlhHpm.Wlan

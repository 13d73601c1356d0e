import WlhHpm.Iperf2.Udp

/-!
# The duration of an iPerf2 test

`elapsed_ms` of `packages/wlh_rtt_host/iperf2/wlh_rtt_iperf2.c` multiplies the ticks since the start by
1000 before it divides by the ticks of a second, in 32 bits. The product wraps 4294968 ms after the
start, a little over 71 minutes, and the elapsed time starts again from zero. The limit, which is the
configured number of seconds times 1000, wraps too. The guard `elapsed_ms(start) < seconds * 1000u` is
shared by the loops of `tcp_client`, `tcp_server`, `udp_client` and `udp_server`.

`guard_right_iff` says at which times the guard is right. Three kinds of tests come out of it: up to
4294 seconds the guard is right until the product wraps; from 4295 to 4294967 seconds it is true at all
times, and the test never ends by itself (`session_runs_on`); above, it compares with a wrapped limit.
-/

namespace WlhHpm.Iperf2

/-- `RT_TICK_PER_SECOND` of `rtconfig.h`. -/
def rtTickPerSecond : UInt32 := 1000

/-- The milliseconds since `start` when the tick counter is at `tick` (C `elapsed_ms`). -/
def elapsedMs (start tick : UInt32) : UInt32 := (tick - start) * 1000 / rtTickPerSecond

/-- The tick counter `t` ticks after it was at `start`. -/
def tickAt (start : UInt32) (t : Nat) : UInt32 := start + UInt32.ofNat t

/-- The time part of the loop condition of the four loops. -/
def inTime (cfg : Config) (start tick : UInt32) : Bool := elapsedMs start tick < cfg.limit

/-- The elapsed time `t` ticks after the start. -/
lemma elapsedMs_tickAt (start : UInt32) (t : Nat) :
    (elapsedMs start (tickAt start t)).toNat = 1000 * t % 2 ^ 32 / 1000 := by
  have diff : tickAt start t - start = UInt32.ofNat t := by
    rw [tickAt, UInt32.add_comm, UInt32.add_sub_cancel]
  rw [elapsedMs, diff, UInt32.toNat_div, UInt32.toNat_mul, UInt32.toNat_ofNat']
  change t % 2 ^ 32 * 1000 % 2 ^ 32 / 1000 = _
  rw [Nat.mod_mul_mod, Nat.mul_comm]

/-- The elapsed time is never ahead of the true one. -/
lemma elapsedMs_tickAt_le (start : UInt32) (t : Nat) :
    (elapsedMs start (tickAt start t)).toNat ≤ t := by
  rw [elapsedMs_tickAt]
  have le := Nat.mod_le (1000 * t) (2 ^ 32)
  omega

/-- The limit in milliseconds is 32 bits wide. -/
lemma limit_toNat (cfg : Config) : cfg.limit.toNat = 1000 * cfg.seconds.toNat % 2 ^ 32 := by
  rw [Config.limit, UInt32.toNat_mul, Nat.mul_comm]
  rfl

/-- The guard in numbers. -/
lemma inTime_tickAt (cfg : Config) (start : UInt32) (t : Nat) :
    inTime cfg start (tickAt start t) = true ↔
      1000 * t % 2 ^ 32 / 1000 < 1000 * cfg.seconds.toNat % 2 ^ 32 := by
  rw [inTime, decide_eq_true_eq, UInt32.lt_iff_toNat_lt, elapsedMs_tickAt, limit_toNat]

/-! ## When the guard is right -/

/-- The guard says at time `t` whether the configured time is over. -/
def GuardRight (cfg : Config) (start : UInt32) (t : Nat) : Prop :=
  inTime cfg start (tickAt start t) = true ↔ t < 1000 * cfg.seconds.toNat

/-- The times `t` at which the guard of a test of `s` seconds is right. -/
def RightAt (s t : Nat) : Prop :=
  if s ≤ 4294 then t ≤ 4294967 ∨ 1000000 * s ≤ 1000 * t % 2 ^ 32
  else if s ≤ 4294967 then t < 1000 * s
  else 1000 * t % 2 ^ 32 < 1000 * (1000 * s % 2 ^ 32)

/-- A test of up to 71 minutes. -/
lemma guardRight_short {cfg : Config} (short : cfg.seconds.toNat ≤ 4294) (start : UInt32) (t : Nat) :
    GuardRight cfg start t ↔ t ≤ 4294967 ∨ 1000000 * cfg.seconds.toNat ≤ 1000 * t % 2 ^ 32 := by
  rw [GuardRight, inTime_tickAt]
  have limit : 1000 * cfg.seconds.toNat % 2 ^ 32 = 1000 * cfg.seconds.toNat := by omega
  rw [limit]
  by_cases early : t ≤ 4294967
  · -- no product has wrapped
    have exact_time : 1000 * t % 2 ^ 32 = 1000 * t := by omega
    rw [exact_time, Nat.mul_div_cancel_left t (by decide)]
    exact ⟨fun _ => .inl early, fun _ => Iff.rfl⟩
  · have ended : ¬ t < 1000 * cfg.seconds.toNat := by omega
    simp only [early, ended, iff_false, false_or]
    omega

/-- A test that is longer than any elapsed time. -/
lemma inTime_long {cfg : Config} (long : 4295 ≤ cfg.seconds.toNat) (le : cfg.seconds.toNat ≤ 4294967)
    (start : UInt32) (t : Nat) : inTime cfg start (tickAt start t) = true := by
  have limit : 1000 * cfg.seconds.toNat % 2 ^ 32 = 1000 * cfg.seconds.toNat := by omega
  have lt := Nat.mod_lt (1000 * t) (Nat.two_pow_pos 32)
  rw [inTime_tickAt, limit, Nat.div_lt_iff_lt_mul (by decide)]
  omega

/-- A test that is longer than the range of the tick counter. -/
lemma guardRight_wrapped {cfg : Config} (long : 4294967 < cfg.seconds.toNat) (start : UInt32) {t : Nat}
    (lt : t < 2 ^ 32) :
    GuardRight cfg start t ↔ 1000 * t % 2 ^ 32 < 1000 * (1000 * cfg.seconds.toNat % 2 ^ 32) := by
  have before : t < 1000 * cfg.seconds.toNat := by omega
  rw [GuardRight, inTime_tickAt]
  simp only [before, iff_true]
  rw [Nat.div_lt_iff_lt_mul (by decide), Nat.mul_comm (1000 * cfg.seconds.toNat % 2 ^ 32)]

/-- The times at which the guard of the four loops is right: for short tests until the product of the
    elapsed time wraps, and then where the wrapped time happens to be over the limit; for longer ones
    only before the end; for those with a wrapped limit where the wrapped time is below it. -/
theorem guard_right_iff (cfg : Config) (start : UInt32) (t : Nat) (lt : t < 2 ^ 32) :
    GuardRight cfg start t ↔ RightAt cfg.seconds.toNat t := by
  unfold RightAt
  split
  · rename_i short
    exact guardRight_short short start t
  · rename_i notShort
    split
    · rename_i le
      rw [GuardRight, inTime_long (by omega) le start t]
      exact ⟨fun h => h.mp rfl, fun h => ⟨fun _ => h, fun _ => rfl⟩⟩
    · rename_i long
      exact guardRight_wrapped (by omega) start lt

/-- The guard of a test of 30 seconds is right when they are over, also where the counter wraps. -/
theorem guard_right_thirty : ¬ inTime ⟨30, 20⟩ 4294967000 (tickAt 4294967000 30000) = true := by
  have right := (guard_right_iff ⟨30, 20⟩ 4294967000 30000 (by decide)).mpr (.inl (by decide))
  rw [GuardRight] at right
  rw [right]
  decide

/-- A test of 4295 seconds is not over when they are, and one of 4294968 seconds ends after 704
    milliseconds. -/
theorem guard_wrong :
    (inTime ⟨4295, 20⟩ 0 (tickAt 0 4295000) = true ∧ ¬ 4295000 < 1000 * 4295) ∧
      (¬ inTime ⟨4294968, 20⟩ 0 (tickAt 0 704) = true ∧ 704 < 1000 * 4294968) := by
  decide

/-! ## The loops -/

/-- What one pass of a TCP loop meets. -/
structure TcpPass where
  cancel : Bool
  tick : UInt32
  /-- the result of `send` or `recv` -/
  transferred : Int

/-- How a TCP loop stands: still running, ended by the clock or the cancel flag, or ended by the
    socket. -/
inductive TcpEnd where
  | running
  | expired
  | broken
deriving DecidableEq

/-- The loop that `tcp_client` and `tcp_server` have in common. -/
def tcpLoop (cfg : Config) (start : UInt32) : List TcpPass → TcpEnd
  | [] => .running
  | p :: ps =>
    if !p.cancel && inTime cfg start p.tick then
      if p.transferred ≤ 0 then .broken else tcpLoop cfg start ps
    else .expired

/-- A client that is connected (C `tcp_client`); `start` is read before the socket is opened. -/
def tcpClient (cfg : Config) (start : UInt32) (sends : List TcpPass) : TcpEnd :=
  tcpLoop cfg start sends

/-- A server that has accepted a connection (C `tcp_server`); `start` is read after that. -/
def tcpServer (cfg : Config) (start : UInt32) (recvs : List TcpPass) : TcpEnd :=
  tcpLoop cfg start recvs

/-- Every state of the counter is reached at some time. -/
lemma tickAt_sub (start tick : UInt32) : tickAt start (tick - start).toNat = tick := by
  rw [tickAt, UInt32.ofNat_toNat, UInt32.add_comm, UInt32.sub_add_cancel]

section LongTest
variable {cfg : Config} (long : 4295 ≤ cfg.seconds.toNat) (le : cfg.seconds.toNat ≤ 4294967)
include long le

/-- No reading of the clock ends the test. -/
lemma inTime_always (start tick : UInt32) : inTime cfg start tick = true := by
  have always := inTime_long long le start (tick - start).toNat
  rwa [tickAt_sub] at always

/-- A TCP loop that is not cancelled does not expire. -/
lemma tcpLoop_runs_on {start : UInt32} {ps : List TcpPass} (go : ∀ p ∈ ps, p.cancel = false) :
    tcpLoop cfg start ps ≠ .expired := by
  induction ps with
  | nil => exact TcpEnd.noConfusion
  | cons p ps ih =>
    rw [List.forall_mem_cons] at go
    rw [tcpLoop, if_pos (by rw [go.1, inTime_always long le]; rfl)]
    split
    · exact TcpEnd.noConfusion
    · exact ih go.2

/-- A UDP client that is not cancelled does not end. -/
lemma clientLoop_runs_on {start : UInt32} {ps : List ClientPass} {s : ClientState}
    (go : ∀ p ∈ ps, p.cancel = false ∧ (∃ tick, p.elapsed = elapsedMs start tick) ∧ p.sendOk = true) :
    clientLoop cfg ps s = none := by
  induction ps generalizing s with
  | nil => rfl
  | cons p ps ih =>
    rw [List.forall_mem_cons] at go
    obtain ⟨⟨cancel, ⟨tick, read⟩, sendOk⟩, later⟩ := go
    have on : p.goesOn cfg = true := by
      rw [ClientPass.goesOn, cancel, read]
      exact inTime_always long le start tick
    rw [clientLoop, if_pos on]
    split
    · exact ih later
    · exact ih later

/-- A UDP server that is not cancelled does not expire. -/
lemma serverLoop_runs_on {start : UInt32} {ps : List ServerPass} {s s' : ServerState}
    (go : ∀ p ∈ ps, p.cancel = false ∧ ∃ tick, p.elapsed = elapsedMs start tick) :
    serverLoop cfg ps s ≠ .expired s' := by
  induction ps generalizing s with
  | nil => exact ServerEnd.noConfusion
  | cons p ps ih =>
    rw [List.forall_mem_cons] at go
    obtain ⟨⟨cancel, tick, read⟩, later⟩ := go
    have on : p.goesOn cfg = true := by
      rw [ServerPass.goesOn, cancel, read]
      exact inTime_always long le start tick
    obtain ⟨off, -⟩ | ⟨s₁, eq⟩ | ⟨report, eq⟩ := serverLoop_cases cfg p ps s
    · exact absurd on off
    · rw [eq]
      exact ih later
    · rw [eq]
      exact ServerEnd.noConfusion

end LongTest

/-- A test of 4295 to 4294967 seconds that nobody cancels is never ended by the clock, in any of the
    four loops; the loop of the UDP client does not end at all while its socket takes the datagrams. -/
theorem session_runs_on (cfg : Config) (long : 4295 ≤ cfg.seconds.toNat)
    (le : cfg.seconds.toNat ≤ 4294967) (start : UInt32) :
    (∀ passes : List TcpPass, (∀ p ∈ passes, p.cancel = false) →
      tcpClient cfg start passes ≠ .expired ∧ tcpServer cfg start passes ≠ .expired) ∧
    (∀ passes : List ClientPass,
      (∀ p ∈ passes, p.cancel = false ∧ (∃ tick, p.elapsed = elapsedMs start tick) ∧
        p.sendOk = true) → clientLoop cfg passes .init = none) ∧
    (∀ (passes : List ServerPass) (buffer : List UInt8) (s : ServerState),
      (∀ p ∈ passes, p.cancel = false ∧ ∃ tick, p.elapsed = elapsedMs start tick) →
        serverLoop cfg passes (.init buffer) ≠ .expired s) := by
  refine ⟨fun passes go => ?_, fun passes go => ?_, fun passes buffer s go => ?_⟩
  · exact ⟨tcpLoop_runs_on long le go, tcpLoop_runs_on long le go⟩
  · exact clientLoop_runs_on long le go
  · exact serverLoop_runs_on long le go

end WlhHpm.Iperf2

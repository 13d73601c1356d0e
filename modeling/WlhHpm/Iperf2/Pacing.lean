import WlhHpm.Iperf2.Clock

/-!
# The rate of the UDP client

`udp_client` compares the number of datagrams it has made with the number that the rate allows up to
now, and waits while there is none left. The budget is a quotient of a 64-bit product of the rate and
of a 32-bit time, and both wrap. A wrapped value is never above the true one, so the comparison errs
on the side of waiting: at any time at which the client sends a datagram, it stays within the rate it
was configured with (`udp_pacing`).

`clientSends` is the loop of `udp_client` by its calls of `sendto`, with the true times of the readings
of the clock; `clientLoop_sends` connects it to `clientLoop`.
-/

namespace WlhHpm.Iperf2

/-- A pass of the client's loop, with the true times in milliseconds since the start at which it reads
    the clock for the guard and for the budget, and at which it calls `sendto`. -/
structure TimedPass where
  cancel : Bool
  guardAt : Nat
  readAt : Nat
  sendAt : Nat
  sendOk : Bool

/-- What the client sees of a pass, when the tick counter was at `start` in the beginning. -/
def TimedPass.toPass (start : UInt32) (p : TimedPass) : ClientPass where
  cancel := p.cancel
  elapsed := elapsedMs start (tickAt start p.guardAt)
  nowMs := elapsedMs start (tickAt start p.readAt)
  sendOk := p.sendOk

/-- The times of a pass, in the order of the source. -/
def TimedPass.times (p : TimedPass) : List Nat := [p.guardAt, p.readAt, p.sendAt]

/-- Time does not go back. -/
def Forward (passes : List TimedPass) : Prop := (passes.flatMap TimedPass.times).Pairwise (· ≤ ·)

/-- A call of `sendto` for a data datagram. -/
structure Send where
  datagram : List UInt8
  sendAt : Nat
deriving DecidableEq

/-- The calls of `sendto` in the loop of `udp_client`, the last of which may have failed. -/
def clientSends (cfg : Config) (start : UInt32) : List TimedPass → ClientState → List Send
  | [], _ => []
  | p :: ps, s =>
    let q := p.toPass start
    if q.goesOn cfg then
      if s.sequence.toUInt64 ≥ packetBudget cfg q.nowMs then clientSends cfg start ps s
      else
        let buffer := (wlhIperf2UdpHeaderEncode s.buffer s.sequence (q.nowMs / 1000)
          (q.nowMs % 1000 * 1000)).1
        let s := { s with buffer := buffer, sequence := s.sequence + 1 }
        ⟨buffer, p.sendAt⟩ ::
          if q.sendOk then clientSends cfg start ps { s with sent := s.sent ++ [buffer] } else []
    else []

/-- The calls of `sendto` are those of `clientLoop`: it has sent what they carry, up to one datagram
    that was lost in the last call, and has counted all of them. -/
lemma clientLoop_sends {cfg : Config} {start : UInt32} {ps : List TimedPass} {s s' : ClientState}
    (run : clientLoop cfg (ps.map (TimedPass.toPass start)) s = some s') :
    (∃ lost, s'.sent ++ lost = s.sent ++ (clientSends cfg start ps s).map Send.datagram ∧
      lost.length ≤ 1) ∧
    s'.sequence = s.sequence + UInt32.ofNat (clientSends cfg start ps s).length := by
  induction ps generalizing s with
  | nil => cases run
  | cons p ps ih =>
    rw [List.map_cons] at run
    rw [clientSends]
    simp only
    obtain ⟨on, wait, run⟩ | ⟨on, ready, sendOk, run⟩ | ⟨on, ready, failed, rfl⟩ | ⟨off, rfl⟩ :=
      clientLoop_cases run
    · rw [if_pos on, if_pos wait]
      exact ih run
    · obtain ⟨⟨lost, sent, le⟩, sequence⟩ := ih run
      rw [if_pos on, if_neg ready, if_pos sendOk, List.map_cons, List.length_cons]
      refine ⟨⟨lost, ?_, le⟩, ?_⟩
      · rw [sent, ClientState.delivered, List.append_assoc, List.singleton_append]
        rfl
      · rw [sequence, UInt32.ofNat_add, ClientState.delivered, ClientState.made, UInt32.add_assoc,
          UInt32.add_comm 1]
        rfl
    · rw [if_pos on, if_neg ready, if_neg failed]
      exact ⟨⟨_, rfl, Nat.le_refl 1⟩, rfl⟩
    · rw [if_neg off, List.length_nil]
      exact ⟨⟨[], rfl, Nat.zero_le 1⟩, (UInt32.add_zero _).symm⟩

/-! ## The budget -/

/-- The budget is never above what the true rate allows: wrapping only makes it smaller. -/
lemma packetBudget_le (cfg : Config) (nowMs : UInt32) :
    (packetBudget cfg nowMs).toNat * 1470000 ≤ cfg.udpMbps.toNat * 125000 * nowMs.toNat := by
  have product : (cfg.udpMbps.toUInt64 * 125000 * nowMs.toUInt64).toNat ≤
      cfg.udpMbps.toNat * 125000 * nowMs.toNat := by
    rw [UInt64.toNat_mul, UInt64.toNat_mul, UInt32.toNat_toUInt64, UInt32.toNat_toUInt64]
    refine (Nat.mod_le _ _).trans ?_
    exact Nat.mul_le_mul_right _ (Nat.mod_le _ _)
  refine le_trans ?_ product
  rw [packetBudget, UInt64.toNat_div]
  exact Nat.div_mul_le_self _ 1470000

/-- A client that does not wait is within its rate, with the next datagram. -/
lemma within_rate {cfg : Config} {start sequence : UInt32} {k : Nat} {p : TimedPass}
    (count : sequence.toNat = k) (order : p.readAt ≤ p.sendAt)
    (ready : ¬ sequence.toUInt64 ≥ packetBudget cfg (p.toPass start).nowMs) :
    (k + 1) * 1470 * 8 ≤ cfg.udpMbps.toNat * 1000 * p.sendAt := by
  have budget := packetBudget_le cfg (p.toPass start).nowMs
  have now : (p.toPass start).nowMs.toNat ≤ p.sendAt := (elapsedMs_tickAt_le start p.readAt).trans order
  have next : k + 1 ≤ (packetBudget cfg (p.toPass start).nowMs).toNat := by
    have lt := UInt64.lt_iff_toNat_lt.mp (UInt64.not_le.mp ready)
    rw [UInt32.toNat_toUInt64, count] at lt
    exact lt
  have rate : (k + 1) * 1470000 ≤ cfg.udpMbps.toNat * 125000 * p.sendAt :=
    calc (k + 1) * 1470000
        ≤ (packetBudget cfg (p.toPass start).nowMs).toNat * 1470000 := Nat.mul_le_mul_right _ next
      _ ≤ cfg.udpMbps.toNat * 125000 * (p.toPass start).nowMs.toNat := budget
      _ ≤ cfg.udpMbps.toNat * 125000 * p.sendAt := Nat.mul_le_mul_left _ now
  -- bits instead of bytes, and both sides divided by 125
  have scaled : 125 * ((k + 1) * 1470 * 8) ≤ 125 * (cfg.udpMbps.toNat * 1000 * p.sendAt) := by
    nlinarith only [rate]
  exact Nat.le_of_mul_le_mul_left scaled (by decide)

/-! ## The run -/

/-- From a state in which `k` datagrams have been made. -/
lemma clientSends_paced {cfg : Config} {start : UInt32} {ps : List TimedPass} {s : ClientState}
    {k n : Nat} {send : Send} (buffer : s.buffer.length = wlhIperf2UdpSize)
    (sequence : s.sequence = UInt32.ofNat k) (order : ∀ p ∈ ps, p.readAt ≤ p.sendAt)
    (nth : (clientSends cfg start ps s)[n]? = some send) (small : k + n + 1 < 2 ^ 32) :
    IsDatagram send.datagram (UInt32.ofNat (k + n)) ∧
      (k + n + 1) * 1470 * 8 ≤ cfg.udpMbps.toNat * 1000 * send.sendAt := by
  induction ps generalizing s k n with
  | nil => cases nth
  | cons p ps ih =>
    rw [List.forall_mem_cons] at order
    rw [clientSends] at nth
    simp only at nth
    split at nth
    · split at nth
      · exact ih buffer sequence order.2 nth small
      · rename_i ready
        have made := isDatagram_encode buffer s.sequence ((p.toPass start).nowMs / 1000)
          ((p.toPass start).nowMs % 1000 * 1000)
        cases n with
        | zero =>
          cases nth
          have count : s.sequence.toNat = k := by
            rw [sequence, UInt32.toNat_ofNat']
            omega
          refine ⟨?_, within_rate count order.1 ready⟩
          rw [Nat.add_zero, ← sequence]
          exact made
        | succ n =>
          rw [List.getElem?_cons_succ] at nth
          split at nth
          · have next : s.sequence + 1 = UInt32.ofNat (k + 1) := by
              rw [sequence, UInt32.ofNat_add]
              rfl
            have later := ih made.1 next order.2 nth (by omega)
            rwa [Nat.add_assoc k, Nat.add_comm 1] at later
          · cases nth
    · cases nth

/-- The clock is read before the send. -/
lemma Forward.order {passes : List TimedPass} (forward : Forward passes) :
    ∀ p ∈ passes, p.readAt ≤ p.sendAt := by
  intro p mem
  have times := (List.pairwise_flatMap.mp forward).1 p mem
  exact (List.pairwise_cons.mp (List.pairwise_cons.mp times).2).1 _ (List.mem_singleton_self _)

/-- Datagram `n` of a client, counted from zero, has the number `n`, and when it is sent the client has
    sent no more bits than the configured rate allows in the true time since its start. -/
theorem udp_pacing (cfg : Config) (start : UInt32) (passes : List TimedPass) (forward : Forward passes)
    (n : Nat) (small : n + 1 < 2 ^ 32) (send : Send)
    (nth : (clientSends cfg start passes .init)[n]? = some send) :
    IsDatagram send.datagram (UInt32.ofNat n) ∧
      (n + 1) * 1470 * 8 ≤ cfg.udpMbps.toNat * 1000 * send.sendAt := by
  have small : 0 + n + 1 < 2 ^ 32 := by omega
  have paced := clientSends_paced List.length_replicate rfl forward.order nth small
  rwa [Nat.zero_add] at paced

/-- A client that waits in its first pass and sends in its second one, with a tick counter that wraps
    between them. -/
def waitThenSend : List TimedPass := [⟨false, 0, 0, 0, true⟩, ⟨false, 1, 1, 2, true⟩]

/-- The first pass has no budget, and the second sends one datagram. -/
theorem udp_pacing_first :
    clientSends ⟨30, 20⟩ 4294967295 waitThenSend .init = [⟨sampleDatagram 0 1000, 2⟩] ∧
      IsDatagram (sampleDatagram 0 1000) 0 ∧ 1 * 1470 * 8 ≤ 20 * 1000 * 2 := by
  have sends : clientSends ⟨30, 20⟩ 4294967295 waitThenSend .init = [⟨sampleDatagram 0 1000, 2⟩] := by
    decide +kernel
  have forward : Forward waitThenSend := by simp [Forward, waitThenSend, TimedPass.times]
  obtain ⟨datagram, rate⟩ := udp_pacing ⟨30, 20⟩ 4294967295 waitThenSend forward 0 (by decide)
    ⟨sampleDatagram 0 1000, 2⟩ (by rw [sends, List.getElem?_cons_zero])
  have zero : UInt32.ofNat 0 = 0 := rfl
  simp only [zero] at datagram rate
  exact ⟨sends, datagram, rate⟩

end WlhHpm.Iperf2

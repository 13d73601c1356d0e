import WlhHpm.Iperf2.Proto

/-!
# The UDP test of iPerf2

Model of `udp_client` and `udp_server` of `packages/wlh_rtt_host/iperf2/wlh_rtt_iperf2.c`. A pass of
either loop is a value (`ClientPass`, `ServerPass`) that holds what the environment answers in it:
the cancel flag, the readings of the clock, the result of the socket call. A loop is a function of
the list of its passes; while the list lasts and the loop has not ended it is still running.

The end of a test is signalled by the sign of the sequence number alone: the client sends `-sequence`
for the number of datagrams it made, and the server stops at the first negative number. The two
agree (`udp_agree`) exactly when the client has made at least one datagram: the final datagram of a
client that is cancelled before its first packet has the number `-0`, and the server counts it as
data.
-/

namespace WlhHpm.Iperf2

/-- The fields of `wlh_rtt_iperf2_config_t` that the UDP loops read. -/
structure Config where
  seconds : UInt32
  udpMbps : UInt32

/-- The loops run while the elapsed time is below this. -/
def Config.limit (cfg : Config) : UInt32 := cfg.seconds * 1000

/-! ## The client -/

/-- What one pass of the client's loop meets. -/
structure ClientPass where
  cancel : Bool
  elapsed : UInt32
  nowMs : UInt32
  /-- `sendto` does not return a negative value -/
  sendOk : Bool

/-- The client inside its loop; `sent` is what has left through the socket. -/
structure ClientState where
  buffer : List UInt8
  sequence : UInt32
  sent : List (List UInt8)

/-- Number of packets that the rate allows up to now. -/
def packetBudget (cfg : Config) (nowMs : UInt32) : UInt64 :=
  cfg.udpMbps.toUInt64 * 125000 * nowMs.toUInt64 / (1470 * 1000)

/-- The loop condition of `udp_client`. -/
def ClientPass.goesOn (cfg : Config) (p : ClientPass) : Bool :=
  !p.cancel && decide (p.elapsed < cfg.limit)

/-- The loop of `udp_client`; `none` while it runs. -/
def clientLoop (cfg : Config) : List ClientPass → ClientState → Option ClientState
  | [], _ => none
  | p :: ps, s =>
    if p.goesOn cfg then
      if s.sequence.toUInt64 ≥ packetBudget cfg p.nowMs then clientLoop cfg ps s
      else
        let buffer := (wlhIperf2UdpHeaderEncode s.buffer s.sequence (p.nowMs / 1000)
          (p.nowMs % 1000 * 1000)).1
        let s := { s with buffer := buffer, sequence := s.sequence + 1 }
        if p.sendOk then clientLoop cfg ps { s with sent := s.sent ++ [buffer] } else some s
    else some s

/-- The client before its first pass. -/
def ClientState.init : ClientState where
  buffer := List.replicate wlhIperf2UdpSize 0x5a
  sequence := 0
  sent := []

/-- What a client has sent: data, and the datagram after the loop. -/
structure ClientSent where
  data : List (List UInt8)
  final : List UInt8
deriving DecidableEq

/-- A client whose socket was opened (C `udp_client`); `t₁` and `t₂` are the two readings of the clock
    after the loop. -/
def udpClient (cfg : Config) (passes : List ClientPass) (t₁ t₂ : UInt32) : Option ClientSent :=
  match clientLoop cfg passes .init with
  | none => none
  | some s =>
    some
      { data := s.sent
        final := (wlhIperf2UdpHeaderEncode s.buffer (-s.sequence) (t₁ / 1000) (t₂ % 1000 * 1000)).1 }

/-! ## The server -/

/-- What one pass of the server's loop meets; `received` is the datagram that `recvfrom` delivers,
    or `none` where it returns an error or times out. -/
structure ServerPass where
  cancel : Bool
  elapsed : UInt32
  received : Option (List UInt8)
  /-- the reading of the clock for the report -/
  duration : UInt32

/-- The local variables of `udp_server`. -/
structure ServerState where
  buffer : List UInt8
  totalBytes : UInt64
  datagrams : UInt32
  errors : UInt32
  outOfOrder : UInt32
  expectedSequence : UInt32

/-- How the server's loop stands: still running, ended by the clock or the cancel flag, or ended by a
    final datagram, with the report it sent and the passes it did not take. -/
inductive ServerEnd where
  | running (s : ServerState)
  | expired (s : ServerState)
  | reported (report : List UInt8) (rest : List ServerPass)

/-- The loop condition of `udp_server`. -/
def ServerPass.goesOn (cfg : Config) (p : ServerPass) : Bool :=
  !p.cancel && decide (p.elapsed < cfg.limit)

/-- Count a data datagram of `received` bytes. -/
def ServerState.count (s : ServerState) (sequence : UInt32) (received : Nat) : ServerState :=
  { s with
    totalBytes := s.totalBytes + (UInt32.ofNat received).toUInt64
    datagrams := s.datagrams + 1
    outOfOrder :=
      if Word.toInt sequence < Word.toInt s.expectedSequence then s.outOfOrder + 1
      else s.outOfOrder
    errors :=
      if Word.toInt sequence < Word.toInt s.expectedSequence then s.errors
      else if Word.toInt sequence > Word.toInt s.expectedSequence then
        s.errors + (sequence - s.expectedSequence)
      else s.errors
    expectedSequence :=
      if Word.toInt sequence ≥ Word.toInt s.expectedSequence then sequence + 1
      else s.expectedSequence }

/-- The loop of `udp_server`. -/
def serverLoop (cfg : Config) : List ServerPass → ServerState → ServerEnd
  | [], s => .running s
  | p :: ps, s =>
    if p.goesOn cfg then
      match p.received with
      | none => serverLoop cfg ps s
      | some datagram =>
        let received := (datagram.take wlhIperf2UdpSize).length
        let s := { s with buffer := datagram.take wlhIperf2UdpSize ++ s.buffer.drop received }
        if received = 0 then serverLoop cfg ps s
        else
          match wlhIperf2UdpHeaderDecode s.buffer received with
          | none => serverLoop cfg ps s
          | some (sequence, _, _) =>
            if Word.IsNeg sequence then
              let report := (wlhIperf2UdpServerReportEncode s.buffer s.totalBytes p.duration s.errors
                s.outOfOrder s.datagrams).1
              .reported (report.take wlhIperf2UdpServerReportSize) ps
            else serverLoop cfg ps (s.count sequence received)
    else .expired s

/-- A server whose socket was opened and bound (C `udp_server`); its buffer is not initialised. -/
def ServerState.init (buffer : List UInt8) : ServerState :=
  { buffer := buffer, totalBytes := 0, datagrams := 0, errors := 0, outOfOrder := 0,
    expectedSequence := 0 }

/-! ## Datagrams of a client -/

/-- The client makes a datagram: a pass with a packet in its budget comes before the loop ends. -/
def MakesDatagram (cfg : Config) : List ClientPass → Prop
  | [] => False
  | p :: ps => p.goesOn cfg = true ∧ (packetBudget cfg p.nowMs ≠ 0 ∨ MakesDatagram cfg ps)

/-- A full datagram with this sequence number, as the server reads it. -/
def IsDatagram (d : List UInt8) (sequence : UInt32) : Prop :=
  d.length = wlhIperf2UdpSize ∧
    ∃ seconds microseconds, ∀ tail,
      wlhIperf2UdpHeaderDecode (d ++ tail) wlhIperf2UdpSize = some (sequence, seconds, microseconds)

/-- Datagrams numbered one after the other from `k` on. -/
def Numbered : Nat → List (List UInt8) → Prop
  | _, [] => True
  | k, d :: ds => IsDatagram d (UInt32.ofNat k) ∧ Numbered (k + 1) ds

/-- One more datagram with the next number. -/
lemma numbered_append {k : Nat} {ds : List (List UInt8)} {d : List UInt8} (h : Numbered k ds)
    (next : IsDatagram d (UInt32.ofNat (k + ds.length))) : Numbered k (ds ++ [d]) := by
  induction ds generalizing k with
  | nil => exact ⟨next, trivial⟩
  | cons e ds ih =>
    refine ⟨h.1, ih h.2 ?_⟩
    rwa [Nat.add_assoc, Nat.add_comm 1, ← List.length_cons]

/-- A buffer with a header is a datagram of its number. -/
lemma isDatagram_encode {buffer : List UInt8} (len : buffer.length = wlhIperf2UdpSize)
    (sequence seconds microseconds : UInt32) :
    IsDatagram (wlhIperf2UdpHeaderEncode buffer sequence seconds microseconds).1 sequence := by
  have long : wlhIperf2UdpHeaderSize ≤ buffer.length := by
    rw [len]
    decide
  refine ⟨(headerEncode_length ..).trans len, seconds, microseconds, fun tail => ?_⟩
  exact headerDecode_encode long sequence seconds microseconds (by decide) tail

/-- The client has made as many datagrams as its counter says, and sent all of them. -/
structure ClientState.Even (s : ClientState) : Prop where
  buffer : s.buffer.length = wlhIperf2UdpSize
  sequence : s.sequence = UInt32.ofNat s.sent.length
  numbered : Numbered 0 s.sent

/-- A client at the end of its loop has sent numbered datagrams; its counter is their number, or one
    more where the last one could not be sent. -/
structure ClientState.Ended (s : ClientState) : Prop where
  buffer : s.buffer.length = wlhIperf2UdpSize
  sequence : s.sequence = UInt32.ofNat s.sent.length ∨
    s.sequence = UInt32.ofNat (s.sent.length + 1)
  numbered : Numbered 0 s.sent

/-- A client between two passes may end. -/
lemma ClientState.Even.ended {s : ClientState} (h : s.Even) : s.Ended :=
  ⟨h.buffer, .inl h.sequence, h.numbered⟩

/-- The client after it has made the next datagram. -/
def ClientState.made (s : ClientState) (p : ClientPass) : ClientState :=
  { s with
    buffer := (wlhIperf2UdpHeaderEncode s.buffer s.sequence (p.nowMs / 1000) (p.nowMs % 1000 * 1000)).1
    sequence := s.sequence + 1 }

/-- The client after the datagram in its buffer has left. -/
def ClientState.delivered (s : ClientState) : ClientState := { s with sent := s.sent ++ [s.buffer] }

/-- What a pass of a client that ends can do: wait, send a datagram, fail to send one, or end. -/
lemma clientLoop_cases {cfg : Config} {p : ClientPass} {ps : List ClientPass} {s s' : ClientState}
    (run : clientLoop cfg (p :: ps) s = some s') :
    (p.goesOn cfg = true ∧ s.sequence.toUInt64 ≥ packetBudget cfg p.nowMs ∧
      clientLoop cfg ps s = some s') ∨
    (p.goesOn cfg = true ∧ ¬ s.sequence.toUInt64 ≥ packetBudget cfg p.nowMs ∧ p.sendOk = true ∧
      clientLoop cfg ps (s.made p).delivered = some s') ∨
    (p.goesOn cfg = true ∧ ¬ s.sequence.toUInt64 ≥ packetBudget cfg p.nowMs ∧ ¬ p.sendOk = true ∧
      s' = s.made p) ∨
    (¬ p.goesOn cfg = true ∧ s' = s) := by
  rw [clientLoop] at run
  split at run
  · rename_i on
    split at run
    · rename_i wait
      exact .inl ⟨on, wait, run⟩
    · rename_i ready
      simp only at run
      split at run
      · rename_i sendOk
        exact .inr (.inl ⟨on, ready, sendOk, run⟩)
      · rename_i failed
        cases run
        exact .inr (.inr (.inl ⟨on, ready, failed, rfl⟩))
  · rename_i off
    cases run
    exact .inr (.inr (.inr ⟨off, rfl⟩))

/-- A pass makes the next datagram. -/
lemma ClientState.Even.made {s : ClientState} (even : s.Even) (p : ClientPass) :
    IsDatagram (s.made p).buffer s.sequence ∧
      (s.made p).sequence = UInt32.ofNat (s.sent.length + 1) := by
  refine ⟨isDatagram_encode even.buffer .., ?_⟩
  rw [ClientState.made, even.sequence, UInt32.ofNat_add]
  rfl

/-- A datagram that is sent counts. -/
lemma ClientState.Even.delivered {s : ClientState} (even : s.Even) (p : ClientPass) :
    (s.made p).delivered.Even := by
  obtain ⟨datagram, next⟩ := even.made p
  have sent : (s.made p).delivered.sent = s.sent ++ [(s.made p).buffer] := rfl
  refine ⟨datagram.1, ?_, ?_⟩
  · rw [sent, List.length_append]
    exact next
  · rw [sent]
    refine numbered_append even.numbered ?_
    rw [Nat.zero_add, ← even.sequence]
    exact datagram

/-- The loop ends as it should. -/
lemma clientLoop_ended {cfg : Config} {ps : List ClientPass} {s s' : ClientState} (even : s.Even)
    (run : clientLoop cfg ps s = some s') : s'.Ended := by
  induction ps generalizing s with
  | nil => cases run
  | cons p ps ih =>
    obtain ⟨-, -, run⟩ | ⟨-, -, -, run⟩ | ⟨-, -, -, rfl⟩ | ⟨-, rfl⟩ := clientLoop_cases run
    · exact ih even run
    · exact ih (even.delivered p) run
    · obtain ⟨datagram, next⟩ := even.made p
      exact ⟨datagram.1, .inr next, even.numbered⟩
    · exact even.ended

/-- What has been sent is never taken back. -/
lemma clientLoop_sent_le {cfg : Config} {ps : List ClientPass} {s s' : ClientState}
    (run : clientLoop cfg ps s = some s') : s.sent.length ≤ s'.sent.length := by
  induction ps generalizing s with
  | nil => cases run
  | cons p ps ih =>
    obtain ⟨-, -, run⟩ | ⟨-, -, -, run⟩ | ⟨-, -, -, rfl⟩ | ⟨-, rfl⟩ := clientLoop_cases run
    · exact ih run
    · have more := ih run
      rw [ClientState.delivered, List.length_append] at more
      exact (Nat.le_add_right _ _).trans more
    · exact Nat.le_refl _
    · exact Nat.le_refl _

/-- Nothing has been sent. -/
lemma init_even : ClientState.init.Even := ⟨List.length_replicate, rfl, trivial⟩

/-- The counter of a client is not zero at the end exactly when the client made a datagram. -/
lemma clientLoop_sequence {cfg : Config} {ps : List ClientPass} {s' : ClientState}
    (run : clientLoop cfg ps .init = some s') (small : s'.sent.length < 2 ^ 31) :
    s'.sequence ≠ 0 ↔ MakesDatagram cfg ps := by
  induction ps with
  | nil => cases run
  | cons p ps ih =>
    have ended := clientLoop_ended init_even run
    have budget (ready : ¬ ClientState.init.sequence.toUInt64 ≥ packetBudget cfg p.nowMs) :
        packetBudget cfg p.nowMs ≠ 0 := fun none => ready (by simp [none])
    obtain ⟨on, wait, run⟩ | ⟨on, ready, -, run⟩ | ⟨on, ready, -, rfl⟩ | ⟨off, rfl⟩ :=
      clientLoop_cases run
    · have none : packetBudget cfg p.nowMs = 0 := UInt64.le_zero_iff.mp wait
      rw [ih run, MakesDatagram]
      simp [on, none]
    · have makes : MakesDatagram cfg (p :: ps) := ⟨on, .inl (budget ready)⟩
      have one := clientLoop_sent_le run
      simp only [ClientState.delivered, List.length_append, List.length_cons, List.length_nil] at one
      simp only [makes, iff_true]
      intro zero
      have val := congrArg UInt32.toNat zero
      rcases ended.sequence with seq | seq <;> rw [seq, UInt32.toNat_ofNat'] at val <;>
        simp only [UInt32.toNat_zero] at val <;> omega
    · have makes : MakesDatagram cfg (p :: ps) := ⟨on, .inl (budget ready)⟩
      have one : (ClientState.init.made p).sequence = 0 + 1 := rfl
      simp only [makes, iff_true, one]
      decide
    · simp [MakesDatagram, off, ClientState.init]

/-- What a finished client has sent. -/
lemma udpClient_sent {cfg : Config} {passes : List ClientPass} {t₁ t₂ : UInt32} {sent : ClientSent}
    (run : udpClient cfg passes t₁ t₂ = some sent) (small : sent.data.length < 2 ^ 31) :
    Numbered 0 sent.data ∧
      ∃ sequence, IsDatagram sent.final (-sequence) ∧ sequence.toNat ≤ 2 ^ 31 ∧
        (sequence ≠ 0 ↔ MakesDatagram cfg passes) ∧ (sequence = 0 → sent.data = []) := by
  unfold udpClient at run
  split at run
  · cases run
  · rename_i s loop
    cases run
    have ended := clientLoop_ended init_even loop
    have bound : s.sequence.toNat = s.sent.length ∨ s.sequence.toNat = s.sent.length + 1 := by
      simp only at small
      refine ended.sequence.imp (fun seq => ?_) (fun seq => ?_) <;>
        rw [seq, UInt32.toNat_ofNat'] <;> omega
    refine ⟨ended.numbered, s.sequence, isDatagram_encode ended.buffer .., ?_,
      clientLoop_sequence loop small, ?_⟩
    · simp only at small
      omega
    · intro zero
      rw [zero] at bound
      simp only [UInt32.toNat_zero] at bound
      change s.sent = []
      exact List.length_eq_zero_iff.mp (by omega)

/-! ## Counting at the server -/

/-- The server has counted `k` datagrams in order. -/
structure ServerState.Counts (s : ServerState) (k : Nat) : Prop where
  totalBytes : s.totalBytes.toNat = 1470 * k
  datagrams : s.datagrams.toNat = k
  errors : s.errors = 0
  outOfOrder : s.outOfOrder = 0
  expectedSequence : s.expectedSequence = UInt32.ofNat k

/-- Nothing has been received. -/
lemma init_counts (buffer : List UInt8) : (ServerState.init buffer).Counts 0 :=
  ⟨rfl, rfl, rfl, rfl, rfl⟩

/-- Counting the expected datagram. -/
lemma ServerState.Counts.next {s : ServerState} {k : Nat} (h : s.Counts k) (lt : k < 2 ^ 31 - 1) :
    (s.count (UInt32.ofNat k) wlhIperf2UdpSize).Counts (k + 1) := by
  have size : (UInt32.ofNat wlhIperf2UdpSize).toUInt64.toNat = 1470 := rfl
  refine ⟨?_, ?_, ?_, ?_, ?_⟩
  · simp only [ServerState.count, UInt64.toNat_add, h.totalBytes, size]
    omega
  · have one : (1 : UInt32).toNat = 1 := rfl
    simp only [ServerState.count, UInt32.toNat_add, h.datagrams, one]
    omega
  · simp [ServerState.count, h.expectedSequence, h.errors]
  · simp [ServerState.count, h.expectedSequence, h.outOfOrder]
  · simp only [ServerState.count, h.expectedSequence, ge_iff_le, le_refl, if_true, UInt32.ofNat_add]
    rfl

/-- A pass in which the server receives a datagram in time. -/
lemma serverLoop_datagram {cfg : Config} {p : ServerPass} {d : List UInt8} {sequence : UInt32}
    (on : p.goesOn cfg = true) (got : p.received = some d) (is : IsDatagram d sequence)
    (ps : List ServerPass) (s : ServerState) :
    ∃ tail : List UInt8,
      serverLoop cfg (p :: ps) s =
        if Word.IsNeg sequence then
          .reported ((wlhIperf2UdpServerReportEncode (d ++ tail) s.totalBytes p.duration s.errors
            s.outOfOrder s.datagrams).1.take wlhIperf2UdpServerReportSize) ps
        else serverLoop cfg ps ({ s with buffer := d ++ tail }.count sequence wlhIperf2UdpSize) := by
  obtain ⟨len, seconds, microseconds, decodes⟩ := is
  have whole : d.take wlhIperf2UdpSize = d := List.take_of_length_le len.le
  have nz : ¬ wlhIperf2UdpSize = 0 := by decide
  refine ⟨s.buffer.drop wlhIperf2UdpSize, ?_⟩
  rw [serverLoop, if_pos on, got]
  simp only [whole, len, if_neg nz, decodes]

/-- The server counts datagrams that arrive in order. -/
lemma serverLoop_numbered {cfg : Config} {pre : List ServerPass} {data : List (List UInt8)}
    {s : ServerState} {k : Nat} (on : ∀ p ∈ pre, p.goesOn cfg = true)
    (got : pre.filterMap ServerPass.received = data) (numbered : Numbered k data) (counts : s.Counts k)
    (small : k + data.length < 2 ^ 31) (rest : List ServerPass) :
    ∃ s', serverLoop cfg (pre ++ rest) s = serverLoop cfg rest s' ∧ s'.Counts (k + data.length) := by
  induction pre generalizing s k data with
  | nil =>
    cases got
    exact ⟨s, rfl, counts⟩
  | cons p pre ih =>
    have now := on p (by simp)
    have later : ∀ p ∈ pre, p.goesOn cfg = true := fun p mem => on p (by simp [mem])
    cases e : p.received with
    | none =>
      rw [List.filterMap_cons_none e] at got
      rw [List.cons_append, serverLoop, if_pos now, e]
      exact ih later got numbered counts small
    | some d =>
      rw [List.filterMap_cons_some e] at got
      subst got
      rw [List.length_cons] at small ⊢
      obtain ⟨tail, pass⟩ := serverLoop_datagram now e numbered.1 (pre ++ rest) s
      have pos : ¬ Word.IsNeg (UInt32.ofNat k) := by
        rw [Word.isNeg_iff, UInt32.toNat_ofNat']
        omega
      have next : ({ s with buffer := d ++ tail }.count (UInt32.ofNat k) wlhIperf2UdpSize).Counts
          (k + 1) := ServerState.Counts.next ⟨counts.1, counts.2, counts.3, counts.4, counts.5⟩ (by omega)
      rw [if_neg pos] at pass
      obtain ⟨s', loop, counts'⟩ := ih later rfl numbered.2 next (by omega)
      refine ⟨s', ?_, ?_⟩
      · rw [List.cons_append, pass, loop]
      · rwa [Nat.add_assoc, Nat.add_comm 1] at counts'

/-- What a pass of a server can do: end by the clock or the cancel flag, go on, or report. -/
lemma serverLoop_cases (cfg : Config) (p : ServerPass) (ps : List ServerPass) (s : ServerState) :
    (¬ p.goesOn cfg = true ∧ serverLoop cfg (p :: ps) s = .expired s) ∨
    (∃ s', serverLoop cfg (p :: ps) s = serverLoop cfg ps s') ∨
    (∃ report, serverLoop cfg (p :: ps) s = .reported report ps) := by
  rw [serverLoop]
  split
  · right
    split
    · exact .inl ⟨_, rfl⟩
    · simp only
      split
      · exact .inl ⟨_, rfl⟩
      · split
        · exact .inl ⟨_, rfl⟩
        · split
          · exact .inr ⟨_, rfl⟩
          · exact .inl ⟨_, rfl⟩
  · rename_i off
    exact .inl ⟨off, rfl⟩

/-- A report leaves fewer passes than there were. -/
lemma serverLoop_rest {cfg : Config} {ps rest : List ServerPass} {s : ServerState}
    {report : List UInt8} (h : serverLoop cfg ps s = .reported report rest) :
    rest.length < ps.length := by
  induction ps generalizing s with
  | nil => cases h
  | cons p ps ih =>
    rw [List.length_cons]
    obtain ⟨-, eq⟩ | ⟨s', eq⟩ | ⟨report', eq⟩ := serverLoop_cases cfg p ps s
    · rw [eq] at h
      cases h
    · rw [eq] at h
      exact (ih h).trans (Nat.lt_succ_self _)
    · rw [eq] at h
      cases h
      exact Nat.lt_succ_self _

/-! ## Agreement -/

/-- The passes run in time and receive exactly these datagrams, in this order. -/
structure Receives (cfg : Config) (passes : List ServerPass) (datagrams : List (List UInt8)) :
    Prop where
  inTime : ∀ p ∈ passes, p.goesOn cfg = true
  received : passes.filterMap ServerPass.received = datagrams

/-- The server stops at the pass before `rest`, and reports `n` full datagrams and no loss. -/
def StopsWith (result : ServerEnd) (rest : List ServerPass) (n : Nat) : Prop :=
  ∃ report, result = .reported report rest ∧ ReportCarries report (1470 * n) 0 0 n

/-- The negated counter is a negative number, unless it is zero. -/
lemma isNeg_neg {sequence : UInt32} (le : sequence.toNat ≤ 2 ^ 31) :
    Word.IsNeg (-sequence) ↔ sequence ≠ 0 := by
  have zero : sequence = 0 ↔ sequence.toNat = 0 := by
    rw [← UInt32.toNat_inj]
    rfl
  rw [Word.isNeg_iff, UInt32.toNat_neg, Ne, zero]
  simp only [UInt32.size]
  omega

/-- A client sends its datagrams and then the final one, and a server receives all of them in order
    and in time: the server stops at the final datagram with the right report exactly when the client
    has made a datagram at all. -/
theorem udp_agree (clientCfg serverCfg : Config) (clientPasses : List ClientPass) (t₁ t₂ : UInt32)
    (sent : ClientSent) (run : udpClient clientCfg clientPasses t₁ t₂ = some sent)
    (small : sent.data.length < 2 ^ 31) (buffer : List UInt8) (pre : List ServerPass)
    (last : ServerPass) (rest : List ServerPass) (data : Receives serverCfg pre sent.data)
    (final : Receives serverCfg [last] [sent.final]) :
    StopsWith (serverLoop serverCfg (pre ++ last :: rest) (.init buffer)) rest sent.data.length ↔
      MakesDatagram clientCfg clientPasses := by
  obtain ⟨numbered, sequence, isFinal, le, made, -⟩ := udpClient_sent run small
  have on : last.goesOn serverCfg = true := final.inTime last (by simp)
  have got : last.received = some sent.final := by
    have h := final.received
    cases e : last.received with
    | none => simp [e] at h
    | some d => simpa [e] using h
  obtain ⟨s, loop, counts⟩ := serverLoop_numbered data.inTime data.received numbered
    (init_counts buffer) (by omega) (last :: rest)
  obtain ⟨tail, pass⟩ := serverLoop_datagram on got isFinal rest s
  rw [Nat.zero_add] at counts
  rw [loop, pass, ← made, ← isNeg_neg le]
  by_cases neg : Word.IsNeg (-sequence)
  · rw [if_pos neg]
    have long : wlhIperf2UdpServerReportSize ≤ (sent.final ++ tail).length := by
      rw [List.length_append, isFinal.1]
      exact Nat.le_add_right_of_le (by decide)
    have carries := reportEncode_carries long s.totalBytes last.duration s.errors s.outOfOrder
      s.datagrams
    rw [counts.totalBytes, counts.errors, counts.outOfOrder, counts.datagrams] at carries
    simp only [neg, iff_true]
    exact ⟨_, by rw [counts.errors, counts.outOfOrder], carries⟩
  · rw [if_neg neg]
    simp only [neg, iff_false]
    rintro ⟨report, stop, -⟩
    exact absurd (serverLoop_rest stop) (Nat.lt_irrefl _)

/-- A datagram of a client in its first second. -/
def sampleDatagram (sequence microseconds : UInt32) : List UInt8 :=
  (wlhIperf2UdpHeaderEncode (List.replicate wlhIperf2UdpSize 0x5a) sequence 0 microseconds).1

/-- A client that is cancelled after its first datagram, and a server that times out once. -/
theorem udp_agree_one :
    StopsWith (serverLoop ⟨30, 20⟩
      ([⟨false, 0, some (sampleDatagram 0 10000), 0⟩, ⟨false, 0, none, 0⟩] ++
        [⟨false, 0, some (sampleDatagram (-1) 0), 0⟩]) (.init [])) [] 1 := by
  refine (udp_agree ⟨30, 20⟩ ⟨30, 20⟩ [⟨false, 10, 10, true⟩, ⟨true, 11, 11, true⟩] 0 0
    ⟨[sampleDatagram 0 10000], sampleDatagram (-1) 0⟩ ?_ ?_ [] _ _ [] ?_ ?_).mpr ?_
  · decide +kernel
  · exact (by decide : 1 < 2 ^ 31)
  · exact ⟨by decide, by simp only [List.filterMap_cons, List.filterMap_nil]⟩
  · exact ⟨by decide, by simp only [List.filterMap_cons, List.filterMap_nil]⟩
  · exact ⟨by decide, .inl (by decide)⟩

/-- The final datagram of a client that is cancelled before its first packet does not stop the
    server, which counts it and goes on. -/
theorem udp_disagree_cancelled :
    udpClient ⟨30, 20⟩ [⟨true, 0, 0, true⟩] 0 0 = some ⟨[], sampleDatagram 0 0⟩ ∧
      Receives ⟨30, 20⟩ [⟨false, 0, some (sampleDatagram 0 0), 0⟩] [sampleDatagram 0 0] ∧
      ¬ StopsWith (serverLoop ⟨30, 20⟩ [⟨false, 0, some (sampleDatagram 0 0), 0⟩] (.init [])) [] 0 := by
  refine ⟨by decide +kernel, ⟨by decide, rfl⟩, ?_⟩
  rintro ⟨report, stop, -⟩
  have goesOn : (match serverLoop ⟨30, 20⟩ [⟨false, 0, some (sampleDatagram 0 0), 0⟩] (.init []) with
      | .reported _ _ => true
      | _ => false) = false := by decide +kernel
  rw [stop] at goesOn
  cases goesOn

end WlhHpm.Iperf2

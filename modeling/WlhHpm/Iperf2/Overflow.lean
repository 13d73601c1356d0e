import WlhHpm.Iperf2.Accounting
import WlhHpm.Iperf2.Pacing

/-!
# Signed arithmetic of the UDP test

The sequence numbers of `udp_client` and `udp_server` are 32-bit signed integers, on which C leaves an
overflow undefined. There are three operations on them: the server computes `sequence - expected_sequence`
and `sequence + 1`, the client `-(int32_t)sequence` for the final datagram. `serverOps` and `clientOps`
list the operations that a run carries out, with the values of their operands.

While no operation has overflowed, `expected_sequence` is not negative, and the difference of two numbers
that are not negative fits. So the first overflow of a server is at a datagram with the number
`INT32_MAX`, whatever came before it. The client overflows when its counter is `2 ^ 31`, which is
`INT32_MIN` after the conversion (`signed_fits_iff`).
-/

namespace WlhHpm.Iperf2

/-- A signed operation of the source, with the values of its operands. -/
inductive SignedOp where
  | add (a b : Int)
  | sub (a b : Int)
  | neg (a : Int)
deriving DecidableEq

/-- The result over the integers. -/
def SignedOp.value : SignedOp → Int
  | .add a b => a + b
  | .sub a b => a - b
  | .neg a => -a

/-- The result is a 32-bit signed integer. -/
def SignedOp.Fits (op : SignedOp) : Prop := -2 ^ 31 ≤ op.value ∧ op.value < 2 ^ 31

instance (op : SignedOp) : Decidable op.Fits := inferInstanceAs (Decidable (_ ∧ _))

/-- No operation overflows. -/
def AllFit (ops : List SignedOp) : Prop := ∀ op ∈ ops, op.Fits

/-- Operations one after the other. -/
lemma allFit_append (ops ops' : List SignedOp) : AllFit (ops ++ ops') ↔ AllFit ops ∧ AllFit ops' :=
  List.forall_mem_append

/-! ## The operations of a run -/

/-- The operations of `udp_server` for a data datagram. -/
def ServerState.countOps (s : ServerState) (sequence : UInt32) : List SignedOp :=
  let sequence := Word.toInt sequence
  let expectedSequence := Word.toInt s.expectedSequence
  (if sequence < expectedSequence then []
    else if sequence > expectedSequence then [.sub sequence expectedSequence] else []) ++
    if sequence ≥ expectedSequence then [.add sequence 1] else []

/-- The operations of the loop of `udp_server`, pass by pass as in `serverLoop`. -/
def serverOps (cfg : Config) : List ServerPass → ServerState → List SignedOp
  | [], _ => []
  | p :: ps, s =>
    if p.goesOn cfg then
      match p.received with
      | none => serverOps cfg ps s
      | some datagram =>
        let received := (datagram.take wlhIperf2UdpSize).length
        let s := { s with buffer := datagram.take wlhIperf2UdpSize ++ s.buffer.drop received }
        if received = 0 then serverOps cfg ps s
        else
          match wlhIperf2UdpHeaderDecode s.buffer received with
          | none => serverOps cfg ps s
          | some (sequence, _, _) =>
            if Word.IsNeg sequence then []
            else s.countOps sequence ++ serverOps cfg ps (s.count sequence received)
    else []

/-- The operation of `udp_client` after its loop. -/
def clientOps (cfg : Config) (start : UInt32) (passes : List TimedPass) : List SignedOp :=
  match clientLoop cfg (passes.map (TimedPass.toPass start)) .init with
  | none => []
  | some s => [.neg (Word.toInt s.sequence)]

/-- The data datagrams that a server takes: those with a whole header that arrive in time and before
    the first one with a negative number. -/
def counted (cfg : Config) : List ServerPass → List (List UInt8)
  | [] => []
  | p :: ps =>
    if p.goesOn cfg then
      match p.received with
      | none => counted cfg ps
      | some d =>
        if d.length < wlhIperf2UdpHeaderSize then counted cfg ps
        else if Word.IsNeg (Word.be32 d 0) then []
        else d :: counted cfg ps
    else []

/-! ## The server -/

/-- A datagram without a whole header is dropped. -/
lemma serverOps_short {cfg : Config} {p : ServerPass} {d : List UInt8} (on : p.goesOn cfg = true)
    (got : p.received = some d) (short : d.length < wlhIperf2UdpHeaderSize) (ps : List ServerPass)
    (s : ServerState) :
    ∃ buffer, serverOps cfg (p :: ps) s = serverOps cfg ps { s with buffer := buffer } := by
  have size : receivedSize d < wlhIperf2UdpHeaderSize := by
    rw [receivedSize, List.length_take]
    omega
  refine ⟨d.take wlhIperf2UdpSize ++ s.buffer.drop (receivedSize d), ?_⟩
  rw [serverOps, if_pos on, got]
  simp only [← receivedSize.eq_1, wlhIperf2UdpHeaderDecode, if_pos size]
  split
  · rfl
  · rfl

/-- A datagram with a whole header. -/
lemma serverOps_datagram {cfg : Config} {p : ServerPass} {d : List UInt8} (on : p.goesOn cfg = true)
    (got : p.received = some d) (header : ¬ d.length < wlhIperf2UdpHeaderSize) (ps : List ServerPass)
    (s : ServerState) :
    ∃ buffer, serverOps cfg (p :: ps) s =
      if Word.IsNeg (Word.be32 d 0) then []
      else s.countOps (Word.be32 d 0) ++
        serverOps cfg ps ({ s with buffer := buffer }.count (Word.be32 d 0) (receivedSize d)) := by
  have size : ¬ receivedSize d < wlhIperf2UdpHeaderSize := by
    rw [receivedSize, List.length_take]
    simp only [wlhIperf2UdpHeaderSize, wlhIperf2UdpSize] at header ⊢
    omega
  have pos : ¬ receivedSize d = 0 := by
    intro zero
    exact size (zero ▸ by decide)
  refine ⟨d.take wlhIperf2UdpSize ++ s.buffer.drop (receivedSize d), ?_⟩
  rw [serverOps, if_pos on, got]
  simp only [← receivedSize.eq_1, wlhIperf2UdpHeaderDecode, if_neg size, if_neg pos,
    be32_take (Nat.not_lt.mp header)]
  rfl

/-- A word below 2^31 is not negative. -/
lemma toInt_of_lt {x : UInt32} (lt : x.toNat < 2 ^ 31) : Word.toInt x = x.toNat := by
  rw [Word.toInt, if_pos lt]

/-- Counting a datagram overflows exactly for the largest number. -/
lemma countOps_fit_iff {s : ServerState} {sequence : UInt32}
    (range : s.expectedSequence.toNat < 2 ^ 31) (pos : sequence.toNat < 2 ^ 31) :
    AllFit (s.countOps sequence) ↔ sequence.toNat ≠ 2 ^ 31 - 1 := by
  unfold AllFit ServerState.countOps
  simp only [toInt_of_lt range, toInt_of_lt pos]
  by_cases late : (sequence.toNat : Int) < s.expectedSequence.toNat
  · simp only [if_pos late, if_neg (not_le.mpr late), ge_iff_le, List.append_nil, List.not_mem_nil,
      false_implies, implies_true, true_iff]
    omega
  · have diff : ((.sub sequence.toNat s.expectedSequence.toNat : SignedOp)).Fits := by
      constructor <;> simp only [SignedOp.value] <;> omega
    have next : ((.add sequence.toNat 1 : SignedOp)).Fits ↔ sequence.toNat ≠ 2 ^ 31 - 1 := by
      simp only [SignedOp.Fits, SignedOp.value]
      omega
    rw [if_neg late, if_pos (not_lt.mp late)]
    split
    · rw [List.singleton_append, List.forall_mem_cons, List.forall_mem_singleton, next]
      exact ⟨fun h => h.2, fun h => ⟨diff, h⟩⟩
    · rw [List.nil_append, List.forall_mem_singleton, next]

/-- The expected number stays in range after any other number. -/
lemma count_in_range {s : ServerState} {sequence : UInt32} (range : s.expectedSequence.toNat < 2 ^ 31)
    (pos : sequence.toNat < 2 ^ 31) (ne : sequence.toNat ≠ 2 ^ 31 - 1) (received : Nat) :
    (s.count sequence received).expectedSequence.toNat < 2 ^ 31 := by
  unfold ServerState.count
  simp only
  split
  · rw [UInt32.toNat_add, UInt32.toNat_one]
    omega
  · exact range

/-- The server overflows exactly when it takes a datagram with the largest number. -/
lemma serverOps_fit_iff {cfg : Config} {ps : List ServerPass} {s : ServerState}
    (range : s.expectedSequence.toNat < 2 ^ 31) :
    AllFit (serverOps cfg ps s) ↔ ∀ d ∈ counted cfg ps, datagramId d ≠ 2 ^ 31 - 1 := by
  induction ps generalizing s with
  | nil => simp [AllFit, serverOps, counted]
  | cons p ps ih =>
    by_cases on : p.goesOn cfg = true
    · cases got : p.received with
      | none =>
        rw [serverOps, counted, if_pos on, if_pos on, got]
        exact ih range
      | some d =>
        rw [counted, if_pos on, got]
        by_cases short : d.length < wlhIperf2UdpHeaderSize
        · obtain ⟨buffer, eq⟩ := serverOps_short on got short ps s
          simp only [eq, if_pos short]
          exact ih range
        · obtain ⟨buffer, eq⟩ := serverOps_datagram on got short ps s
          simp only [eq, if_neg short]
          split
          · simp [AllFit]
          · rename_i notNeg
            rw [Word.isNeg_iff, Nat.not_le] at notNeg
            -- a run that has overflowed once is wrong on both sides, so the invariant is there
            -- whenever the induction hypothesis is needed
            rw [allFit_append, countOps_fit_iff range notNeg, List.forall_mem_cons]
            refine and_congr_right fun ne => ih ?_
            exact count_in_range range notNeg ne (receivedSize d)
    · rw [serverOps, counted, if_neg on, if_neg on]
      simp [AllFit]

/-! ## The client -/

/-- Negating a counter. -/
lemma neg_fits_iff {n : Nat} (lt : n < 2 ^ 32) :
    (SignedOp.neg (Word.toInt (UInt32.ofNat n))).Fits ↔ n ≠ 2 ^ 31 := by
  have word : (UInt32.ofNat n).toNat = n := by
    rw [UInt32.toNat_ofNat', Nat.mod_eq_of_lt lt]
  simp only [SignedOp.Fits, SignedOp.value, Word.toInt, word]
  split <;> omega

/-- A client that ends its loop after `n` data datagrams, the last of which may have failed. -/
structure EndsAfter (cfg : Config) (start : UInt32) (passes : List TimedPass) (n : Nat) : Prop where
  ends : (clientLoop cfg (passes.map (TimedPass.toPass start)) .init).isSome = true
  sends : (clientSends cfg start passes .init).length = n

/-- The client negates the number it has come to. -/
lemma clientOps_eq {cfg : Config} {start : UInt32} {passes : List TimedPass} {n : Nat}
    (after : EndsAfter cfg start passes n) :
    clientOps cfg start passes = [.neg (Word.toInt (UInt32.ofNat n))] := by
  obtain ⟨s, run⟩ := Option.isSome_iff_exists.mp after.ends
  have sequence := (clientLoop_sends run).2
  have counter : s.sequence = UInt32.ofNat n := by
    rw [sequence, after.sends]
    exact UInt32.zero_add _
  rw [clientOps, run, ← counter]

/-- No signed operation of a server and of a client overflows exactly when the server takes no data
    datagram with the number `INT32_MAX` and the client does not end after `2 ^ 31` datagrams. -/
theorem signed_fits_iff (serverCfg : Config) (buffer : List UInt8) (received : List ServerPass)
    (clientCfg : Config) (start : UInt32) (passes : List TimedPass) (n : Nat) (small : n < 2 ^ 32)
    (after : EndsAfter clientCfg start passes n) :
    AllFit (serverOps serverCfg received (.init buffer) ++ clientOps clientCfg start passes) ↔
      (∀ d ∈ counted serverCfg received, datagramId d ≠ 2 ^ 31 - 1) ∧ n ≠ 2 ^ 31 := by
  have range : (ServerState.init buffer).expectedSequence.toNat < 2 ^ 31 := Nat.two_pow_pos 31
  rw [allFit_append, serverOps_fit_iff range, clientOps_eq after, AllFit, List.forall_mem_singleton,
    neg_fits_iff small]

/-- A server that takes a datagram, and a client that is cancelled after its first one. -/
theorem signed_fits_one :
    AllFit (serverOps ⟨30, 20⟩ [⟨false, 0, some (sampleDatagram 7 0), 0⟩] (.init []) ++
      clientOps ⟨30, 20⟩ 0 (waitThenSend ++ [⟨true, 2, 2, 2, true⟩])) := by
  refine (signed_fits_iff ⟨30, 20⟩ [] _ ⟨30, 20⟩ 0 _ 1 (by decide) ⟨?_, ?_⟩).mpr ⟨?_, by decide⟩
  · decide +kernel
  · decide +kernel
  · decide +kernel

/-- A datagram with the number `INT32_MAX` makes the server overflow, and so does the next one, since
    the server then expects a negative number. -/
theorem signed_overflows_max :
    serverOps ⟨30, 20⟩ [⟨false, 0, some (sampleDatagram 0x7fffffff 0), 0⟩,
        ⟨false, 0, some (sampleDatagram 5 0), 0⟩] (.init []) =
      [.sub 2147483647 0, .add 2147483647 1, .sub 5 (-2147483648), .add 5 1] ∧
    ¬ (SignedOp.add 2147483647 1).Fits ∧ ¬ (SignedOp.sub 5 (-2147483648)).Fits ∧
    ¬ (SignedOp.neg (Word.toInt (UInt32.ofNat (2 ^ 31)))).Fits := by
  refine ⟨by decide +kernel, by decide, by decide, by decide⟩

end WlhHpm.Iperf2

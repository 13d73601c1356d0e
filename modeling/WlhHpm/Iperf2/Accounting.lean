import WlhHpm.Iperf2.Udp

/-!
# The accounts of the UDP server

The server counts a gap in the sequence numbers as errors when it sees it, and a datagram that comes
late as out of order. Neither number is the loss; their difference is. `Tally` is the invariant of the
loop of `udp_server` in terms of the datagrams received so far, and `udp_accounting` reads off what the
counters say at any time.
-/

namespace WlhHpm.Iperf2

/-- The sequence number in the header of a datagram. -/
def datagramId (d : List UInt8) : Nat := (Word.be32 d 0).toNat

/-- What `recvfrom` returns for a datagram: it is cut to the size of the buffer. -/
def receivedSize (d : List UInt8) : Nat := (d.take wlhIperf2UdpSize).length

/-- A data datagram: a whole header, and a number that `sequence + 1` does not take out of range. -/
structure IsData (d : List UInt8) : Prop where
  header : wlhIperf2UdpHeaderSize ≤ d.length
  id_le : datagramId d ≤ 2 ^ 31 - 2

/-- One more than the largest of the numbers, or zero if there is none. -/
def Next (ids : List Nat) (n : Nat) : Prop :=
  ids = [] ∧ n = 0 ∨ ∃ id ∈ ids, n = id + 1 ∧ ∀ id' ∈ ids, id' ≤ id

/-- What the counters of the server say about the datagrams received so far. -/
structure ServerState.Accounts (s : ServerState) (ds : List (List UInt8)) : Prop where
  balance : s.datagrams + s.errors - s.outOfOrder = s.expectedSequence
  expected : Next (ds.map datagramId) s.expectedSequence.toNat
  totalBytes : s.totalBytes = UInt64.ofNat (ds.map receivedSize).sum
  /-- If no number has come twice, the difference of the two counters is the loss. -/
  lost : (ds.map datagramId).Nodup →
    s.errors.toNat = s.outOfOrder.toNat +
      (Finset.range s.expectedSequence.toNat \ (ds.map datagramId).toFinset).card

/-! ## The invariant -/

/-- The invariant of the loop; `late` is the number of datagrams that came late. -/
structure Tally (s : ServerState) (ds : List (List UInt8)) (late : Nat) : Prop where
  datagrams : s.datagrams = UInt32.ofNat ds.length
  outOfOrder : s.outOfOrder = UInt32.ofNat late
  totalBytes : s.totalBytes = UInt64.ofNat (ds.map receivedSize).sum
  expected : Next (ds.map datagramId) s.expectedSequence.toNat
  in_range : s.expectedSequence.toNat < 2 ^ 31
  balance : s.errors.toNat + ds.length = late + s.expectedSequence.toNat
  errors_le : s.errors.toNat ≤ s.expectedSequence.toNat

/-- Nothing has been received. -/
lemma Tally.init (buffer : List UInt8) : Tally (.init buffer) [] 0 :=
  ⟨rfl, rfl, rfl, .inl ⟨rfl, rfl⟩, Nat.two_pow_pos 31, rfl, Nat.le_refl _⟩

/-- A number that is not above the largest one. -/
lemma Next.late {ids : List Nat} {n id : Nat} (next : Next ids n) (lt : id < n) :
    Next (ids ++ [id]) n := by
  rcases next with ⟨-, rfl⟩ | ⟨top, mem, rfl, most⟩
  · exact absurd lt (Nat.not_lt_zero _)
  · refine .inr ⟨top, List.mem_append_left _ mem, rfl, fun id' mem' => ?_⟩
    rcases List.mem_append.mp mem' with old | new
    · exact most id' old
    · rw [List.mem_singleton] at new
      omega

/-- A number above all others. -/
lemma Next.new {ids : List Nat} {n id : Nat} (next : Next ids n) (le : n ≤ id) :
    Next (ids ++ [id]) (id + 1) := by
  refine .inr ⟨id, List.mem_append_right _ (List.mem_singleton_self id), rfl, fun id' mem' => ?_⟩
  rcases List.mem_append.mp mem' with old | new
  · rcases next with ⟨rfl, -⟩ | ⟨top, -, rfl, most⟩
    · cases old
    · have := most id' old
      omega
  · exact (List.mem_singleton.mp new).le

/-- The next number is above all of the numbers. -/
lemma Next.lt {ids : List Nat} {n : Nat} (next : Next ids n) : ∀ id ∈ ids, id < n := by
  intro id mem
  rcases next with ⟨rfl, -⟩ | ⟨top, -, rfl, most⟩
  · cases mem
  · exact Nat.lt_succ_of_le (most id mem)

/-- One datagram. -/
lemma Tally.count {s : ServerState} {ds : List (List UInt8)} {late : Nat} (tally : Tally s ds late)
    {d : List UInt8} (data : IsData d) :
    ∃ late', Tally (s.count (Word.be32 d 0) (receivedSize d)) (ds ++ [d]) late' := by
  have id_le := data.id_le
  unfold datagramId at id_le
  have range := tally.in_range
  have balance := tally.balance
  have errors_le := tally.errors_le
  have seq : Word.toInt (Word.be32 d 0) = (Word.be32 d 0).toNat := by
    rw [Word.toInt, if_pos (by omega)]
  have exp : Word.toInt s.expectedSequence = s.expectedSequence.toNat := by
    rw [Word.toInt, if_pos range]
  have datagrams : s.datagrams + 1 = UInt32.ofNat (ds ++ [d]).length := by
    rw [tally.datagrams, List.length_append, UInt32.ofNat_add]
    rfl
  have bytes : s.totalBytes + (UInt32.ofNat (receivedSize d)).toUInt64 =
      UInt64.ofNat ((ds ++ [d]).map receivedSize).sum := by
    rw [tally.totalBytes, List.map_append, List.sum_append, UInt64.ofNat_add]
    congr 1
    apply UInt64.toNat_inj.mp
    have small : receivedSize d ≤ 1470 := by
      rw [receivedSize, List.length_take]
      exact Nat.min_le_left _ _
    simp only [UInt32.toNat_toUInt64, UInt32.toNat_ofNat', UInt64.toNat_ofNat', List.map_cons,
      List.map_nil, List.sum_cons, List.sum_nil]
    omega
  have ids : (ds ++ [d]).map datagramId = ds.map datagramId ++ [datagramId d] := List.map_append
  unfold ServerState.count
  simp only [seq, exp, gt_iff_lt, ge_iff_le, Nat.cast_lt, Nat.cast_le]
  by_cases lt : (Word.be32 d 0).toNat < s.expectedSequence.toNat
  · -- a late datagram was part of a gap, or is a duplicate
    simp only [if_pos lt, if_neg (not_le.mpr lt)]
    refine ⟨late + 1, datagrams, ?_, bytes, ?_, range, ?_, errors_le⟩
    · rw [tally.outOfOrder, UInt32.ofNat_add]
      rfl
    · rw [ids]
      exact tally.expected.late lt
    · rw [List.length_append, List.length_singleton]
      simp only
      omega
  · -- the gap before this datagram, which may be empty, goes to the errors
    have next : (Word.be32 d 0 + 1).toNat = (Word.be32 d 0).toNat + 1 := by
      rw [UInt32.toNat_add, UInt32.toNat_one]
      omega
    have gap : (if s.expectedSequence.toNat < (Word.be32 d 0).toNat then
        s.errors + (Word.be32 d 0 - s.expectedSequence) else s.errors).toNat =
          s.errors.toNat + ((Word.be32 d 0).toNat - s.expectedSequence.toNat) := by
      split
      · rw [UInt32.toNat_add, UInt32.toNat_sub_of_le _ _ (UInt32.le_iff_toNat_le.mpr (by omega))]
        omega
      · omega
    simp only [if_neg lt, if_pos (not_lt.mp lt)]
    refine ⟨late, datagrams, tally.outOfOrder, bytes, ?_, ?_, ?_, ?_⟩
    · rw [ids, next]
      exact tally.expected.new (not_lt.mp lt)
    · rw [next]
      omega
    · rw [List.length_append, List.length_singleton]
      simp only [next, gap]
      omega
    · simp only [next, gap]
      omega

/-- The number is read from the datagram, not from what an earlier one has left in the buffer. -/
lemma be32_take {d : List UInt8} (header : wlhIperf2UdpHeaderSize ≤ d.length) (tail : List UInt8) :
    Word.be32 (d.take wlhIperf2UdpSize ++ tail) 0 = Word.be32 d 0 := by
  have byte (j : Nat) (lt : j < 4) : (d.take wlhIperf2UdpSize ++ tail).getD j 0 = d.getD j 0 := by
    have long : j < (d.take wlhIperf2UdpSize).length := by
      simp only [wlhIperf2UdpHeaderSize] at header
      simp only [List.length_take, wlhIperf2UdpSize]
      omega
    rw [List.getD_eq_getElem?_getD, List.getElem?_append_left long, List.getElem?_take,
      if_pos (by simp only [wlhIperf2UdpSize]; omega), ← List.getD_eq_getElem?_getD]
  simp only [Word.be32, byte 0 (by decide), byte 1 (by decide), byte 2 (by decide),
    byte 3 (by decide)]

/-- A pass in which the server receives a data datagram in time. -/
lemma serverLoop_data {cfg : Config} {p : ServerPass} {d : List UInt8} (on : p.goesOn cfg = true)
    (got : p.received = some d) (data : IsData d) (s : ServerState) :
    ∃ buffer, ∀ ps, serverLoop cfg (p :: ps) s =
      serverLoop cfg ps ({ s with buffer := buffer }.count (Word.be32 d 0) (receivedSize d)) := by
  have header := data.header
  have id_le := data.id_le
  have size : receivedSize d = min wlhIperf2UdpSize d.length := List.length_take
  unfold datagramId at id_le
  simp only [wlhIperf2UdpHeaderSize] at header
  simp only [wlhIperf2UdpSize] at size
  have pos : ¬ Word.IsNeg (Word.be32 d 0) := by
    rw [Word.isNeg_iff]
    omega
  refine ⟨d.take wlhIperf2UdpSize ++ s.buffer.drop (receivedSize d), fun ps => ?_⟩
  rw [serverLoop, if_pos on, got]
  simp only [← receivedSize.eq_1, wlhIperf2UdpHeaderDecode, wlhIperf2UdpHeaderSize]
  rw [if_neg (by omega), if_neg (by omega)]
  simp only [be32_take data.header, if_neg pos]

/-- Passes in time that receive data datagrams. -/
lemma serverLoop_tally {cfg : Config} {passes : List ServerPass} {s : ServerState}
    {before ds : List (List UInt8)} {late : Nat} (got : Receives cfg passes ds)
    (data : ∀ d ∈ ds, IsData d) (tally : Tally s before late) :
    ∃ s' late', Tally s' (before ++ ds) late' ∧
      ∀ rest, serverLoop cfg (passes ++ rest) s = serverLoop cfg rest s' := by
  obtain ⟨inTime, received⟩ := got
  induction passes generalizing s before ds late with
  | nil =>
    cases received
    rw [List.filterMap_nil, List.append_nil]
    exact ⟨s, late, tally, fun _ => rfl⟩
  | cons p passes ih =>
    have now := inTime p List.mem_cons_self
    have later : ∀ p ∈ passes, p.goesOn cfg = true := fun p mem => inTime p (List.mem_cons_of_mem _ mem)
    cases e : p.received with
    | none =>
      rw [List.filterMap_cons_none e] at received
      obtain ⟨s', late', tally', loop⟩ := ih data tally later received
      refine ⟨s', late', tally', fun rest => ?_⟩
      rw [List.cons_append, serverLoop, if_pos now, e]
      exact loop rest
    | some d =>
      rw [List.filterMap_cons_some e] at received
      subst received
      obtain ⟨buffer, pass⟩ := serverLoop_data now e (data d List.mem_cons_self) s
      have buffered : Tally { s with buffer := buffer } before late := { tally with }
      obtain ⟨late₁, counted⟩ := buffered.count (data d List.mem_cons_self)
      obtain ⟨s', late', tally', loop⟩ :=
        ih (fun d mem => data d (List.mem_cons_of_mem _ mem)) counted later rfl
      refine ⟨s', late', ?_, fun rest => ?_⟩
      · rwa [List.append_assoc] at tally'
      · rw [List.cons_append, pass, loop rest]

/-! ## The counters -/

/-- Numbers below `n` that have not come. -/
lemma missing_card {ids : List Nat} {n : Nat} (below : ∀ id ∈ ids, id < n) (nodup : ids.Nodup) :
    (Finset.range n \ ids.toFinset).card + ids.length = n := by
  have sub : ids.toFinset ⊆ Finset.range n := by
    intro id mem
    exact Finset.mem_range.mpr (below id (List.mem_toFinset.mp mem))
  have card := Finset.card_sdiff_add_card_eq_card sub
  rwa [List.toFinset_card_of_nodup nodup, Finset.card_range] at card

/-- The invariant has what is asked of the counters. -/
lemma Tally.accounts {s : ServerState} {ds : List (List UInt8)} {late : Nat} (tally : Tally s ds late) :
    s.Accounts ds := by
  have balance := tally.balance
  refine ⟨?_, tally.expected, tally.totalBytes, fun nodup => ?_⟩
  · apply UInt32.toNat_inj.mp
    rw [UInt32.toNat_sub, UInt32.toNat_add, tally.datagrams, tally.outOfOrder, UInt32.toNat_ofNat',
      UInt32.toNat_ofNat']
    have lt := tally.in_range
    omega
  · have card := missing_card tally.expected.lt nodup
    rw [List.length_map] at card
    have range := tally.in_range
    have errors_le := tally.errors_le
    rw [tally.outOfOrder, UInt32.toNat_ofNat']
    omega

/-- Whatever data datagrams the server has received in time, in any order and with any losses and
    duplicates, its loop goes on with counters that account for them. -/
theorem udp_accounting (cfg : Config) (buffer : List UInt8) (passes : List ServerPass)
    (ds : List (List UInt8)) (got : Receives cfg passes ds) (data : ∀ d ∈ ds, IsData d) :
    ∃ s, s.Accounts ds ∧
      ∀ rest, serverLoop cfg (passes ++ rest) (.init buffer) = serverLoop cfg rest s := by
  obtain ⟨s, late, tally, loop⟩ := serverLoop_tally got data (.init buffer)
  exact ⟨s, tally.accounts, loop⟩

/-- Two datagrams that arrive in the wrong order, and a timeout. -/
theorem udp_accounting_reordered :
    ∃ s : ServerState, s.Accounts [sampleDatagram 2 0, sampleDatagram 0 0] ∧
      ∀ rest, serverLoop ⟨30, 20⟩ ([⟨false, 0, some (sampleDatagram 2 0), 0⟩, ⟨false, 0, none, 0⟩,
        ⟨false, 0, some (sampleDatagram 0 0), 0⟩] ++ rest) (.init []) =
          serverLoop ⟨30, 20⟩ rest s := by
  refine udp_accounting ⟨30, 20⟩ [] _ _ ⟨?_, ?_⟩ ?_
  · simp only [List.forall_mem_cons, List.not_mem_nil, false_implies, implies_true, and_true]
    decide
  · simp only [List.filterMap_cons, List.filterMap_nil]
  · simp only [List.forall_mem_cons, List.not_mem_nil, false_implies, implies_true, and_true]
    exact ⟨⟨by decide +kernel, by decide +kernel⟩, ⟨by decide +kernel, by decide +kernel⟩⟩

end WlhHpm.Iperf2

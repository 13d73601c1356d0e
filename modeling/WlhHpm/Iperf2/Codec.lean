import WlhHpm.Iperf2.Proto

/-!
# The UDP headers on machines of either byte order

`Iperf2.Proto` says which bytes the functions of `wlh_rtt_iperf2_proto.c` write and read in network
order. Here they are taken as they are written: the words go through `htonl` into an array of words,
which is copied byte by byte as the machine keeps it, and come back the same way.

There are two versions of `htonl` in the tree. The one of lwIP (`lwip/def.h`) does nothing on a big-endian
machine; the one of `netdev_ipaddr.h` always swaps the bytes. `udp_codec` holds for both of them on
either machine: headers and reports are read back as they were written, and nothing else in the buffer
changes. Where `htonl` gives network order, these functions are those of `Iperf2.Proto`
(`Host.headerEncode_eq`, `Host.headerDecode_eq`, `Host.reportEncode_eq`).
-/

namespace WlhHpm.Iperf2

/-- Which header `htonl` comes from. -/
inductive Conversion where
  | lwip
  | netdev
deriving DecidableEq, Repr

/-- A machine with its library. -/
structure Host where
  order : Word.ByteOrder
  conversion : Conversion
deriving DecidableEq, Repr

/-- The macro `PP_HTONL` of `netdev_ipaddr.h`, and of lwIP on a little-endian machine. -/
def ppHtonl (x : UInt32) : UInt32 :=
  ((x &&& 0x000000ff) <<< 24) ||| ((x &&& 0x0000ff00) <<< 8) ||| ((x &&& 0x00ff0000) >>> 8) |||
    ((x &&& 0xff000000) >>> 24)

namespace Host

/-- C `htonl`. -/
def htonl (h : Host) (x : UInt32) : UInt32 :=
  match h.conversion, h.order with
  | .lwip, .big => x
  | _, _ => ppHtonl x

/-- C `ntohl`, which both headers define as `htonl`. -/
def ntohl (h : Host) (x : UInt32) : UInt32 := h.htonl x

/-- Copy an array of words to offset `a` of a buffer. -/
def copyFields (h : Host) (buffer : List UInt8) (a : Nat) (fields : List UInt32) : List UInt8 :=
  buffer.take a ++ (fields.flatMap h.order.bytes ++ buffer.drop (a + 4 * fields.length))

/-- C `wlh_iperf2_udp_header_encode`. -/
def wlhIperf2UdpHeaderEncode (h : Host) (buffer : List UInt8) (sequence : Int32)
    (seconds microseconds : UInt32) : List UInt8 × Int :=
  if buffer.length < wlhIperf2UdpHeaderSize then (buffer, -1)
  else
    (h.copyFields buffer 0 [h.htonl sequence.toUInt32, h.htonl seconds, h.htonl microseconds], 0)

/-- C `wlh_iperf2_udp_header_decode` for a datagram of `size` bytes. -/
def wlhIperf2UdpHeaderDecode (h : Host) (buffer : List UInt8) (size : Nat) :
    Option (Int32 × UInt32 × UInt32) :=
  if size < wlhIperf2UdpHeaderSize then none
  else
    some ((h.ntohl (h.order.word buffer 0)).toInt32, h.ntohl (h.order.word buffer 4),
      h.ntohl (h.order.word buffer 8))

end Host

/-- The five values of a server report. -/
structure ServerReport where
  totalBytes : UInt64
  elapsedMs : UInt32
  errors : UInt32
  outOfOrder : UInt32
  datagrams : UInt32
deriving DecidableEq, Repr

namespace Host

/-- The array of words of `wlh_iperf2_udp_server_report_encode`. -/
def reportWords (h : Host) (r : ServerReport) : List UInt32 :=
  [h.htonl 0x80000000, h.htonl (r.totalBytes >>> 32).toUInt32, h.htonl r.totalBytes.toUInt32,
    h.htonl (r.elapsedMs / 1000), h.htonl (r.elapsedMs % 1000 * 1000), h.htonl r.errors,
    h.htonl r.outOfOrder, h.htonl r.datagrams, 0, 0]

/-- C `wlh_iperf2_udp_server_report_encode`. -/
def wlhIperf2UdpServerReportEncode (h : Host) (buffer : List UInt8) (r : ServerReport) :
    List UInt8 × Int :=
  if buffer.length < wlhIperf2UdpServerReportSize then (buffer, -1)
  else (h.copyFields buffer wlhIperf2UdpHeaderSize (h.reportWords r), 0)

/-- The values that a report carries, as its receiver finds them. -/
def readReport (h : Host) (buffer : List UInt8) : ServerReport :=
  let field (k : Nat) := h.ntohl (h.order.word buffer (wlhIperf2UdpHeaderSize + 4 * k))
  { totalBytes := UInt64.ofNat ((field 1).toNat * 2 ^ 32 + (field 2).toNat)
    elapsedMs := UInt32.ofNat ((field 3).toNat * 1000 + (field 4).toNat / 1000)
    errors := field 5
    outOfOrder := field 6
    datagrams := field 7 }

/-! ## The conversion -/

end Host

/-- The bytes of a word in reverse order. -/
lemma ppHtonl_toNat (x : UInt32) : (ppHtonl x).toNat =
    ((x.toNat % 256 * 256 + x.toNat / 256 % 256) * 256 + x.toNat / 65536 % 256) * 256 +
      x.toNat / 16777216 := by
  have lt := x.toNat_lt
  have byte₀ : (x &&& 0x000000ff).toNat <<< 24 % 2 ^ 32 = (x.toNat % 256) <<< 24 := by
    rw [UInt32.toNat_and, show (0x000000ff : UInt32).toNat = 255 * 2 ^ 0 from rfl, Word.and_byte]
    simp only [Nat.shiftLeft_eq]
    omega
  have byte₁ : (x &&& 0x0000ff00).toNat <<< 8 % 2 ^ 32 = (x.toNat / 256 % 256) <<< 16 := by
    rw [UInt32.toNat_and, show (0x0000ff00 : UInt32).toNat = 255 * 2 ^ 8 from rfl, Word.and_byte]
    simp only [Nat.shiftLeft_eq]
    omega
  have byte₂ : (x &&& 0x00ff0000).toNat >>> 8 = (x.toNat / 65536 % 256) <<< 8 := by
    rw [UInt32.toNat_and, show (0x00ff0000 : UInt32).toNat = 255 * 2 ^ 16 from rfl, Word.and_byte]
    simp only [Nat.shiftLeft_eq, Nat.shiftRight_eq_div_pow]
    omega
  have byte₃ : (x &&& 0xff000000).toNat >>> 24 = x.toNat / 16777216 := by
    rw [UInt32.toNat_and, show (0xff000000 : UInt32).toNat = 255 * 2 ^ 24 from rfl, Word.and_byte]
    simp only [Nat.shiftRight_eq_div_pow]
    omega
  rw [ppHtonl, UInt32.toNat_or, UInt32.toNat_or, UInt32.toNat_or, UInt32.toNat_shiftLeft,
    UInt32.toNat_shiftLeft, UInt32.toNat_shiftRight, UInt32.toNat_shiftRight]
  rw [show (24 : UInt32).toNat % 32 = 24 from rfl, show (8 : UInt32).toNat % 32 = 8 from rfl, byte₀,
    byte₁, byte₂, byte₃]
  exact Word.or_bytes (by omega) (by omega) (by omega)

/-- The bytes of a word after the conversion are those before it, the other way round. -/
lemma be32Bytes_ppHtonl (x : UInt32) : Word.be32Bytes (ppHtonl x) = Word.le32Bytes x := by
  apply Word.be32Bytes_eq
  have lt := x.toNat_lt
  rw [ppHtonl_toNat]
  simp only [UInt8.toNat_ofNat']
  omega

/-- Swapped bytes are in network order on a little-endian machine. -/
lemma le32Bytes_ppHtonl (x : UInt32) : Word.le32Bytes (ppHtonl x) = Word.be32Bytes x :=
  List.reverse_inj.mp ((be32Bytes_ppHtonl x).trans (List.reverse_reverse _).symm)

/-- Bytes that are swapped twice are as before. -/
lemma ppHtonl_ppHtonl (x : UInt32) : ppHtonl (ppHtonl x) = x := by
  apply Word.be32Bytes_inj
  rw [be32Bytes_ppHtonl, le32Bytes_ppHtonl]

namespace Host

/-- `ntohl` undoes `htonl`. -/
@[simp] lemma ntohl_htonl (h : Host) (x : UInt32) : h.ntohl (h.htonl x) = x := by
  obtain ⟨order, conversion⟩ := h
  cases conversion with
  | lwip =>
    cases order with
    | little => exact ppHtonl_ppHtonl x
    | big => rfl
  | netdev => exact ppHtonl_ppHtonl x

/-- `htonl` undoes `ntohl`. -/
@[simp] lemma htonl_ntohl (h : Host) (x : UInt32) : h.htonl (h.ntohl x) = x := h.ntohl_htonl x

/-! ## Copying words -/

/-- Fields are stored inside the buffer. -/
lemma copyFields_length (h : Host) {buffer : List UInt8} {a : Nat} {fields : List UInt32}
    (le : a + 4 * fields.length ≤ buffer.length) :
    (h.copyFields buffer a fields).length = buffer.length := by
  rw [copyFields, List.length_append, List.length_append, Word.ByteOrder.length_flatMap_bytes,
    List.length_take, List.length_drop]
  omega

/-- Nothing changes before the words. -/
lemma copyFields_take (h : Host) {buffer : List UInt8} {a : Nat} (fields : List UInt32)
    (le : a ≤ buffer.length) : (h.copyFields buffer a fields).take a = buffer.take a :=
  List.take_left' (List.length_take_of_le le)

/-- Nothing changes behind them. -/
lemma copyFields_drop (h : Host) {buffer : List UInt8} {a : Nat} {fields : List UInt32}
    (le : a + 4 * fields.length ≤ buffer.length) :
    (h.copyFields buffer a fields).drop (a + 4 * fields.length) =
      buffer.drop (a + 4 * fields.length) := by
  rw [copyFields, ← List.append_assoc]
  apply List.drop_left'
  rw [List.length_append, Word.ByteOrder.length_flatMap_bytes, List.length_take_of_le (by omega)]

/-- A word is read back from where it was copied to. -/
lemma word_copyFields (h : Host) {buffer : List UInt8} {a k : Nat} {fields : List UInt32}
    (le : a ≤ buffer.length) (lt : k < fields.length) :
    h.order.word (h.copyFields buffer a fields) (a + 4 * k) = fields[k] :=
  h.order.word_flatMap _ _ fields lt (by rw [List.length_take_of_le le])

/-! ## Round trips -/

/-- The header is stored in a buffer that has room for it. -/
lemma headerEncode_of_le (h : Host) {buffer : List UInt8}
    (long : wlhIperf2UdpHeaderSize ≤ buffer.length) (sequence : Int32) (seconds microseconds : UInt32) :
    h.wlhIperf2UdpHeaderEncode buffer sequence seconds microseconds =
      (h.copyFields buffer 0 [h.htonl sequence.toUInt32, h.htonl seconds, h.htonl microseconds], 0) :=
  if_neg (Nat.not_lt.mpr long)

/-- The report is stored in a buffer that has room for it. -/
lemma reportEncode_of_le (h : Host) {buffer : List UInt8}
    (long : wlhIperf2UdpServerReportSize ≤ buffer.length) (r : ServerReport) :
    h.wlhIperf2UdpServerReportEncode buffer r =
      (h.copyFields buffer wlhIperf2UdpHeaderSize (h.reportWords r), 0) :=
  if_neg (Nat.not_lt.mpr long)

/-- A header is read back. -/
lemma headerDecode_copyFields (h : Host) (buffer : List UInt8) (sequence : Int32)
    (seconds microseconds : UInt32) {size : Nat} (enough : wlhIperf2UdpHeaderSize ≤ size) :
    h.wlhIperf2UdpHeaderDecode
        (h.copyFields buffer 0 [h.htonl sequence.toUInt32, h.htonl seconds, h.htonl microseconds])
        size = some (sequence, seconds, microseconds) := by
  have field (k : Nat) (lt : k < 3) := @word_copyFields h buffer 0 k
    [h.htonl sequence.toUInt32, h.htonl seconds, h.htonl microseconds] (Nat.zero_le _) lt
  have first := field 0 (by decide)
  have second := field 1 (by decide)
  have third := field 2 (by decide)
  simp only [Nat.zero_add, Nat.mul_zero, Nat.mul_one, Nat.reduceMul, List.getElem_cons_zero,
    List.getElem_cons_succ] at first second third
  rw [wlhIperf2UdpHeaderDecode, if_neg (Nat.not_lt.mpr enough), first, second, third]
  simp only [ntohl_htonl, Int32.toInt32_toUInt32]

/-- Bytes that were read as a header are written back. -/
lemma headerEncode_decode (h : Host) {bytes buffer : List UInt8}
    (len : bytes.length = wlhIperf2UdpHeaderSize) (long : wlhIperf2UdpHeaderSize ≤ buffer.length) :
    ∃ sequence seconds microseconds,
      h.wlhIperf2UdpHeaderDecode bytes bytes.length = some (sequence, seconds, microseconds) ∧
        (h.wlhIperf2UdpHeaderEncode buffer sequence seconds microseconds).1.take
          wlhIperf2UdpHeaderSize = bytes := by
  obtain ⟨ws, count, rfl⟩ := h.order.exists_words 3 len
  obtain ⟨w₀, w₁, w₂, rfl⟩ := List.length_eq_three.mp count
  have field (k : Nat) (lt : k < 3) := h.order.word_flatMap [] [] [w₀, w₁, w₂] lt rfl
  have first := field 0 (by decide)
  have second := field 1 (by decide)
  have third := field 2 (by decide)
  simp only [List.append_nil, List.nil_append, List.length_nil, Nat.zero_add, Nat.mul_zero,
    Nat.mul_one, Nat.reduceMul, List.getElem_cons_zero, List.getElem_cons_succ] at first second third
  refine ⟨(h.ntohl w₀).toInt32, h.ntohl w₁, h.ntohl w₂, ?_, ?_⟩
  · rw [wlhIperf2UdpHeaderDecode, if_neg (by omega), first, second, third]
  · rw [h.headerEncode_of_le long]
    simp only [UInt32.toUInt32_toInt32, htonl_ntohl]
    exact List.take_left' len

/-- The values of a report are found in it again. -/
lemma readReport_copyFields (h : Host) {buffer : List UInt8}
    (long : wlhIperf2UdpHeaderSize ≤ buffer.length) (r : ServerReport) :
    h.readReport (h.copyFields buffer wlhIperf2UdpHeaderSize (h.reportWords r)) = r := by
  have field (k : Nat) (lt : k < 10) := @word_copyFields h buffer _ k (h.reportWords r) long lt
  have bytes_lt := r.totalBytes.toNat_lt
  have elapsed_lt := r.elapsedMs.toNat_lt
  unfold readReport
  simp only [field 1 (by decide), field 2 (by decide), field 3 (by decide), field 4 (by decide),
    field 5 (by decide), field 6 (by decide), field 7 (by decide)]
  simp only [reportWords, List.getElem_cons_zero, List.getElem_cons_succ, ntohl_htonl]
  have high : (r.totalBytes >>> 32).toNat = r.totalBytes.toNat / 2 ^ 32 := by
    rw [UInt64.toNat_shiftRight, Nat.shiftRight_eq_div_pow]
    rfl
  have total : UInt64.ofNat ((r.totalBytes >>> 32).toUInt32.toNat * 2 ^ 32 +
      r.totalBytes.toUInt32.toNat) = r.totalBytes := by
    apply UInt64.toNat_inj.mp
    rw [UInt64.toNat_ofNat', UInt64.toNat_toUInt32, UInt64.toNat_toUInt32, high]
    omega
  have elapsed : UInt32.ofNat ((r.elapsedMs / 1000).toNat * 1000 +
      (r.elapsedMs % 1000 * 1000).toNat / 1000) = r.elapsedMs := by
    apply UInt32.toNat_inj.mp
    rw [UInt32.toNat_ofNat', UInt32.toNat_div, UInt32.toNat_mul, UInt32.toNat_mod]
    change (r.elapsedMs.toNat / 1000 * 1000 +
      r.elapsedMs.toNat % 1000 * 1000 % 2 ^ 32 / 1000) % 2 ^ 32 = _
    have micros : r.elapsedMs.toNat % 1000 * 1000 % 2 ^ 32 / 1000 = r.elapsedMs.toNat % 1000 := by
      rw [Nat.mod_eq_of_lt (by omega), Nat.mul_div_cancel _ (by decide)]
    omega
  rw [total, elapsed]

end Host

/-- What the codec promises on a machine. -/
structure CodecRight (h : Host) : Prop where
  /-- A header is read back, and only the first 12 bytes of the buffer change. -/
  header_read_back : ∀ (buffer : List UInt8) (sequence : Int32) (seconds microseconds : UInt32),
    wlhIperf2UdpHeaderSize ≤ buffer.length →
      ∃ encoded, h.wlhIperf2UdpHeaderEncode buffer sequence seconds microseconds = (encoded, 0) ∧
        h.wlhIperf2UdpHeaderDecode encoded encoded.length = some (sequence, seconds, microseconds) ∧
        encoded.length = buffer.length ∧
        encoded.drop wlhIperf2UdpHeaderSize = buffer.drop wlhIperf2UdpHeaderSize
  /-- Any 12 bytes are a header, and are written back as they were. -/
  header_written_back : ∀ bytes buffer : List UInt8, bytes.length = wlhIperf2UdpHeaderSize →
    wlhIperf2UdpHeaderSize ≤ buffer.length →
      ∃ sequence seconds microseconds,
        h.wlhIperf2UdpHeaderDecode bytes bytes.length = some (sequence, seconds, microseconds) ∧
          (h.wlhIperf2UdpHeaderEncode buffer sequence seconds microseconds).1.take
            wlhIperf2UdpHeaderSize = bytes
  /-- A report leaves the header and what is behind it, and carries its five values. -/
  report_read_back : ∀ (buffer : List UInt8) (r : ServerReport),
    wlhIperf2UdpServerReportSize ≤ buffer.length →
      ∃ encoded, h.wlhIperf2UdpServerReportEncode buffer r = (encoded, 0) ∧
        encoded.length = buffer.length ∧
        encoded.take wlhIperf2UdpHeaderSize = buffer.take wlhIperf2UdpHeaderSize ∧
        encoded.drop wlhIperf2UdpServerReportSize = buffer.drop wlhIperf2UdpServerReportSize ∧
        h.readReport encoded = r

/-- Headers and reports on a machine of either byte order, with either version of `htonl`. -/
theorem udp_codec (h : Host) : CodecRight h where
  header_read_back buffer sequence seconds microseconds long := by
    have le : 0 + 4 * [h.htonl sequence.toUInt32, h.htonl seconds, h.htonl microseconds].length ≤
        buffer.length := long
    refine ⟨_, h.headerEncode_of_le long sequence seconds microseconds, ?_, ?_, ?_⟩
    · apply h.headerDecode_copyFields
      rw [h.copyFields_length le]
      exact long
    · exact h.copyFields_length le
    · exact h.copyFields_drop le
  header_written_back bytes buffer len long := h.headerEncode_decode len long
  report_read_back buffer r long := by
    have le : wlhIperf2UdpHeaderSize + 4 * (h.reportWords r).length ≤ buffer.length := long
    have header : wlhIperf2UdpHeaderSize ≤ buffer.length := (Nat.le_add_right _ _).trans le
    refine ⟨_, h.reportEncode_of_le long r, h.copyFields_length le, h.copyFields_take _ header, ?_, ?_⟩
    · exact h.copyFields_drop le
    · exact h.readReport_copyFields header r

/-! ## Network order -/

/-- `htonl` gives network order: the bytes of `netdev_ipaddr.h` are swapped once too often on a
    big-endian machine. -/
def Host.NetworkOrder (h : Host) : Prop := h.conversion = .lwip ∨ h.order = .little

namespace Host

/-- A word in network order is in memory with its most significant byte first. -/
lemma bytes_htonl {h : Host} (order : h.NetworkOrder) (x : UInt32) :
    h.order.bytes (h.htonl x) = Word.be32Bytes x := by
  obtain ⟨o, c⟩ := h
  cases o with
  | little =>
    cases c with
    | lwip => exact le32Bytes_ppHtonl x
    | netdev => exact le32Bytes_ppHtonl x
  | big =>
    rcases order with rfl | little
    · rfl
    · cases little

/-- A word in network order is read from memory. -/
lemma ntohl_word {h : Host} (order : h.NetworkOrder) (l : List UInt8) (a : Nat) :
    h.ntohl (h.order.word l a) = Word.be32 l a := by
  obtain ⟨o, c⟩ := h
  have swapped : ppHtonl (Word.le32 (Mem.ofList l) a) = Word.be32 l a := by
    apply Word.be32Bytes_inj
    rw [be32Bytes_ppHtonl, Word.le32Bytes_le32, Word.be32Bytes_be32]
    rfl
  cases o with
  | little =>
    cases c with
    | lwip => exact swapped
    | netdev => exact swapped
  | big =>
    rcases order with rfl | little
    · rfl
    · cases little

/-- Where `htonl` gives network order, the header is that of `Iperf2.Proto`. -/
theorem headerEncode_eq {h : Host} (order : h.NetworkOrder) (buffer : List UInt8) (sequence : Int32)
    (seconds microseconds : UInt32) :
    h.wlhIperf2UdpHeaderEncode buffer sequence seconds microseconds =
      Iperf2.wlhIperf2UdpHeaderEncode buffer sequence.toUInt32 seconds microseconds := by
  unfold Host.wlhIperf2UdpHeaderEncode Iperf2.wlhIperf2UdpHeaderEncode
  split
  · rfl
  · simp only [copyFields, List.flatMap_cons, List.flatMap_nil, bytes_htonl order, List.take_zero,
      List.nil_append]
    rfl

/-- A header is read as in `Iperf2.Proto`. -/
theorem headerDecode_eq {h : Host} (order : h.NetworkOrder) (buffer : List UInt8) (size : Nat) :
    (h.wlhIperf2UdpHeaderDecode buffer size).map (fun (sequence, times) => (sequence.toUInt32, times)) =
      Iperf2.wlhIperf2UdpHeaderDecode buffer size := by
  unfold Host.wlhIperf2UdpHeaderDecode Iperf2.wlhIperf2UdpHeaderDecode
  split
  · rfl
  · simp only [ntohl_word order]
    rfl

/-- The report is that of `Iperf2.Proto`. -/
theorem reportEncode_eq {h : Host} (order : h.NetworkOrder) (buffer : List UInt8) (r : ServerReport) :
    h.wlhIperf2UdpServerReportEncode buffer r =
      Iperf2.wlhIperf2UdpServerReportEncode buffer r.totalBytes r.elapsedMs r.errors r.outOfOrder
        r.datagrams := by
  have zero : h.order.bytes 0 = Word.be32Bytes 0 := by
    cases h.order with
    | little => rfl
    | big => rfl
  unfold Host.wlhIperf2UdpServerReportEncode Iperf2.wlhIperf2UdpServerReportEncode
  split
  · rfl
  · simp only [copyFields, reportWords, reportFields, List.flatMap_cons, List.flatMap_nil,
      bytes_htonl order, zero]
    rfl

end Host

end WlhHpm.Iperf2

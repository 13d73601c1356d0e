import WlhHpm.Lib.Word

/-!
# Headers of iPerf2 over UDP

Model of `packages/wlh_rtt_host/iperf2/wlh_rtt_iperf2_proto.c`. A buffer is a list of bytes of its
size; `htonl` followed by a copy puts a word there in network order. A signed sequence number is kept
as the word that holds it. The null checks of the source are left out: both callers pass the address
of a local array.
-/

namespace WlhHpm.Iperf2

def wlhIperf2UdpSize : Nat := 1470
def wlhIperf2UdpHeaderSize : Nat := 12
def wlhIperf2UdpServerReportSize : Nat := 52

/-- Write the header of a datagram (C `wlh_iperf2_udp_header_encode`). -/
def wlhIperf2UdpHeaderEncode (buffer : List UInt8) (sequence seconds microseconds : UInt32) :
    List UInt8 × Int :=
  if buffer.length < wlhIperf2UdpHeaderSize then (buffer, -1)
  else
    ([sequence, seconds, microseconds].flatMap Word.be32Bytes ++
      buffer.drop wlhIperf2UdpHeaderSize, 0)

/-- Read the header of a datagram of `size` bytes: sequence number, seconds and microseconds
    (C `wlh_iperf2_udp_header_decode`). -/
def wlhIperf2UdpHeaderDecode (buffer : List UInt8) (size : Nat) :
    Option (UInt32 × UInt32 × UInt32) :=
  if size < wlhIperf2UdpHeaderSize then none
  else some (Word.be32 buffer 0, Word.be32 buffer 4, Word.be32 buffer 8)

/-- The fields of a server report, in the order of the source. -/
def reportFields (totalBytes : UInt64) (elapsedMs errors outOfOrder datagrams : UInt32) :
    List UInt32 :=
  [0x80000000, (totalBytes >>> 32).toUInt32, totalBytes.toUInt32, elapsedMs / 1000,
    elapsedMs % 1000 * 1000, errors, outOfOrder, datagrams, 0, 0]

/-- Write a server report behind the header (C `wlh_iperf2_udp_server_report_encode`). -/
def wlhIperf2UdpServerReportEncode (buffer : List UInt8) (totalBytes : UInt64)
    (elapsedMs errors outOfOrder datagrams : UInt32) : List UInt8 × Int :=
  if buffer.length < wlhIperf2UdpServerReportSize then (buffer, -1)
  else
    (buffer.take wlhIperf2UdpHeaderSize ++
      ((reportFields totalBytes elapsedMs errors outOfOrder datagrams).flatMap Word.be32Bytes ++
        buffer.drop wlhIperf2UdpServerReportSize), 0)

/-- What a report says: the numbers at their places in the datagram. -/
structure ReportCarries (report : List UInt8) (totalBytes errors outOfOrder datagrams : Nat) :
    Prop where
  totalBytes :
    (Word.be32 report 16).toNat * 2 ^ 32 + (Word.be32 report 20).toNat = totalBytes
  errors : (Word.be32 report 32).toNat = errors
  outOfOrder : (Word.be32 report 36).toNat = outOfOrder
  datagrams : (Word.be32 report 40).toNat = datagrams

/-- A header that was written is read back, whatever follows it. -/
lemma headerDecode_encode {buffer : List UInt8} (long : wlhIperf2UdpHeaderSize ≤ buffer.length)
    (sequence seconds microseconds : UInt32) {size : Nat} (enough : wlhIperf2UdpHeaderSize ≤ size)
    (tail : List UInt8) :
    wlhIperf2UdpHeaderDecode
        ((wlhIperf2UdpHeaderEncode buffer sequence seconds microseconds).1 ++ tail) size =
      some (sequence, seconds, microseconds) := by
  have field (k : Nat) (lt : k < 3) := Word.be32_flatMap []
    (buffer.drop wlhIperf2UdpHeaderSize ++ tail) [sequence, seconds, microseconds] lt rfl
  rw [wlhIperf2UdpHeaderDecode, if_neg (by omega), wlhIperf2UdpHeaderEncode, if_neg (by omega)]
  simp only [List.append_assoc]
  exact congrArg some (Prod.ext (field 0 (by decide))
    (Prod.ext (field 1 (by decide)) (field 2 (by decide))))

/-- Writing a header does not change the size of a buffer. -/
lemma headerEncode_length (buffer : List UInt8) (sequence seconds microseconds : UInt32) :
    (wlhIperf2UdpHeaderEncode buffer sequence seconds microseconds).1.length = buffer.length := by
  unfold wlhIperf2UdpHeaderEncode
  split
  · rfl
  · rename_i long
    simp only [wlhIperf2UdpHeaderSize] at long
    simp only [List.length_append, Word.length_flatMap_be32Bytes, List.length_drop,
      wlhIperf2UdpHeaderSize, List.length_cons, List.length_nil]
    omega

/-- The report that is sent, the first 52 bytes of the buffer, carries the numbers it was made of. -/
lemma reportEncode_carries {buffer : List UInt8}
    (long : wlhIperf2UdpServerReportSize ≤ buffer.length) (totalBytes : UInt64)
    (elapsedMs errors outOfOrder datagrams : UInt32) :
    ReportCarries
      ((wlhIperf2UdpServerReportEncode buffer totalBytes elapsedMs errors outOfOrder datagrams).1.take
        wlhIperf2UdpServerReportSize)
      totalBytes.toNat errors.toNat outOfOrder.toNat datagrams.toNat := by
  have head : (buffer.take wlhIperf2UdpHeaderSize).length = 12 := by
    rw [List.length_take]
    simp only [wlhIperf2UdpServerReportSize, wlhIperf2UdpHeaderSize] at long ⊢
    omega
  have report : (wlhIperf2UdpServerReportEncode buffer totalBytes elapsedMs errors outOfOrder
      datagrams).1.take wlhIperf2UdpServerReportSize = buffer.take wlhIperf2UdpHeaderSize ++
        ((reportFields totalBytes elapsedMs errors outOfOrder datagrams).flatMap Word.be32Bytes ++
          []) := by
    rw [wlhIperf2UdpServerReportEncode, if_neg (by omega), ← List.append_assoc, List.append_nil]
    apply List.take_left'
    rw [List.length_append, head, Word.length_flatMap_be32Bytes]
    rfl
  have field (k : Nat) (lt : k < 10) := Word.be32_flatMap (buffer.take wlhIperf2UdpHeaderSize) []
    (reportFields totalBytes elapsedMs errors outOfOrder datagrams) (a := 12 + 4 * k) lt (by omega)
  rw [report]
  refine ⟨?_, ?_, ?_, ?_⟩
  · rw [field 1 (by decide), field 2 (by decide)]
    change (totalBytes >>> 32).toUInt32.toNat * 2 ^ 32 + totalBytes.toUInt32.toNat = _
    have lt := totalBytes.toNat_lt
    have high : (totalBytes >>> 32).toNat = totalBytes.toNat / 2 ^ 32 := by
      rw [UInt64.toNat_shiftRight, Nat.shiftRight_eq_div_pow]
      rfl
    rw [UInt64.toNat_toUInt32, UInt64.toNat_toUInt32, high]
    omega
  · exact congrArg UInt32.toNat (field 5 (by decide))
  · exact congrArg UInt32.toNat (field 6 (by decide))
  · exact congrArg UInt32.toNat (field 7 (by decide))

end WlhHpm.Iperf2

import WlhHpm.Lib.Memory

/-!
# The ping ring of the serial framework

The indices of an `rt_ringbuffer` (`components/drivers/ipc/ringbuffer.c`): a read and a write index,
each with a mirror bit that tells a full ring from an empty one. `rt_hw_serial_isr`
(`components/drivers/serial/dev_serial_v2.c`) commits the bytes that a DMA transfer has left in the
ping buffer: it moves the write index of the ping ring over them, takes what is in the ring in at most
two pieces and puts it into the main ring. The main ring is never full here, so it is the list of the
bytes put into it.

The ring is empty between two commits. `rtHwSerialIsr_commit` says what a commit does to an empty ring if
the bytes do not go past its end: exactly these bytes are committed, and the ring is empty again
behind them. A block that is longer than the ring is cut to its size (`rtHwSerialIsr_cut`).
-/

namespace WlhHpm.Uart

/-- C `struct rt_ringbuffer` without its buffer. -/
structure RingBuffer where
  readMirror : Bool
  readIndex : Nat
  writeMirror : Bool
  writeIndex : Nat
  bufferSize : Nat
  deriving DecidableEq, Repr

/-- `RT_ALIGN_SIZE` of `rtconfig.h`. -/
def rtAlignSize : Nat := 8

/-- C `RT_ALIGN_DOWN` with `RT_ALIGN_SIZE`. -/
def rtAlignDown (size : Nat) : Nat := size / rtAlignSize * rtAlignSize

namespace RingBuffer

/-- C `rt_ringbuffer_init`. -/
def init (size : Nat) : RingBuffer := ⟨false, 0, false, 0, rtAlignDown size⟩

/-- C `rt_ringbuffer_data_len`. -/
def dataLen (rb : RingBuffer) : Nat :=
  if rb.readIndex = rb.writeIndex then
    if rb.readMirror = rb.writeMirror then 0 else rb.bufferSize
  else if rb.writeIndex > rb.readIndex then rb.writeIndex - rb.readIndex
  else rb.bufferSize - (rb.readIndex - rb.writeIndex)

/-- C `rt_ringbuffer_space_len`. -/
def spaceLen (rb : RingBuffer) : Nat := rb.bufferSize - rb.dataLen

/-- C `rt_ringbuffer_get_direct`: where the first piece of the data begins, its size, and the ring
    without it. -/
def getDirect (rb : RingBuffer) : Nat × Nat × RingBuffer :=
  if rb.dataLen = 0 then (0, 0, rb)
  else if rb.bufferSize - rb.readIndex > rb.dataLen then
    (rb.readIndex, rb.dataLen, { rb with readIndex := rb.readIndex + rb.dataLen })
  else
    (rb.readIndex, rb.bufferSize - rb.readIndex,
      { rb with readMirror := !rb.readMirror, readIndex := 0 })

/-- C `rt_serial_update_write_index`; its length and the free space are 16 bits wide. -/
def updateWriteIndex (rb : RingBuffer) (length : Nat) : RingBuffer :=
  let spaceLength := rb.spaceLen % 2 ^ 16
  let length := if length % 2 ^ 16 > rb.bufferSize then rb.bufferSize else length % 2 ^ 16
  if rb.bufferSize - rb.writeIndex > length then
    let rb := { rb with writeIndex := rb.writeIndex + length }
    if length > spaceLength then { rb with readIndex := rb.writeIndex } else rb
  else
    let rb := { rb with
      writeMirror := !rb.writeMirror
      writeIndex := length - (rb.bufferSize - rb.writeIndex) }
    if length > spaceLength then
      { rb with
        readMirror := if rb.writeIndex ≤ rb.readIndex then !rb.readMirror else rb.readMirror
        readIndex := rb.writeIndex }
    else rb

end RingBuffer

/-- C `rt_hw_serial_isr` for `RT_SERIAL_EVENT_RX_DMADONE` with a length: the ping ring and the bytes of
    the main ring after it. -/
def rtHwSerialIsr (rb : RingBuffer) (ping : Mem) (main : List UInt8) (rxLength : Nat) :
    RingBuffer × List UInt8 :=
  if rxLength = 0 then (rb, main)
  else
    let fst := (rb.updateWriteIndex rxLength).getDirect
    let main := main ++ (ping.shift fst.1).toList fst.2.1
    let snd := fst.2.2.getDirect
    if snd.2.1 = 0 then (snd.2.2, main) else (snd.2.2, main ++ (ping.shift snd.1).toList snd.2.1)

namespace RingBuffer
variable {rb : RingBuffer} {o n : Nat}

/-- The ring is empty and its indices stand at `o`. -/
structure EmptyAt (rb : RingBuffer) (o : Nat) : Prop where
  read : rb.readIndex = o
  write : rb.writeIndex = o
  mirror : rb.readMirror = rb.writeMirror

/-- A new ring is empty. -/
lemma emptyAt_init (size : Nat) : (init size).EmptyAt 0 := ⟨rfl, rfl, rfl⟩

/-- An empty ring has no data. -/
lemma EmptyAt.dataLen (empty : rb.EmptyAt o) : rb.dataLen = 0 := by
  rw [RingBuffer.dataLen, if_pos (empty.read.trans empty.write.symm), if_pos empty.mirror]

/-- Nothing can be taken from an empty ring. -/
lemma EmptyAt.getDirect (empty : rb.EmptyAt o) : rb.getDirect = (0, 0, rb) := by
  rw [RingBuffer.getDirect, if_pos empty.dataLen]

/-- The index behind `n` bytes from `o` on. -/
def behind (size o n : Nat) : Nat := if o + n = size then 0 else o + n

/-- The ring holds the `n` bytes from `o` on, which do not go past its end. -/
structure Holds (rb : RingBuffer) (o n : Nat) : Prop where
  read : rb.readIndex = o
  write : rb.writeIndex = behind rb.bufferSize o n
  mirror : rb.writeMirror = if o + n = rb.bufferSize then !rb.readMirror else rb.readMirror

/-- The ring has as many data as it holds bytes. -/
lemma Holds.dataLen (holds : rb.Holds o n) (pos : 0 < n) : rb.dataLen = n := by
  obtain ⟨read, write, mirror⟩ := holds
  unfold RingBuffer.dataLen
  rw [read, write, mirror, behind]
  split_ifs <;> grind

/-- Taking the data out leaves the ring empty behind it. -/
lemma Holds.getDirect (holds : rb.Holds o n) (pos : 0 < n) (fits : o + n ≤ rb.bufferSize) :
    ∃ rb', rb.getDirect = (o, n, rb') ∧ rb'.EmptyAt (behind rb.bufferSize o n) ∧
      rb'.bufferSize = rb.bufferSize := by
  have len := holds.dataLen pos
  obtain ⟨read, write, mirror⟩ := holds
  unfold RingBuffer.getDirect
  rw [len, read, if_neg (Nat.ne_of_gt pos)]
  by_cases last : o + n = rb.bufferSize
  · have rest : rb.bufferSize - o = n := by omega
    rw [rest, if_neg (Nat.lt_irrefl n)]
    refine ⟨_, rfl, ⟨?_, write, ?_⟩, rfl⟩
    · exact (if_pos last).symm
    · exact (mirror.trans (if_pos last)).symm
  · have more : rb.bufferSize - o > n := by omega
    rw [if_pos more]
    refine ⟨_, rfl, ⟨?_, write, ?_⟩, rfl⟩
    · exact (if_neg last).symm
    · exact (mirror.trans (if_neg last)).symm

/-- Moving the write index of an empty ring. -/
lemma EmptyAt.updateWriteIndex (empty : rb.EmptyAt o) (small : rb.bufferSize < 2 ^ 16)
    (fits : o + n ≤ rb.bufferSize) :
    (rb.updateWriteIndex n).Holds o n ∧ (rb.updateWriteIndex n).bufferSize = rb.bufferSize := by
  have len : n % 2 ^ 16 = n := Nat.mod_eq_of_lt (by omega)
  have space : rb.spaceLen % 2 ^ 16 = rb.bufferSize := by
    rw [spaceLen, empty.dataLen, Nat.sub_zero, Nat.mod_eq_of_lt small]
  obtain ⟨read, write, mirror⟩ := empty
  unfold RingBuffer.updateWriteIndex
  simp only [len, space, write]
  rw [if_neg (show ¬ n > rb.bufferSize by omega)]
  by_cases last : o + n = rb.bufferSize
  · rw [if_neg (by omega), if_neg (by omega)]
    refine ⟨⟨read, ?_, ?_⟩, rfl⟩
    · simp only [behind, if_pos last]
      omega
    · simp only [if_pos last, mirror]
  · rw [if_pos (by omega), if_neg (by omega)]
    refine ⟨⟨read, ?_, ?_⟩, rfl⟩
    · simp only [behind, if_neg last]
    · simp only [if_neg last, mirror]

end RingBuffer

open RingBuffer

section Commit
variable {rb : RingBuffer} {o n : Nat} {ping : Mem} {main : List UInt8}

/-- What a commit does once the ring holds its bytes. -/
lemma rtHwSerialIsr_of_holds {len : Nat} (pos : 0 < len) (has : 0 < n)
    (holds : (rb.updateWriteIndex len).Holds o n) (fits : o + n ≤ rb.bufferSize)
    (size : (rb.updateWriteIndex len).bufferSize = rb.bufferSize) :
    (rtHwSerialIsr rb ping main len).2 = main ++ (ping.shift o).toList n ∧
      (rtHwSerialIsr rb ping main len).1.EmptyAt (behind rb.bufferSize o n) ∧
      (rtHwSerialIsr rb ping main len).1.bufferSize = rb.bufferSize := by
  obtain ⟨rb', taken, empty, kept⟩ := holds.getDirect has (size ▸ fits)
  unfold rtHwSerialIsr
  rw [if_neg (Nat.ne_of_gt pos)]
  simp only [taken, empty.getDirect, if_true, true_and]
  exact ⟨size ▸ empty, kept.trans size⟩

/-- A commit into an empty ring takes the bytes behind its index, if they fit. -/
lemma rtHwSerialIsr_commit (empty : rb.EmptyAt o) (small : rb.bufferSize < 2 ^ 16) (pos : 0 < n)
    (fits : o + n ≤ rb.bufferSize) :
    (rtHwSerialIsr rb ping main n).2 = main ++ (ping.shift o).toList n ∧
      (rtHwSerialIsr rb ping main n).1.EmptyAt (behind rb.bufferSize o n) ∧
      (rtHwSerialIsr rb ping main n).1.bufferSize = rb.bufferSize := by
  obtain ⟨holds, size⟩ := empty.updateWriteIndex small fits
  exact rtHwSerialIsr_of_holds pos pos holds fits size

/-- A block that is longer than the ring is cut to the size of the ring. -/
lemma rtHwSerialIsr_cut (empty : rb.EmptyAt 0) (pos : 0 < rb.bufferSize) (small : n < 2 ^ 16)
    (long : rb.bufferSize < n) :
    (rtHwSerialIsr rb ping main n).2 = main ++ ping.toList rb.bufferSize := by
  have same : rb.updateWriteIndex n = rb.updateWriteIndex rb.bufferSize := by
    unfold RingBuffer.updateWriteIndex
    rw [Nat.mod_eq_of_lt small, Nat.mod_eq_of_lt (long.trans small), if_pos long,
      if_neg (Nat.lt_irrefl _)]
  obtain ⟨holds, size⟩ := empty.updateWriteIndex (long.trans small) (Nat.zero_add _).le
  rw [← same] at holds size
  rw [(rtHwSerialIsr_of_holds (pos.trans long) pos holds (Nat.zero_add _).le size).1, Mem.shift_zero]

end Commit

end WlhHpm.Uart

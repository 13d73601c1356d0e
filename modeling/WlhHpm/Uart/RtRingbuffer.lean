import Mathlib.Data.List.DropRight
import WlhHpm.Lib.MirrorRing
import WlhHpm.Lib.Simulation
import WlhHpm.Uart.RingBuffer

/-!
# The ring buffer of the device drivers

`components/drivers/ipc/ringbuffer.c` with the bytes in it: every operation that puts bytes into an
`rt_ringbuffer` or takes some out. The C code tells a full ring from an empty one by a mirror bit
beside each index, and copies a block in two pieces when it passes the end of the buffer.

`Queue.Step` says what each operation is for, on a bounded queue of bytes that knows neither indices
nor mirrors. `Rep` relates the two: the positions of the queue only grow, and the ring keeps their
cells and sides. Each operation keeps `Rep` and does to the queue what it is for, so every
sequence of operations on a ring of at least one cell looks like one on the queue
(`rtRingbuffer_refines_queue`).
-/

namespace WlhHpm.Uart

/-- C `struct rt_ringbuffer`. -/
structure RtRingbuffer extends RingBuffer where
  bufferPtr : Mem

/-- C `enum rt_ringbuffer_state`. -/
inductive RtRingbufferState where
  | empty
  | full
  | halffull
  deriving DecidableEq, Repr

namespace RtRingbuffer

/-- C `rt_ringbuffer_init`. -/
def init (pool : Mem) (size : Nat) : RtRingbuffer := ⟨RingBuffer.init size, pool⟩

/-- C `rt_ringbuffer_status`. -/
def status (rb : RtRingbuffer) : RtRingbufferState :=
  if rb.readIndex = rb.writeIndex then
    if rb.readMirror = rb.writeMirror then .empty else .full
  else .halffull

/-- The two copies of a block that reaches or passes the end of the buffer. -/
def wrapCopy (rb : RtRingbuffer) (ptr : Mem) (length : Nat) : Mem :=
  (rb.bufferPtr.copy rb.writeIndex (rb.bufferSize - rb.writeIndex) ptr).copy 0
    (length - (rb.bufferSize - rb.writeIndex)) (ptr.shift (rb.bufferSize - rb.writeIndex))

/-- C `rt_ringbuffer_put`: how many bytes are put, and the ring with them. -/
def put (rb : RtRingbuffer) (ptr : List UInt8) : Nat × RtRingbuffer :=
  if rb.spaceLen = 0 then (0, rb)
  else
    let length := if rb.spaceLen < ptr.length then rb.spaceLen else ptr.length
    if rb.bufferSize - rb.writeIndex > length then
      (length, { rb with
        bufferPtr := rb.bufferPtr.copy rb.writeIndex length (.ofList ptr)
        writeIndex := rb.writeIndex + length })
    else
      (length, { rb with
        bufferPtr := rb.wrapCopy (.ofList ptr) length
        writeMirror := !rb.writeMirror
        writeIndex := length - (rb.bufferSize - rb.writeIndex) })

/-- C `rt_ringbuffer_put_force`. -/
def putForce (rb : RtRingbuffer) (ptr : List UInt8) : Nat × RtRingbuffer :=
  let spaceLength := rb.spaceLen
  let src := if ptr.length > rb.bufferSize then ptr.drop (ptr.length - rb.bufferSize) else ptr
  let length := if ptr.length > rb.bufferSize then rb.bufferSize else ptr.length
  if rb.bufferSize - rb.writeIndex > length then
    let rb := { rb with
      bufferPtr := rb.bufferPtr.copy rb.writeIndex length (.ofList src)
      writeIndex := rb.writeIndex + length }
    (length, if length > spaceLength then { rb with readIndex := rb.writeIndex } else rb)
  else
    let rb := { rb with
      bufferPtr := rb.wrapCopy (.ofList src) length
      writeMirror := !rb.writeMirror
      writeIndex := length - (rb.bufferSize - rb.writeIndex) }
    (length,
      if length > spaceLength then
        { rb with
          readMirror := if rb.writeIndex ≤ rb.readIndex then !rb.readMirror else rb.readMirror
          readIndex := rb.writeIndex }
      else rb)

/-- C `rt_ringbuffer_get`: the bytes copied to the caller, and the ring without them. -/
def get (rb : RtRingbuffer) (length : Nat) : List UInt8 × RtRingbuffer :=
  if rb.dataLen = 0 then ([], rb)
  else
    let length := if rb.dataLen < length then rb.dataLen else length
    if rb.bufferSize - rb.readIndex > length then
      ((rb.bufferPtr.shift rb.readIndex).toList length,
        { rb with readIndex := rb.readIndex + length })
    else
      ((rb.bufferPtr.shift rb.readIndex).toList (rb.bufferSize - rb.readIndex) ++
          rb.bufferPtr.toList (length - (rb.bufferSize - rb.readIndex)),
        { rb with
          readMirror := !rb.readMirror
          readIndex := length - (rb.bufferSize - rb.readIndex) })

/-- C `rt_ringbuffer_get_direct`: the bytes of the piece that it returns a pointer to. -/
def getDirect (rb : RtRingbuffer) : List UInt8 × RtRingbuffer :=
  let piece := rb.toRingBuffer.getDirect
  ((rb.bufferPtr.shift piece.1).toList piece.2.1, { rb with toRingBuffer := piece.2.2 })

/-- C `rt_ringbuffer_peek`. -/
def peek (rb : RtRingbuffer) : List UInt8 :=
  if rb.dataLen = 0 then []
  else if rb.bufferSize - rb.readIndex > rb.dataLen then
    (rb.bufferPtr.shift rb.readIndex).toList rb.dataLen
  else (rb.bufferPtr.shift rb.readIndex).toList (rb.bufferSize - rb.readIndex)

/-- C `rt_ringbuffer_putchar`. -/
def putchar (rb : RtRingbuffer) (ch : UInt8) : Nat × RtRingbuffer :=
  if rb.spaceLen = 0 then (0, rb)
  else
    let rb := { rb with bufferPtr := Function.update rb.bufferPtr rb.writeIndex ch }
    (1,
      if rb.writeIndex = rb.bufferSize - 1 then
        { rb with writeMirror := !rb.writeMirror, writeIndex := 0 }
      else { rb with writeIndex := rb.writeIndex + 1 })

/-- C `rt_ringbuffer_putchar_force`. -/
def putcharForce (rb : RtRingbuffer) (ch : UInt8) : Nat × RtRingbuffer :=
  let oldState := rb.status
  let rb := { rb with bufferPtr := Function.update rb.bufferPtr rb.writeIndex ch }
  (1,
    if rb.writeIndex = rb.bufferSize - 1 then
      let rb := { rb with writeMirror := !rb.writeMirror, writeIndex := 0 }
      if oldState = .full then
        { rb with readMirror := !rb.readMirror, readIndex := rb.writeIndex }
      else rb
    else
      let rb := { rb with writeIndex := rb.writeIndex + 1 }
      if oldState = .full then { rb with readIndex := rb.writeIndex } else rb)

/-- C `rt_ringbuffer_getchar`. -/
def getchar (rb : RtRingbuffer) : Option UInt8 × RtRingbuffer :=
  if rb.dataLen = 0 then (none, rb)
  else
    (some (rb.bufferPtr rb.readIndex),
      if rb.readIndex = rb.bufferSize - 1 then
        { rb with readMirror := !rb.readMirror, readIndex := 0 }
      else { rb with readIndex := rb.readIndex + 1 })

/-- C `rt_ringbuffer_reset`. -/
def reset (rb : RtRingbuffer) : RtRingbuffer :=
  { rb with readMirror := false, readIndex := 0, writeMirror := false, writeIndex := 0 }

end RtRingbuffer

/-! ## What the ring stands for -/

section Represents
open MirrorRing

/-- The ring holds the queue `q`, whose first byte is at position `r`. -/
structure Rep (rb : RtRingbuffer) (r : Nat) (q : List UInt8) : Prop where
  pos : 0 < rb.bufferSize
  readIndex : rb.readIndex = r % rb.bufferSize
  readMirror : rb.readMirror = mirror rb.bufferSize r
  writeIndex : rb.writeIndex = (r + q.length) % rb.bufferSize
  writeMirror : rb.writeMirror = mirror rb.bufferSize (r + q.length)
  room : q.length ≤ rb.bufferSize
  content : window rb.bufferPtr rb.bufferSize r q.length = q

namespace Rep
variable {rb rb' : RtRingbuffer} {r k : Nat} {q l : List UInt8}

/-- The ring has as many data as the queue. -/
lemma dataLen (rep : Rep rb r q) : rb.dataLen = q.length := by
  rw [RingBuffer.dataLen, rep.readIndex, rep.writeIndex, rep.readMirror, rep.writeMirror]
  exact (distance_eq rep.pos rep.room).symm

/-- The rest of the buffer is free. -/
lemma spaceLen (rep : Rep rb r q) : rb.spaceLen = rb.bufferSize - q.length := by
  rw [RingBuffer.spaceLen, rep.dataLen]

/-- The ring is full when the queue fills the buffer. -/
lemma status_full (rep : Rep rb r q) : rb.status = .full ↔ q.length = rb.bufferSize := by
  have pos := rep.pos
  rw [← rep.dataLen, RtRingbuffer.status, RingBuffer.dataLen]
  have lt : rb.writeIndex < rb.bufferSize := rep.writeIndex ▸ Nat.mod_lt _ pos
  have lt' : rb.readIndex < rb.bufferSize := rep.readIndex ▸ Nat.mod_lt _ pos
  split_ifs <;> simp <;> omega

/-- A new ring holds the empty queue. -/
lemma init (pool : Mem) {size : Nat} (le : rtAlignSize ≤ size) : Rep (.init pool size) 0 [] where
  pos := Nat.mul_pos (Nat.div_pos le (by decide)) (by decide)
  readIndex := (Nat.zero_mod _).symm
  readMirror := by rw [mirror, Nat.zero_div]; rfl
  writeIndex := (Nat.zero_mod _).symm
  writeMirror := by rw [List.length_nil, mirror, Nat.zero_div]; rfl
  room := Nat.zero_le _
  content := rfl

/-- Bytes have been stored behind the queue, and `k` have been dropped from its front. -/
lemma store (rep : Rep rb r q) (le : k ≤ q.length) (fits : q.length + l.length ≤ rb.bufferSize + k)
    (size : rb'.bufferSize = rb.bufferSize)
    (fills : Fills rb.bufferPtr rb'.bufferPtr rb.bufferSize (r + q.length) l)
    (readIndex : rb'.readIndex = (r + k) % rb.bufferSize)
    (readMirror : rb'.readMirror = mirror rb.bufferSize (r + k))
    (writeIndex : rb'.writeIndex = (r + q.length + l.length) % rb.bufferSize)
    (writeMirror : rb'.writeMirror = mirror rb.bufferSize (r + q.length + l.length)) :
    Rep rb' (r + k) (q.drop k ++ l) := by
  have len : (q.drop k ++ l).length = q.length - k + l.length := by
    rw [List.length_append, List.length_drop]
  have last : r + k + (q.length - k) = r + q.length := by omega
  have behind : r + k + (q.drop k ++ l).length = r + q.length + l.length := by omega
  constructor
  case pos => exact size ▸ rep.pos
  case readIndex => rw [size, readIndex]
  case readMirror => rw [size, readMirror]
  case writeIndex => rw [size, writeIndex, behind]
  case writeMirror => rw [size, writeMirror, behind]
  case room => omega
  case content =>
    rw [size, len, window_fills rep.pos (last ▸ fills) (by omega), ← window_drop _ _ _ le, rep.content]

/-- Bytes have been stored into the free space. -/
lemma append (rep : Rep rb r q) (fits : q.length + l.length ≤ rb.bufferSize)
    (size : rb'.bufferSize = rb.bufferSize)
    (fills : Fills rb.bufferPtr rb'.bufferPtr rb.bufferSize (r + q.length) l)
    (readIndex : rb'.readIndex = rb.readIndex) (readMirror : rb'.readMirror = rb.readMirror)
    (writeIndex : rb'.writeIndex = (r + q.length + l.length) % rb.bufferSize)
    (writeMirror : rb'.writeMirror = mirror rb.bufferSize (r + q.length + l.length)) :
    Rep rb' r (q ++ l) :=
  rep.store (Nat.zero_le _) fits size fills (readIndex.trans rep.readIndex)
    (readMirror.trans rep.readMirror) writeIndex writeMirror

/-- The read cursor has moved. -/
lemma skip (rep : Rep rb r q) (le : k ≤ q.length) (size : rb'.bufferSize = rb.bufferSize)
    (buffer : rb'.bufferPtr = rb.bufferPtr)
    (readIndex : rb'.readIndex = (r + k) % rb.bufferSize)
    (readMirror : rb'.readMirror = mirror rb.bufferSize (r + k))
    (writeIndex : rb'.writeIndex = rb.writeIndex) (writeMirror : rb'.writeMirror = rb.writeMirror) :
    Rep rb' (r + k) (q.drop k) := by
  have room := rep.room
  have fills : Fills rb.bufferPtr rb'.bufferPtr rb.bufferSize (r + q.length) [] :=
    ⟨nofun, fun i _ _ => congrFun buffer i⟩
  have moved := rep.store le (by rw [List.length_nil]; omega) size fills readIndex readMirror
    (writeIndex.trans rep.writeIndex) (writeMirror.trans rep.writeMirror)
  rwa [List.append_nil] at moved

/-! ## The operations -/

/-- The side after the write cursor has moved by at most a turn. -/
lemma writeMirror_add (rep : Rep rb r q) (le : k ≤ rb.bufferSize) :
    mirror rb.bufferSize (r + q.length + k) =
      if rb.bufferSize - rb.writeIndex > k then rb.writeMirror else !rb.writeMirror := by
  rw [mirror_add rep.pos le, rep.writeIndex, rep.writeMirror]

/-- Where the write index stands after `k` more bytes. -/
lemma writeIndex_add (rep : Rep rb r q) (le : k ≤ rb.bufferSize) :
    (r + q.length + k) % rb.bufferSize =
      if rb.bufferSize - rb.writeIndex > k then rb.writeIndex + k
      else k - (rb.bufferSize - rb.writeIndex) := by
  rw [mod_add rep.pos le, rep.writeIndex]

/-- What the read mirror is after `k` bytes have gone. -/
lemma readMirror_add (rep : Rep rb r q) (le : k ≤ rb.bufferSize) :
    mirror rb.bufferSize (r + k) =
      if rb.bufferSize - rb.readIndex > k then rb.readMirror else !rb.readMirror := by
  rw [mirror_add rep.pos le, rep.readIndex, rep.readMirror]

/-- Where the read index stands after `k` bytes have gone. -/
lemma readIndex_add (rep : Rep rb r q) (le : k ≤ rb.bufferSize) :
    (r + k) % rb.bufferSize =
      if rb.bufferSize - rb.readIndex > k then rb.readIndex + k
      else k - (rb.bufferSize - rb.readIndex) := by
  rw [mod_add rep.pos le, rep.readIndex]

/-- The first bytes of the source. -/
lemma source_take {ptr : List UInt8} (k : Nat) :
    ∀ j (lt : j < (ptr.take k).length), Mem.ofList ptr j = (ptr.take k)[j] := by
  intro j lt
  have inside : j < ptr.length := by
    rw [List.length_take] at lt
    omega
  rw [Mem.ofList_get inside, List.getElem_take]

/-- `rt_ringbuffer_put` appends as much as there is room for. -/
lemma put (rep : Rep rb r q) (ptr : List UInt8) :
    Rep (rb.put ptr).2 r (q ++ ptr.take (rb.bufferSize - q.length)) ∧
      (rb.put ptr).1 = (ptr.take (rb.bufferSize - q.length)).length ∧
      (rb.put ptr).2.bufferSize = rb.bufferSize := by
  have room := rep.room
  unfold RtRingbuffer.put
  rw [rep.spaceLen]
  by_cases none : rb.bufferSize - q.length = 0
  · rw [if_pos none, none, List.take_zero, List.append_nil]
    exact ⟨rep, rfl, rfl⟩
  rw [if_neg none]
  have len : (if rb.bufferSize - q.length < ptr.length then rb.bufferSize - q.length
      else ptr.length) = (ptr.take (rb.bufferSize - q.length)).length := by
    rw [List.length_take]
    split_ifs <;> omega
  have short : (ptr.take (rb.bufferSize - q.length)).length ≤ rb.bufferSize - q.length :=
    List.length_take_le _ _
  have index := rep.writeIndex_add (k := (ptr.take (rb.bufferSize - q.length)).length) (by omega)
  have side := rep.writeMirror_add (k := (ptr.take (rb.bufferSize - q.length)).length) (by omega)
  simp only [len]
  split_ifs with near
  · rw [if_pos near] at index side
    refine ⟨rep.append (by omega) rfl ?_ rfl rfl index.symm side.symm, rfl, rfl⟩
    simp only [rep.writeIndex] at near ⊢
    exact fills_copy (source_take _) near.le
  · rw [if_neg near] at index side
    refine ⟨rep.append (by omega) rfl ?_ rfl rfl index.symm side.symm, rfl, rfl⟩
    simp only [RtRingbuffer.wrapCopy, rep.writeIndex] at near ⊢
    exact fills_wrap (source_take _) rep.pos (by omega) (Nat.le_of_not_lt near)

/-- The read cursor of a full ring is the write cursor on the other side. -/
lemma read_of_full (rep : Rep rb r q) (le : l.length ≤ rb.bufferSize)
    (long : rb.bufferSize < q.length + l.length)
    (k : Nat) (drop : q.length + l.length = rb.bufferSize + k) :
    (r + q.length + l.length) % rb.bufferSize = (r + k) % rb.bufferSize ∧
      mirror rb.bufferSize (r + k) =
        if rb.bufferSize - rb.writeIndex > l.length then rb.readMirror
        else if (r + q.length + l.length) % rb.bufferSize ≤ rb.readIndex then !rb.readMirror
        else rb.readMirror := by
  have room := rep.room
  have read : rb.readIndex < rb.bufferSize := rep.readIndex ▸ Nat.mod_lt _ rep.pos
  have whole : r + q.length + l.length = r + k + rb.bufferSize := by omega
  have same : (r + q.length + l.length) % rb.bufferSize = (r + k) % rb.bufferSize := by
    rw [whole, Nat.add_mod_right]
  refine ⟨same, ?_⟩
  split_ifs with near low
  · -- the block ends before the end of the ring, and so does the part of the queue that is dropped
    have there := rep.writeIndex_add le
    rw [if_pos near, same, rep.readIndex_add (by omega)] at there
    rw [rep.readMirror_add (by omega), if_pos]
    by_contra far
    rw [if_neg far] at there
    omega
  · rw [mirror_add_of_pos (by omega) (by omega), ← same, ← rep.readIndex, if_pos low, rep.readMirror]
  · rw [mirror_add_of_pos (by omega) (by omega), ← same, ← rep.readIndex, if_neg low, rep.readMirror]

/-- The newest bytes of a queue and a block behind it. -/
lemma rtake_append {n : Nat} (room : q.length ≤ n) (ptr : List UInt8) :
    q.drop (q.length + (ptr.rtake n).length - n) ++ ptr.rtake n = (q ++ ptr).rtake n := by
  rw [List.rtake, List.rtake, List.length_append, List.length_drop]
  by_cases long : n ≤ ptr.length
  · have all : q.length + (ptr.length - (ptr.length - n)) - n = q.length := by omega
    have rest : q.length + ptr.length - n = q.length + (ptr.length - n) := by omega
    rw [all, rest, List.drop_length, List.nil_append, List.drop_length_add_append]
  · have all : ptr.length - n = 0 := by omega
    rw [all, List.drop_zero, Nat.sub_zero, List.drop_append_of_le_length (by omega)]

/-- `rt_ringbuffer_put_force` keeps the newest bytes. -/
lemma putForce (rep : Rep rb r q) (ptr : List UInt8) :
    Rep (rb.putForce ptr).2 (r + (q.length + (ptr.rtake rb.bufferSize).length - rb.bufferSize))
        ((q ++ ptr).rtake rb.bufferSize) ∧
      (rb.putForce ptr).1 = (ptr.rtake rb.bufferSize).length ∧
      (rb.putForce ptr).2.bufferSize = rb.bufferSize := by
  have room := rep.room
  have src : (if ptr.length > rb.bufferSize then ptr.drop (ptr.length - rb.bufferSize) else ptr) =
      ptr.rtake rb.bufferSize := by
    split_ifs with long
    · rfl
    · rw [List.rtake, Nat.sub_eq_zero_of_le (Nat.le_of_not_lt long), List.drop_zero]
  have len : (if ptr.length > rb.bufferSize then rb.bufferSize else ptr.length) =
      (ptr.rtake rb.bufferSize).length := by
    rw [List.rtake, List.length_drop]
    split_ifs <;> omega
  have short : (ptr.rtake rb.bufferSize).length ≤ rb.bufferSize := by
    rw [List.rtake, List.length_drop]
    omega
  rw [← rtake_append room]
  unfold RtRingbuffer.putForce
  simp only [src, len, rep.spaceLen]
  generalize ptr.rtake rb.bufferSize = l at short ⊢
  have source : ∀ j (lt : j < l.length), Mem.ofList l j = l[j] := fun _ lt => Mem.ofList_get lt
  have index := rep.writeIndex_add short
  have side := rep.writeMirror_add short
  have stays (le : ¬ l.length > rb.bufferSize - q.length) :
      q.length + l.length - rb.bufferSize = 0 := by omega
  have full (gt : l.length > rb.bufferSize - q.length) :=
    rep.read_of_full short (by omega) (q.length + l.length - rb.bufferSize) (by omega)
  have copied (near : rb.bufferSize - rb.writeIndex > l.length) :
      Fills rb.bufferPtr (rb.bufferPtr.copy rb.writeIndex l.length (.ofList l)) rb.bufferSize
        (r + q.length) l := by
    rw [rep.writeIndex] at near ⊢
    exact fills_copy source near.le
  have wrapped (far : ¬ rb.bufferSize - rb.writeIndex > l.length) :
      Fills rb.bufferPtr (rb.wrapCopy (.ofList l) l.length) rb.bufferSize (r + q.length) l := by
    rw [RtRingbuffer.wrapCopy, rep.writeIndex]
    rw [rep.writeIndex] at far
    exact fills_wrap source rep.pos short (Nat.le_of_not_lt far)
  split_ifs with near gt gt low
  · rw [if_pos near] at index side
    obtain ⟨same, mirror⟩ := full gt
    rw [if_pos near] at mirror
    exact ⟨rep.store (by omega) (by omega) rfl (copied near) (index.symm.trans same) mirror.symm
      index.symm side.symm, rfl, rfl⟩
  · rw [if_pos near] at index side
    rw [stays gt]
    exact ⟨rep.store (Nat.zero_le _) (by omega) rfl (copied near) rep.readIndex rep.readMirror
      index.symm side.symm, rfl, rfl⟩
  · rw [if_neg near] at index side
    obtain ⟨same, mirror⟩ := full gt
    rw [if_neg near, index, if_pos low] at mirror
    exact ⟨rep.store (by omega) (by omega) rfl (wrapped near) (index.symm.trans same) mirror.symm
      index.symm side.symm, rfl, rfl⟩
  · rw [if_neg near] at index side
    obtain ⟨same, mirror⟩ := full gt
    rw [if_neg near, index, if_neg low] at mirror
    exact ⟨rep.store (by omega) (by omega) rfl (wrapped near) (index.symm.trans same) mirror.symm
      index.symm side.symm, rfl, rfl⟩
  · rw [if_neg near] at index side
    rw [stays gt]
    exact ⟨rep.store (Nat.zero_le _) (by omega) rfl (wrapped near) rep.readIndex rep.readMirror
      index.symm side.symm, rfl, rfl⟩

/-- A byte, stored at the write cursor, and the cursor moved over it. -/
lemma write_one (rep : Rep rb r q) :
    (r + q.length + 1) % rb.bufferSize =
        (if rb.writeIndex = rb.bufferSize - 1 then 0 else rb.writeIndex + 1) ∧
      mirror rb.bufferSize (r + q.length + 1) =
        if rb.writeIndex = rb.bufferSize - 1 then !rb.writeMirror else rb.writeMirror := by
  have pos := rep.pos
  have lt : rb.writeIndex < rb.bufferSize := rep.writeIndex ▸ Nat.mod_lt _ pos
  rw [rep.writeIndex_add pos, rep.writeMirror_add pos]
  by_cases last : rb.writeIndex = rb.bufferSize - 1
  · rw [if_pos last, if_pos last, if_neg (by omega), if_neg (by omega)]
    exact ⟨by omega, rfl⟩
  · rw [if_neg last, if_neg last, if_pos (by omega), if_pos (by omega)]
    exact ⟨rfl, rfl⟩

/-- The step of the read index over one byte. -/
lemma read_one (rep : Rep rb r q) :
    (r + 1) % rb.bufferSize =
        (if rb.readIndex = rb.bufferSize - 1 then 0 else rb.readIndex + 1) ∧
      mirror rb.bufferSize (r + 1) =
        if rb.readIndex = rb.bufferSize - 1 then !rb.readMirror else rb.readMirror := by
  have pos := rep.pos
  have lt : rb.readIndex < rb.bufferSize := rep.readIndex ▸ Nat.mod_lt _ pos
  rw [rep.readIndex_add pos, rep.readMirror_add pos]
  by_cases last : rb.readIndex = rb.bufferSize - 1
  · rw [if_pos last, if_pos last, if_neg (by omega), if_neg (by omega)]
    exact ⟨by omega, rfl⟩
  · rw [if_neg last, if_neg last, if_pos (by omega), if_pos (by omega)]
    exact ⟨rfl, rfl⟩

/-- `rt_ringbuffer_putchar` is `rt_ringbuffer_put` of one byte. -/
lemma putchar (rep : Rep rb r q) (ch : UInt8) :
    Rep (rb.putchar ch).2 r (q ++ [ch].take (rb.bufferSize - q.length)) ∧
      (rb.putchar ch).1 = ([ch].take (rb.bufferSize - q.length)).length ∧
      (rb.putchar ch).2.bufferSize = rb.bufferSize := by
  have room := rep.room
  unfold RtRingbuffer.putchar
  rw [rep.spaceLen]
  by_cases none : rb.bufferSize - q.length = 0
  · rw [if_pos none, none, List.take_zero, List.append_nil]
    exact ⟨rep, rfl, rfl⟩
  have one : [ch].take (rb.bufferSize - q.length) = [ch] :=
    List.take_of_length_le (Nat.one_le_iff_ne_zero.mpr none)
  have fits : q.length + [ch].length ≤ rb.bufferSize := by
    rw [List.length_singleton]
    omega
  have fills := fills_update rb.bufferPtr rb.bufferSize (r + q.length) ch
  rw [← rep.writeIndex] at fills
  obtain ⟨index, side⟩ := rep.write_one
  rw [if_neg none, one]
  dsimp only
  split_ifs at index side ⊢ with last
  · exact ⟨rep.append fits rfl fills rfl rfl index.symm side.symm, rfl, rfl⟩
  · exact ⟨rep.append fits rfl fills rfl rfl index.symm side.symm, rfl, rfl⟩

/-- `rt_ringbuffer_putchar_force` drops the oldest byte of a full ring. -/
lemma putcharForce (rep : Rep rb r q) (ch : UInt8) :
    Rep (rb.putcharForce ch).2 (r + (q.length + 1 - rb.bufferSize))
        ((q ++ [ch]).rtake rb.bufferSize) ∧
      (rb.putcharForce ch).1 = 1 ∧ (rb.putcharForce ch).2.bufferSize = rb.bufferSize := by
  have room := rep.room
  have pos := rep.pos
  have one : [ch].rtake rb.bufferSize = [ch] := by
    rw [List.rtake, List.length_singleton, Nat.sub_eq_zero_of_le pos, List.drop_zero]
  have fills := fills_update rb.bufferPtr rb.bufferSize (r + q.length) ch
  rw [← rep.writeIndex] at fills
  obtain ⟨index, side⟩ := rep.write_one
  rw [← rtake_append room, one, List.length_singleton]
  have stays (part : ¬ q.length = rb.bufferSize) : q.length + 1 - rb.bufferSize = 0 := by omega
  -- the cursors of a full ring stand at the same cell, and both move over it
  have moves (full : q.length = rb.bufferSize) :
      q.length + 1 - rb.bufferSize = 1 ∧ rb.readIndex = rb.writeIndex := by
    refine ⟨by omega, ?_⟩
    rw [rep.readIndex, rep.writeIndex, full, Nat.add_mod_right]
  unfold RtRingbuffer.putcharForce
  simp only [rep.status_full]
  obtain ⟨readIndex, readMirror⟩ := rep.read_one
  split_ifs at index side ⊢ with last full full
  · obtain ⟨one, same⟩ := moves full
    rw [same, if_pos last] at readIndex readMirror
    rw [one]
    exact ⟨rep.store (by omega) (by rw [List.length_singleton]; omega) rfl fills readIndex.symm
      readMirror.symm index.symm side.symm, trivial, rfl⟩
  · rw [stays full]
    exact ⟨rep.store (Nat.zero_le _) (by rw [List.length_singleton]; omega) rfl fills rep.readIndex
      rep.readMirror index.symm side.symm, trivial, rfl⟩
  · obtain ⟨one, same⟩ := moves full
    rw [same, if_neg last] at readIndex readMirror
    rw [one]
    exact ⟨rep.store (by omega) (by rw [List.length_singleton]; omega) rfl fills readIndex.symm
      readMirror.symm index.symm side.symm, trivial, rfl⟩
  · rw [stays full]
    exact ⟨rep.store (Nat.zero_le _) (by rw [List.length_singleton]; omega) rfl fills rep.readIndex
      rep.readMirror index.symm side.symm, trivial, rfl⟩

/-- `rt_ringbuffer_get` takes from the front. -/
lemma get (rep : Rep rb r q) (length : Nat) :
    (rb.get length).1 = q.take length ∧
      Rep (rb.get length).2 (r + (q.take length).length) (q.drop length) ∧
      (rb.get length).2.bufferSize = rb.bufferSize := by
  have room := rep.room
  unfold RtRingbuffer.get
  rw [rep.dataLen]
  by_cases none : q.length = 0
  · obtain rfl := List.length_eq_zero_iff.mp none
    rw [if_pos none, List.take_nil, List.drop_nil]
    exact ⟨rfl, rep, rfl⟩
  rw [if_neg none]
  have len : (if q.length < length then q.length else length) = (q.take length).length := by
    rw [List.length_take]
    split_ifs <;> omega
  have le : (q.take length).length ≤ q.length := List.length_take_le' _ _
  have drop : q.drop length = q.drop (q.take length).length := by
    rw [List.length_take]
    by_cases short : length ≤ q.length
    · rw [Nat.min_eq_left short]
    · rw [Nat.min_eq_right (by omega), List.drop_length, List.drop_of_length_le (by omega)]
  have taken : q.take length = window rb.bufferPtr rb.bufferSize r (q.take length).length := by
    rw [← window_take _ _ _ le, rep.content, List.length_take, List.take_eq_take_min, Nat.min_comm]
  have index := rep.readIndex_add (le.trans room)
  have side := rep.readMirror_add (le.trans room)
  simp only [len]
  rw [drop]
  split_ifs with near
  · rw [if_pos near] at index side
    refine ⟨?_, rep.skip le rfl rfl index.symm side.symm rfl rfl, rfl⟩
    rw [taken, window_length, rep.readIndex, window_linear]
    rw [rep.readIndex] at near
    omega
  · rw [if_neg near] at index side
    refine ⟨?_, rep.skip le rfl rfl index.symm side.symm rfl rfl, rfl⟩
    rw [taken, window_length, rep.readIndex, window_wrap _ rep.pos (le.trans room)]
    rw [rep.readIndex] at near
    omega

/-- The size of the first piece: up to the end of the queue or of the buffer. -/
def piece (rb : RtRingbuffer) (q : List UInt8) : Nat := min q.length (rb.bufferSize - rb.readIndex)

/-- The first piece of a queue has a byte. -/
lemma piece_pos (rep : Rep rb r q) (some : q ≠ []) : 0 < piece rb q := by
  have lt : rb.readIndex < rb.bufferSize := rep.readIndex ▸ Nat.mod_lt _ rep.pos
  exact Nat.lt_min.mpr ⟨List.length_pos_iff.mpr some, Nat.sub_pos_of_lt lt⟩

/-- The first piece lies in one stretch of the buffer. -/
lemma take_piece (rep : Rep rb r q) :
    q.take (piece rb q) = (rb.bufferPtr.shift rb.readIndex).toList (piece rb q) := by
  have lt : rb.readIndex < rb.bufferSize := rep.readIndex ▸ Nat.mod_lt _ rep.pos
  have fits : r % rb.bufferSize + piece rb q ≤ rb.bufferSize := by
    rw [← rep.readIndex, piece]
    omega
  have taken := window_take rb.bufferPtr rb.bufferSize r (show piece rb q ≤ q.length from
    Nat.min_le_left _ _)
  rw [rep.content] at taken
  rw [taken, window_linear _ fits, rep.readIndex]

/-- `rt_ringbuffer_get_direct` takes the first piece. -/
lemma getDirect (rep : Rep rb r q) :
    rb.getDirect.1 = q.take (piece rb q) ∧
      Rep rb.getDirect.2 (r + piece rb q) (q.drop (piece rb q)) ∧
      rb.getDirect.2.bufferSize = rb.bufferSize := by
  have room := rep.room
  have lt : rb.readIndex < rb.bufferSize := rep.readIndex ▸ Nat.mod_lt _ rep.pos
  have le : piece rb q ≤ q.length := Nat.min_le_left _ _
  have index := rep.readIndex_add (le.trans room)
  have side := rep.readMirror_add (le.trans room)
  rw [rep.take_piece]
  unfold RtRingbuffer.getDirect RingBuffer.getDirect
  rw [rep.dataLen]
  by_cases none : q.length = 0
  · obtain rfl := List.length_eq_zero_iff.mp none
    have zero : piece rb [] = 0 := Nat.zero_min _
    rw [if_pos none, zero, List.drop_nil]
    exact ⟨rfl, rep, rfl⟩
  rw [if_neg none]
  by_cases near : rb.bufferSize - rb.readIndex > q.length
  · have all : piece rb q = q.length := Nat.min_eq_left near.le
    rw [all, if_pos near] at index side
    rw [if_pos near, all]
    exact ⟨rfl, rep.skip le_rfl rfl rfl index.symm side.symm rfl rfl, rfl⟩
  · have most : piece rb q = rb.bufferSize - rb.readIndex := Nat.min_eq_right (Nat.le_of_not_lt near)
    rw [most, if_neg (Nat.lt_irrefl _)] at index side
    rw [Nat.sub_self] at index
    rw [if_neg near]
    rw [most] at le ⊢
    exact ⟨rfl, rep.skip le rfl rfl index.symm side.symm rfl rfl, rfl⟩

/-- `rt_ringbuffer_peek` shows the piece that `rt_ringbuffer_get_direct` would take. -/
lemma peek (rep : Rep rb r q) : rb.peek = q.take (piece rb q) := by
  rw [rep.take_piece, RtRingbuffer.peek, rep.dataLen, piece]
  split_ifs with none near
  · rw [none, Nat.zero_min]
    rfl
  · rw [Nat.min_eq_left near.le]
  · rw [Nat.min_eq_right (Nat.le_of_not_lt near)]

/-- `rt_ringbuffer_getchar` takes the first byte. -/
lemma getchar (rep : Rep rb r q) :
    rb.getchar.1 = q.head? ∧ Rep rb.getchar.2 (r + (q.take 1).length) (q.drop 1) ∧
      rb.getchar.2.bufferSize = rb.bufferSize := by
  unfold RtRingbuffer.getchar
  rw [rep.dataLen]
  cases q with
  | nil => exact ⟨rfl, rep, rfl⟩
  | cons b q =>
    obtain ⟨index, side⟩ := rep.read_one
    have first : rb.bufferPtr rb.readIndex = b := by
      have content := rep.content
      rw [List.length_cons, Nat.add_comm, window_append] at content
      rw [rep.readIndex]
      exact (List.cons.inj content).1
    rw [if_neg (List.length_pos_of_ne_nil (List.cons_ne_nil b q)).ne', first]
    dsimp only
    split_ifs at index side ⊢ with last
    · exact ⟨rfl, rep.skip (Nat.le_add_left 1 _) rfl rfl index.symm side.symm rfl rfl, rfl⟩
    · exact ⟨rfl, rep.skip (Nat.le_add_left 1 _) rfl rfl index.symm side.symm rfl rfl, rfl⟩

/-- A ring that is reset holds the empty queue. -/
lemma reset (rep : Rep rb r q) : Rep rb.reset 0 [] where
  pos := rep.pos
  readIndex := (Nat.zero_mod _).symm
  readMirror := by rw [mirror, Nat.zero_div]; rfl
  writeIndex := (Nat.zero_mod _).symm
  writeMirror := by rw [List.length_nil, mirror, Nat.zero_div]; rfl
  room := Nat.zero_le _
  content := rfl

end Rep

end Represents

/-! ## Refinement -/

/-- A call of one of the operations of a ring. -/
inductive RingOp where
  | put (ptr : List UInt8)
  | putForce (ptr : List UInt8)
  | get (length : Nat)
  | getDirect
  | peek
  | putchar (ch : UInt8)
  | putcharForce (ch : UInt8)
  | getchar
  | dataLen
  | reset
  deriving DecidableEq, Repr

/-- What a call returns: a size, or the bytes that are read. -/
inductive RingOut where
  | size (n : Nat)
  | bytes (l : List UInt8)
  deriving DecidableEq, Repr

/-- One call. -/
def RtRingbuffer.call (rb : RtRingbuffer) : RingOp → RingOut × RtRingbuffer
  | .put ptr => (.size (rb.put ptr).1, (rb.put ptr).2)
  | .putForce ptr => (.size (rb.putForce ptr).1, (rb.putForce ptr).2)
  | .get length => (.bytes (rb.get length).1, (rb.get length).2)
  | .getDirect => (.bytes rb.getDirect.1, rb.getDirect.2)
  | .peek => (.bytes rb.peek, rb)
  | .putchar ch => (.size (rb.putchar ch).1, (rb.putchar ch).2)
  | .putcharForce ch => (.size (rb.putcharForce ch).1, (rb.putcharForce ch).2)
  | .getchar => (.bytes rb.getchar.1.toList, rb.getchar.2)
  | .dataLen => (.size rb.dataLen, rb)
  | .reset => (.size 0, rb.reset)

/-- What the operations are for, on a queue of at most `cap` bytes. A direct access may stop short of
    the end of the queue but not at its beginning. -/
inductive Queue.Step (cap : Nat) : List UInt8 → RingOp → RingOut → List UInt8 → Prop where
  | put {q} (ptr : List UInt8) :
    Queue.Step cap q (.put ptr) (.size (min ptr.length (cap - q.length)))
      (q ++ ptr.take (cap - q.length))
  | putForce {q} (ptr : List UInt8) :
    Queue.Step cap q (.putForce ptr) (.size (min ptr.length cap)) ((q ++ ptr).rtake cap)
  | get {q} (length : Nat) : Queue.Step cap q (.get length) (.bytes (q.take length)) (q.drop length)
  | getDirect {q} (k : Nat) (progress : q ≠ [] → 0 < k) :
    Queue.Step cap q .getDirect (.bytes (q.take k)) (q.drop k)
  | peek {q} (k : Nat) (progress : q ≠ [] → 0 < k) : Queue.Step cap q .peek (.bytes (q.take k)) q
  | putchar {q} (ch : UInt8) (room : q.length < cap) :
    Queue.Step cap q (.putchar ch) (.size 1) (q ++ [ch])
  | putcharFull {q} (ch : UInt8) (full : q.length = cap) : Queue.Step cap q (.putchar ch) (.size 0) q
  | putcharForce {q} (ch : UInt8) :
    Queue.Step cap q (.putcharForce ch) (.size 1) ((q ++ [ch]).rtake cap)
  | getchar {q} : Queue.Step cap q .getchar (.bytes (q.take 1)) (q.drop 1)
  | dataLen {q} : Queue.Step cap q .dataLen (.size q.length) q
  | reset {q} : Queue.Step cap q .reset (.size 0) []

/-- The ring holds `q` and has `cap` cells. -/
def Holds (cap : Nat) (rb : RtRingbuffer) (q : List UInt8) : Prop :=
  rb.bufferSize = cap ∧ ∃ r, Rep rb r q

/-- One call does to the queue what it is for. -/
lemma Holds.call {cap : Nat} {rb : RtRingbuffer} {q : List UInt8} (holds : Holds cap rb q)
    (op : RingOp) : ∃ q', Queue.Step cap q op (rb.call op).1 q' ∧ Holds cap (rb.call op).2 q' := by
  obtain ⟨rfl, r, rep⟩ := holds
  cases op with
  | put ptr =>
    obtain ⟨rep', count, size⟩ := rep.put ptr
    refine ⟨_, ?_, size, r, rep'⟩
    rw [RtRingbuffer.call, count, List.length_take, Nat.min_comm]
    exact .put ptr
  | putForce ptr =>
    obtain ⟨rep', count, size⟩ := rep.putForce ptr
    refine ⟨_, ?_, size, _, rep'⟩
    have len : (ptr.rtake rb.bufferSize).length = min ptr.length rb.bufferSize := by
      rw [List.rtake, List.length_drop]
      omega
    rw [RtRingbuffer.call, count, len]
    exact .putForce ptr
  | get length =>
    obtain ⟨bytes, rep', size⟩ := rep.get length
    refine ⟨_, ?_, size, _, rep'⟩
    rw [RtRingbuffer.call, bytes]
    exact .get length
  | getDirect =>
    obtain ⟨bytes, rep', size⟩ := rep.getDirect
    refine ⟨_, ?_, size, _, rep'⟩
    rw [RtRingbuffer.call, bytes]
    exact .getDirect _ rep.piece_pos
  | peek =>
    refine ⟨q, ?_, rfl, r, rep⟩
    rw [RtRingbuffer.call, rep.peek]
    exact .peek _ rep.piece_pos
  | putchar ch =>
    obtain ⟨rep', count, size⟩ := rep.putchar ch
    by_cases full : q.length = rb.bufferSize
    · rw [full, Nat.sub_self, List.take_zero, List.append_nil] at rep'
      rw [full, Nat.sub_self] at count
      refine ⟨q, ?_, size, r, rep'⟩
      rw [RtRingbuffer.call, count]
      exact .putcharFull ch full
    · have room : q.length < rb.bufferSize := Nat.lt_of_le_of_ne rep.room full
      have one : [ch].take (rb.bufferSize - q.length) = [ch] :=
        List.take_of_length_le (Nat.sub_pos_of_lt room)
      rw [one] at rep' count
      refine ⟨_, ?_, size, r, rep'⟩
      rw [RtRingbuffer.call, count]
      exact .putchar ch room
  | putcharForce ch =>
    obtain ⟨rep', count, size⟩ := rep.putcharForce ch
    refine ⟨_, ?_, size, _, rep'⟩
    rw [RtRingbuffer.call, count]
    exact .putcharForce ch
  | getchar =>
    obtain ⟨byte, rep', size⟩ := rep.getchar
    refine ⟨_, ?_, size, _, rep'⟩
    have head : q.head?.toList = q.take 1 := by cases q <;> rfl
    rw [RtRingbuffer.call, byte, head]
    exact .getchar
  | dataLen =>
    refine ⟨q, ?_, rfl, r, rep⟩
    rw [RtRingbuffer.call, rep.dataLen]
    exact .dataLen
  | reset => exact ⟨[], .reset, rfl, 0, rep.reset⟩

/-- Whatever is done to a ring of at least one cell, it answers like a bounded queue. -/
theorem rtRingbuffer_refines_queue (pool : Mem) (size : Nat) (enough : rtAlignSize ≤ size)
    (ops : List RingOp) :
    ∃ q, Trace (Queue.Step (rtAlignDown size)) [] ops
        (answers RtRingbuffer.call (.init pool size) ops) q ∧
      (after RtRingbuffer.call (.init pool size) ops).dataLen = q.length ∧
      q.length ≤ rtAlignDown size := by
  have start : Holds (rtAlignDown size) (.init pool size) [] := ⟨rfl, 0, .init pool enough⟩
  obtain ⟨q, run, holds, _, rep⟩ := simulation (fun _ _ op holds => holds.call op) start ops
  exact ⟨q, run, rep.dataLen, holds ▸ rep.room⟩

/-- A ring of eight cells: a block that is too long, a forced one, and what is read after them. -/
theorem rtRingbuffer_refines_queue_eight :
    ∃ q, Trace (Queue.Step 8) [] [.put [1, 2, 3, 4, 5, 6, 7, 8, 9], .putForce [10, 11], .get 3]
        (answers RtRingbuffer.call (.init (fun _ => 0) 12)
          [.put [1, 2, 3, 4, 5, 6, 7, 8, 9], .putForce [10, 11], .get 3]) q ∧
      (after RtRingbuffer.call (.init (fun _ => 0) 12)
          [.put [1, 2, 3, 4, 5, 6, 7, 8, 9], .putForce [10, 11], .get 3]).dataLen = q.length ∧
      q.length ≤ 8 :=
  rtRingbuffer_refines_queue (fun _ => 0) 12 (by decide) _

end WlhHpm.Uart

import WlhHpm.Lib.Run
import WlhHpm.Uart.RtRingbuffer

/-!
# Transmission by DMA

The non-blocking transmit path of `components/drivers/serial/dev_serial_v2.c` over the DMA channel of
`libraries/drivers/drv_uart_v2.c`. A writer puts its bytes into the transmit ring. The one that
finds the path not activated starts the channel on the first piece of the ring; the interrupt at the
end of a piece takes the piece out of the ring and starts the next one, or clears `activated` when
the ring is empty.

Writers are threads that may be preempted between the test of `activated`, the locked access to the
ring and the start of the channel. The channel moves bytes out of the buffer of the ring whenever it is
enabled, and its interrupt may come between any two of these steps.

* `tx_stream_intact`: whatever the order of the steps, the bytes on the wire are the bytes that the
  writers were told are taken, none lost, repeated or reordered, up to those still in the ring.
* A writer that finds the path activated leaves the start to the interrupt. If the last interrupt
  comes before the writer has put its bytes, nobody starts the channel. `tx_never_stalls`: in every
  run in which this does not happen, bytes in the ring are always on their way.
-/

namespace WlhHpm.Uart

/-- C `rt_serial_get_linear_buffer`: where the first piece begins, and its size. -/
def RingBuffer.getLinearBuffer (rb : RingBuffer) : Nat × Nat :=
  if rb.dataLen = 0 then (0, 0)
  else if rb.bufferSize - rb.readIndex > rb.dataLen then (rb.readIndex, rb.dataLen)
  else (rb.readIndex, rb.bufferSize - rb.readIndex)

/-- C `rt_serial_update_read_index`; its length is 16 bits wide. -/
def RingBuffer.updateReadIndex (rb : RingBuffer) (length : Nat) : RingBuffer :=
  if rb.dataLen = 0 then rb
  else
    let length := if rb.dataLen < length % 2 ^ 16 then rb.dataLen else length % 2 ^ 16
    if rb.bufferSize - rb.readIndex > length then { rb with readIndex := rb.readIndex + length }
    else
      { rb with
        readMirror := !rb.readMirror
        readIndex := length - (rb.bufferSize - rb.readIndex) }

/-- The transmit channel of the DMA controller. -/
structure TxChannel where
  /-- Where the next byte is read, relative to the buffer of the ring. -/
  src : Nat
  remaining : Nat
  enabled : Bool
  /-- The terminal-count status. -/
  tc : Bool
  deriving DecidableEq, Repr

/-- Where a writer stands in `_serial_fifo_tx_nonblocking`. -/
inductive WriterPc where
  | idle
  /-- It has found the path not activated, and has activated it. -/
  | claimed (buffer : List UInt8)
  /-- It has put its bytes and is about to start the channel at `putPtr`. -/
  | started (putPtr : Nat)
  /-- It has found the path activated. -/
  | queued (buffer : List UInt8)
  deriving DecidableEq, Repr

/-- A writer that is to start the channel. -/
def WriterPc.Owner : WriterPc → Prop
  | .claimed _ => True
  | .started _ => True
  | _ => False

/-- C `struct rt_serial_tx_fifo` with the channel and the writers. -/
structure SerialTx where
  rb : RtRingbuffer
  putSize : Nat
  activated : Bool
  channel : TxChannel
  writers : Nat → WriterPc
  /-- The bytes that have left the UART. -/
  wire : List UInt8
  /-- For each write that has put its bytes: the buffer of the caller and the size that is returned. -/
  written : List (List UInt8 × Nat)

inductive TxAct where
  /-- Thread `t` writes a buffer. -/
  | write (t : Nat) (buffer : List UInt8)
  /-- Thread `t` goes on. -/
  | resume (t : Nat)
  /-- The channel moves a byte. -/
  | move
  /-- The interrupt of the channel is taken. -/
  | dmaIrq
  deriving DecidableEq, Repr

namespace SerialTx

/-- After `rt_serial_tx_enable` with the non-blocking flag. -/
def rtSerialTxEnable (pool : Mem) (txBufsz : UInt16) : SerialTx where
  rb := .init pool (if txBufsz.toNat < 64 then 64 else txBufsz.toNat)
  putSize := 0
  activated := false
  channel := ⟨0, 0, false, false⟩
  writers := fun _ => .idle
  wire := []
  written := []

/-- C `hpm_uart_transmit` with a DMA channel. -/
def hpmUartTransmit (s : SerialTx) (buf size : Nat) : SerialTx :=
  { s with channel := ⟨buf, size, true, false⟩ }

/-- The locked part of `_serial_fifo_tx_nonblocking`: put the bytes. -/
def putBytes (s : SerialTx) (buffer : List UInt8) : SerialTx :=
  { s with
    rb := (s.rb.put buffer).2
    written := s.written ++ [(buffer, (s.rb.put buffer).1)] }

def setWriter (s : SerialTx) (t : Nat) (pc : WriterPc) : SerialTx :=
  { s with writers := Function.update s.writers t pc }

/-- The entry of `_serial_fifo_tx_nonblocking`, up to the test of `activated`. -/
def write (s : SerialTx) (t : Nat) (buffer : List UInt8) : SerialTx :=
  match s.writers t with
  | .idle =>
    if buffer = [] then s
    else if s.activated then s.setWriter t (.queued buffer)
    else { s with activated := true }.setWriter t (.claimed buffer)
  | _ => s

/-- The rest of `_serial_fifo_tx_nonblocking`, one locked section or call at a time. -/
def resume (s : SerialTx) (t : Nat) : SerialTx :=
  match s.writers t with
  | .idle => s
  | .claimed buffer =>
    let s := s.putBytes buffer
    { s with putSize := s.rb.getLinearBuffer.2 }.setWriter t (.started s.rb.getLinearBuffer.1)
  | .started putPtr => (s.hpmUartTransmit putPtr s.putSize).setWriter t .idle
  | .queued buffer => (s.putBytes buffer).setWriter t .idle

/-- The channel moves a byte; the last one disables it and sets the terminal-count status. -/
def move (s : SerialTx) : SerialTx :=
  if s.channel.enabled = true ∧ s.channel.remaining ≠ 0 then
    { s with
      wire := s.wire ++ [s.rb.bufferPtr s.channel.src]
      channel :=
        { src := s.channel.src + 1
          remaining := s.channel.remaining - 1
          enabled := decide (s.channel.remaining ≠ 1)
          tc := decide (s.channel.remaining = 1) } }
  else s

/-- C `rt_hw_serial_isr` for `RT_SERIAL_EVENT_TX_DMADONE` of a non-blocking device. -/
def rtHwSerialIsr (s : SerialTx) : SerialTx :=
  let rb := { s.rb with toRingBuffer := s.rb.updateReadIndex s.putSize }
  if rb.dataLen ≠ 0 then
    { s with rb := rb, activated := true, putSize := rb.getLinearBuffer.2 }.hpmUartTransmit
      rb.getLinearBuffer.1 rb.getLinearBuffer.2
  else { s with rb := rb, activated := false }

/-- The interrupt handler clears the status and calls `uart_tx_done`. -/
def dmaIrq (s : SerialTx) : SerialTx :=
  if s.channel.tc then rtHwSerialIsr { s with channel := { s.channel with tc := false } } else s

/-- One step. -/
def step (s : SerialTx) : TxAct → SerialTx
  | .write t buffer => s.write t buffer
  | .resume t => s.resume t
  | .move => s.move
  | .dmaIrq => s.dmaIrq

/-- The bytes that the writers were told are taken. -/
def taken (s : SerialTx) : List UInt8 := s.written.flatMap fun w => w.1.take w.2

end SerialTx

/-! ## The ring under the path -/

namespace Rep
variable {rb : RtRingbuffer} {r k : Nat} {q : List UInt8}

/-- Moving the read index over `k` bytes. -/
lemma updateReadIndex (rep : Rep rb r q) (small : rb.bufferSize < 2 ^ 16) (le : k ≤ q.length) :
    Rep { rb with toRingBuffer := rb.updateReadIndex k } (r + k) (q.drop k) ∧
      (rb.updateReadIndex k).bufferSize = rb.bufferSize := by
  have room := rep.room
  have len : k % 2 ^ 16 = k := Nat.mod_eq_of_lt (by omega)
  have cut : (if q.length < k then q.length else k) = k := if_neg (by omega)
  have index := rep.readIndex_add (le.trans room)
  have side := rep.readMirror_add (le.trans room)
  unfold RingBuffer.updateReadIndex
  simp only [rep.dataLen, len, cut]
  by_cases none : q.length = 0
  · obtain rfl := List.length_eq_zero_iff.mp none
    obtain rfl : k = 0 := Nat.le_zero.mp le
    rw [if_pos none]
    exact ⟨rep, rfl⟩
  rw [if_neg none]
  split_ifs at index side ⊢ with near
  · exact ⟨rep.skip le rfl rfl index.symm side.symm rfl rfl, rfl⟩
  · exact ⟨rep.skip le rfl rfl index.symm side.symm rfl rfl, rfl⟩

/-- The first piece begins at the read index. -/
lemma getLinearBuffer (rep : Rep rb r q) (some : q ≠ []) :
    rb.getLinearBuffer = (rb.readIndex, piece rb q) := by
  have pos : q.length ≠ 0 := (List.length_pos_iff.mpr some).ne'
  rw [RingBuffer.getLinearBuffer, rep.dataLen, if_neg pos, piece]
  split_ifs with near
  · rw [Nat.min_eq_left near.le]
  · rw [Nat.min_eq_right (Nat.le_of_not_lt near)]

/-- A byte of the first piece. -/
lemma byte (rep : Rep rb r q) (lt : k < piece rb q) (inside : k < q.length) :
    rb.bufferPtr (rb.readIndex + k) = q[k] := by
  have bytes := congrArg (fun l => l[k]?) rep.take_piece
  simp only [List.getElem?_take_of_lt lt, List.getElem?_eq_getElem inside, Mem.toList,
    List.getElem?_map, List.getElem?_range lt] at bytes
  exact (Option.some.inj bytes).symm

/-- Bytes put behind the queue leave the front piece where it is. -/
lemma put_front (rep : Rep rb r q) (ptr : List UInt8) :
    (rb.put ptr).2.readIndex = rb.readIndex ∧
      piece rb q ≤ piece (rb.put ptr).2 (q ++ ptr.take (rb.bufferSize - q.length)) := by
  obtain ⟨rep', _, size⟩ := rep.put ptr
  have same : (rb.put ptr).2.readIndex = rb.readIndex := by
    rw [rep'.readIndex, size, rep.readIndex]
  refine ⟨same, ?_⟩
  rw [piece, piece, same, size, List.length_append]
  omega

end Rep

namespace SerialTx
variable {s : SerialTx} {q : List UInt8}

/-! ## The phases of the path -/

/-- The channel is off and raises no interrupt. -/
structure Off (s : SerialTx) : Prop where
  enabled : s.channel.enabled = false
  tc : s.channel.tc = false

/-- A piece of `putSize` bytes from the front of the ring, of which `moved` have left it. -/
structure Sending (s : SerialTx) (q : List UInt8) (moved : Nat) : Prop where
  activated : s.activated = true
  nobody : ∀ t, ¬ (s.writers t).Owner
  pos : 0 < s.putSize
  front : s.putSize ≤ Rep.piece s.rb q
  src : s.channel.src = s.rb.readIndex + moved
  remaining : s.channel.remaining + moved = s.putSize
  enabled : s.channel.enabled = decide (s.channel.remaining ≠ 0)
  tc : s.channel.tc = decide (s.channel.remaining = 0)

/-- What the path is doing while the ring holds `q`; `moved` bytes of `q` are on the wire already. -/
inductive Phase (s : SerialTx) (q : List UInt8) : Nat → Prop where
  | quiet (off : s.Off) (activated : s.activated = false) (nobody : ∀ t, ¬ (s.writers t).Owner) :
    Phase s q 0
  | owned (off : s.Off) (activated : s.activated = true) (t : Nat)
    (owner : (s.writers t).Owner) (only : ∀ t', (s.writers t').Owner → t' = t)
    (claimed : ∀ buffer, s.writers t = .claimed buffer → buffer ≠ [])
    (started : ∀ putPtr, s.writers t = .started putPtr →
      putPtr = s.rb.readIndex ∧ 0 < s.putSize ∧ s.putSize ≤ Rep.piece s.rb q) : Phase s q 0
  | sending {moved : Nat} (sending : s.Sending q moved) : Phase s q moved

/-- The ring holds `q`, of which `moved` bytes are on the wire; the others are what has been taken and is
    not yet there. -/
structure Inv (s : SerialTx) (q : List UInt8) (moved : Nat) : Prop where
  rep : ∃ r, Rep s.rb r q
  small : s.rb.bufferSize < 2 ^ 16
  phase : s.Phase q moved
  stream : s.taken = s.wire ++ q.drop moved

/-- The writer that has moved. -/
lemma setWriter_self (s : SerialTx) (t : Nat) (pc : WriterPc) : (s.setWriter t pc).writers t = pc := by
  simp only [setWriter, Function.update_self]

/-- The other writers. -/
lemma setWriter_of_ne (s : SerialTx) {t t' : Nat} (pc : WriterPc) (ne : t' ≠ t) :
    (s.setWriter t pc).writers t' = s.writers t' := by
  simp only [setWriter, Function.update_of_ne ne]

/-- What is on the wire was in the ring. -/
lemma Phase.moved_le {moved : Nat} (phase : s.Phase q moved) : moved ≤ q.length := by
  cases phase with
  | quiet => exact Nat.zero_le _
  | owned => exact Nat.zero_le _
  | sending sending =>
    have front := sending.front
    have remaining := sending.remaining
    have piece : Rep.piece s.rb q ≤ q.length := Nat.min_le_left _ _
    omega

/-- A change of a writer that is not to start the channel, before or after it. -/
lemma Phase.setWriter {moved t : Nat} {pc : WriterPc} (phase : s.Phase q moved)
    (old : ¬ (s.writers t).Owner) (new : ¬ pc.Owner) : (s.setWriter t pc).Phase q moved := by
  have owner (t' : Nat) (own : ((s.setWriter t pc).writers t').Owner) : (s.writers t').Owner := by
    by_cases same : t' = t
    · subst same
      rw [setWriter_self] at own
      exact absurd own new
    · rwa [setWriter_of_ne s pc same] at own
  cases phase with
  | quiet off activated nobody =>
    exact .quiet ⟨off.enabled, off.tc⟩ activated fun t' own => nobody t' (owner t' own)
  | owned off activated t₀ own only claimed started =>
    have ne : t₀ ≠ t := by
      rintro rfl
      exact old own
    have kept : (s.setWriter t pc).writers t₀ = s.writers t₀ := setWriter_of_ne s pc ne
    refine .owned ⟨off.enabled, off.tc⟩ activated t₀ (kept.symm ▸ own) ?_ ?_ ?_
    · intro t' own'
      exact only t' (owner t' own')
    · intro buffer at'
      exact claimed buffer (kept.symm.trans at')
    · intro putPtr at'
      exact started putPtr (kept.symm.trans at')
  | sending sending =>
    exact .sending { sending with nobody := fun t' own => sending.nobody t' (owner t' own) }

/-- The bytes for which `rt_ringbuffer_put` finds room. -/
def fit (s : SerialTx) (q buffer : List UInt8) : List UInt8 :=
  buffer.take (s.rb.bufferSize - q.length)

/-- The writer is told how many bytes have found room. -/
lemma taken_putBytes {r : Nat} (rep : Rep s.rb r q) (buffer : List UInt8) :
    (s.putBytes buffer).taken = s.taken ++ s.fit q buffer := by
  obtain ⟨_, count, _⟩ := rep.put buffer
  have exact : buffer.take (s.fit q buffer).length = s.fit q buffer := by
    rw [fit, List.length_take, ← List.take_eq_take_min]
  rw [taken, putBytes, List.flatMap_append, List.flatMap_singleton, count]
  exact congrArg _ exact

/-- Bytes put behind the queue do not disturb the path. -/
lemma Phase.putBytes {r moved : Nat} (phase : s.Phase q moved) (rep : Rep s.rb r q)
    (buffer : List UInt8) : (s.putBytes buffer).Phase (q ++ s.fit q buffer) moved := by
  obtain ⟨read, front⟩ := rep.put_front buffer
  cases phase with
  | quiet off activated nobody => exact .quiet ⟨off.enabled, off.tc⟩ activated nobody
  | owned off activated t owner only claimed started =>
    refine .owned ⟨off.enabled, off.tc⟩ activated t owner only claimed ?_
    intro putPtr at'
    obtain ⟨ptr, pos, le⟩ := started putPtr at'
    exact ⟨ptr.trans read.symm, pos, le.trans front⟩
  | sending sending =>
    exact .sending { sending with
      front := sending.front.trans front
      src := sending.src.trans (congrArg (· + moved) read.symm) }

/-- The bytes that have found room are behind the others. -/
lemma Inv.putBytes {moved : Nat} (inv : s.Inv q moved) (buffer : List UInt8) :
    (s.putBytes buffer).Inv (q ++ s.fit q buffer) moved := by
  obtain ⟨r, rep⟩ := inv.rep
  obtain ⟨rep', _, size⟩ := rep.put buffer
  constructor
  case rep => exact ⟨r, rep'⟩
  case small => exact size.symm ▸ inv.small
  case phase => exact inv.phase.putBytes rep buffer
  case stream =>
    rw [taken_putBytes rep, inv.stream, List.drop_append_of_le_length inv.phase.moved_le,
      List.append_assoc]
    rfl

/-- The test of `activated`. -/
lemma Inv.write {moved : Nat} (inv : s.Inv q moved) (t : Nat) (buffer : List UInt8) :
    (s.write t buffer).Inv q moved := by
  unfold SerialTx.write
  cases pc : s.writers t with
  | idle =>
    have old : ¬ (s.writers t).Owner := by
      rw [pc]
      exact id
    dsimp only
    split_ifs with empty active
    · exact inv
    · exact { inv with phase := inv.phase.setWriter old id }
    · refine { inv with phase := ?_ }
      cases inv.phase with
      | quiet off activated nobody =>
        have claimed := setWriter_self { s with activated := true } t (.claimed buffer)
        refine .owned ⟨off.enabled, off.tc⟩ rfl t (claimed.symm ▸ trivial) ?_ ?_ ?_
        · intro t' own
          by_contra other
          rw [setWriter_of_ne _ _ other] at own
          exact nobody t' own
        · intro buffer' at'
          cases claimed.symm.trans at'
          exact empty
        · intro putPtr at'
          cases claimed.symm.trans at'
      | owned _ activated => exact absurd activated active
      | sending sending => exact absurd sending.activated active
  | claimed => exact inv
  | started => exact inv
  | queued => exact inv

/-- A writer that is to start the channel is the only one, and the channel is off. -/
lemma Phase.of_owner {moved t : Nat} (phase : s.Phase q moved) (own : (s.writers t).Owner) :
    moved = 0 ∧ s.Off ∧ s.activated = true ∧ (∀ t', (s.writers t').Owner → t' = t) ∧
      (∀ buffer, s.writers t = .claimed buffer → buffer ≠ []) ∧
      ∀ putPtr, s.writers t = .started putPtr →
        putPtr = s.rb.readIndex ∧ 0 < s.putSize ∧ s.putSize ≤ Rep.piece s.rb q := by
  cases phase with
  | quiet _ _ nobody => exact absurd own (nobody t)
  | owned off activated t₀ _ only claimed started =>
    obtain rfl := only t own
    exact ⟨rfl, off, activated, only, claimed, started⟩
  | sending sending => exact absurd own (sending.nobody t)

/-- A put of something leaves the ring with something in it. -/
lemma append_fit_ne_nil {r : Nat} (rep : Rep s.rb r q) {buffer : List UInt8} (some : buffer ≠ []) :
    q ++ s.fit q buffer ≠ [] := by
  intro empty
  obtain ⟨rfl, none⟩ := List.append_eq_nil_iff.mp empty
  rcases List.take_eq_nil_iff.mp none with none | none
  · exact absurd none (Nat.sub_pos_of_lt rep.pos).ne'
  · exact some none

/-- A writer that goes on keeps the invariant. -/
lemma Inv.resume {moved : Nat} (inv : s.Inv q moved) (t : Nat) :
    ∃ q', (s.resume t).Inv q' moved := by
  unfold SerialTx.resume
  cases pc : s.writers t with
  | idle => exact ⟨q, inv⟩
  | claimed buffer =>
    have own : (s.writers t).Owner := by
      rw [pc]
      exact trivial
    have inv' := inv.putBytes buffer
    obtain ⟨r, rep⟩ := inv.rep
    obtain ⟨r', rep'⟩ := inv'.rep
    obtain ⟨rfl, off, activated, only, claimed, _⟩ := inv.phase.of_owner own
    have some := append_fit_ne_nil rep (claimed buffer pc)
    refine ⟨_, { inv' with phase := ?_ }⟩
    have started := setWriter_self
      { s.putBytes buffer with putSize := (s.putBytes buffer).rb.getLinearBuffer.2 } t
      (.started (s.putBytes buffer).rb.getLinearBuffer.1)
    refine .owned ⟨off.enabled, off.tc⟩ activated t (started.symm ▸ trivial) ?_ ?_ ?_
    · intro t' own'
      by_contra other
      rw [setWriter_of_ne _ _ other] at own'
      exact other (only t' own')
    · intro buffer' at'
      cases started.symm.trans at'
    · intro putPtr at'
      cases started.symm.trans at'
      have linear := rep'.getLinearBuffer some
      refine ⟨congrArg Prod.fst linear, ?_, ?_⟩
      · exact (rep'.piece_pos some).trans_eq (congrArg Prod.snd linear).symm
      · exact (congrArg Prod.snd linear).le
  | started putPtr =>
    have own : (s.writers t).Owner := by
      rw [pc]
      exact trivial
    obtain ⟨rfl, off, activated, only, _, started⟩ := inv.phase.of_owner own
    obtain ⟨rfl, pos, front⟩ := started putPtr pc
    refine ⟨q, { inv with phase := .sending ?_ }⟩
    constructor
    case activated => exact activated
    case nobody =>
      intro t' own'
      by_cases same : t' = t
      · rw [same, setWriter_self] at own'
        exact own'
      · rw [setWriter_of_ne _ _ same] at own'
        exact same (only t' own')
    case pos => exact pos
    case front => exact front
    case src => rfl
    case remaining => rfl
    case enabled => exact (decide_eq_true pos.ne').symm
    case tc => exact (decide_eq_false pos.ne').symm
  | queued buffer =>
    have old : ¬ ((s.putBytes buffer).writers t).Owner := by
      rw [SerialTx.putBytes, pc]
      exact id
    have inv' := inv.putBytes buffer
    exact ⟨_, { inv' with phase := inv'.phase.setWriter old id }⟩

/-- A channel that is on has a piece. -/
lemma Phase.of_enabled {moved : Nat} (phase : s.Phase q moved) (on : s.channel.enabled = true) :
    s.Sending q moved := by
  cases phase with
  | quiet off => exact absurd (off.enabled.symm.trans on) Bool.false_ne_true
  | owned off => exact absurd (off.enabled.symm.trans on) Bool.false_ne_true
  | sending sending => exact sending

/-- A channel with the terminal-count status has a piece. -/
lemma Phase.of_tc {moved : Nat} (phase : s.Phase q moved) (on : s.channel.tc = true) :
    s.Sending q moved := by
  cases phase with
  | quiet off => exact absurd (off.tc.symm.trans on) Bool.false_ne_true
  | owned off => exact absurd (off.tc.symm.trans on) Bool.false_ne_true
  | sending sending => exact sending

/-- The channel moves a byte of the ring. -/
lemma Inv.move {moved : Nat} (inv : s.Inv q moved) : ∃ moved', s.move.Inv q moved' := by
  unfold SerialTx.move
  split_ifs with on
  · obtain ⟨enabled, some⟩ := on
    have sending := inv.phase.of_enabled enabled
    obtain ⟨r, rep⟩ := inv.rep
    have remaining := sending.remaining
    have lt : moved < Rep.piece s.rb q := by
      have := sending.front
      omega
    have inside : moved < q.length := lt.trans_le (Nat.min_le_left _ _)
    refine ⟨moved + 1, inv.rep, inv.small, .sending ?_, ?_⟩
    · refine { sending with src := ?_, remaining := ?_, enabled := ?_, tc := ?_ }
      · rw [sending.src, Nat.add_assoc]
      · simp only
        omega
      · simp only [decide_eq_decide]
        omega
      · simp only [decide_eq_decide]
        omega
    · rw [sending.src, rep.byte lt inside, List.append_assoc, List.singleton_append,
        List.getElem_cons_drop]
      exact inv.stream
  · exact ⟨moved, inv⟩

/-- The interrupt at the end of a piece: the next piece is started, or the path is given free. -/
lemma Inv.dmaIrq {moved : Nat} (inv : s.Inv q moved) (tc : s.channel.tc = true) :
    s.dmaIrq.Inv (q.drop s.putSize) 0 ∧ s.dmaIrq.writers = s.writers ∧
      (s.dmaIrq.activated = false ↔ q.drop s.putSize = []) := by
  have sending := inv.phase.of_tc tc
  have done : moved = s.putSize := by
    have none := of_decide_eq_true (sending.tc.symm.trans tc)
    have := sending.remaining
    omega
  have off : s.channel.enabled = false := by
    have none := of_decide_eq_true (sending.tc.symm.trans tc)
    exact sending.enabled.trans (decide_eq_false (not_not_intro none))
  have le : s.putSize ≤ q.length := sending.front.trans (Nat.min_le_left _ _)
  obtain ⟨r, rep⟩ := inv.rep
  obtain ⟨rep', size⟩ := rep.updateReadIndex inv.small le
  have stream := inv.stream
  rw [done] at stream
  rw [SerialTx.dmaIrq, if_pos tc, SerialTx.rtHwSerialIsr]
  dsimp only
  by_cases last : q.drop s.putSize = []
  · have none : (s.rb.updateReadIndex s.putSize).dataLen = 0 := by
      rw [rep'.dataLen, last, List.length_nil]
    rw [if_neg (not_not_intro none)]
    exact ⟨⟨⟨_, rep'⟩, size.trans_lt inv.small, .quiet ⟨off, rfl⟩ rfl sending.nobody, stream⟩, rfl,
      ⟨fun _ => last, fun _ => rfl⟩⟩
  · have some : (s.rb.updateReadIndex s.putSize).dataLen ≠ 0 := by
      rw [rep'.dataLen]
      exact (List.length_pos_iff.mpr last).ne'
    have linear := rep'.getLinearBuffer last
    have pos := rep'.piece_pos last
    rw [if_pos some]
    refine ⟨⟨⟨_, rep'⟩, size.trans_lt inv.small, .sending ?_, stream⟩, rfl,
      ⟨fun off => absurd off Bool.true_eq_false.mp, fun none => absurd none last⟩⟩
    rw [linear]
    exact
      { activated := rfl
        nobody := sending.nobody
        pos := pos
        front := le_rfl
        src := rfl
        remaining := rfl
        enabled := (decide_eq_true pos.ne').symm
        tc := (decide_eq_false pos.ne').symm }

/-- Every step keeps the invariant. -/
lemma Inv.step {moved : Nat} (inv : s.Inv q moved) (a : TxAct) :
    ∃ q' moved', (s.step a).Inv q' moved' := by
  cases a with
  | write t buffer => exact ⟨q, moved, inv.write t buffer⟩
  | resume t =>
    obtain ⟨q', inv'⟩ := inv.resume t
    exact ⟨q', moved, inv'⟩
  | move =>
    obtain ⟨moved', inv'⟩ := inv.move
    exact ⟨q, moved', inv'⟩
  | dmaIrq =>
    by_cases tc : s.channel.tc = true
    · exact ⟨_, 0, (inv.dmaIrq tc).1⟩
    · rw [SerialTx.step, SerialTx.dmaIrq, if_neg tc]
      exact ⟨q, moved, inv⟩

/-- The ring is empty and the channel off at first. -/
lemma Inv.rtSerialTxEnable (pool : Mem) (txBufsz : UInt16) :
    (rtSerialTxEnable pool txBufsz).Inv [] 0 := by
  have enough : rtAlignSize ≤ if txBufsz.toNat < 64 then 64 else txBufsz.toNat := by
    rw [rtAlignSize]
    split_ifs <;> omega
  have small : rtAlignDown (if txBufsz.toNat < 64 then 64 else txBufsz.toNat) < 2 ^ 16 := by
    have bound : txBufsz.toNat < 2 ^ 16 := txBufsz.toNat_lt
    have down := Nat.div_mul_le_self (if txBufsz.toNat < 64 then 64 else txBufsz.toNat) rtAlignSize
    rw [rtAlignDown]
    split_ifs at down ⊢ <;> omega
  exact ⟨⟨0, .init pool enough⟩, small, .quiet ⟨rfl, rfl⟩ rfl fun _ => id, rfl⟩

/-- Every state of a run is a consistent one. -/
lemma Inv.run (pool : Mem) (txBufsz : UInt16) (run : List TxAct) :
    ∃ q moved, (run.foldl SerialTx.step (.rtSerialTxEnable pool txBufsz)).Inv q moved := by
  apply foldl_invariant (I := fun s : SerialTx => ∃ q moved, s.Inv q moved)
  · rintro s a ⟨q, moved, inv⟩
    exact inv.step a
  · exact ⟨[], 0, .rtSerialTxEnable pool txBufsz⟩

/-! ## Bytes that nobody sends -/

/-- An interrupt that empties the ring does not come between the test and the put of a writer. -/
def InTime (s : SerialTx) (a : TxAct) : Prop :=
  a = .dmaIrq → s.channel.tc = true → s.rb.dataLen ≤ s.putSize →
    ∀ t buffer, s.writers t ≠ .queued buffer

/-- While the path is free, the ring is empty and no writer is about to put something. -/
def Calm (s : SerialTx) : Prop :=
  s.activated = false → s.rb.dataLen = 0 ∧ ∀ t buffer, s.writers t ≠ .queued buffer

/-- Nothing is asked of a path in use. -/
lemma Calm.of_activated (activated : s.activated = true) : s.Calm :=
  fun free => absurd (free.symm.trans activated) Bool.false_ne_true

/-- The entry of a writer keeps the path calm. -/
lemma Calm.write (calm : s.Calm) (t : Nat) (buffer : List UInt8) : (s.write t buffer).Calm := by
  unfold SerialTx.write
  cases s.writers t with
  | idle =>
    dsimp only
    split_ifs with empty active
    · exact calm
    · exact .of_activated active
    · exact .of_activated rfl
  | claimed => exact calm
  | started => exact calm
  | queued => exact calm

/-- A writer that goes on keeps the path calm. -/
lemma Calm.resume {moved : Nat} (calm : s.Calm) (inv : s.Inv q moved) (t : Nat) :
    (s.resume t).Calm := by
  unfold SerialTx.resume
  cases pc : s.writers t with
  | idle => exact calm
  | claimed buffer =>
    have own : (s.writers t).Owner := pc.symm ▸ trivial
    exact .of_activated (inv.phase.of_owner own).2.2.1
  | started putPtr =>
    have own : (s.writers t).Owner := pc.symm ▸ trivial
    exact .of_activated (inv.phase.of_owner own).2.2.1
  | queued buffer =>
    -- a writer waits for the interrupt, so the path is not free
    apply Calm.of_activated
    exact Bool.of_not_eq_false fun free => (calm free).2 t buffer pc

/-- An interrupt in time keeps the path calm. -/
lemma Calm.dmaIrq {moved : Nat} (calm : s.Calm) (inv : s.Inv q moved) (inTime : s.InTime .dmaIrq) :
    s.dmaIrq.Calm := by
  by_cases tc : s.channel.tc = true
  · obtain ⟨inv', writers, free⟩ := inv.dmaIrq tc
    intro off
    have none := free.mp off
    obtain ⟨r, rep⟩ := inv.rep
    obtain ⟨r', rep'⟩ := inv'.rep
    have drained : s.rb.dataLen ≤ s.putSize := by
      rw [rep.dataLen]
      exact List.drop_eq_nil_iff.mp none
    rw [writers, rep'.dataLen, none]
    exact ⟨rfl, inTime rfl tc drained⟩
  · rw [SerialTx.dmaIrq, if_neg tc]
    exact calm

/-- Every step in time keeps the path calm. -/
lemma Calm.step {moved : Nat} (calm : s.Calm) (inv : s.Inv q moved) {a : TxAct}
    (inTime : s.InTime a) : (s.step a).Calm := by
  cases a with
  | write t buffer => exact calm.write t buffer
  | resume t => exact calm.resume inv t
  | move =>
    rw [SerialTx.step, SerialTx.move]
    split_ifs
    · exact calm
    · exact calm
  | dmaIrq => exact calm.dmaIrq inv inTime

/-- Nobody is sending or about to send. -/
structure Stalled (s : SerialTx) : Prop extends s.Off where
  nobody : ∀ t, ¬ (s.writers t).Owner

/-- Nobody is sending or about to send exactly when the path is free. -/
lemma Phase.stalled_iff {moved : Nat} (phase : s.Phase q moved) :
    s.Stalled ↔ s.activated = false := by
  cases phase with
  | quiet off activated nobody => exact ⟨fun _ => activated, fun _ => ⟨off, nobody⟩⟩
  | owned _ activated t own =>
    refine ⟨fun stalled => absurd own (stalled.nobody t), fun free => ?_⟩
    exact absurd (free.symm.trans activated) Bool.false_ne_true
  | sending sending =>
    refine ⟨fun stalled => ?_, fun free => ?_⟩
    · have off := sending.enabled.symm.trans stalled.enabled
      have quiet := sending.tc.symm.trans stalled.tc
      exact absurd (not_not.mp (of_decide_eq_false off)) (of_decide_eq_false quiet)
    · exact absurd (free.symm.trans sending.activated) Bool.false_ne_true

end SerialTx

/-! ## Whole runs -/

/-- The bytes on the wire are those that the writers were told are taken, up to what the ring holds. -/
theorem tx_stream_intact (pool : Mem) (txBufsz : UInt16) (run : List TxAct) :
    let s := run.foldl SerialTx.step (.rtSerialTxEnable pool txBufsz)
    ∃ rest, s.taken = s.wire ++ rest ∧ rest.length ≤ s.rb.dataLen ∧
      (s.activated = false → rest.length = s.rb.dataLen) := by
  obtain ⟨q, moved, inv⟩ := SerialTx.Inv.run pool txBufsz run
  obtain ⟨r, rep⟩ := inv.rep
  refine ⟨q.drop moved, inv.stream, ?_, ?_⟩
  · rw [rep.dataLen, List.length_drop]
    exact Nat.sub_le _ _
  · intro idle
    cases inv.phase with
    | quiet => rw [rep.dataLen, List.drop_zero]
    | owned _ activated => exact absurd (idle.symm.trans activated) Bool.false_ne_true
    | sending sending => exact absurd (idle.symm.trans sending.activated) Bool.false_ne_true

/-- Bytes in the ring are on their way, and everything is on the wire once the path is quiet, as long
    as no last interrupt comes between the test and the put of a writer. -/
theorem tx_never_stalls (pool : Mem) (txBufsz : UInt16) (run : List TxAct)
    (inTime : Along SerialTx.step SerialTx.InTime (.rtSerialTxEnable pool txBufsz) run) :
    let s := run.foldl SerialTx.step (.rtSerialTxEnable pool txBufsz)
    s.Stalled → s.rb.dataLen = 0 ∧ s.wire = s.taken := by
  intro s stalled
  have reach : (∃ q moved, s.Inv q moved) ∧ s.Calm := by
    refine inTime.invariant (I := fun s : SerialTx => (∃ q moved, s.Inv q moved) ∧ s.Calm) ?_
      ⟨⟨[], 0, .rtSerialTxEnable pool txBufsz⟩, fun _ => ⟨rfl, fun _ _ => nofun⟩⟩
    rintro s a ⟨⟨q, moved, inv⟩, calm⟩ ok
    exact ⟨inv.step a, calm.step inv ok⟩
  obtain ⟨⟨q, moved, inv⟩, calm⟩ := reach
  obtain ⟨r, rep⟩ := inv.rep
  have empty := (calm (inv.phase.stalled_iff.mp stalled)).1
  refine ⟨empty, ?_⟩
  rw [inv.stream, List.length_eq_zero_iff.mp (rep.dataLen.symm.trans empty), List.drop_nil,
    List.append_nil]

/-- A second writer puts a byte while the first piece is on its way, and has another one in its hands
    when the interrupt comes. -/
def secondWriter : List TxAct :=
  [.write 0 [1, 2], .resume 0, .write 1 [3], .resume 0, .resume 1, .write 1 [4], .move, .move, .dmaIrq,
    .resume 1, .move, .dmaIrq, .move, .dmaIrq]

/-- The bytes of both writers are on the wire in the end. -/
theorem tx_never_stalls_second_writer :
    let s := secondWriter.foldl SerialTx.step (.rtSerialTxEnable (fun _ => 0) 64)
    s.rb.dataLen = 0 ∧ s.wire = s.taken ∧ s.wire = [1, 2, 3, 4] := by
  intro s
  have idle : ∀ t, s.writers t = .idle
    | 0 => rfl
    | 1 => rfl
    | _ + 2 => rfl
  have inTime : Along SerialTx.step SerialTx.InTime (.rtSerialTxEnable (fun _ => 0) 64) secondWriter := by
    -- the first two interrupts leave bytes in the ring, and at the third no writer is left
    refine ⟨nofun, nofun, nofun, nofun, nofun, nofun, nofun, nofun, ?_, nofun, nofun, ?_, nofun, ?_,
      trivial⟩
    · exact fun _ _ drained => absurd drained (by decide)
    · exact fun _ _ drained => absurd drained (by decide)
    · intro _ _ _ t buffer queued
      cases (idle t).symm.trans queued
  have sent := tx_never_stalls (fun _ => 0) 64 secondWriter inTime
    ⟨⟨rfl, rfl⟩, fun t own => (congrArg WriterPc.Owner (idle t)).mp own⟩
  exact ⟨sent.1, sent.2, by decide⟩

/-- Exactly the writers that the last interrupt overtakes are left behind: their bytes stay in the ring
    and nobody sends them. -/
theorem tx_stranded_iff (pool : Mem) (txBufsz : UInt16) (run : List TxAct) (t : Nat)
    (buffer : List UInt8) :
    let s := run.foldl SerialTx.step (.rtSerialTxEnable pool txBufsz)
    s.channel.tc = true → s.writers t = .queued buffer → buffer ≠ [] →
      ((s.dmaIrq.resume t).Stalled ∧ (s.dmaIrq.resume t).rb.dataLen ≠ 0 ↔
        s.rb.dataLen ≤ s.putSize) := by
  intro s tc pc some
  obtain ⟨q, moved, inv⟩ := SerialTx.Inv.run pool txBufsz run
  obtain ⟨inv', writers, free⟩ := inv.dmaIrq tc
  obtain ⟨r, rep⟩ := inv.rep
  obtain ⟨r', rep'⟩ := inv'.rep
  have pc' : s.dmaIrq.writers t = .queued buffer := writers ▸ pc
  have resumed : s.dmaIrq.resume t = (s.dmaIrq.putBytes buffer).setWriter t .idle := by
    rw [SerialTx.resume, pc']
  obtain ⟨q', inv''⟩ := inv'.resume t
  have drained : s.rb.dataLen ≤ s.putSize ↔ s.dmaIrq.activated = false := by
    rw [free, rep.dataLen, List.drop_eq_nil_iff]
  have holds : (s.dmaIrq.resume t).rb.dataLen ≠ 0 := by
    have put := (rep'.put buffer).1.dataLen
    have ne := SerialTx.append_fit_ne_nil rep' some
    rw [resumed]
    exact put.trans_ne (List.length_pos_iff.mpr ne).ne'
  have same : (s.dmaIrq.resume t).activated = s.dmaIrq.activated := by
    rw [resumed]
    rfl
  rw [inv''.phase.stalled_iff, same, drained]
  exact ⟨And.left, fun free => ⟨free, holds⟩⟩

/-- The second of two writers comes too late. -/
theorem tx_stranded_iff_second :
    let s := [.write 0 [1], .resume 0, .resume 0, .write 1 [2], .move].foldl SerialTx.step
      (.rtSerialTxEnable (fun _ => 0) 64)
    (s.dmaIrq.resume 1).Stalled ∧ (s.dmaIrq.resume 1).rb.dataLen ≠ 0 ↔ s.rb.dataLen ≤ s.putSize :=
  tx_stranded_iff (fun _ => 0) 64 [.write 0 [1], .resume 0, .resume 0, .write 1 [2], .move] 1 [2] rfl
    rfl (by decide)

end WlhHpm.Uart

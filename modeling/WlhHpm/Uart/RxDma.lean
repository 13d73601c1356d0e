import WlhHpm.Lib.Run
import WlhHpm.Uart.RingBuffer

/-!
# UART reception by DMA

The receive path of `libraries/drivers/drv_uart_v2.c`. Bytes arrive in the FIFO of the UART, and a DMA
channel moves them into the ping buffer. When a block is complete the terminal-count callback
`uart_rx_done` commits it to the main ring and starts the next block at the running offset; when the
line goes quiet `hpm_uart_rx_dma_timeout` stops the channel, commits the part of the block that has
arrived, drains the FIFO into the main ring and starts the rest of the block again.

Interrupts do not nest (`startup/HPM6360/trap.c`), so one handler runs at a time, in pieces
(`HandlerPc`): bytes arrive between any two of them, and the channel moves bytes whenever it is
enabled. The channel stops within the retries of the handler and its count is exact after that;
a run in which it is not so, or in which the FIFO overruns, is not `Sound`.

The driver takes the size of the ping buffer from the configuration while the ring over it has that
size rounded down to a multiple of `RT_ALIGN_SIZE`. `rx_stream_intact_iff` says that no byte is lost,
duplicated or reordered, and that the driver and the ring agree, in every sound run exactly if the
size is such a multiple. With any other size the first full block is cut (`rx_stream_cut`).
-/

namespace WlhHpm.Uart

/-- `UART_SOC_FIFO_SIZE`. -/
def uartSocFifoSize : Nat := 16

/-- `RT_SERIAL_RX_MINBUFSZ`. -/
def rtSerialRxMinbufsz : Nat := 64

/-- The size of the ping buffer that `rt_serial_rx_enable` settles on, given the configured one. -/
def dmaPingBufsz (configured : UInt16) : Nat :=
  if configured.toNat < rtSerialRxMinbufsz / 2 then rtSerialRxMinbufsz / 2 else configured.toNat

/-- The receive channel of the DMA controller. -/
structure DmaChannel where
  /-- Where the next byte goes, relative to the ping buffer. -/
  dst : Nat
  /-- The remaining-size register. -/
  remaining : Nat
  enabled : Bool
  /-- The terminal-count status. -/
  tc : Bool
  tcMasked : Bool
  deriving DecidableEq, Repr

/-- Where the handler that runs stands. -/
inductive HandlerPc where
  /-- No handler runs. -/
  | idle
  /-- `hpm_uart_rx_dma_timeout` has told the channel to stop. -/
  | aborting
  /-- The channel has stopped. -/
  | stopped
  /-- The loop over the FIFO has read `count` bytes. -/
  | draining (count : Nat)
  /-- The loop is over. -/
  | drained
  /-- The next block is started. -/
  | restarted
  /-- `uart_rx_done` has committed its block. -/
  | committed
  deriving DecidableEq, Repr

/-- The UART with its channel, the state of the driver (C `struct hpm_uart`) and the two rings. -/
structure HpmUart where
  fifo : List UInt8
  ping : Mem
  channel : DmaChannel
  rxDmaOffset : Nat
  rxDmaActiveSize : Nat
  rxDmaFlushInProgress : Bool
  /-- `config.dma_ping_bufsz`. -/
  pingSize : Nat
  /-- `dma_ping_rb`. -/
  ring : RingBuffer
  /-- The bytes put into the main ring. -/
  rb : List UInt8
  pc : HandlerPc
  /-- A handler has left because of sizes that do not fit. -/
  mismatch : Bool
  /-- The bytes that have arrived at the UART. -/
  received : List UInt8

inductive UartAct where
  /-- A byte arrives. -/
  | arrive (b : UInt8)
  /-- The channel moves a byte. -/
  | move
  /-- The DMA interrupt is taken. -/
  | dmaIrq
  /-- The character-timeout interrupt is taken. -/
  | timeout
  /-- The handler goes on; `stops` and `count` are what it learns about the channel. -/
  | run (stops : Bool) (count : Nat)
  deriving DecidableEq, Repr

namespace HpmUart

/-- After `hpm_uart_dma_config`, with the ping buffer as it is found. -/
def hpmUartDmaConfig (configured : UInt16) (ping : Mem) : HpmUart where
  fifo := []
  ping := ping
  channel := ⟨0, dmaPingBufsz configured, true, false, false⟩
  rxDmaOffset := 0
  rxDmaActiveSize := dmaPingBufsz configured
  rxDmaFlushInProgress := false
  pingSize := dmaPingBufsz configured
  ring := .init (dmaPingBufsz configured)
  rb := []
  pc := .idle
  mismatch := false
  received := []

/-- A byte arrives in the FIFO; it is lost if the FIFO is full. -/
def arrive (u : HpmUart) (b : UInt8) : HpmUart :=
  { u with
    fifo := if u.fifo.length < uartSocFifoSize then u.fifo ++ [b] else u.fifo
    received := u.received ++ [b] }

/-- The channel stores `b`. The last byte of a block disables the channel and sets the terminal-count
    status. -/
def store (u : HpmUart) (b : UInt8) (fifo : List UInt8) : HpmUart :=
  { u with
    fifo := fifo
    ping := Function.update u.ping u.channel.dst b
    channel :=
      { u.channel with
        dst := u.channel.dst + 1
        remaining := u.channel.remaining - 1
        enabled := decide (u.channel.remaining ≠ 1)
        tc := u.channel.tc || decide (u.channel.remaining = 1) } }

/-- The channel moves the first byte of the FIFO. -/
def move (u : HpmUart) : HpmUart :=
  if u.channel.enabled = true ∧ u.channel.remaining ≠ 0 then
    match u.fifo with
    | [] => u
    | b :: fifo => u.store b fifo
  else u

/-- Commit `received` bytes of the ping buffer and move the offset over them (in `uart_rx_done` and in
    `hpm_uart_rx_dma_timeout`). -/
def commit (u : HpmUart) (received : Nat) : HpmUart :=
  let result := rtHwSerialIsr u.ring u.ping u.rb received
  { u with
    rxDmaOffset :=
      if u.rxDmaOffset + received = u.pingSize then 0 else u.rxDmaOffset + received
    rxDmaActiveSize := 0
    ring := result.1
    rb := result.2 }

/-- C `hpm_uart_receive_dma_next`. -/
def hpmUartReceiveDmaNext (u : HpmUart) : HpmUart :=
  let offset := if u.rxDmaOffset ≥ u.pingSize then 0 else u.rxDmaOffset
  { u with
    rxDmaOffset := offset
    rxDmaActiveSize := u.pingSize - offset
    channel :=
      { u.channel with dst := offset, remaining := u.pingSize - offset, enabled := true } }

/-- C `uart_rx_done`, up to the start of the next block. -/
def uartRxDone (u : HpmUart) : HpmUart :=
  if u.rxDmaFlushInProgress = true ∨ u.rxDmaActiveSize = 0 then u
  else if u.rxDmaOffset + u.rxDmaActiveSize > u.pingSize then
    { u with rxDmaActiveSize := 0, mismatch := true }
  else { u.commit u.rxDmaActiveSize with pc := .committed }

/-- C `dma_mgr_isr_handler`: the terminal-count status is read and cleared, and the callback runs if the
    interrupt is not masked. -/
def dmaIsr (u : HpmUart) : HpmUart :=
  let u' := { u with channel := { u.channel with tc := false } }
  if u.channel.tcMasked = false ∧ u.channel.tc = true then u'.uartRxDone else u'

/-- The beginning of `hpm_uart_rx_dma_timeout`. -/
def timeoutEnter (u : HpmUart) : HpmUart :=
  if u.rxDmaFlushInProgress = true ∨ u.rxDmaActiveSize = 0 then u
  else
    { u with
      rxDmaFlushInProgress := true
      channel := { u.channel with tcMasked := true }
      pc := .aborting }

/-- `hpm_uart_wait_rx_dma_stopped` in `hpm_uart_rx_dma_timeout`. -/
def timeoutStop (u : HpmUart) (stops : Bool) : HpmUart :=
  if stops then { u with channel := { u.channel with enabled := false }, pc := .stopped }
  else { u with rxDmaActiveSize := 0, rxDmaFlushInProgress := false, pc := .idle }

/-- `hpm_uart_rx_dma_timeout` with the remaining size it has read, up to its loop over the FIFO. -/
def timeoutCommit (u : HpmUart) (remaining : Nat) : HpmUart :=
  let u := { u with channel := { u.channel with tc := false } }
  let received := u.rxDmaActiveSize - remaining
  let fail := { u with
    rxDmaActiveSize := 0
    rxDmaFlushInProgress := false
    mismatch := true
    pc := .idle }
  if remaining > u.rxDmaActiveSize then fail
  else if received > 0 ∧ u.rxDmaOffset + received ≤ u.pingSize then
    { u.commit received with pc := .draining 0 }
  else if received > 0 then fail
  else { u with rxDmaActiveSize := 0, pc := .draining 0 }

/-- A pass of the loop over the FIFO. -/
def timeoutDrain (u : HpmUart) (count : Nat) : HpmUart :=
  match u.fifo with
  | [] => { u with pc := .drained }
  | b :: fifo =>
    if count < uartSocFifoSize then
      { u with fifo := fifo, rb := u.rb ++ [b], pc := .draining (count + 1) }
    else { u with pc := .drained }

/-- The end of `hpm_uart_rx_dma_timeout`. -/
def timeoutLeave (u : HpmUart) : HpmUart :=
  { u with
    rxDmaFlushInProgress := false
    channel := { u.channel with tcMasked := false }
    pc := .idle }

/-- The next piece of the handler that runs. -/
def handler (u : HpmUart) (stops : Bool) (count : Nat) : HpmUart :=
  match u.pc with
  | .idle => u
  | .aborting => u.timeoutStop stops
  | .stopped => u.timeoutCommit count
  | .draining read => u.timeoutDrain read
  | .drained => { u.hpmUartReceiveDmaNext with pc := .restarted }
  | .restarted => u.timeoutLeave
  | .committed => { u.hpmUartReceiveDmaNext with pc := .idle }

def step (u : HpmUart) : UartAct → HpmUart
  | .arrive b => u.arrive b
  | .move => u.move
  | .dmaIrq => if u.pc = .idle then u.dmaIsr else u
  | .timeout => if u.pc = .idle then u.timeoutEnter else u
  | .run stops count => u.handler stops count

/-- The FIFO does not overrun, the channel stops, and its count is read as it is. -/
def Sound (u : HpmUart) : UartAct → Prop
  | .arrive _ => u.fifo.length < uartSocFifoSize
  | .run stops count =>
    (u.pc = .aborting → stops = true) ∧ (u.pc = .stopped → count = u.channel.remaining)
  | _ => True

/-- The bytes of the block that are in the ping buffer and not committed. -/
def pending (u : HpmUart) : List UInt8 :=
  (u.ping.shift u.rxDmaOffset).toList (u.rxDmaActiveSize - u.channel.remaining)

/-- The main ring, the ping buffer and the FIFO hold the bytes received, the framework and the driver
    agree on the offset, the block fits, and no handler has met sizes that do not. -/
structure Intact (u : HpmUart) : Prop where
  stream : u.rb ++ u.pending ++ u.fifo = u.received
  index : u.ring.readIndex = u.rxDmaOffset ∧ u.ring.writeIndex = u.rxDmaOffset
  block : u.rxDmaOffset + u.rxDmaActiveSize ≤ u.pingSize
  exits : u.mismatch = false

/-! ## The invariant -/

end HpmUart

/-- A block is on its way in the channel, or complete. -/
def HandlerPc.Armed : HandlerPc → Prop
  | .idle => True
  | .aborting => True
  | .stopped => True
  | .restarted => True
  | _ => False

namespace HpmUart

/-- What holds between any two pieces of the handlers if the ring covers the whole ping buffer. -/
structure Inv (u : HpmUart) : Prop where
  small : u.pingSize < 2 ^ 16
  size : u.ring.bufferSize = u.pingSize
  offset : u.rxDmaOffset < u.pingSize
  ring : u.ring.EmptyAt u.rxDmaOffset
  exits : u.mismatch = false
  stream : u.rb ++ u.pending ++ u.fifo = u.received
  /-- The block reaches to the end of the ping buffer. -/
  armed : u.pc.Armed → u.rxDmaActiveSize = u.pingSize - u.rxDmaOffset ∧
    u.channel.remaining ≤ u.rxDmaActiveSize ∧ u.channel.dst + u.channel.remaining = u.pingSize
  off : ¬ u.pc.Armed →
    u.rxDmaActiveSize = 0 ∧ u.channel.enabled = false ∧ u.channel.tc = false
  done : u.channel.tc = true → u.channel.remaining = 0 ∧ u.channel.enabled = false
  halted : u.pc = .stopped → u.channel.enabled = false

section Inv
variable {u : HpmUart}

/-- The invariant has what is asked of the bytes. -/
lemma Inv.intact (inv : u.Inv) : u.Intact := by
  refine ⟨inv.stream, ⟨inv.ring.read, inv.ring.write⟩, ?_, inv.exits⟩
  have lt := inv.offset
  by_cases on : u.pc.Armed
  · have active := (inv.armed on).1
    omega
  · have none := (inv.off on).1
    omega

/-- Nothing is pending while no block is on its way. -/
lemma pending_of_inactive (none : u.rxDmaActiveSize = 0) : u.pending = [] := by
  rw [pending, none, Nat.zero_sub]
  rfl

/-- A byte that finds room in the FIFO keeps the invariant. -/
lemma Inv.arrive (inv : u.Inv) {b : UInt8} (room : u.fifo.length < uartSocFifoSize) :
    (u.arrive b).Inv := by
  refine ⟨inv.small, inv.size, inv.offset, inv.ring, inv.exits, ?_, inv.armed, inv.off, inv.done,
    inv.halted⟩
  have stream : u.rb ++ u.pending ++ (u.fifo ++ [b]) = u.received ++ [b] := by
    rw [← List.append_assoc, inv.stream]
  simp only [HpmUart.arrive, if_pos room]
  exact stream

/-- The byte that the channel moves is the next one of the block. -/
lemma Inv.move (inv : u.Inv) : u.move.Inv := by
  unfold HpmUart.move
  split
  · rename_i going
    have on : u.pc.Armed := by
      by_contra out
      rw [(inv.off out).2.1] at going
      cases going.1
    obtain ⟨active, le, end_eq⟩ := inv.armed on
    have lt := inv.offset
    split
    · exact inv
    · rename_i b fifo first
      refine ⟨inv.small, inv.size, inv.offset, inv.ring, inv.exits, ?_, fun _ => ?_,
        fun out => absurd on out, fun tc => ?_, fun halt => ?_⟩
      · have count : u.rxDmaActiveSize - (u.channel.remaining - 1) =
            u.rxDmaActiveSize - u.channel.remaining + 1 := by omega
        have next : u.channel.dst =
            u.rxDmaOffset + (u.rxDmaActiveSize - u.channel.remaining) := by omega
        simp only [pending, store]
        rw [count, next, Mem.toList_shift_update]
        have old := inv.stream
        rw [first, pending] at old
        rw [← old, List.append_assoc, List.append_assoc, List.append_assoc]
        rfl
      · exact ⟨active, by simp only [store]; omega, by simp only [store]; omega⟩
      · have last : u.channel.tc = true ∨ u.channel.remaining = 1 := by
          simpa [store] using tc
        rcases last with early | last
        · exact absurd (inv.done early).1 going.2
        · simp [store, last]
      · rw [inv.halted halt] at going
        cases going.1
  · exact inv

/-- What a commit of the bytes in the ping buffer does, if there are any. -/
lemma Inv.commit_pending (inv : u.Inv) (on : u.pc.Armed)
    (some : u.channel.remaining < u.rxDmaActiveSize) :
    let u' := u.commit (u.rxDmaActiveSize - u.channel.remaining)
    u'.rb = u.rb ++ u.pending ∧ u'.ring.EmptyAt u'.rxDmaOffset ∧
      u'.ring.bufferSize = u.pingSize ∧ u'.rxDmaOffset < u.pingSize := by
  intro u'
  obtain ⟨active, le, -⟩ := inv.armed on
  have lt := inv.offset
  have pos : 0 < u.rxDmaActiveSize - u.channel.remaining := by omega
  have fits : u.rxDmaOffset + (u.rxDmaActiveSize - u.channel.remaining) ≤ u.pingSize := by omega
  obtain ⟨put, empty, size⟩ := rtHwSerialIsr_commit inv.ring (inv.size ▸ inv.small) pos
    (inv.size ▸ fits)
  have offset : u'.rxDmaOffset = RingBuffer.behind u.ring.bufferSize u.rxDmaOffset
      (u.rxDmaActiveSize - u.channel.remaining) := by
    rw [RingBuffer.behind, inv.size]
    rfl
  refine ⟨put, ?_, size.trans inv.size, ?_⟩
  · rw [offset]
    exact empty
  · rw [offset, RingBuffer.behind, inv.size]
    split <;> omega

/-- After a commit no block is on its way. -/
lemma Inv.committed (inv : u.Inv) (on : u.pc.Armed)
    (some : u.channel.remaining < u.rxDmaActiveSize) (pc : HandlerPc) (out : ¬ pc.Armed)
    (channel : DmaChannel) (off : channel.enabled = false ∧ channel.tc = false) :
    Inv { u.commit (u.rxDmaActiveSize - u.channel.remaining) with channel, pc } := by
  obtain ⟨put, empty, size, lt⟩ := inv.commit_pending on some
  refine ⟨inv.small, size, lt, empty, inv.exits, ?_, fun armed => absurd armed out,
    fun _ => ⟨rfl, off⟩, fun tc => ?_, fun _ => off.1⟩
  · rw [pending_of_inactive rfl, List.append_nil, put]
    exact inv.stream
  · rw [off.2] at tc
    cases tc

/-- The same block under another program counter, with the terminal count cleared or kept. -/
lemma Inv.goes_on (inv : u.Inv) (on : u.pc.Armed) (pc : HandlerPc) (on' : pc.Armed)
    (channel : DmaChannel) (flush : Bool) (dst : channel.dst = u.channel.dst)
    (remaining : channel.remaining = u.channel.remaining)
    (done : channel.tc = true → channel.remaining = 0 ∧ channel.enabled = false)
    (halted : pc = .stopped → channel.enabled = false) :
    Inv { u with channel, pc, rxDmaFlushInProgress := flush } := by
  refine ⟨inv.small, inv.size, inv.offset, inv.ring, inv.exits, ?_, fun _ => ?_,
    fun out => absurd on' out, done, halted⟩
  · simp only [pending, remaining]
    exact inv.stream
  · simp only [dst, remaining]
    exact inv.armed on

/-- The terminal-count interrupt keeps the invariant. -/
lemma Inv.dmaIsr (inv : u.Inv) (idle : u.pc = .idle) : u.dmaIsr.Inv := by
  have on : u.pc.Armed := by
    rw [idle]
    trivial
  have cleared : Inv { u with channel := { u.channel with tc := false } } := by
    refine inv.goes_on on u.pc on { u.channel with tc := false } u.rxDmaFlushInProgress rfl rfl
      (fun tc => ?_) inv.halted
    cases tc
  unfold HpmUart.dmaIsr
  simp only
  split
  · rename_i taken
    obtain ⟨zero, halted⟩ := inv.done taken.2
    obtain ⟨active, -, -⟩ := inv.armed on
    have lt := inv.offset
    have pos : u.channel.remaining < u.rxDmaActiveSize := by omega
    unfold uartRxDone
    split
    · exact cleared
    · split
      · rename_i past
        simp only at past
        omega
      · have all : u.rxDmaActiveSize - u.channel.remaining = u.rxDmaActiveSize := by omega
        have committed := inv.committed on pos .committed id { u.channel with tc := false }
          ⟨halted, rfl⟩
        rw [all] at committed
        exact committed
  · exact cleared

/-- The beginning of the timeout keeps the invariant. -/
lemma Inv.timeoutEnter (inv : u.Inv) (idle : u.pc = .idle) : u.timeoutEnter.Inv := by
  have on : u.pc.Armed := by
    rw [idle]
    trivial
  unfold HpmUart.timeoutEnter
  split
  · exact inv
  · exact inv.goes_on on .aborting trivial { u.channel with tcMasked := true } true rfl rfl
      inv.done (fun h => by cases h)

/-- The stop of the channel keeps the invariant. -/
lemma Inv.timeoutStop (inv : u.Inv) (pc : u.pc = .aborting) : (u.timeoutStop true).Inv := by
  have on : u.pc.Armed := by
    rw [pc]
    trivial
  refine inv.goes_on on .stopped trivial { u.channel with enabled := false }
    u.rxDmaFlushInProgress rfl rfl (fun tc => ?_) (fun _ => rfl)
  exact ⟨(inv.done tc).1, rfl⟩

/-- The commit of the bytes in the ping buffer keeps the invariant. -/
lemma Inv.timeoutCommit (inv : u.Inv) (pc : u.pc = .stopped) :
    (u.timeoutCommit u.channel.remaining).Inv := by
  have on : u.pc.Armed := by
    rw [pc]
    trivial
  have halted := inv.halted pc
  obtain ⟨active, le, -⟩ := inv.armed on
  have lt := inv.offset
  unfold HpmUart.timeoutCommit
  simp only
  rw [if_neg (by omega)]
  by_cases some : u.channel.remaining < u.rxDmaActiveSize
  · rw [if_pos ⟨by omega, by omega⟩]
    exact inv.committed on some (.draining 0) id { u.channel with tc := false } ⟨halted, rfl⟩
  · have none : ¬ u.rxDmaActiveSize - u.channel.remaining > 0 := by omega
    rw [if_neg fun h => none h.1, if_neg none]
    refine ⟨inv.small, inv.size, inv.offset, inv.ring, inv.exits, ?_, fun h => h.elim,
      fun _ => ⟨rfl, halted, rfl⟩, fun tc => ?_, fun _ => halted⟩
    · have empty : u.pending = [] := by
        rw [pending, Nat.eq_zero_of_not_pos none]
        rfl
      have old := inv.stream
      rw [empty] at old
      rw [pending_of_inactive rfl]
      exact old
    · cases tc

/-- A byte of the FIFO goes past the ping buffer while that holds nothing. -/
lemma Inv.timeoutDrain (inv : u.Inv) {count : Nat} (pc : u.pc = .draining count) :
    (u.timeoutDrain count).Inv := by
  have out : ¬ u.pc.Armed := by
    rw [pc]
    exact id
  obtain ⟨active, halted, tc⟩ := inv.off out
  have old := inv.stream
  rw [pending_of_inactive active, List.append_nil] at old
  have closed (fifo rb : List UInt8) (pc' : HandlerPc) (out' : ¬ pc'.Armed)
      (stream : rb ++ fifo = u.received) : Inv { u with fifo, rb, pc := pc' } := by
    refine ⟨inv.small, inv.size, inv.offset, inv.ring, inv.exits, ?_, fun on => absurd on out',
      fun _ => ⟨active, halted, tc⟩, inv.done, fun _ => halted⟩
    have none : pending { u with fifo, rb, pc := pc' } = [] := pending_of_inactive active
    rw [none, List.append_nil]
    exact stream
  unfold HpmUart.timeoutDrain
  split
  · exact closed u.fifo u.rb .drained id old
  · rename_i b fifo first
    split
    · refine closed fifo (u.rb ++ [b]) (.draining (count + 1)) id ?_
      rw [List.append_assoc, ← old, first]
      rfl
    · exact closed u.fifo u.rb .drained id old

/-- The next block begins behind the offset. -/
lemma Inv.next (inv : u.Inv) (out : ¬ u.pc.Armed) (pc : HandlerPc) (on : pc.Armed)
    (going : pc ≠ .stopped) : Inv { u.hpmUartReceiveDmaNext with pc } := by
  obtain ⟨active, -, tc⟩ := inv.off out
  have lt := inv.offset
  have same : (if u.rxDmaOffset ≥ u.pingSize then 0 else u.rxDmaOffset) = u.rxDmaOffset :=
    if_neg (Nat.not_le_of_gt lt)
  unfold hpmUartReceiveDmaNext
  simp only [same]
  refine ⟨inv.small, inv.size, inv.offset, inv.ring, inv.exits, ?_, fun _ => ?_,
    fun out' => absurd on out', fun now => ?_, fun halt => absurd halt going⟩
  · have old := inv.stream
    rw [pending_of_inactive active] at old
    simp only [pending, Nat.sub_self]
    exact old
  · exact ⟨rfl, Nat.le_refl _, by simp only; omega⟩
  · have never := tc.symm.trans now
    cases never

/-- Every sound step keeps the invariant. -/
lemma Inv.step (inv : u.Inv) {a : UartAct} (sound : u.Sound a) : (u.step a).Inv := by
  cases a with
  | arrive b => exact inv.arrive sound
  | move => exact inv.move
  | dmaIrq =>
    simp only [HpmUart.step]
    split
    · rename_i idle
      exact inv.dmaIsr idle
    · exact inv
  | timeout =>
    simp only [HpmUart.step]
    split
    · rename_i idle
      exact inv.timeoutEnter idle
    · exact inv
  | run stops count =>
    obtain ⟨stop, exact_count⟩ := sound
    simp only [HpmUart.step, handler]
    split
    · exact inv
    · rename_i pc
      rw [stop pc]
      exact inv.timeoutStop pc
    · rename_i pc
      rw [exact_count pc]
      exact inv.timeoutCommit pc
    · rename_i read pc
      exact inv.timeoutDrain pc
    · rename_i pc
      exact inv.next (by rw [pc]; exact id) .restarted trivial (fun h => by cases h)
    · rename_i pc
      have on : u.pc.Armed := by
        rw [pc]
        trivial
      exact inv.goes_on on .idle trivial { u.channel with tcMasked := false } false rfl rfl
        inv.done (fun h => by cases h)
    · rename_i pc
      exact inv.next (by rw [pc]; exact id) .idle trivial (fun h => by cases h)

end Inv

/-- The ping buffer has at least 32 bytes, and its size fits in 16 bits. -/
lemma dmaPingBufsz_bounds (configured : UInt16) :
    32 ≤ dmaPingBufsz configured ∧ dmaPingBufsz configured < 2 ^ 16 := by
  have lt := configured.toNat_lt
  unfold dmaPingBufsz rtSerialRxMinbufsz
  split <;> omega

/-- The invariant holds after `hpm_uart_dma_config` if the ring covers the ping buffer. -/
lemma inv_config {configured : UInt16} (ping : Mem)
    (aligned : rtAlignSize ∣ dmaPingBufsz configured) : (hpmUartDmaConfig configured ping).Inv := by
  obtain ⟨le, lt⟩ := dmaPingBufsz_bounds configured
  have pos : 0 < dmaPingBufsz configured := by omega
  refine ⟨lt, Nat.div_mul_cancel aligned, pos, RingBuffer.emptyAt_init _, rfl, ?_, fun _ => ?_,
    fun out => absurd trivial out, fun tc => ?_, fun halt => ?_⟩
  · simp only [hpmUartDmaConfig, pending, Nat.sub_self]
    rfl
  · exact ⟨rfl, Nat.le_refl _, Nat.zero_add _⟩
  · cases tc
  · cases halt

/-! ## A block that is longer than the ring -/

/-- Bytes that arrive one by one and are moved at once. -/
def fill (n : Nat) : List UartAct := (List.replicate n [.arrive 0, .move]).flatten

/-- The first block after `n` bytes. -/
structure Filled (size n : Nat) (u : HpmUart) : Prop where
  fifo : u.fifo = []
  remaining : u.channel.remaining = size - n
  enabled : n < size → u.channel.enabled = true
  tc : n = size → u.channel.tc = true
  unmasked : u.channel.tcMasked = false
  offset : u.rxDmaOffset = 0
  active : u.rxDmaActiveSize = size
  flush : u.rxDmaFlushInProgress = false
  pingSize : u.pingSize = size
  ring : u.ring = .init size
  rb : u.rb = []
  pc : u.pc = .idle
  received : u.received.length = n

/-- One more byte in the first block. -/
lemma Filled.next {size n : Nat} {u : HpmUart} (filled : Filled size n u) (lt : n < size) :
    Along step Sound u [.arrive 0, .move] ∧
      Filled size (n + 1) ([.arrive 0, .move].foldl step u) := by
  have room : u.fifo.length < uartSocFifoSize := by
    rw [filled.fifo]
    decide
  refine ⟨⟨room, trivial, trivial⟩, ?_⟩
  have going : (u.arrive 0).channel.enabled = true ∧ (u.arrive 0).channel.remaining ≠ 0 := by
    refine ⟨filled.enabled lt, ?_⟩
    have left : u.channel.remaining ≠ 0 := by
      rw [filled.remaining]
      omega
    exact left
  have fifo : (u.arrive 0).fifo = [0] := by
    simp only [arrive, filled.fifo, List.length_nil, List.nil_append]
    rfl
  have moved : [UartAct.arrive 0, .move].foldl step u = (u.arrive 0).store 0 [] := by
    simp only [List.foldl_cons, List.foldl_nil, step, move]
    rw [if_pos going, fifo]
  rw [moved]
  constructor <;> simp only [store, arrive, filled.remaining, filled.unmasked, filled.offset,
    filled.active, filled.flush, filled.pingSize, filled.ring, filled.rb, filled.pc,
    List.length_append, List.length_singleton, filled.received]
  · omega
  · intro _
    exact decide_eq_true (by omega)
  · intro last
    rw [decide_eq_true (show size - n = 1 by omega), Bool.or_true]

/-- Bytes that arrive one by one fill the first block. -/
lemma filled_fill {size n : Nat} {u : HpmUart} (filled : Filled size 0 u) (le : n ≤ size) :
    Along step Sound u (fill n) ∧ Filled size n ((fill n).foldl step u) := by
  induction n with
  | zero => exact ⟨trivial, filled⟩
  | succ n ih =>
    obtain ⟨sound, before⟩ := ih (Nat.le_of_succ_le le)
    obtain ⟨sound', after⟩ := before.next le
    have split : fill (n + 1) = fill n ++ [.arrive 0, .move] := by
      simp only [fill, List.replicate_succ', List.flatten_append, List.flatten_cons,
        List.flatten_nil, List.append_nil]
    rw [split, along_append, List.foldl_append]
    exact ⟨⟨sound, sound'⟩, after⟩

/-- The interrupt at the end of the first block. -/
lemma Filled.dmaIrq {size : Nat} {u : HpmUart} (full : Filled size size u) (pos : 0 < size) :
    (u.step .dmaIrq).fifo = [] ∧ (u.step .dmaIrq).pending = [] ∧
      (u.step .dmaIrq).rb = (rtHwSerialIsr (.init size) u.ping [] size).2 ∧
      (u.step .dmaIrq).received = u.received := by
  have done : u.step .dmaIrq =
      { commit { u with channel := { u.channel with tc := false } } u.rxDmaActiveSize with
        pc := .committed } := by
    simp only [step, dmaIsr, uartRxDone]
    rw [if_pos full.pc, if_pos ⟨full.unmasked, full.tc rfl⟩, if_neg, if_neg]
    · rw [full.offset, full.active, full.pingSize]
      omega
    · rw [full.flush, full.active]
      rintro (flush | none)
      · cases flush
      · omega
  rw [done]
  refine ⟨full.fifo, pending_of_inactive rfl, ?_, rfl⟩
  simp only [commit, full.ring, full.rb, full.active]

/-- If the ring does not cover the ping buffer, the first full block is cut. -/
lemma filled_cut {configured : UInt16} (ping : Mem)
    (unaligned : ¬ rtAlignSize ∣ dmaPingBufsz configured) :
    Along step Sound (hpmUartDmaConfig configured ping)
        (fill (dmaPingBufsz configured) ++ [UartAct.dmaIrq]) ∧
      ¬ Intact ((fill (dmaPingBufsz configured) ++ [UartAct.dmaIrq]).foldl step
        (hpmUartDmaConfig configured ping)) := by
  obtain ⟨le, small⟩ := dmaPingBufsz_bounds configured
  have pos : 0 < dmaPingBufsz configured := by omega
  have start : Filled (dmaPingBufsz configured) 0 (hpmUartDmaConfig configured ping) := by
    refine ⟨rfl, rfl, fun _ => rfl, fun none => ?_, rfl, rfl, rfl, rfl, rfl, rfl, rfl, rfl, rfl⟩
    exact absurd none.symm (Nat.ne_of_gt pos)
  obtain ⟨sound, full⟩ := filled_fill start (Nat.le_refl _)
  rw [along_append, List.foldl_append]
  refine ⟨⟨sound, trivial, trivial⟩, fun intact => ?_⟩
  generalize (fill (dmaPingBufsz configured)).foldl step (hpmUartDmaConfig configured ping) = u
    at full intact
  obtain ⟨fifo, pending, rb, received⟩ := full.dmaIrq pos
  have stream : (u.step .dmaIrq).rb = u.received := by
    have whole := intact.stream
    simpa only [List.foldl_cons, List.foldl_nil, fifo, pending, received, List.append_nil] using whole
  -- the ring is shorter than the block, so fewer bytes are committed than were received
  have shorter : rtAlignDown (dmaPingBufsz configured) < dmaPingBufsz configured := by
    refine lt_of_le_of_ne (Nat.div_mul_le_self _ _) fun same => unaligned ?_
    exact ⟨_, ((Nat.mul_comm _ _).trans same).symm⟩
  have some : 0 < rtAlignDown (dmaPingBufsz configured) := by
    unfold rtAlignDown rtAlignSize
    omega
  have cut : (u.step .dmaIrq).rb = [] ++ u.ping.toList (rtAlignDown (dmaPingBufsz configured)) :=
    rb.trans (rtHwSerialIsr_cut (RingBuffer.emptyAt_init _) some small shorter)
  have length := congrArg List.length (cut.symm.trans stream)
  rw [List.nil_append, Mem.toList_length, full.received] at length
  omega

/-- In every run without overruns in which the channel stops and its count is exact, the stream is
    intact, if and only if the size of the ping buffer is a multiple of `RT_ALIGN_SIZE`. -/
theorem rx_stream_intact_iff (configured : UInt16) (ping : Mem) :
    (∀ acts, Along step Sound (hpmUartDmaConfig configured ping) acts →
      (acts.foldl step (hpmUartDmaConfig configured ping)).Intact) ↔
    rtAlignSize ∣ dmaPingBufsz configured := by
  constructor
  · intro all
    by_contra unaligned
    obtain ⟨sound, cut⟩ := filled_cut ping unaligned
    exact cut (all _ sound)
  · intro aligned acts sound
    exact (sound.invariant (fun u a inv ok => inv.step ok) (inv_config ping aligned)).intact

/-- With 36 bytes the ring has 32: of the first full block of 36 bytes, 32 are committed. -/
theorem rx_stream_cut :
    let u := (fill 36 ++ [UartAct.dmaIrq]).foldl step (hpmUartDmaConfig 36 fun _ => 0)
    Along step Sound (hpmUartDmaConfig 36 fun _ => 0) (fill 36 ++ [UartAct.dmaIrq]) ∧
      ¬ u.Intact ∧ u.received.length = 36 ∧ u.rb.length = 32 ∧ u.pending = [] ∧ u.fifo = [] := by
  have unaligned : ¬ rtAlignSize ∣ dmaPingBufsz 36 := by decide
  obtain ⟨sound, cut⟩ := filled_cut (fun _ => 0) unaligned
  exact ⟨sound, cut, by decide +kernel, by decide +kernel, by decide +kernel, by decide +kernel⟩

end HpmUart

end WlhHpm.Uart

import WlhHpm.Usb.Range

/-!
# Sessions of a host with the disk

A host that reads and writes blocks. For each command it sends the command block, sends or takes the data
in pieces of the block buffer, and takes the status. `session_moves_blocks`: over any sequence of
such commands the storage gets the blocks of the writes, each once and in order, the host gets the
blocks it reads, and every command ends with a status that says it has passed and leaves nothing over.

The storage is one whose accesses succeed and whose reads change nothing (`Storage.Sound`), with less
than 4 GiB. The commands are well-formed, for unit 0, of at least one block and inside the disk
(`HostCmd.Fine`); the class refuses a command of no blocks.
-/

namespace WlhHpm.Usb
open MscDev (ScsiCmd)

/-- Accesses to whole blocks succeed, and `disk` is what reads find. -/
structure Storage.Sound {σ : Type} (st : Storage σ) (disk : σ → UInt32 → List UInt8) : Prop where
  write : ∀ s sector buffer, (st.write s 0 sector buffer configUsbdevMscMaxBufsize).2 = 0
  read : ∀ s sector buffer, (st.read s 0 sector buffer configUsbdevMscMaxBufsize).2.2 = 0
  kept : ∀ s sector buffer, (st.read s 0 sector buffer configUsbdevMscMaxBufsize).1 = s
  data : ∀ s sector buffer,
    (st.read s 0 sector buffer configUsbdevMscMaxBufsize).2.1.toList
      configUsbdevMscMaxBufsize.toNat = disk s sector

/-- A block command: its fields in the bytes of the command block. -/
structure BlockCbw (N : UInt32) (m : Mem) (code : ScsiCmd) (lba n : UInt32) : Prop where
  signature : Word.le32 m 0 = mscCbwSignature
  length : Word.le32 m 8 = n * configUsbdevMscMaxBufsize
  reads : code.Reads → m 12 &&& 0x80 = 0x80
  writes : code.Writes → m 12 &&& 0x80 = 0
  lun : m 13 = 0
  cbLength : ¬ (m 14 < 1 ∨ m 14 > 16)
  opcode : ScsiCmd.ofByte (m 15) = code
  first : Word.be32 [m 17, m 18, m 19, m 20] 0 = lba
  count : (if code = .read10 ∨ code = .write10 then Word.be32 [0, 0, m 22, m 23] 0
    else Word.be32 [m 21, m 22, m 23, m 24] 0) = n
  some : 0 < n.toNat
  range : lba.toNat + n.toNat ≤ N.toNat

/-- A word of the command block depends on its bytes only. -/
lemma le32_congr {m m' : Mem} (same : ∀ i < 31, m' i = m i) {a : Nat} (lt : a + 3 < 31) :
    Word.le32 m' a = Word.le32 m a := by
  rw [Word.le32, Word.le32, same a (by omega), same (a + 1) (by omega), same (a + 2) (by omega),
    same (a + 3) lt]

/-- Only the bytes of the command block count. -/
lemma BlockCbw.congr {N : UInt32} {m m' : Mem} {code : ScsiCmd} {lba n : UInt32}
    (cbw : BlockCbw N m code lba n) (same : ∀ i < 31, m' i = m i) : BlockCbw N m' code lba n where
  signature := by rw [le32_congr same (by omega), cbw.signature]
  length := by rw [le32_congr same (by omega), cbw.length]
  reads h := by rw [same 12 (by omega), cbw.reads h]
  writes h := by rw [same 12 (by omega), cbw.writes h]
  lun := by rw [same 13 (by omega), cbw.lun]
  cbLength := by rw [same 14 (by omega)]; exact cbw.cbLength
  opcode := by rw [same 15 (by omega), cbw.opcode]
  first := by
    rw [← cbw.first, same 17 (by omega), same 18 (by omega), same 19 (by omega), same 20 (by omega)]
  count := by
    rw [← cbw.count, same 21 (by omega), same 22 (by omega), same 23 (by omega), same 24 (by omega)]
  some := cbw.some
  range := cbw.range

/-! ## What the host sees -/

/-- The status blocks of an exchange. -/
def statuses (log : List BotEvent) : List Csw :=
  log.filterMap fun e => match e with
    | .csw csw => some csw
    | _ => none

/-- The data that the host has taken. -/
def sent (log : List BotEvent) : List UInt8 :=
  log.flatMap fun e => match e with
    | .dataIn data => data
    | _ => []

/-- Between two points of an exchange the host takes `data` and the status blocks `stats`. -/
structure Seen (log log' : List BotEvent) (data : List UInt8) (stats : List Csw) : Prop where
  sent : sent log' = Usb.sent log ++ data
  statuses : statuses log' = Usb.statuses log ++ stats

/-- What some new events show of data and status. -/
lemma Seen.append (log new : List BotEvent) :
    Seen log (log ++ new) (Usb.sent new) (Usb.statuses new) where
  sent := List.flatMap_append
  statuses := List.filterMap_append

/-- What is taken in two stretches of an exchange is taken one after the other. -/
lemma Seen.trans {log log' log'' : List BotEvent} {data data' : List UInt8} {stats stats' : List Csw}
    (one : Seen log log' data stats) (two : Seen log' log'' data' stats') :
    Seen log log'' (data ++ data') (stats ++ stats') where
  sent := by rw [two.sent, one.sent, List.append_assoc]
  statuses := by rw [two.statuses, one.statuses, List.append_assoc]

/-- The storage after some blocks have been written. -/
def writeAll {σ : Type} (st : Storage σ) : σ → UInt32 → List Mem → σ
  | s, _, [] => s
  | s, lba, buffer :: buffers =>
    writeAll st (st.write s 0 lba buffer configUsbdevMscMaxBufsize).1 (lba + 1) buffers

/-- The blocks that a read finds. -/
def readAll {σ : Type} (disk : σ → UInt32 → List UInt8) (s : σ) : UInt32 → Nat → List UInt8
  | _, 0 => []
  | lba, n + 1 => disk s lba ++ readAll disk s (lba + 1) n

namespace MscDev
variable {σ : Type} {st : Storage σ} {d : MscDev σ} {N lba : UInt32} {n : Nat}

/-- The disk has `N` blocks of the size of the block buffer. -/
structure Sized (N : UInt32) (d : MscDev σ) : Prop where
  size : d.scsiBlkSize 0 = configUsbdevMscMaxBufsize
  nbr : d.scsiBlkNbr 0 = N

/-- A command block is awaited. -/
structure Ready (N : UInt32) (d : MscDev σ) : Prop extends d.Sized N where
  stage : d.stage = .readCbw
  out : d.out = some (.cbw, usbSizeofMscCbw)
  inn : d.inn = none

/-- A status has been given to the IN endpoint. -/
structure Waiting (N : UInt32) (d : MscDev σ) : Prop extends d.Sized N where
  stage : d.stage = .waitCsw
  out : d.out = none
  inn : ∃ data, d.inn = some data

/-- Of a command, `n` blocks from `lba` on are left. -/
structure Left (N : UInt32) (d : MscDev σ) (lba : UInt32) (n : Nat) : Prop extends d.Sized N where
  lun : d.bLUN = 0
  sector : d.startSector = lba
  left : d.nsectors.toNat = n
  residue : d.csw.dDataResidue = d.nsectors * configUsbdevMscMaxBufsize
  range : lba.toNat + n ≤ N.toNat

/-- A block fills the block buffer. -/
lemma Left.blkSize (left : d.Left N lba n) : d.blkSize = configUsbdevMscMaxBufsize := by
  rw [MscDev.blkSize, left.lun, left.size]

/-- As long as a block is left, a piece is one block. -/
lemma Left.pieceLen (small : N.toNat * 512 < 2 ^ 32) (left : d.Left N lba (n + 1)) :
    d.pieceLen = configUsbdevMscMaxBufsize := by
  have count := left.left
  have range := left.range
  have product : (d.nsectors * configUsbdevMscMaxBufsize).toNat = d.nsectors.toNat * 512 := by
    rw [UInt32.toNat_mul]
    exact Nat.mod_eq_of_lt (lt_of_le_of_lt (Nat.mul_le_mul_right 512 (by omega)) small)
  rw [MscDev.pieceLen, left.blkSize, if_neg]
  rw [UInt32.lt_iff_toNat_lt, product, count]
  change ¬ (n + 1) * 512 < 512
  omega

/-- One block is moved. -/
lemma Left.next (left : d.Left N lba (n + 1)) :
    (d.nsectors - configUsbdevMscMaxBufsize / d.blkSize = 0 ↔ n = 0) ∧
      (d.nsectors - configUsbdevMscMaxBufsize / d.blkSize).toNat = n ∧
      d.startSector + configUsbdevMscMaxBufsize / d.blkSize = lba + 1 ∧
      d.csw.dDataResidue - configUsbdevMscMaxBufsize =
        (d.nsectors - configUsbdevMscMaxBufsize / d.blkSize) * configUsbdevMscMaxBufsize ∧
      (lba + 1).toNat + n ≤ N.toNat := by
  have one : configUsbdevMscMaxBufsize / d.blkSize = 1 := by
    rw [left.blkSize]
    rfl
  have count := left.left
  have range := left.range
  have bound : N.toNat < 2 ^ 32 := N.toNat_lt
  have some : (1 : UInt32) ≤ d.nsectors := by
    rw [UInt32.le_iff_toNat_le, count]
    exact Nat.le_add_left 1 n
  have rest : (d.nsectors - 1).toNat = n := by
    rw [UInt32.toNat_sub_of_le _ _ some, count]
    rfl
  have step : (lba + 1).toNat = lba.toNat + 1 := by
    rw [UInt32.toNat_add]
    exact Nat.mod_eq_of_lt (by change lba.toNat + 1 < 2 ^ 32; omega)
  rw [one, left.sector, left.residue]
  refine ⟨?_, rest, rfl, ?_, by omega⟩
  · rw [← UInt32.toNat_inj, rest]
    rfl
  · rw [UInt32.sub_mul, UInt32.one_mul]

/-! ## The start of a command -/

/-- A ready device decodes a command block of the right size. -/
lemma Ready.step_cbw (ready : d.Ready N) {cbw : List UInt8} (len : cbw.length = 31) :
    d.step st (.outDone cbw) =
      if ((d.storeOut .cbw cbw).openCmd.decodeCmd st).1
      then ((d.storeOut .cbw cbw).openCmd.decodeCmd st).2
      else ((d.storeOut .cbw cbw).openCmd.decodeCmd st).2.usbdMscBotAbort := by
  have size : ¬ UInt32.ofNat cbw.length ≠ usbSizeofMscCbw := by
    rw [len]
    decide
  rw [step_outDone ready.out (by rw [len]; decide), bulkOut_readCbw (d := d.storeOut .cbw cbw) ready.stage,
    scsiCbwDecode, if_neg size]

/-- The state in which the blocks of a command are to be moved. -/
def moving (d : MscDev σ) (lba count : UInt32) (stage : Stage) : MscDev σ :=
  { d with startSector := lba, nsectors := count, stage := stage }

section Commands
variable {code : ScsiCmd} {count : UInt32} (sized : d.Sized N) (cbw : BlockCbw N d.cbw code lba count)
include cbw

/-- The code of the command block that has been stored. -/
lemma cmd_eq : d.cmd = code := cbw.opcode

/-- The number of blocks that it names. -/
lemma blocks_eq : d.blocks = count := by
  rw [blocks, cmd_eq cbw]
  exact cbw.count

/-- A command that names a block names some data. -/
lemma dataLength_ne (small : N.toNat * 512 < 2 ^ 32) : d.dDataLength ≠ 0 := by
  intro zero
  have value := congrArg UInt32.toNat (cbw.length.symm.trans zero)
  rw [UInt32.toNat_mul] at value
  have le : count.toNat * 512 < 2 ^ 32 :=
    lt_of_le_of_lt (Nat.mul_le_mul_right 512 ((Nat.le_add_left _ _).trans cbw.range)) small
  have eq : count.toNat * 512 = 0 := (Nat.mod_eq_of_lt le).symm.trans value
  have pos := cbw.some
  omega

/-- The command block passes the checks of its header. -/
lemma not_bad : ¬ (d.dSignature ≠ mscCbwSignature ∨ d.bCBLength < 1 ∨ d.bCBLength > 16) := by
  rintro (sig | len)
  · exact sig cbw.signature
  · exact cbw.cbLength len

include sized

/-- The blocks lie inside the disk. -/
lemma not_beyond : ¬ lba + count > d.blkNbr := by
  have range := cbw.range
  have bound : N.toNat < 2 ^ 32 := N.toNat_lt
  have nbr : d.blkNbr = N := by
    rw [blkNbr, show d.bLUN = 0 from cbw.lun, sized.nbr]
  rw [nbr, gt_iff_lt, UInt32.lt_iff_toNat_lt, UInt32.toNat_add, Nat.mod_eq_of_lt (by omega)]
  omega

/-- The data are as long as the blocks that it names. -/
lemma length_eq : d.dDataLength = count * d.blkSize := by
  rw [blkSize, show d.bLUN = 0 from cbw.lun, sized.size]
  exact cbw.length

/-- A write waits for its first block. -/
lemma decodeCmd_write (small : N.toNat * 512 < 2 ^ 32) (writes : code.Writes) :
    d.decodeCmd st = (true, (d.moving lba count .dataOut).usbdEpStartRead .blockBuffer
      (d.moving lba count .dataOut).pieceLen) := by
  have code_eq := cmd_eq cbw
  have run : d.runCmd st = d.scsiWrite d.blocks := by
    rcases writes with rfl | rfl
    · simp only [runCmd, code_eq, scsiWrite10, blocks, or_true, if_true]
    · rw [blocks, code_eq, if_neg (by decide)]
      simp only [runCmd, code_eq, scsiWrite12]
  have flags : ¬ (d.bmFlags &&& 0x80 ≠ 0 ∨ d.dDataLength = 0) := by
    rintro (flag | zero)
    · exact flag (cbw.writes writes)
    · exact dataLength_ne cbw small zero
  have first : d.getBe32 2 = lba := cbw.first
  have ok : d.scsiWrite count = (true, 0, (d.moving lba count .dataOut).usbdEpStartRead .blockBuffer
      (d.moving lba count .dataOut).pieceLen) := by
    rw [scsiWrite, if_neg flags, first]
    exact (if_neg (not_beyond sized cbw)).trans (if_neg (not_not_intro (length_eq sized cbw)))
  rw [decodeCmd, if_neg (not_bad cbw), run, blocks_eq cbw, ok]
  refine congrArg (Prod.mk true) (if_neg ?_)
  rintro ⟨_, still⟩
  cases still

/-- A read has its first block read at once. -/
lemma decodeCmd_read (small : N.toNat * 512 < 2 ^ 32) (reads : code.Reads)
    (ok : ((d.moving lba count .dataIn).readAnswer st).2.2 = 0) :
    d.decodeCmd st = (true, (d.moving lba count .dataIn).afterRead st) := by
  have code_eq := cmd_eq cbw
  have run : d.runCmd st = d.scsiRead st d.blocks := by
    rcases reads with rfl | rfl
    · simp only [runCmd, code_eq, scsiRead10, blocks, true_or, if_true]
    · rw [blocks, code_eq, if_neg (by decide)]
      simp only [runCmd, code_eq, scsiRead12]
  have flags : ¬ (d.bmFlags &&& 0x80 ≠ 0x80 ∨ d.dDataLength = 0) := by
    rintro (flag | zero)
    · exact flag (cbw.reads reads)
    · exact dataLength_ne cbw small zero
  have first : d.getBe32 2 = lba := cbw.first
  have read : d.scsiRead st count = (((d.moving lba count .dataIn).scsiProcessRead st).1, 0,
      ((d.moving lba count .dataIn).scsiProcessRead st).2) := by
    rw [scsiRead, if_neg flags, first]
    exact (if_neg (not_beyond sized cbw)).trans (if_neg (not_not_intro (length_eq sized cbw)))
  rw [decodeCmd, if_neg (not_bad cbw), run, blocks_eq cbw, read, processRead_ok ok]
  exact congrArg (Prod.mk true) (if_neg fun both => afterRead_stage_ne rfl both.2)

end Commands

/-- The device once a block command has been received. -/
structure Opened (N : UInt32) (d d₁ : MscDev σ) (cbw : List UInt8) (code : ScsiCmd)
    (lba count : UInt32) : Prop extends d₁.Sized N where
  block : BlockCbw N d₁.cbw code lba count
  residue : d₁.csw.dDataResidue = count * configUsbdevMscMaxBufsize
  tag : d₁.csw.dTag = Word.le32 (Mem.ofList cbw) 4
  out : d₁.out = none
  inn : d₁.inn = none
  storage : d₁.storage = d.storage
  log : ∃ tag length, d₁.log = d.log ++ [.cbw tag length]

/-- A block command that is received when a command block is awaited opens that command. -/
lemma Ready.opened (ready : d.Ready N) {cbw : List UInt8} (len : cbw.length = 31) {code : ScsiCmd}
    {count : UInt32} (block : BlockCbw N (Mem.ofList cbw) code lba count) :
    Opened N d (d.storeOut .cbw cbw).openCmd cbw code lba count := by
  have stored : ∀ i < 31, (d.storeOut .cbw cbw).cbw i = Mem.ofList cbw i := by
    intro i lt
    change d.cbw.copy 0 cbw.length (Mem.ofList cbw) i = Mem.ofList cbw i
    rw [Mem.copy_in (Nat.zero_le i) (by omega), Nat.sub_zero]
  have kept := block.congr stored
  exact
    { size := ready.size
      nbr := ready.nbr
      block := kept
      residue := kept.length
      tag := le32_congr stored (by decide)
      out := rfl
      inn := ready.inn
      storage := rfl
      log := ⟨_, _, rfl⟩ }

/-- A command that has been opened has all its blocks before it. -/
lemma Opened.left {d₁ : MscDev σ} {cbw : List UInt8} {code : ScsiCmd} {count : UInt32}
    (opened : Opened N d d₁ cbw code lba count) (stage : Stage) :
    (d₁.moving lba count stage).Left N lba count.toNat where
  size := opened.size
  nbr := opened.nbr
  lun := opened.block.lun
  sector := rfl
  left := rfl
  residue := opened.residue
  range := opened.block.range

/-! ## Writing -/

/-- The next block of a write is awaited. -/
structure Writing (N : UInt32) (d : MscDev σ) (lba : UInt32) (n : Nat) : Prop
    extends d.Left N lba n where
  stage : d.stage = .dataOut
  writes : d.cmd.Writes
  out : d.out = some (.blockBuffer, configUsbdevMscMaxBufsize)
  inn : d.inn = none

/-- The last block of a write has been stored: its status follows. -/
lemma Left.write_last (left : d.Left N lba 1) (out : d.out = none) :
    ((d.afterWrite st configUsbdevMscMaxBufsize).usbdMscSendCsw cswStatusCmdPassed).Waiting N ∧
      Seen d.log ((d.afterWrite st configUsbdevMscMaxBufsize).usbdMscSendCsw cswStatusCmdPassed).log []
        [⟨d.csw.dTag, 0, cswStatusCmdPassed⟩] := by
  obtain ⟨last, -, -, residue, -⟩ := left.next
  have none : d.csw.dDataResidue - configUsbdevMscMaxBufsize = 0 := by
    rw [residue, last.mpr rfl]
    rfl
  have seen := Seen.append d.log [.sectorWrite d.startSector configUsbdevMscMaxBufsize,
    .dataOut configUsbdevMscMaxBufsize, .csw ⟨d.csw.dTag,
      d.csw.dDataResidue - configUsbdevMscMaxBufsize, cswStatusCmdPassed⟩]
  refine ⟨⟨⟨left.size, left.nbr⟩, rfl, out, _, rfl⟩, ?_⟩
  rw [usbdMscSendCsw, afterWrite]
  simp only [logged, usbdEpStartWrite, List.append_assoc, List.cons_append, List.nil_append]
  rw [none] at seen ⊢
  exact seen

section Sound
variable {disk : σ → UInt32 → List UInt8} (sound : st.Sound disk) (small : N.toNat * 512 < 2 ^ 32)
include small

/-- The command block of a write. -/
lemma Ready.start_write (st : Storage σ) (ready : d.Ready N) {cbw : List UInt8} (len : cbw.length = 31)
    {code : ScsiCmd} {count : UInt32} (block : BlockCbw N (Mem.ofList cbw) code lba count)
    (writes : code.Writes) :
    (d.step st (.outDone cbw)).Writing N lba count.toNat ∧
      Seen d.log (d.step st (.outDone cbw)).log [] [] ∧
      (d.step st (.outDone cbw)).storage = d.storage ∧
      (d.step st (.outDone cbw)).csw.dTag = Word.le32 (Mem.ofList cbw) 4 := by
  have opened := ready.opened len block
  obtain ⟨n, succ⟩ := Nat.exists_eq_succ_of_ne_zero block.some.ne'
  have piece := Left.pieceLen small (succ ▸ opened.left .dataOut)
  obtain ⟨tag, length, log⟩ := opened.log
  have seen := Seen.append d.log [.cbw tag length]
  rw [← log] at seen
  rw [ready.step_cbw len, decodeCmd_write opened.toSized opened.block small writes, piece]
  refine ⟨{ opened.left .dataOut with
    stage := rfl
    writes := (cmd_eq opened.block).symm ▸ writes
    out := rfl
    inn := opened.inn }, seen, opened.storage, opened.tag⟩

/-- Another block of a write is awaited. -/
lemma Left.write_more (st : Storage σ) (left : d.Left N lba (n + 2)) (stage : d.stage = .dataOut)
    (writes : d.cmd.Writes) (inn : d.inn = none) :
    ((d.afterWrite st configUsbdevMscMaxBufsize).usbdEpStartRead .blockBuffer
        (d.afterWrite st configUsbdevMscMaxBufsize).pieceLen).Writing N (lba + 1) (n + 1) ∧
      Seen d.log (d.afterWrite st configUsbdevMscMaxBufsize).log [] [] := by
  obtain ⟨-, rest, sector, residue, range⟩ := left.next
  have next : (d.afterWrite st configUsbdevMscMaxBufsize).Left N (lba + 1) (n + 1) :=
    { size := left.size
      nbr := left.nbr
      lun := left.lun
      sector := sector
      left := rest
      residue := residue
      range := range }
  rw [Left.pieceLen small next]
  exact ⟨{ next with stage := stage, writes := writes, out := rfl, inn := inn }, Seen.append d.log _⟩

include sound

/-- One block is written. -/
lemma Writing.piece (writing : d.Writing N lba (n + 1)) {data : List UInt8}
    (len : data.length = 512) :
    ∃ buffer : Mem, buffer.toList 512 = data ∧
      (d.step st (.outDone data)).storage =
        (st.write d.storage 0 lba buffer configUsbdevMscMaxBufsize).1 ∧
      (n = 0 → (d.step st (.outDone data)).Waiting N ∧
        Seen d.log (d.step st (.outDone data)).log [] [⟨d.csw.dTag, 0, cswStatusCmdPassed⟩]) ∧
      (n ≠ 0 → (d.step st (.outDone data)).Writing N (lba + 1) n ∧
        Seen d.log (d.step st (.outDone data)).log [] [] ∧
        (d.step st (.outDone data)).csw.dTag = d.csw.dTag) := by
  have buffer : (d.storeOut .blockBuffer data).blockBuffer.toList 512 = data := by
    refine Eq.trans (Mem.toList_congr fun i lt => ?_) (Mem.toList_ofList len)
    change d.blockBuffer.copy 0 data.length (Mem.ofList data) i = Mem.ofList data i
    rw [Mem.copy_in (Nat.zero_le i) (by omega), Nat.sub_zero]
  have left : (d.storeOut .blockBuffer data).Left N lba (n + 1) :=
    { size := writing.size
      nbr := writing.nbr
      lun := writing.lun
      sector := writing.sector
      left := writing.left
      residue := writing.residue
      range := writing.range }
  have size : UInt32.ofNat data.length = configUsbdevMscMaxBufsize := by rw [len]; rfl
  have answer : (d.storeOut .blockBuffer data).writeAnswer st configUsbdevMscMaxBufsize =
      st.write d.storage 0 lba (d.storeOut .blockBuffer data).blockBuffer
        configUsbdevMscMaxBufsize := by
    rw [writeAnswer, left.lun, left.sector]
    rfl
  have ok := congrArg Prod.snd answer
  rw [sound.write] at ok
  rw [step_outDone writing.out (by rw [len]; decide),
    bulkOut_dataOut (d := d.storeOut .blockBuffer data) writing.stage writing.writes, size,
    processWrite_ok ok, if_pos rfl]
  refine ⟨_, buffer, ?_, ?_, ?_⟩
  · dsimp only
    split_ifs
    · exact congrArg Prod.fst answer
    · exact congrArg Prod.fst answer
  · rintro rfl
    rw [if_pos (left.next.1.mpr rfl)]
    exact left.write_last rfl
  · intro more
    rw [if_neg (mt left.next.1.mp more)]
    obtain ⟨k, rfl⟩ := Nat.exists_eq_succ_of_ne_zero more
    obtain ⟨next, seen⟩ := left.write_more small st writing.stage writing.writes writing.inn
    exact ⟨next, seen, rfl⟩

/-- All blocks of a write. -/
lemma Writing.run {pieces : List (List UInt8)} (writing : d.Writing N lba pieces.length)
    (len : ∀ data ∈ pieces, data.length = 512) (some : pieces ≠ []) :
    ∃ buffers : List Mem, buffers.map (fun buffer => buffer.toList 512) = pieces ∧
      ((pieces.map .outDone).foldl (step st) d).storage = writeAll st d.storage lba buffers ∧
      ((pieces.map .outDone).foldl (step st) d).Waiting N ∧
      Seen d.log ((pieces.map .outDone).foldl (step st) d).log []
        [⟨d.csw.dTag, 0, cswStatusCmdPassed⟩] := by
  induction pieces generalizing d lba with
  | nil => exact absurd rfl some
  | cons data pieces ih =>
    obtain ⟨buffer, holds, storage, last, more⟩ := writing.piece sound small (len data (by simp))
    cases pieces with
    | nil =>
      obtain ⟨waiting, seen⟩ := last rfl
      exact ⟨[buffer], congrArg (· :: []) holds, storage, waiting, seen⟩
    | cons data' pieces =>
      obtain ⟨next, seen, tag⟩ := more (by simp)
      obtain ⟨buffers, holds', storage', waiting, seen'⟩ :=
        ih next (fun x mem => len x (by simp [mem])) (by simp)
      refine ⟨buffer :: buffers, ?_, ?_, waiting, ?_⟩
      · rw [List.map_cons, holds, holds']
      · rw [writeAll, ← storage]
        exact storage'
      · have both := seen.trans seen'
        rw [tag] at both
        exact both

end Sound

/-! ## Reading -/

/-- A block of a read has been given to the IN endpoint; `n` more are left. -/
structure Reading (N : UInt32) (d : MscDev σ) (lba : UInt32) (n : Nat) : Prop
    extends d.Left N lba n where
  stage : d.stage = if n = 0 then .sendCsw else .dataIn
  reads : d.cmd.Reads
  out : d.out = none
  inn : ∃ data, d.inn = some data

/-- A status has been taken. -/
lemma Waiting.step (st : Storage σ) (waiting : d.Waiting N) :
    (d.step st .inDone).Ready N ∧ (d.step st .inDone).storage = d.storage ∧
      (d.step st .inDone).log = d.log := by
  obtain ⟨data, inn⟩ := waiting.inn
  rw [step_inDone inn, bulkIn_waitCsw (d := { d with inn := none }) waiting.stage]
  exact ⟨⟨⟨waiting.size, waiting.nbr⟩, rfl, rfl, rfl⟩, rfl, rfl⟩

/-- The last block of a read has been taken: its status follows. -/
lemma Reading.last (st : Storage σ) (reading : d.Reading N lba 0) :
    (d.step st .inDone).Waiting N ∧ (d.step st .inDone).storage = d.storage ∧
      Seen d.log (d.step st .inDone).log [] [⟨d.csw.dTag, 0, cswStatusCmdPassed⟩] := by
  obtain ⟨data, inn⟩ := reading.inn
  have zero : d.csw.dDataResidue = 0 := by
    rw [reading.residue, UInt32.toNat_inj.mp (reading.left.trans UInt32.toNat_zero.symm)]
    rfl
  rw [step_inDone inn, bulkIn_sendCsw (d := { d with inn := none }) reading.stage]
  refine ⟨⟨⟨reading.size, reading.nbr⟩, rfl, reading.out, _, rfl⟩, rfl, ?_⟩
  rw [← zero]
  exact Seen.append d.log [.csw ⟨d.csw.dTag, d.csw.dDataResidue, cswStatusCmdPassed⟩]

section Sound
variable {disk : σ → UInt32 → List UInt8} (sound : st.Sound disk) (small : N.toNat * 512 < 2 ^ 32)
include sound small

/-- One block is read. -/
lemma Left.read (left : d.Left N lba (n + 1)) (stage : d.stage = .dataIn) (reads : d.cmd.Reads)
    (out : d.out = none) :
    (d.readAnswer st).2.2 = 0 ∧ (d.afterRead st).Reading N (lba + 1) n ∧
      (d.afterRead st).storage = d.storage ∧
      Seen d.log (d.afterRead st).log (disk d.storage lba) [] := by
  obtain ⟨last, rest, sector, residue, range⟩ := left.next
  have piece := left.pieceLen small
  have answer : d.readAnswer st =
      st.read d.storage 0 lba d.blockBuffer configUsbdevMscMaxBufsize := by
    rw [readAnswer, left.lun, left.sector, piece]
  have data : (d.readAnswer st).2.1.toList configUsbdevMscMaxBufsize.toNat = disk d.storage lba := by
    rw [answer, sound.data]
  have new : Usb.sent [.sectorRead d.startSector configUsbdevMscMaxBufsize,
      .dataIn (disk d.storage lba)] = disk d.storage lba := List.append_nil _
  have seen := Seen.append d.log [.sectorRead d.startSector configUsbdevMscMaxBufsize,
    .dataIn (disk d.storage lba)]
  rw [new] at seen
  refine ⟨answer ▸ sound.read _ _ _, ?_, ?_, ?_⟩
  · rw [afterRead, piece]
    exact
      { size := left.size
        nbr := left.nbr
        lun := left.lun
        sector := sector
        left := rest
        residue := residue
        range := range
        stage := by simp only [last, stage]
        reads := reads
        out := out
        inn := ⟨_, rfl⟩ }
  · exact (congrArg Prod.fst answer).trans (sound.kept _ _ _)
  · rw [afterRead, piece, data]
    exact seen

/-- The command block of a read. -/
lemma Ready.start_read (ready : d.Ready N) {cbw : List UInt8} (len : cbw.length = 31)
    {code : ScsiCmd} {count : UInt32} (block : BlockCbw N (Mem.ofList cbw) code lba count)
    (reads : code.Reads) (eq : count.toNat = n + 1) :
    (d.step st (.outDone cbw)).Reading N (lba + 1) n ∧
      Seen d.log (d.step st (.outDone cbw)).log (disk d.storage lba) [] ∧
      (d.step st (.outDone cbw)).storage = d.storage ∧
      (d.step st (.outDone cbw)).csw.dTag = Word.le32 (Mem.ofList cbw) 4 := by
  have opened := ready.opened len block
  obtain ⟨tag, length, log⟩ := opened.log
  have begun := Seen.append d.log [.cbw tag length]
  rw [← log] at begun
  obtain ⟨ok, reading, storage, seen⟩ := (eq ▸ opened.left .dataIn).read sound small rfl
    ((cmd_eq opened.block).symm ▸ reads) opened.out
  rw [ready.step_cbw len, decodeCmd_read opened.toSized opened.block small reads ok]
  refine ⟨reading, ?_, storage.trans opened.storage, opened.tag⟩
  exact begun.trans seen

/-- The next block of a read. -/
lemma Reading.next (reading : d.Reading N lba (n + 1)) :
    (d.step st .inDone).Reading N (lba + 1) n ∧ (d.step st .inDone).storage = d.storage ∧
      Seen d.log (d.step st .inDone).log (disk d.storage lba) [] ∧
      (d.step st .inDone).csw.dTag = d.csw.dTag := by
  obtain ⟨data, inn⟩ := reading.inn
  have left : ({ d with inn := none } : MscDev σ).Left N lba (n + 1) :=
    { size := reading.size
      nbr := reading.nbr
      lun := reading.lun
      sector := reading.sector
      left := reading.left
      residue := reading.residue
      range := reading.range }
  have stage : ({ d with inn := none } : MscDev σ).stage = .dataIn := reading.stage
  obtain ⟨ok, next, storage, seen⟩ := left.read sound small stage reading.reads reading.out
  rw [step_inDone inn, bulkIn_dataIn stage reading.reads, processRead_ok ok, if_pos rfl]
  exact ⟨next, storage, seen, rfl⟩

/-- The blocks that are left of a read, and its status. -/
lemma Reading.run (reading : d.Reading N lba n) :
    ((List.replicate (n + 1) .inDone).foldl (step st) d).Waiting N ∧
      ((List.replicate (n + 1) .inDone).foldl (step st) d).storage = d.storage ∧
      Seen d.log ((List.replicate (n + 1) .inDone).foldl (step st) d).log
        (readAll disk d.storage lba n) [⟨d.csw.dTag, 0, cswStatusCmdPassed⟩] := by
  induction n generalizing d lba with
  | zero => exact reading.last st
  | succ n ih =>
    obtain ⟨next, storage, seen, tag⟩ := reading.next sound small
    obtain ⟨waiting, storage', seen'⟩ := ih next
    rw [List.replicate_succ, List.foldl_cons]
    rw [tag, storage] at seen'
    exact ⟨waiting, storage'.trans storage, seen.trans seen'⟩

end Sound

end MscDev

/-! ## Commands of a host -/

/-- A command of the host: a write of some blocks, or a read. -/
inductive HostCmd where
  | write (cbw : List UInt8) (lba : UInt32) (blocks : List (List UInt8))
  | read (cbw : List UInt8) (lba count : UInt32)

/-- What happens on the bus. -/
def HostCmd.events : HostCmd → List BusEvent
  | .write cbw _ blocks => .outDone cbw :: (blocks.map .outDone ++ [.inDone])
  | .read cbw _ count => .outDone cbw :: (List.replicate count.toNat .inDone ++ [.inDone])

/-- The command block says what the host is going to do. -/
def HostCmd.Fine (N : UInt32) : HostCmd → Prop
  | .write cbw lba blocks => cbw.length = 31 ∧ (∀ data ∈ blocks, data.length = 512) ∧
      ∃ code count, MscDev.ScsiCmd.Writes code ∧ BlockCbw N (Mem.ofList cbw) code lba count ∧
        count.toNat = blocks.length
  | .read cbw lba count => cbw.length = 31 ∧
      ∃ code, MscDev.ScsiCmd.Reads code ∧ BlockCbw N (Mem.ofList cbw) code lba count

/-- The status that the host expects. -/
def HostCmd.status : HostCmd → Csw
  | .write cbw _ _ => ⟨Word.le32 (Mem.ofList cbw) 4, 0, cswStatusCmdPassed⟩
  | .read cbw _ _ => ⟨Word.le32 (Mem.ofList cbw) 4, 0, cswStatusCmdPassed⟩

/-- What commands are for: the storage after them, and the data that the host takes. -/
inductive Served {σ : Type} (st : Storage σ) (disk : σ → UInt32 → List UInt8) :
    σ → List HostCmd → σ → List UInt8 → Prop where
  | nil {s} : Served st disk s [] s []
  | write {s s' cbw lba blocks cmds data} (buffers : List Mem)
    (holds : buffers.map (fun buffer => buffer.toList 512) = blocks)
    (rest : Served st disk (writeAll st s lba buffers) cmds s' data) :
    Served st disk s (.write cbw lba blocks :: cmds) s' data
  | read {s s' cbw lba count cmds data} (rest : Served st disk s cmds s' data) :
    Served st disk s (.read cbw lba count :: cmds) s' (readAll disk s lba count.toNat ++ data)

namespace MscDev
variable {σ : Type} {st : Storage σ} {d : MscDev σ} {N : UInt32} {disk : σ → UInt32 → List UInt8}
  (sound : st.Sound disk) (small : N.toNat * 512 < 2 ^ 32)
include sound small

/-- A write command, from the command block to the status. -/
lemma Ready.write (ready : d.Ready N) {cbw : List UInt8} {lba : UInt32} {blocks : List (List UInt8)}
    (fine : (HostCmd.write cbw lba blocks).Fine N) :
    ∃ buffers : List Mem, buffers.map (fun buffer => buffer.toList 512) = blocks ∧
      ((HostCmd.write cbw lba blocks).events.foldl (step st) d).Ready N ∧
      ((HostCmd.write cbw lba blocks).events.foldl (step st) d).storage =
        writeAll st d.storage lba buffers ∧
      Seen d.log ((HostCmd.write cbw lba blocks).events.foldl (step st) d).log []
        [(HostCmd.write cbw lba blocks).status] := by
  obtain ⟨len, pieces, code, count, writes, block, eq⟩ := fine
  obtain ⟨writing, seen, storage, tag⟩ := ready.start_write small st len block writes
  rw [eq] at writing
  have some : blocks ≠ [] := List.ne_nil_of_length_pos (eq ▸ block.some)
  obtain ⟨buffers, holds, storage', waiting, seen'⟩ := writing.run sound small pieces some
  obtain ⟨ready', storage'', log⟩ := waiting.step st
  refine ⟨buffers, holds, ?_⟩
  rw [HostCmd.events, List.foldl_cons, List.foldl_append, List.foldl_cons, List.foldl_nil, log,
    storage'', storage', storage]
  rw [tag] at seen'
  exact ⟨ready', rfl, seen.trans seen'⟩

/-- A read command, from the command block to the status. -/
lemma Ready.read (ready : d.Ready N) {cbw : List UInt8} {lba count : UInt32}
    (fine : (HostCmd.read cbw lba count).Fine N) :
    ((HostCmd.read cbw lba count).events.foldl (step st) d).Ready N ∧
      ((HostCmd.read cbw lba count).events.foldl (step st) d).storage = d.storage ∧
      Seen d.log ((HostCmd.read cbw lba count).events.foldl (step st) d).log
        (readAll disk d.storage lba count.toNat) [(HostCmd.read cbw lba count).status] := by
  obtain ⟨len, code, reads, block⟩ := fine
  obtain ⟨n, eq⟩ := Nat.exists_eq_succ_of_ne_zero block.some.ne'
  obtain ⟨reading, seen, storage, tag⟩ := ready.start_read sound small len block reads eq
  obtain ⟨waiting, storage', seen'⟩ := reading.run sound small
  obtain ⟨ready', storage'', log⟩ := waiting.step st
  rw [HostCmd.events, eq, List.foldl_cons, List.foldl_append, List.foldl_cons, List.foldl_nil, log,
    storage'', storage', storage]
  rw [tag, storage] at seen'
  exact ⟨ready', rfl, seen.trans seen'⟩

/-- A sequence of commands. -/
lemma Ready.session (ready : d.Ready N) {cmds : List HostCmd} (fine : ∀ cmd ∈ cmds, cmd.Fine N) :
    ∃ data, Served st disk d.storage cmds ((cmds.flatMap HostCmd.events).foldl (step st) d).storage data ∧
      ((cmds.flatMap HostCmd.events).foldl (step st) d).Ready N ∧
      Seen d.log ((cmds.flatMap HostCmd.events).foldl (step st) d).log data
        (cmds.map HostCmd.status) := by
  induction cmds generalizing d with
  | nil =>
    have seen := Seen.append d.log []
    rw [List.append_nil] at seen
    exact ⟨[], .nil, ready, seen⟩
  | cons cmd cmds ih =>
    have rest : ∀ cmd ∈ cmds, cmd.Fine N := fun c mem => fine c (by simp [mem])
    rw [List.flatMap_cons, List.foldl_append]
    cases cmd with
    | write cbw lba blocks =>
      obtain ⟨buffers, holds, ready', storage, seen⟩ := ready.write sound small (fine _ List.mem_cons_self)
      obtain ⟨data, served, last, seen'⟩ := ih ready' rest
      rw [storage] at served
      exact ⟨data, .write buffers holds served, last, seen.trans seen'⟩
    | read cbw lba count =>
      obtain ⟨ready', storage, seen⟩ := ready.read sound small (fine _ List.mem_cons_self)
      obtain ⟨data, served, last, seen'⟩ := ih ready' rest
      rw [storage] at served
      exact ⟨_, .read served, last, seen.trans seen'⟩

end MscDev

/-- On a disk below 4 GiB whose accesses succeed (`Storage.Sound`), over any sequence of well-formed block
    commands for unit 0, each of at least one block and inside the disk (`HostCmd.Fine`): the storage
    gets the blocks of the writes and the host those it reads, and each command ends with a status that
    says it has passed. -/
theorem session_moves_blocks {σ : Type} (st : Storage σ) (disk : σ → UInt32 → List UInt8)
    (sound : st.Sound disk) (N : UInt32) (small : N.toNat * 512 < 2 ^ 32) (storage : σ)
    (other : UInt8 → UInt32 × UInt32) (cmds : List HostCmd) (fine : ∀ cmd ∈ cmds, cmd.Fine N) :
    let d := (.configured :: cmds.flatMap HostCmd.events).foldl (MscDev.step st)
      (.usbdMscInitIntf N configUsbdevMscMaxBufsize other storage)
    Served st disk storage cmds d.storage (sent d.log) ∧ statuses d.log = cmds.map HostCmd.status ∧
      d.stage = .readCbw ∧ d.out = some (.cbw, usbSizeofMscCbw) := by
  have ready : ((MscDev.usbdMscInitIntf N configUsbdevMscMaxBufsize other storage).step st
      .configured).Ready N := ⟨⟨rfl, rfl⟩, rfl, rfl, rfl⟩
  obtain ⟨data, served, last, seen⟩ := ready.session sound small fine
  refine ⟨?_, seen.statuses, last.stage, last.out⟩
  rw [List.foldl_cons, seen.sent]
  exact served

/-- A disk in memory, which keeps what is written. -/
def ramDisk : Storage (UInt32 → Mem) where
  read := fun s _ sector _ _ => (s, s sector, 0)
  write := fun s _ sector buffer _ => (Function.update s sector buffer, 0)

/-- The block at a sector of the disk in memory. -/
def ramBlock (s : UInt32 → Mem) (sector : UInt32) : List UInt8 :=
  (s sector).toList configUsbdevMscMaxBufsize.toNat

/-- The disk in memory is one whose accesses succeed. -/
lemma ramDisk_sound : ramDisk.Sound ramBlock where
  write _ _ _ := rfl
  read _ _ _ := rfl
  kept _ _ _ := rfl
  data _ _ _ := rfl

/-- The command block of a command for two blocks from block 3 on. -/
def twoBlocksCbw (tag flags opcode : UInt8) : List UInt8 :=
  [0x55, 0x53, 0x42, 0x43, tag, 0, 0, 0, 0, 4, 0, 0, flags, 0, 10, opcode, 0, 0, 0, 0, 3, 0, 0, 2] ++
    List.replicate 7 0

/-- A block of one byte, repeated. -/
def plainBlock (byte : UInt8) : List UInt8 := List.replicate 512 byte

/-- Two blocks are written and read again. -/
def twoBlocksSession : List HostCmd :=
  [.write (twoBlocksCbw 8 0 0x2a) 3 [plainBlock 0x41, plainBlock 0x42],
    .read (twoBlocksCbw 9 0x80 0x28) 3 2]

/-- The commands of the sample session are well-formed and in range. -/
lemma twoBlocksSession_fine : ∀ cmd ∈ twoBlocksSession, cmd.Fine 16 := by
  intro cmd mem
  simp only [twoBlocksSession, List.mem_cons, List.not_mem_nil, or_false] at mem
  rcases mem with rfl | rfl
  · have len : ∀ data ∈ [plainBlock 0x41, plainBlock 0x42], data.length = 512 := by
      simp only [List.mem_cons, List.not_mem_nil, or_false]
      rintro data (rfl | rfl)
      · exact List.length_replicate
      · exact List.length_replicate
    refine ⟨by decide, len, .write10, 2, .inl rfl, ?_, rfl⟩
    exact
      { signature := by decide +kernel
        length := by decide +kernel
        reads := fun reads => by rcases reads with h | h <;> cases h
        writes := fun _ => by decide +kernel
        lun := by decide +kernel
        cbLength := by decide +kernel
        opcode := by decide +kernel
        first := by decide +kernel
        count := by decide +kernel
        some := by decide
        range := by decide }
  · refine ⟨by decide, .read10, .inl rfl, ?_⟩
    exact
      { signature := by decide +kernel
        length := by decide +kernel
        reads := fun _ => by decide +kernel
        writes := fun writes => by rcases writes with h | h <;> cases h
        lun := by decide +kernel
        cbLength := by decide +kernel
        opcode := by decide +kernel
        first := by decide +kernel
        count := by decide +kernel
        some := by decide
        range := by decide }

/-- A write and then a read: the host takes what the write has left on the disk. -/
lemma Served.write_read {σ : Type} {st : Storage σ} {disk : σ → UInt32 → List UInt8} {s s' : σ}
    {cbw cbw' data : List UInt8} {lba lba' count : UInt32} {blocks : List (List UInt8)}
    (served : Served st disk s [.write cbw lba blocks, .read cbw' lba' count] s' data) :
    ∃ buffers : List Mem, buffers.map (fun buffer => buffer.toList 512) = blocks ∧
      data = readAll disk (writeAll st s lba buffers) lba' count.toNat := by
  cases served with
  | write buffers holds rest =>
    cases rest with
    | read rest =>
      cases rest
      exact ⟨buffers, holds, List.append_nil _⟩

/-- The disk in memory gives back two blocks that it was given. -/
lemma ramDisk_two (s : UInt32 → Mem) (first second : Mem) :
    readAll ramBlock (writeAll ramDisk s 3 [first, second]) 3 2 =
      first.toList 512 ++ second.toList 512 := by
  have at_three : (writeAll ramDisk s 3 [first, second]) 3 = first := by
    simp [writeAll, ramDisk, Function.update]
  have at_four : (writeAll ramDisk s 3 [first, second]) (3 + 1) = second := by
    simp [writeAll, ramDisk, Function.update]
  rw [readAll, readAll, readAll, ramBlock, ramBlock, at_three, at_four, List.append_nil]
  rfl

/-- Two blocks that are written to the disk in memory and read again are the same. -/
lemma served_two {s s' : UInt32 → Mem} {cbw cbw' one two data : List UInt8}
    (served : Served ramDisk ramBlock s [.write cbw 3 [one, two], .read cbw' 3 2] s' data) :
    data = one ++ two := by
  obtain ⟨buffers, holds, read⟩ := served.write_read
  have count : buffers.length = 2 := by simpa using congrArg List.length holds
  obtain ⟨first, second, rfl⟩ := List.length_eq_two.mp count
  simp only [List.map_cons, List.map_nil, List.cons.injEq, and_true] at holds
  rw [← holds.1, ← holds.2, read]
  exact ramDisk_two s first second

/-- The host reads the two blocks that it has written, and each command passes. -/
theorem session_moves_blocks_two :
    let d := (.configured :: twoBlocksSession.flatMap HostCmd.events).foldl (MscDev.step ramDisk)
      (.usbdMscInitIntf 16 configUsbdevMscMaxBufsize noOther fun _ _ => 0)
    sent d.log = plainBlock 0x41 ++ plainBlock 0x42 ∧
      statuses d.log = [⟨8, 0, cswStatusCmdPassed⟩, ⟨9, 0, cswStatusCmdPassed⟩] ∧
      d.stage = .readCbw ∧ d.out = some (.cbw, usbSizeofMscCbw) := by
  obtain ⟨served, passed, ready⟩ := session_moves_blocks ramDisk ramBlock ramDisk_sound 16 (by decide)
    (fun _ _ => 0) noOther twoBlocksSession twoBlocksSession_fine
  exact ⟨served_two served, passed, ready⟩

end WlhHpm.Usb

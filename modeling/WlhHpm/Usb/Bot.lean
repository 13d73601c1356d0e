import WlhHpm.Lib.Run
import WlhHpm.Usb.Msc

/-!
# The bulk-only protocol

What the mass-storage class exchanges with a host. `botNext` is the protocol as the host knows it: a
command block opens a command; data move and the storage is accessed only while one is open; a
status closes it, with the tag of the command and its length less what has been moved; a stall or a
reset closes it too. `bot_protocol_kept`: whatever the host sends, in pieces of any size, and
whatever the storage answers, the exchange never leaves the protocol.

The class does not start its endpoints anew on `MSC_REQUEST_RESET`, and `USBD_EVENT_CONFIGURED` does not
end a command. The runs considered are those in which neither comes in the middle of a
command (`Orderly`).
-/

namespace WlhHpm.Usb

/-! ## The protocol -/

/-- A command that has no status yet. -/
structure OpenCmd where
  tag : UInt32
  residue : UInt32
  deriving DecidableEq, Repr

/-- The command that is open after an event, given the one before it; `none` if the event is out of
    order. -/
def botNext : Option OpenCmd → BotEvent → Option (Option OpenCmd)
  | none, .cbw tag length => some (some ⟨tag, length⟩)
  | some c, .dataIn data => some (some { c with residue := c.residue - UInt32.ofNat data.length })
  | some c, .dataOut nbytes => some (some { c with residue := c.residue - nbytes })
  | some c, .sectorRead _ _ => some (some c)
  | some c, .sectorWrite _ _ => some (some c)
  | some c, .csw csw => if csw.dTag = c.tag ∧ csw.dDataResidue = c.residue then some none else none
  | _, .abort => some none
  | _, .reset => some none
  | _, _ => none

/-- The events keep to the protocol, and `c` is open after them. -/
def Follows (log : List BotEvent) (c : Option OpenCmd) : Prop := log.foldlM botNext none = some c

/-- A next event that the protocol allows keeps the exchange to it. -/
lemma Follows.snoc {log : List BotEvent} {c c' : Option OpenCmd} {e : BotEvent}
    (follows : Follows log c) (next : botNext c e = some c') : Follows (log ++ [e]) c' := by
  rw [Follows, List.foldlM_append, follows]
  simp only [Option.bind_eq_bind, Option.bind_some, List.foldlM_cons, List.foldlM_nil, next]
  rfl

namespace MscDev
variable {σ : Type} {st : Storage σ} {d d' : MscDev σ}

/-! ## What a command does to the exchange -/

/-- The command that the counters of the status stand for. -/
def open_ (d : MscDev σ) : OpenCmd := ⟨d.csw.dTag, d.csw.dDataResidue⟩

/-- The two states agree on everything that the exchange depends on. -/
structure Same (d d' : MscDev σ) : Prop where
  stage : d'.stage = d.stage
  cbw : d'.cbw = d.cbw
  csw : d'.csw = d.csw
  out : d'.out = d.out
  inn : d'.inn = d.inn
  log : d'.log = d.log
  storage : d'.storage = d.storage
  blkSize : d'.scsiBlkSize = d.scsiBlkSize
  blkNbr : d'.scsiBlkNbr = d.scsiBlkNbr

/-- Every state agrees with itself. -/
lemma Same.refl (d : MscDev σ) : d.Same d := ⟨rfl, rfl, rfl, rfl, rfl, rfl, rfl, rfl, rfl⟩

/-- A refusal leaves sense data behind, which the exchange does not depend on. -/
lemma same_refuse (d : MscDev σ) (kcq : UInt32) : d.Same (d.refuse kcq).2.2 :=
  ⟨rfl, rfl, rfl, rfl, rfl, rfl, rfl, rfl, rfl⟩

/-- A command without data changes nothing. -/
lemma same_done (d : MscDev σ) : d.Same d.done.2.2 := .refl d

/-- An answer only fills the buffer. -/
lemma same_reply (d : MscDev σ) (data : List UInt8) (len : UInt8) : d.Same (d.reply data len).2.2 :=
  ⟨rfl, rfl, rfl, rfl, rfl, rfl, rfl, rfl, rfl⟩

/-- The commands that move blocks. -/
def ScsiCmd.Reads (c : ScsiCmd) : Prop := c = .read10 ∨ c = .read12
def ScsiCmd.Writes (c : ScsiCmd) : Prop := c = .write10 ∨ c = .write12

/-- The number of blocks that a command names. -/
def blocks (d : MscDev σ) : UInt32 :=
  if d.cmd = .read10 ∨ d.cmd = .write10 then d.getBe16 7 else d.getBe32 6

/-- How a command may end. -/
inductive Outcome (st : Storage σ) (d : MscDev σ) (r : Bool × UInt8 × MscDev σ) : Prop where
  /-- Nothing is left to be done but to send the answer or to stall. -/
  | plain (same : d.Same r.2.2)
  /-- The data of the host are awaited. -/
  | writing (ok : r.1 = true) (writes : d.cmd.Writes) (n : UInt32) (named : n = d.blocks)
    (range : ¬ d.getBe32 2 + n > d.blkNbr)
    (length : d.dDataLength = n * d.blkSize)
    (eq : r.2.2 = { d with startSector := d.getBe32 2, nsectors := n, stage := .dataOut }.usbdEpStartRead
      .blockBuffer { d with nsectors := n }.pieceLen)
  /-- The first piece has been read, or could not be read. -/
  | reading (reads : d.cmd.Reads) (n : UInt32) (named : n = d.blocks)
    (range : ¬ d.getBe32 2 + n > d.blkNbr)
    (length : d.dDataLength = n * d.blkSize)
    (ok : r.1 = ({ d with startSector := d.getBe32 2, nsectors := n, stage := .dataIn }.scsiProcessRead
      st).1)
    (eq : r.2.2 = ({ d with startSector := d.getBe32 2, nsectors := n, stage := .dataIn }.scsiProcessRead
      st).2)

/-- A read ends in a refusal or starts to read the blocks it names. -/
lemma outcome_scsiRead (reads : d.cmd.Reads) {n : UInt32} (named : n = d.blocks) :
    d.Outcome st (d.scsiRead st n) := by
  unfold scsiRead
  dsimp only
  split_ifs with bad range length
  · exact .plain (d.same_refuse _)
  · exact .plain ⟨rfl, rfl, rfl, rfl, rfl, rfl, rfl, rfl, rfl⟩
  · exact .plain ⟨rfl, rfl, rfl, rfl, rfl, rfl, rfl, rfl, rfl⟩
  · exact .reading reads n named range (not_not.mp length) rfl rfl

/-- A write ends in a refusal or awaits the blocks it names. -/
lemma outcome_scsiWrite (writes : d.cmd.Writes) {n : UInt32} (named : n = d.blocks) :
    d.Outcome st (d.scsiWrite n) := by
  unfold scsiWrite
  dsimp only
  split_ifs with bad range length
  · exact .plain (d.same_refuse _)
  · exact .plain ⟨rfl, rfl, rfl, rfl, rfl, rfl, rfl, rfl, rfl⟩
  · exact .plain ⟨rfl, rfl, rfl, rfl, rfl, rfl, rfl, rfl, rfl⟩
  · exact .writing rfl writes n named range (not_not.mp length) rfl

/-- Every command ends in one of these ways. -/
lemma outcome_runCmd (st : Storage σ) (d : MscDev σ) : d.Outcome st (d.runCmd st) := by
  unfold runCmd
  cases code : d.cmd with
  | testunitready =>
    apply Outcome.plain
    dsimp only [scsiTestUnitReady]
    split_ifs
    · exact d.same_refuse _
    · exact d.same_done
  | requestsense =>
    apply Outcome.plain
    dsimp only [scsiRequestSense]
    split_ifs
    · exact d.same_refuse _
    · exact d.same_reply _ _
  | inquiry =>
    apply Outcome.plain
    dsimp only [scsiInquiry]
    split_ifs
    · exact d.same_refuse _
    · exact d.same_reply _ _
    · exact d.same_reply _ _
    · exact d.same_refuse _
    · exact d.same_reply _ _
  | startstopunit =>
    apply Outcome.plain
    dsimp only [scsiStartStopUnit]
    split_ifs
    · exact d.same_refuse _
    · exact ⟨rfl, rfl, rfl, rfl, rfl, rfl, rfl, rfl, rfl⟩
    · exact d.same_done
  | preventmediaremoval =>
    apply Outcome.plain
    dsimp only [scsiPreventAllowMediaRemoval]
    split_ifs
    · exact d.same_refuse _
    · exact d.same_done
  | modesense6 =>
    apply Outcome.plain
    dsimp only [scsiModeSense6]
    split_ifs
    · exact d.same_refuse _
    · exact d.same_reply _ _
    · exact d.same_reply _ _
  | modesense10 =>
    apply Outcome.plain
    dsimp only [scsiModeSense10]
    split_ifs
    · exact d.same_refuse _
    · exact d.same_reply _ _
  | readformatcapacities =>
    apply Outcome.plain
    dsimp only [scsiReadFormatCapacity]
    split_ifs
    · exact d.same_refuse _
    · exact d.same_reply _ _
  | readcapacity10 =>
    apply Outcome.plain
    dsimp only [scsiReadCapacity10]
    split_ifs
    · exact d.same_refuse _
    · exact d.same_reply _ _
  | read10 => exact outcome_scsiRead (.inl code) (if_pos (.inl code)).symm
  | read12 => exact outcome_scsiRead (.inr code) (if_neg (by rw [code]; decide)).symm
  | write10 => exact outcome_scsiWrite (.inl code) (if_pos (.inr code)).symm
  | write12 => exact outcome_scsiWrite (.inr code) (if_neg (by rw [code]; decide)).symm
  | verify10 => exact .plain (.refl d)
  | unsupported => exact .plain (d.same_refuse _)

/-! ## Where the exchange stands -/

/-- The OUT endpoint waits for a command block, or for nothing. -/
def AwaitsCbw (d : MscDev σ) : Prop := d.out = none ∨ d.out = some (.cbw, usbSizeofMscCbw)

/-- The stages, with the command that is open in each and what the endpoints do. -/
inductive Inv (d : MscDev σ) : Prop where
  | idle (stage : d.stage = .readCbw) (out : d.AwaitsCbw) (inn : d.inn = none)
    (follows : Follows d.log none)
  | writing (stage : d.stage = .dataOut) (writes : d.cmd.Writes) (len : UInt32)
    (out : d.out = some (.blockBuffer, len)) (inn : d.inn = none)
    (follows : Follows d.log (some d.open_))
  | reading (stage : d.stage = .dataIn) (reads : d.cmd.Reads) (data : List UInt8) (out : d.out = none)
    (inn : d.inn = some data) (follows : Follows d.log (some d.open_))
  /-- A failed read of the first piece leaves the stage behind. -/
  | stuck (stage : d.stage = .dataIn) (out : d.AwaitsCbw) (inn : d.inn = none)
    (follows : Follows d.log none)
  | sending (stage : d.stage = .sendCsw) (data : List UInt8) (out : d.out = none)
    (inn : d.inn = some data) (follows : Follows d.log (some d.open_))
  | waiting (stage : d.stage = .waitCsw) (data : List UInt8) (out : d.out = none)
    (inn : d.inn = some data) (follows : Follows d.log none)

/-- A status with the counters of the open command closes it. -/
lemma follows_sendCsw (follows : Follows d.log (some d.open_)) (status : UInt8) :
    Follows (d.usbdMscSendCsw status).log none := by
  apply follows.snoc
  exact if_pos ⟨rfl, rfl⟩

/-- A status has been given to the IN endpoint. -/
lemma Inv.sendCsw (out : d.out = none) (follows : Follows d.log (some d.open_)) (status : UInt8) :
    (d.usbdMscSendCsw status).Inv :=
  .waiting rfl _ out rfl (follows_sendCsw follows status)

/-- The answer to a command that moves no blocks has been given to the IN endpoint. -/
lemma Inv.sendInfo (out : d.out = none) (follows : Follows d.log (some d.open_)) (size : UInt8) :
    (d.usbdMscSendInfo size).Inv := by
  unfold usbdMscSendInfo
  dsimp only
  generalize (if size.toUInt32 < d.dDataLength then size else d.dDataLength.toUInt8) = size
  refine .sending rfl _ out rfl (follows.snoc ?_)
  have len : UInt32.ofNat (d.blockBuffer.toList size.toNat).length = size.toUInt32 := by
    rw [Mem.toList_length]
    exact UInt32.toNat_inj.mp (by simp)
  rw [botNext, len]
  rfl

/-- After an abort the next command block is awaited. -/
lemma Inv.abort_idle (stage : d.stage = .readCbw) (inn : d.inn = none) {c : Option OpenCmd}
    (follows : Follows d.log c) : d.usbdMscBotAbort.Inv := by
  refine .idle stage (.inr rfl) inn (follows.snoc ?_)
  cases c <;> rfl

/-! ## One piece -/

/-- The state in which a piece has been read. -/
def afterRead (st : Storage σ) (d : MscDev σ) : MscDev σ :=
  { d with
    storage := (d.readAnswer st).1
    blockBuffer := (d.readAnswer st).2.1
    startSector := d.startSector + d.pieceLen / d.blkSize
    nsectors := d.nsectors - d.pieceLen / d.blkSize
    csw := { d.csw with dDataResidue := d.csw.dDataResidue - d.pieceLen }
    stage := if d.nsectors - d.pieceLen / d.blkSize = 0 then .sendCsw else d.stage
    inn := some ((d.readAnswer st).2.1.toList d.pieceLen.toNat)
    log := d.log ++ [.sectorRead d.startSector d.pieceLen,
      .dataIn ((d.readAnswer st).2.1.toList d.pieceLen.toNat)] }

/-- The state in which a piece has been written, before the next one is asked for. -/
def afterWrite (st : Storage σ) (d : MscDev σ) (nbytes : UInt32) : MscDev σ :=
  { d with
    storage := (d.writeAnswer st nbytes).1
    startSector := d.startSector + nbytes / d.blkSize
    nsectors := d.nsectors - nbytes / d.blkSize
    csw := { d.csw with dDataResidue := d.csw.dDataResidue - nbytes }
    log := d.log ++ [.sectorWrite d.startSector nbytes, .dataOut nbytes] }

/-- A failed access leaves sense data, and the counters as they were. -/
def readFailed (st : Storage σ) (d : MscDev σ) : MscDev σ :=
  ({ d with storage := (d.readAnswer st).1, blockBuffer := (d.readAnswer st).2.1 }.logged
    (.sectorRead d.startSector d.pieceLen)).scsiSetSenseData scsiKcqheUreinreservedarea

def writeFailed (st : Storage σ) (d : MscDev σ) (nbytes : UInt32) : MscDev σ :=
  ({ d with storage := (d.writeAnswer st nbytes).1 }.logged
    (.sectorWrite d.startSector nbytes)).scsiSetSenseData scsiKcqheWritefault

/-- A read that the storage refuses fails. -/
lemma processRead_fail (fails : (d.readAnswer st).2.2 ≠ 0) :
    d.scsiProcessRead st = (false, d.readFailed st) := by
  rw [scsiProcessRead]
  exact if_pos fails

/-- A read that the storage serves succeeds. -/
lemma processRead_ok (ok : (d.readAnswer st).2.2 = 0) :
    d.scsiProcessRead st = (true, d.afterRead st) := by
  rw [scsiProcessRead, afterRead]
  dsimp only
  rw [if_neg (not_not_intro ok)]
  simp only [logged, advance, usbdEpStartWrite, List.append_assoc, List.singleton_append]
  rfl

/-- A write that the storage refuses fails. -/
lemma processWrite_fail {nbytes : UInt32} (fails : (d.writeAnswer st nbytes).2 ≠ 0) :
    d.scsiProcessWrite st nbytes = (false, d.writeFailed st nbytes) := by
  rw [scsiProcessWrite]
  exact if_pos fails

/-- A write that the storage takes is followed by the status, or by the wait for the next piece. -/
lemma processWrite_ok {nbytes : UInt32} (ok : (d.writeAnswer st nbytes).2 = 0) :
    d.scsiProcessWrite st nbytes = (true,
      if d.nsectors - nbytes / d.blkSize = 0 then
        (d.afterWrite st nbytes).usbdMscSendCsw cswStatusCmdPassed
      else (d.afterWrite st nbytes).usbdEpStartRead .blockBuffer (d.afterWrite st nbytes).pieceLen) := by
  have eq : (({ d with storage := (d.writeAnswer st nbytes).1 }.logged
      (.sectorWrite d.startSector nbytes)).logged (.dataOut nbytes)).advance nbytes =
        d.afterWrite st nbytes := by
    simp only [logged, advance, afterWrite, List.append_assoc, List.singleton_append]
    rfl
  rw [scsiProcessWrite]
  dsimp only
  rw [if_neg (not_not_intro ok), ← eq]
  rfl

/-- A read that has started does not wait for a command block. -/
lemma afterRead_stage_ne (stage : d.stage = .dataIn) : (d.afterRead st).stage ≠ .readCbw := by
  change (if d.nsectors - d.pieceLen / d.blkSize = 0 then .sendCsw else d.stage) ≠ Stage.readCbw
  rw [stage]
  split_ifs
  · decide
  · decide

/-- A piece that has been read counts in the residue. -/
lemma follows_afterRead (follows : Follows d.log (some d.open_)) :
    Follows (d.afterRead st).log (some (d.afterRead st).open_) := by
  have read := follows.snoc (e := .sectorRead d.startSector d.pieceLen) rfl
  have data := read.snoc (e := .dataIn ((d.readAnswer st).2.1.toList d.pieceLen.toNat)) rfl
  rw [Mem.toList_length, UInt32.ofNat_toNat, List.append_assoc] at data
  exact data

/-- A piece that has been written counts in the residue. -/
lemma follows_afterWrite {nbytes : UInt32} (follows : Follows d.log (some d.open_)) :
    Follows (d.afterWrite st nbytes).log (some (d.afterWrite st nbytes).open_) := by
  have write := follows.snoc (e := .sectorWrite d.startSector nbytes) rfl
  have data := write.snoc (e := .dataOut nbytes) rfl
  rw [List.append_assoc] at data
  exact data

/-- After a piece has been read, the stage is as before or the status comes next. -/
lemma Inv.afterRead (stage : d.stage = .dataIn) (reads : d.cmd.Reads) (out : d.out = none)
    (follows : Follows d.log (some d.open_)) : (d.afterRead st).Inv := by
  by_cases last : d.nsectors - d.pieceLen / d.blkSize = 0
  · exact .sending (if_pos last) _ out rfl (follows_afterRead follows)
  · exact .reading ((if_neg last).trans stage) reads _ out rfl (follows_afterRead follows)

/-! ## One event -/

/-- The command of a new command block has been run. -/
lemma Inv.decodeCmd (stage : d.stage = .readCbw) (out : d.out = none) (inn : d.inn = none)
    (follows : Follows d.log (some d.open_)) :
    (if (d.decodeCmd st).1 then (d.decodeCmd st).2 else (d.decodeCmd st).2.usbdMscBotAbort).Inv := by
  unfold MscDev.decodeCmd
  by_cases bad : d.dSignature ≠ mscCbwSignature ∨ d.bCBLength < 1 ∨ d.bCBLength > 16
  · rw [if_pos bad]
    exact .abort_idle stage inn follows
  rw [if_neg bad]
  dsimp only
  cases d.outcome_runCmd st with
  | plain same =>
    have stage' := same.stage.trans stage
    have inn' := same.inn.trans inn
    by_cases ok : (d.runCmd st).1 = true
    · have follows' : Follows (d.runCmd st).2.2.log (some (d.runCmd st).2.2.open_) := by
        rw [same.log, open_, same.csw]
        exact follows
      have out' := same.out.trans out
      rw [if_pos ok, if_pos ⟨ok, stage'⟩, answer]
      split_ifs
      · exact .sendInfo out' follows' _
      · exact .sendCsw out' follows' _
    · have follows' : Follows (d.runCmd st).2.2.log (some d.open_) := same.log ▸ follows
      rw [if_neg ok, if_neg (fun both => ok both.1)]
      exact .abort_idle stage' inn' follows'
  | writing ok writes n _ _ _ eq =>
    rw [if_pos ok, eq]
    rw [if_neg]
    · exact .writing rfl writes _ rfl inn follows
    · rintro ⟨_, still⟩
      cases still
  | reading reads n _ _ _ ok eq =>
    rw [ok, eq]
    generalize first : ({ d with startSector := d.getBe32 2, nsectors := n, stage := .dataIn } :
      MscDev σ) = d₁
    have reads₁ : d₁.cmd.Reads := first ▸ reads
    have out₁ : d₁.out = none := first ▸ out
    have stage₁ : d₁.stage = .dataIn := first ▸ rfl
    have follows₁ : Follows d₁.log (some d₁.open_) := first ▸ follows
    by_cases answer : (d₁.readAnswer st).2.2 = 0
    · rw [processRead_ok answer, if_pos rfl, if_neg]
      · exact .afterRead stage₁ reads₁ out₁ follows₁
      · exact fun both => afterRead_stage_ne stage₁ both.2
    · have inn₁ : d₁.inn = none := first ▸ inn
      have read := follows₁.snoc (e := .sectorRead d₁.startSector d₁.pieceLen) rfl
      rw [processRead_fail answer, if_neg Bool.false_ne_true, if_neg]
      · exact .stuck stage₁ (.inr rfl) inn₁ (read.snoc rfl)
      · exact fun both => Bool.false_ne_true both.1

/-- A command block has been received. -/
lemma Inv.cbwDecode (stage : d.stage = .readCbw) (out : d.out = none) (inn : d.inn = none)
    (follows : Follows d.log none) (nbytes : UInt32) :
    (if (d.scsiCbwDecode st nbytes).1 then (d.scsiCbwDecode st nbytes).2
      else (d.scsiCbwDecode st nbytes).2.usbdMscBotAbort).Inv := by
  unfold scsiCbwDecode
  by_cases size : nbytes ≠ usbSizeofMscCbw
  · rw [if_pos size]
    exact .abort_idle stage inn follows
  · rw [if_neg size]
    exact .decodeCmd stage out inn (follows.snoc rfl)

/-- A piece of the data of the host has been received. -/
lemma Inv.processWrite (stage : d.stage = .dataOut) (writes : d.cmd.Writes) (out : d.out = none)
    (inn : d.inn = none) (follows : Follows d.log (some d.open_)) (nbytes : UInt32) :
    (if (d.scsiProcessWrite st nbytes).1 then (d.scsiProcessWrite st nbytes).2
      else (d.scsiProcessWrite st nbytes).2.usbdMscSendCsw cswStatusCmdFailed).Inv := by
  by_cases answer : (d.writeAnswer st nbytes).2 = 0
  · rw [processWrite_ok answer, if_pos rfl]
    dsimp only
    split_ifs with last
    · exact .sendCsw (d := d.afterWrite st nbytes) out (follows_afterWrite follows) _
    · have next : Follows (d.afterWrite st nbytes).log (some (d.afterWrite st nbytes).open_) :=
        follows_afterWrite follows
      exact .writing stage writes _ rfl inn next
  · have write := follows.snoc (e := .sectorWrite d.startSector nbytes) rfl
    rw [processWrite_fail answer, if_neg Bool.false_ne_true]
    exact .sendCsw (d := d.writeFailed st nbytes) out write _

/-- A reset request or a new configuration does not come in the middle of a command. -/
def Orderly (d : MscDev σ) (ev : BusEvent) : Prop :=
  ev = .massReset ∨ ev = .configured → d.inn = none ∧ d.stage ≠ .dataOut

instance (d : MscDev σ) (ev : BusEvent) : Decidable (d.Orderly ev) :=
  inferInstanceAs (Decidable
    ((ev = .massReset ∨ ev = .configured) → d.inn = none ∧ d.stage ≠ .dataOut))

/-- In stage `readCbw` what comes in is a command block. -/
lemma bulkOut_readCbw (stage : d.stage = .readCbw) (nbytes : UInt32) :
    d.massStorageBulkOut st nbytes = if (d.scsiCbwDecode st nbytes).1 then (d.scsiCbwDecode st nbytes).2
      else (d.scsiCbwDecode st nbytes).2.usbdMscBotAbort := by
  simp only [massStorageBulkOut, stage]

/-- In stage `dataOut` what comes in is a piece of a write. -/
lemma bulkOut_dataOut (stage : d.stage = .dataOut) (writes : d.cmd.Writes) (nbytes : UInt32) :
    d.massStorageBulkOut st nbytes =
      if (d.scsiProcessWrite st nbytes).1 then (d.scsiProcessWrite st nbytes).2
      else (d.scsiProcessWrite st nbytes).2.usbdMscSendCsw cswStatusCmdFailed := by
  simp only [massStorageBulkOut, stage]
  exact if_pos writes

/-- In stage `dataIn` what comes in is ignored. -/
lemma bulkOut_dataIn (stage : d.stage = .dataIn) (nbytes : UInt32) :
    d.massStorageBulkOut st nbytes = d := by
  simp only [massStorageBulkOut, stage]

/-- In stage `dataIn` the next piece is read once the host has taken one. -/
lemma bulkIn_dataIn (stage : d.stage = .dataIn) (reads : d.cmd.Reads) :
    d.massStorageBulkIn st = if (d.scsiProcessRead st).1 then (d.scsiProcessRead st).2
      else (d.scsiProcessRead st).2.usbdMscSendCsw cswStatusCmdFailed := by
  simp only [massStorageBulkIn, stage]
  exact if_pos reads

/-- In stage `sendCsw` the status is sent once the host has taken the data. -/
lemma bulkIn_sendCsw (stage : d.stage = .sendCsw) :
    d.massStorageBulkIn st = d.usbdMscSendCsw cswStatusCmdPassed := by
  simp only [massStorageBulkIn, stage]

/-- In stage `waitCsw` the next command block is awaited once the host has taken the status. -/
lemma bulkIn_waitCsw (stage : d.stage = .waitCsw) : d.massStorageBulkIn st =
    { d with stage := .readCbw }.usbdEpStartRead .cbw usbSizeofMscCbw := by
  simp only [massStorageBulkIn, stage]

/-- The OUT transfer is complete. -/
lemma step_outDone {target : OutTarget} {len : UInt32} (out : d.out = some (target, len))
    {data : List UInt8} (fits : data.length ≤ len.toNat) :
    d.step st (.outDone data) =
      (d.storeOut target data).massStorageBulkOut st (UInt32.ofNat data.length) := by
  simp only [MscDev.step, out, if_pos fits]

/-- Nothing happens at an OUT endpoint that waits for nothing or for less. -/
lemma step_outDone_none {data : List UInt8}
    (none : ∀ target len, d.out = some (target, len) → ¬ data.length ≤ len.toNat) :
    d.step st (.outDone data) = d := by
  rw [MscDev.step]
  split
  · rfl
  · rename_i target len out
    rw [if_neg (none target len out)]

/-- The IN transfer is complete. -/
lemma step_inDone {data : List UInt8} (inn : d.inn = some data) :
    d.step st .inDone = { d with inn := none }.massStorageBulkIn st := by
  simp only [MscDev.step, inn]

/-- The end of an OUT transfer keeps the invariant. -/
lemma Inv.outDone (inv : d.Inv) (data : List UInt8) : (d.step st (.outDone data)).Inv := by
  by_cases fits : ∃ target len, d.out = some (target, len) ∧ data.length ≤ len.toNat
  · obtain ⟨target, len, at', fits⟩ := fits
    rw [step_outDone at' fits]
    cases inv with
    | idle stage out inn follows =>
      rcases out with none | cbw
      · cases none.symm.trans at'
      · cases cbw.symm.trans at'
        rw [bulkOut_readCbw (d := d.storeOut .cbw data) stage]
        exact .cbwDecode (d := d.storeOut .cbw data) stage rfl inn follows _
    | writing stage writes _ out inn follows =>
      cases out.symm.trans at'
      rw [bulkOut_dataOut (d := d.storeOut .blockBuffer data) stage writes]
      exact .processWrite (d := d.storeOut .blockBuffer data) stage writes rfl inn follows _
    | reading _ _ _ out => cases out.symm.trans at'
    | stuck stage out inn follows =>
      rcases out with none | cbw
      · cases none.symm.trans at'
      · cases cbw.symm.trans at'
        rw [bulkOut_dataIn (d := d.storeOut .cbw data) stage]
        exact .stuck stage (.inl rfl) inn follows
    | sending _ _ out => cases out.symm.trans at'
    | waiting _ _ out => cases out.symm.trans at'
  · rw [step_outDone_none fun target len at' le => fits ⟨target, len, at', le⟩]
    exact inv

/-- The end of an IN transfer keeps the invariant. -/
lemma Inv.inDone (inv : d.Inv) : (d.step st .inDone).Inv := by
  cases given : d.inn with
  | none =>
    have still : d.step st .inDone = d := by simp only [MscDev.step, given]
    rw [still]
    exact inv
  | some data =>
    rw [step_inDone given]
    cases inv with
    | idle _ _ inn => cases inn.symm.trans given
    | writing _ _ _ _ inn => cases inn.symm.trans given
    | reading stage reads data out _ follows =>
      rw [bulkIn_dataIn (d := { d with inn := none }) stage reads]
      by_cases answer : (({ d with inn := none } : MscDev σ).readAnswer st).2.2 = 0
      · rw [processRead_ok answer, if_pos rfl]
        exact .afterRead stage reads out follows
      · have read := follows.snoc (e := .sectorRead d.startSector d.pieceLen) rfl
        rw [processRead_fail answer, if_neg Bool.false_ne_true]
        exact .sendCsw (d := MscDev.readFailed st { d with inn := none }) out read _
    | stuck _ _ inn => cases inn.symm.trans given
    | sending stage data out _ follows =>
      rw [bulkIn_sendCsw (d := { d with inn := none }) stage]
      exact .sendCsw (d := { d with inn := none }) out follows _
    | waiting stage data out _ follows =>
      rw [bulkIn_waitCsw (d := { d with inn := none }) stage]
      exact .idle rfl (.inr rfl) rfl follows

/-- The protocol is not left by a reset, whatever was open. -/
lemma Inv.follows (inv : d.Inv) : ∃ c, Follows d.log c := by
  cases inv with
  | idle _ _ _ follows => exact ⟨_, follows⟩
  | writing _ _ _ _ _ follows => exact ⟨_, follows⟩
  | reading _ _ _ _ _ follows => exact ⟨_, follows⟩
  | stuck _ _ _ follows => exact ⟨_, follows⟩
  | sending _ _ _ _ follows => exact ⟨_, follows⟩
  | waiting _ _ _ _ follows => exact ⟨_, follows⟩

/-- A reset is allowed at any point and leaves no command open. -/
lemma follows_reset {log : List BotEvent} {c : Option OpenCmd} (follows : Follows log c) :
    Follows (log ++ [.reset]) none := by
  apply follows.snoc
  cases c <;> rfl

/-- Every event that comes at an orderly time keeps the invariant. -/
lemma Inv.step (inv : d.Inv) {ev : BusEvent} (orderly : d.Orderly ev) : (d.step st ev).Inv := by
  cases ev with
  | outDone data => exact inv.outDone data
  | inDone => exact inv.inDone
  | massReset =>
    obtain ⟨inn, stage⟩ := orderly (.inl rfl)
    cases inv with
    | idle _ out _ follows => exact .idle rfl out inn (follows_reset follows)
    | writing stage' => exact absurd stage' stage
    | reading _ _ _ _ inn' => cases inn.symm.trans inn'
    | stuck _ out _ follows => exact .idle rfl out inn (follows_reset follows)
    | sending _ _ _ inn' => cases inn.symm.trans inn'
    | waiting _ _ _ inn' => cases inn.symm.trans inn'
  | busReset =>
    obtain ⟨c, follows⟩ := inv.follows
    exact .idle rfl (.inl rfl) rfl (follows_reset follows)
  | configured =>
    obtain ⟨inn, stage⟩ := orderly (.inr rfl)
    cases inv with
    | idle stage' _ _ follows => exact .idle stage' (.inr rfl) inn follows
    | writing stage' => exact absurd stage' stage
    | reading _ _ _ _ inn' => cases inn.symm.trans inn'
    | stuck stage' _ _ follows => exact .stuck stage' (.inr rfl) inn follows
    | sending _ _ _ inn' => cases inn.symm.trans inn'
    | waiting _ _ _ inn' => cases inn.symm.trans inn'

end MscDev

/-- Whatever the host sends and the storage answers, the exchange keeps to the protocol. -/
theorem bot_protocol_kept {σ : Type} (st : Storage σ) (blockNum blockSize : UInt32) (storage : σ)
    (other : UInt8 → UInt32 × UInt32) (run : List BusEvent)
    (orderly : Along (MscDev.step st) MscDev.Orderly
      (.usbdMscInitIntf blockNum blockSize other storage) run) :
    ∃ c, Follows
      (run.foldl (MscDev.step st) (.usbdMscInitIntf blockNum blockSize other storage)).log c := by
  have start : (MscDev.usbdMscInitIntf blockNum blockSize other storage).Inv :=
    .idle rfl (.inl rfl) rfl rfl
  exact (orderly.invariant (fun d ev inv ok => inv.step ok) start).follows

/-- There are zeros behind the arrays of the units. -/
def noOther (_ : UInt8) : UInt32 × UInt32 := (0, 0)

/-- A storage that is all zeros. -/
def zeros : Storage Unit where
  read := fun s _ _ _ _ => (s, fun _ => 0, 0)
  write := fun s _ _ _ _ => (s, 0)

/-- A command block that reads block 3. -/
def readBlock3 : List UInt8 :=
  [0x55, 0x53, 0x42, 0x43, 7, 0, 0, 0, 0, 2, 0, 0, 0x80, 0, 10, 0x28, 0, 0, 0, 0, 3, 0, 0, 1] ++
    List.replicate 7 0

/-- The host configures the device, reads a block and takes the status. -/
def readRun : List BusEvent := [.configured, .outDone readBlock3, .inDone, .inDone]

/-- The protocol is kept while a block is read. -/
theorem bot_protocol_kept_read :
    ((readRun.foldl (MscDev.step zeros) (.usbdMscInitIntf 16 512 noOther ())).log.length = 4) ∧
      ∃ c, Follows (readRun.foldl (MscDev.step zeros) (.usbdMscInitIntf 16 512 noOther ())).log c :=
  ⟨by decide +kernel, bot_protocol_kept zeros 16 512 () noOther readRun (by decide +kernel)⟩

end WlhHpm.Usb

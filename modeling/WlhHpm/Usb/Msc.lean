import WlhHpm.Lib.Word

/-!
# The mass-storage class of the USB device

`packages/cherryusb/class/msc/usbd_msc.c` as the bootloader builds it: one logical unit, a block
buffer of 512 bytes, and neither a thread nor polling, so that the commands run in the endpoint
callbacks. `mass_storage_bulk_out` decodes a command block and runs the command or takes the next
piece of its data; `mass_storage_bulk_in` sends the next piece or the status.

The endpoints are part of the state: what the OUT endpoint waits for and what the IN endpoint has been
given to send. `log` lists what has been exchanged, in order. The storage behind the class (the
functions `usbd_msc_sector_read` and `usbd_msc_sector_write` of the application) is a parameter.
-/

namespace WlhHpm.Usb

/-! ## Data -/

/-- C `enum Stage`. -/
inductive Stage where
  | readCbw
  | dataOut
  | dataIn
  | sendCsw
  | waitCsw
  deriving DecidableEq, Repr

/-- Where the OUT endpoint stores what the host sends. -/
inductive OutTarget where
  | cbw
  | blockBuffer
  deriving DecidableEq, Repr

/-- C `struct CSW` without its signature. -/
structure Csw where
  dTag : UInt32
  dDataResidue : UInt32
  bStatus : UInt8
  deriving DecidableEq, Repr

def mscCbwSignature : UInt32 := 0x43425355
def mscCswSignature : UInt32 := 0x53425355
def cswStatusCmdPassed : UInt8 := 0
def cswStatusCmdFailed : UInt8 := 1

/-- `USB_SIZEOF_MSC_CBW`. -/
def usbSizeofMscCbw : UInt32 := 31

/-- `CONFIG_USBDEV_MSC_MAX_BUFSIZE`. -/
def configUsbdevMscMaxBufsize : UInt32 := 512

/-- What goes over the wire. -/
def Csw.bytes (csw : Csw) : List UInt8 :=
  Word.le32Bytes mscCswSignature ++ Word.le32Bytes csw.dTag ++ Word.le32Bytes csw.dDataResidue ++
    [csw.bStatus]

/-- What is exchanged with the host, and the accesses to the storage. -/
inductive BotEvent where
  | cbw (dTag dDataLength : UInt32)
  | dataIn (data : List UInt8)
  /-- A piece that the host has sent and the storage has taken; one that it refuses leaves only its
      `sectorWrite`. -/
  | dataOut (nbytes : UInt32)
  | csw (csw : Csw)
  /-- The endpoints are stalled. -/
  | abort
  | reset
  | sectorRead (sector length : UInt32)
  | sectorWrite (sector length : UInt32)
  deriving DecidableEq, Repr

/-- The storage of the application: `usbd_msc_sector_read` and `usbd_msc_sector_write`, with what they
    return. -/
structure Storage (σ : Type) where
  read : σ → UInt8 → UInt32 → Mem → UInt32 → σ × Mem × Int
  write : σ → UInt8 → UInt32 → Mem → UInt32 → σ × Int

/-- C `struct usbd_msc_priv` with the endpoints and the storage. The arrays with one entry for each
    logical unit are functions: an index that has no entry reads something else. -/
structure MscDev (σ : Type) where
  stage : Stage
  cbw : Mem
  csw : Csw
  readonly : Bool
  popup : Bool
  sKey : UInt8
  asc : UInt8
  asq : UInt8
  startSector : UInt32
  nsectors : UInt32
  scsiBlkSize : UInt8 → UInt32
  scsiBlkNbr : UInt8 → UInt32
  blockBuffer : Mem
  storage : σ
  /-- What the OUT endpoint waits for: where it goes and how much. -/
  out : Option (OutTarget × UInt32)
  /-- What the IN endpoint has been given. -/
  inn : Option (List UInt8)
  log : List BotEvent

namespace MscDev
variable {σ : Type}

/-! ## The command block -/

def dSignature (d : MscDev σ) : UInt32 := Word.le32 d.cbw 0
def dTag (d : MscDev σ) : UInt32 := Word.le32 d.cbw 4
def dDataLength (d : MscDev σ) : UInt32 := Word.le32 d.cbw 8
def bmFlags (d : MscDev σ) : UInt8 := d.cbw 12
def bLUN (d : MscDev σ) : UInt8 := d.cbw 13
def bCBLength (d : MscDev σ) : UInt8 := d.cbw 14

/-- The command, byte by byte. -/
def cb (d : MscDev σ) (i : Nat) : UInt8 := d.cbw (15 + i)

/-- C `GET_BE32` and `GET_BE16` on the command. -/
def getBe32 (d : MscDev σ) (i : Nat) : UInt32 :=
  Word.be32 [d.cb i, d.cb (i + 1), d.cb (i + 2), d.cb (i + 3)] 0
def getBe16 (d : MscDev σ) (i : Nat) : UInt32 := Word.be32 [0, 0, d.cb i, d.cb (i + 1)] 0

/-- The sizes of the unit that the command is for. -/
def blkSize (d : MscDev σ) : UInt32 := d.scsiBlkSize d.bLUN
def blkNbr (d : MscDev σ) : UInt32 := d.scsiBlkNbr d.bLUN

/-! ## Endpoints -/

def logged (d : MscDev σ) (e : BotEvent) : MscDev σ := { d with log := d.log ++ [e] }

/-- C `usbd_ep_start_read`. -/
def usbdEpStartRead (d : MscDev σ) (target : OutTarget) (len : UInt32) : MscDev σ :=
  { d with out := some (target, len) }

/-- C `usbd_ep_start_write`. -/
def usbdEpStartWrite (d : MscDev σ) (data : List UInt8) : MscDev σ := { d with inn := some data }

/-- C `usbd_msc_bot_abort`; which endpoints are stalled is not kept. -/
def usbdMscBotAbort (d : MscDev σ) : MscDev σ :=
  (d.logged .abort).usbdEpStartRead .cbw usbSizeofMscCbw

/-- C `usbd_msc_send_csw`. -/
def usbdMscSendCsw (d : MscDev σ) (status : UInt8) : MscDev σ :=
  let d := { d with csw := { d.csw with bStatus := status }, stage := .waitCsw }
  (d.logged (.csw d.csw)).usbdEpStartWrite d.csw.bytes

/-- C `usbd_msc_send_info` on the block buffer; its size is 8 bits wide. -/
def usbdMscSendInfo (d : MscDev σ) (size : UInt8) : MscDev σ :=
  let size : UInt8 := if size.toUInt32 < d.dDataLength then size else d.dDataLength.toUInt8
  let data := d.blockBuffer.toList size.toNat
  let d := ({ d with stage := .sendCsw }.logged (.dataIn data)).usbdEpStartWrite data
  { d with csw := { d.csw with
      dDataResidue := d.csw.dDataResidue - size.toUInt32
      bStatus := cswStatusCmdPassed } }

/-! ## Commands -/

/-- C `SCSI_SetSenseData`. -/
def scsiSetSenseData (d : MscDev σ) (kcq : UInt32) : MscDev σ :=
  { d with sKey := (kcq >>> 16).toUInt8, asc := (kcq >>> 8).toUInt8, asq := kcq.toUInt8 }

def scsiKcqirInvalidcommand : UInt32 := 0x052000
def scsiKcqirLbaoutofrange : UInt32 := 0x052100
def scsiKcqirInvalidfieldincba : UInt32 := 0x052400
def scsiKcqheUreinreservedarea : UInt32 := 0x041100
def scsiKcqheWritefault : UInt32 := 0x040300

/-- A command fails with sense data. -/
def refuse (d : MscDev σ) (kcq : UInt32) : Bool × UInt8 × MscDev σ := (false, 0, d.scsiSetSenseData kcq)

/-- A command is done and has nothing to send. -/
def done (d : MscDev σ) : Bool × UInt8 × MscDev σ := (true, 0, d)

/-- A command has put the first `len` bytes of `data` into the block buffer, to be sent. -/
def reply (d : MscDev σ) (data : List UInt8) (len : UInt8) : Bool × UInt8 × MscDev σ :=
  (true, len, { d with blockBuffer := d.blockBuffer.copy 0 len.toNat (Mem.ofList data) })

/-- The length that the command asks for, if it is less than all. -/
def atMost (asked all : UInt8) : UInt8 := if asked < all then asked else all

/-- C `SCSI_testUnitReady`. -/
def scsiTestUnitReady (d : MscDev σ) : Bool × UInt8 × MscDev σ :=
  if d.dDataLength ≠ 0 then d.refuse scsiKcqirInvalidcommand else d.done

/-- C `SCSI_requestSense`. -/
def scsiRequestSense (d : MscDev σ) : Bool × UInt8 × MscDev σ :=
  if d.dDataLength = 0 then d.refuse scsiKcqirInvalidcommand
  else
    d.reply [0x70, 0, d.sKey, 0, 0, 0, 0, 10, 0, 0, 0, 0, d.asc, d.asq, 0, 0, 0, 0]
      (atMost (d.cb 4) 18)

/-- `CONFIG_USBDEV_MSC_MANUFACTURER_STRING`: it is one byte longer than its field. -/
def manufacturerString : List UInt8 := [0x42, 0x65, 0x65, 0x54, 0x61, 0x63, 0x6b, 0x6c, 0x65]

/-- `CONFIG_USBDEV_MSC_PRODUCT_STRING`. -/
def productString : List UInt8 := [0x48, 0x50, 0x4d, 0x20, 0x55, 0x46, 0x32]

/-- `CONFIG_USBDEV_MSC_VERSION_STRING`. -/
def versionString : List UInt8 := [0x31, 0x2e, 0x30]

/-- The standard inquiry data, the strings copied over it one after the other. -/
def inquiryData : List UInt8 :=
  ((((Mem.ofList ([0x00, 0x80, 0x02, 0x02, 31, 0, 0, 0] ++ List.replicate 28 0x20)).copy 8 9
    (Mem.ofList manufacturerString)).copy 16 7 (Mem.ofList productString)).copy 32 3
      (Mem.ofList versionString)).toList 36

/-- C `SCSI_inquiry`. -/
def scsiInquiry (d : MscDev σ) : Bool × UInt8 × MscDev σ :=
  if d.dDataLength = 0 then d.refuse scsiKcqirInvalidcommand
  else if d.cb 1 &&& 0x01 ≠ 0 then
    if d.cb 2 = 0 then d.reply [0, 0, 0, 2, 0, 0x80] 6
    else if d.cb 2 = 0x80 then d.reply [0, 0x80, 0, 8, 0x20, 0x20, 0x20, 0x20] 8
    else d.refuse scsiKcqirInvalidfieldincba
  else d.reply inquiryData (atMost (d.cb 4) 36)

/-- C `SCSI_startStopUnit`. -/
def scsiStartStopUnit (d : MscDev σ) : Bool × UInt8 × MscDev σ :=
  if d.dDataLength ≠ 0 then d.refuse scsiKcqirInvalidcommand
  else if d.cb 4 &&& 0x3 = 0x2 then { d with popup := true }.done
  else d.done

/-- C `SCSI_preventAllowMediaRemoval`. -/
def scsiPreventAllowMediaRemoval (d : MscDev σ) : Bool × UInt8 × MscDev σ :=
  if d.dDataLength ≠ 0 then d.refuse scsiKcqirInvalidcommand else d.done

/-- C `SCSI_modeSense6`. -/
def scsiModeSense6 (d : MscDev σ) : Bool × UInt8 × MscDev σ :=
  if d.dDataLength = 0 then d.refuse scsiKcqirInvalidcommand
  else d.reply [0x03, 0, if d.readonly then 0x80 else 0, 0] (atMost (d.cb 4) 4)

/-- C `SCSI_modeSense10`. -/
def scsiModeSense10 (d : MscDev σ) : Bool × UInt8 × MscDev σ :=
  if d.dDataLength = 0 then d.refuse scsiKcqirInvalidcommand
  else
    d.reply ([0, 0x26, 0, 0, 0, 0, 0, 0, 0x08, 0x12] ++ List.replicate 17 0) (atMost (d.cb 8) 27)

/-- C `SCSI_readFormatCapacity`. -/
def scsiReadFormatCapacity (d : MscDev σ) : Bool × UInt8 × MscDev σ :=
  if d.dDataLength = 0 then d.refuse scsiKcqirInvalidcommand
  else
    d.reply (([0, 0, 0, 0x08] : List UInt8) ++ Word.be32Bytes d.blkNbr ++
      ([0x02, 0, (d.blkSize >>> 8).toUInt8, d.blkSize.toUInt8] : List UInt8)) 12

/-- C `SCSI_readCapacity10`. -/
def scsiReadCapacity10 (d : MscDev σ) : Bool × UInt8 × MscDev σ :=
  if d.dDataLength = 0 then d.refuse scsiKcqirInvalidcommand
  else d.reply (Word.be32Bytes (d.blkNbr - 1) ++ Word.be32Bytes d.blkSize) 8

variable (st : Storage σ)

/-- The next piece of a transfer. -/
def pieceLen (d : MscDev σ) : UInt32 :=
  if d.nsectors * d.blkSize < configUsbdevMscMaxBufsize then d.nsectors * d.blkSize
  else configUsbdevMscMaxBufsize

/-- The counters after a piece of `len` bytes. -/
def advance (d : MscDev σ) (len : UInt32) : MscDev σ :=
  { d with
    startSector := d.startSector + len / d.blkSize
    nsectors := d.nsectors - len / d.blkSize
    csw := { d.csw with dDataResidue := d.csw.dDataResidue - len } }

/-- What the storage answers to the next read of the command. -/
def readAnswer (d : MscDev σ) : σ × Mem × Int :=
  st.read d.storage d.bLUN d.startSector d.blockBuffer d.pieceLen

/-- What the storage answers to the next write of the command. -/
def writeAnswer (d : MscDev σ) (nbytes : UInt32) : σ × Int :=
  st.write d.storage d.bLUN d.startSector d.blockBuffer nbytes

/-- C `SCSI_processRead`. -/
def scsiProcessRead (d : MscDev σ) : Bool × MscDev σ :=
  let transferLen := d.pieceLen
  let r := d.readAnswer st
  let d := { d with storage := r.1, blockBuffer := r.2.1 }.logged (.sectorRead d.startSector transferLen)
  if r.2.2 ≠ 0 then (false, d.scsiSetSenseData scsiKcqheUreinreservedarea)
  else
    let d := d.advance transferLen
    let d := { d with stage := if d.nsectors = 0 then .sendCsw else d.stage }
    let data := d.blockBuffer.toList transferLen.toNat
    (true, (d.logged (.dataIn data)).usbdEpStartWrite data)

/-- C `SCSI_processWrite`. The residue goes down, and the piece is logged as `dataOut`, only when the
    storage has taken it. -/
def scsiProcessWrite (d : MscDev σ) (nbytes : UInt32) : Bool × MscDev σ :=
  let r := d.writeAnswer st nbytes
  let d := { d with storage := r.1 }.logged (.sectorWrite d.startSector nbytes)
  if r.2 ≠ 0 then (false, d.scsiSetSenseData scsiKcqheWritefault)
  else
    let d := (d.logged (.dataOut nbytes)).advance nbytes
    (true,
      if d.nsectors = 0 then d.usbdMscSendCsw cswStatusCmdPassed
      else d.usbdEpStartRead .blockBuffer d.pieceLen)

/-- The common part of `SCSI_read10` and `SCSI_read12`, with the number of blocks that the command
    names. -/
def scsiRead (d : MscDev σ) (nsectors : UInt32) : Bool × UInt8 × MscDev σ :=
  if d.bmFlags &&& 0x80 ≠ 0x80 ∨ d.dDataLength = 0 then d.refuse scsiKcqirInvalidcommand
  else
    let d := { d with startSector := d.getBe32 2, nsectors := nsectors }
    if d.startSector + d.nsectors > d.blkNbr then d.refuse scsiKcqirLbaoutofrange
    else if d.dDataLength ≠ d.nsectors * d.blkSize then (false, 0, d)
    else
      let r := { d with stage := .dataIn }.scsiProcessRead st
      (r.1, 0, r.2)

/-- C `SCSI_read10`. -/
def scsiRead10 (d : MscDev σ) : Bool × UInt8 × MscDev σ := d.scsiRead st (d.getBe16 7)

/-- C `SCSI_read12`. -/
def scsiRead12 (d : MscDev σ) : Bool × UInt8 × MscDev σ := d.scsiRead st (d.getBe32 6)

/-- The common part of `SCSI_write10` and `SCSI_write12`. A block that is out of range leaves the sense
    data as they are. -/
def scsiWrite (d : MscDev σ) (nsectors : UInt32) : Bool × UInt8 × MscDev σ :=
  if d.bmFlags &&& 0x80 ≠ 0 ∨ d.dDataLength = 0 then d.refuse scsiKcqirInvalidcommand
  else
    let d := { d with startSector := d.getBe32 2, nsectors := nsectors }
    if d.startSector + d.nsectors > d.blkNbr then (false, 0, d)
    else if d.dDataLength ≠ d.nsectors * d.blkSize then (false, 0, d)
    else (true, 0, { d with stage := .dataOut }.usbdEpStartRead .blockBuffer d.pieceLen)

/-- C `SCSI_write10`. -/
def scsiWrite10 (d : MscDev σ) : Bool × UInt8 × MscDev σ := d.scsiWrite (d.getBe16 7)

/-- C `SCSI_write12`. -/
def scsiWrite12 (d : MscDev σ) : Bool × UInt8 × MscDev σ := d.scsiWrite (d.getBe32 6)

/-- The commands, by their code. -/
inductive ScsiCmd where
  | testunitready
  | requestsense
  | inquiry
  | startstopunit
  | preventmediaremoval
  | modesense6
  | modesense10
  | readformatcapacities
  | readcapacity10
  | read10
  | read12
  | write10
  | write12
  | verify10
  | unsupported
  deriving DecidableEq, Repr

/-- The `SCSI_CMD_` codes. -/
def ScsiCmd.ofByte (code : UInt8) : ScsiCmd :=
  match code.toNat with
  | 0x00 => .testunitready
  | 0x03 => .requestsense
  | 0x12 => .inquiry
  | 0x1b => .startstopunit
  | 0x1e => .preventmediaremoval
  | 0x1a => .modesense6
  | 0x5a => .modesense10
  | 0x23 => .readformatcapacities
  | 0x25 => .readcapacity10
  | 0x28 => .read10
  | 0xa8 => .read12
  | 0x2a => .write10
  | 0xaa => .write12
  | 0x2f => .verify10
  | _ => .unsupported

/-- The command in the command block. -/
def cmd (d : MscDev σ) : ScsiCmd := .ofByte (d.cb 0)

/-- The `switch` of `SCSI_CBWDecode`. -/
def runCmd (d : MscDev σ) : Bool × UInt8 × MscDev σ :=
  match d.cmd with
  | .testunitready => d.scsiTestUnitReady
  | .requestsense => d.scsiRequestSense
  | .inquiry => d.scsiInquiry
  | .startstopunit => d.scsiStartStopUnit
  | .preventmediaremoval => d.scsiPreventAllowMediaRemoval
  | .modesense6 => d.scsiModeSense6
  | .modesense10 => d.scsiModeSense10
  | .readformatcapacities => d.scsiReadFormatCapacity
  | .readcapacity10 => d.scsiReadCapacity10
  | .read10 => d.scsiRead10 st
  | .read12 => d.scsiRead12 st
  | .write10 => d.scsiWrite10
  | .write12 => d.scsiWrite12
  | .verify10 => (false, 0, d)
  | .unsupported => d.refuse scsiKcqirInvalidcommand

/-- The tag and the length of a new command are kept for its status. -/
def openCmd (d : MscDev σ) : MscDev σ :=
  { d with csw := { d.csw with dTag := d.dTag, dDataResidue := d.dDataLength } }.logged
    (.cbw d.dTag d.dDataLength)

/-- The answer to a command that has moved no blocks. -/
def answer (d : MscDev σ) (len2send : UInt8) : MscDev σ :=
  if len2send ≠ 0 then d.usbdMscSendInfo len2send else d.usbdMscSendCsw cswStatusCmdPassed

/-- The part of `SCSI_CBWDecode` behind the test of the size. -/
def decodeCmd (d : MscDev σ) : Bool × MscDev σ :=
  if d.dSignature ≠ mscCbwSignature ∨ d.bCBLength < 1 ∨ d.bCBLength > 16 then
    (false, d.scsiSetSenseData scsiKcqirInvalidcommand)
  else
    let r := d.runCmd st
    (r.1, if r.1 = true ∧ r.2.2.stage = .readCbw then r.2.2.answer r.2.1 else r.2.2)

/-- C `SCSI_CBWDecode`. -/
def scsiCbwDecode (d : MscDev σ) (nbytes : UInt32) : Bool × MscDev σ :=
  if nbytes ≠ usbSizeofMscCbw then (false, d.scsiSetSenseData scsiKcqirInvalidcommand)
  else d.openCmd.decodeCmd st

/-! ## Callbacks -/

/-- C `mass_storage_bulk_out`. -/
def massStorageBulkOut (d : MscDev σ) (nbytes : UInt32) : MscDev σ :=
  match d.stage with
  | .readCbw =>
    let r := d.scsiCbwDecode st nbytes
    if r.1 then r.2 else r.2.usbdMscBotAbort
  | .dataOut =>
    if d.cmd = .write10 ∨ d.cmd = .write12 then
      let r := d.scsiProcessWrite st nbytes
      if r.1 then r.2 else r.2.usbdMscSendCsw cswStatusCmdFailed
    else d
  | _ => d

/-- C `mass_storage_bulk_in`. -/
def massStorageBulkIn (d : MscDev σ) : MscDev σ :=
  match d.stage with
  | .dataIn =>
    if d.cmd = .read10 ∨ d.cmd = .read12 then
      let r := d.scsiProcessRead st
      if r.1 then r.2 else r.2.usbdMscSendCsw cswStatusCmdFailed
    else d
  | .sendCsw => d.usbdMscSendCsw cswStatusCmdPassed
  | .waitCsw => { d with stage := .readCbw }.usbdEpStartRead .cbw usbSizeofMscCbw
  | _ => d

/-- C `usbd_msc_reset`. -/
def usbdMscReset (d : MscDev σ) : MscDev σ :=
  { d with stage := .readCbw, readonly := false }.logged .reset

end MscDev

/-! ## The bus -/

/-- What happens on the bus. -/
inductive BusEvent where
  /-- The transfer that the OUT endpoint waits for is complete; it may be a short one. -/
  | outDone (data : List UInt8)
  /-- The host has read what the IN endpoint was given. -/
  | inDone
  /-- The class request `MSC_REQUEST_RESET`. -/
  | massReset
  /-- A bus reset, after which both endpoints are idle (`USBD_EVENT_RESET`). -/
  | busReset
  /-- `USBD_EVENT_CONFIGURED`. -/
  | configured
  deriving DecidableEq, Repr

namespace MscDev
variable {σ : Type} (st : Storage σ)

/-- The endpoint stores the data of a transfer. -/
def storeOut (d : MscDev σ) (target : OutTarget) (data : List UInt8) : MscDev σ :=
  match target with
  | .cbw => { d with cbw := d.cbw.copy 0 data.length (Mem.ofList data), out := none }
  | .blockBuffer =>
    { d with blockBuffer := d.blockBuffer.copy 0 data.length (Mem.ofList data), out := none }

/-- Effect of a bus event. A transfer is never longer than the endpoint was told. -/
def step (d : MscDev σ) : BusEvent → MscDev σ
  | .outDone data =>
    match d.out with
    | none => d
    | some (target, len) =>
      if data.length ≤ len.toNat then
        (d.storeOut target data).massStorageBulkOut st (UInt32.ofNat data.length)
      else d
  | .inDone =>
    match d.inn with
    | none => d
    | some _ => { d with inn := none }.massStorageBulkIn st
  | .massReset => d.usbdMscReset
  | .busReset => { d with out := none, inn := none }.usbdMscReset
  | .configured => d.usbdEpStartRead .cbw usbSizeofMscCbw

/-- After `usbd_msc_init_intf`, with the sizes that `usbd_msc_get_cap` tells for the only unit. `other` is
    what lies behind the two arrays: the size and the number of blocks that a command for another unit
    finds. -/
def usbdMscInitIntf (blockNum blockSize : UInt32) (other : UInt8 → UInt32 × UInt32) (storage : σ) :
    MscDev σ where
  stage := .readCbw
  cbw := fun _ => 0
  csw := ⟨0, 0, 0⟩
  readonly := false
  popup := false
  sKey := 0
  asc := 0
  asq := 0
  startSector := 0
  nsectors := 0
  scsiBlkSize := fun lun => if lun = 0 then blockSize else (other lun).1
  scsiBlkNbr := fun lun => if lun = 0 then blockNum else (other lun).2
  blockBuffer := fun _ => 0
  storage := storage
  out := none
  inn := none
  log := []

end MscDev

end WlhHpm.Usb

import WlhHpm.Bootuf2.Disk

/-!
# The volume the UF2 disk shows

Model of the read side of `bootloader/bootuf2/bootuf2.c`: the file table, the clusters that
`bootuf2_init` gives to its files, and `boot2uf2_read_sector`, which makes up the boot sector, the
FAT, the root directory and the data of a FAT16 volume when they are asked for.

A sector buffer is byte memory, and each of the four kinds of sector is a function that fills it. A
file has its contents as a list of bytes (`none` for the null pointer) of at least `FileSize` bytes.
The two packed structs that go into a sector (`bootuf2_DBR`, `bootuf2_ENTRY`) are records with their
bytes; a field of an entry that the code does not set is `0`, as the buffer has been cleared. `size_t`
is a 32-bit word on this core.

The `__DATE__` and `__TIME__` of the build are parameters, as is the outcome of the `malloc` in
`replaceSubstring`; the `malloc` in `bootuf2_SetReason` is not checked by the code, and succeeds here.
-/

namespace WlhHpm.Bootuf2.Volume

/-- The bytes of a string literal, without its terminator. -/
def ascii (s : String) : List UInt8 := s.toList.map fun c => UInt8.ofNat c.toNat

/-! ## Configuration and boot sector -/

/-- `v / d`, rounded up (C `BOOTUF2_DIVCEIL`). -/
def bootuf2Divceil {α : Type} [Div α] [Mod α] [Add α] [OfNat α 0] [OfNat α 1] [DecidableEq α]
    (v d : α) : α :=
  v / d + if v % d ≠ 0 then 1 else 0

def configBootuf2SectorPerCluster : Nat := 2
def configBootuf2SectorReserved : Nat := 1
def configBootuf2NumOfFat : Nat := 2
def configBootuf2RootEntries : Nat := 64

/-- Size of a directory entry (C `sizeof(struct bootuf2_ENTRY)`). -/
def sizeofEntry : Nat := 32

/-- Number of clusters of the volume (C `BOOTUF2_CLUSTERSMAX`). -/
def bootuf2Clustersmax : Nat := 0xFFF0 - 2

def bootuf2SectorsPerFat : Nat := bootuf2Divceil bootuf2Clustersmax (configBootuf2SectorSize / 2)

def bootuf2SectorsForEntries : Nat :=
  configBootuf2RootEntries / (configBootuf2SectorSize / sizeofEntry)

/-- Number of sectors of the volume (C `BOOTUF2_SECTORS`). -/
def bootuf2Sectors : Nat :=
  configBootuf2SectorReserved + configBootuf2NumOfFat * bootuf2SectorsPerFat +
    bootuf2SectorsForEntries + bootuf2Clustersmax * configBootuf2SectorPerCluster

/-- The boot sector (C `struct bootuf2_DBR`). -/
structure Bootuf2Dbr where
  jmpInstruction : List UInt8
  oem : List UInt8
  bytesPerSector : UInt16
  sectorsPerCluster : UInt8
  reservedSectors : UInt16
  numberOfFAT : UInt8
  rootEntries : UInt16
  sectors : UInt16
  mediaDescriptor : UInt8
  sectorsPerFAT : UInt16
  sectorsPerTrack : UInt16
  heads : UInt16
  hiddenSectors : UInt32
  sectorsOver32MB : UInt32
  biosDrive : UInt8
  reserved : UInt8
  extendBootSignature : UInt8
  volumeSerialNumber : UInt32
  volumeLabel : List UInt8
  fileSystem : List UInt8

/-- The packed struct. -/
def Bootuf2Dbr.bytes (dbr : Bootuf2Dbr) : List UInt8 :=
  dbr.jmpInstruction ++ dbr.oem ++ Word.le16Bytes dbr.bytesPerSector ++ [dbr.sectorsPerCluster] ++
    Word.le16Bytes dbr.reservedSectors ++ [dbr.numberOfFAT] ++ Word.le16Bytes dbr.rootEntries ++
    Word.le16Bytes dbr.sectors ++ [dbr.mediaDescriptor] ++ Word.le16Bytes dbr.sectorsPerFAT ++
    Word.le16Bytes dbr.sectorsPerTrack ++ Word.le16Bytes dbr.heads ++
    Word.le32Bytes dbr.hiddenSectors ++ Word.le32Bytes dbr.sectorsOver32MB ++
    [dbr.biosDrive, dbr.reserved, dbr.extendBootSignature] ++
    Word.le32Bytes dbr.volumeSerialNumber ++ dbr.volumeLabel ++ dbr.fileSystem

def bootuf2Dbr : Bootuf2Dbr where
  jmpInstruction := [0xEB, 0x3C, 0x90]
  oem := ascii "UF2 UF2 "
  bytesPerSector := UInt16.ofNat configBootuf2SectorSize
  sectorsPerCluster := UInt8.ofNat configBootuf2SectorPerCluster
  reservedSectors := UInt16.ofNat configBootuf2SectorReserved
  numberOfFAT := UInt8.ofNat configBootuf2NumOfFat
  rootEntries := UInt16.ofNat configBootuf2RootEntries
  sectors := if bootuf2Sectors > 0xFFFF then 0 else UInt16.ofNat bootuf2Sectors
  mediaDescriptor := 0xF8
  sectorsPerFAT := UInt16.ofNat bootuf2SectorsPerFat
  sectorsPerTrack := 1
  heads := 1
  hiddenSectors := 0
  sectorsOver32MB := if bootuf2Sectors > 0xFFFF then UInt32.ofNat bootuf2Sectors else 0
  biosDrive := 0x80
  reserved := 0
  extendBootSignature := 0x29
  volumeSerialNumber := 0x00420042
  volumeLabel := ascii "CHERRYUF2" ++ [0, 0]
  fileSystem := ascii "FAT16   "

namespace Bootuf2Dbr
variable (dbr : Bootuf2Dbr)

def fat16PerSector : UInt32 := dbr.bytesPerSector.toUInt32 / 2
def entryPerSector : UInt32 := dbr.bytesPerSector.toUInt32 / UInt32.ofNat sizeofEntry
def sectorDbrEnd : UInt32 := 0
def sectorRsvdEnd : UInt32 := sectorDbrEnd + dbr.reservedSectors.toUInt32
def sectorFatEnd : UInt32 :=
  dbr.sectorRsvdEnd + dbr.sectorsPerFAT.toUInt32 * dbr.numberOfFAT.toUInt32
def sectorRootEnd : UInt32 := dbr.sectorFatEnd + dbr.rootEntries.toUInt32 / dbr.entryPerSector
def sectorDataEnd : UInt32 := dbr.sectors.toUInt32 + dbr.sectorsOver32MB

end Bootuf2Dbr

/-! ## The file table -/

/-- A file (C `struct bootuf2_FILE`); `FileSize` bytes of its contents can be read. -/
structure Bootuf2File where
  name : List UInt8
  content : Option (List UInt8)
  fileSize : UInt32
  clusterBeg : UInt16
  clusterEnd : UInt16
  readable : fileSize.toNat ≤ (content.getD []).length

namespace Bootuf2File

/-- The memory that `Content` points to. -/
def contentMem (f : Bootuf2File) : Mem := Mem.ofList (f.content.getD [])

/-- The file: `FileSize` bytes of its contents. -/
def bytes (f : Bootuf2File) : List UInt8 := (f.content.getD []).take f.fileSize.toNat

/-- Number of clusters that the file needs. -/
def clusters (f : Bootuf2File) : Nat :=
  bootuf2Divceil f.fileSize.toNat (configBootuf2SectorSize * configBootuf2SectorPerCluster)

/-- Let the file show a text: `Content` and its length. -/
def setText (f : Bootuf2File) (text : List UInt8) : Bootuf2File :=
  { f with
    content := some text
    fileSize := UInt32.ofNat text.length
    readable := (UInt32.toNat_ofNat' ..).trans_le (Nat.mod_le ..) }

end Bootuf2File

/-- The text of a hexadecimal digit of the family (C `BOOTUF2_FAMILYID_POSNUM` and its use). -/
def familyidDigit (n : Nat) : UInt8 :=
  let posnum := configBootuf2Familyid.toNat / (0x10000000 >>> (n * 4)) % 0x10
  if posnum ≥ 10 then UInt8.ofNat (posnum - 10 + 'A'.toNat) else UInt8.ofNat (posnum + '0'.toNat)

/-- The name of the file that shows the family (C `file_ID__`). -/
def fileID : List UInt8 := (List.range 8).map familyidDigit ++ ascii "ID "

/-- The names in the table `files`, in the order of the enumeration `FILE_ID`, `FILE_INFO`,
    `FILE_INDEX`, `FILE_JOIN`. -/
def fileNames : List (List UInt8) :=
  [fileID, ascii "INFO_UF2TXT", ascii "INDEX   HTM", ascii "JOIN    HTM"]

/-- Position of the file with the reason in the table (C `FILE_INFO`). -/
def fileInfo : Nat := 1

/-- The table `files`. The names are constant. -/
structure Files where
  list : List Bootuf2File
  names : list.map (·.name) = fileNames

def defaultReason : List UInt8 :=
  ascii "DEFAULT_REASON_DEFAULT_REASON_DEFAULT_REASON\r\n"

/-- The text of the file with the reason (C `file_INFO`). -/
def fileINFO : List UInt8 :=
  ascii "CherryUSB UF2 BOOT\r\nModel: HPM\r\nBoard-ID: HPM6364\r\nBootloader Reason: " ++ defaultReason

/-- A constant file, whose array ends with a terminator that is not part of the file. -/
def Bootuf2File.ofArray (name text : List UInt8) : Bootuf2File where
  name := name
  content := some (text ++ [0])
  fileSize := UInt32.ofNat text.length
  clusterBeg := 0
  clusterEnd := 0
  readable := by
    rw [UInt32.toNat_ofNat', Option.getD_some, List.length_append]
    exact (Nat.mod_le ..).trans (Nat.le_add_right ..)

def fileIDEX : List UInt8 :=
  ascii "<!doctype html>\n<html><body><script>\nlocation.replace(\"" ++
    ascii "https://github.com/cherry-embedded/CherryUSB" ++
    ascii "\");\n</script></body></html>\n"

def fileJOIN : List UInt8 :=
  ascii "<!doctype html>\n<html><body><script>\nlocation.replace(\"" ++ ascii "" ++
    ascii "\");\n</script></body></html>\n"

/-- The table as the firmware starts with it (the static initialiser of `files`). -/
def Files.reset : Files where
  list :=
    [{ name := fileID, content := none, fileSize := 0, clusterBeg := 0, clusterEnd := 0,
        readable := Nat.zero_le _ },
      { name := ascii "INFO_UF2TXT", content := none, fileSize := 0, clusterBeg := 0,
        clusterEnd := 0, readable := Nat.zero_le _ },
      Bootuf2File.ofArray (ascii "INDEX   HTM") fileIDEX,
      Bootuf2File.ofArray (ascii "JOIN    HTM") fileJOIN]
  names := rfl

/-- The text before the first occurrence of `old`, and the text from there on (C `strstr`). -/
def strstr (old : List UInt8) : List UInt8 → Option (List UInt8 × List UInt8)
  | [] => if old = [] then some ([], []) else none
  | c :: cs =>
    if old.isPrefixOf (c :: cs) then some ([], c :: cs)
    else (strstr old cs).map fun r => (c :: r.1, r.2)

/-- The second loop of `replaceSubstring`; each of its at most `n` passes replaces one `old`. -/
def replaceLoop (old new : List UInt8) : Nat → List UInt8 → List UInt8
  | 0, temp => temp
  | n + 1, temp =>
    match strstr old temp with
    | none => temp
    | some (before, pos) => before ++ new ++ replaceLoop old new n (pos.drop old.length)

/-- Replace every `oldWord` (C `replaceSubstring`); without memory the text stays as it is. -/
def replaceSubstring (allocated : Bool) (str oldWord newWord : List UInt8) : List UInt8 :=
  if allocated then replaceLoop oldWord newWord (str.length + 1) str else str

/-- A new text leaves the names of a table. -/
lemma modify_setText_names (fs : List Bootuf2File) (i : Nat) (text : List UInt8) :
    (fs.modify i (·.setText text)).map (·.name) = fs.map (·.name) := by
  apply List.ext_getElem?
  intro j
  rw [List.getElem?_map, List.getElem?_map, List.getElem?_modify]
  cases fs[j]? with
  | none => rfl
  | some f => by_cases same : i = j <;> simp [same, Bootuf2File.setText]

/-- Show why the bootloader runs (C `bootuf2_SetReason`). -/
def bootuf2SetReason (allocated : Bool) (files : Files) (reason : List UInt8) : Files where
  list := files.list.modify fileInfo
    (·.setText (replaceSubstring allocated fileINFO defaultReason reason))
  names := (modify_setText_names ..).trans files.names

/-- Clusters for the files from `cluster_beg` on (the loop of `fcalculate_cluster`). -/
def fcalculateClusterFrom : UInt16 → List Bootuf2File → List Bootuf2File
  | _, [] => []
  | clusterBeg, f :: fs =>
    let clusterEnd : UInt16 :=
      (clusterBeg.toUInt32 - 1 + bootuf2Divceil f.fileSize
        (bootuf2Dbr.bytesPerSector.toUInt32 * bootuf2Dbr.sectorsPerCluster.toUInt32)).toUInt16
    { f with clusterBeg := clusterBeg, clusterEnd := clusterEnd } ::
      fcalculateClusterFrom (clusterEnd + 1) fs

/-- The clusters change nothing else in the table. -/
lemma fcalculateClusterFrom_map {α : Type} (g : Bootuf2File → α)
    (same : ∀ f b e, g { f with clusterBeg := b, clusterEnd := e } = g f) (clusterBeg : UInt16)
    (fs : List Bootuf2File) : (fcalculateClusterFrom clusterBeg fs).map g = fs.map g := by
  induction fs generalizing clusterBeg with
  | nil => rfl
  | cons f fs ih => rw [fcalculateClusterFrom, List.map_cons, ih, same, List.map_cons]

/-- Give every file its clusters (C `fcalculate_cluster`). -/
def fcalculateCluster (files : Files) : Files where
  list := fcalculateClusterFrom 2 files.list
  names := (fcalculateClusterFrom_map (·.name) (fun _ _ _ => rfl) 2 files.list).trans files.names

/-- What `bootuf2_init` does to the file table. -/
def bootuf2Init (allocated : Bool) (files : Files) : Files :=
  fcalculateCluster <|
    if files.list[fileInfo]?.bind (·.content) = none then
      bootuf2SetReason allocated files (ascii "DEFAULT_REASON")
    else files

/-- The file that holds a cluster (C `ffind_by_cluster`; the index is used for nothing else). -/
def ffindByCluster (files : List Bootuf2File) (cluster : UInt32) : Option Bootuf2File :=
  if cluster ≥ 0xFFF0 then none
  else files.find? fun f => f.clusterBeg.toUInt32 ≤ cluster ∧ cluster ≤ f.clusterEnd.toUInt32

/-- Copy a name, padded with spaces (C `fname_copy`). The end of a list is the terminator of the
    string; an array may also hold it. -/
def fnameCopy : List UInt8 → Nat → List UInt8
  | _, 0 => []
  | [], len + 1 => 0x20 :: fnameCopy [] len
  | c :: cs, len + 1 => if c ≠ 0 then c :: fnameCopy cs len else 0x20 :: fnameCopy (c :: cs) len

/-! ## The sectors -/

/-- When the firmware was built (`BOOTUF2_YEAR_INT` and so on). -/
structure BuildTime where
  year : UInt32
  month : UInt32
  day : UInt32
  hour : UInt32
  minute : UInt32
  seconds : UInt32

namespace BuildTime
variable (built : BuildTime)

def createTimeTeenth : UInt8 := (built.seconds % 2 * 100).toUInt8

def dosDate : UInt16 := ((built.year - 1980) <<< 9 ||| built.month <<< 5 ||| built.day).toUInt16

def dosTime : UInt16 := (built.hour <<< 11 ||| built.minute <<< 5 ||| built.seconds).toUInt16

end BuildTime

/-- A directory entry (C `struct bootuf2_ENTRY`). -/
structure Bootuf2Entry where
  name : List UInt8
  attributes : UInt8
  ntReserved : UInt8 := 0
  createTimeTeenth : UInt8 := 0
  createTime : UInt16 := 0
  createDate : UInt16 := 0
  lastAccessDate : UInt16 := 0
  firstClustH16 : UInt16 := 0
  updateTime : UInt16 := 0
  updateDate : UInt16 := 0
  firstClustL16 : UInt16 := 0
  fileSize : UInt32 := 0

/-- The packed struct. -/
def Bootuf2Entry.bytes (e : Bootuf2Entry) : List UInt8 :=
  e.name ++ [e.attributes, e.ntReserved, e.createTimeTeenth] ++ Word.le16Bytes e.createTime ++
    Word.le16Bytes e.createDate ++ Word.le16Bytes e.lastAccessDate ++
    Word.le16Bytes e.firstClustH16 ++ Word.le16Bytes e.updateTime ++ Word.le16Bytes e.updateDate ++
    Word.le16Bytes e.firstClustL16 ++ Word.le32Bytes e.fileSize

/-- The entry that names the volume. -/
def volumeLabelEntry : Bootuf2Entry where
  name := fnameCopy bootuf2Dbr.volumeLabel 11
  attributes := 0x28

/-- The entry of a file. -/
def fileEntry (built : BuildTime) (f : Bootuf2File) : Bootuf2Entry where
  name := fnameCopy f.name 11
  attributes := 0x05
  createTimeTeenth := built.createTimeTeenth
  createTime := built.dosTime
  createDate := built.dosDate
  lastAccessDate := built.dosDate
  firstClustH16 := (f.clusterBeg.toUInt32 >>> 16).toUInt16
  updateTime := built.dosTime
  updateDate := built.dosDate
  firstClustL16 := (f.clusterBeg.toUInt32 &&& 0xffff).toUInt16
  fileSize := f.fileSize

/-- Fill in the entry `ent` of a directory sector. -/
def putEntry (buff : Mem) (ent : Nat) (e : Bootuf2Entry) : Mem :=
  buff.copy (sizeofEntry * ent) sizeofEntry (Mem.ofList e.bytes)

/-- The boot sector. -/
def dbrSector (buff : Mem) : Mem :=
  let buff := buff.copy 0 62 (Mem.ofList bootuf2Dbr.bytes)
  Function.update (Function.update buff 510 0x55) 511 0xaa

/-- The sector within its FAT: the loop that subtracts the length of a FAT. -/
def fatRelative (sectorRelative : UInt32) : UInt32 :=
  if sectorRelative ≥ bootuf2Dbr.sectorsPerFAT.toUInt32 then
    fatRelative (sectorRelative - bootuf2Dbr.sectorsPerFAT.toUInt32)
  else sectorRelative
termination_by sectorRelative.toNat
decreasing_by
  rename_i ge
  have pos : bootuf2Dbr.sectorsPerFAT.toUInt32.toNat = 256 := rfl
  have le := UInt32.le_iff_toNat_le.mp ge
  rw [UInt32.toNat_sub_of_le _ _ ge, pos]
  omega

/-- The first cluster after those of the last file; the table is never empty. -/
def clusterUnused (files : List Bootuf2File) : UInt16 :=
  (files.getLast?.elim 1 (·.clusterEnd)) + 1

/-- Link every used cluster to the next one (the first loop of a FAT sector). -/
def fatLink (unused first : UInt16) (buff : Mem) : Mem :=
  (List.range bootuf2Dbr.fat16PerSector.toNat).foldl
    (fun buff i =>
      let clusterAbsolute := first + UInt16.ofNat i
      Word.put16 buff (2 * i) (if clusterAbsolute ≥ unused then 0 else clusterAbsolute + 1)) buff

/-- Mark the last cluster of a file, where it is in this FAT sector. -/
def fatMarkEnd (first : UInt16) (f : Bootuf2File) (buff : Mem) : Mem :=
  let clusterFileLast := f.clusterEnd
  if clusterFileLast ≥ first then
    let idx := clusterFileLast - first
    if idx.toUInt32 < bootuf2Dbr.fat16PerSector then Word.put16 buff (2 * idx.toNat) 0xffff else buff
  else buff

/-- The values of clusters 0 and 1. -/
def fatHead (buff : Mem) : Mem :=
  let buff := Function.update buff 0 bootuf2Dbr.mediaDescriptor
  let buff := Function.update buff 1 0xff
  Word.put16 buff 2 0xffff

/-- A FAT sector. -/
def fatSector (files : List Bootuf2File) (sectorRelative : UInt32) (buff : Mem) : Mem :=
  let sectorRelative := fatRelative sectorRelative
  let first : UInt16 := (sectorRelative * bootuf2Dbr.fat16PerSector).toUInt16
  let buff := fatLink (clusterUnused files) first buff
  let buff := if sectorRelative = 0 then fatHead buff else buff
  files.foldl (fun buff f => fatMarkEnd first f buff) buff

/-- The loop over the files of a directory sector; `remain_entries` is not counted down in it. -/
def rootLoop (built : BuildTime) (remainEntries : Int) : List Bootuf2File → Nat → Nat → Mem → Mem
  | [], _, _, buff => buff
  | f :: fs, idx, ent, buff =>
    if remainEntries > 0 then
      if f.fileSize = 0 ∧ idx ≠ 0 then rootLoop built remainEntries fs (idx + 1) (ent + 1) buff
      else
        rootLoop built remainEntries fs (idx + 1) (ent + 1) (putEntry buff ent (fileEntry built f))
    else buff

/-- A sector of the root directory. -/
def rootSector (built : BuildTime) (files : List Bootuf2File) (sectorRelative : UInt32) (buff : Mem) :
    Mem :=
  let remainEntries : Int := bootuf2Dbr.entryPerSector.toNat
  if sectorRelative = 0 then
    rootLoop built (remainEntries - 1) files 0 1 (putEntry buff 0 volumeLabelEntry)
  else
    let fileIndexFirst := (sectorRelative * bootuf2Dbr.entryPerSector - 1).toNat
    rootLoop built remainEntries (files.drop fileIndexFirst) fileIndexFirst 0 buff

/-- A data sector. -/
def dataSector (files : List Bootuf2File) (sectorRelative : UInt32) (buff : Mem) : Mem :=
  match ffindByCluster files (2 + sectorRelative / bootuf2Dbr.sectorsPerCluster.toUInt32) with
  | none => buff
  | some f =>
    let sectorRelativeFile :=
      sectorRelative - (f.clusterBeg.toUInt32 - 2) * bootuf2Dbr.sectorsPerCluster.toUInt32
    let fcontentOffset := sectorRelativeFile * bootuf2Dbr.bytesPerSector.toUInt32
    let fcontentLength := f.fileSize
    if fcontentLength > fcontentOffset then
      let copySize := fcontentLength - fcontentOffset
      let copySize :=
        if copySize > bootuf2Dbr.bytesPerSector.toUInt32 then bootuf2Dbr.bytesPerSector.toUInt32
        else copySize
      buff.copy 0 copySize.toNat (f.contentMem.shift fcontentOffset.toNat)
    else buff

/-- One pass of the loop of `boot2uf2_read_sector`. -/
def readOne (built : BuildTime) (files : List Bootuf2File) (startSector : UInt32) (buff : Mem) : Mem :=
  let buff := buff.copy 0 bootuf2Dbr.bytesPerSector.toNat fun _ => 0
  if startSector = Bootuf2Dbr.sectorDbrEnd then dbrSector buff
  else if startSector < bootuf2Dbr.sectorFatEnd then
    fatSector files (startSector - bootuf2Dbr.sectorRsvdEnd) buff
  else if startSector < bootuf2Dbr.sectorRootEnd then
    rootSector built files (startSector - bootuf2Dbr.sectorFatEnd) buff
  else if startSector < bootuf2Dbr.sectorDataEnd then
    dataSector files (startSector - bootuf2Dbr.sectorRootEnd) buff
  else buff

/-- Read `sector_count` sectors into a buffer (C `boot2uf2_read_sector`, which always returns 0). -/
def boot2uf2ReadSector (built : BuildTime) (files : Files) : UInt32 → Mem → Nat → Mem
  | _, buff, 0 => buff
  | startSector, buff, sectorCount + 1 =>
    Mem.beyond (readOne built files.list startSector buff) bootuf2Dbr.bytesPerSector.toNat fun buff =>
      boot2uf2ReadSector built files (startSector + 1) buff sectorCount

end WlhHpm.Bootuf2.Volume

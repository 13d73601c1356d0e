import WlhHpm.Lib.Word

/-!
# Reading a FAT16 volume

A reader of FAT16 volumes, as a host writes one: it takes the parameters from the boot sector
(`mount`), lists the root directory up to the first free slot (`entries`), follows a cluster chain
in the first FAT (`chain`) and reads a file through it (`readFile`). It works on any disk, that is,
on any assignment of bytes to sectors, and gives up where the disk is not a FAT16 volume, where a
chain leaves the volume or does not end, and where it is too short for the size of the file.

The lemmas give its results for the two shapes a volume that is written once has: a directory whose
used slots come first (`entriesFrom_eq`) and a file in consecutive clusters (`Run`, `readFile_run`).
-/

namespace WlhHpm.Fat16

/-- A disk: the bytes of each sector. -/
abbrev Disk := Nat → Mem

/-- The parameters of a volume. -/
structure Params where
  bytesPerSector : Nat
  sectorsPerCluster : Nat
  reservedSectors : Nat
  numberOfFats : Nat
  rootEntries : Nat
  totalSectors : Nat
  sectorsPerFat : Nat
deriving DecidableEq

/-- A directory entry. -/
structure Entry where
  name : List UInt8
  attributes : UInt8
  firstCluster : Nat
  size : Nat
deriving DecidableEq

/-- The parameters in a boot sector. A small volume has its number of sectors in a 16-bit field. -/
def Params.ofBoot (boot : Mem) : Params where
  bytesPerSector := (Word.le16 boot 11).toNat
  sectorsPerCluster := (boot 13).toNat
  reservedSectors := (Word.le16 boot 14).toNat
  numberOfFats := (boot 16).toNat
  rootEntries := (Word.le16 boot 17).toNat
  totalSectors :=
    if Word.le16 boot 19 ≠ 0 then (Word.le16 boot 19).toNat else (Word.le32 boot 32).toNat
  sectorsPerFat := (Word.le16 boot 22).toNat

/-- A slot of a directory. -/
def Entry.ofSlot (slot : Mem) : Entry where
  name := slot.toList 11
  attributes := slot 11
  firstCluster := (Word.le16 slot 26).toNat
  size := (Word.le32 slot 28).toNat

/-- An entry to list: neither deleted nor a volume label or a part of a long name. -/
def Listed (slot : Mem) : Prop := slot 0 ≠ 0xe5 ∧ slot 11 &&& 0x08 = 0

instance (slot : Mem) : Decidable (Listed slot) := inferInstanceAs (Decidable (_ ∧ _))

namespace Params
variable (p : Params) (d : Disk)

/-- First sector of the root directory. -/
def rootStart : Nat := p.reservedSectors + p.numberOfFats * p.sectorsPerFat

/-- First sector of cluster 2. -/
def dataStart : Nat :=
  p.rootStart + (32 * p.rootEntries + p.bytesPerSector - 1) / p.bytesPerSector

def clusterCount : Nat := (p.totalSectors - p.dataStart) / p.sectorsPerCluster

/-- The parameters of a FAT16 volume; the number of clusters decides the kind of the FAT. -/
def IsFat16 : Prop :=
  p.bytesPerSector ∈ [512, 1024, 2048, 4096] ∧ p.sectorsPerCluster ∈ [1, 2, 4, 8, 16, 32, 64, 128] ∧
    0 < p.reservedSectors ∧ 0 < p.numberOfFats ∧ p.dataStart ≤ p.totalSectors ∧
      4085 ≤ p.clusterCount ∧ p.clusterCount < 65525 ∧
        2 * (p.clusterCount + 2) ≤ p.sectorsPerFat * p.bytesPerSector

instance : Decidable p.IsFat16 := inferInstanceAs (Decidable (_ ∧ _))

/-- Slot `i` of the root directory. -/
def slot (i : Nat) : Mem :=
  (d (p.rootStart + 32 * i / p.bytesPerSector)).shift (32 * i % p.bytesPerSector)

/-- List `n` slots from slot `i` on. A slot that starts with `0` is free, and so are all after it. -/
def entriesFrom (i : Nat) : Nat → List Entry
  | 0 => []
  | n + 1 =>
    let s := p.slot d i
    if s 0 = 0 then []
    else if Listed s then Entry.ofSlot s :: entriesFrom (i + 1) n
    else entriesFrom (i + 1) n

/-- The files of the root directory. -/
def entries : List Entry := p.entriesFrom d 0 p.rootEntries

/-- The value for cluster `c` in FAT number `k`. -/
def fatEntry (k c : Nat) : Nat :=
  (Word.le16 (d (p.reservedSectors + k * p.sectorsPerFat + 2 * c / p.bytesPerSector))
    (2 * c % p.bytesPerSector)).toNat

/-- The clusters from `c` on, at most `n` of them, up to the end-of-chain mark. -/
def chain : Nat → Nat → Option (List Nat)
  | 0, _ => none
  | n + 1, c =>
    if 2 ≤ c ∧ c < p.clusterCount + 2 then
      let next := p.fatEntry d 0 c
      if 0xfff8 ≤ next then some [c] else (chain n next).map (c :: ·)
    else none

/-- The chain of a file. A volume has no longer chain than it has clusters. -/
def chainOf (e : Entry) : Option (List Nat) := p.chain d p.clusterCount e.firstCluster

/-- The bytes of a cluster. -/
def cluster (c : Nat) : List UInt8 :=
  (List.range p.sectorsPerCluster).flatMap fun j =>
    (d (p.dataStart + (c - 2) * p.sectorsPerCluster + j)).toList p.bytesPerSector

/-- The contents of a file. An empty file has no chain. -/
def readFile (e : Entry) : Option (List UInt8) :=
  if e.size = 0 then some []
  else
    (p.chainOf d e).bind fun cs =>
      let bytes := cs.flatMap (p.cluster d)
      if e.size ≤ bytes.length then some (bytes.take e.size) else none

end Params

/-- Open a volume. -/
def mount (d : Disk) : Option Params :=
  let p := Params.ofBoot (d 0)
  if d 0 510 = 0x55 ∧ d 0 511 = 0xaa ∧ p.IsFat16 then some p else none

namespace Params
variable {p : Params} {d : Disk}

/-- The parameters are in the first 36 bytes. -/
lemma ofBoot_congr {b b' : Mem} (same : ∀ i < 36, b i = b' i) : ofBoot b = ofBoot b' := by
  simp [ofBoot, Word.le16, Word.le32, same]

/-! ## The directory -/

/-- A slot that is listed. -/
lemma entriesFrom_listed {i n : Nat} (used : p.slot d i 0 ≠ 0) (listed : Listed (p.slot d i)) :
    p.entriesFrom d i (n + 1) = Entry.ofSlot (p.slot d i) :: p.entriesFrom d (i + 1) n := by
  rw [entriesFrom]
  simp only [if_neg used, if_pos listed]

/-- A slot in use that is not listed. -/
lemma entriesFrom_skip {i n : Nat} (used : p.slot d i 0 ≠ 0) (hidden : ¬ Listed (p.slot d i)) :
    p.entriesFrom d i (n + 1) = p.entriesFrom d (i + 1) n := by
  rw [entriesFrom]
  simp only [if_neg used, if_neg hidden]

/-- The listing ends at a free slot. -/
lemma entriesFrom_free {i n : Nat} (free : p.slot d i 0 = 0) : p.entriesFrom d i n = [] := by
  cases n with
  | zero => rfl
  | succ n =>
    rw [entriesFrom]
    simp only [if_pos free]

/-- Listed slots one after the other and a free slot after them. -/
lemma entriesFrom_eq {es : List Entry} {i n : Nat} (len : es.length ≤ n)
    (used : ∀ k, (lt : k < es.length) →
      p.slot d (i + k) 0 ≠ 0 ∧ Listed (p.slot d (i + k)) ∧ Entry.ofSlot (p.slot d (i + k)) = es[k])
    (free : p.slot d (i + es.length) 0 = 0) : p.entriesFrom d i n = es := by
  induction es generalizing i n with
  | nil => exact entriesFrom_free free
  | cons e es ih =>
    rw [List.length_cons] at len free
    obtain ⟨m, rfl⟩ : ∃ m, n = m + 1 := ⟨n - 1, by omega⟩
    obtain ⟨ne, listed, is⟩ := used 0 (Nat.succ_pos _)
    have rest : p.entriesFrom d (i + 1) m = es := by
      refine ih (by omega) (fun k lt => ?_) ?_
      · rw [Nat.add_assoc, Nat.add_comm 1 k]
        exact used (k + 1) (Nat.succ_lt_succ lt)
      · rw [Nat.add_assoc, Nat.add_comm 1]
        exact free
    rw [Nat.add_zero] at ne listed is
    rw [entriesFrom_listed ne listed, rest, is, List.getElem_cons_zero]

/-! ## Consecutive clusters -/

/-- The FAT links the `n` clusters from `b` on, and the last of them has the end-of-chain mark. -/
structure Run (p : Params) (d : Disk) (b n : Nat) : Prop where
  first : 2 ≤ b
  bound : b + n ≤ p.clusterCount + 2
  pos : 0 < n
  next : ∀ c, b ≤ c → c + 1 < b + n → p.fatEntry d 0 c = c + 1
  last : 0xfff8 ≤ p.fatEntry d 0 (b + n - 1)

/-- The chain through consecutive clusters. -/
lemma Run.chain (fat16 : p.clusterCount < 65525) {b n fuel : Nat} (run : Run p d b n)
    (enough : n ≤ fuel) : p.chain d fuel b = some (List.range' b n) := by
  have pos := run.pos
  have first := run.first
  have bound := run.bound
  induction fuel generalizing b n with
  | zero => omega
  | succ fuel ih =>
    rw [Params.chain, if_pos ⟨first, by omega⟩]
    obtain rfl | more : n = 1 ∨ 1 < n := by omega
    · have last := run.last
      rw [Nat.add_sub_cancel] at last
      simp only [if_pos last]
      rfl
    · have next := run.next b (le_refl b) (by omega)
      have tail : Run p d (b + 1) (n - 1) := by
        refine ⟨by omega, by omega, by omega, fun c le lt => run.next c (by omega) (by omega), ?_⟩
        have same : b + 1 + (n - 1) - 1 = b + n - 1 := by omega
        rw [same]
        exact run.last
      have rest := ih tail (by omega) tail.pos tail.first tail.bound
      have split : n = n - 1 + 1 := by omega
      simp only [next, if_neg (by omega : ¬ 0xfff8 ≤ b + 1), rest, Option.map_some]
      rw [split, List.range'_succ, Nat.add_sub_cancel]

/-- The data of consecutive clusters, as one stretch of memory. -/
def Holds (p : Params) (d : Disk) (b n : Nat) (m : Mem) : Prop :=
  ∀ j < n * p.sectorsPerCluster, ∀ i < p.bytesPerSector,
    d (p.dataStart + (b - 2) * p.sectorsPerCluster + j) i = m (j * p.bytesPerSector + i)

/-- One cluster of the stretch. -/
lemma Holds.cluster {b n q : Nat} {m : Mem} (holds : Holds p d b n m) (first : 2 ≤ b) (lt : q < n) :
    p.cluster d (b + q) =
      (m.shift (q * (p.sectorsPerCluster * p.bytesPerSector))).toList
        (p.sectorsPerCluster * p.bytesPerSector) := by
  rw [Mem.toList_mul, Params.cluster]
  refine List.flatMap_congr fun j mem => Mem.toList_congr fun i small => ?_
  have j_lt := List.mem_range.mp mem
  have inside : q * p.sectorsPerCluster + j < n * p.sectorsPerCluster :=
    calc q * p.sectorsPerCluster + j < (q + 1) * p.sectorsPerCluster := by
          rw [Nat.succ_mul]
          omega
      _ ≤ n * p.sectorsPerCluster := Nat.mul_le_mul_right _ lt
  have sector : p.dataStart + (b + q - 2) * p.sectorsPerCluster + j =
      p.dataStart + (b - 2) * p.sectorsPerCluster + (q * p.sectorsPerCluster + j) := by
    have parts : b + q - 2 = (b - 2) + q := by omega
    rw [parts, Nat.add_mul]
    omega
  rw [sector, holds _ inside i small, Mem.shift_shift, Mem.shift, Nat.add_mul, Nat.mul_assoc]

/-- All clusters of the stretch. -/
lemma Holds.clusters {b n : Nat} {m : Mem} (holds : Holds p d b n m) (first : 2 ≤ b) :
    (List.range' b n).flatMap (p.cluster d) =
      m.toList (n * (p.sectorsPerCluster * p.bytesPerSector)) := by
  rw [Mem.toList_mul, List.range'_eq_map_range, List.flatMap_map]
  refine List.flatMap_congr fun q mem => ?_
  exact holds.cluster first (List.mem_range.mp mem)

/-- Reading a file in consecutive clusters. -/
lemma readFile_run (fat16 : p.clusterCount < 65525) {e : Entry} {n : Nat} {m : Mem}
    (run : Run p d e.firstCluster n) (holds : Holds p d e.firstCluster n m) (nonempty : e.size ≠ 0)
    (fits : e.size ≤ n * (p.sectorsPerCluster * p.bytesPerSector)) :
    p.readFile d e = some (m.toList e.size) := by
  have first := run.first
  have bound := run.bound
  rw [readFile, if_neg nonempty, chainOf, run.chain fat16 (by omega), Option.bind_some]
  simp only [holds.clusters first, Mem.toList_length, if_pos fits, Mem.take_toList _ fits]

end Params

end WlhHpm.Fat16

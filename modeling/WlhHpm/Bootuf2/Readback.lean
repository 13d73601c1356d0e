import WlhHpm.Bootuf2.Layout
import WlhHpm.Lib.Fat16

/-!
# Reading the volume back

A host that mounts the volume and reads it with a FAT16 reader finds the files of the table. The
boot sector gives the parameters (`mount_disk`), the root directory lists the files in the order of
the table behind the volume label (`entries_disk`), the FAT links the clusters of each file
(`fatEntry_disk`, `run_file`) and the data sectors hold its bytes (`holds_file`); the reader of
`Lib/Fat16.lean` then returns the contents of every file.

The family file is empty and still names a first cluster, the one of the file after it; a reader
never follows it.
-/

namespace WlhHpm.Bootuf2.Volume
open WlhHpm.Fat16

/-! ## The boot sector -/

/-- The parameters of the volume. -/
def volumeParams : Params where
  bytesPerSector := 512
  sectorsPerCluster := 2
  reservedSectors := 1
  numberOfFats := 2
  rootEntries := 64
  totalSectors := 131553
  sectorsPerFat := 256

/-- The number of clusters that a reader computes from the parameters. -/
lemma clusterCount_volume : volumeParams.clusterCount = 65518 := rfl

section
variable (built : BuildTime) {files : Files} (buff : Nat → Mem)

/-- The bytes of the boot sector. -/
lemma disk_boot {i : Nat} (lt : i < 512) :
    disk built files buff 0 i = dbrSector (Mem.copy (buff 0) 0 512 fun _ => 0) i :=
  disk_byte built buff 0 lt

/-- The first sector begins with the boot sector. -/
lemma disk_boot_dbr {i : Nat} (lt : i < 62) :
    disk built files buff 0 i = Mem.ofList bootuf2Dbr.bytes i := by
  rw [disk_boot built buff (by omega), dbrSector, Function.update_of_ne (by omega),
    Function.update_of_ne (by omega), Mem.copy_in (Nat.zero_le i) (by omega), Nat.sub_zero]

/-- A host mounts the volume. -/
lemma mount_disk : mount (disk built files buff) = some volumeParams := by
  have params : Params.ofBoot (disk built files buff 0) = volumeParams := by
    rw [Params.ofBoot_congr fun i lt => disk_boot_dbr built buff (lt.trans (by decide))]
    decide +kernel
  have low : disk built files buff 0 510 = 0x55 := by
    rw [disk_boot built buff (by decide)]
    rfl
  have high : disk built files buff 0 511 = 0xaa := by
    rw [disk_boot built buff (by decide)]
    rfl
  rw [mount, params]
  exact if_pos ⟨low, high, by decide⟩

/-! ## The FAT -/

/-- Comparison of sector numbers. -/
lemma sector_lt {n k : Nat} (lt : n < k) (small : k < 2 ^ 32) : UInt32.ofNat n < UInt32.ofNat k :=
  (UInt32.ofNat_lt_iff_lt (lt.trans small) small).mpr lt

/-- Comparison of sector numbers, the other way. -/
lemma sector_ge {n k : Nat} (le : k ≤ n) (small : n < 2 ^ 32) : ¬ UInt32.ofNat n < UInt32.ofNat k :=
  fun lt => absurd ((UInt32.ofNat_lt_iff_lt small (le.trans_lt small)).mp lt) (by omega)

/-- A sector behind the first one. -/
lemma sector_ne_zero {n : Nat} (pos : 0 < n) (small : n < 2 ^ 32) : UInt32.ofNat n ≠ 0 := by
  rw [ne_eq, ← UInt32.toNat_inj, UInt32.toNat_ofNat_of_lt' small, UInt32.toNat_zero]
  omega

/-- The sector within its region. -/
lemma sector_sub (k n : Nat) : UInt32.ofNat (k + n) - UInt32.ofNat k = UInt32.ofNat n := by
  rw [UInt32.ofNat_add, UInt32.add_comm, UInt32.add_sub_cancel]

/-- A FAT sector of the disk. -/
lemma disk_fat {n i : Nat} (fat : n < 512) (lt : i < 512) :
    disk built files buff (1 + n) i =
      fatSector files.list (UInt32.ofNat n) (Mem.copy (buff (1 + n)) 0 512 fun _ => 0) i := by
  have boot : UInt32.ofNat (1 + n) ≠ 0 := sector_ne_zero (by omega) (by omega)
  have below : UInt32.ofNat (1 + n) < 513 :=
    sector_lt (by omega : 1 + n < 513) (by decide)
  have relative : UInt32.ofNat (1 + n) - 1 = UInt32.ofNat n := sector_sub 1 n
  rw [disk_byte built buff _ lt, fillSector, if_neg boot, if_pos below, relative]

/-- All FATs are equal. -/
lemma disk_fat_copy {k n i : Nat} (copy : k < 2) (fat : n < 256) (lt : i < 512) :
    disk built files buff (1 + k * 256 + n) i = disk built files buff (1 + n) i := by
  have relative : fatRelative (UInt32.ofNat (k * 256 + n)) = fatRelative (UInt32.ofNat n) := by
    apply UInt32.toNat_inj.mp
    rw [fatRelative_toNat, fatRelative_toNat, UInt32.toNat_ofNat', UInt32.toNat_ofNat']
    omega
  rw [Nat.add_assoc, disk_fat built buff (by omega) lt, disk_fat built buff (by omega) lt,
    (fatSector_writes files.list _).cleared _ _ (buff (1 + n)) lt, fatSector, fatSector, relative]

/-- The value of a cluster in the first FAT. -/
lemma fatEntry_disk {c : Nat} (data : 2 ≤ c) (lt : c < 65536) :
    volumeParams.fatEntry (disk built files buff) 0 c =
      if ∃ f ∈ files.list, f.clusterEnd.toNat = c then 0xffff
      else if (clusterUnused files.list).toNat ≤ c then 0 else c + 1 := by
  have sector : 1 + 0 * 256 + 2 * c / 512 = 1 + c / 256 := by omega
  have offset : 2 * c % 512 = 2 * (c % 256) := by omega
  have n : (UInt32.ofNat (c / 256)).toNat = c / 256 := UInt32.toNat_ofNat_of_lt' (by
    change _ < 4294967296
    omega)
  have at_c : (UInt32.ofNat (c / 256)).toNat % 256 * 256 + c % 256 = c := by omega
  change (Word.le16 (disk built files buff (1 + 0 * 256 + 2 * c / 512)) (2 * c % 512)).toNat = _
  rw [sector, offset, Word.le16, disk_fat built buff (by omega) (by omega),
    disk_fat built buff (by omega) (by omega), ← Word.le16,
    le16_fatSector _ _ _ (by omega) (by omega), at_c]

/-! ## The files -/

variable {e : Nat}

/-- A file that is not empty has clusters. -/
lemma clusters_pos {f : Bootuf2File} (nonempty : f.fileSize ≠ 0) : 0 < f.clusters := by
  have size : f.fileSize.toNat ≠ 0 := fun zero => nonempty (UInt32.toNat_inj.mp zero)
  have fits := fileSize_le f
  omega

/-- The FAT links the clusters of a file. -/
lemma run_file (laid : Laid 2 e files.list) (bound : e ≤ 0xfff0) {f : Bootuf2File}
    (mem : f ∈ files.list) (nonempty : f.fileSize ≠ 0) :
    volumeParams.Run (disk built files buff) f.clusterBeg.toNat f.clusters := by
  have first := laid.first f mem
  have size := laid.size f mem
  have used := laid.used f mem
  have pos := clusters_pos nonempty
  have count := clusterCount_volume
  refine ⟨first, by omega, pos, fun c le lt => ?_, ?_⟩
  · -- the end mark of an empty file lies on the cluster before its first, never inside this file
    have inside : ¬ ∃ g ∈ files.list, g.clusterEnd.toNat = c := by
      rintro ⟨g, mg, rfl⟩
      have := laid.end_le mem mg le
      omega
    rw [fatEntry_disk built buff (by omega) (by omega), if_neg inside, laid.unused bound mem,
      if_neg (by omega)]
  · have last : f.clusterBeg.toNat + f.clusters - 1 = f.clusterEnd.toNat := by omega
    rw [last, fatEntry_disk built buff (by omega) (by omega), if_pos ⟨f, mem, rfl⟩]
    decide

/-- A data sector of the disk. -/
lemma disk_data {n i : Nat} (data : n < 131036) (lt : i < 512) :
    disk built files buff (517 + n) i =
      dataSector files.list (UInt32.ofNat n) (Mem.copy (buff (517 + n)) 0 512 fun _ => 0) i := by
  have small : 517 + n < 2 ^ 32 := by omega
  have boot : UInt32.ofNat (517 + n) ≠ 0 := sector_ne_zero (by omega) small
  have fat : ¬ UInt32.ofNat (517 + n) < 513 := sector_ge (by omega : 513 ≤ 517 + n) small
  have root : ¬ UInt32.ofNat (517 + n) < 517 := sector_ge (by omega : 517 ≤ 517 + n) small
  have below : UInt32.ofNat (517 + n) < 131553 :=
    sector_lt (by omega : 517 + n < 131553) (by decide)
  have relative : UInt32.ofNat (517 + n) - 517 = UInt32.ofNat n := sector_sub 517 n
  rw [disk_byte built buff _ lt, fillSector, if_neg boot, if_neg fat, if_neg root, if_pos below,
    relative]

/-- The data sectors hold the bytes of a file. -/
lemma holds_file (laid : Laid 2 e files.list) (bound : e ≤ 0xfff0) {f : Bootuf2File}
    (mem : f ∈ files.list) :
    volumeParams.Holds (disk built files buff) f.clusterBeg.toNat f.clusters
      (Mem.ofList f.bytes) := by
  intro j lt i small
  change j < f.clusters * 2 at lt
  change i < 512 at small
  have first := laid.first f mem
  have size := laid.size f mem
  have used := laid.used f mem
  change disk built files buff (517 + (f.clusterBeg.toNat - 2) * 2 + j) i =
    Mem.ofList f.bytes (j * 512 + i)
  rw [Nat.add_assoc, disk_data built buff (by omega) small]
  refine dataSector_file laid bound mem lt ?_ _ small
  exact UInt32.toNat_ofNat_of_lt' (by
    change _ < 4294967296
    omega)

/-- The first sector of the root directory. -/
lemma disk_root {i : Nat} (lt : i < 512) :
    disk built files buff 513 i = rootLoop built 15 files.list 0 1
      (putEntry (Mem.copy (buff 513) 0 512 fun _ => 0) 0 volumeLabelEntry) i :=
  disk_byte built buff 513 lt

end

/-! ## The root directory -/

section
variable (built : BuildTime)

/-- The loop leaves the bytes outside of its entries. -/
lemma rootLoop_out (r : Int) (files : List Bootuf2File) (idx ent : Nat) (m : Mem) {i : Nat}
    (outside : i < 32 * ent ∨ 32 * (ent + files.length) ≤ i) :
    rootLoop built r files idx ent m i = m i := by
  induction files generalizing idx ent m with
  | nil => rfl
  | cons f fs ih =>
    rw [List.length_cons] at outside
    rw [rootLoop]
    split
    · split
      · exact ih _ _ _ (by omega)
      · rw [ih _ _ _ (by omega), putEntry]
        exact Mem.copy_out (by unfold sizeofEntry; omega)
    · rfl

/-- The entry of file `k`. -/
lemma rootLoop_entry {r : Int} (pos : r > 0) (files : List Bootuf2File) (idx ent : Nat) (m : Mem)
    {k : Nat} (lt : k < files.length) (shown : files[k].fileSize ≠ 0 ∨ idx + k = 0) {b : Nat}
    (small : b < 32) :
    rootLoop built r files idx ent m (32 * (ent + k) + b) =
      Mem.ofList (fileEntry built files[k]).bytes b := by
  induction files generalizing idx ent m k with
  | nil => cases lt
  | cons f fs ih =>
    rw [rootLoop, if_pos pos]
    cases k with
    | zero =>
      have here : ¬ (f.fileSize = 0 ∧ idx ≠ 0) := by
        rintro ⟨empty, later⟩
        exact shown.elim (fun ne => ne empty) later
      rw [if_neg here, rootLoop_out built r fs _ _ _ (by omega), putEntry, sizeofEntry,
        Mem.copy_in (by omega) (by omega), Nat.add_zero, Nat.add_sub_cancel_left,
        List.getElem_cons_zero]
    | succ k =>
      have place : 32 * (ent + (k + 1)) + b = 32 * (ent + 1 + k) + b := by omega
      have rest (m : Mem) := ih (idx + 1) (ent + 1) m (Nat.lt_of_succ_lt_succ lt) (by
        rw [List.getElem_cons_succ] at shown
        exact shown.imp_right (by omega))
      rw [place, List.getElem_cons_succ]
      split
      · exact rest _
      · exact rest _

/-- A copied name fills the field. -/
lemma fnameCopy_length (name : List UInt8) (len : Nat) : (fnameCopy name len).length = len := by
  fun_induction fnameCopy name len with
  | case1 => rfl
  | case2 len ih => rw [List.length_cons, ih]
  | case3 c cs len ne ih => rw [List.length_cons, ih]
  | case4 c cs len eq ih => rw [List.length_cons, ih]

/-- What a reader takes from a slot that holds an entry. -/
lemma ofSlot_entry {slot : Mem} {e : Bootuf2Entry} (name : e.name.length = 11)
    (holds : ∀ b < 32, slot b = Mem.ofList e.bytes b) :
    Entry.ofSlot slot = ⟨e.name, e.attributes, e.firstClustL16.toNat, e.fileSize.toNat⟩ := by
  have tail (k : Nat) : Mem.ofList e.bytes (11 + k) = Mem.ofList
      ([e.attributes, e.ntReserved, e.createTimeTeenth] ++ Word.le16Bytes e.createTime ++
        Word.le16Bytes e.createDate ++ Word.le16Bytes e.lastAccessDate ++
        Word.le16Bytes e.firstClustH16 ++ Word.le16Bytes e.updateTime ++
        Word.le16Bytes e.updateDate ++ Word.le16Bytes e.firstClustL16 ++
        Word.le32Bytes e.fileSize) k := by
    rw [Mem.ofList, Mem.ofList, ← name, Bootuf2Entry.bytes]
    simp only [List.append_assoc, List.getD_append_right _ _ _ _ (Nat.le_add_right ..),
      Nat.add_sub_cancel_left]
  have field : slot.toList 11 = e.name := by
    have head : slot.toList 11 = (Mem.ofList e.name).toList 11 := by
      refine Mem.toList_congr fun b small => ?_
      rw [holds b (by omega), Mem.ofList, Mem.ofList, Bootuf2Entry.bytes]
      simp only [List.append_assoc]
      exact List.getD_append _ _ _ _ (by omega)
    rw [head, Mem.toList_ofList name]
  have cluster : Word.le16 slot 26 = e.firstClustL16 :=
    Word.le16_of_bytes ((holds 26 (by decide)).trans (tail 15)) ((holds 27 (by decide)).trans (tail 16))
  have size : Word.le32 slot 28 = e.fileSize := by
    refine Word.le32_of_bytes fun j lt => ?_
    rw [Word.le32Bytes_length] at lt
    have place : 28 + j = 11 + (17 + j) := by omega
    rw [holds _ (by omega), place, tail]
    interval_cases j <;> rfl
  rw [Entry.ofSlot, field, cluster, size, holds 11 (by decide), tail 0]
  rfl

/-- The entry that a reader lists for a file. -/
def entryOf (f : Bootuf2File) : Entry := ⟨f.name, 0x05, f.clusterBeg.toNat, f.fileSize.toNat⟩

/-- The names of the table fill their field, and do not look like a free or deleted slot. -/
lemma name_copied :
    ∀ n ∈ fileNames, fnameCopy n 11 = n ∧ n.getD 0 0 ≠ 0 ∧ n.getD 0 0 ≠ 0xe5 := by
  decide

/-- A file has one of the names of the table. -/
lemma Files.name_mem {files : Files} {f : Bootuf2File} (mem : f ∈ files.list) :
    f.name ∈ fileNames := by
  rw [← files.names]
  exact List.mem_map_of_mem mem

/-- A name of the table has a file. -/
lemma Files.exists_name (files : Files) {n : List UInt8} (mem : n ∈ fileNames) :
    ∃ f ∈ files.list, f.name = n := by
  rw [← files.names] at mem
  exact List.mem_map.mp mem

/-- The slot with the entry of a file is listed as that file. -/
lemma slot_file {files : Files} {f : Bootuf2File} (mem : f ∈ files.list) {slot : Mem}
    (holds : ∀ b < 32, slot b = Mem.ofList (fileEntry built f).bytes b) :
    slot 0 ≠ 0 ∧ Listed slot ∧ Entry.ofSlot slot = entryOf f := by
  obtain ⟨copied, used, kept⟩ := name_copied f.name (Files.name_mem mem)
  have length : (fileEntry built f).name.length = 11 := fnameCopy_length f.name 11
  have entry := ofSlot_entry length holds
  have cluster : (f.clusterBeg.toUInt32 &&& 0xffff).toUInt16.toNat = f.clusterBeg.toNat := by
    have low := Word.toNat_and_mask f.clusterBeg.toUInt32 0xffff 16 rfl
    rw [UInt32.toNat_toUInt16, low, UInt16.toNat_toUInt32]
    have lt := f.clusterBeg.toNat_lt
    omega
  have first : slot 0 = f.name.getD 0 0 := by
    rw [holds 0 (by decide), Mem.ofList, Bootuf2Entry.bytes]
    simp only [List.append_assoc]
    rw [List.getD_append _ _ _ _ (by omega)]
    exact congrArg (List.getD · 0 0) copied
  have attributes : slot 11 = 0x05 := congrArg Entry.attributes entry
  refine ⟨first ▸ used, ⟨first ▸ kept, by rw [attributes]; decide⟩, ?_⟩
  have named : (fileEntry built f).name = f.name := copied
  rw [entry, named]
  exact congrArg (fun c => (⟨f.name, 0x05, c, f.fileSize.toNat⟩ : Entry)) cluster

end

/-- Only the family file is empty. -/
def Files.OnlyIdEmpty (files : Files) : Prop :=
  ∀ f ∈ files.list, f.fileSize = 0 ↔ f.name = fileID

instance (files : Files) : Decidable files.OnlyIdEmpty :=
  List.decidableBAll (fun f : Bootuf2File => f.fileSize = 0 ↔ f.name = fileID) files.list

/-- The files after the first one are not empty. -/
lemma Files.OnlyIdEmpty.shown {files : Files} (only : files.OnlyIdEmpty) {k : Nat}
    (lt : k < files.list.length) : files.list[k].fileSize ≠ 0 ∨ 0 + k = 0 := by
  by_cases zero : k = 0
  · exact Or.inr (by omega)
  · refine Or.inl fun empty => ?_
    have name := (only _ (List.getElem_mem lt)).mp empty
    have others : ∀ k, (lt : k < fileNames.length) → k ≠ 0 → fileNames[k] ≠ fileID := by decide
    refine others k (by rwa [← files.names, List.length_map]) zero ?_
    simp only [← name, ← files.names, List.getElem_map]

section
variable (built : BuildTime) {files : Files} (buff : Nat → Mem)

/-- A slot of the first sector of the directory. -/
lemma slot_volume (d : Disk) {k : Nat} (lt : k < 16) (b : Nat) :
    volumeParams.slot d k b = d 513 (32 * k + b) := by
  have sector : 513 + 32 * k / 512 = 513 := by omega
  have offset : 32 * k % 512 = 32 * k := by omega
  change d (513 + 32 * k / 512) (32 * k % 512 + b) = _
  rw [sector, offset]

/-- The root directory lists the files of the table. -/
lemma entries_disk (only : files.OnlyIdEmpty) :
    volumeParams.entries (disk built files buff) = files.list.map entryOf := by
  have length := files.length
  have label (b : Nat) (small : b < 32) :
      volumeParams.slot (disk built files buff) 0 b = Mem.ofList volumeLabelEntry.bytes b := by
    rw [slot_volume _ (by decide), disk_root built buff (by omega),
      rootLoop_out built _ _ _ _ _ (by omega), putEntry, sizeofEntry,
      Mem.copy_in (by omega) (by omega)]
    simp only [Nat.mul_zero, Nat.zero_add, Nat.sub_zero]
  have used : volumeParams.slot (disk built files buff) 0 0 ≠ 0 := by
    rw [label 0 (by decide)]
    decide
  have hidden : ¬ Listed (volumeParams.slot (disk built files buff) 0) := by
    rintro ⟨-, attributes⟩
    rw [label 11 (by decide)] at attributes
    exact absurd attributes (by decide)
  change volumeParams.entriesFrom _ 0 (63 + 1) = _
  rw [Params.entriesFrom_skip used hidden]
  refine Params.entriesFrom_eq (by rw [List.length_map]; omega) (fun k lt => ?_) ?_
  · rw [List.length_map] at lt
    rw [List.getElem_map]
    refine slot_file built (List.getElem_mem lt) fun b small => ?_
    rw [slot_volume _ (by omega), disk_root built buff (by omega), Nat.zero_add]
    exact rootLoop_entry built (by decide) _ 0 1 _ lt (only.shown lt) small
  · -- the slot after the last file is still as it was cleared
    rw [List.length_map, length, slot_volume _ (by decide), disk_root built buff (by decide),
      rootLoop_out built _ _ _ _ _ (by omega), putEntry, sizeofEntry, Mem.copy_out (by omega),
      Mem.copy_in (by omega) (by omega)]

end

/-! ## The volume as a whole -/

/-- With different keys, a key finds one element. -/
lemma filter_key_eq {α κ : Type} [DecidableEq κ] (key : α → κ) {l : List α}
    (nodup : (l.map key).Nodup) {x : α} (mem : x ∈ l) : l.filter (fun y => key y = key x) = [x] := by
  induction l with
  | nil => cases mem
  | cons y l ih =>
    rw [List.map_cons, List.nodup_cons] at nodup
    obtain rfl | later := List.mem_cons.mp mem
    · have others : l.filter (fun y => key y = key x) = [] := by
        rw [List.filter_eq_nil_iff]
        intro z mz same
        exact nodup.1 (of_decide_eq_true same ▸ List.mem_map_of_mem mz)
      rw [List.filter_cons_of_pos (by simp), others]
    · have other : key y ≠ key x := fun same => nodup.1 (same ▸ List.mem_map_of_mem later)
      rw [List.filter_cons_of_neg (by simpa using other), ih nodup.2 later]

/-- A reader finds a file under its name, once, and reads it back through a chain that ends. -/
structure Found (p : Params) (d : Disk) (f : Bootuf2File) (e : Entry) (cs : List Nat) : Prop where
  once : (p.entries d).filter (fun e' => e'.name = f.name) = [e]
  size : e.size = f.fileSize.toNat
  contents : p.readFile d e = some f.bytes
  chain : p.chainOf d e = some cs
  ends : ∃ c, cs.getLast? = some c ∧ 0xfff8 ≤ p.fatEntry d 0 c

/-- The clusters of a file. -/
def clustersOf (f : Bootuf2File) : List Nat := List.range' f.clusterBeg.toNat f.clusters

section
variable (built : BuildTime) {files : Files} (buff : Nat → Mem) {e : Nat}

/-- Every file that is not empty is found. -/
lemma found_file (only : files.OnlyIdEmpty) (laid : Laid 2 e files.list) (bound : e ≤ 0xfff0)
    {f : Bootuf2File} (mem : f ∈ files.list) (nonempty : f.fileSize ≠ 0) :
    Found volumeParams (disk built files buff) f (entryOf f) (clustersOf f) := by
  have fat16 : volumeParams.clusterCount < 65525 := by decide
  have run := run_file built buff laid bound mem nonempty
  have pos := run.pos
  have below := run.bound
  have first := run.first
  refine ⟨?_, rfl, ?_, run.chain fat16 (by omega), ?_⟩
  · have nodup : (files.list.map (·.name)).Nodup := by
      rw [files.names]
      decide
    rw [entries_disk built buff only, List.filter_map]
    exact congrArg (List.map entryOf) (filter_key_eq (·.name) nodup mem)
  · have size : (entryOf f).size ≠ 0 := fun zero => nonempty (UInt32.toNat_inj.mp zero)
    have length : f.bytes.length = f.fileSize.toNat := by
      rw [Bootuf2File.bytes, List.length_take, Nat.min_eq_left f.readable]
    have read := Params.readFile_run (e := entryOf f) fat16 run (holds_file built buff laid bound mem)
      size (fileSize_le f)
    exact read.trans (congrArg some (Mem.toList_ofList length))
  · refine ⟨f.clusterBeg.toNat + f.clusters - 1, ?_, run.last⟩
    rw [clustersOf, List.getLast?_range', if_neg (by omega)]

/-- The chains of different files have no cluster in common. -/
lemma clustersOf_disjoint (laid : Laid 2 e files.list) {f g : Bootuf2File} (mf : f ∈ files.list)
    (mg : g ∈ files.list) (ne : f ≠ g) : List.Disjoint (clustersOf f) (clustersOf g) := by
  intro c inf ing
  rw [clustersOf, List.mem_range'_1] at inf ing
  have size_f := laid.size f mf
  have size_g := laid.size g mg
  obtain before | after := laid.apart mf mg ne <;> omega

end

/-- The files lie one after the other once the disk has been initialised. -/
lemma bootuf2Init_laid (allocated : Bool) (t : Files)
    (fits : ((bootuf2Init allocated t).list.map (·.clusters)).sum ≤ bootuf2Clustersmax) :
    ∃ e ≤ 0xfff0, Laid 2 e (bootuf2Init allocated t).list := by
  unfold bootuf2Init fcalculateCluster at fits ⊢
  rw [fcalculateClusterFrom_map _ fun _ _ _ => rfl] at fits
  have top : (2 : UInt16).toNat + (List.map (fun f : Bootuf2File => f.clusters) _).sum ≤ 0xfff0 :=
    Nat.add_le_add_left fits 2
  exact ⟨_, top, fcalculateClusterFrom_laid _ (by decide) top⟩

/-- The volume. After `bootuf2_init`, whatever the files hold, a FAT16 reader mounts the disk and
    finds every file that is not empty, once, under its name, with its contents; the chains of the
    files have no cluster in common, the FATs are equal, and a range of sectors reads as its sectors
    do one by one. -/
theorem volume_reads_back (allocated : Bool) (built : BuildTime) (t : Files) (buff : Nat → Mem)
    (only : (bootuf2Init allocated t).OnlyIdEmpty)
    (fits : ((bootuf2Init allocated t).list.map (·.clusters)).sum ≤ bootuf2Clustersmax) :
    let files := bootuf2Init allocated t
    let d := disk built files buff
    ∃ p, mount d = some p ∧
      (∃ (entry : Bootuf2File → Entry) (chain : Bootuf2File → List Nat),
        (∀ f ∈ files.list, f.fileSize ≠ 0 → Found p d f (entry f) (chain f)) ∧
        (∀ f ∈ files.list, ∀ g ∈ files.list, f.fileSize ≠ 0 → g.fileSize ≠ 0 → f ≠ g →
          List.Disjoint (chain f) (chain g))) ∧
      (∀ k < p.numberOfFats, ∀ n < p.sectorsPerFat, ∀ i < p.bytesPerSector,
        d (p.reservedSectors + k * p.sectorsPerFat + n) i = d (p.reservedSectors + n) i) ∧
      (∀ (start : UInt32) (count : Nat) (m : Mem) (one : Nat → Mem),
        (boot2uf2ReadSector built files start m count).toList (count * p.bytesPerSector) =
          (List.range count).flatMap fun j =>
            (boot2uf2ReadSector built files (start + UInt32.ofNat j) (one j) 1).toList
              p.bytesPerSector) := by
  intro files d
  obtain ⟨e, bound, laid⟩ := bootuf2Init_laid allocated t fits
  refine ⟨volumeParams, mount_disk built buff, ⟨entryOf, clustersOf, ?_, ?_⟩, ?_, ?_⟩
  · intro f mem nonempty
    exact found_file built buff only laid bound mem nonempty
  · intro f mf g mg _ _ ne
    exact clustersOf_disjoint laid mf mg ne
  · intro k copy n fat i lt
    exact disk_fat_copy built buff copy fat lt
  · intro start count m one
    exact toList_readSector built start m one count

/-- The volume of the firmware as it starts: the file with the reason is found. -/
theorem volume_reads_back_reset :
    ∃ f ∈ (bootuf2Init true Files.reset).list, f.name = ascii "INFO_UF2TXT" ∧ f.fileSize ≠ 0 ∧
      ∃ p e cs, mount (disk ⟨2025, 1, 1, 0, 0, 0⟩ (bootuf2Init true Files.reset) fun _ _ => 0) =
        some p ∧
        Found p (disk ⟨2025, 1, 1, 0, 0, 0⟩ (bootuf2Init true Files.reset) fun _ _ => 0) f e cs := by
  obtain ⟨only, fits⟩ : (bootuf2Init true Files.reset).OnlyIdEmpty ∧
      ((bootuf2Init true Files.reset).list.map (·.clusters)).sum ≤ bootuf2Clustersmax := by
    decide +kernel
  obtain ⟨f, mem, name⟩ := Files.exists_name (bootuf2Init true Files.reset)
    (by decide : ascii "INFO_UF2TXT" ∈ fileNames)
  have nonempty : f.fileSize ≠ 0 := by
    rw [ne_eq, only f mem, name]
    decide
  obtain ⟨p, mounted, ⟨entry, chain, found, -⟩, -⟩ :=
    volume_reads_back true ⟨2025, 1, 1, 0, 0, 0⟩ Files.reset (fun _ _ => 0) only fits
  exact ⟨f, mem, name, nonempty, p, entry f, chain f, mounted, found f mem nonempty⟩

end WlhHpm.Bootuf2.Volume

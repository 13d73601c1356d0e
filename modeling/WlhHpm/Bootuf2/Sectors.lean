import WlhHpm.Bootuf2.Volume

/-!
# Reading sectors of the volume

What `boot2uf2_read_sector` stores in a buffer. Each kind of sector stores fixed bytes inside the
512 bytes of its sector (`readOne_writes`), and these have been cleared before, so what is read
depends on the sector number only: reading a range of sectors in one call is reading them one by one
(`toList_readSector`).
-/

namespace WlhHpm.Bootuf2.Volume

/-! ## Each sector stays in its buffer -/

/-- The boot sector is stored inside the sector. -/
lemma dbrSector_writes : Mem.WritesIn 512 dbrSector :=
  (Mem.WritesIn.update 0xaa (by decide)).comp <|
    (Mem.WritesIn.update 0x55 (by decide)).comp (Mem.WritesIn.copy _ (by decide))

/-- The links are stored inside the sector. -/
lemma fatLink_writes (unused first : UInt16) : Mem.WritesIn 512 (fatLink unused first) := by
  apply Mem.WritesIn.foldl
  intro i mem
  have lt : i < 256 := List.mem_range.mp mem
  exact Word.put16_writes _ (by omega)

/-- The values of clusters 0 and 1 are stored inside the sector. -/
lemma fatHead_writes : Mem.WritesIn 512 fatHead :=
  (Word.put16_writes 0xffff (by decide)).comp <|
    (Mem.WritesIn.update 0xff (by decide)).comp (Mem.WritesIn.update _ (by decide))

/-- An end-of-chain mark is stored inside the sector. -/
lemma fatMarkEnd_writes (first : UInt16) (f : Bootuf2File) :
    Mem.WritesIn 512 (fatMarkEnd first f) := by
  refine Mem.WritesIn.ite (fun _ => ?_) fun _ => Mem.WritesIn.id
  refine Mem.WritesIn.ite (fun small => ?_) fun _ => Mem.WritesIn.id
  have lt : (f.clusterEnd - first).toNat < 256 := by
    rw [← UInt16.toNat_toUInt32]
    exact UInt32.lt_iff_toNat_lt.mp small
  exact Word.put16_writes _ (by omega)

/-- A FAT sector is stored inside the sector. -/
lemma fatSector_writes (files : List Bootuf2File) (s : UInt32) :
    Mem.WritesIn 512 (fatSector files s) := by
  unfold fatSector
  have link := fatLink_writes (clusterUnused files)
    (fatRelative s * bootuf2Dbr.fat16PerSector).toUInt16
  have head : Mem.WritesIn 512 fun m => if fatRelative s = 0 then fatHead m else m :=
    Mem.WritesIn.ite (fun _ => fatHead_writes) fun _ => Mem.WritesIn.id
  exact (Mem.WritesIn.foldl files fun f _ => fatMarkEnd_writes _ f).comp (head.comp link)

/-- One of the 16 entries of a sector is stored inside it. -/
lemma putEntry_writes {ent : Nat} (e : Bootuf2Entry) (lt : ent < 16) :
    Mem.WritesIn 512 fun m => putEntry m ent e := by
  refine Mem.WritesIn.copy _ ?_
  unfold sizeofEntry
  omega

/-- The loop over the files runs past the sector only with more files than fit. -/
lemma rootLoop_writes (built : BuildTime) (r : Int) (files : List Bootuf2File) (idx ent : Nat)
    (fit : ent + files.length ≤ 16) : Mem.WritesIn 512 (rootLoop built r files idx ent) := by
  induction files generalizing idx ent with
  | nil => exact Mem.WritesIn.id
  | cons f fs ih =>
    rw [List.length_cons] at fit
    have rest := ih (idx + 1) (ent + 1) (by omega)
    refine Mem.WritesIn.ite (fun _ => ?_) fun _ => Mem.WritesIn.id
    refine Mem.WritesIn.ite (fun _ => rest) fun _ => ?_
    exact rest.comp (putEntry_writes _ (by omega))

/-- A directory sector is stored inside the sector. -/
lemma rootSector_writes (built : BuildTime) {files : List Bootuf2File} (few : files.length ≤ 15)
    (s : UInt32) : Mem.WritesIn 512 (rootSector built files s) := by
  refine Mem.WritesIn.ite (fun _ => ?_) fun _ => ?_
  · exact (rootLoop_writes _ _ _ _ _ (by omega)).comp (putEntry_writes _ (by decide))
  · refine rootLoop_writes _ _ _ _ _ ?_
    rw [List.length_drop]
    omega

/-- A data sector is stored inside the sector. -/
lemma dataSector_writes (files : List Bootuf2File) (s : UInt32) :
    Mem.WritesIn 512 (dataSector files s) := by
  unfold dataSector
  split
  · exact Mem.WritesIn.id
  · refine Mem.WritesIn.ite (fun _ => Mem.WritesIn.copy _ ?_) fun _ => Mem.WritesIn.id
    rw [Nat.zero_add]
    split
    · exact le_refl _
    · rename_i small
      exact UInt32.le_iff_toNat_le.mp (UInt32.not_lt.mp small)

/-- What a pass of the loop does after it has cleared the sector, with the sectors at which the
    regions of the volume begin. -/
def fillSector (built : BuildTime) (files : List Bootuf2File) (s : UInt32) (buff : Mem) : Mem :=
  if s = 0 then dbrSector buff
  else if s < 513 then fatSector files (s - 1) buff
  else if s < 517 then rootSector built files (s - 513) buff
  else if s < 131553 then dataSector files (s - 517) buff
  else buff

/-- Whatever a pass of the loop stores, it stores inside the sector. -/
lemma fillSector_writes (built : BuildTime) {files : List Bootuf2File} (few : files.length ≤ 15)
    (s : UInt32) : Mem.WritesIn 512 (fillSector built files s) := by
  refine Mem.WritesIn.ite (fun _ => dbrSector_writes) fun _ => ?_
  refine Mem.WritesIn.ite (fun _ => fatSector_writes files _) fun _ => ?_
  refine Mem.WritesIn.ite (fun _ => rootSector_writes _ few _) fun _ => ?_
  exact Mem.WritesIn.ite (fun _ => dataSector_writes files _) fun _ => Mem.WritesIn.id

/-! ## One sector, and a range of them -/

/-- A pass of the loop clears the sector first. -/
lemma readOne_eq (built : BuildTime) (files : List Bootuf2File) (s : UInt32) (buff : Mem) :
    readOne built files s buff = fillSector built files s (buff.copy 0 512 fun _ => 0) := rfl

section
variable (built : BuildTime) {files : Files}

/-- The table has far fewer files than a directory sector has entries. -/
lemma Files.length (files : Files) : files.list.length = 4 := by
  rw [← List.length_map (·.name), files.names]
  rfl

/-- The table has room in one directory sector, next to the label. -/
lemma Files.few (files : Files) : files.list.length ≤ 15 := by
  rw [files.length]
  decide

/-- A sector does not depend on what the buffer held. -/
lemma readOne_same (s : UInt32) (buff buff' : Mem) {i : Nat} (lt : i < 512) :
    readOne built files.list s buff i = readOne built files.list s buff' i :=
  (fillSector_writes built files.few s).cleared _ buff buff' lt

/-- One sector is read, and then the others behind it. -/
lemma readSector_succ (s : UInt32) (buff : Mem) (n : Nat) :
    boot2uf2ReadSector built files s buff (n + 1) =
      Mem.beyond (readOne built files.list s buff) 512 fun buff =>
        boot2uf2ReadSector built files (s + 1) buff n := rfl

/-- One sector is read. -/
lemma readSector_one (s : UInt32) (buff : Mem) {i : Nat} (lt : i < 512) :
    boot2uf2ReadSector built files s buff 1 i = readOne built files.list s buff i := by
  rw [readSector_succ, Mem.beyond_before lt]

/-- Each byte that a call stores is a byte of one sector. -/
lemma readSector_byte (s : UInt32) (buff one : Mem) {n i : Nat} (lt : i < n * 512) :
    boot2uf2ReadSector built files s buff n i =
      readOne built files.list (s + UInt32.ofNat (i / 512)) one (i % 512) := by
  induction n generalizing s buff i with
  | zero => omega
  | succ n ih =>
    rw [readSector_succ]
    by_cases here : i < 512
    · have sector : s + UInt32.ofNat 0 = s := UInt32.add_zero s
      rw [Mem.beyond_before here, Nat.div_eq_of_lt here, Nat.mod_eq_of_lt here, sector]
      exact readOne_same built s buff one here
    · have le : 512 ≤ i := by omega
      obtain ⟨j, rfl⟩ := Nat.exists_eq_add_of_le le
      have sector : s + 1 + UInt32.ofNat (j / 512) = s + UInt32.ofNat ((512 + j) / 512) := by
        rw [Nat.add_div_left j (by decide), UInt32.add_assoc, UInt32.add_comm 1,
          UInt32.ofNat_add (j / 512) 1]
        rfl
      rw [Mem.beyond_after le, ← sector, Nat.add_mod_left, Nat.add_sub_cancel_left]
      exact ih (s + 1) _ (by omega)

/-- Reading a range is reading its sectors one by one. -/
lemma toList_readSector (s : UInt32) (buff : Mem) (one : Nat → Mem) (n : Nat) :
    (boot2uf2ReadSector built files s buff n).toList (n * 512) =
      (List.range n).flatMap fun j =>
        (boot2uf2ReadSector built files (s + UInt32.ofNat j) (one j) 1).toList 512 := by
  rw [Mem.toList_mul]
  refine List.flatMap_congr fun j mem => Mem.toList_congr fun i lt => ?_
  have j_lt := List.mem_range.mp mem
  have quot : (j * 512 + i) / 512 = j := by omega
  have rem : (j * 512 + i) % 512 = i := by omega
  rw [Mem.shift, readSector_byte built s buff (one j) (by omega), quot, rem,
    readSector_one built _ (one j) lt]

end

/-- The disk a host sees: each sector read with a call of its own into some buffer. -/
def disk (built : BuildTime) (files : Files) (buff : Nat → Mem) (n : Nat) : Mem :=
  boot2uf2ReadSector built files (UInt32.ofNat n) (buff n) 1

/-- A byte of a sector. -/
lemma disk_byte (built : BuildTime) {files : Files} (buff : Nat → Mem) (n : Nat) {i : Nat}
    (lt : i < 512) : disk built files buff n i = fillSector built files.list (UInt32.ofNat n)
      (Mem.copy (buff n) 0 512 fun _ => 0) i := by
  rw [disk, readSector_one built _ (buff n) lt, readOne_eq]

end WlhHpm.Bootuf2.Volume

import WlhHpm.Bootuf2.Sectors

/-!
# Where the files lie

`fcalculate_cluster` gives the files consecutive stretches of clusters, in the order of the table; an
empty file gets none, so that its last cluster is the one before its first. `Laid` says this of a
table without the 16-bit arithmetic, and the FAT, the search for the file of a cluster and the data
sectors are then described in its terms.
-/

namespace WlhHpm.Bootuf2.Volume

/-! ## The clusters of the files -/

/-- The files have the clusters from `b` up to `e`, one stretch after the other. -/
structure Laid (b e : Nat) (files : List Bootuf2File) : Prop where
  first : ∀ f ∈ files, b ≤ f.clusterBeg.toNat
  size : ∀ f ∈ files, f.clusterEnd.toNat + 1 = f.clusterBeg.toNat + f.clusters
  order : files.Pairwise fun f g => f.clusterEnd.toNat < g.clusterBeg.toNat
  used : ∀ f ∈ files, f.clusterEnd.toNat < e
  last : ∀ f ∈ files.getLast?, f.clusterEnd.toNat + 1 = e
  none : files = [] → b = e

/-- No files have no clusters. -/
lemma Laid.nil (b : Nat) : Laid b b [] where
  first _ mem := absurd mem List.not_mem_nil
  size _ mem := absurd mem List.not_mem_nil
  order := List.Pairwise.nil
  used _ mem := absurd mem List.not_mem_nil
  last _ mem := absurd mem (Option.not_mem_none _)
  none _ := rfl

/-- One more file in front. -/
lemma Laid.cons {e : Nat} {f : Bootuf2File} {fs : List Bootuf2File}
    (size : f.clusterEnd.toNat + 1 = f.clusterBeg.toNat + f.clusters)
    (le : f.clusterBeg.toNat + f.clusters ≤ e)
    (laid : Laid (f.clusterBeg.toNat + f.clusters) e fs) : Laid f.clusterBeg.toNat e (f :: fs) where
  first := List.forall_mem_cons.mpr
    ⟨le_refl _, fun g mem => (Nat.le_add_right ..).trans (laid.first g mem)⟩
  size := List.forall_mem_cons.mpr ⟨size, laid.size⟩
  order := List.pairwise_cons.mpr ⟨fun g mem => size.trans_le (laid.first g mem), laid.order⟩
  used := List.forall_mem_cons.mpr ⟨size.trans_le le, laid.used⟩
  last := by
    intro g mem
    cases fs with
    | nil =>
      obtain rfl : f = g := Option.some.inj mem
      exact size.trans (laid.none rfl)
    | cons h hs =>
      rw [List.getLast?_cons_cons] at mem
      exact laid.last g mem
  none empty := absurd empty (List.cons_ne_nil f fs)

/-- The number of clusters, computed in 32-bit words. -/
lemma divceil_toNat (v : UInt32) :
    (bootuf2Divceil v (bootuf2Dbr.bytesPerSector.toUInt32 *
      bootuf2Dbr.sectorsPerCluster.toUInt32)).toNat = bootuf2Divceil v.toNat (512 * 2) := by
  have unit : bootuf2Dbr.bytesPerSector.toUInt32 * bootuf2Dbr.sectorsPerCluster.toUInt32 = 1024 := rfl
  have lt := v.toNat_lt
  have rem : v % 1024 = 0 ↔ v.toNat % 1024 = 0 := by
    rw [← UInt32.toNat_inj, UInt32.toNat_mod]
    rfl
  rw [unit, bootuf2Divceil, bootuf2Divceil, UInt32.toNat_add, UInt32.toNat_div]
  simp only [ne_eq, rem]
  have q : (1024 : UInt32).toNat = 1024 := rfl
  split <;> simp only [q, UInt32.toNat_zero, UInt32.toNat_one] <;> omega

/-- The last cluster of a file that starts at `beg`. -/
lemma clusterEnd_toNat {beg : UInt16} {f : Bootuf2File} (one : 1 ≤ beg.toNat)
    (top : beg.toNat + f.clusters ≤ 0xfff0) :
    (beg.toUInt32 - 1 + bootuf2Divceil f.fileSize (bootuf2Dbr.bytesPerSector.toUInt32 *
      bootuf2Dbr.sectorsPerCluster.toUInt32)).toUInt16.toNat + 1 = beg.toNat + f.clusters := by
  have le : (1 : UInt32) ≤ beg.toUInt32 := by
    rw [UInt32.le_iff_toNat_le, UInt16.toNat_toUInt32]
    exact one
  rw [UInt32.toNat_toUInt16, UInt32.toNat_add, UInt32.toNat_sub_of_le _ _ le, divceil_toNat,
    UInt16.toNat_toUInt32, UInt32.toNat_one]
  change _ % _ + 1 = beg.toNat + bootuf2Divceil f.fileSize.toNat (512 * 2)
  change beg.toNat + bootuf2Divceil f.fileSize.toNat (512 * 2) ≤ _ at top
  omega

/-- The clusters that `fcalculate_cluster` gives, as long as they can be named. -/
lemma fcalculateClusterFrom_laid (files : List Bootuf2File) {beg : UInt16} (one : 1 ≤ beg.toNat)
    (top : beg.toNat + (files.map (·.clusters)).sum ≤ 0xfff0) :
    Laid beg.toNat (beg.toNat + (files.map (·.clusters)).sum) (fcalculateClusterFrom beg files) := by
  induction files generalizing beg with
  | nil =>
    rw [fcalculateClusterFrom, List.map_nil, List.sum_nil, Nat.add_zero]
    exact Laid.nil _
  | cons f fs ih =>
    rw [List.map_cons, List.sum_cons, ← Nat.add_assoc] at top ⊢
    have last := clusterEnd_toNat one (f := f) (by omega)
    rw [fcalculateClusterFrom]
    generalize (beg.toUInt32 - 1 + bootuf2Divceil f.fileSize (bootuf2Dbr.bytesPerSector.toUInt32 *
      bootuf2Dbr.sectorsPerCluster.toUInt32)).toUInt16 = stop at last ⊢
    have next : (stop + 1).toNat = beg.toNat + f.clusters := by
      rw [UInt16.toNat_add, ← last, UInt16.toNat_one]
      omega
    have rest := ih (by omega : 1 ≤ (stop + 1).toNat) (by omega)
    rw [next] at rest
    exact Laid.cons (f := { f with clusterBeg := beg, clusterEnd := stop }) last
      (Nat.le_add_right ..) rest

namespace Laid
variable {e : Nat} {files : List Bootuf2File}

/-- Different files have different clusters. -/
lemma apart {b : Nat} (laid : Laid b e files) {f g : Bootuf2File} (mf : f ∈ files) (mg : g ∈ files)
    (ne : f ≠ g) :
    f.clusterEnd.toNat < g.clusterBeg.toNat ∨ g.clusterEnd.toNat < f.clusterBeg.toNat := by
  let Apart (f g : Bootuf2File) : Prop :=
    f.clusterEnd.toNat < g.clusterBeg.toNat ∨ g.clusterEnd.toNat < f.clusterBeg.toNat
  have both : files.Pairwise Apart := laid.order.imp Or.inl
  have : Std.Symm Apart := ⟨fun _ _ => Or.symm⟩
  exact both.forall mf mg ne

/-- No file ends inside another one. -/
lemma end_le {b : Nat} (laid : Laid b e files) {f g : Bootuf2File} (mf : f ∈ files) (mg : g ∈ files)
    (le : f.clusterBeg.toNat ≤ g.clusterEnd.toNat) : f.clusterEnd.toNat ≤ g.clusterEnd.toNat := by
  by_cases same : f = g
  · rw [same]
  · have size := laid.size g mg
    obtain before | after := laid.apart mf mg same <;> omega

/-- The first unused cluster. -/
lemma unused {b : Nat} (laid : Laid b e files) (bound : e ≤ 0xfff0) {f : Bootuf2File}
    (mem : f ∈ files) : (clusterUnused files).toNat = e := by
  obtain ⟨g, isLast⟩ := Option.isSome_iff_exists.mp
    (List.getLast?_isSome.mpr (List.ne_nil_of_mem mem))
  have last := laid.last g isLast
  rw [clusterUnused, isLast, Option.elim_some, UInt16.toNat_add, UInt16.toNat_one, last]
  exact Nat.mod_eq_of_lt (by omega)

/-- The file of a cluster is found. -/
lemma ffind {b : Nat} (laid : Laid b e files) (bound : e ≤ 0xfff0) {f : Bootuf2File}
    (mem : f ∈ files) {c : UInt32} (lo : f.clusterBeg.toNat ≤ c.toNat)
    (hi : c.toNat ≤ f.clusterEnd.toNat) : ffindByCluster files c = some f := by
  have used := laid.used f mem
  have small : ¬ c ≥ 0xFFF0 := by
    rw [ge_iff_le, UInt32.le_iff_toNat_le]
    change ¬ 0xfff0 ≤ c.toNat
    omega
  rw [ffindByCluster, if_neg small]
  have holds (g : Bootuf2File) : (decide (g.clusterBeg.toUInt32 ≤ c ∧ c ≤ g.clusterEnd.toUInt32)) =
      true ↔ g.clusterBeg.toNat ≤ c.toNat ∧ c.toNat ≤ g.clusterEnd.toNat := by
    rw [decide_eq_true_eq, UInt32.le_iff_toNat_le, UInt32.le_iff_toNat_le, UInt16.toNat_toUInt32,
      UInt16.toNat_toUInt32]
  cases found : files.find? fun g => g.clusterBeg.toUInt32 ≤ c ∧ c ≤ g.clusterEnd.toUInt32 with
  | none => exact absurd ((holds f).mpr ⟨lo, hi⟩) (List.find?_eq_none.mp found f mem)
  | some g =>
    have hit := List.find?_some found
    have inside := (holds g).mp hit
    by_cases same : f = g
    · rw [same]
    · obtain before | after := laid.apart mem (List.mem_of_find?_eq_some found) same <;> omega

end Laid

/-! ## The FAT -/

/-- The loop that subtracts the length of a FAT takes the remainder. -/
lemma fatRelative_toNat (s : UInt32) : (fatRelative s).toNat = s.toNat % 256 := by
  have len : bootuf2Dbr.sectorsPerFAT.toUInt32.toNat = 256 := rfl
  fun_induction fatRelative s with
  | case1 s ge ih =>
    have le := UInt32.le_iff_toNat_le.mp ge
    rw [ih, UInt32.toNat_sub_of_le _ _ ge, len]
    omega
  | case2 s lt =>
    have small := UInt32.lt_iff_toNat_lt.mp (UInt32.not_le.mp lt)
    exact (Nat.mod_eq_of_lt small).symm

/-- The links of a FAT sector. -/
lemma le16_fatLink (unused first : UInt16) (m : Mem) {j : Nat} (lt : j < 256) :
    Word.le16 (fatLink unused first m) (2 * j) =
      if first + UInt16.ofNat j ≥ unused then 0 else first + UInt16.ofNat j + 1 := by
  have fill (n : Nat) : Word.le16 ((List.range n).foldl (fun buff i =>
      Word.put16 buff (2 * i) (if first + UInt16.ofNat i ≥ unused then 0
        else first + UInt16.ofNat i + 1)) m) (2 * j) =
      if j < n then (if first + UInt16.ofNat j ≥ unused then 0 else first + UInt16.ofNat j + 1)
      else Word.le16 m (2 * j) := by
    induction n with
    | zero => rfl
    | succ n ih =>
      rw [List.range_succ, List.foldl_append, List.foldl_cons, List.foldl_nil]
      by_cases same : j = n
      · rw [same, Word.le16_put16, if_pos (Nat.lt_succ_self n)]
      · rw [Word.le16_put16_of_ne (by omega), ih]
        simp only [show j < n + 1 ↔ j < n by omega]
  exact (fill 256).trans (if_pos lt)

/-- The end mark of one file in a FAT sector. -/
lemma le16_fatMarkEnd {first : UInt16} (top : first.toNat + 256 ≤ 2 ^ 16) (f : Bootuf2File) (m : Mem)
    {j : Nat} (lt : j < 256) :
    Word.le16 (fatMarkEnd first f m) (2 * j) =
      if f.clusterEnd.toNat = first.toNat + j then 0xffff else Word.le16 m (2 * j) := by
  rw [fatMarkEnd]
  by_cases ge : f.clusterEnd ≥ first
  · have le := UInt16.le_iff_toNat_le.mp ge
    have idx : (f.clusterEnd - first).toNat = f.clusterEnd.toNat - first.toNat :=
      UInt16.toNat_sub_of_le _ _ ge
    have inside : (f.clusterEnd - first).toUInt32 < bootuf2Dbr.fat16PerSector ↔
        f.clusterEnd.toNat - first.toNat < 256 := by
      rw [UInt32.lt_iff_toNat_lt, UInt16.toNat_toUInt32, idx]
      rfl
    simp only [if_pos ge, inside, idx]
    by_cases here : f.clusterEnd.toNat = first.toNat + j
    · have at_j : f.clusterEnd.toNat - first.toNat = j := by omega
      rw [if_pos here, at_j, if_pos lt, Word.le16_put16]
    · rw [if_neg here]
      split
      · exact Word.le16_put16_of_ne (by omega)
      · rfl
  · have small := UInt16.lt_iff_toNat_lt.mp (UInt16.not_le.mp ge)
    rw [if_neg ge, if_neg (by omega)]

/-- The end marks of all files in a FAT sector. -/
lemma le16_fatMarkEnds {first : UInt16} (top : first.toNat + 256 ≤ 2 ^ 16)
    (files : List Bootuf2File) (m : Mem) {j : Nat} (lt : j < 256) :
    Word.le16 (files.foldl (fun buff f => fatMarkEnd first f buff) m) (2 * j) =
      if ∃ f ∈ files, f.clusterEnd.toNat = first.toNat + j then 0xffff else Word.le16 m (2 * j) := by
  induction files generalizing m with
  | nil => simp
  | cons f fs ih =>
    rw [List.foldl_cons, ih, le16_fatMarkEnd top f m lt]
    simp only [List.exists_mem_cons_iff]
    by_cases rest : ∃ g ∈ fs, g.clusterEnd.toNat = first.toNat + j
    · rw [if_pos rest, if_pos (Or.inr rest)]
    · simp only [rest, or_false, if_false]

/-- The first two values are no links. -/
lemma le16_fatHead (m : Mem) {j : Nat} (le : 2 ≤ j) :
    Word.le16 (fatHead m) (2 * j) = Word.le16 m (2 * j) := by
  rw [fatHead, Word.le16_put16_of_ne (by omega), Word.le16, Function.update_of_ne (by omega),
    Function.update_of_ne (by omega), Function.update_of_ne (by omega),
    Function.update_of_ne (by omega), Word.le16]

/-- The value for a cluster in its FAT sector. -/
lemma le16_fatSector (files : List Bootuf2File) (s : UInt32) (m : Mem) {j : Nat} (lt : j < 256)
    (data : 2 ≤ s.toNat % 256 * 256 + j) :
    (Word.le16 (fatSector files s m) (2 * j)).toNat =
      if ∃ f ∈ files, f.clusterEnd.toNat = s.toNat % 256 * 256 + j then 0xffff
      else if (clusterUnused files).toNat ≤ s.toNat % 256 * 256 + j then 0
      else s.toNat % 256 * 256 + j + 1 := by
  have rel := fatRelative_toNat s
  have first : (fatRelative s * bootuf2Dbr.fat16PerSector).toUInt16.toNat = s.toNat % 256 * 256 := by
    have per : bootuf2Dbr.fat16PerSector.toNat = 256 := rfl
    rw [UInt32.toNat_toUInt16, UInt32.toNat_mul, per, rel]
    omega
  rw [fatSector]
  generalize (fatRelative s * bootuf2Dbr.fat16PerSector).toUInt16 = first16 at first ⊢
  have cluster : (first16 + UInt16.ofNat j).toNat = s.toNat % 256 * 256 + j := by
    rw [UInt16.toNat_add, UInt16.toNat_ofNat', first]
    omega
  -- clusters 0 and 1 are the first two of the first sector, and this cluster is a later one
  have head : Word.le16 (if fatRelative s = 0 then fatHead (fatLink (clusterUnused files) first16 m)
      else fatLink (clusterUnused files) first16 m) (2 * j) =
      Word.le16 (fatLink (clusterUnused files) first16 m) (2 * j) := by
    split
    · rename_i zero
      rw [zero, UInt32.toNat_zero] at rel
      exact le16_fatHead _ (by omega)
    · rfl
  rw [le16_fatMarkEnds (by omega) files _ lt, head, le16_fatLink _ _ m lt, first]
  by_cases marked : ∃ f ∈ files, f.clusterEnd.toNat = s.toNat % 256 * 256 + j
  · rw [if_pos marked, if_pos marked]
    rfl
  · rw [if_neg marked, if_neg marked, ← cluster]
    simp only [ge_iff_le, UInt16.le_iff_toNat_le]
    split
    · rfl
    · rw [UInt16.toNat_add, UInt16.toNat_one]
      rename_i below
      have small := (clusterUnused files).toNat_lt
      exact Nat.mod_eq_of_lt (by omega)

/-! ## The data -/

/-- The bytes of a file, with zeros after them. -/
lemma ofList_bytes (f : Bootuf2File) (k : Nat) :
    Mem.ofList f.bytes k = if k < f.fileSize.toNat then f.contentMem k else 0 := by
  rw [Mem.ofList, Bootuf2File.bytes, List.getD_eq_getElem?_getD, List.getElem?_take]
  split
  · rw [Bootuf2File.contentMem, Mem.ofList, List.getD_eq_getElem?_getD]
  · rfl

/-- A file fits in its clusters. -/
lemma fileSize_le (f : Bootuf2File) : f.fileSize.toNat ≤ f.clusters * (2 * 512) := by
  change _ ≤ bootuf2Divceil f.fileSize.toNat (512 * 2) * (2 * 512)
  rw [bootuf2Divceil]
  split <;> omega

/-- Where sector `j` of a file starts in its contents. -/
lemma fcontentOffset_toNat {f : Bootuf2File} (first : 2 ≤ f.clusterBeg.toNat) {s : UInt32} {j : Nat}
    (at_j : s.toNat = (f.clusterBeg.toNat - 2) * 2 + j) (small : j < 2 ^ 23) :
    ((s - (f.clusterBeg.toUInt32 - 2) * 2) * 512 : UInt32).toNat = j * 512 := by
  have le : (2 : UInt32) ≤ f.clusterBeg.toUInt32 := by
    rw [UInt32.le_iff_toNat_le, UInt16.toNat_toUInt32]
    exact first
  have lt := f.clusterBeg.toNat_lt
  have start : ((f.clusterBeg.toUInt32 - 2) * 2 : UInt32).toNat = (f.clusterBeg.toNat - 2) * 2 := by
    rw [UInt32.toNat_mul, UInt32.toNat_sub_of_le _ _ le, UInt16.toNat_toUInt32]
    change (_ - 2) * 2 % _ = _
    omega
  have before : ((f.clusterBeg.toUInt32 - 2) * 2 : UInt32) ≤ s := by
    rw [UInt32.le_iff_toNat_le, start]
    omega
  rw [UInt32.toNat_mul, UInt32.toNat_sub_of_le _ _ before, start]
  change _ * 512 % _ = _
  omega

/-- How much of a sector is copied. -/
lemma copySize_toNat (rest : UInt32) :
    (if rest > 512 then 512 else rest).toNat = min 512 rest.toNat := Word.toNat_ite_lt 512 rest

/-- Sector `j` of a file. -/
lemma dataSector_file {e : Nat} {files : List Bootuf2File} (laid : Laid 2 e files)
    (bound : e ≤ 0xfff0) {f : Bootuf2File} (mem : f ∈ files) {j : Nat} (lt : j < f.clusters * 2)
    {s : UInt32} (at_j : s.toNat = (f.clusterBeg.toNat - 2) * 2 + j) (m : Mem) {i : Nat}
    (small : i < 512) :
    dataSector files s (m.copy 0 512 fun _ => 0) i = Mem.ofList f.bytes (j * 512 + i) := by
  have first := laid.first f mem
  have size := laid.size f mem
  have used := laid.used f mem
  have cluster : (2 + s / 2 : UInt32).toNat = f.clusterBeg.toNat + j / 2 := by
    rw [UInt32.toNat_add, UInt32.toNat_div, at_j]
    change (2 + _ / 2) % _ = _
    omega
  have found := laid.ffind bound mem (c := 2 + s / 2) (by omega) (by omega)
  have offset := fcontentOffset_toNat first at_j (by omega)
  have two : bootuf2Dbr.sectorsPerCluster.toUInt32 = 2 := rfl
  have sector : bootuf2Dbr.bytesPerSector.toUInt32 = 512 := rfl
  rw [ofList_bytes, dataSector, two, found]
  simp only [sector]
  generalize ((s - (f.clusterBeg.toUInt32 - 2) * 2) * 512 : UInt32) = off at offset ⊢
  by_cases more : f.fileSize > off
  · have left := UInt32.lt_iff_toNat_lt.mp more
    rw [if_pos more, copySize_toNat, UInt32.toNat_sub_of_le _ _ (UInt32.le_of_lt more), offset]
    by_cases inside : j * 512 + i < f.fileSize.toNat
    · rw [if_pos inside, Mem.copy_in (Nat.zero_le i) (by omega), Mem.shift, Nat.sub_zero]
    · rw [if_neg inside, Mem.copy_out (by omega), Mem.copy_in (Nat.zero_le i) (by omega)]
  · have stop := UInt32.le_iff_toNat_le.mp (UInt32.not_lt.mp more)
    rw [if_neg more, if_neg (by omega), Mem.copy_in (Nat.zero_le i) (by omega)]

end WlhHpm.Bootuf2.Volume

import WlhHpm.Bootuf2.Step

/-!
# The UF2 packer

Model of `tools/uf2_pack.py`. `main` takes the bytes of the application and returns the blocks it
writes to the output file, in order, or the message with which it exits; reading and writing the
files themselves and the closing `print` are left out. Python's integers are unbounded, and
`struct.pack` of a word that is out of range would raise; no field of a packed block is out of range
(`ofBuff_block` reads them all back).

`ofBuff_block` is the link to the bootloader: a sector buffer that holds a packed block shows the
block's fields through the struct overlay of `bootuf2.c`.
-/

namespace WlhHpm.Bootuf2

/-- A sector shows the `i`-th of `n` blocks of the byte stream `img`. -/
structure Shows (img : Mem) (n i : Nat) (uf2 : Bootuf2Block) : Prop where
  accepts : Accepts uf2
  total : uf2.numberOfBlock.toNat = n
  index : uf2.blockIndex.toNat = i
  size : uf2.payloadSize = 256
  target : uf2.targetAddress.toNat = 0x80020000 + 256 * i
  data : ∀ j < 256, uf2.data j = img (256 * i + j)

end WlhHpm.Bootuf2

namespace WlhHpm.Uf2Pack
open WlhHpm.Bootuf2

def xpi0Base : Nat := 0x80000000
def appOffset : Nat := 0x00020000
def appSize : Nat := 0x00360000
def appStart : Nat := xpi0Base + appOffset
def familyId : UInt32 := 0x0A4D5048
def payload : Nat := 256

def magic0 : UInt32 := 0x0A324655
def magic1 : UInt32 := 0x9E5D5157
def magicEnd : UInt32 := 0x0AB16F30
def flagFamilyId : UInt32 := 0x00002000

/-- Little-endian words one after the other (`struct.pack` with format `"<nI"`). -/
def structPack (ws : List UInt32) : List UInt8 := ws.flatMap Word.le32Bytes

/-- The application padded with `0xff` to whole payloads. -/
def padded (image : List UInt8) : List UInt8 :=
  image ++ List.replicate (-(image.length : Int) % payload).toNat 0xff

/-- Number of blocks. -/
def count (image : List UInt8) : Nat := (padded image).length / payload

/-- Header words of a block. -/
def header (index count : Nat) : List UInt32 :=
  [magic0, magic1, flagFamilyId, UInt32.ofNat (appStart + index * payload), UInt32.ofNat payload,
    UInt32.ofNat index, UInt32.ofNat count, familyId]

/-- One block of the output. -/
def block (padded : List UInt8) (count index : Nat) : List UInt8 :=
  structPack (header index count) ++ (padded.drop (index * payload)).take payload ++
    (List.replicate (476 - payload) 0 ++ structPack [magicEnd])

/-- Package an application (Python `main`). -/
def main (image : List UInt8) : Except String (List (List UInt8)) :=
  if image = [] then .error "refusing to package an empty application"
  else if image.length > appSize then
    .error s!"application is {image.length} bytes; app partition is {appSize} bytes"
  else .ok ((List.range (count image)).map (block (padded image) (count image)))

/-! ## The packed image -/

/-- The packer pads up to a multiple of the payload size. -/
lemma length_padded (image : List UInt8) :
    (padded image).length = image.length + (-(image.length : Int) % payload).toNat := by
  simp [padded]

/-- The padded length is the next multiple of the payload size. -/
lemma padded_length (image : List UInt8) : (padded image).length = payload * count image := by
  have e := length_padded image
  unfold count
  unfold payload at e ⊢
  omega

/-- The padded image starts with the image. -/
lemma padded_replicate {n a : Nat} {x : UInt8} (lt : a < n) :
    (padded (List.replicate n x))[a]? = some x := by
  rw [padded, List.getElem?_append_left (by simpa using lt), List.getElem?_replicate_of_lt lt]

/-- The number of blocks of an application, by its length. -/
lemma count_eq (image : List UInt8) : count image = (image.length + 255) / 256 := by
  have e := length_padded image
  unfold count
  unfold payload at e ⊢
  omega

/-- What the packer accepts, and what it then writes. -/
lemma main_ok_iff {image : List UInt8} {blocks} :
    main image = .ok blocks ↔
      0 < image.length ∧ image.length ≤ appSize ∧
        blocks = (List.range (count image)).map (block (padded image) (count image)) := by
  unfold main
  by_cases empty : image = []
  · simp [empty]
  · have pos := List.length_pos_iff.mpr empty
    rw [if_neg empty]
    by_cases big : image.length > appSize
    · rw [if_pos big]
      simp only [reduceCtorEq, false_iff, not_and]
      omega
    · rw [if_neg big, Except.ok.injEq]
      simp only [pos, true_and, eq_comm (a := blocks)]
      exact (and_iff_right (by omega)).symm

/-- The number of blocks of an accepted application. -/
lemma count_bounds {image : List UInt8} {blocks} (packed : main image = .ok blocks) :
    0 < count image ∧ count image ≤ 13824 := by
  obtain ⟨pos, le, -⟩ := main_ok_iff.mp packed
  rw [count_eq]
  unfold appSize at le
  omega

/-! ## Reading a packed block back -/

/-- A word of a packed sequence. -/
lemma structPack_get {ws : List UInt32} {k j} (hk : k < ws.length) (hj : j < 4) :
    (structPack ws)[4 * k + j]? = (Word.le32Bytes ws[k])[j]? := by
  induction ws generalizing k with
  | nil => exact absurd hk (Nat.not_lt_zero _)
  | cons x ws ih =>
    rw [structPack, List.flatMap_cons, ← structPack]
    cases k with
    | zero =>
      rw [Nat.mul_zero, Nat.zero_add, List.getElem?_append_left (by simpa using hj)]
      rfl
    | succ k =>
      rw [List.getElem?_append_right (by simp only [Word.le32Bytes_length]; omega),
        show 4 * (k + 1) + j - (Word.le32Bytes x).length = 4 * k + j by
          simp only [Word.le32Bytes_length]; omega]
      exact ih (by simpa using hk)

/-- A word takes four bytes. -/
@[simp] lemma structPack_length (ws : List UInt32) : (structPack ws).length = 4 * ws.length := by
  induction ws with
  | nil => rfl
  | cons x ws ih =>
    rw [structPack, List.flatMap_cons, ← structPack, List.length_append, ih]
    simp only [Word.le32Bytes_length, List.length_cons]
    omega

/-- A packed sequence in memory reads back word by word. -/
lemma le32_structPack (m : Mem) (a : Nat) (ws : List UInt32)
    (h : ∀ j < 4 * ws.length, some (m (a + j)) = (structPack ws)[j]?) {k} (hk : k < ws.length) :
    Word.le32 m (a + 4 * k) = ws[k] := by
  apply Word.le32_of_bytes
  intro j hj
  have lt : j < 4 := hj
  have e := h (4 * k + j) (by omega)
  rw [structPack_get hk lt, List.getElem?_eq_getElem hj, Option.some_inj] at e
  rw [Nat.add_assoc, e]

/-- A buffer whose first bytes are a given list, byte by byte. -/
lemma toList_get {m : Mem} {n : Nat} {l : List UInt8} (h : m.toList n = l) {j} (hj : j < n) :
    some (m j) = l[j]? := by
  rw [← h, Mem.toList, List.getElem?_map, List.getElem?_range hj]
  rfl

/-- The header words of a buffer that holds a packed block. -/
lemma header_of_block {buff : Mem} {p : List UInt8} {n i : Nat}
    (h : buff.toList 512 = block p n i) {k} (hk : k < 8) :
    Word.le32 buff (4 * k) = (header i n)[k] := by
  have e := le32_structPack buff 0 (header i n) ?_ (k := k) hk
  · simpa using e
  · intro j hj
    have lt : j < 32 := hj
    rw [Nat.zero_add, toList_get h (by omega), block, List.append_assoc,
      List.getElem?_append_left (by rw [structPack_length]; exact hj)]

/-- The payload of a buffer that holds a packed block. -/
lemma data_of_block {buff : Mem} {p : List UInt8} {n i : Nat} (h : buff.toList 512 = block p n i)
    (long : payload * i + payload ≤ p.length) {j} (hj : j < payload) :
    buff (32 + j) = Mem.ofList p (payload * i + j) := by
  unfold payload at *
  have len : (structPack (header i n)).length = 32 := structPack_length _
  have e := toList_get h (j := 32 + j) (by omega)
  rw [block, List.append_assoc, List.getElem?_append_right (by omega), len, Nat.add_sub_cancel_left,
    List.getElem?_append_left (by simp only [List.length_take, List.length_drop, payload]; omega),
    List.getElem?_take_of_lt (by exact hj), List.getElem?_drop, payload, Nat.mul_comm,
    List.getElem?_eq_getElem (by omega), Option.some_inj] at e
  rw [e, Mem.ofList_get (by omega)]

/-- A packed block up to its closing word. -/
lemma block_body_length {p : List UInt8} {n i : Nat} (long : payload * i + payload ≤ p.length) :
    (structPack (header i n) ++ (p.drop (i * payload)).take payload ++
      List.replicate (476 - payload) 0).length = 508 := by
  unfold payload at long
  simp only [List.length_append, structPack_length, List.length_take, List.length_drop, payload,
    List.length_replicate, header, List.length_cons, List.length_nil]
  omega

/-- A packed block fills a sector. -/
lemma block_length {p : List UInt8} {n i : Nat} (lt : i < n) (long : p.length = payload * n) :
    (block p n i).length = 512 := by
  have fits : payload * i + payload ≤ p.length := by
    rw [long, ← Nat.mul_succ]
    exact Nat.mul_le_mul_left _ lt
  rw [block, ← List.append_assoc, List.length_append, block_body_length fits]
  rfl

/-- The closing word of a buffer that holds a packed block. -/
lemma magicEnd_of_block {buff : Mem} {p : List UInt8} {n i : Nat}
    (h : buff.toList 512 = block p n i) (long : payload * i + payload ≤ p.length) :
    Word.le32 buff 508 = magicEnd := by
  have len := block_body_length (n := n) long
  have e := le32_structPack buff 508 [magicEnd] ?_ (k := 0) (by simp)
  · simpa using e
  · intro j hj
    have lt : j < 4 := hj
    rw [toList_get h (by omega), block, ← List.append_assoc, List.getElem?_append_right (by omega),
      len, Nat.add_sub_cancel_left]

/-- A buffer that holds a packed block shows it to the bootloader. -/
theorem ofBuff_block {buff : Mem} {p : List UInt8} {n i : Nat} (h : buff.toList 512 = block p n i)
    (lt : i < n) (small : n ≤ 13824) (long : p.length = payload * n) :
    Shows (Mem.ofList p) n i (.ofBuff buff) := by
  have fits : payload * i + payload ≤ p.length := by
    rw [long, ← Nat.mul_succ]
    exact Nat.mul_le_mul_left _ lt
  have word {k} (hk : k < 8) := header_of_block h hk
  have target : (Bootuf2Block.ofBuff buff).targetAddress = UInt32.ofNat (appStart + i * payload) :=
    word (k := 3) (by decide)
  have total : (Bootuf2Block.ofBuff buff).numberOfBlock = UInt32.ofNat n :=
    word (k := 6) (by decide)
  have index : (Bootuf2Block.ofBuff buff).blockIndex = UInt32.ofNat i := word (k := 5) (by decide)
  have flags : (Bootuf2Block.ofBuff buff).flags = flagFamilyId := word (k := 2) (by decide)
  refine ⟨⟨⟨word (k := 0) (by decide), word (k := 1) (by decide), magicEnd_of_block h fits, ?_, ?_⟩,
    word (k := 7) (by decide)⟩, ?_, ?_, word (k := 4) (by decide), ?_, ?_⟩
  · rw [flags]
    decide
  · rw [flags]
    decide
  · rw [total, UInt32.toNat_ofNat']
    omega
  · rw [index, UInt32.toNat_ofNat']
    omega
  · rw [target, UInt32.toNat_ofNat']
    unfold appStart xpi0Base appOffset payload
    omega
  · intro j hj
    exact data_of_block h fits hj

end WlhHpm.Uf2Pack

import Mathlib.Data.List.DropRight
import Mathlib.Order.Fin.Basic
import WlhHpm.Lib.Intervals

/-!
# The generator of the partition table

Model of `tools/gen_part_table.py` up to the point where it writes a header: `parse_size` and
`parse_table` read the rows of `part_table.md`, `validate` looks for partitions of one flash that
overlap. A `ValueError` is its text. A file is the list of its lines and a line the list of its
characters; what the generator takes from the Unicode tables of the interpreter is a parameter
(`Unicode`).

A `Row` has a positive length: `parse_table` refuses any other, and without it `validate` would miss
partitions that overlap, since it compares a partition only with the next one by offset
(`validate_raises_iff`). What comes out of `parse_table` and passes `validate` has no two partitions
that take the same byte of a flash (`readTable_apart`).
-/

namespace WlhHpm.PartTable

/-- What Python's `\d`, `int` and `repr` look up in the Unicode tables of the interpreter. -/
structure Unicode where
  decimal : Char → Option Nat
  printable : Char → Bool

/-- Python's `str.isspace` for one character. -/
def isSpace (c : Char) : Bool :=
  let n := c.toNat
  (9 ≤ n && n ≤ 13) || (28 ≤ n && n ≤ 32) || (0x2000 ≤ n && n ≤ 0x200a) ||
    [0x85, 0xa0, 0x1680, 0x2028, 0x2029, 0x202f, 0x205f, 0x3000].contains n

/-- Python's `str.strip`, with the characters to drop. -/
def strip (drop : Char → Bool) (text : List Char) : List Char := (text.dropWhile drop).rdropWhile drop

/-- The hexadecimal digits of a number, at least `width` of them. -/
def hexDigits (width n : Nat) : List Char := (Nat.toDigits 16 n).leftpad width '0'

/-- A character inside the quotes of Python's `repr`. -/
def reprChar (u : Unicode) (quote c : Char) : List Char :=
  let n := c.toNat
  if c = quote ∨ n = 0x5c then [Char.ofNat 0x5c, c]
  else if n = 9 then [Char.ofNat 0x5c, 't']
  else if n = 10 then [Char.ofNat 0x5c, 'n']
  else if n = 13 then [Char.ofNat 0x5c, 'r']
  else if u.printable c then [c]
  else if n < 0x100 then [Char.ofNat 0x5c, 'x'] ++ hexDigits 2 n
  else if n < 0x10000 then [Char.ofNat 0x5c, 'u'] ++ hexDigits 4 n
  else [Char.ofNat 0x5c, 'U'] ++ hexDigits 8 n

/-- Python's `repr` of a string: in single quotes, unless it has some and no double quotes. -/
def repr (u : Unicode) (text : List Char) : String :=
  let single := Char.ofNat 0x27
  let double := Char.ofNat 0x22
  let quote := if text.contains single && !text.contains double then double else single
  String.ofList ([quote] ++ text.flatMap (reprChar u quote) ++ [quote])

/-! ## Reading the table -/

/-- A size with its unit, in bytes and as a C expression (Python `parse_size`). -/
def parseSize (u : Unicode) (text : List Char) (loc : String) : Except String (Nat × String) :=
  let stripped := strip isSpace text
  let digits := stripped.takeWhile fun c => (u.decimal c).isSome
  let unit := (stripped.drop digits.length).dropWhile isSpace
  let n := (digits.filterMap u.decimal).foldl (fun n d => 10 * n + d) 0
  if digits = [] then .error (loc ++ ": 无法解析大小/偏移: " ++ repr u text)
  else if unit = ['k'] ∨ unit = ['K'] then .ok (n * 1024, toString n ++ "*1024")
  else if unit = ['m'] ∨ unit = ['M'] then .ok (n * 1024 * 1024, toString n ++ "*1024*1024")
  else if unit = [] then .ok (n, toString n)
  else .error (loc ++ ": 无法解析大小/偏移: " ++ repr u text)

/-- A row of the table. -/
structure Row where
  name : String
  flashName : String
  offset : Nat
  offsetExpr : String
  len : Nat
  lenExpr : String
  len_pos : 0 < len

/-- A cell of the line under the heading (`:?-+:?`). -/
def isRule (cell : List Char) : Bool :=
  let dashes := if cell.head? = some ':' then cell.tail else cell
  dashes.head? = some '-' && [[], [':']].contains (dashes.dropWhile (· == '-'))

/-- The heading of the table. -/
def isHeading (name flashName : List Char) : Bool :=
  ["name", "Name"].contains (String.ofList name) &&
    ["flash_name", "flash name"].contains (String.ofList flashName)

/-- One pass of the loop of `parse_table`; `none` where it goes on without a row. -/
def parseLine (u : Unicode) (mdPath : String) (lineno : Nat) (raw : List Char) :
    Except String (Option Row) := do
  let line := strip isSpace raw
  let loc := mdPath ++ ":" ++ toString lineno
  if line.head? ≠ some '|' then return none
  let cells := ((strip (· == '|') line).splitOn '|').map (strip isSpace)
  match cells with
  | name :: flashName :: offsetText :: lenText :: _ =>
    if cells.all isRule then return none
    if isHeading name flashName then return none
    let (offSize, offExpr) ← parseSize u offsetText loc
    let (lenSize, lenExpr) ← parseSize u lenText loc
    if pos : 0 < lenSize then
      return some
        { name := String.ofList name
          flashName := String.ofList flashName
          offset := offSize
          offsetExpr := offExpr
          len := lenSize
          lenExpr := lenExpr
          len_pos := pos }
    else throw (loc ++ ": 分区长度必须大于 0: " ++ repr u lenText)
  | _ => return none

/-- The rows of the file (Python `parse_table`). -/
def parseTable (u : Unicode) (mdPath : String) (lines : List (List Char)) :
    Except String (List Row) := do
  let rows ← (lines.zipIdx 1).filterMapM fun (raw, lineno) => parseLine u mdPath lineno raw
  if rows.isEmpty then throw (mdPath ++ ": 未解析到任何分区行")
  return rows

/-! ## Validation -/

/-- The rows of each flash (Python `group_by_flash`). -/
def groupByFlash (rows : List Row) : List (String × List Row) := Intervals.groupBy Row.flashName rows

/-- The text of the error for two partitions that overlap. -/
def overlapText (u : Unicode) (flashName : String) (prev cur : Row) : String :=
  "分区 " ++ repr u prev.name.toList ++ " 与 " ++ repr u cur.name.toList ++ " 在 flash " ++
    repr u flashName.toList ++ " 上重叠：" ++ prev.name ++ " 范围 [0x" ++
    String.ofList (Nat.toDigits 16 prev.offset) ++ ", +" ++ prev.lenExpr ++ ")，" ++ cur.name ++
    " 偏移 " ++ cur.offsetExpr

/-- The inner loop of `validate`, over the pairs of neighbours. -/
def checkNeighbours (u : Unicode) (flashName : String) : List (Row × Row) → Except String Unit
  | [] => .ok ()
  | (prev, cur) :: pairs =>
    if cur.offset < prev.offset + prev.len then .error (overlapText u flashName prev cur)
    else checkNeighbours u flashName pairs

/-- One pass of the outer loop of `validate`. -/
def checkFlash (u : Unicode) (flashName : String) (parts : List Row) : Except String Unit :=
  let parts := parts.mergeSort fun p q => p.offset ≤ q.offset
  checkNeighbours u flashName (parts.zip parts.tail)

/-- Look for partitions that overlap (Python `validate`). -/
def validate (u : Unicode) (rows : List Row) : Except String Unit :=
  (groupByFlash rows).forM fun (flashName, parts) => checkFlash u flashName parts

/-- What `main` does before it writes anything: read the table and validate it. -/
def readTable (u : Unicode) (mdPath : String) (lines : List (List Char)) :
    Except String (List Row) := do
  let rows ← parseTable u mdPath lines
  validate u rows
  return rows

/-! ## What the validation decides -/

/-- The validation ends with an error. -/
def Raises (result : Except String Unit) : Prop := ∃ text, result = .error text

/-- The bytes of its flash that a row takes, from its offset on. -/
def Row.range (r : Row) : Set Nat := Set.Ico r.offset (r.offset + r.len)

/-- Two rows of one flash that take a byte in common. -/
def Clash (p q : Row) : Prop := p.flashName = q.flashName ∧ (p.range ∩ q.range).Nonempty

/-- Two different rows of the table clash. -/
def HasClash (rows : List Row) : Prop :=
  ∃ i j : Fin rows.length, i ≠ j ∧ Clash (rows.get i) (rows.get j)

/-- The first byte behind a row. -/
def Row.stop (r : Row) : Nat := r.offset + r.len

/-- A row takes at least one byte. -/
lemma Row.offset_lt_stop (r : Row) : r.offset < r.stop := Nat.lt_add_of_pos_right r.len_pos

/-- The validation ends with or without an error. -/
lemma raises_iff (result : Except String Unit) : Raises result ↔ result ≠ .ok () := by
  cases result with
  | ok => simp [Raises]
  | error text => simp [Raises]

/-- The pairs of neighbours are a chain. -/
lemma checkNeighbours_ok_iff (u : Unicode) (flashName : String) (parts : List Row) :
    checkNeighbours u flashName (parts.zip parts.tail) = .ok () ↔
      parts.IsChain (Intervals.Before Row.offset Row.stop) := by
  induction parts using List.twoStepInduction with
  | nil => exact ⟨fun _ => .nil, fun _ => rfl⟩
  | singleton p => exact ⟨fun _ => .singleton p, fun _ => rfl⟩
  | cons_cons p q parts _ ih =>
    rw [List.isChain_cons_cons, ← ih, List.tail_cons, List.zip_cons_cons, checkNeighbours]
    split
    · rename_i overlap
      constructor
      · intro h
        cases h
      · rintro ⟨before, -⟩
        exact absurd before (Nat.not_le.mpr overlap)
    · rename_i apart
      exact ⟨fun h => ⟨Nat.not_lt.mp apart, h⟩, fun h => h.2⟩

/-- One flash: the neighbours by offset are apart exactly when any two partitions are. -/
lemma checkFlash_ok_iff (u : Unicode) (flashName : String) (parts : List Row) :
    checkFlash u flashName parts = .ok () ↔
      parts.Pairwise (Intervals.Apart Row.offset Row.stop) := by
  have sorted : (parts.mergeSort fun p q => p.offset ≤ q.offset).Pairwise
      fun p q => p.offset ≤ q.offset := by
    refine (List.pairwise_mergeSort ?_ ?_ parts).imp of_decide_eq_true
    · intro p q r pq qr
      exact decide_eq_true ((of_decide_eq_true pq).trans (of_decide_eq_true qr))
    · intro p q
      simpa using Nat.le_total p.offset q.offset
  rw [checkFlash, checkNeighbours_ok_iff,
    Intervals.isChain_before_iff Row.offset_lt_stop sorted,
    (List.mergeSort_perm _ _).pairwise_iff Intervals.Apart.symm]

/-- A loop succeeds if every pass does. -/
lemma forM_ok_iff {α : Type} (f : α → Except String Unit) (l : List α) :
    l.forM f = .ok () ↔ ∀ a ∈ l, f a = .ok () := by
  induction l with
  | nil => simp [List.forM, pure, Except.pure]
  | cons a l ih =>
    rw [List.forall_mem_cons, ← ih, List.forM]
    cases f a with
    | ok => exact ⟨fun h => ⟨rfl, h⟩, fun h => h.2⟩
    | error text =>
      constructor
      · intro h
        cases h
      · rintro ⟨h, -⟩
        cases h

/-- The whole table: rows of one flash are apart. -/
lemma validate_ok_iff (u : Unicode) (rows : List Row) :
    validate u rows = .ok () ↔
      rows.Pairwise fun p q => p.flashName = q.flashName → Intervals.Apart Row.offset Row.stop p q := by
  rw [validate, forM_ok_iff, ← Intervals.pairwise_groupBy]
  exact forall₂_congr fun group _ => checkFlash_ok_iff u group.1 group.2

/-- A clash has two sides. -/
lemma Clash.symm {p q : Row} (clash : Clash p q) : Clash q p :=
  ⟨clash.1.symm, by rw [Set.inter_comm]; exact clash.2⟩

/-- Two rows that do not clash are on different flashes or apart. -/
lemma not_clash_iff (p q : Row) :
    ¬ Clash p q ↔ (p.flashName = q.flashName → Intervals.Apart Row.offset Row.stop p q) := by
  rw [Clash, not_and, Set.not_nonempty_iff_eq_empty]
  rfl

/-- A table without a clash, pair by pair. -/
lemma not_hasClash_iff (rows : List Row) : ¬ HasClash rows ↔ rows.Pairwise fun p q => ¬ Clash p q := by
  rw [List.pairwise_iff_get]
  constructor
  · intro none i j lt clash
    exact none ⟨i, j, ne_of_lt lt, clash⟩
  · rintro all ⟨i, j, ne, clash⟩
    rcases lt_or_gt_of_ne ne with lt | gt
    · exact all i j lt clash
    · exact all j i gt clash.symm

/-- The order of the rows does not matter. -/
lemma hasClash_perm {rows rows' : List Row} (perm : rows.Perm rows') :
    HasClash rows' ↔ HasClash rows := by
  rw [← not_iff_not, not_hasClash_iff, not_hasClash_iff]
  exact (perm.pairwise_iff fun apart clash => apart clash.symm).symm

/-- The validation ends with an error exactly when two rows clash. -/
lemma validate_raises (u : Unicode) (rows : List Row) : Raises (validate u rows) ↔ HasClash rows := by
  rw [raises_iff, Ne, not_iff_comm, not_hasClash_iff, validate_ok_iff]
  simp only [not_clash_iff]

/-- A table has a clash when the rows of one of its flashes have one. -/
lemma hasClash_iff_flash (rows : List Row) :
    HasClash rows ↔ ∃ flash, HasClash (rows.filter fun r => r.flashName = flash) := by
  rw [← not_iff_not, not_exists]
  simp only [not_hasClash_iff]
  rw [Intervals.pairwise_filter_key]
  refine List.Pairwise.iff fun p q => ?_
  exact ⟨fun h _ => h, fun h clash => h clash.1 clash⟩

/-- The validation of a table ends with an error exactly when two different rows of the same flash
    overlap. Every flash is looked at by itself, and the order of the rows does not matter. -/
theorem validate_raises_iff (u : Unicode) (rows rows' : List Row) (perm : rows.Perm rows') :
    (Raises (validate u rows) ↔ HasClash rows) ∧
      (Raises (validate u rows) ↔
        ∃ flash, Raises (validate u (rows.filter fun r => r.flashName = flash))) ∧
      (Raises (validate u rows') ↔ Raises (validate u rows)) := by
  refine ⟨validate_raises u rows, ?_, ?_⟩
  · simp only [validate_raises]
    exact hasClash_iff_flash rows
  · simp only [validate_raises]
    exact hasClash_perm perm

/-- The digits and the printable characters of ASCII. -/
def ascii : Unicode where
  decimal c := if c.isDigit then some (c.toNat - 48) else none
  printable c := 32 ≤ c.toNat && c.toNat < 127

/-- A row whose sizes are in bytes. -/
def plainRow (name flashName : String) (offset len : Nat) (pos : 0 < len) : Row :=
  { name := name, flashName := flashName, offset := offset, offsetExpr := toString offset, len := len,
    lenExpr := toString len, len_pos := pos }

/-- A partition that covers two others, of which only the first is its neighbour, and one on another
    flash at the same place. -/
def coveredRows : List Row :=
  [plainRow "c" "onchip" 30 10 (by decide), plainRow "bl" "onchip" 0 100 (by decide),
    plainRow "fs" "norflash0" 0 50 (by decide), plainRow "b" "onchip" 10 10 (by decide)]

/-- Rows that are no neighbours are found to clash. -/
theorem validate_raises_iff_covered :
    HasClash coveredRows ∧ Raises (validate ascii coveredRows.reverse) := by
  have clash : HasClash coveredRows :=
    ⟨⟨0, by decide⟩, ⟨1, by decide⟩, by decide, rfl, 30, Set.mem_Ico.mpr (by decide),
      Set.mem_Ico.mpr (by decide)⟩
  obtain ⟨raises, -, order⟩ :=
    validate_raises_iff ascii coveredRows coveredRows.reverse coveredRows.reverse_perm.symm
  exact ⟨clash, order.mpr (raises.mpr clash)⟩

/-- A table that is read without an error has no two rows that clash. -/
theorem readTable_apart {u : Unicode} {mdPath : String} {lines : List (List Char)} {rows : List Row}
    (ok : readTable u mdPath lines = .ok rows) : ¬ HasClash rows := by
  rw [readTable] at ok
  cases parsed : parseTable u mdPath lines with
  | error text =>
    rw [parsed] at ok
    cases ok
  | ok rows₁ =>
    rw [parsed] at ok
    cases valid : validate u rows₁ with
    | error text =>
      change (validate u rows₁ >>= fun _ => pure rows₁) = _ at ok
      rw [valid] at ok
      cases ok
    | ok =>
      change (validate u rows₁ >>= fun _ => pure rows₁) = _ at ok
      rw [valid] at ok
      cases ok
      rw [← validate_raises u, raises_iff]
      exact fun ne => ne valid

end WlhHpm.PartTable

import ExamPress.Proofs.Outcome
import ExamPress.Proofs.Table.Places
import ExamPress.Proofs.Xml.RoundTrip
import Mathlib.Data.List.Nodup

/-! # Reading sheets

The text forms of the rows of a sheet are read back. Each cell tells by its name where it stands,
and by its type and its elements what it holds. A table that can be written is found in its sheet:
the arrays among its items are the rows, and the cell at a place shows the value there
(`read_write_ofItems`). -/

namespace ExamPress.Table

open Xml

/-! ### The reader -/

/-- What a cell holds. A number is what is written of it. -/
inductive Entry where
  | text (content : Text)
  | error (code : Text)
  | number (written : Text)
  | boolean (value : Bool)
  | formula
deriving DecidableEq, Repr

/-- A cell that is read: its name, and what it holds. -/
structure SheetCell where
  name : Text
  entry : Entry
deriving DecidableEq, Repr

/-- A row that is read: its number, and its cells. -/
structure SheetRow where
  number : Nat
  cells : List SheetCell
deriving DecidableEq, Repr

/-- Whether a piece is the formula of a cell. -/
def isFormula : Xml → Bool
  | .element "f" _ _ => true
  | _ => false

/-- What the value of a cell of a type stands for. -/
def entryOfValue (type value : Text) : Option Entry :=
  if type = "e".toText then some (.error value)
  else if type = "n".toText then some (.number value)
  else if type = "b".toText then
    if value = "1".toText then some (.boolean true)
    else if value = "0".toText then some (.boolean false)
    else none
  else none

/-- What the content of a cell of a type stands for. -/
def readEntry (type : Text) (content : List Xml) : Option Entry :=
  if content.any isFormula then some .formula
  else
    match content with
    | [] => if type = "inlineStr".toText then some (.text []) else none
    | [.element "is" _ [.element "t" _ pieces]] =>
      if type = "inlineStr".toText then (readEach readPlain pieces).map .text else none
    | [.element "v" _ pieces] => (readEach readPlain pieces).bind (entryOfValue type)
    | _ => none

/-- The cell of an element. -/
def readCell : Xml → Option (List SheetCell)
  | .element "c" attributes content => do
    let name ← attributes.lookup "r"
    let type ← attributes.lookup "t"
    let entry ← readEntry type content
    return [⟨name, entry⟩]
  | _ => none

/-- The row in a text form. -/
def readRow (s : Text) : Option SheetRow :=
  match Xml.read s with
  | some [.element "row" attributes content] => do
    let number ← attributes.lookup "r"
    let cells ← readEach readCell content
    return ⟨Text.toNat number, cells⟩
  | _ => none

/-! ### Reading cells -/

/-- What is read of a cell. -/
def Cell.entry : Cell → Entry
  | text s => .text s
  | error code => .error code
  | integer i => .number (numberText (.ofInt i))
  | number d => .number (numberText d)
  | boolean b => .boolean b

theorem readEntry_value {type value : Text} {entry : Entry}
    (h : entryOfValue type value = some entry) :
    AllWellNamed [.element "v" [] [.text value]] ∧
      readEntry type (splitAll [.element "v" [] [.text value]]) = some entry := by
  have pieces := reads_text value
  refine ⟨⟨wellNamed_element (by decide) pieces.named, trivial⟩, ?_⟩
  have read := pieces.content
  simp only [splitAll, split, List.append_nil] at read ⊢
  simp [readEntry, isFormula, read, h]

theorem readEntry_text {s : Text} {attributes : List (String × Text)}
    (ha : ∀ entry ∈ attributes, IsName entry.1) :
    AllWellNamed [.element "is" [] [.element "t" attributes [.text s]]] ∧
      readEntry "inlineStr".toText
        (splitAll [.element "is" [] [.element "t" attributes [.text s]]]) = some (.text s) := by
  have pieces := reads_text s
  refine ⟨⟨wellNamed_element (by decide) ⟨⟨by decide, ha, pieces.named⟩, trivial⟩, trivial⟩, ?_⟩
  have read := pieces.content
  simp only [splitAll, split, List.append_nil] at read ⊢
  simp [readEntry, isFormula, read]

/-- **The content of a cell** is read back. -/
theorem readEntry_content {cell : Cell} {type : Text} {content : List Xml}
    (h : cell.content = .ok (type, content)) :
    AllWellNamed content ∧ readEntry type (splitAll content) = some cell.entry := by
  cases cell with
  | text s =>
    rcases s with _ | ⟨c, s⟩
    · cases h
      exact ⟨⟨trivial, trivial⟩, rfl⟩
    · obtain ⟨t, ht, h⟩ := bind_eq_ok.mp h
      obtain ⟨rfl, -⟩ := Text.Repertoire.check_eq_ok_iff.mp (mapError_eq_ok.mp ht)
      dsimp only at h
      split at h
      · cases h
        refine readEntry_text ?_
        split <;> decide
      · cases h
  | error code =>
    cases h
    exact readEntry_value rfl
  | integer i =>
    unfold Cell.content at h
    dsimp only at h
    split at h
    · cases h
    · cases h
      exact readEntry_value rfl
  | number d =>
    cases h
    exact readEntry_value rfl
  | boolean b =>
    cases h
    cases b <;> exact readEntry_value rfl

/-! ### Reading rows -/

/-- The cells that are read of a row from a column on. -/
def sheetCells (row column : Nat) : List Cell → List SheetCell
  | [] => []
  | cell :: cells => ⟨cellName row column, cell.entry⟩ :: sheetCells row (column + 1) cells

theorem reads_renderCells {row column : Nat} {cells : List Cell} {xs : List Xml}
    (h : renderCells row column cells = .ok xs) :
    Reads readCell xs (sheetCells row column cells) := by
  induction cells generalizing column xs with
  | nil =>
    cases h
    exact .nil
  | cons cell cells ih =>
    obtain ⟨⟨type, content⟩, hc, h⟩ := bind_eq_ok.mp h
    obtain ⟨rest, hr, h⟩ := bind_eq_ok.mp h
    rw [← pure_eq_ok.mp h]
    obtain ⟨named, read⟩ := readEntry_content hc
    have attributes : IsName "r" ∧ IsName "t" := by decide
    have first : Reads readCell
        [.element "c" [("r", cellName row column), ("t", type)] content]
        [⟨cellName row column, cell.entry⟩] :=
      reads_element ⟨by decide, by simpa using attributes, named⟩
        (by simp [readCell, List.lookup_cons, read])
    exact first.append (ih hr)

/-- The row that is read of a row. -/
def Row.read (row : Row) : SheetRow := ⟨row.number, sheetCells row.number 1 row.cells⟩

theorem readRow_write {row : Row} {cells : List Xml}
    (h : renderCells row.number 1 row.cells = .ok cells) :
    readRow ((Xml.element "row" [("r", Text.ofNat row.number)] cells).write .ascii) =
      some row.read := by
  have reads := reads_renderCells h
  have name : IsName "r" := by decide
  have named : (Xml.element "row" [("r", Text.ofNat row.number)] cells).WellNamed :=
    ⟨by decide, by simpa using name, reads.named⟩
  rw [readRow, read_write .ascii named]
  simp [split, reads.content, Row.read, Text.toNat_ofNat]

/-- **The rows that have cells** are read back. -/
theorem readRow_renderRows {rows : List Row} {xs : List Xml} (h : renderRows rows = .ok xs) :
    (xs.map (Xml.write .ascii)).map readRow =
      ((rows.filter fun row => !row.cells.isEmpty).map Row.read).map some := by
  induction rows generalizing xs with
  | nil =>
    cases h
    rfl
  | cons row rows ih =>
    unfold renderRows at h
    split at h
    · rename_i empty
      rw [ih h, List.filter_cons_of_neg (by simp [empty])]
    · rename_i some
      obtain ⟨cells, hc, h⟩ := bind_eq_ok.mp h
      obtain ⟨rest, hr, h⟩ := bind_eq_ok.mp h
      rw [← pure_eq_ok.mp h, List.filter_cons_of_pos (by simpa using some)]
      exact congrArg₂ List.cons (readRow_write hc) (ih hr)

/-! ### Places -/

/-- Rows that are numbered upwards, with the cells of each in the columns from the first one on. -/
structure WellPlaced (rows : List SheetRow) : Prop where
  increasing : (rows.map SheetRow.number).Pairwise (· < ·)
  placed : ∀ row ∈ rows, row.cells.map (fun cell => place? cell.name) =
    (List.range' 1 row.cells.length).map fun column => some (row.number, column)

theorem place_of_mem {rows : List SheetRow} (h : WellPlaced rows) {row : SheetRow}
    (hr : row ∈ rows) {name : Text} (hn : name ∈ row.cells.map SheetCell.name) :
    ∃ column, place? name = some (row.number, column) := by
  have place : place? name ∈ row.cells.map fun cell => place? cell.name := by
    obtain ⟨cell, hc, rfl⟩ := List.mem_map.mp hn
    exact List.mem_map_of_mem hc
  rw [h.placed row hr] at place
  obtain ⟨column, -, place⟩ := List.mem_map.mp place
  exact ⟨column, place.symm⟩

theorem WellPlaced.nodup {rows : List SheetRow} (h : WellPlaced rows) :
    (rows.flatMap fun row => row.cells.map SheetCell.name).Nodup := by
  refine List.nodup_flatMap.mpr ⟨fun row hr => ?_, ?_⟩
  · refine List.Nodup.of_map place? ?_
    rw [List.map_map]
    have placed := h.placed row hr
    rw [Function.comp_def, placed]
    exact List.Nodup.map (fun i j same => (Prod.mk.inj (Option.some.inj same)).2)
      List.nodup_range'
  · have increasing := List.pairwise_map.mp h.increasing
    refine increasing.imp_of_mem fun {a b} ha hb hab name hna hnb => ?_
    obtain ⟨i, hi⟩ := place_of_mem h ha hna
    obtain ⟨j, hj⟩ := place_of_mem h hb hnb
    have same : a.number = b.number := (Prod.mk.inj (Option.some.inj (hi.symm.trans hj))).1
    omega

theorem places_sheetCells (row : Nat) {column : Nat} (h : 0 < column) (cells : List Cell) :
    (sheetCells row column cells).map (fun cell => place? cell.name) =
      (List.range' column cells.length).map fun column => some (row, column) := by
  induction cells generalizing column with
  | nil => rfl
  | cons cell cells ih =>
    rw [sheetCells, List.map_cons, ih (Nat.succ_pos column), List.length_cons, List.range'_succ,
      List.map_cons, place_cellName row h]

/-- Whether a cell stands at a place. -/
def SheetCell.isAt (row column : Nat) (cell : SheetCell) : Bool :=
  place? cell.name = some (row, column)

/-- What the cell at a place holds, if there is one. -/
def entryAt (rows : List SheetRow) (row column : Nat) : Option Entry :=
  ((rows.flatMap SheetRow.cells).find? (SheetCell.isAt row column)).map SheetCell.entry

theorem find_sheetCells (number row column : Nat) {start : Nat} (h : 0 < start)
    (cells : List Cell) :
    ((sheetCells number start cells).find? (SheetCell.isAt row column)).map SheetCell.entry =
      if number = row ∧ start ≤ column then cells[column - start]?.map Cell.entry else none := by
  induction cells generalizing start with
  | nil => simp [sheetCells]
  | cons cell cells ih =>
    rw [sheetCells, List.find?_cons, SheetCell.isAt, place_cellName number h]
    by_cases here : number = row ∧ start = column
    · obtain ⟨rfl, rfl⟩ := here
      simp
    · have other : ¬ (some (number, start) = some (row, column)) := by simpa using here
      rw [decide_eq_false other]
      dsimp only
      rw [ih (Nat.succ_pos start)]
      by_cases behind : number = row ∧ start + 1 ≤ column
      · have before : column - start = column - (start + 1) + 1 := by omega
        rw [if_pos behind, if_pos ⟨behind.1, by omega⟩, before, List.getElem?_cons_succ]
      · rw [if_neg behind, if_neg (by omega)]

/-! ### Tables -/

/-- The items of a table that are rows. -/
def lists : List Json → List (List Json)
  | [] => []
  | .arr values :: items => values :: lists items
  | _ :: items => lists items

/-- Whether a row of the sheet of a table is its heading: the first one, if the first item is a row.
-/
def isHeading (items : List Json) (row : Nat) : Bool :=
  row == 1 && match items with
    | .arr _ :: _ => true
    | _ => false

/-- The cell of a value in a row that may be the heading. -/
def cellOf (heading : Bool) (v : Json) : Cell := if heading then .ofHeading v else .ofValue v

/-- The rows of arrays, numbered from a number on. -/
def rowsOf (heading : Nat → Bool) (number : Nat) : List (List Json) → List Row
  | [] => []
  | values :: lists =>
    ⟨number, values.map (cellOf (heading number))⟩ :: rowsOf heading (number + 1) lists

theorem bodyRows_eq {heading : Nat → Bool} {number : Nat}
    (h : ∀ k, number ≤ k → heading k = false) (items : List Json) :
    bodyRows number items = rowsOf heading number (lists items) := by
  induction items generalizing number with
  | nil => rfl
  | cons item items ih =>
    cases item with
    | arr values =>
      rw [bodyRows, lists, rowsOf, ih fun k hk => h k (Nat.le_of_succ_le hk),
        h number (Nat.le_refl _)]
      rfl
    | _ => exact ih h

/-- **The sheet of a table** has a row for each of its arrays. -/
theorem rows_ofItems (items : List Json) :
    (Sheet.ofItems items).rows = rowsOf (isHeading items) 1 (lists items) := by
  have body (items : List Json) (k : Nat) (h : 2 ≤ k) : isHeading items k = false := by
    have other : (k == 1) = false := beq_false_of_ne (by omega)
    simp only [isHeading, other, Bool.false_and]
  rcases items with _ | ⟨item, items⟩
  · rfl
  · cases item with
    | arr values =>
      rw [Sheet.ofItems, lists, rowsOf, bodyRows_eq (body (.arr values :: items))]
      rfl
    | _ =>
      refine bodyRows_eq (fun k _ => ?_) _
      simp [isHeading]

/-- The value at a place of a table, both counted from one, if there is one. -/
def valueAt? (items : List Json) (row column : Nat) : Option Json :=
  if 1 ≤ row ∧ 1 ≤ column then (lists items)[row - 1]?.bind (·[column - 1]?) else none

theorem find_rowsOf (heading : Nat → Bool) (number row column : Nat) (lists : List (List Json)) :
    (((rowsOf heading number lists).flatMap fun row => row.read.cells).find?
      (SheetCell.isAt row column)).map SheetCell.entry =
      if number ≤ row ∧ 1 ≤ column then
        (lists[row - number]?.bind (·[column - 1]?)).map fun v => (cellOf (heading row) v).entry
      else none := by
  induction lists generalizing number with
  | nil => simp [rowsOf]
  | cons values lists ih =>
    rw [rowsOf, List.flatMap_cons, List.find?_append, Option.map_or, ih, Row.read,
      find_sheetCells number row column (by decide)]
    rcases Nat.lt_trichotomy row number with before | rfl | behind
    · rw [if_neg (by omega), if_neg (by omega), if_neg (by omega)]
      rfl
    · rw [if_neg (by omega : ¬ (row + 1 ≤ row ∧ 1 ≤ column)), Option.or_none, Nat.sub_self,
        List.getElem?_cons_zero, Option.bind_some, List.getElem?_map, Option.map_map]
      by_cases hc : 1 ≤ column
      · rw [if_pos ⟨rfl, hc⟩, if_pos ⟨Nat.le_refl _, hc⟩]
        rfl
      · rw [if_neg fun h => hc h.2, if_neg fun h => hc h.2]
    · have offset : row - number = row - (number + 1) + 1 := by omega
      rw [if_neg (by omega), Option.none_or, offset, List.getElem?_cons_succ]
      exact if_congr (by omega) rfl rfl

theorem flatMap_cells (rows : List Row) :
    ((rows.filter fun row => !row.cells.isEmpty).map Row.read).flatMap SheetRow.cells =
      rows.flatMap fun row => row.read.cells := by
  induction rows with
  | nil => rfl
  | cons row rows ih =>
    rw [List.flatMap_cons, ← ih]
    by_cases empty : row.cells = []
    · rw [List.filter_cons_of_neg (by simp [empty]), Row.read, empty]
      rfl
    · rw [List.filter_cons_of_pos (by simpa using empty), List.map_cons, List.flatMap_cons]

theorem pairwise_rowsOf (heading : Nat → Bool) (number : Nat) (lists : List (List Json)) :
    (∀ row ∈ rowsOf heading number lists, number ≤ row.number) ∧
      (rowsOf heading number lists).Pairwise fun a b => a.number < b.number := by
  induction lists generalizing number with
  | nil => exact ⟨nofun, .nil⟩
  | cons values lists ih =>
    obtain ⟨above, increasing⟩ := ih (number + 1)
    refine ⟨List.forall_mem_cons.mpr ⟨Nat.le_refl _, fun row hr => ?_⟩,
      List.pairwise_cons.mpr ⟨fun row hr => above row hr, increasing⟩⟩
    exact Nat.le_of_succ_le (above row hr)

theorem wellPlaced_rowsOf (heading : Nat → Bool) (number : Nat) (lists : List (List Json)) :
    WellPlaced (((rowsOf heading number lists).filter fun row => !row.cells.isEmpty).map
      Row.read) where
  increasing := by
    rw [List.map_map, List.pairwise_map]
    exact (pairwise_rowsOf heading number lists).2.filter _
  placed row hr := by
    obtain ⟨row, -, rfl⟩ := List.mem_map.mp hr
    have length : (sheetCells row.number 1 row.cells).length = row.cells.length := by
      have := congrArg List.length (places_sheetCells row.number (by decide : 0 < 1) row.cells)
      simpa using this
    rw [Row.read, places_sheetCells row.number (by decide), length]

/-! ### Values -/

/-- What a text is shown as: without the characters that are left out, and not beyond the largest
length. The codes of errors are errors. -/
def shownText (s : Text) : Entry :=
  let s := (removeControls s).take maxCellLength
  if errorCodes.any fun code => code.toText = s then .error s else .text s

/-- What a value is shown as. An array or an object is never an error. -/
def shown : Json → Entry
  | .null => .text []
  | .bool b => .boolean b
  | .int i => .number (numberText (.ofInt i))
  | .float d => .number (numberText d)
  | .str s => shownText s
  | v => .text ((removeControls v.write).take maxCellLength)

/-- What a value in a row that may be the heading is shown as. -/
def shownIn (heading : Bool) (v : Json) : Entry :=
  if heading then shownText (headingText v) else shown v

theorem entry_ofText (s : Text) : (Cell.ofText s).entry = shownText s := by
  simp only [Cell.ofText, shownText]
  split <;> rfl

/-- A text that begins with a bracket is no error. -/
theorem shownText_of_bracket {c : CodePoint} (h : c = '[' ∨ c = '\x7b') (s : Text) :
    shownText (c :: s) = .text ((removeControls (c :: s)).take maxCellLength) := by
  have kept : (removeControls (c :: s)).take maxCellLength =
      c :: (removeControls s).take (maxCellLength - 1) := by
    have stays : (!isRemoved c) = true := by rcases h with rfl | rfl <;> decide
    simp only [removeControls, List.filter_cons, stays, if_true]
    rfl
  have first : ∀ code ∈ errorCodes, code.toText.head? = some (.char '#') := by decide
  refine if_neg fun code => ?_
  obtain ⟨code, hc, same⟩ := List.any_eq_true.mp code
  have head := first code hc
  rw [of_decide_eq_true same, kept, List.head?_cons, Option.some.injEq] at head
  rcases h with rfl | rfl <;> revert head <;> decide

theorem entry_cellOf (heading : Bool) (v : Json) :
    (cellOf heading v).entry = shownIn heading v := by
  cases heading with
  | true => exact entry_ofText (headingText v)
  | false =>
    cases v with
    | str s => exact entry_ofText s
    | arr items => exact (entry_ofText _).trans (shownText_of_bracket (Or.inl rfl) _)
    | obj fields => exact (entry_ofText _).trans (shownText_of_bracket (Or.inr rfl) _)
    | _ => rfl

/-! ### Sheets -/

theorem entry_ne_formula (cell : Cell) : cell.entry ≠ .formula := by
  cases cell <;> exact nofun

theorem entry_ne_formula_of_mem {row column : Nat} {cells : List Cell} {cell : SheetCell}
    (h : cell ∈ sheetCells row column cells) : cell.entry ≠ .formula := by
  induction cells generalizing column with
  | nil => cases h
  | cons first cells ih =>
    rcases List.mem_cons.mp h with rfl | h
    · exact entry_ne_formula first
    · exact ih h

/-- **A sheet is written** exactly if no row with cells lies too low, it is not too wide, and each
of its rows can be written. -/
theorem write_eq_ok_iff {s : Sheet} {book : Workbook} :
    s.write = .ok book ↔ s.tallRow? = none ∧ ¬ maxColumns < s.width ∧
      ∃ xs, renderRows s.rows = .ok xs ∧ book = ⟨s.dimension, xs⟩ := by
  unfold Sheet.write
  cases s.tallRow? with
  | some row => exact ⟨nofun, fun ⟨absent, _⟩ => nomatch absent⟩
  | none =>
    by_cases wide : maxColumns < s.width
    · simp only [wide, not_true, false_and, and_false, iff_false]
      exact nofun
    · simp only [wide, if_false, not_false_iff, true_and]
      rw [bind_eq_ok]
      exact exists_congr fun xs => and_congr_right' (pure_eq_ok.trans eq_comm)

/-- The rows that are read of the sheet of a table: those that have cells. -/
def sheetRows (items : List Json) : List SheetRow :=
  ((rowsOf (isHeading items) 1 (lists items)).filter fun row => !row.cells.isEmpty).map Row.read

theorem readRow_rowTexts {items : List Json} {book : Workbook}
    (h : (Sheet.ofItems items).write = .ok book) :
    book.rowTexts.map readRow = (sheetRows items).map some := by
  obtain ⟨-, -, xs, rendered, rfl⟩ := write_eq_ok_iff.mp h
  rw [rows_ofItems] at rendered
  exact readRow_renderRows rendered

theorem entryAt_sheetRows (items : List Json) (row column : Nat) :
    entryAt (sheetRows items) row column =
      (valueAt? items row column).map (shownIn (isHeading items row)) := by
  have entry : (fun v => (cellOf (isHeading items row) v).entry) =
      shownIn (isHeading items row) := funext (entry_cellOf _)
  rw [entryAt, sheetRows, flatMap_cells, find_rowsOf, entry, valueAt?]
  by_cases there : 1 ≤ row ∧ 1 ≤ column
  · rw [if_pos there, if_pos there]
  · rw [if_neg there, if_neg there, Option.map_none]

/-- **A table is found in its sheet.** Whenever the sheet can be written, its rows are read back:
they are well placed, and no cell has a formula. There is a cell at a place exactly if the table has
a value there, and the cell holds what the value is shown as. -/
theorem read_write_ofItems {items : List Json} {book : Workbook}
    (h : (Sheet.ofItems items).write = .ok book) :
    ∃ rows, book.rowTexts.map readRow = rows.map some ∧ WellPlaced rows ∧
      (rows.flatMap fun row => row.cells.map SheetCell.name).Nodup ∧
      (∀ row ∈ rows, ∀ cell ∈ row.cells, cell.entry ≠ .formula) ∧
      ∀ row column, entryAt rows row column =
        (valueAt? items row column).map (shownIn (isHeading items row)) := by
  have placed : WellPlaced (sheetRows items) := wellPlaced_rowsOf (isHeading items) 1 (lists items)
  refine ⟨sheetRows items, readRow_rowTexts h, placed, placed.nodup, ?_, entryAt_sheetRows items⟩
  intro row hr cell hc
  obtain ⟨row, -, rfl⟩ := List.mem_map.mp hr
  exact entry_ne_formula_of_mem hc

/-- A table that begins with no row, with an empty row, and with texts that look like a formula, an
error and markup. -/
def unevenTable : List Json :=
  [.str "Marks".toText, .arr [.str "=1+1".toText, .null, .str "#N/A".toText], .arr [],
    .arr [.str "a\x01\r<b>".toText, .arr [.int 1, .str "x".toText], .bool true]]

theorem read_write_unevenTable :
    ∃ book rows, (Sheet.ofItems unevenTable).write = .ok book ∧
      book.rowTexts.map readRow = rows.map some ∧
      entryAt rows 1 1 = some (.text "=1+1".toText) ∧ entryAt rows 1 2 = some (.text []) ∧
      entryAt rows 1 3 = some (.error "#N/A".toText) ∧ entryAt rows 2 1 = none ∧
      entryAt rows 3 1 = some (.text "a\r<b>".toText) ∧
      entryAt rows 3 2 = some (.text "[1, \"x\"]".toText) ∧
      entryAt rows 3 3 = some (.boolean true) ∧ entryAt rows 3 4 = none := by
  have written : (Sheet.ofItems unevenTable).write.toOption.isSome = true := by decide +kernel
  obtain ⟨book, hb⟩ := Option.isSome_iff_exists.mp written
  have hb := toOption_eq_some.mp hb
  obtain ⟨rows, read, -, -, -, entries⟩ := read_write_ofItems hb
  refine ⟨book, rows, hb, read, ?_⟩
  simp only [entries]
  decide +kernel

end ExamPress.Table

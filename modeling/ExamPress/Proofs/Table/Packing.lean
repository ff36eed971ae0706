import ExamPress.Proofs.Math.Legal
import ExamPress.Proofs.Number.Overflow
import ExamPress.Proofs.Table.Hidden
import ExamPress.Proofs.Table.Refusals
import Mathlib.Tactic.Common

/-! # Tables that can not be packed

A sheet has a row with cells below the last one of a worksheet exactly if its table has a value so
low; that is no fault of packing (`exists_tooTall_iff`). Any other sheet has a fault exactly if its
table has a row with too many columns, writes a character that XML lacks or a surrogate, or has an
integer outside the heading that is too large for a double (`exists_fault_iff`). Controls are no
fault, since they are left out. Surrogates stay, and it is the coding of the file that has no form
for them (`fault_surrogateTable`). -/

namespace ExamPress.Table

/-! ### What is written -/

/-- The text that a value is turned into in a row that may be the heading, if it becomes a text. -/
def turnedText? (heading : Bool) (v : Json) : Option Text :=
  if heading then some (headingText v)
  else
    match v with
    | .null => some []
    | .str s => some s
    | .arr _ | .obj _ => some v.write
    | _ => none

/-- The text that is written of a value in a row that may be the heading: controls are left out of
the text that it is turned into, and then it is cut. -/
def writtenText? (heading : Bool) (v : Json) : Option Text :=
  (turnedText? heading v).map fun s => (removeControls s).take maxCellLength

/-- A character is among the texts that are written of a table. -/
def Writes (items : List Json) (c : CodePoint) : Prop :=
  ∃ row column v s, valueAt? items row column = some v ∧
    writtenText? (isHeading items row) v = some s ∧ c ∈ s

/-- A value of a table stands below the last row of a worksheet. -/
def IsTall (items : List Json) : Prop :=
  ∃ row column v, valueAt? items row column = some v ∧ maxRows < row

/-- Something of a table has no place in a workbook: a row has more columns than there are letters
for, one of the two characters is written that XML lacks and that are no controls, or an integer
outside the heading is too large for a double. -/
inductive HasNoPlace (items : List Json) : Prop where
  | columns {values : List Json} (row : .arr values ∈ items) (wide : maxColumns < values.length)
  | character {c : CodePoint} (written : Writes items c)
      (lacking : c.toNat = 0xfffe ∨ c.toNat = 0xffff)
  | integer {row column : Nat} {i : Int} (there : valueAt? items row column = some (.int i))
      (body : isHeading items row = false) (large : Double.overflow ≤ i.natAbs)

/-! ### Cells -/

/-- A character that a cell can hold after controls are left out. -/
def Packs (c : CodePoint) : Prop :=
  ¬ (c.toNat = 0xfffe ∨ c.toNat = 0xffff) ∧ c.isSurrogate = false

instance : DecidablePred Packs := fun _ => inferInstanceAs (Decidable (_ ∧ _))

/-- Of the characters that stay, XML lacks two. -/
theorem isLegal_iff_packs {c : CodePoint} (h : isRemoved c = false) :
    Xml.isLegal c = true ↔ Packs c := by
  rw [Xml.isLegal_iff, Xml.lacks_iff, Packs]
  simp only [isRemoved, Bool.or_eq_false_iff, Bool.and_eq_false_iff, decide_eq_false_iff_not,
    beq_eq_false_iff_ne] at h
  have same : (c.toNat ≤ 0x08 ∨ (0x0b ≤ c.toNat ∧ c.toNat ≤ 0x0c) ∨
      (0x0e ≤ c.toNat ∧ c.toNat ≤ 0x1f) ∨ (0xfffe ≤ c.toNat ∧ c.toNat ≤ 0xffff)) ↔
        (c.toNat = 0xfffe ∨ c.toNat = 0xffff) := by
    omega
  rw [same]

theorem exists_content_text {s : Text} :
    (∃ content, (Cell.text s).content = .ok content) ↔ s.IsLegal := by
  have legal : s.IsLegal ↔ Xml.isXmlText s = true ∧
      s.all Text.Repertoire.characters.contains = true := by
    simp only [Text.IsLegal, Xml.isLegal, Xml.isXmlText, List.all_eq_true, Bool.and_eq_true,
      Text.Repertoire.contains, forall_and]
  rw [legal]
  rcases s with _ | ⟨c, s⟩
  · exact ⟨fun _ => ⟨rfl, rfl⟩, fun _ => ⟨_, rfl⟩⟩
  constructor
  · rintro ⟨content, h⟩
    obtain ⟨t, ht, h⟩ := bind_eq_ok.mp h
    obtain ⟨rfl, encodable⟩ := Text.Repertoire.check_eq_ok_iff.mp (mapError_eq_ok.mp ht)
    dsimp only at h
    split at h
    · rename_i xml
      exact ⟨xml, encodable⟩
    · cases h
  · rintro ⟨xml, encodable⟩
    have check : Text.Utf8.check (c :: s) = .ok (c :: s) :=
      Text.Repertoire.check_eq_ok_iff.mpr ⟨rfl, encodable⟩
    exact ⟨_, bind_eq_ok.mpr ⟨c :: s, mapError_eq_ok.mpr check, if_pos xml⟩⟩

theorem packs_errorCodes : ∀ code ∈ errorCodes, ∀ c ∈ code.toText, Packs c := by
  decide

/-- **A text** can be written exactly if all of its characters that stay and are not cut off can. -/
theorem exists_content_ofText {s : Text} :
    (∃ content, (Cell.ofText s).content = .ok content) ↔
      ∀ c ∈ (removeControls s).take maxCellLength, Packs c := by
  unfold Cell.ofText
  dsimp only
  split
  · rename_i error
    obtain ⟨code, hc, same⟩ := List.any_eq_true.mp error
    rw [← of_decide_eq_true same]
    exact ⟨fun _ => packs_errorCodes code hc, fun _ => ⟨_, rfl⟩⟩
  · rw [exists_content_text]
    refine forall₂_congr fun c hc => isLegal_iff_packs ?_
    have stays := (List.mem_filter.mp (List.mem_of_mem_take hc)).2
    exact Bool.not_eq_true' .. |>.mp stays

theorem exists_content_integer {i : Int} :
    (∃ content, (Cell.integer i).content = .ok content) ↔ ¬ Double.overflow ≤ i.natAbs := by
  rw [← Double.ofInt_eq_infinite_iff, Cell.content]
  cases Double.ofInt i with
  | infinite negative =>
    refine ⟨?_, fun small => (small ⟨negative, rfl⟩).elim⟩
    rintro ⟨content, ⟨⟩⟩
  | _ =>
    refine ⟨fun _ => ?_, fun _ => ⟨_, rfl⟩⟩
    rintro ⟨negative, ⟨⟩⟩

/-- **A value** can be written exactly if the text that is written of it can, and it is no integer
outside the heading that is too large. -/
theorem exists_content_cellOf {heading : Bool} {v : Json} :
    (∃ content, (cellOf heading v).content = .ok content) ↔
      (∀ s, writtenText? heading v = some s → ∀ c ∈ s, Packs c) ∧
        ∀ i, v = .int i → heading = false → ¬ Double.overflow ≤ i.natAbs := by
  have text {s : Text} (turned : turnedText? heading v = some s) :
      (∃ content, (Cell.ofText s).content = .ok content) ↔
        ∀ s, writtenText? heading v = some s → ∀ c ∈ s, Packs c := by
    rw [exists_content_ofText, writtenText?, turned]
    simp only [Option.map_some, Option.some.injEq, forall_eq']
  cases heading with
  | true =>
    simp only [Bool.true_eq_false, false_imp_iff, implies_true, and_true]
    rw [cellOf, if_pos rfl]
    exact text rfl
  | false =>
    rw [cellOf, if_neg Bool.false_ne_true]
    cases v with
    | int i =>
      have unwritten : writtenText? false (.int i) = none := rfl
      simp only [unwritten, reduceCtorEq, false_imp_iff, implies_true, true_and, Json.int.injEq,
        forall_eq', forall_const]
      exact exists_content_integer
    | null =>
      have written : writtenText? false .null = some [] := rfl
      simp only [written, Option.some.injEq, forall_eq', reduceCtorEq, false_imp_iff,
        implies_true, and_true]
      exact iff_of_true ⟨_, rfl⟩ (List.forall_mem_nil _)
    | bool _ | float _ =>
      simp only [writtenText?, turnedText?, Bool.false_eq_true, if_false, Option.map_none,
        reduceCtorEq, false_imp_iff, implies_true, and_true, iff_true]
      exact ⟨_, rfl⟩
    | _ =>
      simp only [reduceCtorEq, false_imp_iff, implies_true, and_true]
      exact text rfl

/-! ### Sheets -/

theorem lt_foldl_max {bound start : Nat} {lengths : List Nat} :
    bound < lengths.foldl max start ↔ bound < start ∨ ∃ length ∈ lengths, bound < length := by
  induction lengths generalizing start with
  | nil => simp
  | cons length lengths ih =>
    simp only [List.foldl_cons, ih, lt_max_iff, List.exists_mem_cons_iff, or_assoc]

theorem mem_lists {items : List Json} {values : List Json} :
    values ∈ lists items ↔ .arr values ∈ items := by
  induction items with
  | nil => exact ⟨nofun, nofun⟩
  | cons item items ih => cases item <;> simp [lists, ih]

theorem lengths_rowsOf (heading : Nat → Bool) (number : Nat) (lists : List (List Json)) :
    (rowsOf heading number lists).map (fun row => row.cells.length) = lists.map List.length := by
  induction lists generalizing number with
  | nil => rfl
  | cons values lists ih => rw [rowsOf, List.map_cons, ih, List.length_map, List.map_cons]

/-- **A sheet is too wide** exactly if a row of its table is. -/
theorem maxColumns_lt_width {items : List Json} :
    maxColumns < (Sheet.ofItems items).width ↔
      ∃ values, .arr values ∈ items ∧ maxColumns < values.length := by
  rw [Sheet.width, rows_ofItems, lengths_rowsOf, lt_foldl_max]
  simp only [Nat.not_lt_zero, false_or, List.mem_map, mem_lists]
  constructor
  · rintro ⟨_, ⟨values, row, rfl⟩, wide⟩
    exact ⟨values, row, wide⟩
  · rintro ⟨values, row, wide⟩
    exact ⟨_, ⟨values, row, rfl⟩, wide⟩

/-- **A sheet is too tall** exactly if its table is. -/
theorem tallRow_eq_none_iff {items : List Json} :
    (Sheet.ofItems items).tallRow? = none ↔ ¬ IsTall items := by
  have places := forall_cells_iff items fun row _ => ¬ maxRows < row
  rw [Sheet.tallRow?, List.find?_eq_none, rows_ofItems]
  simp only [Bool.and_eq_true, decide_eq_true_eq, Bool.not_eq_true', List.isEmpty_eq_false_iff,
    not_and]
  constructor
  · rintro low ⟨row, column, v, there, below⟩
    refine places.mp (fun row hr cell hc below => ?_) row column v there below
    exact low row hr below (List.ne_nil_of_mem hc)
  · intro low row hr below some
    obtain ⟨cell, hc⟩ := List.exists_mem_of_ne_nil _ some
    exact places.mpr (fun row column v there below => low ⟨row, column, v, there, below⟩)
      row hr cell hc below

theorem isPackingError_of_content {cell : Cell} {fault : Fault}
    (h : cell.content = .error fault) : fault.isPackingError = true := by
  cases cell with
  | text s =>
    rcases s with _ | ⟨c, s⟩
    · cases h
    · rcases bind_eq_error.mp h with unencodable | ⟨t, -, h⟩
      · obtain ⟨stretch, -, rfl⟩ := mapError_eq_error.mp unencodable
        rfl
      · dsimp only at h
        split at h <;> cases h
        rfl
  | integer i =>
    rw [Cell.content] at h
    cases hd : Double.ofInt i <;> rw [hd] at h <;> cases h
    rfl
  | _ => cases h

theorem isPackingError_of_renderCells {row column : Nat} {cells : List Cell} {fault : Fault}
    (h : renderCells row column cells = .error fault) : fault.isPackingError = true := by
  induction cells generalizing column with
  | nil => cases h
  | cons cell cells ih =>
    rcases bind_eq_error.mp h with first | ⟨content, -, h⟩
    · exact isPackingError_of_content first
    · rcases bind_eq_error.mp h with rest | ⟨rest, -, h⟩
      · exact ih rest
      · cases h

theorem isPackingError_of_renderRows {rows : List Row} {fault : Fault}
    (h : renderRows rows = .error fault) : fault.isPackingError = true := by
  induction rows with
  | nil => cases h
  | cons row rows ih =>
    unfold renderRows at h
    split at h
    · exact ih h
    · rcases bind_eq_error.mp h with first | ⟨cells, -, h⟩
      · exact isPackingError_of_renderCells first
      · rcases bind_eq_error.mp h with rest | ⟨rest, -, h⟩
        · exact ih rest
        · cases h

/-- **A value below the last row** is met before the workbook is packed, and so it is no fault of
packing; all other faults are. -/
theorem isPackingError_eq_false_iff {items : List Json} {fault : Fault}
    (h : (Sheet.ofItems items).write = .error fault) :
    fault.isPackingError = false ↔ IsTall items := by
  rw [← not_iff_not, ← tallRow_eq_none_iff, Bool.not_eq_false]
  unfold Sheet.write at h
  cases tall : (Sheet.ofItems items).tallRow? with
  | some row =>
    rw [tall] at h
    cases h
    exact ⟨nofun, nofun⟩
  | none =>
    rw [tall] at h
    dsimp only at h
    refine iff_of_true ?_ rfl
    split at h
    · cases h
      rfl
    · rcases bind_eq_error.mp h with rendered | ⟨xs, -, h⟩
      · exact isPackingError_of_renderRows rendered
      · cases h

theorem exists_tooTall_iff {items : List Json} :
    (∃ row, (Sheet.ofItems items).write = .error (.tooTall row)) ↔ IsTall items := by
  constructor
  · rintro ⟨row, failed⟩
    exact (isPackingError_eq_false_iff failed).mp rfl
  · intro tall
    have found : (Sheet.ofItems items).tallRow? ≠ none := fun low =>
      tallRow_eq_none_iff.mp low tall
    obtain ⟨row, found⟩ := Option.ne_none_iff_exists'.mp found
    exact ⟨row.number, by rw [Sheet.write, found]⟩

/-- **A sheet can be written** exactly if it is neither too tall nor too wide, and each value of its
table can be written. -/
theorem exists_write_ofItems {items : List Json} :
    (∃ book, (Sheet.ofItems items).write = .ok book) ↔
      ¬ IsTall items ∧ (¬ ∃ values, .arr values ∈ items ∧ maxColumns < values.length) ∧
        ∀ row column v, valueAt? items row column = some v →
          ∃ content, (cellOf (isHeading items row) v).content = .ok content := by
  have cells := exists_renderRows_iff.trans <|
    forall_cells_iff items fun _ cell => ∃ content, cell.content = .ok content
  rw [← tallRow_eq_none_iff, ← maxColumns_lt_width, ← cells, ← rows_ofItems]
  constructor
  · rintro ⟨book, written⟩
    obtain ⟨low, narrow, xs, rendered, -⟩ := write_eq_ok_iff.mp written
    exact ⟨low, narrow, xs, rendered⟩
  · rintro ⟨low, narrow, xs, rendered⟩
    exact ⟨_, write_eq_ok_iff.mpr ⟨low, narrow, xs, rendered, rfl⟩⟩

/-- **When a table can not be packed.** Let no value of a table stand below the last row of a
worksheet. Then there is a fault exactly if something of the table has no place in a workbook or a
surrogate is written, and each fault is told as an error of packing. -/
theorem exists_fault_iff {items : List Json} (low : ¬ IsTall items) :
    ((∃ fault, (Sheet.ofItems items).write = .error fault) ↔
      HasNoPlace items ∨ ∃ c, Writes items c ∧ c.isSurrogate = true) ∧
    ∀ fault, (Sheet.ofItems items).write = .error fault → fault.isPackingError = true := by
  have fails : (∃ fault, (Sheet.ofItems items).write = .error fault) ↔
      ¬ ∃ book, (Sheet.ofItems items).write = .ok book := by
    cases (Sheet.ofItems items).write <;> simp
  rw [fails, exists_write_ofItems, and_iff_right low]
  refine ⟨⟨fun unwritten => ?_, ?_⟩, fun fault failed => ?_⟩
  · by_contra packs
    obtain ⟨place, plain⟩ := not_or.mp packs
    refine unwritten ⟨fun ⟨values, row, wide⟩ => place (.columns row wide), ?_⟩
    intro row column v there
    refine exists_content_cellOf.mpr ⟨fun s written c hc => ?_, fun i integer body large => ?_⟩
    · have writes : Writes items c := ⟨row, column, v, s, there, written, hc⟩
      refine ⟨fun lacking => place (.character writes lacking), ?_⟩
      exact Bool.eq_false_iff.mpr fun surrogate => plain ⟨c, writes, surrogate⟩
    · exact place (.integer (integer ▸ there) body large)
  · rintro (place | ⟨c, ⟨row, column, v, s, there, written, hc⟩, surrogate⟩) ⟨narrow, packs⟩
    · cases place with
      | columns row wide => exact narrow ⟨_, row, wide⟩
      | character writes lacking =>
        obtain ⟨row, column, v, s, there, written, hc⟩ := writes
        have texts := (exists_content_cellOf.mp (packs row column v there)).1
        exact (texts s written _ hc).1 lacking
      | integer there body large =>
        have integers := (exists_content_cellOf.mp (packs _ _ _ there)).2
        exact integers _ rfl body large
    · have texts := (exists_content_cellOf.mp (packs row column v there)).1
      have plain := (texts s written c hc).2
      rw [surrogate] at plain
      cases plain
  · by_contra early
    exact low ((isPackingError_eq_false_iff failed).mp (Bool.eq_false_iff.mpr early))

theorem length_lists_le (items : List Json) : (lists items).length ≤ items.length := by
  induction items with
  | nil => exact Nat.le_refl _
  | cons item items ih =>
    cases item with
    | arr values => exact Nat.succ_le_succ ih
    | _ => exact Nat.le_succ_of_le ih

theorem not_isTall_of_length {items : List Json} (h : items.length ≤ maxRows) :
    ¬ IsTall items := by
  rintro ⟨row, column, v, there, below⟩
  unfold valueAt? at there
  split at there
  · obtain ⟨values, hl, -⟩ := Option.bind_eq_some_iff.mp there
    obtain ⟨within, -⟩ := List.getElem?_eq_some_iff.mp hl
    have most := length_lists_le items
    omega
  · cases there

/-- A heading that is all controls, and a row with a text that XML lacks a character of. -/
def lackingTable : List Json :=
  [.arr [.str "\x01".toText], .arr [.bool true, .str "a\x0b\uffff".toText]]

theorem exists_fault_iff_lackingTable :
    ¬ IsTall lackingTable ∧ ∃ fault, (Sheet.ofItems lackingTable).write = .error fault ∧
      fault.isPackingError = true := by
  have low : ¬ IsTall lackingTable := not_isTall_of_length (by decide)
  obtain ⟨fails, packing⟩ := exists_fault_iff low
  have written : Writes lackingTable '\uffff' :=
    ⟨2, 2, .str "a\x0b\uffff".toText, "a\uffff".toText, rfl, by decide, by decide⟩
  obtain ⟨fault, failed⟩ := fails.mpr (Or.inl (.character written (by decide)))
  exact ⟨low, fault, failed, packing fault failed⟩

/-! ### Tables that are read -/

/-- A table whose only text is a surrogate. -/
def surrogateTable : List Json := [.arr [.str [.surrogate 0]]]

theorem eq_of_valueAt_surrogateTable {row column : Nat} {v : Json}
    (h : valueAt? surrogateTable row column = some v) : v = .str [.surrogate 0] := by
  unfold valueAt? at h
  split at h
  · obtain ⟨values, hl, hv⟩ := Option.bind_eq_some_iff.mp h
    have row := List.mem_of_getElem? hl
    have column := List.mem_of_getElem? hv
    obtain rfl := List.mem_singleton.mp row
    exact List.mem_singleton.mp column
  · cases h

theorem rows_surrogateTable : rows "[[\"\\ud800\"]]".toText = .ok surrogateTable := by
  have payload : payload "[[\"\\ud800\"]]".toText = "[[\"\\ud800\"]]".toText := by decide +kernel
  have string : Json.readString 1 [] 0 "\\ud800\"]]".toText =
      .ok ([.surrogate 0], "]]".toText) := by
    decide +kernel
  rw [rows_eq_ok_iff, payload]
  exact ⟨[], .array (.lastItem (.array (.lastItem (.string string) rfl)) rfl), rfl⟩

/-- A table that is read may have a fault although everything of it has a place. -/
theorem fault_surrogateTable :
    rows "[[\"\\ud800\"]]".toText = .ok surrogateTable ∧
      ¬ ((∃ fault, (Sheet.ofItems surrogateTable).write = .error fault) ↔
        HasNoPlace surrogateTable) := by
  have written (heading : Bool) :
      writtenText? heading (.str [.surrogate 0]) = some [.surrogate 0] := by
    cases heading <;> decide
  refine ⟨rows_surrogateTable, fun same => ?_⟩
  have place : HasNoPlace surrogateTable := same.mp ⟨_, rfl⟩
  cases place with
  | columns row wide =>
    obtain ⟨⟩ := List.mem_singleton.mp row
    exact absurd wide (by decide)
  | character writes lacking =>
    obtain ⟨row, column, v, s, there, text, hc⟩ := writes
    rw [eq_of_valueAt_surrogateTable there, written, Option.some.injEq] at text
    rw [← text, List.mem_singleton] at hc
    rw [hc] at lacking
    exact absurd lacking (by decide)
  | integer there body large => cases eq_of_valueAt_surrogateTable there

/-- The text of a number of empty rows and of a row with a value below them. -/
def lowItems : Nat → Text
  | 0 => "[true]]".toText
  | n + 1 => "[],".toText ++ lowItems n

/-- A table with a value below a number of empty rows. -/
def lowTable : Nat → List Json
  | 0 => [.arr [.bool true]]
  | n + 1 => .arr [] :: lowTable n

theorem skipSpace_lowItems (n : Nat) : Json.skipSpace (lowItems n) = lowItems n := by
  cases n <;> rfl

theorem reads_lowItems (n : Nat) : Json.Reads (lowItems n) (.items (lowTable n)) [] := by
  induction n with
  | zero =>
    have front : Json.BeginsSimple "true]]".toText := by
      rintro _ ⟨⟩
      decide
    exact .lastItem (.array (.lastItem (.simple front rfl) rfl)) rfl
  | succ n ih => exact .item (.emptyArray rfl) rfl ((skipSpace_lowItems n).symm ▸ ih)

theorem getLast_lowItems (n : Nat) : (lowItems n).getLast? = some (.char ']') := by
  induction n with
  | zero => decide
  | succ n ih => rw [lowItems, List.getLast?_append, ih, Option.some_or]

theorem rows_lowItems (n : Nat) : rows ('[' :: lowItems n) = .ok (lowTable n) := by
  have unmarked (n : Nat) : ∀ c ∈ lowItems n, c ≠ '\x60' := by
    induction n with
    | zero => decide
    | succ n ih => exact List.forall_mem_append.mpr ⟨by decide, ih⟩
  have carries : Carries ('[' :: lowItems n) ('[' :: lowItems n) := by
    refine .self (List.forall_mem_cons.mpr ⟨by decide, unmarked n⟩) ?_ ?_
    · rintro _ ⟨⟩
      decide
    · intro c hc
      rw [List.getLast?_cons, getLast_lowItems] at hc
      cases hc
      decide
  rw [rows_eq_ok_iff, carries_iff.mp carries]
  exact ⟨[], .array ((skipSpace_lowItems n).symm ▸ reads_lowItems n), rfl⟩

theorem isTall_lowTable {n : Nat} (h : maxRows ≤ n) : IsTall (lowTable n) := by
  have last : (lists (lowTable n))[n]? = some [.bool true] := by
    clear h
    induction n with
    | zero => rfl
    | succ n ih => exact ih
  refine ⟨n + 1, 1, .bool true, ?_, by omega⟩
  simp [valueAt?, last]

/-- Two tables that are read have a fault that is not foreseen: the one although everything of it
has a place, and the other a fault that is not told as an error of packing. -/
theorem unforeseen_faults :
    (rows "[[\"\\ud800\"]]".toText = .ok surrogateTable ∧
      ¬ ((∃ fault, (Sheet.ofItems surrogateTable).write = .error fault) ↔
        HasNoPlace surrogateTable)) ∧
    rows ('[' :: lowItems maxRows) = .ok (lowTable maxRows) ∧
      ∃ fault, (Sheet.ofItems (lowTable maxRows)).write = .error fault ∧
        fault.isPackingError = false := by
  have tall : IsTall (lowTable maxRows) := isTall_lowTable (Nat.le_refl _)
  obtain ⟨row, failed⟩ := exists_tooTall_iff.mpr tall
  exact ⟨fault_surrogateTable, rows_lowItems _, _, failed, rfl⟩

end ExamPress.Table

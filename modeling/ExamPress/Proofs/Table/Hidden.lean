import ExamPress.Proofs.Table.Reading

/-! # Values that are hidden

A cell is empty only if its value is hidden: null, a text of which no character stays, and a double
that is not finite (`isEmpty_entryAt`). In the heading another rule holds: nothing is shown of zero,
false, and empty arrays and objects either (`isEmpty_entryAt_headingZero`). -/

namespace ExamPress

/-- Whether a double is finite. -/
def Double.isFinite : Double → Bool
  | finite _ _ _ => true
  | _ => false

namespace Table

/-- Whether nothing can be seen of what a cell holds. -/
def Entry.isEmpty : Entry → Bool
  | .text content => content.isEmpty
  | .error code => code.isEmpty
  | .number written => written.isEmpty
  | .boolean _ | .formula => false

/-- Whether nothing is shown of a value in a row that may be the heading. -/
def isHidden (heading : Bool) : Json → Bool
  | .null => true
  | .str s => (removeControls s).isEmpty
  | .float d => if heading then d.isZero else !d.isFinite
  | v => heading && v.isEmpty

/-! ### Characters that stay -/

/-- Whether a text has a character that stays. -/
def Stays (s : Text) : Prop := ∃ c ∈ s, isRemoved c = false

theorem removeControls_ne_nil_iff {s : Text} : removeControls s ≠ [] ↔ Stays s := by
  simp [removeControls, Stays, List.filter_eq_nil_iff]

theorem isRemoved_eq_false {c : CodePoint} (h : 0x20 ≤ c.toNat) : isRemoved c = false := by
  simp only [isRemoved, Bool.or_eq_false_iff, Bool.and_eq_false_iff, decide_eq_false_iff_not,
    beq_eq_false_iff_ne]
  omega

theorem toNat_lt_of_isRemoved {c : CodePoint} (h : isRemoved c = true) : c.toNat < 0x20 := by
  by_contra above
  rw [isRemoved_eq_false (Nat.not_lt.mp above)] at h
  cases h

theorem isRemoved_ofNat {n : Nat} (least : 0x20 ≤ n) (greatest : n < 0x110000) :
    isRemoved (.ofNat n) = false :=
  isRemoved_eq_false (by rwa [CodePoint.toNat_ofNat greatest])

/-! ### Upper case -/

theorem stays_upperExpansions : ∀ entry ∈ Text.upperExpansions,
    ∃ c ∈ entry.2.map CodePoint.ofNat, isRemoved c = false := by
  decide +kernel

theorem bounds_upperStretches : ∀ entry ∈ Text.upperStretches,
    0x20 ≤ (entry.1 : Int) + entry.2.2.2 ∧ (entry.2.1 : Int) + entry.2.2.2 < 0x110000 := by
  decide +kernel

theorem stays_upperOf {c : CodePoint} (h : isRemoved c = false) : Stays (Text.upperOf c) := by
  unfold Text.upperOf
  dsimp only
  split
  · rename_i lower
    have bounds : 97 ≤ c.toNat ∧ c.toNat ≤ 122 := by
      simpa [CodePoint.isBetween] using lower
    exact ⟨_, List.mem_singleton_self _, isRemoved_ofNat (by omega) (by omega)⟩
  split
  · exact ⟨c, List.mem_singleton_self c, h⟩
  split
  · rename_i entry he
    exact stays_upperExpansions entry (List.mem_of_find?_eq_some he)
  split
  · rename_i first last step distance hs
    have bounds := bounds_upperStretches _ (List.mem_of_find?_eq_some hs)
    have inside := List.find?_some hs
    simp only [Bool.and_eq_true, decide_eq_true_eq] at inside
    dsimp only at bounds
    exact ⟨_, List.mem_singleton_self _, isRemoved_ofNat (by omega) (by omega)⟩
  · exact ⟨c, List.mem_singleton_self c, h⟩

theorem upperOf_of_isRemoved {c : CodePoint} (h : isRemoved c = true) : Text.upperOf c = [c] := by
  have below := toNat_lt_of_isRemoved h
  have other : ¬ (c.isBetween 'a' 'z' = true) := by
    have least : 'a'.toNat = 97 := rfl
    simp only [CodePoint.isBetween, Bool.and_eq_true, decide_eq_true_eq]
    omega
  rw [Text.upperOf]
  dsimp only
  rw [if_neg other, if_pos (by omega)]

/-- **Upper case** keeps whether a character stays. -/
theorem stays_upper_iff {s : Text} : Stays (Text.upper s) ↔ Stays s := by
  constructor
  · rintro ⟨d, hd, stays⟩
    obtain ⟨c, hc, hd⟩ := List.mem_flatMap.mp hd
    refine ⟨c, hc, Bool.eq_false_iff.mpr fun removed => ?_⟩
    rw [upperOf_of_isRemoved removed, List.mem_singleton] at hd
    rw [hd, removed] at stays
    cases stays
  · rintro ⟨c, hc, stays⟩
    obtain ⟨d, hd, stays⟩ := stays_upperOf stays
    exact ⟨d, List.mem_flatMap.mpr ⟨c, hc, hd⟩, stays⟩

/-! ### Texts of values -/

theorem Stays.append_left {s : Text} (h : Stays s) (t : Text) : Stays (s ++ t) := by
  obtain ⟨c, hc, stays⟩ := h
  exact ⟨c, List.mem_append_left t hc, stays⟩

theorem Stays.append_right {t : Text} (h : Stays t) (s : Text) : Stays (s ++ t) := by
  obtain ⟨c, hc, stays⟩ := h
  exact ⟨c, List.mem_append_right s hc, stays⟩

theorem stays_cons {c : CodePoint} (h : 0x20 ≤ c.toNat) (s : Text) : Stays (c :: s) :=
  ⟨c, List.mem_cons_self, isRemoved_eq_false h⟩

theorem stays_ofInt (i : Int) : Stays (Text.ofInt i) := by
  cases i with
  | ofNat n =>
    obtain ⟨c, rest, h⟩ := List.exists_cons_of_ne_nil (Text.ofNat_ne_nil n)
    have digit : c.isDigit = true := Text.isDigit_of_mem_ofNat (h ▸ List.mem_cons_self)
    rw [Text.ofInt, h]
    exact stays_cons (Nat.le_trans (by decide) (CodePoint.bounds_of_isDigit digit).1) rest
  | negSucc n => exact stays_cons (by decide) _

theorem write_decimal_ne_nil (withPoint : Bool) (x : Decimal) : x.write withPoint ≠ [] := by
  unfold Decimal.write
  dsimp only
  split
  · split
    · simp [String.toText]
    · have places : x.digits.take (x.power.toNat + 1) ++
          Decimal.zeros (x.power.toNat + 1 - x.digits.length) ≠ [] := by
        intro h
        obtain ⟨front, zeros⟩ := List.append_eq_nil_iff.mp h
        have short : x.digits.length = 0 := by
          simpa using (List.take_eq_nil_iff.mp front).resolve_left (Nat.succ_ne_zero _)
        rw [Decimal.zeros, short] at zeros
        cases zeros
      split
      · split
        · exact List.append_ne_nil_of_left_ne_nil places _
        · exact places
      · exact List.append_ne_nil_of_left_ne_nil
          (List.append_ne_nil_of_left_ne_nil places _) _
  · refine List.append_ne_nil_of_left_ne_nil (List.append_ne_nil_of_right_ne_nil _ ?_) _
    split <;> decide

theorem stays_write_decimal (x : Decimal) : Stays (x.write true) := by
  have zero : Stays "0.".toText := stays_cons (by decide) _
  have fraction : Stays ".0".toText := stays_cons (by decide) _
  have point : Stays ".".toText := stays_cons (by decide) _
  unfold Decimal.write
  dsimp only
  split
  · split
    · exact (zero.append_left _).append_left _
    · split
      · exact fraction.append_right _
      · exact (point.append_right _).append_left _
  · refine ((?_ : Stays _).append_right _).append_left _
    split <;> exact stays_cons (by decide) _

/-- What is written of a double is empty exactly if it is not finite. -/
theorem numberText_isEmpty (d : Double) : (numberText d).isEmpty = !d.isFinite := by
  cases d with
  | finite negative mantissa exponent =>
    refine List.isEmpty_eq_false_iff.mpr (List.append_ne_nil_of_right_ne_nil _ ?_)
    split
    · decide
    · exact write_decimal_ne_nil false _
  | _ => rfl

theorem stays_shortestText (d : Double) : Stays d.shortestText := by
  cases d with
  | nan => exact stays_cons (by decide) _
  | infinite negative => exact .append_right (stays_cons (by decide) _) _
  | finite negative mantissa exponent =>
    refine .append_right ?_ _
    split
    · exact stays_cons (by decide) _
    · exact stays_write_decimal _

/-- What a heading shows of a value that is no text stays. -/
theorem stays_displayInside {v : Json} (h : ∀ s, v ≠ .str s) : Stays v.displayInside := by
  cases v with
  | null => exact stays_cons (by decide) _
  | bool b => cases b <;> exact stays_cons (by decide) _
  | int i => exact stays_ofInt i
  | float d => exact stays_shortestText d
  | str s => exact (h s rfl).elim
  | arr items => exact stays_cons (by decide) _
  | obj fields => exact stays_cons (by decide) _

/-! ### Hidden values -/

theorem isEmpty_take (s : Text) : (s.take maxCellLength).isEmpty = s.isEmpty := by
  cases s <;> rfl

theorem isEmpty_shownText (s : Text) : (shownText s).isEmpty = (removeControls s).isEmpty := by
  unfold shownText
  dsimp only
  split
  · exact isEmpty_take _
  · exact isEmpty_take _

theorem isEmpty_removeControls {s : Text} : (removeControls s).isEmpty = true ↔ ¬ Stays s := by
  rw [List.isEmpty_iff, ← removeControls_ne_nil_iff, not_ne_iff]

theorem isEmpty_headingText_str (s : Text) :
    (shownText (headingText (.str s))).isEmpty = (removeControls s).isEmpty := by
  rw [isEmpty_shownText, Bool.eq_iff_iff, isEmpty_removeControls, isEmpty_removeControls,
    headingText, Json.display]
  refine not_congr ?_
  split
  · rename_i empty
    rw [List.isEmpty_iff.mp empty]
  · exact stays_upper_iff

theorem isEmpty_headingText {v : Json} (h : ∀ s, v ≠ .str s) :
    (shownText (headingText v)).isEmpty = v.isEmpty := by
  have display : v.display = v.displayInside := by
    cases v with
    | str s => exact (h s rfl).elim
    | _ => rfl
  rw [isEmpty_shownText, headingText, display]
  cases v.isEmpty with
  | true => rfl
  | false =>
    rw [if_neg Bool.false_ne_true, Bool.eq_false_iff, Ne, isEmpty_removeControls, not_not]
    exact stays_upper_iff.mpr (stays_displayInside h)

/-- Whether an integer has a place among the doubles. -/
def Fits : Json → Prop
  | .int i => (Double.ofInt i).isFinite = true
  | _ => True

/-- **What is shown of a value** is empty exactly if the value is hidden. -/
theorem isEmpty_shownIn (heading : Bool) {v : Json} (fits : heading = false → Fits v) :
    (shownIn heading v).isEmpty = isHidden heading v := by
  have written {v : Json} (bracket : Stays v.write) :
      (Entry.text ((removeControls v.write).take maxCellLength)).isEmpty = false := by
    rw [Entry.isEmpty, isEmpty_take, Bool.eq_false_iff, Ne, isEmpty_removeControls, not_not]
    exact bracket
  cases heading with
  | true =>
    rw [shownIn, if_pos rfl]
    cases v with
    | str s => exact isEmpty_headingText_str s
    | _ => exact isEmpty_headingText nofun
  | false =>
    rw [shownIn, if_neg Bool.false_ne_true]
    cases v with
    | null => rfl
    | bool b => rfl
    | int i => exact (numberText_isEmpty _).trans (congrArg not (fits rfl))
    | float d => exact numberText_isEmpty d
    | str s => exact isEmpty_shownText s
    | arr items => exact written (stays_cons (by decide) _)
    | obj fields => exact written (stays_cons (by decide) _)

/-! ### Cells that are written -/

theorem exists_renderCells_iff {row column : Nat} {cells : List Cell} :
    (∃ xs, renderCells row column cells = .ok xs) ↔
      ∀ cell ∈ cells, ∃ content, cell.content = .ok content := by
  induction cells generalizing column with
  | nil => exact ⟨fun _ => nofun, fun _ => ⟨[], rfl⟩⟩
  | cons cell cells ih => rw [List.forall_mem_cons, ← ih, renderCells, exists_bind_pair]

/-- **Rows are written** exactly if each of their cells is. -/
theorem exists_renderRows_iff {rows : List Row} :
    (∃ xs, renderRows rows = .ok xs) ↔
      ∀ row ∈ rows, ∀ cell ∈ row.cells, ∃ content, cell.content = .ok content := by
  induction rows with
  | nil => exact ⟨fun _ => nofun, fun _ => ⟨[], rfl⟩⟩
  | cons row rows ih =>
    rw [List.forall_mem_cons, ← ih, renderRows]
    split
    · rename_i empty
      rw [List.isEmpty_iff.mp empty]
      exact (and_iff_right nofun).symm
    · rw [← exists_renderCells_iff, exists_bind_pair]

theorem ofInt_ne_nan (i : Int) : Double.ofInt i ≠ .nan := by
  unfold Double.ofInt Double.ofRatio
  dsimp only
  split_ifs <;> exact nofun

theorem fits_of_content {v : Json} {content : Text × List Xml}
    (h : (Cell.ofValue v).content = .ok content) : Fits v := by
  cases v with
  | int i =>
    rw [Cell.ofValue, Cell.content] at h
    rw [Fits]
    cases hd : Double.ofInt i with
    | nan => exact (ofInt_ne_nan i hd).elim
    | infinite negative =>
      rw [hd] at h
      cases h
    | finite negative mantissa exponent => rfl
  | _ => trivial

theorem mem_rowsOf {heading : Nat → Bool} {number : Nat} {lists : List (List Json)} {row : Row} :
    row ∈ rowsOf heading number lists ↔ ∃ k values, lists[k]? = some values ∧
      row = ⟨number + k, values.map (cellOf (heading (number + k)))⟩ := by
  induction lists generalizing number with
  | nil => simp [rowsOf]
  | cons first lists ih =>
    rw [rowsOf, List.mem_cons, ih]
    constructor
    · rintro (rfl | ⟨k, values, there, rfl⟩)
      · exact ⟨0, first, rfl, rfl⟩
      · exact ⟨k + 1, values, there, by rw [Nat.add_right_comm, Nat.add_assoc]⟩
    · rintro ⟨_ | k, values, there, rfl⟩
      · cases there
        exact Or.inl rfl
      · exact Or.inr ⟨k, values, there, by rw [Nat.add_right_comm, Nat.add_assoc]⟩

/-- The cells of the sheet of a table, with the numbers of their rows, are those of the values at
its places. -/
theorem forall_cells_iff (items : List Json) (P : Nat → Cell → Prop) :
    (∀ row ∈ rowsOf (isHeading items) 1 (lists items), ∀ cell ∈ row.cells, P row.number cell) ↔
      ∀ row column v, valueAt? items row column = some v →
        P row (cellOf (isHeading items row) v) := by
  constructor
  · intro h row column v there
    unfold valueAt? at there
    split at there
    · rename_i place
      obtain ⟨values, hl, hv⟩ := Option.bind_eq_some_iff.mp there
      have number : 1 + (row - 1) = row := Nat.add_sub_cancel' place.1
      have here := h _ (mem_rowsOf.mpr ⟨row - 1, values, hl, rfl⟩) (cellOf (isHeading items row) v)
      rw [number] at here
      exact here (List.mem_map_of_mem (List.mem_of_getElem? hv))
    · cases there
  · intro h row hr cell hc
    obtain ⟨k, values, hl, rfl⟩ := mem_rowsOf.mp hr
    obtain ⟨v, hv, rfl⟩ := List.mem_map.mp hc
    obtain ⟨j, hj⟩ := List.getElem?_of_mem hv
    refine h (1 + k) (1 + j) v ?_
    rw [valueAt?, if_pos ⟨Nat.le_add_right 1 k, Nat.le_add_right 1 j⟩, Nat.add_sub_cancel_left,
      hl, Option.bind_some, Nat.add_sub_cancel_left, hj]

/-! ### Sheets -/

/-- **Empty cells.** Whenever the sheet of a table can be written, its rows are read back, and a
cell is empty exactly if the value at its place is hidden: outside the heading null, a text of which
no character stays, or a double that is not finite; and in the heading null, such a text, zero,
false, or an empty array or object. -/
theorem isEmpty_entryAt {items : List Json} {book : Workbook}
    (h : (Sheet.ofItems items).write = .ok book) :
    ∃ rows, book.rowTexts.map readRow = rows.map some ∧ ∀ row column,
      (entryAt rows row column).map Entry.isEmpty =
        (valueAt? items row column).map (isHidden (isHeading items row)) := by
  obtain ⟨-, -, xs, rendered, -⟩ := write_eq_ok_iff.mp h
  rw [rows_ofItems] at rendered
  refine ⟨sheetRows items, readRow_rowTexts h, fun row column => ?_⟩
  rw [entryAt_sheetRows, Option.map_map]
  refine Option.map_congr fun v hv => isEmpty_shownIn _ fun body => ?_
  have cells := (forall_cells_iff items fun _ cell => ∃ content, cell.content = .ok content).mp
    (exists_renderRows_iff.mp ⟨xs, rendered⟩)
  obtain ⟨content, hcontent⟩ := cells row column v hv
  rw [cellOf, body, if_neg Bool.false_ne_true] at hcontent
  exact fits_of_content hcontent

/-- A table of marks with a heading that holds zero, a word and a control. -/
def marksTable : List Json :=
  [.arr [.str "Name".toText, .int 0, .str "\x01".toText],
    .arr [.str "\x01".toText, .int 0, .bool false, .arr [], .float (.zero true), .float .nan]]

theorem isEmpty_entryAt_marks :
    ∃ book rows, (Sheet.ofItems marksTable).write = .ok book ∧
      book.rowTexts.map readRow = rows.map some ∧
      (List.range' 1 4).map (fun column => (entryAt rows 1 column).map Entry.isEmpty) =
        [some false, some true, some true, none] ∧
      (List.range' 1 7).map (fun column => (entryAt rows 2 column).map Entry.isEmpty) =
        [some true, some false, some false, some false, some false, some true, none] := by
  have written : (Sheet.ofItems marksTable).write.toOption.isSome = true := by decide +kernel
  obtain ⟨book, hb⟩ := Option.isSome_iff_exists.mp written
  have hb := toOption_eq_some.mp hb
  obtain ⟨rows, read, cells⟩ := isEmpty_entryAt hb
  refine ⟨book, rows, hb, read, ?_⟩
  simp only [cells]
  decide +kernel

/-- A zero in the heading is lost: the cell at its place is empty. -/
theorem isEmpty_entryAt_headingZero :
    valueAt? [.arr [.int 0]] 1 1 = some (.int 0) ∧
      ∃ book rows, (Sheet.ofItems [.arr [.int 0]]).write = .ok book ∧
        book.rowTexts.map readRow = rows.map some ∧ entryAt rows 1 1 = some (.text []) := by
  have read : (Sheet.ofItems [.arr [.int 0]]).write.toOption.map
      (fun book => book.rowTexts.map readRow) =
        some [some ⟨1, [⟨"A1".toText, .text []⟩]⟩] := by
    decide +kernel
  obtain ⟨book, hb, rows⟩ := Option.map_eq_some_iff.mp read
  exact ⟨rfl, book, [⟨1, [⟨"A1".toText, .text []⟩]⟩], toOption_eq_some.mp hb, rows, by decide⟩

end Table

end ExamPress

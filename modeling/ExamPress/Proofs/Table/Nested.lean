import ExamPress.Proofs.Json.RoundTrip
import ExamPress.Proofs.Table.Hidden
import ExamPress.Proofs.Table.Packing
import ExamPress.Proofs.Table.Refusals
import Mathlib.Data.List.TakeWhile

/-! # Arrays and objects in cells

A cell holds the JSON text of an array or an object, without the controls that XML lacks. A JSON
text has no such controls (`removeControls_of_read`): they are refused inside strings, and between
the parts of a text only blanks stand. So the text stays as it is written, and it is read back. -/

namespace ExamPress.Table

open Json (Part Reads Inside IsScalarChar skipSpace)

/-! ### JSON texts have no controls that are left out -/

theorem isRemoved_of_isSpace {c : CodePoint} (h : Json.isSpace c = true) : isRemoved c = false := by
  simp only [Json.isSpace, Bool.or_eq_true, beq_iff_eq] at h
  rcases h with ((rfl | rfl) | rfl) | rfl <;> decide

theorem le_of_hexValue {c : CodePoint} {n : Nat} (h : Text.Percent.hexValue? c = some n) :
    0x20 ≤ c.toNat := by
  unfold Text.Percent.hexValue? at h
  simp only [CodePoint.isBetween, Bool.and_eq_true, decide_eq_true_eq] at h
  have first : '0'.toNat = 48 ∧ 'a'.toNat = 97 ∧ 'A'.toNat = 65 := by decide
  split_ifs at h <;> omega

theorem le_of_escaped {c d : CodePoint} (h : Json.escaped? c = some d) : 0x20 ≤ c.toNat := by
  unfold Json.escaped? at h
  split at h
  all_goals first | decide | cases h

theorem le_of_mem_inside {s : Text} (h : Inside s) : ∀ c ∈ s, 0x20 ≤ c.toNat := by
  induction h with
  | nil => exact List.forall_mem_nil _
  | plain _ _ least _ ih => exact List.forall_mem_cons.mpr ⟨least, ih⟩
  | escape known _ ih =>
    simp only [List.forall_mem_cons]
    exact ⟨by decide, le_of_escaped known, ih⟩
  | unicode digits _ ih =>
    simp only [Json.hex4, Option.bind_eq_bind, Option.bind_eq_some_iff] at digits
    obtain ⟨_, ha, _, hb, _, hc, _, hd, -⟩ := digits
    simp only [List.forall_mem_cons]
    exact ⟨by decide, by decide, le_of_hexValue ha, le_of_hexValue hb, le_of_hexValue hc,
      le_of_hexValue hd, ih⟩

section

variable {s r : Text}

/-- The removed characters of a text stand behind a part of it. -/
def RemovedBehind (s r : Text) : Prop := ∀ c ∈ s, isRemoved c = true → c ∈ r

theorem RemovedBehind.trans {t : Text} (h : RemovedBehind s t) (h' : RemovedBehind t r) :
    RemovedBehind s r :=
  fun c hc removed => h' c (h c hc removed) removed

theorem RemovedBehind.cons {c : CodePoint} (stays : isRemoved c = false)
    (h : RemovedBehind s r) : RemovedBehind (c :: s) r := by
  refine List.forall_mem_cons.mpr ⟨fun removed => ?_, h⟩
  rw [stays] at removed
  cases removed

theorem removedBehind_append {a : Text} (h : ∀ c ∈ a, isRemoved c = false) :
    RemovedBehind (a ++ r) r := by
  intro c hc removed
  refine (List.mem_append.mp hc).resolve_left fun there => ?_
  rw [h c there] at removed
  cases removed

theorem removedBehind_skipSpace (s : Text) : RemovedBehind s (skipSpace s) := by
  have split : s.takeWhile Json.isSpace ++ skipSpace s = s := List.takeWhile_append_dropWhile
  have behind := removedBehind_append (r := skipSpace s) (a := s.takeWhile Json.isSpace)
    fun c hc => isRemoved_of_isSpace (List.mem_takeWhile_imp hc)
  rwa [split] at behind

theorem removedBehind_mark {c : CodePoint} (h : skipSpace s = c :: r)
    (stays : isRemoved c = false) : RemovedBehind s r := by
  have behind := removedBehind_skipSpace s
  rw [h] at behind
  exact behind.trans (.cons stays fun _ hd _ => hd)

theorem removedBehind_readString {t : Text} (h : Json.readString 1 [] 0 s = .ok (t, r)) :
    RemovedBehind s r := by
  obtain ⟨p, b, rfl, length, inside⟩ := Json.exists_inside h
  obtain rfl := List.length_eq_zero_iff.mp length
  rw [List.nil_append, ← List.singleton_append, ← List.append_assoc]
  refine removedBehind_append (List.forall_mem_append.mpr
    ⟨fun c hc => isRemoved_eq_false (le_of_mem_inside inside c hc), by decide⟩)

theorem removedBehind_readScalar {v : Json} (h : Json.readScalar s = .ok (v, r)) :
    RemovedBehind s r := by
  obtain ⟨a, rfl, -, chars, -⟩ := Json.exists_scalar h
  refine removedBehind_append fun c hc => isRemoved_eq_false ?_
  have := (chars c hc).bounds.1
  omega

theorem removedBehind_named {name : Text} (h : Json.Named s name r) : RemovedBehind s r := by
  obtain ⟨string, colon⟩ := h
  exact .cons (by decide) ((removedBehind_readString string).trans
    ((removedBehind_mark colon (by decide)).trans (removedBehind_skipSpace _)))

/-- **A part of a JSON text** has no characters that are left out. -/
theorem removedBehind_of_reads {part : Part} (h : Reads s part r) : RemovedBehind s r := by
  induction h with
  | string h => exact .cons (by decide) (removedBehind_readString h)
  | simple _ h => exact removedBehind_readScalar h
  | emptyArray close => exact .cons (by decide) (removedBehind_mark close (by decide))
  | array _ ih => exact .cons (by decide) ((removedBehind_skipSpace _).trans ih)
  | emptyObject close => exact .cons (by decide) (removedBehind_mark close (by decide))
  | object _ ih => exact .cons (by decide) ((removedBehind_skipSpace _).trans ih)
  | lastItem _ close ih => exact ih.trans (removedBehind_mark close (by decide))
  | item _ comma _ ih rest =>
    exact ih.trans ((removedBehind_mark comma (by decide)).trans
      ((removedBehind_skipSpace _).trans rest))
  | lastEntry named _ close ih =>
    exact (removedBehind_named named).trans (ih.trans (removedBehind_mark close (by decide)))
  | entry named _ comma _ ih rest =>
    exact (removedBehind_named named).trans (ih.trans ((removedBehind_mark comma (by decide)).trans
      ((removedBehind_skipSpace _).trans rest)))

/-- **A JSON text** stays as it is when the controls are left out. -/
theorem removeControls_of_read {v : Json} (h : Json.read s = .ok v) : removeControls s = s := by
  obtain ⟨r, value, close⟩ := Json.read_eq_ok_iff.mp h
  have behind := (removedBehind_skipSpace s).trans
    ((removedBehind_of_reads value).trans (removedBehind_skipSpace r))
  rw [close] at behind
  refine List.filter_eq_self.mpr fun c hc => ?_
  cases removed : isRemoved c with
  | false => rfl
  | true => cases behind c hc removed

end

/-! ### Arrays and objects -/

/-- An array or an object. -/
def IsNested (v : Json) : Prop := (∃ items, v = .arr items) ∨ ∃ fields, v = .obj fields

theorem eq_text_of_entry {cell : Cell} {t : Text} (h : cell.entry = .text t) : cell = .text t := by
  cases cell <;> cases h
  rfl

theorem ofValue_of_isNested {v : Json} (h : IsNested v) :
    Cell.ofValue v = .text ((removeControls v.write).take maxCellLength) := by
  refine eq_text_of_entry ((entry_cellOf false v).trans ?_)
  rcases h with ⟨items, rfl⟩ | ⟨fields, rfl⟩ <;> rfl

theorem wellFormed_valueAt {items : List Json} (h : (Json.arr items).WellFormed) {row column : Nat}
    {v : Json} (value : valueAt? items row column = some v) : v.WellFormed := by
  unfold valueAt? at value
  split_ifs at value
  obtain ⟨values, there, value⟩ := Option.bind_eq_some_iff.mp value
  cases h with
  | arr all =>
    cases all _ (mem_lists.mp (List.mem_of_getElem? there)) with
    | arr all => exact all v (List.mem_of_getElem? value)

theorem removeControls_write {v : Json} (h : v.WellFormed) : removeControls v.write = v.write :=
  removeControls_of_read (Json.read_write h)

/-- **Arrays and objects are found in their cells.** Whenever an array or an object can be read, the
controls that are left out do not occur in its JSON text, which is the text of its cell up to the
largest length, and it is read back from this text. In the sheet of a table this holds of every
array and object outside the heading. -/
theorem nested_in_cells :
    (∀ source v, Json.read source = .ok v → IsNested v →
      removeControls v.write = v.write ∧ Json.read (removeControls v.write) = .ok v ∧
        Cell.ofValue v = .text ((removeControls v.write).take maxCellLength)) ∧
    ∀ source items book, rows source = .ok items → (Sheet.ofItems items).write = .ok book →
      ∃ sheet, book.rowTexts.map readRow = sheet.map some ∧
        ∀ row column v, isHeading items row = false → valueAt? items row column = some v →
          IsNested v → Json.read v.write = .ok v ∧
            entryAt sheet row column = some (.text (v.write.take maxCellLength)) := by
  constructor
  · intro source v read nested
    have wellFormed := Json.wellFormed_of_read read
    rw [removeControls_write wellFormed]
    refine ⟨rfl, Json.read_write wellFormed, ?_⟩
    rw [ofValue_of_isNested nested, removeControls_write wellFormed]
  · intro source items book table written
    obtain ⟨r, spelled, -⟩ := rows_eq_ok_iff.mp table
    refine ⟨sheetRows items, readRow_rowTexts written, fun row column v body value nested => ?_⟩
    have wellFormed := wellFormed_valueAt spelled.wellFormed value
    have shows : shown v = .text ((removeControls v.write).take maxCellLength) := by
      rcases nested with ⟨items, rfl⟩ | ⟨fields, rfl⟩ <;> rfl
    rw [removeControls_write wellFormed] at shows
    refine ⟨Json.read_write wellFormed, ?_⟩
    rw [entryAt_sheetRows, value, body, ← shows]
    rfl

/-- An object with a control character and a backslash in a name, a double and an integer. -/
def nestedObject : Json :=
  .obj [(['\x01', '\\'], .arr [.float (.finite true (3 * 2 ^ 51) (-52)), .int 15])]

/-- The JSON text of the object. -/
def nestedText : Text := "\x7b\"\\u0001\\\\\": [-1.5, 15]\x7d".toText

theorem wellFormed_nestedObject : nestedObject.WellFormed := by
  have double : Double.IsCanonical (.finite true (3 * 2 ^ 51) (-52)) :=
    ⟨by decide, by decide, by decide, Or.inr (by decide)⟩
  refine .obj (List.nodup_singleton _) (List.forall_mem_singleton.mpr (.arr ?_))
  simp only [List.forall_mem_cons]
  exact ⟨.float double, .int (by decide), List.forall_mem_nil _⟩

theorem nested_in_cells_nestedObject : ∃ book sheet,
    rows ("[[\"h\"], [".toText ++ nestedText ++ "]]".toText) =
        .ok [.arr [.str ['h']], .arr [nestedObject]] ∧
      (Sheet.ofItems [.arr [.str ['h']], .arr [nestedObject]]).write = .ok book ∧
      book.rowTexts.map readRow = sheet.map some ∧
      entryAt sheet 2 1 = some (.text nestedText) ∧ Json.read nestedText = .ok nestedObject ∧
      removeControls nestedText = nestedText := by
  obtain ⟨values, sheets⟩ := nested_in_cells
  have text : nestedObject.write = nestedText := by decide +kernel
  have nested : IsNested nestedObject := Or.inr ⟨_, rfl⟩
  have table : rows ("[[\"h\"], [".toText ++ nestedText ++ "]]".toText) =
      .ok [.arr [.str ['h']], .arr [nestedObject]] := by
    have wellFormed : (Json.arr [.arr [.str ['h']], .arr [nestedObject]]).WellFormed := by
      refine .arr ?_
      simp only [List.forall_mem_cons]
      exact ⟨.arr (List.forall_mem_singleton.mpr (.str _)),
        .arr (List.forall_mem_singleton.mpr wellFormed_nestedObject), List.forall_mem_nil _⟩
    have source : payload ("[[\"h\"], [".toText ++ nestedText ++ "]]".toText) =
        (Json.arr [.arr [.str ['h']], .arr [nestedObject]]).write := by decide +kernel
    rw [rows_eq_ok_iff, source]
    exact Json.read_eq_ok_iff.mp (Json.read_write wellFormed)
  have written : (Sheet.ofItems [.arr [.str ['h']], .arr [nestedObject]]).write.toOption.isSome =
      true := by decide +kernel
  obtain ⟨book, hb⟩ := Option.isSome_iff_exists.mp written
  have hb := toOption_eq_some.mp hb
  obtain ⟨sheet, read, entries⟩ := sheets _ _ _ table hb
  obtain ⟨readBack, entry⟩ := entries 2 1 nestedObject rfl rfl nested
  have kept := (values _ _ readBack nested).1
  have short : nestedText.take maxCellLength = nestedText := by decide +kernel
  rw [text] at readBack entry kept
  rw [short] at entry
  exact ⟨book, sheet, table, hb, read, entry, readBack, kept⟩

end ExamPress.Table

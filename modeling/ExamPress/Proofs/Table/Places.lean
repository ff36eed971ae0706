import ExamPress.Proofs.Text.Front
import ExamPress.Proofs.Text.Numbers
import ExamPress.Table.Sheet

/-! # The names of cells

The name of a cell tells its row and its column (`place_cellName`). The letters of a column are the
digits of its number, from one to 26, without a digit for zero. -/

namespace ExamPress.Table

/-- Whether a character is a letter of a column. -/
def isColumnLetter (c : CodePoint) : Bool := c.isBetween 'A' 'Z'

/-- The column that letters name. -/
def columnOf (letters : Text) : Nat := letters.foldl (fun n c => 26 * n + (c.toNat - 64)) 0

/-- The row and the column that a name stands for. -/
def place? (name : Text) : Option (Nat × Nat) :=
  let letters := name.takeWhile isColumnLetter
  let digits := name.drop letters.length
  if letters ≠ [] ∧ digits ≠ [] ∧ digits.all CodePoint.isDigit then
    some (Text.toNat digits, columnOf letters)
  else none

/-! ### Letters -/

theorem toNat_letter : ∀ digit < 26, (CodePoint.ofNat (65 + digit)).toNat = 65 + digit ∧
    isColumnLetter (CodePoint.ofNat (65 + digit)) = true := by
  decide

theorem isColumnLetter_of_isDigit {c : CodePoint} (h : c.isDigit = true) :
    isColumnLetter c = false := by
  cases c with
  | char c =>
    have digit : 48 ≤ c.val ∧ c.val ≤ 57 := by
      simpa [CodePoint.isDigit, CodePoint.satisfies, Char.isDigit] using h
    have below : c.toNat ≤ 57 := UInt32.le_iff_toNat_le.mp digit.2
    have first : ¬ 'A'.toNat ≤ c.toNat := Nat.not_le_of_lt (Nat.lt_of_le_of_lt below (by decide))
    rw [isColumnLetter, CodePoint.isBetween, CodePoint.toNat, decide_eq_false first,
      Bool.false_and]
  | surrogate _ => cases h

theorem isColumnLetter_of_mem {column : Nat} {c : CodePoint} (h : c ∈ columnLetters column) :
    isColumnLetter c = true := by
  fun_induction columnLetters column with
  | case1 => cases h
  | case2 n ih =>
    rcases List.mem_append.mp h with h | h
    · exact ih h
    · rw [List.mem_singleton.mp h]
      exact (toNat_letter _ (Nat.mod_lt _ (by decide))).2

theorem columnOf_columnLetters (column : Nat) : columnOf (columnLetters column) = column := by
  fun_induction columnLetters column with
  | case1 => rfl
  | case2 n ih =>
    have digit := (toNat_letter (n % 26) (Nat.mod_lt _ (by decide))).1
    rw [columnOf] at ih
    rw [columnOf, List.foldl_append, ih, List.foldl_cons, List.foldl_nil, digit]
    omega

theorem columnLetters_ne_nil {column : Nat} (h : 0 < column) : columnLetters column ≠ [] := by
  obtain ⟨n, rfl⟩ := Nat.exists_eq_succ_of_ne_zero (Nat.ne_of_gt h)
  rw [columnLetters]
  simp

/-! ### Names -/

/-- **The name of a cell** tells where it is. -/
theorem place_cellName (row : Nat) {column : Nat} (h : 0 < column) :
    place? (cellName row column) = some (row, column) := by
  have letters : (cellName row column).takeWhile isColumnLetter = columnLetters column := by
    refine Text.takeWhile_append (fun c => isColumnLetter_of_mem) fun c hc => ?_
    exact isColumnLetter_of_isDigit (Text.isDigit_of_mem_ofNat (List.mem_of_mem_head? hc))
  have digits : (cellName row column).drop (columnLetters column).length = Text.ofNat row :=
    List.drop_left
  have all : (Text.ofNat row).all CodePoint.isDigit = true :=
    List.all_eq_true.mpr fun c => Text.isDigit_of_mem_ofNat
  simp only [place?, letters, digits]
  rw [if_pos ⟨columnLetters_ne_nil h, Text.ofNat_ne_nil row, all⟩, Text.toNat_ofNat,
    columnOf_columnLetters]

end ExamPress.Table

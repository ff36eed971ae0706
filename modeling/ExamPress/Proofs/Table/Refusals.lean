import ExamPress.Proofs.Json.Grammar
import ExamPress.Proofs.Table.Payload

/-! # Why a text is no table

A text gives the items of the array that its payload spells, in their order (`rows_eq_ok_iff`). Any
other text is refused as having the wrong form, but for those that lead the reader to an integer
with more than 4300 digits: their refusal is none of the form, also where the text is an array
(`rows_oneBefore`). -/

namespace ExamPress.Table

variable {s : Text}

/-! ### Outcomes -/

theorem rows_eq_ok_iff {items : List Json} :
    rows s = .ok items ↔ Json.Spells (payload s) (.arr items) := by
  rw [← Json.read_eq_ok_iff, rows]
  split
  · rename_i e h
    simp [h]
  · rename_i found h
    simp [h]
  · rename_i v other h
    rw [h]
    refine ⟨nofun, fun same => (other items ?_).elim⟩
    exact Except.ok.inj same

theorem rows_eq_tooManyDigits_iff {count : Nat} :
    rows s = .error (.unreadable (.tooManyDigits count)) ↔ Json.MeetsLimit (payload s) count := by
  rw [← Json.read_eq_tooManyDigits_iff, rows]
  split
  · rename_i e h
    simp [h]
  · rename_i found h
    simp [h]
  · rename_i v other h
    simp [h]

theorem isFormatError_eq_false_iff {refusal : Refusal} :
    refusal.isFormatError = false ↔ ∃ count, refusal = .unreadable (.tooManyDigits count) := by
  unfold Refusal.isFormatError
  split
  · simp
  · rename_i other
    simp only [Bool.true_eq_false, false_iff]
    rintro ⟨count, rfl⟩
    exact other count rfl

/-- **Every text** carries one text, and its rows are the items of the array that this one spells.
If it spells no array, then the text is refused as having the wrong form, unless a number in it has
too many digits: then the refusal is another one. -/
theorem rows_outcome (s : Text) : ∃ t, (∀ u, Carries s u ↔ u = t) ∧
    (∀ items, rows s = .ok items ↔ Json.Spells t (.arr items)) ∧
    ((∃ refusal, rows s = .error refusal ∧ refusal.isFormatError = true) ↔
      (∀ items, ¬ Json.Spells t (.arr items)) ∧ ∀ count, ¬ Json.MeetsLimit t count) ∧
    ((∃ refusal, rows s = .error refusal ∧ refusal.isFormatError = false) ↔
      ∃ count, Json.MeetsLimit t count) ∧
    ∀ count, Json.MeetsLimit t count → Whole.maxDigits < count ∧ Json.HasDigits count t := by
  have limit : (∃ refusal, rows s = .error refusal ∧ refusal.isFormatError = false) ↔
      ∃ count, Json.MeetsLimit (payload s) count := by
    simp only [isFormatError_eq_false_iff, ← rows_eq_tooManyDigits_iff]
    constructor
    · rintro ⟨_, refused, count, rfl⟩
      exact ⟨count, refused⟩
    · rintro ⟨count, refused⟩
      exact ⟨_, refused, count, rfl⟩
  refine ⟨payload s, fun u => carries_iff.trans eq_comm, fun _ => rows_eq_ok_iff, ?_, limit,
    fun _ => Json.MeetsLimit.hasDigits⟩
  rw [← not_exists, ← not_exists, ← limit]
  simp only [← rows_eq_ok_iff]
  cases rows s with
  | ok items => simp
  | error refusal => cases h : refusal.isFormatError <;> simp [h]

/-! ### Long integers -/

/-- An array of one integer that is a one before other digits. -/
def oneBefore (digits : Text) : Text := '[' :: '1' :: (digits ++ [.char ']'])

theorem carries_oneBefore {digits : Text} (hd : ∀ d ∈ digits, d.isDigit = true) :
    Carries (oneBefore digits) (oneBefore digits) := by
  refine .self ?_ ?_ ?_
  · simp only [oneBefore, List.forall_mem_cons, List.forall_mem_append]
    refine ⟨by decide, by decide, ?_, by decide, nofun⟩
    rintro _ mark rfl
    cases hd _ mark
  · rintro _ ⟨⟩
    decide
  · intro c hc
    rw [oneBefore, ← List.cons_append, ← List.cons_append, List.getLast?_concat] at hc
    cases hc
    decide

/-- Such an integer with too many digits is refused, but not as a fault of the form. -/
theorem rows_oneBefore {digits : Text} (hd : ∀ d ∈ digits, d.isDigit = true)
    (long : Whole.maxDigits ≤ digits.length) :
    rows (oneBefore digits) = .error (.unreadable (.tooManyDigits (digits.length + 1))) := by
  rw [rows_eq_tooManyDigits_iff, carries_iff.mp (carries_oneBefore hd)]
  exact .array (.firstItem (Json.exceeds_longInteger hd long))

/-- The array of a number of 4301 ones neither gives rows nor is refused for its form. -/
theorem rows_ones : ∃ refusal, rows (oneBefore (List.replicate 4300 '1')) = .error refusal ∧
    refusal.isFormatError = false := by
  refine ⟨_, rows_oneBefore (fun d hd => ?_) ?_, rfl⟩
  · rw [List.eq_of_mem_replicate hd]
    rfl
  · rw [List.length_replicate, Whole.maxDigits]

end ExamPress.Table

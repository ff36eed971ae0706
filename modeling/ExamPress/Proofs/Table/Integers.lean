import ExamPress.Proofs.Json.Numbers
import ExamPress.Proofs.Number.Overflow
import ExamPress.Proofs.Table.Packing

/-! # Integers in cells

An integer in a cell is rounded twice, to the nearest double and then to the nearest sixteen digits
of the double (`denoted_numberText`). Both roundings keep the order of integers, and neither changes
one that is at most `2 ^ 53`, which has no more than sixteen digits. -/

namespace ExamPress.Table

open Double Json

/-! ### The two roundings -/

/-- The double nearest to a number, as a number. -/
def toUnits (q : ℚ) : ℚ := roundTo 2 (unitOf q) q

/-- The nearest sixteen digits of a number, as a number. -/
def toDigits (q : ℚ) : ℚ := roundTo 10 (Decimal.lastPower q 16) q

theorem toDigits_toUnits_mono {q q' : ℚ} (hq : 0 ≤ q) (le : q ≤ q') :
    toDigits (toUnits q) ≤ toDigits (toUnits q') :=
  Decimal.roundTo_lastPower_mono (roundTo_nonneg _ _ _) (roundTo_unitOf_mono hq le) (by decide)

theorem ofInt_eq_finite {i : Int} (fits : i.natAbs < overflow) : ∃ m e,
    Double.ofInt i = .finite (i < 0) m e ∧ Canonical m e ∧ (m : ℚ) * 2 ^ e = toUnits i.natAbs := by
  cases h : Double.ofInt i with
  | nan => exact (ofInt_ne_nan i h).elim
  | infinite negative => exact absurd (ofInt_eq_infinite_iff.mp ⟨negative, h⟩) (by omega)
  | finite negative m e =>
    obtain ⟨rfl, canonical, magnitude⟩ := ofRatio_eq_finite one_ne_zero h
    rw [Nat.cast_one, div_one] at magnitude
    exact ⟨m, e, rfl, canonical, magnitude⟩

/-- **The text of a finite double** denotes its nearest sixteen digits. -/
theorem denoted_sixteenDigits (negative : Bool) (m : Nat) (e : Int) :
    denoted? (sixteenDigits (.finite negative m e)) =
      some (if negative then -toDigits (m * 2 ^ e) else toDigits (m * 2 ^ e)) := by
  by_cases hm : m = 0
  · have text : sixteenDigits (.finite negative m e) =
        signText negative ++ (naturalParts 0).text := by
      rw [sixteenDigits, Double.writeWith, if_pos hm]
      rfl
    have zero : (naturalParts 0).value = toDigits (m * 2 ^ e) := by
      rw [hm, Nat.cast_zero, zero_mul, toDigits, roundTo_zero]
      simp [NumberParts.value, NumberParts.digits, naturalParts, Text.toNat_ofNat]
    rw [text, denoted_text (wellFormed_naturalParts 0), zero]
  · have ratio := mul_zpow_eq m (by decide : 0 < 2) e
    have num : m * 2 ^ e.toNat ≠ 0 := by positivity
    have den : 2 ^ (-e).toNat ≠ 0 := by positivity
    have text : sixteenDigits (.finite negative m e) = signText negative ++ (decimalParts false
        (Decimal.rounded (m * 2 ^ e.toNat) (2 ^ (-e).toNat) 16)).text := by
      rw [sixteenDigits, Double.writeWith, if_neg hm, ← write_decimal]
      rfl
    have wellFormed := Decimal.wellFormed_rounded num den (by decide : 1 ≤ 16)
    have value := (value_decimalParts wellFormed.some false).trans
      (Decimal.value_rounded num den 16)
    rw [ratio, Nat.cast_ofNat] at value
    rw [text, denoted_text (wellFormed_decimalParts wellFormed false), value]
    rfl

/-- **The text of an integer** that fits denotes the integer after the two roundings. -/
theorem denoted_numberText {i : Int} (fits : i.natAbs < overflow) :
    denoted? (numberText (.ofInt i)) =
      some (if i < 0 then -toDigits (toUnits i.natAbs) else toDigits (toUnits i.natAbs)) := by
  obtain ⟨m, e, double, -, magnitude⟩ := ofInt_eq_finite fits
  rw [numberText, double, denoted_sixteenDigits, magnitude]
  simp only [decide_eq_true_eq]

/-! ### Integers that keep their value -/

theorem toUnits_natCast {n : Nat} (small : n ≤ 2 ^ 53) : toUnits n = n := by
  rcases small.eq_or_lt with rfl | small
  · have power : ((2 ^ 53 : Nat) : ℚ) = ((2 : Nat) : ℚ) ^ (53 : Int) := by norm_cast
    rw [toUnits, power]
    refine roundTo_zpow (by decide) ?_
    have := Int.log_zpow (R := ℚ) (by decide : 1 < 2) 53
    rw [unitOf, this]
    decide
  · refine roundTo_natCast (by decide) ?_ n
    have digits : Nat.log 2 n < 53 := by
      by_cases hn : n = 0
      · rw [hn]
        decide
      · exact (Nat.log_lt_iff_lt_pow (by decide) hn).mpr small
    rw [unitOf, Int.log_natCast]
    exact max_le (by decide) (by omega)

/-- **An integer up to `2 ^ 53`** is written as its decimal text. -/
theorem numberText_ofInt {i : Int} (small : i.natAbs ≤ 2 ^ 53) :
    numberText (.ofInt i) = Text.ofInt i := by
  have fits : i.natAbs < overflow :=
    Nat.lt_of_le_of_lt small (by decide +kernel : 2 ^ 53 < overflow)
  obtain ⟨m, e, double, -, magnitude⟩ := ofInt_eq_finite fits
  rw [toUnits_natCast small] at magnitude
  rw [numberText, double, sixteenDigits, Double.writeWith, ofInt_eq]
  refine congrArg _ ?_
  by_cases hm : m = 0
  · have zero : i.natAbs = 0 := by
      rw [hm, Nat.cast_zero, zero_mul] at magnitude
      exact_mod_cast magnitude.symm
    rw [if_pos hm, zero]
    rfl
  · have ratio := mul_zpow_eq m (by decide : 0 < 2) e
    have some : i.natAbs ≠ 0 := by
      intro zero
      rw [zero, Nat.cast_zero, mul_eq_zero] at magnitude
      rcases magnitude with none | none
      · exact hm (by exact_mod_cast none)
      · exact (by positivity : (2 : ℚ) ^ e ≠ 0) none
    rw [if_neg hm]
    exact Decimal.write_rounded_natCast some (Nat.two_pow_pos _).ne' (ratio.trans magnitude)
      (Nat.lt_of_le_of_lt small (by decide))

/-! ### Integers that keep their order -/

/-- **Integers that fit keep their order**: the numbers that their texts denote are in the same
order. -/
theorem exists_denoted_le {i j : Int} (le : i ≤ j) (fits : i.natAbs < overflow)
    (fits' : j.natAbs < overflow) : ∃ p q, denoted? (numberText (.ofInt i)) = some p ∧
      denoted? (numberText (.ofInt j)) = some q ∧ p ≤ q := by
  refine ⟨_, _, denoted_numberText fits, denoted_numberText fits', ?_⟩
  have nonneg (n : Nat) : 0 ≤ toDigits (toUnits n) := roundTo_nonneg _ _ _
  have mono {n k : Nat} (h : n ≤ k) : toDigits (toUnits n) ≤ toDigits (toUnits k) :=
    toDigits_toUnits_mono (Nat.cast_nonneg n) (by exact_mod_cast h)
  by_cases hi : i < 0
  · by_cases hj : j < 0
    · rw [if_pos hi, if_pos hj]
      exact neg_le_neg (mono (by omega))
    · rw [if_pos hi, if_neg hj]
      exact (neg_nonpos.mpr (nonneg _)).trans (nonneg _)
  · rw [if_neg hi, if_neg (by omega)]
    exact mono (by omega)

theorem lt_overflow_of_write {items : List Json} {book : Workbook}
    (h : (Sheet.ofItems items).write = .ok book) {row column : Nat} {i : Int}
    (body : isHeading items row = false) (value : valueAt? items row column = some (.int i)) :
    i.natAbs < overflow := by
  have content := (exists_write_ofItems.mp ⟨book, h⟩).2.2 row column _ value
  rw [body] at content
  exact Nat.lt_of_not_le (exists_content_integer.mp content)

theorem content_integer {i : Int} (fits : i.natAbs < overflow) :
    (Cell.ofValue (.int i)).content =
      .ok (['n'], [.element "v" [] [.text (numberText (.ofInt i))]]) := by
  obtain ⟨m, e, double, -, -⟩ := ofInt_eq_finite fits
  rw [Cell.ofValue, Cell.content, double]

/-- **Integers in cells keep their value and their order.** Every integer that fits a double is
written as a number. One up to `2 ^ 53` is written as its decimal text, and the numbers that the
texts of any two denote are in the order of the integers. In the sheet of a table every integer
outside the heading fits, and its cell holds this text. -/
theorem integers_in_cells :
    (∀ i : Int, i.natAbs < overflow → (Cell.ofValue (.int i)).content =
      .ok (['n'], [.element "v" [] [.text (numberText (.ofInt i))]])) ∧
    (∀ i : Int, i.natAbs ≤ 2 ^ 53 → numberText (.ofInt i) = Text.ofInt i) ∧
    (∀ i j : Int, i ≤ j → i.natAbs < overflow → j.natAbs < overflow → ∃ p q,
      denoted? (numberText (.ofInt i)) = some p ∧ denoted? (numberText (.ofInt j)) = some q ∧
        p ≤ q) ∧
    ∀ items book, (Sheet.ofItems items).write = .ok book →
      ∃ rows, book.rowTexts.map readRow = rows.map some ∧
        ∀ row column i, isHeading items row = false →
          valueAt? items row column = some (.int i) →
          i.natAbs < overflow ∧
            entryAt rows row column = some (.number (numberText (.ofInt i))) := by
  refine ⟨fun i => content_integer, fun i => numberText_ofInt,
    fun i j => exists_denoted_le, fun items book h => ?_⟩
  refine ⟨sheetRows items, readRow_rowTexts h, fun row column i body value =>
    ⟨lt_overflow_of_write h body value, ?_⟩⟩
  rw [entryAt_sheetRows, value, body]
  rfl

/-- A heading, the largest integer that is sure to keep its value, and two neighbours that do not
and are written alike. -/
def integerTable : List Json :=
  [.arr [.int 7], .arr [.int (2 ^ 53)], .arr [.int (-(10 ^ 22 + 1)), .int (-(10 ^ 22))]]

theorem integers_in_cells_integerTable :
    ∃ book rows, (Sheet.ofItems integerTable).write = .ok book ∧
      book.rowTexts.map readRow = rows.map some ∧
      entryAt rows 2 1 = some (.number "9007199254740992".toText) ∧
      entryAt rows 3 1 = some (.number "-1e+22".toText) ∧
      entryAt rows 3 2 = some (.number "-1e+22".toText) ∧
      ∃ p q, denoted? "-1e+22".toText = some p ∧ denoted? "9007199254740992".toText = some q ∧
        p ≤ q := by
  obtain ⟨-, value, order, sheets⟩ := integers_in_cells
  have written : (Sheet.ofItems integerTable).write.toOption.isSome = true := by decide +kernel
  obtain ⟨book, hb⟩ := Option.isSome_iff_exists.mp written
  have hb := toOption_eq_some.mp hb
  obtain ⟨rows, read, entries⟩ := sheets _ _ hb
  have texts : numberText (.ofInt (-(10 ^ 22 + 1))) = "-1e+22".toText ∧
      numberText (.ofInt (-(10 ^ 22))) = "-1e+22".toText ∧
      Text.ofInt (2 ^ 53) = "9007199254740992".toText := by decide +kernel
  have power := (value (2 ^ 53) (by decide)).trans texts.2.2
  refine ⟨book, rows, hb, read, ?_, ?_, ?_, ?_⟩
  · rw [(entries 2 1 (2 ^ 53) (by decide) rfl).2, power]
  · rw [(entries 3 1 _ (by decide) rfl).2, texts.1]
  · rw [(entries 3 2 _ (by decide) rfl).2, texts.2.1]
  · have apart := order (-(10 ^ 22)) (2 ^ 53) (by decide) (by decide +kernel) (by decide +kernel)
    rwa [texts.2.1, power] at apart

end ExamPress.Table

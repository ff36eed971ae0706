import ExamPress.Text.Basic

/-! # Numbers of code points and decimal digits

The number of a code point tells which it is, and the decimal digits of a number tell the number. -/

namespace ExamPress

theorem CodePoint.ofNat_toNat (c : CodePoint) : ofNat c.toNat = c := by
  cases c with
  | char c =>
    have h : ¬ (firstSurrogate ≤ c.toNat ∧ c.toNat < firstSurrogate + 2048) := by
      have hc : c.toNat < 0xd800 ∨ 0xdfff < c.toNat ∧ c.toNat < 0x110000 := c.valid
      simp only [firstSurrogate]
      omega
    exact (dif_neg h).trans (congrArg char (Char.ofNat_toNat c))
  | surrogate index =>
    have h : firstSurrogate ≤ firstSurrogate + index ∧
        firstSurrogate + index < firstSurrogate + 2048 := by omega
    refine (dif_pos h).trans (congrArg surrogate (Fin.ext ?_))
    exact Nat.add_sub_cancel_left firstSurrogate index

/-- Below the end of Unicode every number is the one of its code point. -/
theorem CodePoint.toNat_ofNat {n : Nat} (h : n < 0x110000) : (ofNat n).toNat = n := by
  by_cases hs : firstSurrogate ≤ n ∧ n < firstSurrogate + 2048
  · rw [ofNat, dif_pos hs]
    exact Nat.add_sub_cancel' hs.1
  · have valid : n.isValidChar := by
      simp only [firstSurrogate] at hs
      simp only [Nat.isValidChar]
      omega
    rw [ofNat, dif_neg hs, Char.ofNat, dif_pos valid]
    rfl

theorem CodePoint.bounds_of_isAlpha {c : CodePoint} (h : c.isAlpha = true) :
    0x41 ≤ c.toNat ∧ c.toNat ≤ 0x7a ∧ c.isSurrogate = false := by
  cases c with
  | char c =>
    have bounds : (0x41 ≤ c.val ∧ c.val ≤ 0x5a) ∨ (0x61 ≤ c.val ∧ c.val ≤ 0x7a) := by
      have h : c.isUpper = true ∨ c.isLower = true := (Bool.or_eq_true _ _).mp h
      rcases h with upper | lower
      · exact Or.inl (of_decide_eq_true upper)
      · obtain ⟨least, greatest⟩ := (Bool.and_eq_true _ _).mp lower
        exact Or.inr ⟨of_decide_eq_true least, of_decide_eq_true greatest⟩
    have number : (char c).toNat = c.val.toNat := rfl
    simp only [UInt32.le_iff_toNat_le, UInt32.reduceToNat] at bounds
    refine ⟨?_, ?_, rfl⟩ <;> omega
  | surrogate _ => cases h

theorem CodePoint.bounds_of_isDigit {c : CodePoint} (h : c.isDigit = true) :
    0x30 ≤ c.toNat ∧ c.toNat ≤ 0x39 := by
  cases c with
  | char c =>
    obtain ⟨least, greatest⟩ := (Bool.and_eq_true _ _).mp h
    exact ⟨UInt32.le_iff_toNat_le.mp (of_decide_eq_true least),
      UInt32.le_iff_toNat_le.mp (of_decide_eq_true greatest)⟩
  | surrogate _ => cases h

namespace Text

theorem isDigit_of_mem_ofNat {n : Nat} {c : CodePoint} (h : c ∈ ofNat n) : c.isDigit = true := by
  obtain ⟨d, hd, rfl⟩ := List.mem_map.mp h
  exact Nat.isDigit_of_mem_toDigits (by decide) (by decide) hd

theorem ofNat_ne_nil (n : Nat) : ofNat n ≠ [] := by
  simp [ofNat, Nat.toDigits_ne_nil]

theorem toNat_ofNat (n : Nat) : toNat (ofNat n) = n := by
  have step (l : List Char) (hl : ∀ c ∈ l, c.isDigit = true) (k : Nat) :
      (l.map CodePoint.char).foldl (fun n c => 10 * n + c.digitValue) k =
        Nat.ofDigitChars 10 l k := by
    induction l generalizing k with
    | nil => simp
    | cons c l ih =>
      have hc : (CodePoint.char c).digitValue = c.toNat - '0'.toNat := by
        have : (CodePoint.char c).isDigit = true := hl c (by simp)
        simp [CodePoint.digitValue, this, CodePoint.toNat]
      rw [List.map_cons, List.foldl_cons, hc, ih (fun c hc => hl c (by simp [hc])),
        Nat.ofDigitChars_cons]
  rw [toNat, ofNat, step _ fun c hc => Nat.isDigit_of_mem_toDigits (by decide) (by decide) hc]
  exact Nat.ofDigitChars_ten_toDigits

end Text

end ExamPress

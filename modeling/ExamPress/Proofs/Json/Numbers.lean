import ExamPress.Json.Writer
import ExamPress.Proofs.Json.Stretches
import ExamPress.Proofs.Number.Decimals
import Mathlib.Tactic.Positivity

/-! # The texts of numbers

The text of a number without its sign has a whole part, and may have a fraction and an exponent
(`NumberParts`). The parts say which number is read (`readMagnitude_text`), and which rational
number the text denotes. The texts that are written of doubles and integers have such parts, and so
an integer and a double are read back (`readScalar_ofInt`, `readScalar_writeDouble`). -/

namespace ExamPress.Json

/-! ### The parts of a text -/

/-- The parts of the text of a number without its sign: the digits of its whole part, those of its
fraction, and the sign and the digits of its exponent. -/
structure NumberParts where
  whole : Text
  places : Option Text
  power : Option (Bool × Text)

/-- The text of a fraction. -/
def fractionText : Option Text → Text
  | none => []
  | some digits => .char '.' :: digits

/-- The text of an exponent. -/
def exponentText : Option (Bool × Text) → Text
  | none => []
  | some (negative, digits) => .char 'e' :: ((if negative then "-" else "+").toText ++ digits)

/-- An exponent as it is read: the length of its text, and its value. -/
def exponentFound : Option (Bool × Text) → Option (Nat × Int)
  | none => none
  | some (negative, digits) =>
    some (digits.length + 2, Double.signed negative (Text.toNat digits))

namespace NumberParts

/-- The text with the parts. -/
def text (n : NumberParts) : Text := n.whole ++ (fractionText n.places ++ exponentText n.power)

/-- The number that the digits of the whole part and of the fraction write together. -/
def digits (n : NumberParts) : Nat := Text.toNat (n.whole ++ n.places.getD [])

/-- The power of ten of the last digit. -/
def exponent (n : NumberParts) : Int :=
  ((exponentFound n.power).map Prod.snd).getD 0 - (n.places.getD []).length

/-- The number that a text with the parts denotes. -/
def value (n : NumberParts) : ℚ := n.digits * 10 ^ n.exponent

/-- Parts that can be read: digits in each, and no zero in front of other digits. -/
structure WellFormed (n : NumberParts) : Prop where
  digits : ∀ c ∈ n.whole, c.isDigit = true
  some : n.whole ≠ []
  front : n.whole = "0".toText ∨ ∀ c ∈ n.whole.head?, c ≠ '0'
  places : ∀ d ∈ n.places, d ≠ [] ∧ ∀ c ∈ d, CodePoint.isDigit c = true
  power : ∀ p ∈ n.power, p.2 ≠ [] ∧ ∀ c ∈ p.2, CodePoint.isDigit c = true

end NumberParts

section

variable {n : NumberParts} {r : Text}

theorem wholePart_append {w : Text} (digits : ∀ c ∈ w, c.isDigit = true)
    (front : w = "0".toText ∨ ∀ c ∈ w.head?, c ≠ '0') (some : w ≠ []) (hr : NoDigit r) :
    wholePart (w ++ r) = w := by
  rcases front with rfl | first
  · rfl
  · rw [wholePart_of_ne_zero, Text.takeWhile_append digits hr]
    intro t zero
    have head : (w ++ r).head? = w.head? := List.head?_append_of_ne_nil w some
    rw [zero] at head
    exact first (.char '0') head.symm rfl

theorem length_fractionText (fraction : Option Text) :
    (fractionText fraction).length = fractionLength fraction := by
  cases fraction <;> rfl

theorem length_exponentText (power : Option (Bool × Text)) :
    (exponentText power).length = exponentLength (exponentFound power) := by
  rcases power with _ | ⟨negative, digits⟩
  · rfl
  · cases negative <;> rfl

theorem exponentPart_text {power : Option (Bool × Text)}
    (h : ∀ p ∈ power, p.2 ≠ [] ∧ ∀ c ∈ p.2, CodePoint.isDigit c = true) (hr : NoNumber r) :
    exponentPart (exponentText power ++ r) = exponentFound power := by
  rcases power with _ | ⟨negative, digits⟩
  · exact exponentPart_eq_none fun c hc => (hr c hc).2.2
  · obtain ⟨some, all⟩ := h _ rfl
    cases negative with
    | false =>
      have plus : ([.char '+'] : Text) = [] ∨ ([.char '+'] : Text) = [.char '+'] ∨
        ([.char '+'] : Text) = [.char '-'] := by decide
      refine (exponentPart_letter (Or.inl rfl) plus some all hr.noDigit).trans ?_
      simp [exponentFound, Double.signed]
      omega
    | true =>
      have minus : ([.char '-'] : Text) = [] ∨ ([.char '-'] : Text) = [.char '+'] ∨
        ([.char '-'] : Text) = [.char '-'] := by decide
      refine (exponentPart_letter (Or.inl rfl) minus some all hr.noDigit).trans ?_
      simp [exponentFound, Double.signed]
      omega

theorem noDigit_exponentText (power : Option (Bool × Text)) (hr : NoNumber r) :
    NoDigit (exponentText power ++ r) ∧ ∀ c ∈ (exponentText power ++ r).head?, c ≠ '.' := by
  rcases power with _ | ⟨negative, digits⟩
  · exact ⟨hr.noDigit, fun c hc => (hr c hc).2.1⟩
  · constructor <;> rintro _ ⟨⟩ <;> decide

theorem fractionPart_text {places : Option Text}
    (h : ∀ d ∈ places, d ≠ [] ∧ ∀ c ∈ d, CodePoint.isDigit c = true) (power : Option (Bool × Text))
    (hr : NoNumber r) :
    fractionPart (fractionText places ++ (exponentText power ++ r)) = places := by
  obtain ⟨digit, point⟩ := noDigit_exponentText power hr
  cases places with
  | none => exact fractionPart_eq_none point
  | some digits =>
    obtain ⟨some, all⟩ := h _ rfl
    exact fractionPart_point some all digit

theorem noDigit_fractionText (places : Option Text) (power : Option (Bool × Text))
    (hr : NoNumber r) : NoDigit (fractionText places ++ (exponentText power ++ r)) := by
  cases places with
  | none => exact (noDigit_exponentText power hr).1
  | some digits =>
    rintro _ ⟨⟩
    rfl

/-- **The parts of a text** say which number is read. -/
theorem readMagnitude_text (h : n.WellFormed) (hr : NoNumber r) (negative : Bool) :
    readMagnitude negative (n.text ++ r) =
      (numberOf negative n.whole n.places (exponentFound n.power)).map fun v => some (v, r) := by
  rw [NumberParts.text, List.append_assoc, List.append_assoc]
  exact readMagnitude_append h.some
    (wholePart_append h.digits h.front h.some (noDigit_fractionText n.places n.power hr))
    (fractionPart_text h.places n.power hr) (length_fractionText n.places)
    (exponentPart_text h.power hr) (length_exponentText n.power)

/-- The sign of a number, where it is a minus sign. -/
def signText (negative : Bool) : Text := if negative then "-".toText else []

/-- **A number** is read with its sign. -/
theorem readScalar_text (h : n.WellFormed) (hr : NoNumber r) {negative : Bool} {v : Json}
    (number : numberOf negative n.whole n.places (exponentFound n.power) = .ok v) :
    readScalar (signText negative ++ n.text ++ r) = .ok (v, r) := by
  have magnitude : readMagnitude negative (n.text ++ r) = .ok (some (v, r)) := by
    rw [readMagnitude_text h hr, number]
    rfl
  obtain ⟨d, rest, front⟩ : ∃ d rest, n.text ++ r = d :: rest ∧ d.isDigit = true := by
    obtain ⟨d, whole, hw⟩ := List.exists_cons_of_ne_nil h.some
    refine ⟨d, whole ++ (fractionText n.places ++ exponentText n.power) ++ r, ?_, ?_⟩
    · rw [NumberParts.text, hw]
      rfl
    · exact h.digits d (hw ▸ List.mem_cons_self)
  obtain ⟨front, digit⟩ := front
  rw [List.append_assoc, front]
  rw [front] at magnitude
  cases negative with
  | false =>
    refine readScalar_positive (find_words_eq_none (n := 0) (by decide) rfl digit) ?_ magnitude
    rintro _ ⟨⟩ rfl
    cases digit
  | true =>
    exact readScalar_negative (find_words_eq_none (n := 1) (by decide) rfl digit) magnitude

theorem numberOf_float (negative : Bool) (h : n.places ≠ none ∨ n.power ≠ none) :
    numberOf negative n.whole n.places (exponentFound n.power) =
      .ok (.float (Decimal.nearest negative n.digits n.exponent)) := by
  rcases n with ⟨whole, _ | places, _ | ⟨sign, power⟩⟩
  · simp at h
  all_goals rfl

end

/-! ### The number that a text denotes -/

/-- The number that a text without a sign denotes, if it is the text of a number. -/
def magnitude? (s : Text) : Option ℚ :=
  let whole := wholePart s
  let rest := s.drop whole.length
  let fraction := fractionPart rest
  let rest := rest.drop (fractionLength fraction)
  let exponent := exponentPart rest
  let places := fraction.getD []
  if whole.isEmpty || !(rest.drop (exponentLength exponent)).isEmpty then none
  else
    some (Text.toNat (whole ++ places) *
      10 ^ ((exponent.map Prod.snd).getD 0 - (places.length : Int)))

/-- The number that a text denotes, if it is the text of a number. -/
def denoted? (s : Text) : Option ℚ :=
  match s with
  | .char '-' :: s => (magnitude? s).map fun q => -q
  | s => magnitude? s

section

variable {n : NumberParts}

theorem magnitude_text (h : n.WellFormed) : magnitude? n.text = some n.value := by
  have hr : NoNumber [] := nofun
  have whole : wholePart n.text = n.whole := by
    have := wholePart_append h.digits h.front h.some (noDigit_fractionText n.places n.power hr)
    rwa [List.append_nil] at this
  have fraction : fractionPart (fractionText n.places ++ exponentText n.power) = n.places := by
    have := fractionPart_text h.places n.power hr
    rwa [List.append_nil] at this
  have exponent : exponentPart (exponentText n.power) = exponentFound n.power := by
    have := exponentPart_text h.power hr
    rwa [List.append_nil] at this
  have afterWhole : n.text.drop n.whole.length =
      fractionText n.places ++ exponentText n.power := List.drop_left
  have afterFraction : (fractionText n.places ++ exponentText n.power).drop
      (fractionLength n.places) = exponentText n.power := by
    rw [← length_fractionText, List.drop_left]
  have afterExponent :
      (exponentText n.power).drop (exponentLength (exponentFound n.power)) = [] := by
    rw [← length_exponentText, List.drop_length]
  have some : n.whole.isEmpty = false := List.isEmpty_eq_false_iff.mpr h.some
  simp only [magnitude?, whole, afterWhole, fraction, afterFraction, exponent, afterExponent, some]
  rfl

/-- **The text of a number** denotes the value of its parts, with the sign. -/
theorem denoted_text (h : n.WellFormed) (negative : Bool) :
    denoted? (signText negative ++ n.text) = some (if negative then -n.value else n.value) := by
  cases negative with
  | true => exact congrArg (Option.map fun q => -q) (magnitude_text h)
  | false =>
    obtain ⟨d, whole, hw⟩ := List.exists_cons_of_ne_nil h.some
    have digit : d.isDigit = true := h.digits d (hw ▸ List.mem_cons_self)
    have other : ∀ t, n.text ≠ .char '-' :: t := by
      intro t same
      rw [NumberParts.text, hw, List.cons_append] at same
      rw [(List.cons.inj same).1] at digit
      cases digit
    refine Eq.trans ?_ (magnitude_text h)
    unfold denoted?
    split
    · exact (other _ ‹_›).elim
    · rfl

end

/-! ### Integers -/

/-- The parts of a natural number. -/
def naturalParts (n : Nat) : NumberParts := ⟨Text.ofNat n, none, none⟩

theorem wellFormed_naturalParts (n : Nat) : (naturalParts n).WellFormed where
  digits c hc := Text.isDigit_of_mem_ofNat hc
  some := Text.ofNat_ne_nil n
  front := by
    by_cases h : n = 0
    · exact Or.inl (by rw [h]; rfl)
    · exact Or.inr (Text.head_ofNat h)
  places := nofun
  power := nofun

theorem text_naturalParts (n : Nat) : (naturalParts n).text = Text.ofNat n := List.append_nil _

theorem ofInt_eq (i : Int) : Text.ofInt i = signText (i < 0) ++ Text.ofNat i.natAbs := by
  cases i with
  | ofNat n =>
    have sign : ¬ Int.ofNat n < 0 := Int.not_lt.mpr (Int.natCast_nonneg n)
    rw [signText, decide_eq_false sign]
    rfl
  | negSucc n =>
    rw [signText, decide_eq_true (Int.negSucc_lt_zero n)]
    rfl

/-- **An integer** is read back, if it has no more digits than are allowed. -/
theorem readScalar_ofInt {i : Int} {r : Text}
    (few : (Text.ofNat i.natAbs).length ≤ Whole.maxDigits) (hr : NoNumber r) :
    readScalar (Text.ofInt i ++ r) = .ok (.int i, r) := by
  rw [ofInt_eq, ← text_naturalParts]
  refine readScalar_text (wellFormed_naturalParts i.natAbs) hr ?_
  have number : (if decide (i < 0) = true then -(i.natAbs : Int) else (i.natAbs : Int)) = i := by
    by_cases h : i < 0
    · rw [if_pos (decide_eq_true h)]
      omega
    · rw [if_neg (by simp [h])]
      omega
  simp only [numberOf, naturalParts, exponentFound, Option.isNone_none, Bool.and_self, if_true,
    Text.toNat_ofNat, number, if_neg (Nat.not_lt.mpr few)]

/-! ### Decimals -/

/-- The digits of a fraction, if there are some. -/
def fractionOf (digits : Text) : Option Text := if digits.isEmpty then none else some digits

/-- The digits of an exponent, with a zero in front of a single one. -/
def exponentDigits (n : Nat) : Text :=
  if (Text.ofNat n).length < 2 then "0".toText ++ Text.ofNat n else Text.ofNat n

/-- The parts of the text of a decimal: below one, from one up to the sixteen digits, or with an
exponent. -/
def decimalParts (withPoint : Bool) (x : Decimal) : NumberParts :=
  if -4 ≤ x.power ∧ x.power < 16 then
    if x.power < 0 then
      ⟨"0".toText, some (Decimal.zeros (-x.power - 1).toNat ++ x.digits), none⟩
    else
      let places := x.power.toNat + 1
      ⟨x.digits.take places ++ Decimal.zeros (places - x.digits.length),
        (fractionOf (x.digits.drop places)).or (if withPoint then some "0".toText else none), none⟩
  else
    ⟨x.digits.take 1, fractionOf (x.digits.drop 1),
      some (x.power < 0, exponentDigits x.power.natAbs)⟩

section

variable {x : Decimal} {withPoint : Bool}

theorem write_decimal (withPoint : Bool) (x : Decimal) :
    x.write withPoint = (decimalParts withPoint x).text := by
  unfold Decimal.write decimalParts NumberParts.text
  dsimp only
  by_cases positional : -4 ≤ x.power ∧ x.power < 16
  · rw [if_pos positional, if_pos positional]
    by_cases small : x.power < 0
    · rw [if_pos small, if_pos small]
      simp [fractionText, exponentText, String.toText]
    · rw [if_neg small, if_neg small]
      cases hp : x.digits.drop (x.power.toNat + 1) with
      | nil => cases withPoint <;> simp [fractionOf, fractionText, exponentText, String.toText]
      | cons d part => simp [fractionOf, fractionText, exponentText, String.toText]
  · rw [if_neg positional, if_neg positional]
    have sign : (if x.power < 0 then "e-" else "e+").toText =
        .char 'e' :: (if decide (x.power < 0) = true then "-" else "+").toText := by
      by_cases h : x.power < 0 <;> simp [h, String.toText]
    rw [sign]
    cases hp : x.digits.drop 1 with
    | nil => simp [fractionOf, fractionText, exponentText, exponentDigits]
    | cons d part => simp [fractionOf, fractionText, exponentText, exponentDigits, String.toText]

theorem toNat_exponentDigits (n : Nat) : Text.toNat (exponentDigits n) = n := by
  have one : "0".toText = Decimal.zeros 1 := rfl
  unfold exponentDigits
  split_ifs
  · rw [one, Text.toNat_append, Text.toNat_zeros, Nat.zero_mul, Nat.zero_add, Text.toNat_ofNat]
  · exact Text.toNat_ofNat n

theorem isDigit_exponentDigits (n : Nat) :
    exponentDigits n ≠ [] ∧ ∀ c ∈ exponentDigits n, c.isDigit = true := by
  unfold exponentDigits
  have digits : ∀ c ∈ Text.ofNat n, c.isDigit = true := fun c => Text.isDigit_of_mem_ofNat
  split_ifs
  · exact ⟨List.cons_ne_nil _ _, List.forall_mem_append.mpr ⟨by decide, digits⟩⟩
  · exact ⟨Text.ofNat_ne_nil n, digits⟩

theorem isDigit_zeros (k : Nat) : ∀ c ∈ Decimal.zeros k, c.isDigit = true := by
  intro c hc
  rw [List.eq_of_mem_replicate hc]
  rfl

theorem digits_of_mem_fractionOf {s d : Text} (h : d ∈ fractionOf s)
    (digits : ∀ c ∈ s, c.isDigit = true) : d ≠ [] ∧ ∀ c ∈ d, c.isDigit = true := by
  unfold fractionOf at h
  split_ifs at h with some
  · cases h
  · cases h
    exact ⟨fun none => some (List.isEmpty_iff.mpr none), digits⟩

theorem getD_fractionOf (s : Text) : (fractionOf s).getD [] = s := by
  unfold fractionOf
  split_ifs with none
  · exact (List.isEmpty_iff.mp none).symm
  · rfl

/-- **The parts of a decimal** can be read. -/
theorem wellFormed_decimalParts (h : x.WellFormed) (withPoint : Bool) :
    (decimalParts withPoint x).WellFormed := by
  obtain ⟨d, digits, hd⟩ := List.exists_cons_of_ne_nil h.some
  have first : d ≠ '0' := h.first d (by rw [hd]; rfl)
  have taken (k : Nat) (c : CodePoint) (hc : c ∈ x.digits.take k) : c.isDigit = true :=
    h.digits c (List.mem_of_mem_take hc)
  have dropped (k : Nat) (c : CodePoint) (hc : c ∈ x.digits.drop k) : c.isDigit = true :=
    h.digits c (List.mem_of_mem_drop hc)
  unfold decimalParts
  dsimp only
  by_cases positional : -4 ≤ x.power ∧ x.power < 16
  · rw [if_pos positional]
    by_cases small : x.power < 0
    · rw [if_pos small]
      refine ⟨isDigit_zeros 1, List.cons_ne_nil _ _, Or.inl rfl, ?_, nofun⟩
      rintro _ ⟨⟩
      exact ⟨List.append_ne_nil_of_right_ne_nil _ h.some,
        List.forall_mem_append.mpr ⟨isDigit_zeros _, h.digits⟩⟩
    · rw [if_neg small]
      refine ⟨List.forall_mem_append.mpr ⟨taken _, isDigit_zeros _⟩, ?_, Or.inr ?_, ?_, nofun⟩
      · rw [hd, List.take_succ_cons]
        exact List.cons_ne_nil _ _
      · rw [hd, List.take_succ_cons]
        rintro _ ⟨⟩
        exact first
      · intro s hs
        rcases Option.or_eq_some_iff.mp hs with part | ⟨-, point⟩
        · exact digits_of_mem_fractionOf part (dropped _)
        · cases withPoint <;> cases point
          exact ⟨by decide, by decide⟩
  · rw [if_neg positional]
    refine ⟨taken 1, ?_, Or.inr ?_, fun s hs => digits_of_mem_fractionOf hs (dropped 1), ?_⟩
    · rw [hd]
      exact List.cons_ne_nil _ _
    · rw [hd]
      rintro _ ⟨⟩
      exact first
    · rintro _ ⟨⟩
      exact isDigit_exponentDigits _

/-- Parts have the value of a decimal if they have its digits, perhaps with zeros behind them, and
the exponent that belongs to the last one. -/
theorem value_of_digits {n : NumberParts} {k : Nat}
    (digits : n.digits = Text.toNat x.digits * 10 ^ k)
    (exponent : k + n.exponent = x.power - x.digits.length + 1) : n.value = x.value := by
  rw [NumberParts.value, Decimal.value, digits, ← exponent, zpow_add₀ (by norm_num), zpow_natCast]
  push_cast
  ring

/-- **The parts of a decimal** denote the number that it stands for. -/
theorem value_decimalParts (some : x.digits ≠ []) (withPoint : Bool) :
    (decimalParts withPoint x).value = x.value := by
  have one : "0".toText = Decimal.zeros 1 := rfl
  have length : x.digits.length ≠ 0 := fun none => some (List.length_eq_zero_iff.mp none)
  unfold decimalParts
  dsimp only
  by_cases positional : -4 ≤ x.power ∧ x.power < 16
  · rw [if_pos positional]
    by_cases small : x.power < 0
    · rw [if_pos small]
      refine value_of_digits (k := 0) ?_ ?_
      · simp [NumberParts.digits, Text.toNat_append, one]
      · simp [NumberParts.exponent, exponentFound]
        omega
    · rw [if_neg small]
      by_cases whole : x.digits.length ≤ x.power.toNat + 1
      · have none : fractionOf [] = none := rfl
        rw [List.take_of_length_le whole, List.drop_of_length_le whole, none, Option.none_or]
        cases withPoint with
        | true =>
          refine value_of_digits (k := x.power.toNat + 1 - x.digits.length + 1) ?_ ?_
          · simp [NumberParts.digits, Text.toNat_append, one, pow_succ]
          · simp [NumberParts.exponent, exponentFound, one]
            omega
        | false =>
          refine value_of_digits (k := x.power.toNat + 1 - x.digits.length) ?_ ?_
          · simp [NumberParts.digits, Text.toNat_append]
          · simp [NumberParts.exponent, exponentFound]
            omega
      · have part : fractionOf (x.digits.drop (x.power.toNat + 1)) =
            .some (x.digits.drop (x.power.toNat + 1)) := by
          refine if_neg fun none => whole ?_
          exact List.drop_eq_nil_iff.mp (List.isEmpty_iff.mp none)
        have fits : x.power.toNat + 1 - x.digits.length = 0 := by omega
        rw [part, fits, Option.some_or]
        refine value_of_digits (k := 0) ?_ ?_
        · simp [NumberParts.digits, Decimal.zeros]
        · simp [NumberParts.exponent, exponentFound]
          omega
  · rw [if_neg positional]
    refine value_of_digits (k := 0) ?_ ?_
    · rw [NumberParts.digits, getD_fractionOf, List.take_append_drop, pow_zero, Nat.mul_one]
    · have power : Double.signed (x.power < 0) x.power.natAbs = x.power := by
        unfold Double.signed
        by_cases h : x.power < 0
        · rw [if_pos (decide_eq_true h)]
          omega
        · rw [if_neg (by simp [h])]
          omega
      simp [NumberParts.exponent, exponentFound, getD_fractionOf, toNat_exponentDigits, power]
      omega

end

/-! ### Doubles -/

/-- A decimal with a point or an exponent is read as the nearest double. -/
theorem numberOf_decimal {x : Decimal} (h : x.WellFormed) (negative : Bool) :
    numberOf negative (decimalParts true x).whole (decimalParts true x).places
      (exponentFound (decimalParts true x).power) =
      .ok (.float (Decimal.nearestTo negative x.value)) := by
  have part : (decimalParts true x).places ≠ none ∨ (decimalParts true x).power ≠ none := by
    unfold decimalParts
    by_cases positional : -4 ≤ x.power ∧ x.power < 16
    · rw [if_pos positional]
      by_cases small : x.power < 0
      · rw [if_pos small]
        exact Or.inl (Option.some_ne_none _)
      · rw [if_neg small]
        exact Or.inl (by simp)
    · rw [if_neg positional]
      exact Or.inr (Option.some_ne_none _)
  have value := value_decimalParts h.some true
  rw [NumberParts.value] at value
  rw [numberOf_float negative part, Decimal.nearest_eq, value]

theorem wellFormed_zeroParts :
    NumberParts.WellFormed ⟨"0".toText, some "0".toText, none⟩ where
  digits := isDigit_zeros 1
  some := List.cons_ne_nil _ _
  front := Or.inl rfl
  places := by
    rintro _ ⟨⟩
    exact ⟨List.cons_ne_nil _ _, isDigit_zeros 1⟩
  power := nofun

/-- **A double** is read back from its text. -/
theorem readScalar_writeDouble {d : Double} {r : Text} (hd : d.IsCanonical) (hr : NoNumber r) :
    readScalar (writeDouble d ++ r) = .ok (.float d, r) := by
  cases d with
  | nan => exact readScalar_word r ("NaN", .float .nan) (by simp [words])
  | infinite negative =>
    cases negative with
    | false => exact readScalar_word r ("Infinity", .float (.infinite false)) (by simp [words])
    | true => exact readScalar_word r ("-Infinity", .float (.infinite true)) (by simp [words])
  | finite negative m e =>
    by_cases hm : m = 0
    · obtain rfl := hm
      obtain rfl : e = Double.minExponent := hd.full.resolve_right (by decide)
      exact readScalar_text wellFormed_zeroParts hr rfl
    · have ratio := Double.mul_zpow_eq m (by decide : 0 < 2) e
      obtain ⟨count, unit, some, digits, reads⟩ :=
        Decimal.exists_shortest hd hm (by positivity) (by positivity) ratio
      have written : writeDouble (.finite negative m e) =
          signText negative ++ (decimalParts true (.ofCount count unit)).text := by
        rw [← write_decimal, ← digits]
        simp only [writeDouble, Double.shortestText, Double.writeWith, if_neg hm, signText]
        rfl
      have wellFormed := Decimal.wellFormed_ofCount some unit
      rw [written]
      refine readScalar_text (wellFormed_decimalParts wellFormed true) hr ?_
      rw [numberOf_decimal wellFormed, Decimal.value_ofCount, ← Decimal.nearest_eq,
        Decimal.nearest_sign reads]

end ExamPress.Json

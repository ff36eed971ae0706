import ExamPress.Proofs.Json.Grammar
import ExamPress.Proofs.Outcome
import ExamPress.Proofs.Text.Numbers
import ExamPress.Text.Blank
import Mathlib.Tactic.Common

/-! # What a string, a word or a number takes up

A string, a word or a number of a JSON text takes up a stretch of the text, and the same stretch is
read in the same way whatever stands behind it, if only that does not go on with a number:
`exists_inside` and `Inside.exists_text` for strings, `exists_scalar` for the others. -/

namespace ExamPress.Json

/-! ### Strings -/

/-- `Inside s`: the text can stand between quotation marks. It consists of plain characters and of
escapes. -/
inductive Inside : Text → Prop
  | nil : Inside []
  | plain {c : CodePoint} {s : Text} (mark : c ≠ '"') (backslash : c ≠ '\\')
      (least : 0x20 ≤ c.toNat) (rest : Inside s) : Inside (c :: s)
  | escape {d e : CodePoint} {s : Text} (known : escaped? d = some e) (rest : Inside s) :
      Inside ('\\' :: d :: s)
  | unicode {a b c d : CodePoint} {n : Nat} {s : Text} (digits : hex4 a b c d = some n)
      (rest : Inside s) : Inside ('\\' :: 'u' :: a :: b :: c :: d :: s)

/-- The digits of an escape, with those of a second half that are taken with them, make an escape or
two. -/
theorem exists_digits {s : Text} {e : CodePoint} {count : Nat}
    (h : readUnicode s = .ok (e, count)) : ∃ p t : Text, s = p ++ t ∧ p.length = count ∧
      ∀ u, Inside u → Inside ('\\' :: 'u' :: (p ++ u)) := by
  unfold readUnicode at h
  split at h
  · rename_i a b c d e' rest
    split at h
    · cases h
    · rename_i n digits
      have single (u : Text) (hu : Inside u) : Inside ('\\' :: 'u' :: ([a, b, c, d] ++ u)) :=
        .unicode digits hu
      split at h
      · rename_i a' b' c' d' e'' rest' _
        split at h
        · cases h
        · rename_i n' digits'
          split at h
          · obtain ⟨-, rfl⟩ := Prod.mk.inj (Except.ok.inj h)
            exact ⟨[a, b, c, d, '\\', 'u', a', b', c', d'], _, rfl, rfl,
              fun u hu => .unicode digits (.unicode digits' hu)⟩
          · cases h
            exact ⟨[a, b, c, d], _, rfl, rfl, single⟩
      · cases h
        exact ⟨[a, b, c, d], _, rfl, rfl, single⟩
  · cases h

/-- **A string** is read up to its closing quotation mark. -/
theorem exists_inside {seen skipped : Nat} {acc s t r : Text}
    (h : readString seen acc skipped s = .ok (t, r)) :
    ∃ p b : Text, s = p ++ (b ++ .char '"' :: r) ∧ p.length = skipped ∧ Inside b := by
  fun_induction readString seen acc skipped s with
  | case1 => cases h
  | case2 seen acc c rest skipped ih =>
    obtain ⟨p, b, rfl, rfl, hb⟩ := ih h
    exact ⟨c :: p, b, rfl, rfl, hb⟩
  | case3 =>
    cases h
    exact ⟨[], [], rfl, rfl, .nil⟩
  | case4 => cases h
  | case5 => cases h
  | case6 seen acc digits e count hd _ ih =>
    obtain ⟨p, b, same, length, hb⟩ := ih h
    obtain ⟨q, t', rfl, hq, escape⟩ := exists_digits hd
    obtain ⟨rfl, rfl⟩ : .char 'u' :: q = p ∧ t' = b ++ .char '"' :: r :=
      List.append_inj same (by rw [List.length_cons, hq, length])
    refine ⟨[], '\\' :: 'u' :: (q ++ b), ?_, rfl, escape b hb⟩
    simp only [List.nil_append, List.cons_append, List.append_assoc]
  | case7 => cases h
  | case8 seen acc d rest _ e known _ ih =>
    obtain ⟨p, b, same, length, hb⟩ := ih h
    obtain ⟨rfl, rfl⟩ : [d] = p ∧ rest = b ++ .char '"' :: r :=
      List.append_inj same (by rw [List.length_singleton, length])
    exact ⟨[], '\\' :: d :: b, rfl, rfl, .escape known hb⟩
  | case9 => cases h
  | case10 seen acc c rest mark backslash least ih =>
    obtain ⟨p, b, rfl, length, hb⟩ := ih h
    obtain rfl := List.length_eq_zero_iff.mp length
    exact ⟨[], c :: b, rfl, rfl, .plain mark backslash (Nat.le_of_not_lt least) hb⟩

theorem readString_skip (seen : Nat) (acc p s : Text) :
    readString seen acc p.length (p ++ s) = readString (seen + p.length) acc 0 s := by
  induction p generalizing seen with
  | nil => rfl
  | cons c p ih =>
    rw [List.length_cons, List.cons_append, readString, ih, Nat.add_right_comm, Nat.add_assoc]

section

variable {a b c d : CodePoint} {n : Nat}

theorem readUnicode_single {e : CodePoint} {rest : Text} (digits : hex4 a b c d = some n)
    (alone : ∀ after, e = '\\' → rest = .char 'u' :: after → False) :
    readUnicode (a :: b :: c :: d :: e :: rest) = .ok (CodePoint.ofNat n, 4) := by
  simp only [readUnicode, digits]
  split
  · exact (alone _ rfl rfl).elim
  · rfl

/-- What the digits of an escape stand for is said by the string alone, and not by what stands
behind its closing quotation mark. -/
theorem exists_readUnicode {s : Text} (digits : hex4 a b c d = some n) (hs : Inside s) :
    ∃ (e : CodePoint) (p t : Text), a :: b :: c :: d :: s = p ++ t ∧ Inside t ∧
      ∀ r : Text, readUnicode (p ++ (t ++ .char '"' :: r)) = .ok (e, p.length) := by
  cases hs with
  | nil =>
    refine ⟨CodePoint.ofNat n, [a, b, c, d], [], rfl, .nil, fun r => ?_⟩
    exact readUnicode_single digits nofun
  | plain mark backslash least rest =>
    refine ⟨CodePoint.ofNat n, [a, b, c, d], _, rfl, .plain mark backslash least rest, fun r => ?_⟩
    exact readUnicode_single digits fun _ h => (backslash h).elim
  | escape known rest =>
    refine ⟨CodePoint.ofNat n, [a, b, c, d], _, rfl, .escape known rest, fun r => ?_⟩
    refine readUnicode_single digits fun _ _ h => ?_
    rw [(List.cons.inj h).1] at known
    cases known
  | @unicode a' b' c' d' n' s digits' rest =>
    by_cases pair : Text.Wide.isHigh n = true ∧ Text.Wide.isLow n' = true
    · refine ⟨CodePoint.ofNat (Text.Wide.joined n n'), [a, b, c, d, '\\', 'u', a', b', c', d'], s,
        rfl, rest, fun r => ?_⟩
      obtain ⟨e, after, behind⟩ := List.exists_cons_of_ne_nil
        (List.append_ne_nil_of_right_ne_nil s (List.cons_ne_nil (.char '"') r))
      rw [behind]
      simp [readUnicode, digits, digits', pair]
    · refine ⟨CodePoint.ofNat n, [a, b, c, d], _, rfl, .unicode digits' rest, fun r => ?_⟩
      obtain ⟨e, after, behind⟩ := List.exists_cons_of_ne_nil
        (List.append_ne_nil_of_right_ne_nil s (List.cons_ne_nil (.char '"') r))
      simp only [List.cons_append, List.nil_append, behind]
      by_cases high : Text.Wide.isHigh n = true
      · have low : ¬ Text.Wide.isLow n' = true := fun low => pair ⟨high, low⟩
        simp [readUnicode, digits, digits', high, low]
      · simp [readUnicode, digits, high]

end

section

variable {seen : Nat} {acc r : Text} {c d e : CodePoint}

theorem readString_close : readString seen acc 0 (.char '"' :: r) = .ok (acc.reverse, r) := by
  rw [readString.eq_def]
  exact if_pos rfl

theorem readString_plain (mark : c ≠ '"') (backslash : c ≠ '\\') (least : 0x20 ≤ c.toNat) :
    readString seen acc 0 (c :: r) = readString (seen + 1) (c :: acc) 0 r := by
  rw [readString.eq_def]
  dsimp only
  rw [if_neg mark, if_neg backslash, if_neg (Nat.not_lt_of_le least)]

theorem readString_escape (known : escaped? d = some e) :
    readString seen acc 0 (.char '\\' :: d :: r) = readString (seen + 2) (e :: acc) 0 r := by
  rw [readString.eq_def]
  dsimp only
  rw [if_neg (by decide), if_pos rfl]
  split
  · rename_i empty
    cases empty
  · rename_i digits front
    rw [(List.cons.inj front).1] at known
    cases known
  · rename_i d' rest _ front
    obtain ⟨rfl, rfl⟩ := List.cons.inj front
    rw [known]
    rfl

theorem readString_unicode {digits : Text} {count : Nat} (h : readUnicode digits = .ok (e, count)) :
    readString seen acc 0 (.char '\\' :: .char 'u' :: digits) =
      readString (seen + 2) (e :: acc) count digits := by
  rw [readString.eq_def]
  dsimp only
  rw [if_neg (by decide), if_pos rfl]
  simp only [h]
  rfl

end

/-- **A string** stands for one text, whatever stands behind its closing quotation mark. -/
theorem Inside.exists_text {s : Text} (h : Inside s) : ∃ t : Text, ∀ seen acc r,
    readString seen acc 0 (s ++ .char '"' :: r) = .ok (acc.reverse ++ t, r) := by
  -- an escape may take the next one with it, so that the rest is not the one of the rule
  induction hs : s.length using Nat.strongRecOn generalizing s with
  | ind length ih =>
    cases h with
    | nil =>
      refine ⟨[], fun seen acc r => ?_⟩
      rw [List.nil_append, readString_close, List.append_nil]
    | @plain c s mark backslash least rest =>
      obtain ⟨t, ht⟩ := ih s.length (by simp [← hs]) rest rfl
      refine ⟨c :: t, fun seen acc r => ?_⟩
      rw [List.cons_append, readString_plain mark backslash least, ht, List.reverse_cons,
        List.append_assoc, List.singleton_append]
    | @escape d e s known rest =>
      have shorter : s.length < length := by
        rw [← hs, List.length_cons, List.length_cons]
        omega
      obtain ⟨t, ht⟩ := ih s.length shorter rest rfl
      refine ⟨e :: t, fun seen acc r => ?_⟩
      rw [List.cons_append, List.cons_append, readString_escape known, ht, List.reverse_cons,
        List.append_assoc, List.singleton_append]
    | @unicode a b c d n s digits rest =>
      obtain ⟨e, p, t, split, ht, read⟩ := exists_readUnicode digits rest
      have shorter : t.length < length := by
        have lengths := congrArg List.length split
        simp only [List.length_cons, List.length_append] at lengths hs
        omega
      obtain ⟨u, hu⟩ := ih t.length shorter ht rfl
      refine ⟨e :: u, fun seen acc r => ?_⟩
      rw [split, List.cons_append, List.cons_append, List.append_assoc, readString_unicode (read r),
        readString_skip, hu, List.reverse_cons, List.append_assoc, List.singleton_append]

/-! ### Numbers -/

/-- The characters of words and numbers. -/
def IsScalarChar (c : CodePoint) : Prop := c.isAlphanum = true ∨ c = '+' ∨ c = '-' ∨ c = '.'

instance : DecidablePred IsScalarChar := fun _ => inferInstanceAs (Decidable (_ ∨ _))

theorem isScalarChar_of_isDigit {c : CodePoint} (h : c.isDigit = true) : IsScalarChar c := by
  cases c with
  | char c => exact Or.inl ((Bool.or_eq_true _ _).mpr (Or.inr h))
  | surrogate _ => cases h

theorem IsScalarChar.bounds {c : CodePoint} (h : IsScalarChar c) :
    0x2b ≤ c.toNat ∧ c.toNat ≤ 0x7a := by
  rcases h with h | rfl | rfl | rfl
  · cases c with
    | char c =>
      rcases (Bool.or_eq_true _ _).mp h with alpha | digit
      · have := CodePoint.bounds_of_isAlpha (c := .char c) alpha
        omega
      · have := CodePoint.bounds_of_isDigit (c := .char c) digit
        omega
    | surrogate _ => cases h
  all_goals decide

/-- A text that does not go on with digits. -/
def NoDigit (r : Text) : Prop := ∀ c ∈ r.head?, c.isDigit = false

/-- A text that does not go on with a number: neither with a digit, nor with a fraction or an
exponent. -/
def NoNumber (r : Text) : Prop :=
  ∀ c ∈ r.head?, c.isDigit = false ∧ c ≠ '.' ∧ c ≠ 'e' ∧ c ≠ 'E'

/-- How many characters write a fraction. -/
def fractionLength : Option Text → Nat
  | some digits => digits.length + 1
  | none => 0

/-- How many characters write an exponent. -/
def exponentLength : Option (Nat × Int) → Nat
  | some (length, _) => length
  | none => 0

/-- The number of a whole part, a fraction and an exponent. -/
def numberOf (negative : Bool) (whole : Text) (fraction : Option Text)
    (exponent : Option (Nat × Int)) : Except Stop Json :=
  if fraction.isNone && exponent.isNone then
    if whole.length > Whole.maxDigits then .error (.tooManyDigits whole.length)
    else
      let magnitude : Int := Text.toNat whole
      .ok (.int (if negative then -magnitude else magnitude))
  else
    let places := fraction.getD []
    let power := (exponent.map Prod.snd).getD 0
    .ok (.float (Decimal.nearest negative (Text.toNat (whole ++ places)) (power - places.length)))

theorem readMagnitude_append {negative : Bool} {w f e r : Text} {fraction : Option Text}
    {exponent : Option (Nat × Int)} (front : w ≠ [])
    (whole : wholePart (w ++ (f ++ (e ++ r))) = w)
    (places : fractionPart (f ++ (e ++ r)) = fraction) (hf : f.length = fractionLength fraction)
    (power : exponentPart (e ++ r) = exponent) (he : e.length = exponentLength exponent) :
    readMagnitude negative (w ++ (f ++ (e ++ r))) =
      (numberOf negative w fraction exponent).map fun v => some (v, r) := by
  have fractionEnd (digits : Text) (h : fraction = some digits) :
      (f ++ (e ++ r)).drop (digits.length + 1) = e ++ r := by
    have length : f.length = digits.length + 1 := by rw [hf, h, fractionLength]
    rw [← length, List.drop_left]
  have exponentEnd (found : Nat × Int) (h : exponent = some found) :
      (e ++ r).drop found.1 = r := by
    have length : e.length = found.1 := by rw [he, h, exponentLength]
    rw [← length, List.drop_left]
  have nonempty : w.isEmpty = false := List.isEmpty_eq_false_iff.mpr front
  simp only [readMagnitude, whole, nonempty, List.drop_left, places, numberOf]
  cases fraction with
  | none =>
    obtain rfl := List.length_eq_zero_iff.mp hf
    simp only [List.nil_append, power]
    cases exponent with
    | none =>
      obtain rfl := List.length_eq_zero_iff.mp he
      by_cases long : w.length > Whole.maxDigits <;> simp [long, Except.map]
    | some found =>
      simp only [exponentEnd found rfl]
      rfl
  | some digits =>
    simp only [fractionEnd digits rfl, power]
    cases exponent with
    | none =>
      obtain rfl := List.length_eq_zero_iff.mp he
      rfl
    | some found =>
      simp only [exponentEnd found rfl]
      rfl

/-! The parts of a number -/

theorem NoNumber.noDigit {r : Text} (h : NoNumber r) : NoDigit r := fun c hc => (h c hc).1

theorem wholePart_of_ne_zero {s : Text} (h : ∀ t, s ≠ .char '0' :: t) :
    wholePart s = s.takeWhile CodePoint.isDigit := by
  unfold wholePart
  split
  · exact (h _ rfl).elim
  · rfl

/-- **The whole part** is the same whatever stands behind it, if only no digit does. -/
theorem exists_whole (s : Text) : ∃ t, s = wholePart s ++ t ∧
    ∀ r, NoDigit r → wholePart (wholePart s ++ r) = wholePart s := by
  by_cases zero : ∃ t, s = .char '0' :: t
  · obtain ⟨t, rfl⟩ := zero
    exact ⟨t, rfl, fun r _ => rfl⟩
  · rw [wholePart_of_ne_zero (not_exists.mp zero)]
    refine ⟨_, List.takeWhile_append_dropWhile.symm, fun r hr => ?_⟩
    have digits : ∀ c ∈ s.takeWhile CodePoint.isDigit, c.isDigit = true :=
      fun c => List.mem_takeWhile_imp
    rw [wholePart_of_ne_zero, Text.takeWhile_append digits hr]
    intro t front
    cases hd : s.takeWhile CodePoint.isDigit with
    | nil =>
      rw [hd, List.nil_append] at front
      cases hr (.char '0') (by rw [front]; rfl)
    | cons c rest =>
      rw [hd, List.cons_append] at front
      have split : s.takeWhile CodePoint.isDigit ++ s.dropWhile CodePoint.isDigit = s :=
        List.takeWhile_append_dropWhile
      rw [hd, (List.cons.inj front).1] at split
      exact zero ⟨_, split.symm⟩

theorem fractionPart_eq_none {r : Text} (h : ∀ c ∈ r.head?, c ≠ '.') : fractionPart r = none := by
  unfold fractionPart
  split
  · exact (h _ rfl rfl).elim
  · rfl

theorem fractionPart_point {digits r : Text} (some : digits ≠ [])
    (all : ∀ c ∈ digits, c.isDigit = true) (hr : NoDigit r) :
    fractionPart (.char '.' :: (digits ++ r)) = .some digits := by
  rw [fractionPart, Text.takeWhile_append all hr]
  exact if_neg fun h => some (List.isEmpty_iff.mp h)

/-- **The fraction** is the same whatever stands behind it, if only neither a digit nor a point
does. -/
theorem exists_fraction (s : Text) : ∃ f t, s = f ++ t ∧
    f.length = fractionLength (fractionPart s) ∧ (∀ c ∈ f, IsScalarChar c) ∧
    (∀ c ∈ f.head?, c = '.') ∧
    ∀ r, NoDigit r → (∀ c ∈ r.head?, c ≠ '.') → fractionPart (f ++ r) = fractionPart s := by
  cases hs : fractionPart s with
  | none => exact ⟨[], s, rfl, rfl, nofun, nofun, fun r _ hr => fractionPart_eq_none hr⟩
  | some digits =>
    unfold fractionPart at hs
    split at hs
    · rename_i rest
      dsimp only at hs
      split at hs
      · cases hs
      · rename_i nonempty
        cases hs
        have all : ∀ c ∈ rest.takeWhile CodePoint.isDigit, c.isDigit = true :=
          fun c => List.mem_takeWhile_imp
        refine ⟨.char '.' :: rest.takeWhile CodePoint.isDigit, rest.dropWhile CodePoint.isDigit, ?_,
          rfl, ?_, ?_, fun r hr _ => fractionPart_point ?_ all hr⟩
        · rw [List.cons_append, List.takeWhile_append_dropWhile]
        · exact List.forall_mem_cons.mpr ⟨by decide, fun c hc => isScalarChar_of_isDigit (all c hc)⟩
        · rintro _ ⟨⟩
          rfl
        · exact fun h => nonempty (List.isEmpty_iff.mpr h)
    · cases hs

theorem exponentPart_eq_none {r : Text} (h : ∀ c ∈ r.head?, c ≠ 'e' ∧ c ≠ 'E') :
    exponentPart r = none := by
  cases r with
  | nil => rfl
  | cons c r =>
    exact if_neg (not_or.mpr (h c rfl))

theorem exponentPart_letter {c : CodePoint} {sign digits r : Text} (letter : c = 'e' ∨ c = 'E')
    (hs : sign = [] ∨ sign = [.char '+'] ∨ sign = [.char '-']) (some : digits ≠ [])
    (all : ∀ c ∈ digits, c.isDigit = true) (hr : NoDigit r) :
    exponentPart (c :: (sign ++ (digits ++ r))) = .some (1 + sign.length + digits.length,
      if sign = [.char '-'] then -(Text.toNat digits : Int) else Text.toNat digits) := by
  have stop := Text.takeWhile_append all hr
  rcases hs with rfl | rfl | rfl
  · have head : ∀ d ∈ digits.head?, d ≠ '+' ∧ d ≠ '-' := by
      intro d hd
      have digit := all d (List.mem_of_mem_head? hd)
      constructor <;> rintro rfl <;> cases digit
    obtain ⟨d, rest, rfl⟩ := List.exists_cons_of_ne_nil some
    obtain ⟨plus, minus⟩ := head d rfl
    rw [List.cons_append] at stop
    simp [exponentPart, letter, plus, minus, stop]
  · simp [exponentPart, letter, stop, some]
  · simp [exponentPart, letter, stop, some]

theorem exponentPart_eq_some {s : Text} {found : Nat × Int} (h : exponentPart s = some found) :
    ∃ (c : CodePoint) (sign digits r : Text), s = c :: (sign ++ (digits ++ r)) ∧
      (c = 'e' ∨ c = 'E') ∧ (sign = [] ∨ sign = [.char '+'] ∨ sign = [.char '-']) ∧
      digits ≠ [] ∧ (∀ c ∈ digits, c.isDigit = true) ∧ NoDigit r := by
  have stretch (t : Text) (some : ¬ (t.takeWhile CodePoint.isDigit).isEmpty = true) :
      ∃ digits r : Text, t = digits ++ r ∧ digits ≠ [] ∧ (∀ c ∈ digits, c.isDigit = true) ∧
        NoDigit r := by
    obtain ⟨digits, r, rfl, all, hr⟩ := Text.exists_stretch CodePoint.isDigit t
    rw [Text.takeWhile_append all hr] at some
    exact ⟨digits, r, rfl, fun h => some (List.isEmpty_iff.mpr h), all, hr⟩
  cases s with
  | nil => cases h
  | cons c rest =>
    dsimp only [exponentPart] at h
    split at h
    · rename_i letter
      split at h
      · rename_i signed
        split at h
        · cases h
        · rename_i nonempty
          obtain ⟨digits, r, split, some, all, hr⟩ := stretch (rest.drop 1) nonempty
          rcases signed with front | front <;>
            obtain ⟨rest, rfl⟩ := List.head?_eq_some_iff.mp front
          · exact ⟨c, [.char '+'], digits, r, congrArg (c :: .char '+' :: ·) split, letter,
              Or.inr (Or.inl rfl), some, all, hr⟩
          · exact ⟨c, [.char '-'], digits, r, congrArg (c :: .char '-' :: ·) split, letter,
              Or.inr (Or.inr rfl), some, all, hr⟩
      · split at h
        · cases h
        · rename_i nonempty
          obtain ⟨digits, r, rfl, some, all, hr⟩ := stretch rest nonempty
          exact ⟨c, [], digits, r, rfl, letter, Or.inl rfl, some, all, hr⟩
    · cases h

/-- **The exponent** is the same whatever stands behind it, if only neither a digit nor the letter
of an exponent does. -/
theorem exists_exponent (s : Text) : ∃ e t, s = e ++ t ∧
    e.length = exponentLength (exponentPart s) ∧ (∀ c ∈ e, IsScalarChar c) ∧
    (∀ c ∈ e.head?, c = 'e' ∨ c = 'E') ∧
    ∀ r, NoNumber r → exponentPart (e ++ r) = exponentPart s := by
  cases hs : exponentPart s with
  | none =>
    refine ⟨[], s, rfl, rfl, nofun, nofun, fun r hr => ?_⟩
    exact exponentPart_eq_none fun c hc => (hr c hc).2.2
  | some found =>
    obtain ⟨c, sign, digits, r, rfl, letter, signed, some, all, hr⟩ := exponentPart_eq_some hs
    rw [exponentPart_letter letter signed some all hr, Option.some.injEq] at hs
    subst hs
    refine ⟨c :: (sign ++ digits), r, ?_, ?_, ?_, ?_, fun r hr => ?_⟩
    · simp only [List.cons_append, List.append_assoc]
    · simp only [List.length_cons, List.length_append, exponentLength]
      omega
    · simp only [List.forall_mem_cons, List.forall_mem_append]
      refine ⟨?_, ?_, fun c hc => isScalarChar_of_isDigit (all c hc)⟩
      · rcases letter with rfl | rfl <;> decide
      · rcases signed with rfl | rfl | rfl <;> decide
    · rintro _ ⟨⟩
      exact letter
    · rw [List.cons_append, List.append_assoc]
      exact exponentPart_letter letter signed some all hr.noDigit

/-- **A number** is the same whatever stands behind it, if only that does not go on with it. -/
theorem exists_magnitude {negative : Bool} {s r : Text} {v : Json}
    (h : readMagnitude negative s = .ok (some (v, r))) :
    ∃ a, s = a ++ r ∧ (∀ c ∈ a.head?, c.isDigit = true) ∧ a ≠ [] ∧ (∀ c ∈ a, IsScalarChar c) ∧
      ∀ r', NoNumber r' → readMagnitude negative (a ++ r') = .ok (some (v, r')) := by
  have front : wholePart s ≠ [] := by
    intro none
    simp only [readMagnitude, none, List.isEmpty_nil] at h
    cases h
  have digits := (wholePart_digits s).2
  obtain ⟨t, hs, whole⟩ := exists_whole s
  obtain ⟨f, u, rfl, lengthF, charsF, headF, fraction⟩ := exists_fraction t
  obtain ⟨e, r, rfl, lengthE, charsE, headE, exponent⟩ := exists_exponent u
  generalize hw : wholePart s = w at front digits hs whole
  subst hs
  have behind (r' : Text) (hr : NoNumber r') :
      ∀ c ∈ (e ++ r').head?, c.isDigit = false ∧ c ≠ '.' := by
    intro c hc
    cases e with
    | nil => exact ⟨(hr c hc).1, (hr c hc).2.1⟩
    | cons d e =>
      obtain rfl := Option.some.inj hc
      rcases headE d rfl with rfl | rfl <;> decide
  have behind' (r' : Text) (hr : NoNumber r') : NoDigit (f ++ (e ++ r')) := by
    intro c hc
    cases f with
    | nil => exact (behind r' hr c hc).1
    | cons d f =>
      obtain rfl := Option.some.inj hc
      rw [headF d rfl]
      rfl
  rw [readMagnitude_append front hw rfl lengthF rfl lengthE] at h
  obtain ⟨v, number, same⟩ := map_eq_ok.mp h
  obtain ⟨rfl, rfl⟩ := Prod.mk.inj (Option.some.inj same)
  refine ⟨w ++ (f ++ e), by simp only [List.append_assoc], fun c hc => ?_, ?_, ?_, fun r' hr => ?_⟩
  · obtain ⟨d, w, rfl⟩ := List.exists_cons_of_ne_nil front
    exact digits c (Option.some.inj hc ▸ List.mem_cons_self)
  · exact List.append_ne_nil_of_left_ne_nil front _
  · simp only [List.forall_mem_append]
    exact ⟨fun c hc => isScalarChar_of_isDigit (digits c hc), charsF, charsE⟩
  · have places := fraction (e ++ r') (fun c hc => (behind r' hr c hc).1)
      fun c hc => (behind r' hr c hc).2
    rw [List.append_assoc, List.append_assoc, readMagnitude_append front
      (whole _ (behind' r' hr)) places lengthF (exponent r' hr) lengthE, number]
    rfl

/-! ### Words -/

theorem letters_of_mem_words : ∀ word ∈ words, 2 ≤ word.1.toText.length ∧
    ∀ c ∈ word.1.toText, IsScalarChar c ∧ c.isDigit = false := by
  decide

theorem readScalar_word (r : Text) :
    ∀ word ∈ words, readScalar (word.1.toText ++ r) = .ok (word.2, r) := by
  intro word hw
  simp only [words, List.mem_cons, List.not_mem_nil, or_false] at hw
  rcases hw with rfl | rfl | rfl | rfl | rfl | rfl <;> rfl

theorem find_words_eq_none {s : Text} {n : Nat} {d : CodePoint} (place : n < 2)
    (there : s[n]? = some d) (digit : d.isDigit = true) :
    words.find? (fun word => Text.startsWith s word.1.toText) = none := by
  simp only [List.find?_eq_none, Text.startsWith, List.isPrefixOf_iff_prefix]
  rintro word hw ⟨t, rfl⟩
  obtain ⟨length, letters⟩ := letters_of_mem_words word hw
  rw [List.getElem?_append_left (Nat.lt_of_lt_of_le place length)] at there
  have letter := (letters d (List.mem_of_getElem? there)).2
  rw [digit] at letter
  cases letter

/-- A value that is no string, array or object is a word, or a number that may have a sign. -/
theorem readScalar_eq_ok {s r : Text} {v : Json} (h : readScalar s = .ok (v, r)) :
    (∃ word ∈ words, s = word.1.toText ++ r ∧ v = word.2) ∨
      (∃ t, s = .char '-' :: t ∧ readMagnitude true t = .ok (some (v, r))) ∨
        readMagnitude false s = .ok (some (v, r)) := by
  unfold readScalar at h
  split at h
  · rename_i word value found
    obtain ⟨rfl, rfl⟩ := Prod.mk.inj (Except.ok.inj h)
    have front : Text.startsWith s word.toText = true := by simpa using List.find?_some found
    obtain ⟨t, rfl⟩ := List.isPrefixOf_iff_prefix.mp front
    have length : word.length = word.toText.length := by
      rw [String.toText, List.length_map, String.length_toList]
    refine Or.inl ⟨_, List.mem_of_find?_eq_some found, ?_, rfl⟩
    rw [length, List.drop_left]
  · refine Or.inr ?_
    dsimp only at h
    split at h
    · cases h
    · rename_i found number
      cases h
      split at number
      · exact Or.inl ⟨_, rfl, number⟩
      · exact Or.inr number
    · cases h

theorem readScalar_negative {s r : Text} {v : Json}
    (word : words.find? (fun word => Text.startsWith (.char '-' :: s) word.1.toText) = none)
    (number : readMagnitude true s = .ok (some (v, r))) :
    readScalar (.char '-' :: s) = .ok (v, r) := by
  simp only [readScalar, word, number]

theorem readScalar_positive {s r : Text} {v : Json}
    (word : words.find? (fun word => Text.startsWith s word.1.toText) = none)
    (sign : ∀ c ∈ s.head?, c ≠ '-') (number : readMagnitude false s = .ok (some (v, r))) :
    readScalar s = .ok (v, r) := by
  unfold readScalar
  rw [word]
  dsimp only
  split
  · rename_i stop h
    split at h
    · exact (sign _ rfl rfl).elim
    · cases h.symm.trans number
  · rename_i found h
    split at h
    · exact (sign _ rfl rfl).elim
    · cases h.symm.trans number
      rfl
  · rename_i h
    split at h
    · exact (sign _ rfl rfl).elim
    · cases h.symm.trans number

/-- **A word or a number** takes up a stretch that is read in the same way whatever stands behind
it, if only that does not go on with a number. -/
theorem exists_scalar {s r : Text} {v : Json} (h : readScalar s = .ok (v, r)) :
    ∃ a, s = a ++ r ∧ a ≠ [] ∧ (∀ c ∈ a, IsScalarChar c) ∧
      ∀ r', NoNumber r' → readScalar (a ++ r') = .ok (v, r') := by
  rcases readScalar_eq_ok h with ⟨word, hw, rfl, rfl⟩ | ⟨t, rfl, number⟩ | number
  · obtain ⟨length, letters⟩ := letters_of_mem_words word hw
    refine ⟨_, rfl, List.ne_nil_of_length_pos (Nat.zero_lt_of_lt length),
      fun c hc => (letters c hc).1, fun r' _ => readScalar_word r' word hw⟩
  · obtain ⟨a, rfl, digit, some, chars, read⟩ := exists_magnitude number
    refine ⟨.char '-' :: a, rfl, List.cons_ne_nil _ _, ?_, fun r' hr => ?_⟩
    · exact List.forall_mem_cons.mpr ⟨by decide, chars⟩
    · obtain ⟨d, a, rfl⟩ := List.exists_cons_of_ne_nil some
      have word : words.find? (fun word =>
          Text.startsWith (.char '-' :: d :: a ++ r') word.1.toText) = none :=
        find_words_eq_none (n := 1) (by decide) rfl (digit d rfl)
      exact readScalar_negative word (read r' hr)
  · obtain ⟨a, rfl, digit, some, chars, read⟩ := exists_magnitude number
    refine ⟨a, rfl, some, chars, fun r' hr => ?_⟩
    obtain ⟨d, a, rfl⟩ := List.exists_cons_of_ne_nil some
    have word : words.find? (fun word => Text.startsWith (d :: a ++ r') word.1.toText) = none :=
      find_words_eq_none (n := 0) (by decide) rfl (digit d rfl)
    refine readScalar_positive word ?_ (read r' hr)
    rintro _ ⟨⟩ rfl
    cases digit _ rfl

end ExamPress.Json

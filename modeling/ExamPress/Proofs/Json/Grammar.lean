import ExamPress.Json.Reader
import ExamPress.Proofs.Text.Front
import Mathlib.Data.List.TakeWhile
import Mathlib.Tactic.Common

/-! # The grammar of JSON

What a JSON text says, described without the budget that the reader uses up: `Reads s part r` says
that a part of a JSON text stands at the front of `s`, and `r` behind it. The words, numbers and
strings of a text are the ones the reader takes; how values are put together is said by the rules.
`Exceeds count place s` says that the rules lead to an integer with too many digits. The reader
finds a value exactly if the rules do (`read_eq_ok_iff`), and stops at such an integer exactly if
the rules lead to one (`read_eq_tooManyDigits_iff`). -/

namespace ExamPress.Json

/-! ### The rules -/

/-- What stands at a place of a JSON text: a value, or the items of an array or the entries of an
object up to its end. -/
inductive Part where
  | value (v : Json)
  | items (values : List Json)
  | entries (fields : List (Text × Json))

/-- The fields of an object after more entries. -/
def addEntries (fields entries : List (Text × Json)) : List (Text × Json) :=
  entries.foldl (fun fields entry => insertField entry.1 entry.2 fields) fields

/-- A text that begins with no string, array or object. -/
def BeginsSimple (s : Text) : Prop := ∀ c ∈ s.head?, c ≠ '"' ∧ c ≠ '[' ∧ c ≠ '{'

/-- `Named s name r`: at the front of `s` stands a name with its colon, and `r` is the value behind
it. -/
inductive Named : Text → Text → Text → Prop
  | intro {s name r r' : Text} (string : readString 1 [] 0 s = .ok (name, r))
      (colon : skipSpace r = .char ':' :: r') : Named ('"' :: s) name (skipSpace r')

/-- **The rules of JSON.** `Reads s part r`: at the front of `s` stands the part, and `r` behind
it. -/
inductive Reads : Text → Part → Text → Prop
  | string {s t r : Text} (h : readString 1 [] 0 s = .ok (t, r)) :
      Reads ('"' :: s) (.value (.str t)) r
  | simple {s r : Text} {v : Json} (front : BeginsSimple s) (h : readScalar s = .ok (v, r)) :
      Reads s (.value v) r
  | emptyArray {s r : Text} (close : skipSpace s = .char ']' :: r) :
      Reads ('[' :: s) (.value (.arr [])) r
  | array {s r : Text} {values : List Json} (items : Reads (skipSpace s) (.items values) r) :
      Reads ('[' :: s) (.value (.arr values)) r
  | emptyObject {s r : Text} (close : skipSpace s = .char '}' :: r) :
      Reads ('{' :: s) (.value (.obj [])) r
  | object {s r : Text} {fields : List (Text × Json)}
      (entries : Reads (skipSpace s) (.entries fields) r) :
      Reads ('{' :: s) (.value (.obj (addEntries [] fields))) r
  | lastItem {s r r' : Text} {v : Json} (value : Reads s (.value v) r)
      (close : skipSpace r = .char ']' :: r') : Reads s (.items [v]) r'
  | item {s r r' r'' : Text} {v : Json} {values : List Json} (value : Reads s (.value v) r)
      (comma : skipSpace r = .char ',' :: r') (items : Reads (skipSpace r') (.items values) r'') :
      Reads s (.items (v :: values)) r''
  | lastEntry {s name t r r' : Text} {v : Json} (named : Named s name t)
      (value : Reads t (.value v) r) (close : skipSpace r = .char '}' :: r') :
      Reads s (.entries [(name, v)]) r'
  | entry {s name t r r' r'' : Text} {v : Json} {fields : List (Text × Json)}
      (named : Named s name t) (value : Reads t (.value v) r)
      (comma : skipSpace r = .char ',' :: r')
      (entries : Reads (skipSpace r') (.entries fields) r'') :
      Reads s (.entries ((name, v) :: fields)) r''

/-- What the reader looks for at a place. -/
inductive Place where
  | value
  | items
  | entries

/-- **An integer with too many digits.** `Exceeds count place s`: the rules for what is looked for
at the front of `s` lead to an integer with so many digits, more than are allowed. -/
inductive Exceeds (count : Nat) : Place → Text → Prop
  | number {s : Text} (front : BeginsSimple s) (h : readScalar s = .error (.tooManyDigits count)) :
      Exceeds count .value s
  | array {s : Text} (items : Exceeds count .items (skipSpace s)) : Exceeds count .value ('[' :: s)
  | object {s : Text} (entries : Exceeds count .entries (skipSpace s)) :
      Exceeds count .value ('{' :: s)
  | firstItem {s : Text} (value : Exceeds count .value s) : Exceeds count .items s
  | laterItem {s r r' : Text} {v : Json} (value : Reads s (.value v) r)
      (comma : skipSpace r = .char ',' :: r') (items : Exceeds count .items (skipSpace r')) :
      Exceeds count .items s
  | firstEntry {s name t : Text} (named : Named s name t) (value : Exceeds count .value t) :
      Exceeds count .entries s
  | laterEntry {s name t r r' : Text} {v : Json} (named : Named s name t)
      (value : Reads t (.value v) r) (comma : skipSpace r = .char ',' :: r')
      (entries : Exceeds count .entries (skipSpace r')) : Exceeds count .entries s

/-! ### The steps of the reader -/

section

variable {budget : Nat} {s name t r r' : Text} {v : Json} {stop : Stop}

theorem readValue_simple (front : BeginsSimple s) : readValue (budget + 1) s = readScalar s := by
  rw [readValue.eq_5]
  · rintro r rfl
    exact (front _ rfl).1 rfl
  · rintro r rfl
    exact (front _ rfl).2.1 rfl
  · rintro r rfl
    exact (front _ rfl).2.2 rfl

theorem readValue_array (h : ∀ r, skipSpace s = .char ']' :: r → False) :
    readValue (budget + 1) ('[' :: s) = readItems budget [] (skipSpace s) := by
  rw [readValue]
  split
  · exact (h _ ‹_›).elim
  · rfl

theorem readValue_object (h : ∀ r, skipSpace s = .char '}' :: r → False) :
    readValue (budget + 1) ('{' :: s) = readFields budget [] (skipSpace s) := by
  rw [readValue]
  split
  · exact (h _ ‹_›).elim
  · rfl

theorem readItems_stop (value : readValue budget s = .error stop) (acc : List Json) :
    readItems (budget + 1) acc s = .error stop := by
  rw [readItems, value]

theorem readItems_last (value : readValue budget s = .ok (v, r))
    (close : skipSpace r = .char ']' :: r') (acc : List Json) :
    readItems (budget + 1) acc s = .ok (.arr (acc.reverse ++ [v]), r') := by
  simp only [readItems, value, close, List.reverse_cons]

theorem readItems_more (value : readValue budget s = .ok (v, r))
    (comma : skipSpace r = .char ',' :: r') (acc : List Json) :
    readItems (budget + 1) acc s = readItems budget (v :: acc) (skipSpace r') := by
  simp only [readItems, value, comma]

theorem readFields_stop (named : Named s name t) (value : readValue budget t = .error stop)
    (acc : List (Text × Json)) : readFields (budget + 1) acc s = .error stop := by
  obtain ⟨string, colon⟩ := named
  simp only [readFields, string, colon, value]

theorem readFields_last (named : Named s name t) (value : readValue budget t = .ok (v, r))
    (close : skipSpace r = .char '}' :: r') (acc : List (Text × Json)) :
    readFields (budget + 1) acc s = .ok (.obj (addEntries acc [(name, v)]), r') := by
  obtain ⟨string, colon⟩ := named
  simp only [readFields, string, colon, value, close]
  rfl

theorem readFields_more (named : Named s name t) (value : readValue budget t = .ok (v, r))
    (comma : skipSpace r = .char ',' :: r') (acc : List (Text × Json)) :
    readFields (budget + 1) acc s =
      readFields budget (insertField name v acc) (skipSpace r') := by
  obtain ⟨string, colon⟩ := named
  simp only [readFields, string, colon, value, comma]

end

/-! ### The reader follows the rules -/

theorem beginsSimple_of {s : Text} (string : ∀ r, s = .char '"' :: r → False)
    (array : ∀ r, s = .char '[' :: r → False) (object : ∀ r, s = .char '{' :: r → False) :
    BeginsSimple s := by
  intro c hc
  obtain ⟨r, rfl⟩ := List.head?_eq_some_iff.mp hc
  refine ⟨?_, ?_, ?_⟩ <;> rintro rfl
  · exact string r rfl
  · exact array r rfl
  · exact object r rfl

theorem readUnicode_ne_tooManyDigits {s : Text} {count : Nat} :
    readUnicode s ≠ .error (.tooManyDigits count) := by
  fun_cases readUnicode s <;> simp_all

theorem readString_ne_tooManyDigits {seen skipped count : Nat} {acc s : Text} :
    readString seen acc skipped s ≠ .error (.tooManyDigits count) := by
  fun_induction readString seen acc skipped s with
  | case5 seen acc digits stop h =>
    intro limit
    rw [Except.error.inj limit] at h
    exact readUnicode_ne_tooManyDigits h
  | _ => simp_all

/-- What the reader makes of a place agrees with the rules: a value stands there as said, and an
integer with too many digits is one that the rules lead to. -/
def Agrees (place : Place) (s : Text) (stands : Json → Text → Prop) :
    Except Stop (Json × Text) → Prop
  | .ok (v, r) => stands v r
  | .error (.tooManyDigits count) => Exceeds count place s
  | .error (.fault _ _) => True

theorem Agrees.imp {place place' : Place} {s s' : Text} {stands stands' : Json → Text → Prop}
    {outcome : Except Stop (Json × Text)} (h : Agrees place s stands outcome)
    (found : ∀ v r, stands v r → stands' v r)
    (led : ∀ count, Exceeds count place s → Exceeds count place' s') :
    Agrees place' s' stands' outcome := by
  match outcome, h with
  | .ok (v, r), h => exact found v r h
  | .error (.tooManyDigits count), h => exact led count h
  | .error (.fault _ _), _ => trivial

theorem Agrees.error {place place' : Place} {s s' : Text} {stands stands' : Json → Text → Prop}
    {stop : Stop} (h : Agrees place s stands (.error stop))
    (led : ∀ count, Exceeds count place s → Exceeds count place' s') :
    Agrees place' s' stands' (.error stop) := by
  cases stop with
  | fault _ _ => trivial
  | tooManyDigits count => exact led count h

/-- A string that can not be read leads to no integer. -/
theorem agrees_of_readString {place : Place} {s t : Text} {stands : Json → Text → Prop}
    {stop : Stop} (h : readString 1 [] 0 t = .error stop) :
    Agrees place s stands (.error stop) := by
  cases stop with
  | fault _ _ => trivial
  | tooManyDigits count => exact (readString_ne_tooManyDigits h).elim

/-- **The reader follows the rules**: what it finds stands there, and an integer with too many
digits at which it stops is one that the rules lead to. -/
theorem agrees_readers :
    (∀ budget s, Agrees .value s (fun v r => Reads s (.value v) r) (readValue budget s)) ∧
      (∀ budget acc s, Agrees .entries s
        (fun v r => ∃ fields, v = .obj (addEntries acc fields) ∧ Reads s (.entries fields) r)
        (readFields budget acc s)) ∧
      ∀ budget acc s, Agrees .items s
        (fun v r => ∃ values, v = .arr (acc.reverse ++ values) ∧ Reads s (.items values) r)
        (readItems budget acc s) := by
  -- along the calls of the reader: first for a value, then for entries, then for items
  apply readValue.mutual_induct
  all_goals intros
  case case1 => trivial
  case case2 h =>
    rw [readValue, h]
    exact agrees_of_readString h
  case case3 h =>
    rw [readValue, h]
    exact Reads.string h
  case case4 h =>
    rw [readValue, h]
    exact Reads.emptyArray h
  case case5 h ih =>
    rw [readValue_array h]
    refine ih.imp ?_ fun count => Exceeds.array
    rintro v r ⟨values, rfl, items⟩
    exact Reads.array items
  case case6 h =>
    rw [readValue, h]
    exact Reads.emptyObject h
  case case7 h ih =>
    rw [readValue_object h]
    refine ih.imp ?_ fun count => Exceeds.object
    rintro v r ⟨fields, rfl, entries⟩
    exact Reads.object entries
  case case8 s string array object =>
    have front := beginsSimple_of string array object
    rw [readValue_simple front]
    match h : readScalar s with
    | .ok (v, r) => exact Reads.simple front h
    | .error (.tooManyDigits count) => exact Exceeds.number front h
    | .error (.fault _ _) => trivial
  case case9 => trivial
  case case10 h =>
    rw [readFields, h]
    exact agrees_of_readString h
  case case11 string _ colon stop h ih =>
    have named := Named.intro string colon
    rw [readFields_stop named h]
    rw [h] at ih
    exact ih.error fun count => Exceeds.firstEntry named
  case case12 string _ colon v r h _ close ih =>
    have named := Named.intro string colon
    rw [readFields_last named h close]
    rw [h] at ih
    exact ⟨[_], rfl, Reads.lastEntry named ih close⟩
  case case13 string _ colon v r h _ _ comma ih rest =>
    have named := Named.intro string colon
    rw [readFields_more named h comma]
    rw [h] at ih
    refine rest.imp ?_ fun count => Exceeds.laterEntry named ih comma
    rintro v' r' ⟨fields, rfl, entries⟩
    exact ⟨_ :: fields, rfl, Reads.entry named ih comma entries⟩
  case case14 string _ colon v r h close comma ih =>
    simp only [readFields, string, colon, h]
    trivial
  case case15 string colon =>
    simp only [readFields, string]
    trivial
  case case16 front =>
    rw [readFields.eq_3 _ _ _ front]
    trivial
  case case17 => trivial
  case case18 stop h ih =>
    rw [readItems_stop h]
    rw [h] at ih
    exact ih.error fun count => Exceeds.firstItem
  case case19 v r h _ close ih =>
    rw [readItems_last h close]
    rw [h] at ih
    exact ⟨[v], rfl, Reads.lastItem ih close⟩
  case case20 acc _ _ v r h _ comma ih rest =>
    rw [readItems_more h comma]
    rw [h] at ih
    refine rest.imp ?_ fun count => Exceeds.laterItem ih comma
    rintro v' r' ⟨values, rfl, items⟩
    refine ⟨v :: values, ?_, Reads.item ih comma items⟩
    rw [List.reverse_cons, List.append_assoc, List.singleton_append]
  case case21 v r h close comma ih =>
    simp only [readItems, h]
    trivial

/-! ### Parts are parts of the text -/

theorem suffix_skipSpace (s : Text) : skipSpace s <:+ s := List.dropWhile_suffix _

theorem suffix_of_skipSpace {s r : Text} {c : CodePoint} (h : skipSpace s = c :: r) : r <:+ s :=
  (List.suffix_cons c r).trans (h ▸ suffix_skipSpace s)

theorem suffix_of_readString {seen skipped : Nat} {acc s t r : Text}
    (h : readString seen acc skipped s = .ok (t, r)) : r <:+ s := by
  fun_induction readString seen acc skipped s with
  | case2 _ _ _ _ _ ih => exact (ih h).trans (List.suffix_cons _ _)
  | case3 =>
    cases h
    exact List.suffix_cons _ _
  | case6 _ _ _ _ _ _ _ ih => exact (ih h).trans (List.suffix_cons _ _)
  | case8 _ _ _ _ _ _ _ _ ih => exact (ih h).trans (List.suffix_cons _ _)
  | case10 _ _ _ _ _ _ _ ih => exact (ih h).trans (List.suffix_cons _ _)
  | _ => cases h

theorem suffix_of_readMagnitude {negative : Bool} {s r : Text} {v : Json}
    (h : readMagnitude negative s = .ok (some (v, r))) : r <:+ s := by
  dsimp only [readMagnitude] at h
  split_ifs at h
  · cases h
  all_goals
    obtain ⟨-, rfl⟩ := Prod.mk.inj (Option.some.inj (Except.ok.inj h))
    -- with or without a fraction and an exponent the rest is dropped from the text
    split <;> split <;> simp only [List.drop_drop, List.drop_suffix]

/-- A simple value is a word, or a number that is read behind its sign. -/
theorem readScalar_cases (s : Text) :
    (∃ word value, readScalar s = .ok (value, s.drop (String.length word))) ∨
      ∃ negative t, t <:+ s ∧
        ((∃ stop, readMagnitude negative t = .error stop ∧ readScalar s = .error stop) ∨
          (∃ found, readMagnitude negative t = .ok (some found) ∧ readScalar s = .ok found) ∨
          readScalar s = .error (.fault .value s.length)) := by
  unfold readScalar
  split
  · exact Or.inl ⟨_, _, rfl⟩
  refine Or.inr ?_
  dsimp only
  split
  · rename_i stop h
    split at h
    · exact ⟨true, _, List.suffix_cons _ _, Or.inl ⟨stop, h, rfl⟩⟩
    · exact ⟨false, s, List.suffix_rfl, Or.inl ⟨stop, h, rfl⟩⟩
  · rename_i found h
    split at h
    · exact ⟨true, _, List.suffix_cons _ _, Or.inr (Or.inl ⟨found, h, rfl⟩)⟩
    · exact ⟨false, s, List.suffix_rfl, Or.inr (Or.inl ⟨found, h, rfl⟩)⟩
  · exact ⟨false, s, List.suffix_rfl, Or.inr (Or.inr rfl)⟩

theorem suffix_of_readScalar {s r : Text} {v : Json} (h : readScalar s = .ok (v, r)) :
    r <:+ s := by
  rcases readScalar_cases s with ⟨word, value, hs⟩ |
    ⟨negative, t, ht, ⟨stop, -, hs⟩ | ⟨found, magnitude, hs⟩ | hs⟩
  · obtain ⟨-, rfl⟩ := Prod.mk.inj (Except.ok.inj (h.symm.trans hs))
    exact List.drop_suffix _ s
  · cases h.symm.trans hs
  · cases h.symm.trans hs
    exact (suffix_of_readMagnitude magnitude).trans ht
  · cases h.symm.trans hs

theorem suffix_of_named {s name r : Text} (h : Named s name r) : r <:+ s := by
  obtain ⟨string, colon⟩ := h
  exact (suffix_skipSpace _).trans ((suffix_of_skipSpace colon).trans
    ((suffix_of_readString string).trans (List.suffix_cons _ _)))

theorem Reads.suffix {s r : Text} {part : Part} (h : Reads s part r) : r <:+ s := by
  induction h with
  | string h => exact (suffix_of_readString h).trans (List.suffix_cons _ _)
  | simple _ h => exact suffix_of_readScalar h
  | emptyArray close => exact (suffix_of_skipSpace close).trans (List.suffix_cons _ _)
  | array _ ih => exact ih.trans ((suffix_skipSpace _).trans (List.suffix_cons _ _))
  | emptyObject close => exact (suffix_of_skipSpace close).trans (List.suffix_cons _ _)
  | object _ ih => exact ih.trans ((suffix_skipSpace _).trans (List.suffix_cons _ _))
  | lastItem _ close ih => exact (suffix_of_skipSpace close).trans ih
  | item _ comma _ ih items =>
    exact items.trans ((suffix_skipSpace _).trans ((suffix_of_skipSpace comma).trans ih))
  | lastEntry named _ close ih =>
    exact (suffix_of_skipSpace close).trans (ih.trans (suffix_of_named named))
  | entry named _ comma _ ih entries =>
    exact entries.trans ((suffix_skipSpace _).trans ((suffix_of_skipSpace comma).trans
      (ih.trans (suffix_of_named named))))

/-! ### Integers with too many digits -/

/-- A text with a stretch of so many digits. -/
def HasDigits (count : Nat) (s : Text) : Prop :=
  ∃ digits : Text, digits <:+: s ∧ digits.length = count ∧ ∀ c ∈ digits, c.isDigit = true

theorem HasDigits.of_suffix {count : Nat} {s t : Text} (h : HasDigits count t) (ht : t <:+ s) :
    HasDigits count s := by
  obtain ⟨digits, inside, length, all⟩ := h
  exact ⟨digits, inside.trans ht.isInfix, length, all⟩

theorem wholePart_digits (s : Text) :
    wholePart s <+: s ∧ ∀ c ∈ wholePart s, CodePoint.isDigit c = true := by
  unfold wholePart
  split
  · exact ⟨List.cons_prefix_cons.mpr ⟨rfl, List.nil_prefix⟩, by decide⟩
  · exact ⟨List.takeWhile_prefix _, fun c => List.mem_takeWhile_imp⟩

theorem hasDigits_of_readMagnitude {negative : Bool} {s : Text} {count : Nat}
    (h : readMagnitude negative s = .error (.tooManyDigits count)) :
    Whole.maxDigits < count ∧ HasDigits count s := by
  dsimp only [readMagnitude] at h
  split_ifs at h with _ _ long
  cases h
  obtain ⟨front, digits⟩ := wholePart_digits s
  exact ⟨long, wholePart s, front.isInfix, rfl, digits⟩

theorem hasDigits_of_readScalar {s : Text} {count : Nat}
    (h : readScalar s = .error (.tooManyDigits count)) :
    Whole.maxDigits < count ∧ HasDigits count s := by
  rcases readScalar_cases s with ⟨word, value, hs⟩ |
    ⟨negative, t, ht, ⟨stop, magnitude, hs⟩ | ⟨found, -, hs⟩ | hs⟩
  · cases h.symm.trans hs
  · cases h.symm.trans hs
    exact (hasDigits_of_readMagnitude magnitude).imp_right (·.of_suffix ht)
  · cases h.symm.trans hs
  · cases h.symm.trans hs

/-- **An integer with too many digits** stands in the text. -/
theorem Exceeds.hasDigits {count : Nat} {place : Place} {s : Text} (h : Exceeds count place s) :
    Whole.maxDigits < count ∧ HasDigits count s := by
  induction h with
  | number _ h => exact hasDigits_of_readScalar h
  | array _ ih =>
    exact ih.imp_right (·.of_suffix ((suffix_skipSpace _).trans (List.suffix_cons _ _)))
  | object _ ih =>
    exact ih.imp_right (·.of_suffix ((suffix_skipSpace _).trans (List.suffix_cons _ _)))
  | firstItem _ ih => exact ih
  | laterItem value comma _ ih =>
    exact ih.imp_right (·.of_suffix ((suffix_skipSpace _).trans
      ((suffix_of_skipSpace comma).trans value.suffix)))
  | firstEntry named _ ih => exact ih.imp_right (·.of_suffix (suffix_of_named named))
  | laterEntry named value comma _ ih =>
    exact ih.imp_right (·.of_suffix ((suffix_skipSpace _).trans
      ((suffix_of_skipSpace comma).trans (value.suffix.trans (suffix_of_named named)))))

theorem exceeds_longInteger {digits r : Text} (hd : ∀ d ∈ digits, d.isDigit = true)
    (long : Whole.maxDigits ≤ digits.length) :
    Exceeds (digits.length + 1) .value (.char '1' :: (digits ++ .char ']' :: r)) := by
  have whole : wholePart (.char '1' :: (digits ++ .char ']' :: r)) = .char '1' :: digits := by
    refine (Text.takeWhile_append (a := .char '1' :: digits) ?_ ?_ :
      List.takeWhile CodePoint.isDigit (.char '1' :: digits ++ .char ']' :: r) = _)
    · exact List.forall_mem_cons.mpr ⟨rfl, hd⟩
    · rintro _ ⟨⟩
      rfl
  have rest : (.char '1' :: (digits ++ .char ']' :: r) : Text).drop (digits.length + 1) =
      .char ']' :: r := by
    rw [List.drop_succ_cons, List.drop_left]
  have magnitude : readMagnitude false (.char '1' :: (digits ++ .char ']' :: r)) =
      .error (.tooManyDigits (digits.length + 1)) := by
    simp only [readMagnitude, whole, List.length_cons, rest]
    exact if_pos (Nat.lt_succ_of_le long)
  refine .number ?_ ?_
  · rintro _ ⟨⟩
    decide
  · have word : (words.find? fun word =>
        Text.startsWith (.char '1' :: (digits ++ .char ']' :: r)) word.1.toText) = none := rfl
    rw [readScalar, word]
    · dsimp only
      rw [magnitude]
    · nofun

/-! ### What the rules say is read -/

/-- A text that begins with no closing bracket and no byte order mark. -/
def BeginsPart (s : Text) : Prop := ∀ c ∈ s.head?, c ≠ ']' ∧ c ≠ '}' ∧ c ≠ '\ufeff'

theorem beginsPart_cons {c : CodePoint} {s : Text} (h : c ≠ ']' ∧ c ≠ '}' ∧ c ≠ '\ufeff') :
    BeginsPart (c :: s) := by
  rintro _ ⟨⟩
  exact h

/-- Where no part begins, neither a word nor a number is found. -/
theorem beginsPart_or_readScalar (s : Text) :
    BeginsPart s ∨ readScalar s = .error (.fault .value s.length) := by
  by_cases front : BeginsPart s
  · exact Or.inl front
  · simp only [BeginsPart, not_forall] at front
    obtain ⟨c, hc, other⟩ := front
    obtain ⟨r, rfl⟩ := List.head?_eq_some_iff.mp hc
    simp only [not_and_or, not_not] at other
    rcases other with rfl | rfl | rfl <;> exact Or.inr rfl

theorem Named.beginsPart {s name r : Text} (h : Named s name r) : BeginsPart s := by
  cases h
  exact beginsPart_cons (by decide)

theorem Reads.beginsPart {s r : Text} {part : Part} (h : Reads s part r) : BeginsPart s := by
  induction h with
  | simple _ h =>
    refine (beginsPart_or_readScalar _).resolve_right fun missing => ?_
    cases h.symm.trans missing
  | lastItem _ _ ih => exact ih
  | item _ _ _ ih _ => exact ih
  | lastEntry named _ _ _ => exact named.beginsPart
  | entry named _ _ _ _ _ => exact named.beginsPart
  | _ => exact beginsPart_cons (by decide)

theorem Exceeds.beginsPart {count : Nat} {place : Place} {s : Text}
    (h : Exceeds count place s) : BeginsPart s := by
  induction h with
  | number _ h =>
    refine (beginsPart_or_readScalar _).resolve_right fun missing => ?_
    cases h.symm.trans missing
  | firstItem _ ih => exact ih
  | laterItem value _ _ _ => exact value.beginsPart
  | firstEntry named _ _ => exact named.beginsPart
  | laterEntry named _ _ _ _ => exact named.beginsPart
  | _ => exact beginsPart_cons (by decide)

/-- What is looked for when a part is to be read. -/
def Part.place : Part → Place
  | value _ => .value
  | items _ => .items
  | entries _ => .entries

/-- What the budget has to exceed for the front of a text to be read. -/
def Place.cost (s : Text) : Place → Nat
  | value => 2 * s.length
  | items | entries => 2 * s.length + 1

/-- The reader finds a part at the front of a text. -/
def Finds (budget : Nat) (s : Text) : Part → Text → Prop
  | .value v, r => readValue budget s = .ok (v, r)
  | .items values, r => ∀ acc, readItems budget acc s = .ok (.arr (acc.reverse ++ values), r)
  | .entries fields, r => ∀ acc, readFields budget acc s = .ok (.obj (addEntries acc fields), r)

/-- The reader stops at a place. -/
def StopsAt (budget : Nat) (s : Text) (stop : Stop) : Place → Prop
  | .value => readValue budget s = .error stop
  | .items => ∀ acc, readItems budget acc s = .error stop
  | .entries => ∀ acc, readFields budget acc s = .error stop

theorem length_skipSpace (s : Text) : (skipSpace s).length ≤ s.length :=
  (suffix_skipSpace s).length_le

theorem length_lt_of_skipSpace {s r : Text} {c : CodePoint} (h : skipSpace s = c :: r) :
    (skipSpace r).length < s.length := by
  have front := length_skipSpace s
  rw [h, List.length_cons] at front
  exact Nat.lt_of_lt_of_le (Nat.lt_succ_of_le (length_skipSpace r)) front

section

variable {budget : Nat} {place : Place} {s t r r' : Text} {c : CodePoint}

theorem cost_inside (enough : Place.value.cost (c :: s) < budget + 1) :
    place.cost (skipSpace s) < budget := by
  have := length_skipSpace s
  cases place <;> simp only [Place.cost, List.length_cons] at enough ⊢ <;> omega

theorem cost_first (inside : t <:+ s) (enough : Place.items.cost s < budget + 1) :
    Place.value.cost t < budget := by
  have := inside.length_le
  simp only [Place.cost] at enough ⊢
  omega

theorem cost_later (inside : r <:+ s) (comma : skipSpace r = .char ',' :: r')
    (enough : place.cost s < budget + 1) : place.cost (skipSpace r') < budget := by
  have := inside.length_le
  have := length_lt_of_skipSpace comma
  cases place <;> simp only [Place.cost] at enough ⊢ <;> omega

end

/-- **What the rules say is found**: a part that stands at the front of a text, if the budget is
large enough. -/
theorem Reads.finds {s r : Text} {part : Part} (h : Reads s part r) {budget : Nat}
    (enough : part.place.cost s < budget) : Finds budget s part r := by
  induction h generalizing budget
  all_goals obtain ⟨budget, rfl⟩ := Nat.exists_eq_add_one.mpr (Nat.zero_lt_of_lt enough)
  case string h => simp only [Finds, readValue, h]
  case simple front h => exact (readValue_simple front).trans h
  case emptyArray close => simp only [Finds, readValue, close]
  case array items ih =>
    refine (readValue_array fun r close => ?_).trans (ih (cost_inside enough) [])
    exact (items.beginsPart ']' (by rw [close]; rfl)).1 rfl
  case emptyObject close => simp only [Finds, readValue, close]
  case object entries ih =>
    refine (readValue_object fun r close => ?_).trans (ih (cost_inside enough) [])
    exact (entries.beginsPart '}' (by rw [close]; rfl)).2.1 rfl
  case lastItem close ih =>
    exact readItems_last (ih (cost_first List.suffix_rfl enough)) close
  case item value comma _ ih rest =>
    intro acc
    rw [readItems_more (ih (cost_first List.suffix_rfl enough)) comma,
      rest (cost_later value.suffix comma enough), List.reverse_cons, List.append_assoc,
      List.singleton_append]
  case lastEntry named _ close ih =>
    exact readFields_last named (ih (cost_first (suffix_of_named named) enough)) close
  case entry named value comma _ ih rest =>
    intro acc
    rw [readFields_more named (ih (cost_first (suffix_of_named named) enough)) comma]
    exact rest (cost_later (value.suffix.trans (suffix_of_named named)) comma enough) _

/-- An integer with too many digits that the rules lead to stops the reader, if the budget is large
enough. -/
theorem Exceeds.stopsAt {count : Nat} {place : Place} {s : Text} (h : Exceeds count place s)
    {budget : Nat} (enough : place.cost s < budget) :
    StopsAt budget s (.tooManyDigits count) place := by
  induction h generalizing budget
  all_goals obtain ⟨budget, rfl⟩ := Nat.exists_eq_add_one.mpr (Nat.zero_lt_of_lt enough)
  case number front h => exact (readValue_simple front).trans h
  case array items ih =>
    refine (readValue_array fun r close => ?_).trans (ih (cost_inside enough) [])
    exact (items.beginsPart ']' (by rw [close]; rfl)).1 rfl
  case object entries ih =>
    refine (readValue_object fun r close => ?_).trans (ih (cost_inside enough) [])
    exact (entries.beginsPart '}' (by rw [close]; rfl)).2.1 rfl
  case firstItem ih => exact readItems_stop (ih (cost_first List.suffix_rfl enough))
  case laterItem value comma _ ih =>
    intro acc
    rw [readItems_more (value.finds (cost_first List.suffix_rfl enough)) comma]
    exact ih (cost_later value.suffix comma enough) _
  case firstEntry named _ ih =>
    exact readFields_stop named (ih (cost_first (suffix_of_named named) enough))
  case laterEntry named value comma _ ih =>
    intro acc
    rw [readFields_more named (value.finds (cost_first (suffix_of_named named) enough)) comma]
    exact ih (cost_later (value.suffix.trans (suffix_of_named named)) comma enough) _

/-! ### Texts that are read -/

/-- **A JSON text**: one value between blanks. -/
def Spells (s : Text) (v : Json) : Prop :=
  ∃ r, Reads (skipSpace s) (.value v) r ∧ skipSpace r = []

/-- Whether the rules lead to an integer with so many digits, more than are allowed. -/
def MeetsLimit (s : Text) (count : Nat) : Prop := Exceeds count .value (skipSpace s)

theorem MeetsLimit.hasDigits {s : Text} {count : Nat} (h : MeetsLimit s count) :
    Whole.maxDigits < count ∧ HasDigits count s :=
  (Exceeds.hasDigits h).imp_right (·.of_suffix (suffix_skipSpace s))

section

variable {s : Text}

/-- Behind a byte order mark neither a value nor an integer is looked for. -/
theorem head_ne_mark (h : BeginsPart (skipSpace s)) : s.head? ≠ some '\ufeff' := by
  intro mark
  obtain ⟨r, rfl⟩ := List.head?_eq_some_iff.mp mark
  exact (h '\ufeff' rfl).2.2 rfl

theorem cost_read (s : Text) : Place.value.cost (skipSpace s) < 2 * s.length + 2 := by
  have := length_skipSpace s
  simp only [Place.cost]
  omega

theorem read_of_spells {v : Json} (h : Spells s v) : read s = .ok v := by
  obtain ⟨r, value, close⟩ := h
  have found : readValue _ _ = _ := value.finds (cost_read s)
  rw [read, if_neg (head_ne_mark value.beginsPart), readAfterMark]
  simp only [found, close]
  rfl

theorem read_of_meetsLimit {count : Nat} (h : MeetsLimit s count) :
    read s = .error (.tooManyDigits count) := by
  have stop : readValue _ _ = _ := Exceeds.stopsAt h (cost_read s)
  rw [read, if_neg (head_ne_mark h.beginsPart), readAfterMark]
  simp only [stop]
  rfl

/-- What is read stands in the text, and an integer with too many digits is met there. -/
theorem read_cases (s : Text) : (∃ v, read s = .ok v ∧ Spells s v) ∨
    (∃ count, read s = .error (.tooManyDigits count) ∧ MeetsLimit s count) ∨
      ∃ fault line column position, read s = .error (.malformed fault line column position) := by
  have agrees := agrees_readers.1 (2 * s.length + 2) (skipSpace s)
  unfold read readAfterMark
  split
  · exact Or.inr (Or.inr ⟨_, _, _, _, rfl⟩)
  · cases found : readValue (2 * s.length + 2) (skipSpace s) with
    | ok front =>
      rw [found] at agrees
      dsimp only
      cases close : skipSpace front.2 with
      | nil => exact Or.inl ⟨front.1, rfl, front.2, agrees, close⟩
      | cons c r => exact Or.inr (Or.inr ⟨_, _, _, _, rfl⟩)
    | error stop =>
      rw [found] at agrees
      cases stop with
      | fault _ _ => exact Or.inr (Or.inr ⟨_, _, _, _, rfl⟩)
      | tooManyDigits count => exact Or.inr (Or.inl ⟨count, rfl, agrees⟩)

/-- **Reading a text** gives its value: the one that the rules say it spells. -/
theorem read_eq_ok_iff {v : Json} : read s = .ok v ↔ Spells s v := by
  refine ⟨fun h => ?_, read_of_spells⟩
  rcases read_cases s with ⟨v', hv, spells⟩ | ⟨count, hc, -⟩ | ⟨_, _, _, _, hf⟩
  · cases h.symm.trans hv
    exact spells
  · cases h.symm.trans hc
  · cases h.symm.trans hf

/-- **Reading a text** meets the limit of digits exactly if the rules lead to such an integer. -/
theorem read_eq_tooManyDigits_iff {count : Nat} :
    read s = .error (.tooManyDigits count) ↔ MeetsLimit s count := by
  refine ⟨fun h => ?_, read_of_meetsLimit⟩
  rcases read_cases s with ⟨v, hv, -⟩ | ⟨count', hc, limit⟩ | ⟨_, _, _, _, hf⟩
  · cases h.symm.trans hv
  · cases h.symm.trans hc
    exact limit
  · cases h.symm.trans hf

end

end ExamPress.Json

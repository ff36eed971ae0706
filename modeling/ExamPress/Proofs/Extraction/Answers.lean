import ExamPress.Extraction.Run
import ExamPress.Proofs.Outcome
import Mathlib.Data.List.Forall2
import Mathlib.Tactic.Common

/-! # The shape of an answer

Which JSON values are answers, and what their text is, is said by their shape alone: `IsAnswer`
names the objects, arrays and texts on the way from the answer to its parts. Each value is either
such an answer, and gives its text, or it is refused (`answerText_outcome`). Where a text or an
object stands in the place of the array of parts, its characters or names are looked at instead, but
none of them is a part. -/

namespace ExamPress.Extraction

/-- `GivesText part s`: the part is an object whose text is `s`, or one that has no text, and `s` is
empty. -/
inductive GivesText : Json → Text → Prop
  | silent {fields : List (Text × Json)} (missing : Json.field? fields "text" = none) :
      GivesText (.obj fields) []
  | spoken {fields : List (Text × Json)} {s : Text}
      (there : Json.field? fields "text" = some (.str s)) : GivesText (.obj fields) s

/-- **The shape of an answer.** `IsAnswer answer t`: the first candidate has parts that give texts,
`t` is these texts one after the other, and something in it can be seen. A candidate without content
has an empty one, and content without parts has none. -/
inductive IsAnswer : Json → Text → Prop
  | intro {answer candidate content : List (Text × Json)} {others parts : List Json}
      {texts : List Text}
      (candidates : Json.field? answer "candidates" = some (.arr (.obj candidate :: others)))
      (holds : (Json.field? candidate "content").getD (.obj []) = .obj content)
      (lists : (Json.field? content "parts").getD (.arr []) = .arr parts)
      (give : List.Forall₂ GivesText parts texts)
      (visible : ∃ c ∈ texts.flatten, Text.isBlank c = false) :
      IsAnswer (.obj answer) texts.flatten

theorem IsAnswer.exists_visible {d : Json} {t : Text} (h : IsAnswer d t) :
    ∃ c ∈ t, Text.isBlank c = false := by
  obtain ⟨_, _, _, _, visible⟩ := h
  exact visible

/-! ### Fields and first items -/

theorem fieldOf_eq_ok {name : String} {default v w : Json} :
    fieldOf name default v = .ok w ↔
      ∃ fields, v = .obj fields ∧ (Json.field? fields name).getD default = w := by
  constructor
  · intro h
    cases v with
    | obj fields => exact ⟨fields, rfl, Except.ok.inj h⟩
    | _ => cases h
  · rintro ⟨fields, rfl, rfl⟩
    rfl

/-- The first item is an object only in an array: the first character of a text is none. -/
theorem firstOf_eq_object {v : Json} {fields : List (Text × Json)} :
    firstOf v = .ok (.obj fields) ↔ ∃ others, v = .arr (.obj fields :: others) := by
  constructor
  · intro h
    cases v with
    | arr items =>
      cases items with
      | nil => cases h
      | cons first others =>
        cases h
        exact ⟨others, rfl⟩
    | str s => cases s <;> cases h
    | _ => cases h
  · rintro ⟨others, rfl⟩
    rfl

/-! ### Parts and their texts -/

theorem fieldOf_text_eq_ok {part : Json} {s : Text} :
    fieldOf "text" (.str []) part = .ok (.str s) ↔ GivesText part s := by
  rw [fieldOf_eq_ok]
  constructor
  · rintro ⟨fields, rfl, h⟩
    cases there : Json.field? fields "text" with
    | none =>
      rw [there] at h
      cases h
      exact .silent there
    | some v =>
      rw [there] at h
      cases h
      exact .spoken there
  · rintro (⟨missing⟩ | ⟨there⟩)
    · exact ⟨_, rfl, by rw [missing]; rfl⟩
    · exact ⟨_, rfl, by rw [there]; rfl⟩

theorem partTexts_eq_ok {parts values : List Json} :
    partTexts parts = .ok values ↔
      List.Forall₂ (fun part v => fieldOf "text" (.str []) part = .ok v) parts values := by
  induction parts generalizing values with
  | nil =>
    rw [partTexts, List.forall₂_nil_left_iff]
    exact ⟨fun h => (Except.ok.inj h).symm, fun h => by rw [h]⟩
  | cons part parts ih =>
    rw [partTexts, bind_eq_ok, List.forall₂_cons_left_iff]
    refine exists_congr fun first => ?_
    constructor
    · rintro ⟨hf, h⟩
      obtain ⟨rest, hr, h⟩ := bind_eq_ok.mp h
      exact ⟨rest, hf, ih.mp hr, (pure_eq_ok.mp h).symm⟩
    · rintro ⟨rest, hf, hr, rfl⟩
      exact ⟨hf, bind_eq_ok.mpr ⟨rest, ih.mpr hr, rfl⟩⟩

theorem joinTexts_eq_ok {position : Nat} {values : List Json} {t : Text} :
    joinTexts position values = .ok t ↔
      ∃ texts : List Text, values = texts.map .str ∧ texts.flatten = t := by
  induction values generalizing position t with
  | nil =>
    constructor
    · intro h
      exact ⟨[], rfl, Except.ok.inj h⟩
    · rintro ⟨texts, h, rfl⟩
      rw [List.map_eq_nil_iff.mp h.symm]
      rfl
  | cons v values ih =>
    constructor
    · intro h
      cases v with
      | str s =>
        obtain ⟨rest, hr, rfl⟩ := map_eq_ok.mp h
        obtain ⟨texts, rfl, rfl⟩ := ih.mp hr
        exact ⟨s :: texts, rfl, rfl⟩
      | _ => cases h
    · rintro ⟨texts, h, rfl⟩
      obtain ⟨s, texts, rfl, rfl, rfl⟩ := List.map_eq_cons_iff.mp h.symm
      exact map_eq_ok.mpr ⟨texts.flatten, ih.mpr ⟨texts, rfl, rfl⟩, rfl⟩

/-- **The text of items** is there exactly if each of them gives a text. -/
theorem exists_partTexts {items : List Json} {t : Text} :
    (∃ values, partTexts items = .ok values ∧ joinTexts 0 values = .ok t) ↔
      ∃ texts, List.Forall₂ GivesText items texts ∧ texts.flatten = t := by
  have give (texts : List Text) : partTexts items = .ok (texts.map .str) ↔
      List.Forall₂ GivesText items texts := by
    rw [partTexts_eq_ok, List.forall₂_map_right_iff]
    exact ⟨fun h => h.imp fun _ _ => fieldOf_text_eq_ok.mp,
      fun h => h.imp fun _ _ => fieldOf_text_eq_ok.mpr⟩
  constructor
  · rintro ⟨values, hv, h⟩
    obtain ⟨texts, rfl, rfl⟩ := joinTexts_eq_ok.mp h
    exact ⟨texts, (give texts).mp hv, rfl⟩
  · rintro ⟨texts, ht, rfl⟩
    exact ⟨texts.map .str, (give texts).mpr ht, joinTexts_eq_ok.mpr ⟨texts, rfl, rfl⟩⟩

/-- What gives a text that is not empty is an array: the characters of a text and the names of an
object are no objects. -/
theorem eq_array_of_itemsOf {v : Json} {items : List Json} {texts : List Text}
    (hi : itemsOf v = .ok items) (ht : List.Forall₂ GivesText items texts)
    (some : texts.flatten ≠ []) : v = .arr items := by
  have none {a : Type} {f : a → Text} {l : List a}
      (h : List.Forall₂ GivesText (l.map fun x => .str (f x)) texts) : False := by
    cases l with
    | nil =>
      rw [List.map_nil, List.forall₂_nil_left_iff] at h
      exact some (by rw [h]; rfl)
    | cons x l =>
      obtain ⟨s, rest, hs, -, -⟩ := List.forall₂_cons_left_iff.mp h
      cases hs
  cases v with
  | arr items' =>
    cases hi
    rfl
  | str s =>
    cases hi
    exact (none ht).elim
  | obj fields =>
    cases hi
    exact (none ht).elim
  | _ => cases hi

/-! ### Candidates -/

theorem candidateText_eq_ok {candidates : Json} {t : Text} :
    candidateText candidates = .ok t ↔
      ∃ candidate others, candidates = .arr (.obj candidate :: others) ∧
        ∃ content, (Json.field? candidate "content").getD (.obj []) = .obj content ∧
          ∃ items, itemsOf ((Json.field? content "parts").getD (.arr [])) = .ok items ∧
            ∃ texts, List.Forall₂ GivesText items texts ∧ texts.flatten = t := by
  simp only [candidateText, bind_eq_ok, ← exists_partTexts]
  constructor
  · rintro ⟨first, hf, _, hc, _, hp, items, hi, values, hv, h⟩
    obtain ⟨candidate, rfl, rfl⟩ := fieldOf_eq_ok.mp hc
    obtain ⟨others, rfl⟩ := firstOf_eq_object.mp hf
    obtain ⟨content, hc, rfl⟩ := fieldOf_eq_ok.mp hp
    exact ⟨candidate, others, rfl, content, hc, items, hi, values, hv, h⟩
  · rintro ⟨candidate, others, rfl, content, hc, items, hi, values, hv, h⟩
    exact ⟨_, firstOf_eq_object.mpr ⟨others, rfl⟩, _, fieldOf_eq_ok.mpr ⟨candidate, rfl, rfl⟩, _,
      fieldOf_eq_ok.mpr ⟨content, hc, rfl⟩, items, hi, values, hv, h⟩

/-! ### Answers -/

theorem isAllBlank_eq_false_iff {t : Text} :
    Text.isAllBlank t = false ↔ ∃ c ∈ t, Text.isBlank c = false := by
  simp [Text.isAllBlank]

/-- The text of an object is the text of its candidates, unless it is blank. Candidates that are
empty give no text. -/
theorem answerText_object_eq_ok {answer : List (Text × Json)} {t : Text} :
    answerText (.obj answer) = .ok t ↔
      (∃ candidates, Json.field? answer "candidates" = some candidates ∧
        candidateText candidates = .ok t) ∧ ∃ c ∈ t, Text.isBlank c = false := by
  rw [← isAllBlank_eq_false_iff]
  cases there : Json.field? answer "candidates" with
  | none => simp [answerText, there, Json.isEmpty]
  | some candidates =>
    simp only [answerText, there, Option.getD_some, Option.some.injEq, exists_eq_left']
    by_cases empty : candidates.isEmpty = true
    · rw [if_pos empty]
      refine ⟨nofun, ?_⟩
      rintro ⟨h, -⟩
      obtain ⟨candidate, others, rfl, -⟩ := candidateText_eq_ok.mp h
      cases empty
    · rw [if_neg empty]
      cases h : candidateText candidates with
      | error fault => simp
      | ok s =>
        cases blank : Text.isAllBlank s with
        | true =>
          simp only [blank, if_true, Except.ok.injEq, reduceCtorEq, false_iff]
          rintro ⟨rfl, visible⟩
          exact Bool.noConfusion (blank.symm.trans visible)
        | false =>
          simp only [blank, Bool.false_eq_true, if_false, Except.ok.injEq]
          exact ⟨fun same => ⟨same, same ▸ blank⟩, fun h => h.1⟩

theorem answerText_eq_ok_iff {d : Json} {t : Text} : answerText d = .ok t ↔ IsAnswer d t := by
  constructor
  · intro h
    cases d with
    | obj answer =>
      obtain ⟨⟨candidates, there, h⟩, visible⟩ := answerText_object_eq_ok.mp h
      obtain ⟨candidate, others, rfl, content, hc, items, hi, texts, give, rfl⟩ :=
        candidateText_eq_ok.mp h
      have some : texts.flatten ≠ [] := by
        obtain ⟨c, hc, -⟩ := visible
        exact List.ne_nil_of_mem hc
      exact .intro there hc (eq_array_of_itemsOf hi give some) give visible
    | _ => cases h
  · rintro ⟨there, holds, lists, give, visible⟩
    refine answerText_object_eq_ok.mpr ⟨⟨_, there, candidateText_eq_ok.mpr ?_⟩, visible⟩
    exact ⟨_, _, rfl, _, holds, _, by rw [lists]; rfl, _, give, rfl⟩

/-- **Every value** gives a text in which something can be seen, or is refused with an error of the
value; and it gives a text exactly if it has the shape of an answer with this text. -/
theorem answerText_outcome (d : Json) :
    ((∃ t, answerText d = .ok t ∧ ∃ c ∈ t, Text.isBlank c = false) ∨
      ∃ fault, answerText d = .error fault ∧
        (AttemptFailure.answer fault).className = "ValueError".toText) ∧
      ∀ t, answerText d = .ok t ↔ IsAnswer d t := by
  refine ⟨?_, fun t => answerText_eq_ok_iff⟩
  cases h : answerText d with
  | error fault => exact Or.inr ⟨fault, rfl, rfl⟩
  | ok t => exact Or.inl ⟨t, rfl, (answerText_eq_ok_iff.mp h).exists_visible⟩

end ExamPress.Extraction

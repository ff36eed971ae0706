import ExamPress.Proofs.Json.Stretches
import ExamPress.Proofs.Table.Refusals

/-! # Fences around a table

A table is the same with a code fence around it. The fences are removed from the whole text, which
leaves no other fence (`removeFences_once`). A fence can also stand in a string of the table, and is
removed there as well (`rows_fenceTable`). The text that is left is read as before, part by part
(`exists_unfences`), because a fence is a stretch of plain characters of a string and is no part of
a word or a number. So the table keeps the shapes of its items, and it is the same table if there
are no fences in its strings (`rows_inFence`). -/

namespace ExamPress.Table

open Json (Part Reads Named Inside IsScalarChar NoNumber isSpace skipSpace)

/-! ### Fences in strings -/

theorem ne_of_hex4 {a b c d : CodePoint} {n : Nat} (h : Json.hex4 a b c d = some n) :
    a ≠ '\x60' ∧ b ≠ '\x60' ∧ c ≠ '\x60' ∧ d ≠ '\x60' := by
  have digit {e : CodePoint} {k : Nat} (he : Text.Percent.hexValue? e = some k) : e ≠ '\x60' := by
    rintro rfl
    cases he
  simp only [Json.hex4, Option.bind_eq_bind, Option.bind_eq_some_iff] at h
  obtain ⟨_, ha, _, hb, _, hc, _, hd, -⟩ := h
  exact ⟨digit ha, digit hb, digit hc, digit hd⟩

theorem inside_of_append {p s : Text} (plain : ∀ c ∈ p, c ≠ '\\') (h : Inside (p ++ s)) :
    Inside s := by
  induction p with
  | nil => exact h
  | cons c p ih =>
    obtain ⟨hc, hp⟩ := List.forall_mem_cons.mp plain
    rw [List.cons_append] at h
    generalize hs : p ++ s = t at h
    cases h with
    | plain _ _ _ rest => exact ih hp (hs ▸ rest)
    | escape => exact (hc rfl).elim
    | unicode => exact (hc rfl).elim

/-- **Without fences** a string is one as well. -/
theorem inside_removeFences {s : Text} (h : Inside s) : Inside (removeFences s) := by
  -- along the length: a fence takes several of the characters that the rules of a string take
  induction hs : s.length using Nat.strongRecOn generalizing s with
  | ind length ih =>
    subst hs
    by_cases marked : fenceMark <+: s
    · obtain ⟨r, rfl⟩ := marked
      have hr := inside_of_append (by decide) h
      have mark : 0 < fenceMark.length := by decide
      by_cases word : fenceWord <+: r
      · obtain ⟨r, rfl⟩ := word
        rw [removeFences_of_unfenced (.wordFence (unfenced_iff.mpr rfl))]
        have shorter : r.length < (fenceMark ++ (fenceWord ++ r)).length := by
          simp only [List.length_append]
          omega
        exact ih r.length shorter (inside_of_append (by decide) hr) rfl
      · rw [removeFences_of_unfenced (.fence word (unfenced_iff.mpr rfl))]
        have shorter : r.length < (fenceMark ++ r).length := by
          rw [List.length_append]
          omega
        exact ih r.length shorter hr rfl
    · cases h with
      | nil => exact .nil
      | plain mark backslash least rest =>
        rw [removeFences_unmarked marked]
        exact .plain mark backslash least (ih _ (by simp) rest rfl)
      | @escape d e s known rest =>
        have shorter : s.length < (CodePoint.char '\\' :: d :: s).length :=
          Nat.lt_succ_of_lt (Nat.lt_succ_self _)
        have other : d ≠ '\x60' := by
          rintro rfl
          cases known
        rw [removeFences_cons (by decide), removeFences_cons other]
        exact .escape known (ih s.length shorter rest rfl)
      | @unicode a b c d n s digits rest =>
        have shorter : s.length < ('\\' :: 'u' :: a :: b :: c :: d :: s : Text).length := by
          simp only [List.length_cons]
          omega
        obtain ⟨ha, hb, hc, hd⟩ := ne_of_hex4 digits
        rw [removeFences_cons (by decide), removeFences_cons (by decide), removeFences_cons ha,
          removeFences_cons hb, removeFences_cons hc, removeFences_cons hd]
        exact .unicode digits (ih s.length shorter rest rfl)

/-- **A string** with fences is a string without them as well. It stands for the same text if there
are none. -/
theorem exists_unfenced_string {seen : Nat} {acc s t r : Text}
    (h : Json.readString seen acc 0 s = .ok (t, r)) : ∃ b u : Text, s = b ++ .char '"' :: r ∧
      (¬ fenceMark <:+: b → u = t) ∧
        ∀ r', Json.readString seen acc 0 (removeFences b ++ .char '"' :: r') = .ok (u, r') := by
  obtain ⟨p, b, rfl, length, inside⟩ := Json.exists_inside h
  obtain rfl := List.length_eq_zero_iff.mp length
  rw [List.nil_append] at h ⊢
  obtain ⟨u, hu⟩ := (inside_removeFences inside).exists_text
  refine ⟨b, acc.reverse ++ u, rfl, fun unmarked => ?_, fun r' => hu seen acc r'⟩
  rw [removeFences_of_no_mark unmarked] at hu
  have same := (hu seen acc r).symm.trans h
  exact (Prod.mk.inj (Except.ok.inj same)).1

/-! ### Shapes -/

mutual

/-- The shape of a value: the value without what strings and objects hold. -/
def shape : Json → Json
  | .str _ => .str []
  | .arr items => .arr (shapes items)
  | .obj _ => .obj []
  | v => v

/-- The shapes of values. -/
def shapes : List Json → List Json
  | [] => []
  | v :: items => shape v :: shapes items

end

/-- The parts have the same shape. -/
inductive Alike : Part → Part → Prop
  | value {v w : Json} (same : shape v = shape w) : Alike (.value v) (.value w)
  | items {vs ws : List Json} (same : shapes vs = shapes ws) : Alike (.items vs) (.items ws)
  | entries {fs gs : List (Text × Json)} : Alike (.entries fs) (.entries gs)

theorem Alike.shape_eq {v w : Json} (h : Alike (.value v) (.value w)) : shape v = shape w := by
  cases h
  assumption

theorem Alike.shapes_eq {vs ws : List Json} (h : Alike (.items vs) (.items ws)) :
    shapes vs = shapes ws := by
  cases h
  assumption

/-- A text that neither begins nor ends with a blank. -/
structure IsSolid (s : Text) : Prop where
  some : s ≠ []
  head : ∀ c ∈ s.head?, Text.isBlank c = false
  last : ∀ c ∈ s.getLast?, Text.isBlank c = false

theorem IsSolid.singleton {c : CodePoint} (h : Text.isBlank c = false) : IsSolid [c] := by
  refine ⟨List.cons_ne_nil _ _, ?_, ?_⟩ <;> rintro _ ⟨⟩ <;> exact h

theorem IsSolid.join {a b : Text} (ha : IsSolid a) (m : Text) (hb : IsSolid b) :
    IsSolid (a ++ (m ++ b)) where
  some := List.append_ne_nil_of_left_ne_nil ha.some _
  head := by
    obtain ⟨c, a, rfl⟩ := List.exists_cons_of_ne_nil ha.some
    exact ha.head
  last := by
    rw [← List.append_assoc, List.getLast?_append_of_ne_nil _ hb.some]
    exact hb.last

/-- The characters of words and numbers are neither blanks nor in the mark of a fence. -/
theorem plain_of_isScalarChar {c : CodePoint} (h : IsScalarChar c) :
    Text.isBlank c = false ∧ c ≠ '\x60' := by
  constructor
  · have bounds := h.bounds
    simp only [Text.isBlank, Text.isWhiteSpace, Bool.or_eq_false_iff, Bool.and_eq_false_iff,
      decide_eq_false_iff_not, beq_eq_false_iff_ne]
    omega
  · rintro rfl
    revert h
    decide

theorem IsSolid.of_scalar {a : Text} (some : a ≠ []) (chars : ∀ c ∈ a, IsScalarChar c) :
    IsSolid a where
  some := some
  head c hc := (plain_of_isScalarChar (chars c (List.mem_of_mem_head? hc))).1
  last c hc := (plain_of_isScalarChar (chars c (List.mem_of_getLast? hc))).1

/-! ### Blanks and marks -/

/-- The marks of JSON. -/
def marks : Text := "[]{},:\"".toText

/-- What stands between two parts: a mark with blanks around it. -/
structure Gap where
  before : Text
  mark : CodePoint
  after : Text
  spaceBefore : ∀ c ∈ before, isSpace c = true
  isMark : mark ∈ marks
  spaceAfter : ∀ c ∈ after, isSpace c = true

/-- The text of a gap. -/
def Gap.text (g : Gap) : Text := g.before ++ g.mark :: g.after

theorem eq_of_isSpace {c : CodePoint} (h : isSpace c = true) :
    c = ' ' ∨ c = '\t' ∨ c = '\n' ∨ c = '\r' := by
  simpa [isSpace, or_assoc] using h

theorem isSpace_eq_false {c : CodePoint} (h : Text.isBlank c = false) : isSpace c = false := by
  refine Bool.eq_false_iff.mpr fun space => ?_
  rcases eq_of_isSpace space with rfl | rfl | rfl | rfl <;> cases h

theorem plain_marks : ∀ c ∈ marks, IsApart c ∧ Text.isBlank c = false ∧
    c.isDigit = false ∧ c ≠ '.' ∧ c ≠ 'e' ∧ c ≠ 'E' := by
  decide

theorem plain_of_isSpace {c : CodePoint} (h : isSpace c = true) : IsApart c ∧
    Text.isBlank c = true ∧ c.isDigit = false ∧ c ≠ '.' ∧ c ≠ 'e' ∧ c ≠ 'E' := by
  rcases eq_of_isSpace h with rfl | rfl | rfl | rfl <;> decide

theorem exists_space (s : Text) : ∃ space : Text, s = space ++ skipSpace s ∧
    ∀ c ∈ space, isSpace c = true :=
  ⟨s.takeWhile isSpace, List.takeWhile_append_dropWhile.symm, fun _ => List.mem_takeWhile_imp⟩

theorem skipSpace_mark {space r : Text} {c : CodePoint} (hs : ∀ c ∈ space, isSpace c = true)
    (hc : c ∈ marks) : skipSpace (space ++ c :: r) = c :: r := by
  refine Text.dropWhile_append hs ?_
  rintro _ ⟨⟩
  exact isSpace_eq_false (plain_marks c hc).2.1

theorem noNumber_mark {space r : Text} {c : CodePoint} (hs : ∀ c ∈ space, isSpace c = true)
    (hc : c ∈ marks) : NoNumber (space ++ c :: r) := by
  intro d hd
  cases space with
  | nil =>
    obtain rfl := Option.some.inj hd
    exact (plain_marks c hc).2.2
  | cons e space =>
    obtain rfl := Option.some.inj hd
    exact (plain_of_isSpace (hs e List.mem_cons_self)).2.2

theorem skipSpace_solid {space a r : Text} (hs : ∀ c ∈ space, isSpace c = true) (ha : IsSolid a) :
    skipSpace (space ++ (a ++ r)) = a ++ r := by
  obtain ⟨c, a, rfl⟩ := List.exists_cons_of_ne_nil ha.some
  refine Text.dropWhile_append hs ?_
  rintro _ ⟨⟩
  exact isSpace_eq_false (ha.head c rfl)

namespace Gap

variable (g : Gap)

theorem apart : ∀ c ∈ g.text, IsApart c := by
  refine List.forall_mem_append.mpr ⟨fun c hc => (plain_of_isSpace (g.spaceBefore c hc)).1, ?_⟩
  exact List.forall_mem_cons.mpr
    ⟨(plain_marks _ g.isMark).1, fun c hc => (plain_of_isSpace (g.spaceAfter c hc)).1⟩

theorem ne_nil : g.text ≠ [] := List.append_ne_nil_of_right_ne_nil _ (List.cons_ne_nil _ _)

theorem removeFences (a s : Text) : Table.removeFences (a ++ (g.text ++ s)) =
    Table.removeFences a ++ (g.text ++ Table.removeFences s) :=
  removeFences_between g.ne_nil g.apart

theorem removeFences_left (s : Text) :
    Table.removeFences (g.text ++ s) = g.text ++ Table.removeFences s :=
  g.removeFences [] s

theorem removeFences_right (a : Text) :
    Table.removeFences (a ++ g.text) = Table.removeFences a ++ g.text := by
  have removed := g.removeFences a []
  rwa [List.append_nil, removeFences_nil, List.append_nil] at removed

theorem noNumber (r : Text) : NoNumber (g.text ++ r) := by
  rw [text, List.append_assoc, List.cons_append]
  exact noNumber_mark g.spaceBefore g.isMark

theorem skipSpace (r : Text) : Json.skipSpace (g.text ++ r) = g.mark :: (g.after ++ r) := by
  rw [text, List.append_assoc, List.cons_append]
  exact skipSpace_mark g.spaceBefore g.isMark

/-- A mark without blanks. -/
def bare (c : CodePoint) (h : c ∈ marks) : Gap :=
  ⟨[], c, [], List.forall_mem_nil _, h, List.forall_mem_nil _⟩

/-- The quotation mark at an end of a string. -/
def quote : Gap := .bare '"' (by decide)

/-- A mark with blanks behind it. -/
def opening (c : CodePoint) (h : c ∈ marks) (space : Text) (hs : ∀ c ∈ space, isSpace c = true) :
    Gap :=
  ⟨[], c, space, List.forall_mem_nil _, h, hs⟩

/-- A mark with blanks in front of it. -/
def closing (space : Text) (hs : ∀ c ∈ space, isSpace c = true) (c : CodePoint) (h : c ∈ marks) :
    Gap :=
  ⟨space, c, [], hs, h, List.forall_mem_nil _⟩

end Gap

/-! ### Parts without their fences -/

/-- `Unfences a part part'`: the text `a` spells a part, and without its fences it is read as the
other one, which has the same shape and is the same if there are no fences. What stands behind it
does not matter if it does not go on with a number. -/
structure Unfences (a : Text) (part part' : Part) : Prop where
  solid : IsSolid (removeFences a)
  alike : Alike part part'
  same : ¬ fenceMark <:+: a → part' = part
  reads : ∀ r, NoNumber r → Reads (removeFences a ++ r) part' r

/-- The same for an entry of an object. -/
structure UnfencesEntry (a : Text) (entry entry' : Text × Json) : Prop where
  solid : IsSolid (removeFences a)
  same : ¬ fenceMark <:+: a → entry' = entry
  reads : ∀ r, NoNumber r → ∃ t, Named (removeFences a ++ r) entry'.1 t ∧
    Reads t (.value entry'.2) r

namespace Unfences

variable {a b s t r : Text} {v w : Json} {vs ws : List Json} {fs gs : List (Text × Json)}

theorem string (h : Json.readString 1 [] 0 s = .ok (t, r)) :
    ∃ a u, .char '"' :: s = a ++ r ∧ Unfences a (.value (.str t)) (.value (.str u)) := by
  obtain ⟨b, u, rfl, same, read⟩ := exists_unfenced_string h
  let quote := Gap.quote
  have removed : removeFences (quote.text ++ (b ++ quote.text)) =
      quote.text ++ (removeFences b ++ quote.text) := by
    rw [quote.removeFences_left, quote.removeFences_right]
  have mark : IsSolid quote.text := .singleton (by decide)
  refine ⟨quote.text ++ (b ++ quote.text), u, ?_, ?_, .value rfl, fun unmarked => ?_,
    fun r hr => ?_⟩
  · rw [List.append_assoc, List.append_assoc]
    rfl
  · rw [removed]
    exact mark.join _ mark
  · rw [same (Text.not_infix_append (Text.not_infix_append unmarked).2).1]
  · rw [removed, List.append_assoc, List.append_assoc]
    exact .string (read r)

theorem scalar (front : Json.BeginsSimple s) (h : Json.readScalar s = .ok (v, r)) :
    ∃ a, s = a ++ r ∧ Unfences a (.value v) (.value v) := by
  obtain ⟨a, rfl, some, chars, read⟩ := Json.exists_scalar h
  have removed : removeFences a = a :=
    removeFences_of_unfenced (.self fun c hc => (plain_of_isScalarChar (chars c hc)).2)
  refine ⟨a, rfl, ?_, .value rfl, fun _ => rfl, fun r' hr => ?_⟩
  · rw [removed]
    exact .of_scalar some chars
  · rw [removed]
    refine .simple ?_ (read r' hr)
    obtain ⟨c, a, rfl⟩ := List.exists_cons_of_ne_nil some
    exact front

theorem empty {c d : CodePoint} (hc : c ∈ marks) (hd : d ∈ marks) {space : Text}
    (hs : ∀ c ∈ space, isSpace c = true)
    (reads : ∀ r, Reads (c :: (space ++ d :: r)) (.value v) r) :
    Unfences (c :: (space ++ [d])) (.value v) (.value v) := by
  have removed : removeFences (c :: (space ++ [d])) = c :: (space ++ [d]) :=
    ((Gap.opening c hc space hs).removeFences_left [d]).trans
      (congrArg (_ ++ ·) ((Gap.bare d hd).removeFences_left []))
  refine ⟨?_, .value rfl, fun _ => rfl, fun r _ => ?_⟩
  · rw [removed]
    exact (IsSolid.singleton (plain_marks c hc).2.1).join space
      (.singleton (plain_marks d hd).2.1)
  · rw [removed, List.cons_append, List.append_assoc]
    exact reads r

theorem array (hs : ∀ c ∈ s, isSpace c = true) (h : Unfences a (.items vs) (.items ws)) :
    Unfences (.char '[' :: (s ++ a)) (.value (.arr vs)) (.value (.arr ws)) := by
  have removed : removeFences (.char '[' :: (s ++ a)) = .char '[' :: (s ++ removeFences a) :=
    (Gap.opening '[' (by decide) s hs).removeFences_left a
  refine ⟨?_, ?_, fun unmarked => ?_, fun r hr => ?_⟩
  · rw [removed]
    exact (IsSolid.singleton (by decide)).join s h.solid
  · exact .value (congrArg Json.arr h.alike.shapes_eq)
  · have same := h.same (Text.not_infix_append (a := .char '[' :: s) unmarked).2
    rw [Part.items.inj same]
  · rw [removed, List.cons_append, List.append_assoc]
    refine .array ?_
    rw [skipSpace_solid hs h.solid]
    exact h.reads r hr

theorem object (hs : ∀ c ∈ s, isSpace c = true) (h : Unfences a (.entries fs) (.entries gs)) :
    Unfences (.char '{' :: (s ++ a)) (.value (.obj (Json.addEntries [] fs)))
      (.value (.obj (Json.addEntries [] gs))) := by
  have removed : removeFences (.char '{' :: (s ++ a)) = .char '{' :: (s ++ removeFences a) :=
    (Gap.opening '{' (by decide) s hs).removeFences_left a
  refine ⟨?_, .value rfl, fun unmarked => ?_, fun r hr => ?_⟩
  · rw [removed]
    exact (IsSolid.singleton (by decide)).join s h.solid
  · have same := h.same (Text.not_infix_append (a := .char '{' :: s) unmarked).2
    rw [Part.entries.inj same]
  · rw [removed, List.cons_append, List.append_assoc]
    refine .object ?_
    rw [skipSpace_solid hs h.solid]
    exact h.reads r hr

theorem lastItem (h : Unfences a (.value v) (.value w)) (hs : ∀ c ∈ s, isSpace c = true) :
    Unfences (a ++ (s ++ [.char ']'])) (.items [v]) (.items [w]) := by
  have removed : removeFences (a ++ (s ++ [.char ']'])) = removeFences a ++ (s ++ [.char ']']) :=
    (Gap.closing s hs ']' (by decide)).removeFences_right a
  refine ⟨?_, ?_, fun unmarked => ?_, fun r hr => ?_⟩
  · rw [removed]
    exact h.solid.join s (.singleton (by decide))
  · exact .items (congrArg (· :: []) h.alike.shape_eq)
  · rw [Part.value.inj (h.same (Text.not_infix_append unmarked).1)]
  · rw [removed, List.append_assoc, List.append_assoc]
    exact .lastItem (h.reads _ (noNumber_mark hs (by decide))) (skipSpace_mark hs (by decide))

theorem item (h : Unfences a (.value v) (.value w)) (g : Gap) (comma : g.mark = ',')
    (h' : Unfences b (.items vs) (.items ws)) :
    Unfences (a ++ (g.text ++ b)) (.items (v :: vs)) (.items (w :: ws)) := by
  have removed := g.removeFences a b
  refine ⟨?_, ?_, fun unmarked => ?_, fun r hr => ?_⟩
  · rw [removed]
    exact h.solid.join g.text h'.solid
  · exact .items (by rw [shapes, shapes, h.alike.shape_eq, h'.alike.shapes_eq])
  · obtain ⟨before, after⟩ := Text.not_infix_append unmarked
    rw [Part.value.inj (h.same before), Part.items.inj (h'.same (Text.not_infix_append after).2)]
  · rw [removed, List.append_assoc, List.append_assoc]
    have mark := g.skipSpace (removeFences b ++ r)
    rw [comma] at mark
    refine .item (h.reads _ (g.noNumber _)) mark ?_
    rw [skipSpace_solid g.spaceAfter h'.solid]
    exact h'.reads r hr

theorem lastEntry {entry entry' : Text × Json} (h : UnfencesEntry a entry entry')
    (hs : ∀ c ∈ s, isSpace c = true) :
    Unfences (a ++ (s ++ [.char '}'])) (.entries [entry]) (.entries [entry']) := by
  have removed : removeFences (a ++ (s ++ [.char '}'])) = removeFences a ++ (s ++ [.char '}']) :=
    (Gap.closing s hs '}' (by decide)).removeFences_right a
  refine ⟨?_, .entries, fun unmarked => ?_, fun r hr => ?_⟩
  · rw [removed]
    exact h.solid.join s (.singleton (by decide))
  · rw [h.same (Text.not_infix_append unmarked).1]
  · rw [removed, List.append_assoc, List.append_assoc]
    have behind : NoNumber (s ++ .char '}' :: r) := noNumber_mark hs (by decide)
    obtain ⟨t, named, value⟩ := h.reads _ behind
    exact .lastEntry named value (skipSpace_mark hs (by decide))

theorem entry {entry entry' : Text × Json} (h : UnfencesEntry a entry entry') (g : Gap)
    (comma : g.mark = ',') (h' : Unfences b (.entries fs) (.entries gs)) :
    Unfences (a ++ (g.text ++ b)) (.entries (entry :: fs)) (.entries (entry' :: gs)) := by
  have removed := g.removeFences a b
  refine ⟨?_, .entries, fun unmarked => ?_, fun r hr => ?_⟩
  · rw [removed]
    exact h.solid.join g.text h'.solid
  · obtain ⟨before, after⟩ := Text.not_infix_append unmarked
    rw [h.same before, Part.entries.inj (h'.same (Text.not_infix_append after).2)]
  · rw [removed, List.append_assoc, List.append_assoc]
    have mark := g.skipSpace (removeFences b ++ r)
    rw [comma] at mark
    obtain ⟨t, named, value⟩ := h.reads _ (g.noNumber (removeFences b ++ r))
    refine .entry named value mark ?_
    rw [skipSpace_solid g.spaceAfter h'.solid]
    exact h'.reads r hr

end Unfences

theorem exists_unfencesEntry {a s name t r : Text} {v w : Json} (h : Named s name t)
    (behind : t = a ++ r) (value : Unfences a (.value v) (.value w)) :
    ∃ b name', s = b ++ r ∧ UnfencesEntry b (name, v) (name', w) := by
  obtain @⟨_, _, r₁, r₂, string, mark⟩ := h
  obtain ⟨b, u, rfl, same, read⟩ := exists_unfenced_string string
  obtain ⟨before, hr₁, spaceBefore⟩ := exists_space r₁
  obtain ⟨after, hr₂, spaceAfter⟩ := exists_space r₂
  let quote := Gap.quote
  let colon : Gap := ⟨before, .char ':', after, spaceBefore, by decide, spaceAfter⟩
  have removed : removeFences (quote.text ++ (b ++ (quote.text ++ (colon.text ++ a)))) =
      quote.text ++ (removeFences b ++ (quote.text ++ (colon.text ++ removeFences a))) := by
    rw [quote.removeFences_left, quote.removeFences, colon.removeFences_left]
  have solid : IsSolid quote.text := .singleton (by decide)
  refine ⟨quote.text ++ (b ++ (quote.text ++ (colon.text ++ a))), u, ?_, ?_, fun unmarked => ?_,
    fun r' hr => ?_⟩
  · rw [hr₁, mark, hr₂, behind]
    simp [quote, colon, Gap.quote, Gap.bare, Gap.text]
  · rw [removed]
    exact solid.join _ (solid.join _ value.solid)
  · obtain ⟨name, rest⟩ := Text.not_infix_append (Text.not_infix_append unmarked).2
    have inside := (Text.not_infix_append (Text.not_infix_append rest).2).2
    rw [same name, Part.value.inj (value.same inside)]
  · refine ⟨removeFences a ++ r', ?_, value.reads r' hr⟩
    have named := Named.intro (read (colon.text ++ (removeFences a ++ r'))) (colon.skipSpace _)
    rw [skipSpace_solid spaceAfter value.solid] at named
    rw [removed]
    simp only [List.append_assoc]
    exact named

theorem Unfences.exists_value {a : Text} {v : Json} {part : Part}
    (h : Unfences a (.value v) part) : ∃ w, part = .value w := by
  cases h.alike
  exact ⟨_, rfl⟩

theorem Unfences.exists_items {a : Text} {vs : List Json} {part : Part}
    (h : Unfences a (.items vs) part) : ∃ ws, part = .items ws := by
  cases h.alike
  exact ⟨_, rfl⟩

theorem Unfences.exists_entries {a : Text} {fs : List (Text × Json)} {part : Part}
    (h : Unfences a (.entries fs) part) : ∃ gs, part = .entries gs := by
  cases h.alike
  exact ⟨_, rfl⟩

/-- **Parts without their fences.** A part of a text without fences is read from the stretch that is
left of its own. -/
theorem exists_unfences {s r : Text} {part : Part} (h : Reads s part r) :
    ∃ a part', s = a ++ r ∧ Unfences a part part' := by
  induction h with
  | string h =>
    obtain ⟨a, u, same, unfences⟩ := Unfences.string h
    exact ⟨a, _, same, unfences⟩
  | simple front h =>
    obtain ⟨a, same, unfences⟩ := Unfences.scalar front h
    exact ⟨a, _, same, unfences⟩
  | @emptyArray s r close =>
    obtain ⟨space, hs, blank⟩ := exists_space s
    rw [close] at hs
    refine ⟨.char '[' :: (space ++ [.char ']']), _, by simp [hs],
      .empty (by decide) (by decide) blank fun r => ?_⟩
    exact .emptyArray (skipSpace_mark blank (by decide))
  | @emptyObject s r close =>
    obtain ⟨space, hs, blank⟩ := exists_space s
    rw [close] at hs
    refine ⟨.char '\x7b' :: (space ++ [.char '\x7d']), _, by simp [hs],
      .empty (by decide) (by decide) blank fun r => ?_⟩
    exact .emptyObject (skipSpace_mark blank (by decide))
  | @array s r values items ih =>
    obtain ⟨a, part', ha, unfences⟩ := ih
    obtain ⟨ws, rfl⟩ := unfences.exists_items
    obtain ⟨space, hs, blank⟩ := exists_space s
    rw [ha] at hs
    exact ⟨.char '[' :: (space ++ a), _, by simp [hs], unfences.array blank⟩
  | @object s r fields entries ih =>
    obtain ⟨a, part', ha, unfences⟩ := ih
    obtain ⟨gs, rfl⟩ := unfences.exists_entries
    obtain ⟨space, hs, blank⟩ := exists_space s
    rw [ha] at hs
    exact ⟨.char '\x7b' :: (space ++ a), _, by simp [hs], unfences.object blank⟩
  | @lastItem s r r' v value close ih =>
    obtain ⟨a, part', rfl, unfences⟩ := ih
    obtain ⟨w, rfl⟩ := unfences.exists_value
    obtain ⟨space, hs, blank⟩ := exists_space r
    rw [close] at hs
    exact ⟨a ++ (space ++ [.char ']']), _, by simp [hs], unfences.lastItem blank⟩
  | @item s r r' r'' v values value comma items ih rest =>
    obtain ⟨a, part', rfl, unfences⟩ := ih
    obtain ⟨w, rfl⟩ := unfences.exists_value
    obtain ⟨b, part'', hb, later⟩ := rest
    obtain ⟨ws, rfl⟩ := later.exists_items
    obtain ⟨before, hr, blankBefore⟩ := exists_space r
    obtain ⟨after, hr', blankAfter⟩ := exists_space r'
    rw [comma, hr', hb] at hr
    let gap : Gap := ⟨before, .char ',', after, blankBefore, by decide, blankAfter⟩
    exact ⟨a ++ (gap.text ++ b), _, by simp [hr, gap, Gap.text], unfences.item gap rfl later⟩
  | @lastEntry s name t r r' v named value close ih =>
    obtain ⟨a, part', ha, unfences⟩ := ih
    obtain ⟨w, rfl⟩ := unfences.exists_value
    obtain ⟨b, name', rfl, entry⟩ := exists_unfencesEntry named ha unfences
    obtain ⟨space, hs, blank⟩ := exists_space r
    rw [close] at hs
    exact ⟨b ++ (space ++ [.char '\x7d']), _, by simp [hs], .lastEntry entry blank⟩
  | @entry s name t r r' r'' v fields named value comma entries ih rest =>
    obtain ⟨a, part', ha, unfences⟩ := ih
    obtain ⟨w, rfl⟩ := unfences.exists_value
    obtain ⟨b, name', rfl, entry⟩ := exists_unfencesEntry named ha unfences
    obtain ⟨c, part'', hc, later⟩ := rest
    obtain ⟨gs, rfl⟩ := later.exists_entries
    obtain ⟨before, hr, blankBefore⟩ := exists_space r
    obtain ⟨after, hr', blankAfter⟩ := exists_space r'
    rw [comma, hr', hc] at hr
    let gap : Gap := ⟨before, .char ',', after, blankBefore, by decide, blankAfter⟩
    exact ⟨b ++ (gap.text ++ c), _, by simp [hr, gap, Gap.text], .entry entry gap rfl later⟩

/-! ### Tables -/

/-- A text with a fence around it, which stands on lines of its own. -/
def inFence (s : Text) : Text := fenceMark ++ .char '\n' :: (s ++ .char '\n' :: fenceMark)

/-- A text with a fence around it that begins with the word. -/
def inWordFence (s : Text) : Text :=
  fenceMark ++ (fenceWord ++ .char '\n' :: (s ++ .char '\n' :: fenceMark))

theorem removeFences_lines (s : Text) :
    removeFences (.char '\n' :: (s ++ .char '\n' :: fenceMark)) =
      .char '\n' :: (removeFences s ++ [.char '\n']) := by
  have line : ∀ c ∈ [CodePoint.char '\n'], IsApart c := by decide
  have inside : removeFences (s ++ ([.char '\n'] ++ fenceMark)) =
      removeFences s ++ ([.char '\n'] ++ removeFences fenceMark) :=
    removeFences_between (List.cons_ne_nil _ _) line
  rw [removeFences_cons (by decide)]
  exact congrArg _ inside

theorem removeFences_inFence (s : Text) :
    removeFences (inFence s) = .char '\n' :: (removeFences s ++ [.char '\n']) := by
  have plain : ¬ fenceWord <+: .char '\n' :: (s ++ .char '\n' :: fenceMark) := by
    intro word
    have first := (List.cons_prefix_cons.mp word).1
    revert first
    decide
  exact removeFences_of_unfenced (.fence plain (unfenced_iff.mpr (removeFences_lines s)))

theorem removeFences_inWordFence (s : Text) :
    removeFences (inWordFence s) = .char '\n' :: (removeFences s ++ [.char '\n']) :=
  removeFences_of_unfenced (.wordFence (unfenced_iff.mpr (removeFences_lines s)))

theorem strip_lines (s : Text) :
    Text.strip (.char '\n' :: (s ++ [.char '\n'])) = Text.strip s := by
  obtain ⟨t, ht⟩ := exists_isStripped s
  obtain ⟨front, back, rfl, blank⟩ := ht.between
  obtain ⟨blankFront, blankBack⟩ := List.forall_mem_append.mp blank
  rw [isStripped_iff.mp ht]
  refine isStripped_iff.mp ⟨⟨.char '\n' :: front, back ++ [.char '\n'], ?_, ?_⟩, ht.head, ht.last⟩
  · simp only [List.append_assoc, List.cons_append]
  · simp only [List.forall_mem_append, List.forall_mem_cons]
    exact ⟨⟨rfl, blankFront⟩, blankBack, rfl, nofun⟩

theorem payload_inFence (s : Text) : payload (inFence s) = payload s := by
  rw [payload, removeFences_inFence, strip_lines, payload]

theorem payload_inWordFence (s : Text) : payload (inWordFence s) = payload s := by
  rw [payload, removeFences_inWordFence, strip_lines, payload]

theorem rows_congr {s t : Text} (h : payload s = payload t) : rows s = rows t := by
  rw [rows, rows, h]

/-- **Fences are removed in one pass**: what is left has no fence, so there is nothing to remove
from it, and it holds the same table. -/
theorem removeFences_once (s : Text) :
    Unfenced s (removeFences s) ∧ ¬ fenceMark <:+: removeFences s ∧
      removeFences (removeFences s) = removeFences s ∧ rows (removeFences s) = rows s := by
  have unfenced : Unfenced s (removeFences s) := unfenced_iff.mpr rfl
  have again : removeFences (removeFences s) = removeFences s :=
    removeFences_of_no_mark unfenced.no_mark
  refine ⟨unfenced, unfenced.no_mark, again, rows_congr ?_⟩
  rw [payload, again, payload]

/-- Four backquotes behind a fence with the word are another fence and one that is kept. -/
example : removeFences ("\x60\x60\x60json\x60\x60\x60\x60json".toText) = "\x60json".toText := by
  decide

/-- The text of a table that spells a value is left of it without blanks and fences. -/
theorem exists_payload {s : Text} {v : Json} (h : Json.Spells s v) : ∃ w,
    Json.Spells (payload s) w ∧ shape v = shape w ∧ (¬ fenceMark <:+: s → w = v) := by
  obtain ⟨r, value, close⟩ := h
  obtain ⟨a, part', ha, unfences⟩ := exists_unfences value
  obtain ⟨w, rfl⟩ := unfences.exists_value
  obtain ⟨space, hs, blank⟩ := exists_space s
  obtain ⟨space', hr, blank'⟩ := exists_space r
  rw [close, List.append_nil] at hr
  subst hr
  rw [ha] at hs
  subst hs
  have apart (t : Text) (ht : ∀ c ∈ t, isSpace c = true) : ∀ c ∈ t, IsApart c :=
    fun c hc => (plain_of_isSpace (ht c hc)).1
  have removed : removeFences (space ++ (a ++ r)) = space ++ (removeFences a ++ r) := by
    have behind := removeFences_apart_append (apart r blank') []
    rw [List.append_nil, removeFences_nil, List.append_nil] at behind
    rw [removeFences_apart_append (apart space blank), removeFences_append, behind]
    exact fun c hc => apart r blank' c (List.mem_of_mem_head? hc)
  have stripped : IsStripped (space ++ (removeFences a ++ r)) (removeFences a) := by
    refine ⟨⟨space, r, (List.append_assoc ..).symm, ?_⟩, unfences.solid.head,
      unfences.solid.last⟩
    refine List.forall_mem_append.mpr ⟨fun c hc => ?_, fun c hc => ?_⟩
    · exact (plain_of_isSpace (blank c hc)).2.1
    · exact (plain_of_isSpace (blank' c hc)).2.1
  have left : payload (space ++ (a ++ r)) = removeFences a := by
    rw [payload, removed, isStripped_iff.mp stripped]
  refine ⟨w, ⟨[], ?_, rfl⟩, unfences.alike.shape_eq, fun unmarked => ?_⟩
  · have nothing : NoNumber [] := by
      rintro _ ⟨⟩
    have reads := unfences.reads [] nothing
    have front : skipSpace ([] ++ (removeFences a ++ [])) = removeFences a ++ [] :=
      skipSpace_solid (List.forall_mem_nil _) unfences.solid
    rw [List.nil_append, List.append_nil] at front
    rw [List.append_nil] at reads
    rwa [left, front]
  · have inside := (Text.not_infix_append (Text.not_infix_append unmarked).2).1
    exact Part.value.inj (unfences.same inside)

theorem exists_arr {items : List Json} {w : Json} (h : shape (.arr items) = shape w) :
    ∃ items', w = .arr items' ∧ shapes items = shapes items' := by
  cases w with
  | arr items' => exact ⟨items', rfl, Json.arr.inj h⟩
  | _ => cases h

/-- **A table is the same with a fence around it**, whatever its text is. If the text is an array,
then the table has as many items, of the same shapes; and it has the items of the array, if there is
no fence in the text itself. -/
theorem rows_inFence (s : Text) : rows (inWordFence s) = rows s ∧ rows (inFence s) = rows s ∧
    ∀ items, Json.read s = .ok (.arr items) → ∃ items', rows s = .ok items' ∧
      shapes items = shapes items' ∧ (¬ fenceMark <:+: s → items' = items) := by
  refine ⟨rows_congr (payload_inWordFence s), rows_congr (payload_inFence s),
    fun items accepted => ?_⟩
  obtain ⟨w, spells, alike, same⟩ := exists_payload (Json.read_eq_ok_iff.mp accepted)
  obtain ⟨items', rfl, shapes⟩ := exists_arr alike
  exact ⟨items', rows_eq_ok_iff.mpr spells, shapes, fun plain => Json.arr.inj (same plain)⟩

/-- A table with two backquotes, which are no fence. -/
def backquotesTable : Text := ['[', '"', '\x60', '\x60', '"', ',', ' ', '[', ']', ']']

theorem spells_backquotesTable :
    Json.Spells backquotesTable (.arr [.str ['\x60', '\x60'], .arr []]) := by
  have string : Json.readString 1 [] 0 ['\x60', '\x60', '"', ',', ' ', '[', ']', ']'] =
      .ok (['\x60', '\x60'], [',', ' ', '[', ']', ']']) := by
    decide
  have later : Reads ['[', ']', ']'] (.items [.arr []]) [] := .lastItem (.emptyArray rfl) rfl
  exact ⟨[], .array (.item (.string string) rfl later), rfl⟩

theorem rows_inFence_backquotes :
    rows backquotesTable = .ok [.str ['\x60', '\x60'], .arr []] ∧
      rows (inWordFence backquotesTable) = .ok [.str ['\x60', '\x60'], .arr []] ∧
      rows (inFence backquotesTable) = .ok [.str ['\x60', '\x60'], .arr []] := by
  obtain ⟨word, plain, table⟩ := rows_inFence backquotesTable
  have unmarked : ¬ fenceMark <:+: backquotesTable := by decide
  obtain ⟨items, read, -, same⟩ := table _ (Json.read_of_spells spells_backquotesTable)
  rw [same unmarked] at read
  exact ⟨read, word.trans read, plain.trans read⟩

/-- A table with a fence in a string. -/
def fenceTable : Text := ['[', '"', '\x60', '\x60', '\x60', '"', ']']

/-- A fence in a string is removed as well, so that the table loses it. -/
theorem rows_fenceTable : Json.read fenceTable = .ok (.arr [.str fenceMark]) ∧
    rows fenceTable = .ok [.str []] ∧ rows fenceTable ≠ .ok [.str fenceMark] := by
  have string : Json.readString 1 [] 0 ['\x60', '\x60', '\x60', '"', ']'] =
      .ok (fenceMark, [']']) := by
    decide
  have spells : Json.Spells fenceTable (.arr [.str fenceMark]) :=
    ⟨[], .array (.lastItem (.string string) rfl), rfl⟩
  have left : payload fenceTable = ['[', '"', '"', ']'] := by decide
  have table : rows fenceTable = .ok [.str []] := by
    rw [rows_eq_ok_iff, left]
    exact ⟨[], .array (.lastItem (.string rfl) rfl), rfl⟩
  refine ⟨Json.read_of_spells spells, table, ?_⟩
  rw [table]
  intro same
  cases Except.ok.inj same

end ExamPress.Table

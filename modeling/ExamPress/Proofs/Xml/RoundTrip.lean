import ExamPress.Proofs.Text.Front
import ExamPress.Proofs.Text.Numbers
import ExamPress.Proofs.Xml.Reading

/-! # Reading what was written

The text form of a piece whose elements and attributes have names is read as the piece, whatever its
texts and values are (`read_write`). So what a reader finds in the text form of pieces is what it
finds in the pieces, one after the other (`Reads`). -/

namespace ExamPress.Xml

/-! ### Escaped characters -/

/-- A reference to a character, which holds no mark that ends a value. -/
def IsReference (c : CodePoint) (s : Text) : Prop :=
  ∃ name : Text, s = ('&' :: (name ++ ";".toText) : Text) ∧ referred? name = some c ∧
    (.char ';' : CodePoint) ∉ name ∧ (.char '"' : CodePoint) ∉ name

theorem isReference_reference (c : CodePoint) : IsReference c (reference c) := by
  have digits {d : CodePoint} (h : d ∈ Text.ofNat c.toNat) : d.isDigit = true :=
    Text.isDigit_of_mem_ofNat h
  refine ⟨'#' :: Text.ofNat c.toNat, by simp [reference, String.toText], ?_, ?_, ?_⟩
  · have hd : Text.ofNat c.toNat ≠ [] ∧ (Text.ofNat c.toNat).all CodePoint.isDigit = true :=
      ⟨Text.ofNat_ne_nil _, List.all_eq_true.mpr fun _ => digits⟩
    have word (s : String) (hs : s.toText.head? ≠ some '#') :
        ('#' :: Text.ofNat c.toNat : Text) ≠ s.toText := by
      intro h
      rw [← h] at hs
      exact hs rfl
    simp only [referred?, word "amp" (by decide), word "lt" (by decide), word "gt" (by decide),
      word "quot" (by decide), word "apos" (by decide), if_false, if_pos hd, Text.toNat_ofNat,
      CodePoint.ofNat_toNat]
  all_goals
    rw [List.mem_cons]
    rintro (h | h)
    · revert h
      decide
    · have := digits h
      revert this
      decide

theorem escapeChar_cases (charset : Charset) (c : CodePoint) :
    IsReference c (escapeChar charset c) ∨
      (escapeChar charset c = [c] ∧ c ≠ '&' ∧ c ≠ '<' ∧ c ≠ '\r') := by
  unfold escapeChar
  split_ifs with h1 h2 h3 h4
  · exact Or.inl ⟨"amp".toText, rfl, by rw [h1]; rfl, by decide, by decide⟩
  · exact Or.inl ⟨"lt".toText, rfl, by rw [h2]; rfl, by decide, by decide⟩
  · exact Or.inl ⟨"gt".toText, rfl, by rw [h3]; rfl, by decide, by decide⟩
  · exact Or.inl (isReference_reference c)
  · exact Or.inr ⟨rfl, h1, h2, fun h => h4 (Or.inl h)⟩

theorem escapeAttributeChar_cases (charset : Charset) (c : CodePoint) :
    IsReference c (escapeAttributeChar charset c) ∨
      (escapeAttributeChar charset c = [c] ∧ c ≠ '&' ∧ c ∉ blanks ∧ c ≠ '"') := by
  unfold escapeAttributeChar
  split_ifs with h1 h2
  · exact Or.inl ⟨"quot".toText, rfl, by rw [h1]; rfl, by decide, by decide⟩
  · exact Or.inl (isReference_reference c)
  · rcases escapeChar_cases charset c with h | ⟨h, ha, -, hr⟩
    · exact Or.inl h
    · rw [not_or] at h2
      exact Or.inr ⟨h, ha, by simp [blanks, h2, hr], h1⟩

theorem readCharacter_of_isReference {c : CodePoint} {s : Text} (h : IsReference c s)
    (rest : Text) : ∃ tail : Text, s = ('&' :: tail : Text) ∧
      readCharacter '&' (tail ++ rest) = some (c, rest) := by
  obtain ⟨name, rfl, hc, hs, -⟩ := h
  refine ⟨_, rfl, ?_⟩
  have ht : (name ++ ";".toText ++ rest).takeWhile (· != .char ';') = name := by
    rw [List.append_assoc]
    refine Text.takeWhile_append (fun d hd => ?_) fun d hd => ?_
    · exact bne_iff_ne.mpr fun h => hs (h ▸ hd)
    · cases hd
      rfl
  have hd : (name ++ ";".toText ++ rest).drop name.length = .char ';' :: rest := by
    rw [List.append_assoc, List.drop_left]
    rfl
  unfold readCharacter
  rw [if_pos rfl]
  simp only [ht, hd, hc, Option.map_some]

theorem readCharacter_plain {c : CodePoint} (rest : Text) (ha : c ≠ '&') (hr : c ≠ '\r') :
    readCharacter c rest = some (c, rest) := by
  unfold readCharacter
  rw [if_neg ha, if_neg hr]

/-! ### Reading what was written -/

theorem scan_escapeChar (charset : Charset) (c : CodePoint) (rest : Text) :
    scan (escapeChar charset c ++ rest) = (scan rest).map (.character c :: ·) := by
  rcases escapeChar_cases charset c with h | ⟨h, ha, hl, hr⟩
  · obtain ⟨tail, ht, h⟩ := readCharacter_of_isReference h rest
    rw [ht, List.cons_append, scan, if_neg (by decide), h]
  · rw [h, List.singleton_append, scan, if_neg hl, readCharacter_plain rest ha hr]

theorem scan_escape (charset : Charset) (s rest : Text) :
    scan (escape charset s ++ rest) = (scan rest).map (s.map Mark.character ++ ·) := by
  induction s with
  | nil => simp [escape]
  | cons c s ih =>
    rw [escape, List.flatMap_cons, List.append_assoc, scan_escapeChar]
    rw [escape] at ih
    rw [ih, Option.map_map]
    rfl

theorem readValue_escapeAttributeChar (charset : Charset) (c : CodePoint) (rest : Text) :
    readValue (escapeAttributeChar charset c ++ rest) = (readValue rest).map (c :: ·) := by
  rcases escapeAttributeChar_cases charset c with h | ⟨h, ha, hb, -⟩
  · obtain ⟨tail, ht, h⟩ := readCharacter_of_isReference h rest
    rw [ht, List.cons_append, readValue, h]
    rfl
  · have hr : c ≠ '\r' := fun h => hb (by rw [h]; decide)
    rw [h, List.singleton_append, readValue, readCharacter_plain rest ha hr]
    simp only [if_neg hb]

theorem readValue_escape (charset : Charset) (value : Text) :
    readValue (value.flatMap (escapeAttributeChar charset)) = some value := by
  induction value with
  | nil => rw [List.flatMap_nil, readValue]
  | cons c value ih =>
    rw [List.flatMap_cons, readValue_escapeAttributeChar, ih]
    rfl

theorem quote_not_mem_escape (charset : Charset) (value : Text) :
    (.char '"' : CodePoint) ∉ value.flatMap (escapeAttributeChar charset) := by
  intro h
  obtain ⟨c, -, hc⟩ := List.mem_flatMap.mp h
  rcases escapeAttributeChar_cases charset c with ⟨name, hn, -, -, hq⟩ | ⟨hc', -, -, hq⟩
  · rw [hn, List.mem_cons, List.mem_append] at hc
    rcases hc with hc | hc | hc
    · cases hc
    · exact hq hc
    · revert hc
      decide
  · rw [hc', List.mem_singleton] at hc
    exact hq hc.symm

/-- A name of elements and attributes: characters of names, at least one. -/
def IsName (name : String) : Prop :=
  name.toText ≠ [] ∧ ∀ c ∈ name.toText, isNameChar c = true

instance : DecidablePred IsName := fun _ => inferInstanceAs (Decidable (_ ∧ _))

theorem takeWhile_name {name : String} {r : Text} (hn : IsName name)
    (hr : ∀ c ∈ r.head?, isNameChar c = false) :
    (name.toText ++ r).takeWhile isNameChar = name.toText :=
  Text.takeWhile_append hn.2 hr

theorem readAttribute_write (charset : Charset) {name : String} (value rest : Text)
    (hn : IsName name) :
    readAttribute (name.toText ++ ('=' :: '"' ::
      (value.flatMap (escapeAttributeChar charset) ++ ('"' :: rest : Text)) : Text)) =
      some ((name, value), rest) := by
  have hname := takeWhile_name (r := '=' :: '"' ::
    (value.flatMap (escapeAttributeChar charset) ++ ('"' :: rest : Text))) hn
      fun c hc => by cases hc; decide
  have hraw : (value.flatMap (escapeAttributeChar charset) ++ ('"' :: rest : Text)).takeWhile
      (· != .char '"') = value.flatMap (escapeAttributeChar charset) := by
    refine Text.takeWhile_append (fun c hc => ?_) fun c hc => by cases hc; decide
    exact bne_iff_ne.mpr fun h => quote_not_mem_escape charset value (h ▸ hc)
  unfold readAttribute
  simp only [hname, List.drop_left, hraw, readValue_escape, nameString_toText, Option.map_some]

theorem readAttributes_write (charset : Charset) {attributes : List (String × Text)}
    (hn : ∀ entry ∈ attributes, IsName entry.1) {rest : Text}
    (hr : rest.head? ≠ some (.char ' ')) :
    readAttributes (attributes.flatMap (writeAttribute charset) ++ rest) =
      some (attributes, rest) := by
  induction attributes with
  | nil =>
    rw [List.flatMap_nil, List.nil_append, readAttributes]
    rintro s rfl
    exact hr rfl
  | cons entry attributes ih =>
    have hs : (entry :: attributes).flatMap (writeAttribute charset) ++ rest =
        (' ' :: (entry.1.toText ++
          ('=' :: '"' :: (entry.2.flatMap (escapeAttributeChar charset) ++
            ('"' :: (attributes.flatMap (writeAttribute charset) ++ rest) : Text)) : Text)) :
          Text) := by
      simp [writeAttribute, String.toText]
    rw [hs, readAttributes, readAttribute_write charset _ _ (hn entry (by simp))]
    simp only [ih fun entry he => hn entry (by simp [he]), Option.map_some]

mutual

/-- All elements and attributes have names. -/
def WellNamed : Xml → Prop
  | text _ => True
  | element name attributes content =>
    IsName name ∧ (∀ entry ∈ attributes, IsName entry.1) ∧ AllWellNamed content

/-- All elements and attributes of some pieces have names. -/
def AllWellNamed : List Xml → Prop
  | [] => True
  | piece :: pieces => piece.WellNamed ∧ AllWellNamed pieces

end

mutual

/-- The tags and characters of a piece. -/
def toMarks : Xml → List Mark
  | text content => content.map .character
  | element name attributes content =>
    .opening name attributes :: (allToMarks content ++ [.closing name])

/-- The tags and characters of pieces one after the other. -/
def allToMarks : List Xml → List Mark
  | [] => []
  | piece :: pieces => piece.toMarks ++ allToMarks pieces

end

mutual

/-- A piece with every character of its texts as a piece of its own. -/
def split : Xml → List Xml
  | text content => content.map fun c => text [c]
  | element name attributes content => [element name attributes (splitAll content)]

/-- Pieces with every character of their texts as a piece of its own. -/
def splitAll : List Xml → List Xml
  | [] => []
  | piece :: pieces => piece.split ++ splitAll pieces

end

theorem name_append_ne {name : String} (hn : IsName name) (s t : Text) :
    name.toText ++ s ≠ ('/' :: t : Text) := by
  obtain ⟨c, cs, hc⟩ := List.exists_cons_of_ne_nil hn.1
  intro h
  rw [hc, List.cons_append] at h
  have hslash : isNameChar '/' = true := (List.cons.inj h).1 ▸ hn.2 c (by rw [hc]; simp)
  exact absurd hslash (by decide)

theorem readTag_closing {name : String} (hn : IsName name) (rest : Text) :
    readTag ('/' :: (name.toText ++ ('>' :: rest : Text))) = some ([.closing name], rest) := by
  have hname := takeWhile_name (r := '>' :: rest) hn fun c hc => by cases hc; decide
  unfold readTag
  simp only [hname, List.drop_left, nameString_toText]

theorem head_attributes (charset : Charset) (attributes : List (String × Text)) (rest : Text)
    (hr : ∀ c ∈ rest.head?, isNameChar c = false) :
    ∀ c ∈ (attributes.flatMap (writeAttribute charset) ++ rest).head?, isNameChar c = false := by
  rcases attributes with _ | ⟨entry, attributes⟩
  · exact hr
  · intro c hc
    cases hc
    decide

theorem readTag_start (charset : Charset) {name : String} {attributes : List (String × Text)}
    (hn : IsName name) (ha : ∀ entry ∈ attributes, IsName entry.1) (rest : Text) :
    readTag (name.toText ++ (attributes.flatMap (writeAttribute charset) ++ ('>' :: rest : Text))) =
      some ([.opening name attributes], rest) := by
  have hh := takeWhile_name hn <| head_attributes charset attributes ('>' :: rest)
    fun c hc => by cases hc; decide
  have hr : readAttributes (attributes.flatMap (writeAttribute charset) ++ ('>' :: rest : Text)) =
      some (attributes, ('>' :: rest : Text)) := readAttributes_write charset ha (by simp)
  unfold readTag
  split
  · exact absurd ‹_› (name_append_ne hn _ _)
  · simp only [hh, List.drop_left, hr, nameString_toText]

theorem readTag_empty (charset : Charset) {name : String} {attributes : List (String × Text)}
    (hn : IsName name) (ha : ∀ entry ∈ attributes, IsName entry.1) (rest : Text) :
    readTag (name.toText ++ (attributes.flatMap (writeAttribute charset) ++
        ('/' :: '>' :: rest : Text))) =
      some ([.opening name attributes, .closing name], rest) := by
  have hh := takeWhile_name hn <| head_attributes charset attributes ('/' :: '>' :: rest)
    fun c hc => by cases hc; decide
  have hr : readAttributes (attributes.flatMap (writeAttribute charset) ++
      ('/' :: '>' :: rest : Text)) = some (attributes, ('/' :: '>' :: rest : Text)) :=
    readAttributes_write charset ha (by simp)
  unfold readTag
  split
  · exact absurd ‹_› (name_append_ne hn _ _)
  · simp only [hh, List.drop_left, hr, nameString_toText]

theorem scan_tag {s rest : Text} {marks : List Mark} (h : readTag s = some (marks, rest)) :
    scan ('<' :: s) = (scan rest).map (marks ++ ·) := by
  rw [scan, if_pos rfl, h]

mutual

theorem scan_write (charset : Charset) : ∀ (x : Xml) (rest : Text), x.WellNamed →
    scan (x.write charset ++ rest) = (scan rest).map (x.toMarks ++ ·)
  | text content, rest, _ => scan_escape charset content rest
  | element name attributes [], rest, ⟨hn, ha, _⟩ => by
    have hs : (element name attributes []).write charset ++ rest =
        ('<' :: (name.toText ++ (attributes.flatMap (writeAttribute charset) ++
          ('/' :: '>' :: rest : Text))) : Text) := by
      simp [write, String.toText]
    rw [hs, scan_tag (readTag_empty charset hn ha rest)]
    rfl
  | element name attributes (first :: more), rest, ⟨hn, ha, hf, hm⟩ => by
    have hs : (element name attributes (first :: more)).write charset ++ rest =
        ('<' :: (name.toText ++ (attributes.flatMap (writeAttribute charset) ++
          ('>' :: (first.write charset ++ (writeAll charset more ++
            ('<' :: '/' :: (name.toText ++ ('>' :: rest : Text)) : Text))) : Text))) : Text) := by
      simp [write, String.toText]
    rw [hs, scan_tag (readTag_start charset hn ha _), scan_write charset first _ hf,
      scan_writeAll charset more _ hm, scan_tag (readTag_closing hn rest)]
    simp [toMarks, allToMarks, Function.comp_def]

theorem scan_writeAll (charset : Charset) : ∀ (pieces : List Xml) (rest : Text),
    AllWellNamed pieces →
    scan (writeAll charset pieces ++ rest) = (scan rest).map (allToMarks pieces ++ ·)
  | [], rest, _ => by simp [writeAll, allToMarks]
  | piece :: pieces, rest, h => by
    rw [writeAll, List.append_assoc, scan_write charset piece _ h.1,
      scan_writeAll charset pieces rest h.2, Option.map_map]
    simp [allToMarks, Function.comp_def]

end

theorem build_characters (s : Text) (content : List Xml) (frames : List Frame)
    (marks : List Mark) :
    build content frames (s.map .character ++ marks) =
      build ((s.map fun c => text [c]).reverse ++ content) frames marks := by
  induction s generalizing content with
  | nil => rfl
  | cons c s ih =>
    rw [List.map_cons, List.cons_append, build, ih]
    simp

mutual

theorem build_toMarks : ∀ (x : Xml) (content : List Xml) (frames : List Frame) (marks : List Mark),
    build content frames (x.toMarks ++ marks) = build (x.split.reverse ++ content) frames marks
  | text s, content, frames, marks => build_characters s content frames marks
  | element name attributes inner, content, frames, marks => by
    rw [toMarks, List.cons_append, build, List.append_assoc, build_allToMarks inner]
    simp [build, split]

theorem build_allToMarks : ∀ (pieces content : List Xml) (frames : List Frame)
    (marks : List Mark),
    build content frames (allToMarks pieces ++ marks) =
      build ((splitAll pieces).reverse ++ content) frames marks
  | [], _, _, _ => rfl
  | piece :: pieces, content, frames, marks => by
    rw [allToMarks, List.append_assoc, build_toMarks piece, build_allToMarks pieces]
    simp [splitAll]

end

/-- **Reading what was written** gives the pieces back, with every character of a text as a piece of
its own. -/
theorem read_write (charset : Charset) {x : Xml} (h : x.WellNamed) :
    read (x.write charset) = some x.split := by
  have hs : scan [] = some [] := by rw [scan]
  have := scan_write charset x [] h
  rw [List.append_nil, hs] at this
  have hb := build_toMarks x [] [] []
  rw [List.append_nil, List.append_nil] at hb
  rw [read, this]
  simp [hb, build]

/-! ### Reading pieces -/

section

variable {α : Type} (one : Xml → Option (List α))

/-- What is read of pieces one after the other, each by itself. -/
def readEach : List Xml → Option (List α)
  | [] => some []
  | x :: xs => do
    let first ← one x
    let more ← readEach xs
    return first ++ more

variable {one}

theorem readEach_append {a b : List Xml} {s t : List α} (ha : readEach one a = some s)
    (hb : readEach one b = some t) : readEach one (a ++ b) = some (s ++ t) := by
  induction a generalizing s with
  | nil =>
    cases ha
    exact hb
  | cons x a ih =>
    obtain ⟨first, hx, hm⟩ := Option.bind_eq_some_iff.mp ha
    obtain ⟨more, hmore, hm⟩ := Option.bind_eq_some_iff.mp hm
    cases hm
    simp [readEach, hx, ih hmore]

theorem splitAll_append (a b : List Xml) : splitAll (a ++ b) = splitAll a ++ splitAll b := by
  induction a with
  | nil => rfl
  | cons x a ih => rw [List.cons_append, splitAll, splitAll, ih, List.append_assoc]

theorem allWellNamed_append (a b : List Xml) :
    AllWellNamed (a ++ b) ↔ AllWellNamed a ∧ AllWellNamed b := by
  induction a with
  | nil => simp [AllWellNamed]
  | cons x a ih => simp [AllWellNamed, ih, and_assoc]

theorem wellNamed_element {name : String} {content : List Xml} (hn : IsName name)
    (hc : AllWellNamed content) : (element name [] content).WellNamed :=
  ⟨hn, by simp, hc⟩

variable (one) in
/-- `Reads one xs s`: the pieces can be written, and `s` is then read of them. -/
structure Reads (xs : List Xml) (s : List α) : Prop where
  named : AllWellNamed xs
  content : readEach one (splitAll xs) = some s

theorem Reads.nil : Reads one [] [] := ⟨trivial, rfl⟩

theorem Reads.append {a b : List Xml} {s t : List α} (ha : Reads one a s) (hb : Reads one b t) :
    Reads one (a ++ b) (s ++ t) where
  named := (allWellNamed_append a b).mpr ⟨ha.named, hb.named⟩
  content := by
    rw [splitAll_append]
    exact readEach_append ha.content hb.content

/-- What is read of an element is what is read of its split form. -/
theorem reads_element {name : String} {attributes : List (String × Text)} {content : List Xml}
    {s : List α} (h : (element name attributes content).WellNamed)
    (hs : one (element name attributes (splitAll content)) = some s) :
    Reads one [element name attributes content] s where
  named := ⟨h, trivial⟩
  content := by simp [splitAll, split, readEach, hs]

end

/-- The text of a piece that is no element. -/
def readPlain : Xml → Option Text
  | text s => some s
  | element _ _ _ => none

theorem reads_text (s : Text) : Reads readPlain [text s] s where
  named := ⟨trivial, trivial⟩
  content := by
    simp only [splitAll, split, List.append_nil]
    induction s with
    | nil => rfl
    | cons c s ih => simp [readEach, readPlain, ih]

end ExamPress.Xml

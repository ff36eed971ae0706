import ExamPress.Proofs.Word.Equations

/-! # Math zones

The text form of a math zone tells its nodes: it is read back (`readZone_write`), so two different
sequences of nodes have different text forms. In the order of the document, the texts of a zone are
the texts of its runs (`allTextsNamed_renderNodes`); joined they are the text of the equation. Every
sequence of legal nodes has such a zone (`mathZone_decodable`). -/

namespace ExamPress

namespace Xml

/-! ### The texts of elements -/

mutual

/-- The texts of the elements of a name, one by one in the order of the document. -/
def textsNamed (wanted : String) : Xml → List Text
  | text _ => []
  | element name _ content =>
    (if name = wanted then [directText content] else []) ++ allTextsNamed wanted content

/-- The texts of the elements of a name in pieces one after the other. -/
def allTextsNamed (wanted : String) : List Xml → List Text
  | [] => []
  | piece :: pieces => piece.textsNamed wanted ++ allTextsNamed wanted pieces

end

mutual

theorem textOf_eq_flatten (wanted : String) : ∀ x : Xml,
    x.textOf wanted = (x.textsNamed wanted).flatten
  | text _ => rfl
  | element name _ content => by
    rw [textOf, textsNamed, List.flatten_append, textOfAll_eq_flatten wanted content]
    split_ifs
    · rw [List.flatten_singleton]
    · rfl

/-- The text of the elements of a name is made of their texts, one after the other. -/
theorem textOfAll_eq_flatten (wanted : String) : ∀ pieces : List Xml,
    textOfAll wanted pieces = (allTextsNamed wanted pieces).flatten
  | [] => rfl
  | piece :: pieces => by
    rw [textOfAll, allTextsNamed, List.flatten_append, textOf_eq_flatten wanted piece,
      textOfAll_eq_flatten wanted pieces]

end

end Xml

namespace Word

open Math Xml

/-! ### The texts of runs -/

theorem textsNamed_runElement (s : Text) : (runElement s).textsNamed "m:t" = [s] := by
  simp [runElement, textsNamed, allTextsNamed, directText]

theorem textsNamed_fractionElement (n d : List Xml) :
    (fractionElement n d).textsNamed "m:t" = allTextsNamed "m:t" n ++ allTextsNamed "m:t" d := by
  simp [fractionElement, textsNamed, allTextsNamed]

theorem textsNamed_rootElement (r d : List Xml) :
    (rootElement r d).textsNamed "m:t" = allTextsNamed "m:t" d ++ allTextsNamed "m:t" r := by
  unfold rootElement
  split_ifs <;> simp [textsNamed, allTextsNamed]

theorem textsNamed_scriptElement (b : List Xml) (kind : ScriptKind) (s : List Xml) :
    (scriptElement b kind s).textsNamed "m:t" =
      allTextsNamed "m:t" b ++ allTextsNamed "m:t" s := by
  cases kind <;> simp [scriptElement, textsNamed, allTextsNamed]

mutual

theorem textsNamed_renderNode : ∀ (node : Node) {x : Xml}, renderNode node = .ok x →
    x.textsNamed "m:t" = node.texts
  | .run s, x, h => by
    obtain ⟨t, ht, hx⟩ := bind_eq_ok.mp h
    obtain ⟨rfl, -⟩ := checkText_eq_ok.mp ht
    rw [← pure_eq_ok.mp hx, textsNamed_runElement, Node.texts]
  | .fraction numerator denominator, x, h => by
    obtain ⟨n, hn, h⟩ := bind_eq_ok.mp h
    obtain ⟨d, hd, hx⟩ := bind_eq_ok.mp h
    rw [← pure_eq_ok.mp hx, textsNamed_fractionElement, allTextsNamed_renderNodes numerator hn,
      allTextsNamed_renderNodes denominator hd, Node.texts]
  | .root radicand degree, x, h => by
    obtain ⟨r, hr, h⟩ := bind_eq_ok.mp h
    obtain ⟨d, hd, hx⟩ := bind_eq_ok.mp h
    rw [← pure_eq_ok.mp hx, textsNamed_rootElement, allTextsNamed_renderNodes radicand hr,
      allTextsNamed_renderNodes degree hd, Node.texts]
  | .scripted base kind script, x, h => by
    obtain ⟨b, hb, h⟩ := bind_eq_ok.mp h
    obtain ⟨s, hs, hx⟩ := bind_eq_ok.mp h
    rw [← pure_eq_ok.mp hx, textsNamed_scriptElement, allTextsNamed_renderNodes base hb,
      allTextsNamed_renderNodes script hs, Node.texts]
  | .foreign _, _, h => by cases h

/-- **The texts of rendered nodes** are the texts of their runs, in reading order. -/
theorem allTextsNamed_renderNodes : ∀ (nodes : List Node) {xs : List Xml},
    renderNodes nodes = .ok xs → allTextsNamed "m:t" xs = textsOf nodes
  | [], xs, h => by
    cases h
    rfl
  | node :: nodes, xs, h => by
    obtain ⟨x, hx, h⟩ := bind_eq_ok.mp h
    obtain ⟨xs', hxs, h⟩ := bind_eq_ok.mp h
    rw [← pure_eq_ok.mp h, allTextsNamed, textsNamed_renderNode node hx,
      allTextsNamed_renderNodes nodes hxs, textsOf]

end

/-! ### Zones -/

/-- The steps of making a zone. -/
theorem mathZone_eq_ok {nodes : List Node} {zone : Xml} :
    mathZone nodes = .ok zone ↔
      ∃ content, renderNodes nodes = .ok content ∧ .element "m:oMath" [] content = zone := by
  rw [mathZone, bind_eq_ok]
  exact exists_congr fun content => and_congr_right fun _ => pure_eq_ok

theorem textsNamed_mathZone {nodes : List Node} {zone : Xml} (h : mathZone nodes = .ok zone) :
    zone.textsNamed "m:t" = textsOf nodes := by
  obtain ⟨content, hc, rfl⟩ := mathZone_eq_ok.mp h
  rw [textsNamed, if_neg (by decide), allTextsNamed_renderNodes nodes hc, List.nil_append]

theorem equationText_mathZone {nodes : List Node} {zone : Xml} (h : mathZone nodes = .ok zone) :
    equationText zone = shown nodes := by
  rw [equationText, textOf_eq_flatten, textsNamed_mathZone h, shown]

/-- The nodes of a zone in its text form. -/
def readZone (s : Text) : Option (List Node) :=
  match Xml.read s with
  | some [.element "m:oMath" _ content] => readNodes content
  | _ => none

/-- **A zone is read back**, whatever attributes it has and whatever characters it is written in. -/
theorem readZone_write (charset : Charset) {attributes : List (String × Text)}
    (hn : ∀ entry ∈ attributes, IsName entry.1) {nodes : List Node} {zone : Xml}
    (h : mathZone nodes = .ok zone) :
    readZone ((zone.withAttributes attributes).write charset) = some nodes := by
  obtain ⟨content, hc, rfl⟩ := mathZone_eq_ok.mp h
  have hr := reads_renderNodes nodes hc
  have named : (element "m:oMath" (attributes ++ []) content).WellNamed :=
    ⟨by decide, by rwa [List.append_nil], hr.named⟩
  rw [withAttributes, readZone, read_write charset named]
  exact hr.read

theorem readZone_standalone {nodes : List Node} {zone : Xml} (h : mathZone nodes = .ok zone) :
    readZone (standalone zone) = some nodes := by
  have named : ∀ entry ∈ namespaces, IsName entry.1 := by decide
  exact readZone_write .unicode named h

/-- **Zones are decodable**: legal nodes have zones whose text forms are equal only if the nodes
are, and whose texts in the order of the document are those of the runs in reading order. -/
theorem mathZone_decodable {a b : List Node} (ha : AllLegal a) (hb : AllLegal b) :
    ∃ x y, mathZone a = .ok x ∧ mathZone b = .ok y ∧
      (standalone x = standalone y ↔ a = b) ∧
      x.textsNamed "m:t" = textsOf a ∧ equationText x = shown a := by
  obtain ⟨x, hx⟩ := exists_mathZone.mpr ha
  obtain ⟨y, hy⟩ := exists_mathZone.mpr hb
  refine ⟨x, y, hx, hy, ⟨fun h => ?_, ?_⟩, textsNamed_mathZone hx, equationText_mathZone hx⟩
  · have read : some a = some b := by
      rw [← readZone_standalone hx, h, readZone_standalone hy]
    exact Option.some.inj read
  · rintro rfl
    rw [hx] at hy
    cases hy
    rfl

/-- A root with some degree, and a script without a base. Its texts have spaces at the ends, a line
end and markup. -/
def rootAndScript (degree : List Node) : List Node :=
  [.root [.run " <&\"\r ".toText] degree, .scripted [] .subscript [.run "]]>".toText]]

theorem mathZone_decodable_hiddenDegree :
    AllLegal (rootAndScript []) ∧ AllLegal (rootAndScript [.run []]) ∧
      ∃ x y, mathZone (rootAndScript []) = .ok x ∧ mathZone (rootAndScript [.run []]) = .ok y ∧
        standalone x ≠ standalone y ∧
        x.textsNamed "m:t" = [" <&\"\r ".toText, "]]>".toText] ∧
        equationText x = " <&\"\r ]]>".toText := by
  have radicand : Text.IsLegal " <&\"\r ".toText := by decide
  have script : Text.IsLegal "]]>".toText := by decide
  have ha : AllLegal (rootAndScript []) := by
    simpa [rootAndScript, AllLegal, Node.IsLegal] using ⟨radicand, script⟩
  have hb : AllLegal (rootAndScript [.run []]) := by
    simpa [rootAndScript, AllLegal, Node.IsLegal, Text.IsLegal] using ⟨radicand, script⟩
  obtain ⟨x, y, hx, hy, heq, htexts, htext⟩ := mathZone_decodable ha hb
  refine ⟨ha, hb, x, y, hx, hy, fun h => ?_, htexts, htext⟩
  have := heq.mp h
  simp [rootAndScript] at this

end Word

end ExamPress

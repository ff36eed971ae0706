import ExamPress.Math.Scan

/-! # Reading formulas

Every text is the source of a formula. The items of the source are placed one after the other; each
operand is read in the same way, on its own. A script is put on the last node before it, or on an
empty run if there is none. An operand is shorter than the source it is cut from, so the reading
ends. -/

namespace ExamPress.Math

/-- The nodes of a source after nodes that were read before, the last one first. -/
def parseOnto (acc : List Node) (source : Text) : List Node :=
  match source with
  | [] => acc
  | c :: s =>
    match _ : nextStep c s with
    | ⟨.nothing, rest⟩ => parseOnto acc rest
    | ⟨.run text, rest⟩ => parseOnto (.run text :: acc) rest
    | ⟨.fraction numerator denominator, rest⟩ =>
      let numerator := (parseOnto [] numerator).reverse
      let denominator := (parseOnto [] denominator).reverse
      parseOnto (.fraction numerator denominator :: acc) rest
    | ⟨.root radicand, rest⟩ => parseOnto (.root (parseOnto [] radicand).reverse [] :: acc) rest
    | ⟨.script kind script, rest⟩ =>
      let script := (parseOnto [] script).reverse
      parseOnto (.scripted [acc.headD (.run [])] kind script :: acc.tail) rest
termination_by source.length
decreasing_by
  all_goals
    have forward := length_rest_le c s
    have inside : ∀ t ∈ (nextStep c s).item.operands, t.length ≤ s.length :=
      fun _ => length_le_of_mem_operands
    rw [‹nextStep c s = _›] at forward inside
    dsimp only at forward
    simp only [Item.operands, List.mem_cons, List.not_mem_nil, or_false, forall_eq_or_imp,
      forall_eq] at inside
    simp only [List.length_cons]
    omega

/-- The nodes of a formula, in reading order. -/
def parse (source : Text) : List Node := (parseOnto [] source).reverse

end ExamPress.Math

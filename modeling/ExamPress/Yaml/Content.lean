import ExamPress.Json.Basic
import ExamPress.Text.Utf8
import ExamPress.Yaml.Value

/-! # Contents of collections

The nodes of a text get their values from the outside in: first the root, then the nodes inside it,
then those inside these, so that the first fault is one of the outermost. A mapping may take over
the pairs of others with the key `<<`; its own pairs count more. Of pairs with the same key the
last one counts. -/

namespace ExamPress.Yaml

/-! ### Pairs that are taken over -/

/-- The pairs of a mapping. -/
def pairsOf (graph : Graph) (number : Nat) : List (Nat × Nat) :=
  match graph[number]? with
  | some (.mapping _ pairs) => pairs
  | _ => []

/-- Whether a node has a tag. -/
def hasTag (graph : Graph) (tag : Tag) (number : Nat) : Bool :=
  graph[number]?.any fun node => node.tag = tag

/-- The node with another tag. -/
def Node.withTag (tag : Tag) : Node → Node
  | scalar _ text => scalar tag text
  | sequence _ items => sequence tag items
  | mapping _ pairs => mapping tag pairs

/-- The graph in which an equals sign that is a key is a text. -/
def nameKey (graph : Graph) (key : Nat) : Graph :=
  match graph[key]? with
  | some node =>
    if node.tag = .value then graph.setIfInBounds key (node.withTag .str) else graph
  | none => graph

/-- The graph in which a mapping has the pairs that it takes over in front of its own, after some
that are taken over already. -/
def takeOver (budget : Nat) (taken : List (Nat × Nat)) (number : Nat) (graph : Graph) :
    Except Fault Graph :=
  match budget, graph[number]? with
  | budget + 1, some (.mapping tag pairs) =>
    let own := pairs.takeWhile fun pair => !hasTag graph .merge pair.1
    match pairs.drop own.length with
    | [] =>
      let graph := pairs.foldl (fun graph pair => nameKey graph pair.1) graph
      .ok (graph.setIfInBounds number (.mapping tag (taken ++ pairs)))
    | (_, source) :: others =>
      let graph := graph.setIfInBounds number (.mapping tag (own ++ others))
      match graph[source]? with
      | some (.mapping _ _) => do
        let graph ← takeOver budget [] source graph
        takeOver budget (taken ++ pairsOf graph source) number graph
      | some (.sequence _ items) => do
        let (graph, more) ← items.foldlM (fun (graph, more) item => do
          let graph ← takeOver budget [] item graph
          return (graph, pairsOf graph item ++ more)) (graph, ([] : List (Nat × Nat)))
        takeOver budget (taken ++ more) number graph
      | _ => .error .malformed
  | _, _ => .error .malformed

/-- The number of pairs in a graph. -/
def pairCount (graph : Graph) : Nat :=
  graph.foldl (fun n node =>
    match node with
    | .mapping _ pairs => n + pairs.length
    | _ => n) 0

/-! ### Values from the outside in -/

/-- The nodes with the values so far, and the collections whose contents have no values yet, last
one first. -/
structure Contents where
  graph : Graph
  values : Array (Option Value)
  waiting : List Nat := []

namespace Contents

/-- The value of a node, if it has one by now. -/
def value? (c : Contents) (number : Nat) : Option Value := c.values[number]?.bind id

/-- The contents with the value of a node. -/
def visit (c : Contents) (number : Nat) : Except Fault Contents :=
  match c.value? number, c.graph[number]? with
  | some _, _ => .ok c
  | none, none => .error .malformed
  | none, some node => do
    let value ← valueOf c.graph number node.tag
    let waiting := if node.tag.isCollection then number :: c.waiting else c.waiting
    return { c with values := c.values.setIfInBounds number (some value), waiting }

/-- The contents with the values of a key and of what it stands for. A collection is no key. -/
def visitPair (c : Contents) (pair : Nat × Nat) : Except Fault Contents := do
  let c ← c.visit pair.1
  if let some .collection := c.value? pair.1 then throw .malformed
  c.visit pair.2

/-- The contents with the values of the only pair of a mapping. -/
def visitSingle (c : Contents) (number : Nat) : Except Fault Contents :=
  match c.graph[number]? with
  | some (.mapping _ [(key, value)]) => do (← c.visit key).visit value
  | _ => .error .malformed

/-- The contents with the values of the nodes in a collection, which must have the form that its tag
says. -/
def visitInside (c : Contents) (number : Nat) : Except Fault Contents :=
  match c.graph[number]? with
  | some (.sequence .seq items) => items.foldlM visit c
  | some (.sequence .orderedMap items) => items.foldlM visitSingle c
  | some (.sequence .pairs items) => items.foldlM visitSingle c
  | some (.mapping tag _) =>
    if tag = .map ∨ tag = .set then do
      let graph ← takeOver (pairCount c.graph + 1) [] number c.graph
      (pairsOf graph number).foldlM visitPair { c with graph }
    else .error .malformed
  | _ => .error .malformed

/-- The contents with the values of all nodes in the collections that wait. -/
def complete (budget : Nat) (c : Contents) : Except Fault Contents :=
  match budget, c.waiting with
  | _, [] => .ok c
  | 0, _ => .error .malformed
  | budget + 1, waiting => do
    complete budget (← waiting.reverse.foldlM visitInside { c with waiting := [] })

/-- The contents of a graph with a root. -/
def ofGraph (graph : Graph) (root : Nat) : Except Fault Contents := do
  let c ← visit { graph, values := Array.replicate graph.size none } root
  c.complete (graph.size + 1)

end Contents

/-! ### JSON -/

/-- The JSON value of what has no form in JSON. It is no setting. -/
def formless : Json := .arr [.null]

/-- Items without a text that was there before. -/
def withoutRepeated (seen : List Text) : List Json → List Json
  | [] => []
  | .str s :: items =>
    if seen.contains s then withoutRepeated seen items
    else .str s :: withoutRepeated (s :: seen) items
  | item :: items => item :: withoutRepeated seen items

/-- The JSON form of a node down to a depth. Pairs whose key is no text are left out, a set is a
list of its items, and bytes are the text that they encode. -/
def Contents.toJson (c : Contents) (depth number : Nat) : Json :=
  match c.value? number with
  | some .null => .null
  | some (.bool b) => .bool b
  | some (.int i) => .int i
  | some (.float d) => .float d
  | some (.str s) => .str s
  | some (.bytes content) => ((Text.Utf8.decode content).toOption.map Json.str).getD formless
  | some .moment | none => formless
  | some .collection =>
    match depth, c.graph[number]? with
    | depth + 1, some (.sequence .seq items) => .arr (items.map (c.toJson depth))
    | _ + 1, some (.sequence _ items) => .arr (items.map fun _ => .arr [])
    | depth + 1, some (.mapping .set pairs) =>
      .arr (withoutRepeated [] (pairs.map fun pair => c.toJson depth pair.1))
    | depth + 1, some (.mapping _ pairs) =>
      .obj (pairs.foldl (fun fields pair =>
        match c.value? pair.1 with
        | some (.str name) => Json.insertField name (c.toJson depth pair.2) fields
        | _ => fields) [])
    | _, _ => .arr []

/-- The JSON form of a text down to a depth. A text without a document is null. -/
def read (depth : Nat) (source : Text) : Except Fault Json := do
  match ← readText source with
  | (none, _) => return .null
  | (some root, graph) => return (← Contents.ofGraph graph root).toJson depth root

end ExamPress.Yaml

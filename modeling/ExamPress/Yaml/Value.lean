import ExamPress.Number.Numeral
import ExamPress.Text.Base64
import ExamPress.Text.Lower
import ExamPress.Yaml.Node

/-! # Values of scalars

What a scalar stands for by its tag. A text that has been given a tag need not be of that kind, and
then it has no value. -/

namespace ExamPress.Yaml

/-- The value of a node: that of a scalar, or the mark of a collection. -/
inductive Value where
  | null
  | bool (b : Bool)
  | int (i : Int)
  | float (d : Double)
  | str (s : Text)
  | bytes (content : List Nat)
  | moment
  | collection
deriving Repr

/-- The words for true. -/
def trueWords : List String := ["yes", "true", "on"]

/-- The words for false. -/
def falseWords : List String := ["no", "false", "off"]

/-- The boolean that a text stands for in any case. -/
def booleanOf (s : Text) : Except Fault Bool :=
  let word := Text.lower s
  if Text.isAnyOf word trueWords then .ok true
  else if Text.isAnyOf word falseWords then .ok false
  else .error (.noBoolean word)

/-- Whether there is a minus sign in front of a number, and the number without underscores and
without its sign. There must be something to read. -/
def splitNumber (s : Text) : Except Fault (Bool × Text) :=
  match s.filter fun (c : CodePoint) => c != '_' with
  | [] => .error .noDigits
  | .char '-' :: digits => .ok (true, digits)
  | .char '+' :: digits => .ok (false, digits)
  | digits => .ok (false, digits)

/-- The integer of some digits in a base. -/
def digitsOf (base : Nat) (digits : Text) : Except Fault Int :=
  (Whole.read base digits).mapError .number

/-- The integer that a text without sign stands for. Its start tells the base; with colons inside it
is in base 60. -/
def magnitudeOf (s : Text) : Except Fault Int :=
  match s with
  | [] => .error .noDigits
  | [.char '0'] => .ok 0
  | .char '0' :: .char 'b' :: digits => digitsOf 2 digits
  | .char '0' :: .char 'x' :: digits => digitsOf 16 digits
  | .char '0' :: _ => digitsOf 8 s
  | _ =>
    if s.contains ':' then do
      let parts ← (Text.splitOn ':' s).mapM (digitsOf 10)
      return parts.foldl (fun n part => 60 * n + part) 0
    else digitsOf 10 s

/-- The integer that a text stands for. -/
def integerOf (s : Text) : Except Fault Int := do
  let (negative, s) ← splitNumber s
  let magnitude ← magnitudeOf s
  return if negative then -magnitude else magnitude

/-- The double of a numeral. Its digits may be of any script. -/
def numeralOf (s : Text) : Except Fault Double :=
  match Numeral.plain? (Text.stripWhile Text.isWhiteSpace (s.map Text.toAsciiDigit)) with
  | some d => .ok d
  | none => .error (.noDouble s)

/-- The sum of digits in base 60, the last one first, on top of a sum, where each digit counts so
many units. Each product and each sum is rounded. -/
def sexagesimalSum (sum : Double) (unit : Nat) : List Double → Except Fault Double
  | [] => .ok sum
  | digit :: digits =>
    match Double.ofInt unit with
    | .finite negative mantissa exponent =>
      let product := digit.mul (.finite negative mantissa exponent)
      sexagesimalSum (sum.add product) (60 * unit) digits
    | _ => .error .doubleTooLarge

/-- The double that a text stands for: an infinity, no number, digits in base 60, or a numeral. -/
def doubleOf (s : Text) : Except Fault Double := do
  let (negative, s) ← splitNumber (Text.lower s)
  let magnitude ←
    if s = ".inf".toText then pure (Double.infinite false)
    else if s = ".nan".toText then pure Double.nan
    else if s.contains ':' then
      let digits ← (Text.splitOn ':' s).mapM numeralOf
      sexagesimalSum (.zero false) 1 digits.reverse
    else numeralOf s
  return if negative then magnitude.neg else magnitude

/-- The bytes that a text in base 64 stands for. -/
def bytesOf (s : Text) : Except Fault (List Nat) :=
  if s.all Text.Repertoire.ascii.contains then
    match Text.Base64.decodeLoosely s with
    | some content => .ok content
    | none => .error .malformed
  else .error .malformed

/-- Checks the moment that a text stands for. -/
def checkMoment (s : Text) : Except Fault Unit :=
  match Moment.ofText? s with
  | some m => m.check
  | none => .error .noMoment

/-- The text of a scalar. A mapping stands for the scalar under its equals sign. -/
def scalarText (graph : Graph) (budget number : Nat) : Except Fault Text :=
  match budget with
  | 0 => .error .malformed
  | budget + 1 =>
    match graph[number]? with
    | some (.scalar _ text) => .ok text
    | some (.mapping _ pairs) =>
      match pairs.find? fun pair => (graph[pair.1]?.map Node.tag) = some .value with
      | some (_, value) => scalarText graph budget value
      | none => .error .malformed
    | _ => .error .malformed

/-- Whether a node is a scalar. -/
def isScalar (graph : Graph) (number : Nat) : Bool :=
  match graph[number]? with
  | some (.scalar _ _) => true
  | _ => false

/-- The value of a node with a tag. -/
def valueOf (graph : Graph) (number : Nat) (tag : Tag) : Except Fault Value := do
  let text := scalarText graph (graph.size + 1) number
  match tag with
  | .null => let _ ← text; return .null
  | .bool => return .bool (← booleanOf (← text))
  | .int => return .int (← integerOf (← text))
  | .float => return .float (← doubleOf (← text))
  | .str => return .str (← text)
  | .bytes => return .bytes (← bytesOf (← text))
  | .moment =>
    let text ← text
    if !isScalar graph number then throw .momentOfPairs
    checkMoment text
    return .moment
  | .orderedMap | .pairs | .set | .seq | .map => return .collection
  | .merge | .value | .other => throw .malformed

end ExamPress.Yaml

import ExamPress.Yaml.Moment

/-! # Tags

A tag says of what kind a node is. A scalar without a tag has the one that its text has the form of:
null, a boolean, an integer in base 2, 8, 10, 16 or 60, a double, a moment, or else a text. One line
break at the end of the text does not matter. -/

namespace ExamPress.Yaml

/-- The kinds of nodes. -/
inductive Tag where
  | null
  | bool
  | int
  | float
  | bytes
  | moment
  | orderedMap
  | pairs
  | set
  | str
  | seq
  | map
  | merge
  | value
  | other
deriving DecidableEq, Repr

namespace Tag

/-- What the full names of the standard tags start with. -/
def standardStart : Text := "tag:yaml.org,2002:".toText

/-- The standard tags by their names. -/
def standard : List (String × Tag) := [
  ("null", null), ("bool", bool), ("int", int), ("float", float), ("binary", bytes),
  ("timestamp", moment), ("omap", orderedMap), ("pairs", pairs), ("set", set), ("str", str),
  ("seq", seq), ("map", map), ("merge", merge), ("value", value)]

/-- The tag of a full name. -/
def ofName (name : Text) : Tag :=
  ((standard.find? fun entry => standardStart ++ entry.1.toText = name).map Prod.snd).getD other

/-- Whether a node of this kind has nodes inside it. -/
def isCollection (tag : Tag) : Bool := [orderedMap, pairs, set, seq, map].contains tag

/-! ### Words -/

/-- The texts of null. -/
def nullWords : List String := ["", "~", "null", "Null", "NULL"]

/-- The texts of booleans. -/
def booleanWords : List String := [
  "yes", "Yes", "YES", "no", "No", "NO", "true", "True", "TRUE", "false", "False", "FALSE",
  "on", "On", "ON", "off", "Off", "OFF"]

/-! ### Numbers -/

/-- The text without a sign in front of it. -/
def dropSign (s : Text) : Text :=
  match s with
  | .char '-' :: s => s
  | .char '+' :: s => s
  | s => s

/-- Whether a character is an underscore, or has a property. -/
def orUnderscore (p : CodePoint → Bool) (c : CodePoint) : Bool := c == '_' || p c

/-- Whether a text is not empty and all its characters have a property or are underscores. -/
def consistsOf (p : CodePoint → Bool) (s : Text) : Bool := !s.isEmpty && s.all (orUnderscore p)

/-- Whether a text is a number of minutes or seconds. -/
def isSixtieth (s : Text) : Bool :=
  match s with
  | [c] => c.isDigit
  | [c, d] => c.isBetween '0' '5' && d.isDigit
  | _ => false

/-- Whether a text starts with a digit and goes on with digits and underscores. -/
def isWhole (s : Text) : Bool :=
  s.head?.any CodePoint.isDigit && s.all (orUnderscore CodePoint.isDigit)

/-- Whether a text is a whole number followed by minutes or seconds after colons. -/
def isSexagesimal (s : Text) : Bool :=
  match Text.splitOn ':' s with
  | first :: next :: others => isWhole first && (next :: others).all isSixtieth
  | _ => false

/-- Whether a character is a hexadecimal digit. -/
def isHexDigit (c : CodePoint) : Bool :=
  c.isDigit || c.isBetween 'a' 'f' || c.isBetween 'A' 'F'

/-- Whether a text is an integer. Only those in bases 2, 8 and 16 start with further characters
after a zero. -/
def isInteger (s : Text) : Bool :=
  match dropSign s with
  | [.char '0'] => true
  | .char '0' :: .char 'b' :: digits => consistsOf (fun c => c == '0' || c == '1') digits
  | .char '0' :: .char 'x' :: digits => consistsOf isHexDigit digits
  | .char '0' :: digits => consistsOf (fun c => c.isBetween '0' '7') digits
  | digits => isWhole digits || isSexagesimal digits

/-- Whether a text is empty or a signed exponent. -/
def isExponent (s : Text) : Bool :=
  match s with
  | [] => true
  | e :: sign :: digits =>
    (e == 'e' || e == 'E') && (sign == '+' || sign == '-') && !digits.isEmpty &&
      digits.all CodePoint.isDigit
  | _ => false

/-- Whether a text is a point with digits and an exponent after it. -/
def isFraction (mayBeEmpty : Bool) (s : Text) : Bool :=
  match s with
  | .char '.' :: rest =>
    let places := rest.takeWhile (orUnderscore CodePoint.isDigit)
    (mayBeEmpty || isWhole places) && isExponent (rest.drop places.length)
  | _ => false

/-- Whether a text is a double. One without digits in front of the point has no sign, except an
infinity. -/
def isDouble (s : Text) : Bool :=
  let body := dropSign s
  let whole := body.takeWhile (· != .char '.')
  let rest := body.drop whole.length
  if whole.isEmpty then
    Text.isAnyOf body [".inf", ".Inf", ".INF"] || Text.isAnyOf s [".nan", ".NaN", ".NAN"] ||
      (body = s && isFraction false s)
  else
    (isWhole whole && isFraction true rest) ||
      (isSexagesimal whole && !rest.isEmpty &&
        (rest.drop 1).all (orUnderscore CodePoint.isDigit))

/-! ### Scalars without tags -/

/-- The tag of a text of which the form tells the kind. -/
def ofForm (s : Text) : Tag :=
  if Text.isAnyOf s booleanWords then bool
  else if isDouble s then float
  else if isInteger s then int
  else if s = "<<".toText then merge
  else if Text.isAnyOf s nullWords then null
  else if Moment.hasForm s then moment
  else if s = "=".toText then value
  else if Text.isAnyOf s ["!", "&", "*"] then other
  else str

/-- The tag of a plain scalar. -/
def ofPlain (s : Text) : Tag :=
  if s = "\n".toText then str
  else if s.getLast? = some '\n' then ofForm s.dropLast
  else ofForm s

end Tag

end ExamPress.Yaml

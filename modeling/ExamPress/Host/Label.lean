import ExamPress.Host.Composed
import ExamPress.Host.Punycode

/-! # Labels

The labels of an international host name. A label is in composed form, has no hyphen at its ends or
at its third and fourth places together, does not begin with a mark, and consists of allowed
characters; a few more are allowed where their neighbours, or the other characters of the label,
make sense of them. A label with characters that are written from the right keeps to the rules for
mixed directions. In ASCII a label that has other characters is their punycode behind `xn--`. -/

namespace ExamPress.Host

/-! ### Characters that need a context -/

/-- The stretches of Greek letters. -/
def greekStretches : List (Nat × Nat) := [
  (0x371, 0x371), (0x373, 0x373), (0x375, 0x375), (0x377, 0x377), (0x37b, 0x37d), (0x390, 0x390),
  (0x3ac, 0x3ce), (0x3d7, 0x3d7), (0x3d9, 0x3d9), (0x3db, 0x3db), (0x3dd, 0x3dd), (0x3df, 0x3df),
  (0x3e1, 0x3e1), (0x3f3, 0x3f3), (0x3f8, 0x3f8), (0x3fb, 0x3fc), (0x1d26, 0x1d2a),
  (0x1f00, 0x1f07), (0x1f10, 0x1f15), (0x1f20, 0x1f27), (0x1f30, 0x1f37), (0x1f40, 0x1f45),
  (0x1f50, 0x1f57), (0x1f60, 0x1f67), (0x1f70, 0x1f70), (0x1f72, 0x1f72), (0x1f74, 0x1f74),
  (0x1f76, 0x1f76), (0x1f78, 0x1f78), (0x1f7a, 0x1f7a), (0x1f7c, 0x1f7c), (0x1fb0, 0x1fb1),
  (0x1fb6, 0x1fb6), (0x1fc6, 0x1fc6), (0x1fd0, 0x1fd2), (0x1fd6, 0x1fd7), (0x1fe0, 0x1fe2),
  (0x1fe4, 0x1fe7), (0x1ff6, 0x1ff6), (0xab65, 0xab65)]

/-- The stretches of Hebrew letters. -/
def hebrewStretches : List (Nat × Nat) := [
  (0x591, 0x5bd), (0x5bf, 0x5bf), (0x5c1, 0x5c2), (0x5c4, 0x5c5), (0x5c7, 0x5c7), (0x5d0, 0x5ea),
  (0x5ef, 0x5f4), (0xfb1e, 0xfb1e)]

/-- The stretches of the characters of Japanese: Hiragana, Katakana and Han. -/
def japaneseStretches : List (Nat × Nat) := [
  (0x3005, 0x3005), (0x3007, 0x3007), (0x3041, 0x3096), (0x309d, 0x309e), (0x30a1, 0x30fa),
  (0x30fd, 0x30fe), (0x31f0, 0x31ff), (0x3400, 0x4dbf), (0x4e00, 0x9fff), (0xfa0e, 0xfa0f),
  (0xfa11, 0xfa11), (0xfa13, 0xfa14), (0xfa1f, 0xfa1f), (0xfa21, 0xfa21), (0xfa23, 0xfa24),
  (0xfa27, 0xfa29), (0x16fe3, 0x16fe3), (0x16ff0, 0x16ff1), (0x1aff0, 0x1aff3), (0x1aff5, 0x1affb),
  (0x1affd, 0x1affe), (0x1b000, 0x1b122), (0x1b150, 0x1b152), (0x1b164, 0x1b167),
  (0x20000, 0x2a6df), (0x2a700, 0x2b738), (0x2b740, 0x2b81d), (0x2b820, 0x2cea1),
  (0x2ceb0, 0x2ebe0), (0x30000, 0x3134a)]

/-- Whether a code point is in one of some stretches. -/
def isIn (stretches : List (Nat × Nat)) (c : CodePoint) : Bool :=
  stretches.any fun stretch => stretch.1 ≤ c.toNat && c.toNat ≤ stretch.2

/-- The class of the mark that takes the vowel from a letter of an Indic script. -/
def viramaOrder : Nat := 9

/-- Whether the first character that is not transparent joins on a given side or on both. -/
def joins (side : Joining) (s : Text) : Bool :=
  match s.find? fun c => (traits c).joining != .transparent with
  | some c => (traits c).joining == side || (traits c).joining == .dual
  | none => false

/-- The Arabic digits of one of the two sets. -/
def isArabicDigit (c : CodePoint) : Bool := 0x660 ≤ c.toNat && c.toNat ≤ 0x669

/-- The Arabic digits of the other of the two sets. -/
def isExtendedArabicDigit (c : CodePoint) : Bool := 0x6f0 ≤ c.toNat && c.toNat ≤ 0x6f9

/-- Whether a character may stand between others, the ones before it being given from its place
back. Joiners want a virama in front, or letters that join on both sides; a middle dot stands
between two letters `l`; a Greek mark before a Greek letter; Hebrew marks after a Hebrew letter; the
Katakana dot among characters of Japanese; and the two sets of Arabic digits do not mix. -/
def hasContext (before : Text) (c : CodePoint) (after : Text) : Bool :=
  let afterVirama := before.head?.any fun b => (traits b).order == viramaOrder
  let label := before ++ after
  match c.toNat with
  | 0x200c => afterVirama || (joins .left before && joins .right after)
  | 0x200d => afterVirama
  | 0xb7 => before.head? == some (.char 'l') && after.head? == some (.char 'l')
  | 0x375 => after.head?.any (isIn greekStretches)
  | 0x5f3 | 0x5f4 => before.head?.any (isIn hebrewStretches)
  | 0x30fb => label.any (isIn japaneseStretches)
  | _ =>
    (isArabicDigit c && !label.any isExtendedArabicDigit) ||
      (isExtendedArabicDigit c && !label.any isArabicDigit)

/-- Whether all characters may stand where they stand, after others that are given from the end. -/
def areAllowed (before : Text) : Text → Bool
  | [] => true
  | c :: after => (isAllowed c || hasContext before c after) && areAllowed (c :: before) after

/-! ### Directions -/

/-- The directions that may occur in a label written from the right. -/
def rightDirections : List Direction :=
  [.right, .arabic, .arabicNumber, .european, .separator, .neutral, .boundary, .nonspacing]

/-- The directions that may occur in a label written from the left. -/
def leftDirections : List Direction :=
  [.left, .european, .separator, .neutral, .boundary, .nonspacing]

/-- Whether directions keep to the rules of a label written from one side: only some occur, and the
last one that has a width is one of those that may end it. -/
def keepTo (directions allowed endings : List Direction) : Bool :=
  directions.all allowed.contains &&
    (directions.reverse.find? (· != .nonspacing)).any endings.contains

/-- Whether the directions of the characters of a label can be told apart. -/
def isOrdered (s : Text) : Bool :=
  let directions := s.map fun c => (traits c).direction
  if !directions.any [.right, .arabic, .arabicNumber].contains then true
  else
    match directions.head? with
    | some .right | some .arabic =>
      keepTo directions rightDirections [.right, .arabic, .european, .arabicNumber] &&
        !(directions.contains .european && directions.contains .arabicNumber)
    | some .left => keepTo directions leftDirections [.left, .european]
    | _ => false

/-! ### Labels -/

/-- Whether the hyphens of a label stand where they may. -/
def hyphensFit (s : Text) : Bool :=
  (s.drop 2).take 2 != "--".toText && s.head? != some (.char '-') &&
    s.getLast? != some (.char '-')

/-- Whether a text is a label. -/
def isLabel (s : Text) : Bool :=
  !s.isEmpty && areAllowed [] s && hyphensFit s && !s.head?.any (fun c => (traits c).isMark) &&
    composed s == s && isOrdered s

/-- The largest length of a label in ASCII. -/
def maxLabelLength : Nat := 63

/-- The start of a label that has other characters than those of ASCII. -/
def foreignStart : Text := "xn--".toText

/-- The ASCII form of a label. One that is in ASCII must stand for a label. -/
def labelInAscii? (s : Text) : Option Text :=
  let (ascii, meant) :=
    if s.all Punycode.isBasic then
      if Text.startsWith s foreignStart then
        let code := s.drop foreignStart.length
        (s, if code.isEmpty ∨ code.getLast? = some (.char '-') then none else Punycode.decode code)
      else (s, some s)
    else (foreignStart ++ Punycode.encode s, some s)
  if meant.any isLabel ∧ ascii.length ≤ maxLabelLength then some ascii else none

/-- Whether a code point ends a label. -/
def isDot (c : CodePoint) : Bool := [0x2e, 0x3002, 0xff0e, 0xff61].contains c.toNat

/-- The largest length of a name in ASCII without a dot at its end. -/
def maxNameLength : Nat := 253

/-- The ASCII form of a host name in lower case. A dot at its end is kept. -/
def nameInAscii? (s : Text) : Option Text := do
  let labels := Text.splitOn '.' (s.map fun c => if isDot c then .char '.' else c)
  let (labels, ending) :=
    if labels.getLast? = some [] then (labels.dropLast, ".".toText) else (labels, [])
  let labels ← labels.mapM labelInAscii?
  let name := Text.joinWith ".".toText labels
  if name.length ≤ maxNameLength then some (name ++ ending) else none

end ExamPress.Host

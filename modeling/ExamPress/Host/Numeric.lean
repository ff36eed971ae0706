import ExamPress.Text.Percent

/-! # Numeric hosts

A host may be given by its number: four decimal numbers below 256 between dots, or eight
hexadecimal numbers of up to four digits between colons. Of the eight, one run of zeros may be left
out where two colons meet, and the last two may be written as four decimal numbers. -/

namespace ExamPress.Host

/-- The lengths of the runs of digits of a text between its other characters. -/
def digitRuns : Text → List Nat
  | [] => [0]
  | c :: rest =>
    match digitRuns rest with
    | [] => [0]
    | first :: others => if c.isDigit then (first + 1) :: others else 0 :: first :: others

/-- Whether a host has the form of four numbers with any one character between neighbours, be it a
digit or not. -/
def looksNumeric (s : Text) : Bool :=
  let runs := digitRuns s
  runs.all (0 < ·) && runs.length ≤ 4 &&
    4 ≤ runs.foldl (fun total n => total + (n - 1) / 2) runs.length

/-- Whether a text is a number below 256 without zeros in front. -/
def isOctet (s : Text) : Bool :=
  !s.isEmpty && s.all CodePoint.isDigit && s.length ≤ 3 && Text.toNat s ≤ 255 &&
    (s.length == 1 || s.head? != some (.char '0'))

/-- Whether a text is four numbers between dots. -/
def isDottedNumber (s : Text) : Bool :=
  let parts := Text.splitOn '.' s
  parts.length == 4 && parts.all isOctet

/-- Whether a text has one to four hexadecimal digits. -/
def isHexGroup (s : Text) : Bool :=
  !s.isEmpty && s.length ≤ 4 && s.all fun c => (Text.Percent.hexValue? c).isSome

/-- Whether groups are eight, of which a run may be left out. An empty group stands for it; at the
front or the end there are two of them. -/
def areGroups (groups : List Text) : Bool :=
  let before := groups.takeWhile fun group => !group.isEmpty
  match groups.drop before.length with
  | [] => groups.length == 8 && groups.all isHexGroup
  | _ :: rest =>
    let rest := if before.isEmpty then (if rest.head? == some [] then some (rest.drop 1) else none)
      else some rest
    match rest with
    | none | some [] => false
    | some [[]] => before.length ≤ 7 && before.all isHexGroup
    | some rest =>
      before.length + rest.length ≤ 7 && before.all isHexGroup && rest.all isHexGroup

/-- The groups of a text, the last one as two groups if it is written as four decimal numbers. -/
def groupsOf (s : Text) : Option (List Text) :=
  let groups := Text.splitOn ':' s
  match groups.reverse with
  | last :: others =>
    if groups.length < 3 then none
    else if last.contains '.' then
      if isDottedNumber last then some (others.reverse ++ ["0".toText, "0".toText]) else none
    else some groups
  | [] => none

/-- Whether a text is eight numbers between colons, possibly with a zone after a percent sign. -/
def isColonNumber (s : Text) : Bool :=
  let number := s.takeWhile fun (c : CodePoint) => c != '%'
  let zoneIsGood := match s.drop number.length with
    | [] => true
    | _ :: zone => !zone.isEmpty && !zone.contains '%'
  zoneIsGood && (groupsOf number).any areGroups

end ExamPress.Host

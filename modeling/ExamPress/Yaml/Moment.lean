import ExamPress.Yaml.Cursor
import ExamPress.Yaml.Fault

/-! # Moments

A moment is a date, possibly with a time of the day, and with the distance of its zone from the
universal time. A text may have the form of a moment without being one in the calendar and on the
clock. -/

namespace ExamPress.Yaml

/-- A time of the day, and the distance of its zone in seconds. -/
structure TimeOfDay where
  hour : Nat
  minute : Nat
  second : Nat
  zone : Int
deriving DecidableEq, Repr

/-- A moment as it is written. -/
structure Moment where
  year : Nat
  month : Nat
  day : Nat
  time : Option TimeOfDay
deriving DecidableEq, Repr

namespace Moment

/-! ### Forms -/

/-- The number with the digits at the front of a text, if there are enough of them, and the rest. No
more digits are taken than a limit says. -/
def number? (least limit : Nat) (s : Text) : Option (Nat × Text) :=
  let digits := (s.takeWhile CodePoint.isDigit).take limit
  if digits.length < least then none else some (Text.toNat digits, s.drop digits.length)

/-- The text after a character that must be in front of it. -/
def after? (c : Char) (s : Text) : Option Text :=
  match s with
  | x :: rest => if x = c then some rest else none
  | [] => none

/-- The distance of a zone: none, `Z`, or a signed number of hours and minutes. -/
def zone? (s : Text) : Option Int :=
  match s.dropWhile isSpaceOrTab with
  | [] => if s.isEmpty then some 0 else none
  | [.char 'Z'] => some 0
  | sign :: rest =>
    if sign ≠ '-' ∧ sign ≠ '+' then none
    else do
      let (hours, rest) ← number? 1 2 rest
      let minutes ←
        if rest.isEmpty then pure 0
        else
          match ← number? 2 2 (← after? ':' rest) with
          | (minutes, []) => pure minutes
          | _ => none
      let distance : Int := 3600 * hours + 60 * minutes
      return if sign = '-' then -distance else distance

/-- The text after what separates a date from a time. -/
def afterSeparator? (s : Text) : Option Text :=
  match s with
  | c :: rest =>
    if c = 'T' ∨ c = 't' then some rest
    else if isSpaceOrTab c then some (rest.dropWhile isSpaceOrTab)
    else none
  | [] => none

/-- The time that a text has the form of. A fraction of a second does not matter. -/
def time? (s : Text) : Option TimeOfDay := do
  let (hour, s) ← number? 1 2 s
  let (minute, s) ← number? 2 2 (← after? ':' s)
  let (second, s) ← number? 2 2 (← after? ':' s)
  let rest := match s with
    | .char '.' :: s => s.dropWhile CodePoint.isDigit
    | s => s
  return { hour, minute, second, zone := ← zone? rest }

/-- The moment that a line has the form of. -/
def ofLine? (line : Text) : Option Moment := do
  let (year, s) ← number? 4 4 line
  let (month, s) ← number? 1 2 (← after? '-' s)
  let (day, s) ← number? 1 2 (← after? '-' s)
  if s.isEmpty then return ⟨year, month, day, none⟩
  return ⟨year, month, day, some (← time? (← afterSeparator? s))⟩

/-- The moment that a text has the form of. One line break at its end does not matter. -/
def ofText? (s : Text) : Option Moment :=
  ofLine? (if s.getLast? = some '\n' then s.dropLast else s)

/-- Whether a line is a moment by its form alone. A date without time has two digits for the month
and two for the day. -/
def hasForm (line : Text) : Bool :=
  match ofLine? line with
  | some m => m.time.isSome || line.length == 10
  | none => false

/-! ### Calendar and clock -/

/-- The number of days of a month. -/
def daysOf (year month : Nat) : Nat :=
  if month = 2 then
    if year % 4 = 0 ∧ (year % 100 ≠ 0 ∨ year % 400 = 0) then 29 else 28
  else if month = 4 ∨ month = 6 ∨ month = 9 ∨ month = 11 then 30
  else 31

/-- Checks that a date is in the calendar. -/
def checkDate (m : Moment) : Except Fault Unit :=
  if m.year = 0 then .error (.year m.year)
  else if m.month = 0 ∨ 12 < m.month then .error .month
  else if m.day = 0 ∨ daysOf m.year m.month < m.day then .error .day
  else .ok ()

/-- Checks that a time is on the clock. -/
def checkTime (t : TimeOfDay) : Except Fault Unit :=
  if 23 < t.hour then .error .hour
  else if 59 < t.minute then .error .minute
  else if 59 < t.second then .error .second
  else .ok ()

/-- Checks that a zone is less than a day away. -/
def checkZone (seconds : Int) : Except Fault Unit :=
  if seconds.natAbs < 86400 then .ok () else .error (.zone seconds)

/-- Checks a moment: its zone, its date and its time. -/
def check (m : Moment) : Except Fault Unit :=
  match m.time with
  | none => m.checkDate
  | some t => do
    checkZone t.zone
    m.checkDate
    checkTime t

end Moment

end ExamPress.Yaml

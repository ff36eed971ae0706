import ExamPress.Number.Whole

/-! # Faults of YAML

Why a text is no YAML value. A text that breaks a rule of the format is malformed. The other faults
are those of single scalars: an escape that names no code point, and a text that is not of the kind
that it is said to be. -/

namespace ExamPress.Yaml

/-- Why a text is no value. -/
inductive Fault where
  | malformed
  | escapeTooLarge
  | escapeOutOfRange
  | number (fault : Whole.Fault)
  | noDouble (source : Text)
  | doubleTooLarge
  | noDigits
  | noBoolean (source : Text)
  | noMoment
  | momentOfPairs
  | year (y : Nat)
  | month
  | day
  | hour
  | minute
  | second
  | zone (seconds : Int)
deriving DecidableEq, Repr

/-- A span of time in days and seconds. -/
def spanText (seconds : Int) : String :=
  let days := Int.fdiv seconds 86400
  let rest := Int.fmod seconds 86400
  let parts := (if days = 0 then [] else [s!"days={days}"]) ++
    (if rest = 0 then [] else [s!"seconds={rest}"])
  s!"datetime.timedelta(" ++ String.intercalate ", " parts ++ ")"

/-- The wording of a fault. -/
def Fault.message : Fault → Text
  | malformed => "malformed".toText
  | escapeTooLarge => "Python int too large to convert to C int".toText
  | escapeOutOfRange => "chr() arg not in range(0x110000)".toText
  | number fault => fault.message
  | noDouble source => "could not convert string to float: ".toText ++ Text.Quoted.quote source
  | doubleTooLarge => "int too large to convert to float".toText
  | noDigits => "string index out of range".toText
  | noBoolean source => Text.Quoted.quote source
  | noMoment => "'NoneType' object has no attribute 'groupdict'".toText
  | momentOfPairs => "expected string or bytes-like object, got 'list'".toText
  | year y => s!"year {y} is out of range".toText
  | month => "month must be in 1..12".toText
  | day => "day is out of range for month".toText
  | hour => "hour must be in 0..23".toText
  | minute => "minute must be in 0..59".toText
  | second => "second must be in 0..59".toText
  | zone seconds =>
    ("offset must be a timedelta strictly between -timedelta(hours=24) and " ++
      "timedelta(hours=24), not " ++ spanText seconds ++ ".").toText

end ExamPress.Yaml

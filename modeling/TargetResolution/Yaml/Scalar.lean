import TargetResolution.Decimal.Reading
import TargetResolution.Text.Case
import TargetResolution.Text.Lists
import TargetResolution.Value.Basic
import TargetResolution.Yaml.Fault

/-!
Scalars of YAML 1.1. A plain scalar has a kind by its form; the value of a scalar is read by its
kind.
-/

namespace TargetResolution.Yaml

open Text

/-- The standard tags, and any other. -/
inductive Tag where
  | null | bool | int | float | str | timestamp | binary
  | seq | map | set | omap | pairs
  | merge | value
  | other (name : String)
  deriving DecidableEq, Repr

namespace Tag

/-- What the names of the standard tags start with. -/
def standardStart : String := "tag:yaml.org,2002:"

/-- The standard tags with their short names. -/
def standard : List (String × Tag) :=
  [("null", .null), ("bool", .bool), ("int", .int), ("float", .float), ("str", .str),
    ("timestamp", .timestamp), ("binary", .binary), ("seq", .seq), ("map", .map), ("set", .set),
    ("omap", .omap), ("pairs", .pairs), ("merge", .merge), ("value", .value)]

/-- The tag of a full name. -/
def ofName (name : String) : Tag :=
  ((standard.find? fun (short, _) => standardStart ++ short == name).map (·.2)).getD (.other name)

end Tag

/-! ### The kinds of plain scalars -/

/-- Whether a character may stand in a number of the given digits. -/
def digitOr (digits : String) (c : Char) : Bool := digits.toList.contains c || c == '_'

/-- Whether a text is digits and underscores with a digit first. -/
def isDigits (cs : List Char) : Bool :=
  match cs with
  | [] => false
  | c :: rest => c.isDigit && rest.all (digitOr "0123456789")

/-- Whether a text is colons and numbers below sixty in turn, at least one of each. -/
def isSexagesimalTail : List Char → Bool
  | [] => false
  | c :: cs =>
    c == ':' && (fields ':' cs).all fun group =>
      match group with
      | [d] => d.isDigit
      | [t, d] => '0' ≤ t && t ≤ '5' && d.isDigit
      | _ => false

/-- The text without a sign. -/
def unsigned (cs : List Char) : List Char :=
  match cs with
  | '-' :: rest => rest
  | '+' :: rest => rest
  | _ => cs

/-- Whether a text is a whole number: binary, octal, decimal, hexadecimal or sexagesimal. -/
def isInteger (cs : List Char) : Bool :=
  match unsigned cs with
  | '0' :: 'b' :: rest => !rest.isEmpty && rest.all (digitOr "01")
  | '0' :: 'x' :: rest => !rest.isEmpty && rest.all (digitOr "0123456789abcdefABCDEF")
  | '0' :: rest => rest.all (digitOr "01234567")
  | c :: rest =>
    let tail := rest.dropWhile (digitOr "0123456789")
    c.isDigit && (tail.isEmpty || isSexagesimalTail tail)
  | [] => false

/-- Whether a text is empty or an exponent with its sign. -/
def isExponentOrEmpty (cs : List Char) : Bool :=
  match cs with
  | [] => true
  | e :: sign :: digits =>
    (e == 'e' || e == 'E') && (sign == '-' || sign == '+') && !digits.isEmpty
      && digits.all Char.isDigit
  | _ => false

/-- Whether a text is a number with a point: decimal, sexagesimal, infinite or none at all. -/
def isFloat (cs : List Char) : Bool :=
  let body := unsigned cs
  let whole := body.takeWhile (· != '.')
  let behind := (body.dropWhile (· != '.')).drop 1
  let exponent := behind.dropWhile (digitOr "0123456789")
  let spelled := [".nan".toList, ".NaN".toList, ".NAN".toList]
  spelled.contains cs || [".inf".toList, ".Inf".toList, ".INF".toList].contains body
    || (body.contains '.'
      && ((isDigits whole && isExponentOrEmpty exponent)
        || (whole.isEmpty && cs.head? == some '.' && (behind.head?.any Char.isDigit)
          && isExponentOrEmpty exponent)
        || (isDigits (whole.takeWhile (· != ':')) && isSexagesimalTail (whole.dropWhile (· != ':'))
          && exponent.isEmpty)))

/-- A run of decimal digits of an allowed length, and the rest. -/
def digitRun? (least most : Nat) (cs : List Char) : Option (List Char × List Char) :=
  let digits := (cs.takeWhile Char.isDigit).take most
  if least ≤ digits.length then some (digits, cs.drop digits.length) else none

/-- The rest behind a character. -/
def behind? (c : Char) : List Char → Option (List Char)
  | [] => none
  | d :: rest => if d = c then some rest else none

/-- The parts of a moment as they are written. -/
structure RawMoment where
  year : List Char
  month : List Char
  day : List Char
  hour : List Char := []
  minute : List Char := []
  second : List Char := []
  fraction : List Char := []
  /-- The sign, the hours and the minutes of an offset. -/
  offset : Option (Char × List Char × List Char) := none
  /-- Whether the offset is written as zero. -/
  zulu : Bool := false

/-- The offset behind a time, blanks before it skipped. -/
def rawOffset? (m : RawMoment) (cs : List Char) : Option RawMoment :=
  match cs.dropWhile fun c => c == ' ' || c == '\t' with
  | [] => if cs.isEmpty then some m else none
  | ['Z'] => some { m with zulu := true }
  | sign :: rest =>
    if sign = '+' ∨ sign = '-' then do
      let (hours, rest) ← digitRun? 1 2 rest
      match rest with
      | [] => some { m with offset := some (sign, hours, []) }
      | ':' :: rest =>
        let (minutes, rest) ← digitRun? 2 2 rest
        if rest.isEmpty then some { m with offset := some (sign, hours, minutes) } else none
      | _ => none
    else none

/-- The parts of a date with an optional time. -/
def rawMoment? (cs : List Char) : Option RawMoment := do
  let (year, rest) ← digitRun? 4 4 cs
  let (month, rest) ← digitRun? 1 2 (← behind? '-' rest)
  let (day, rest) ← digitRun? 1 2 (← behind? '-' rest)
  let date : RawMoment := { year, month, day }
  if rest.isEmpty then some date
  else
    let rest ←
      match rest with
      | 'T' :: more => some more
      | 't' :: more => some more
      | c :: more =>
        if c = ' ' ∨ c = '\t' then some (more.dropWhile fun c => c == ' ' || c == '\t') else none
      | [] => none
    let (hour, rest) ← digitRun? 1 2 rest
    let (minute, rest) ← digitRun? 2 2 (← behind? ':' rest)
    let (second, rest) ← digitRun? 2 2 (← behind? ':' rest)
    let (fraction, rest) :=
      match rest with
      | '.' :: more => (more.takeWhile Char.isDigit, more.dropWhile Char.isDigit)
      | _ => ([], rest)
    rawOffset? { date with hour, minute, second, fraction } rest

/-- Whether a text is a date, or a date with a time. A date alone has two digits for month and
day. -/
def isTimestamp (cs : List Char) : Bool :=
  match rawMoment? cs with
  | none => false
  | some m => !m.hour.isEmpty || (m.month.length == 2 && m.day.length == 2)

/-- The spellings of the truth values. -/
def truths : List (String × Bool) :=
  [("yes", true), ("no", false), ("true", true), ("false", false), ("on", true), ("off", false)]

/-- The three ways to write a word: small, with a capital, in capitals. -/
def spellings (word : String) : List (List Char) :=
  let cs := word.toList
  [cs, cs.take 1 |>.map Char.toUpper |>.append (cs.drop 1), cs.map Char.toUpper]

/-- Whether a text is a truth value. -/
def isBoolean (cs : List Char) : Bool := truths.any fun (word, _) => (spellings word).contains cs

/-- Whether a text is null. -/
def isNull (cs : List Char) : Bool := cs == [] || cs == ['~'] || (spellings "null").contains cs

/-- The kind of a plain scalar by its form. A line feed at the end does not count. -/
def plainTag (text : List Char) : Tag :=
  let cs := withoutFinalBreak text
  if isBoolean cs then .bool
  else if isFloat cs then .float
  else if isInteger cs then .int
  else if cs == ['<', '<'] then .merge
  else if isNull cs && (text.isEmpty || !cs.isEmpty) then .null
  else if isTimestamp cs then .timestamp
  else if cs == ['='] then .value
  else if cs == ['!'] || cs == ['&'] || cs == ['*'] then .other "tag:yaml.org,2002:yaml"
  else .str

/-! ### The values of scalars -/

/-- A whole number in a base. -/
def wholeNumber (base : Nat) (cs : List Char) : Except ScalarFault Int :=
  (Decimal.whole base cs).mapError fun
    | .shape => .notInteger base (String.ofList cs)
    | .tooManyDigits digits => .tooManyDigits digits

/-- The value of an integer scalar. -/
def integerValue (text : List Char) : Except ScalarFault Int := do
  let cs := text.filter (· != '_')
  match cs with
  | [] => .error .emptyNumber
  | first :: _ =>
    let sign : Int := if first = '-' then -1 else 1
    let body := unsigned cs
    match body with
    | [] => .error .emptyNumber
    | ['0'] => pure 0
    | '0' :: 'b' :: rest => return sign * (← wholeNumber 2 rest)
    | '0' :: 'x' :: rest => return sign * (← wholeNumber 16 rest)
    | '0' :: _ => return sign * (← wholeNumber 8 body)
    | _ =>
      let groups ← (fields ':' body).mapM (wholeNumber 10)
      return sign * groups.foldl (fun n group => 60 * n + group) 0

/-- A floating-point number. -/
def floatingNumber (cs : List Char) : Except ScalarFault Float :=
  match Decimal.float? cs with
  | none => .error (.notFloat (String.ofList cs))
  | some x => .ok x

/-- The sum of the parts of a sexagesimal number, from its last part on. The weight of a part is a
whole number, which must not be too large for a floating-point number. -/
def sexagesimalSum : List Float → Nat → Float → Except ScalarFault Float
  | [], _, sum => .ok sum
  | part :: rest, weight, sum =>
    let factor := Decimal.nearest weight 1
    if factor.isInf then .error .tooLargeForFloat
    else sexagesimalSum rest (60 * weight) (sum + part * factor)

/-- Whether a text is the word for no number, which may have a sign. -/
def isNotANumberWord (text : List Char) : Bool :=
  unsigned (lower (String.ofList (text.filter (· != '_')))).toList == ".nan".toList

/-- The value of a floating-point scalar. -/
def floatValue (text : List Char) : Except ScalarFault Float := do
  let cs := (lower (String.ofList (text.filter (· != '_')))).toList
  match cs with
  | [] => .error .emptyNumber
  | first :: _ =>
    let sign : Float := if first = '-' then -1.0 else 1.0
    let body := unsigned cs
    if body = ".inf".toList then pure (sign * (1.0 / 0.0))
    else if body = ".nan".toList then pure (0.0 / 0.0)
    else if body.contains ':' then
      let parts ← (fields ':' body).mapM floatingNumber
      return sign * (← sexagesimalSum parts.reverse 1 0.0)
    else return sign * (← floatingNumber body)

/-- The value of a truth scalar. Capitals do not matter. -/
def booleanValue (text : List Char) : Except ScalarFault Bool :=
  let word := lower (String.ofList text)
  match truths.lookup word with
  | some b => .ok b
  | none => .error (.notBoolean word)

/-- The first six digits behind a point, as millionths. -/
def millionths (fraction : List Char) : Nat :=
  let digits := fraction.take 6
  decimalValue (digits ++ List.replicate (6 - digits.length) '0')

/-- The offset of a clock in minutes. It is shorter than a day. -/
def offsetMinutes (sign : Char) (hours minutes : List Char) : Except CalendarFault Int :=
  let size : Int := 60 * decimalValue hours + decimalValue minutes
  let total := if sign = '-' then -size else size
  if size < 1440 then .ok total
  else
    let days := Int.fdiv total 1440
    .error (.offset days ((total - days * 1440) * 60).toNat)

/-- The value of a date or a moment. -/
def timestampValue (text : List Char) : Except ScalarFault Value :=
  match rawMoment? (withoutFinalBreak text) with
  | none => .error .notTimestamp
  | some m => Except.mapError ScalarFault.calendar do
    let date := Date.of? (decimalValue m.year) (decimalValue m.month) (decimalValue m.day)
    if m.hour.isEmpty then return .date (← date)
    let offset ←
      match m.offset with
      | some (sign, hours, minutes) => (offsetMinutes sign hours minutes).map some
      | none => pure (if m.zulu then some 0 else none)
    let date ← date
    let hour := decimalValue m.hour
    let minute := decimalValue m.minute
    let second := decimalValue m.second
    if 23 < hour then .error .hour
    else if 59 < minute then .error .minute
    else if 59 < second then .error .second
    else pure (.moment ⟨date, hour, minute, second, millionths m.fraction, offset⟩)

end TargetResolution.Yaml

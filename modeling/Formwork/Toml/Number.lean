import Formwork.Datum
import Formwork.Decimal.Reader
import Formwork.Toml.Scan

/-!
# Numbers and moments of a settings text

A number is the longest text that a number can be; what stands after it is not looked at, so
`01` is the number zero with a digit behind it. Underscores may stand between digits. A date, a
time of day, or both with an offset, are moments.
-/

set_option autoImplicit false

namespace Formwork.Toml

/-! ## Numbers -/

/-- Further digits after a digit, an underscore before any of them. -/
def moreDigits (isDigit : Char → Bool) : List Char → List Char × List Char
  | [] => ([], [])
  | '_' :: d :: rest =>
    if isDigit d then
      let (ds, r) := moreDigits isDigit rest
      (d :: ds, r)
    else ([], '_' :: d :: rest)
  | d :: rest =>
    if isDigit d then
      let (ds, r) := moreDigits isDigit rest
      (d :: ds, r)
    else ([], d :: rest)

/-- Digits, at least one, with underscores between them. -/
def someDigits? (isDigit : Char → Bool) : List Char → Option (List Char × List Char)
  | d :: rest =>
    if isDigit d then
      let (ds, r) := moreDigits isDigit rest
      some (d :: ds, r)
    else none
  | [] => none

def isBinaryDigit (c : Char) : Bool := c == '0' || c == '1'

def isOctalDigit (c : Char) : Bool := '0' ≤ c && c ≤ '7'

def isHexDigit (c : Char) : Bool := (Json.hexValue? c).isSome

/-- The number that digits denote in a base. -/
def inBase (base : Nat) (ds : List Char) : Nat :=
  ds.foldl (fun n d => base * n + (Json.hexValue? d).getD 0) 0

/-- An integer in another base than ten. -/
def readBased? (cs : List Char) : Option (Datum × List Char) :=
  let based (base : Nat) (isDigit : Char → Bool) (rest : List Char) :=
    (someDigits? isDigit rest).map fun (ds, r) => (Datum.integer (inBase base ds : Nat), r)
  match cs with
  | '0' :: 'x' :: rest => based 16 isHexDigit rest
  | '0' :: 'b' :: rest => based 2 isBinaryDigit rest
  | '0' :: 'o' :: rest => based 8 isOctalDigit rest
  | _ => none

/-- The whole part of a number: a zero alone, or digits that begin with another one. -/
def readWhole? : List Char → Option (List Char × List Char)
  | '0' :: rest => some (['0'], rest)
  | cs => someDigits? Char.isDigit cs

/-- A point with digits behind it. -/
def readFraction? : List Char → Option (List Char × List Char)
  | '.' :: rest => (someDigits? Char.isDigit rest).map fun (ds, r) => ('.' :: ds, r)
  | _ => none

/-- An exponent: its letter, its sign and its digits. -/
def readExponent? : List Char → Option (List Char × List Char)
  | c :: rest =>
    if c = 'e' ∨ c = 'E' then
      let sign := (rest.take 1).filter fun s => s == '+' || s == '-'
      (someDigits? Char.isDigit (rest.drop sign.length)).map fun (ds, r) => ('e' :: sign ++ ds, r)
    else none
  | [] => none

/-- The most digits that an integer in base ten has. -/
def maxDigits : Nat := 4300

/-- The integer that digits in base ten denote. -/
def integerOf (negative : Bool) (ds : List Char) : Except Fault Datum :=
  if maxDigits < ds.length then .error (.longInteger ds.length)
  else
    let n : Int := Nat.ofDigitChars 10 ds 0
    .ok (.integer (if negative then -n else n))

/-- The number that a whole part and what stands behind it denote. -/
def decimalOf (negative : Bool) (whole behind : List Char) : Except Fault Datum :=
  if behind.isEmpty then integerOf negative whole
  else .ok (.number ((Numeral.magnitude? negative (whole ++ behind)).getD .nan))

/-- A part of a number that may be missing. -/
def orNothing (part : Option (List Char × List Char)) (cs : List Char) : List Char × List Char :=
  part.getD ([], cs)

/-- A number in base ten. -/
def readDecimal? (cs : List Char) : Option (Except Fault (Datum × List Char)) :=
  let (negative, body) := Numeral.splitSign cs
  (readWhole? body).map fun (whole, r₁) =>
    let (fraction, r₂) := orNothing (readFraction? r₁) r₁
    let (exponent, r₃) := orNothing (readExponent? r₂) r₂
    (decimalOf negative whole (fraction ++ exponent)).map fun d => (d, r₃)

/-- The words for infinity and NaN, with an optional sign. -/
def readSpecial? (cs : List Char) : Option (Datum × List Char) :=
  let (negative, body) := Numeral.splitSign cs
  if "inf".toList.isPrefixOf body then some (.number (.infinite negative), body.drop 3)
  else if "nan".toList.isPrefixOf body then some (.number .nan, body.drop 3)
  else none

/-! ## Moments -/

/-- Two digits that denote a number between two bounds. -/
def readTwo? (low high : Nat) : List Char → Option (Nat × List Char)
  | a :: b :: rest =>
    let n := Nat.ofDigitChars 10 [a, b] 0
    if a.isDigit && b.isDigit && low ≤ n && n ≤ high then some (n, rest) else none
  | _ => none

/-- A character that is due. -/
def readThe? (c : Char) : List Char → Option (List Char)
  | d :: rest => if d = c then some rest else none
  | [] => none

/-- Four digits. -/
def readYear? (cs : List Char) : Option (Nat × List Char) :=
  let ds := cs.take 4
  if ds.length = 4 && ds.all Char.isDigit then some (Nat.ofDigitChars 10 ds 0, cs.drop 4) else none

/-- A date whose month and day are in range. -/
def readDay? (cs : List Char) : Option (CalendarDay × List Char) := do
  let (year, r) ← readYear? cs
  let (month, r) ← readTwo? 1 12 (← readThe? '-' r)
  let (day, r) ← readTwo? 1 31 (← readThe? '-' r)
  return (⟨year, month, day⟩, r)

/-- A fraction of a second in microseconds; further digits do not count. -/
def readMicroseconds (cs : List Char) : Nat × List Char :=
  match cs with
  | '.' :: rest =>
    let ds := rest.takeWhile Char.isDigit
    if ds.isEmpty then (0, cs)
    else
      let six := ds.take 6
      (Nat.ofDigitChars 10 (six ++ List.replicate (6 - six.length) '0') 0, rest.drop ds.length)
  | cs => (0, cs)

/-- A time of day. -/
def readClock? (cs : List Char) : Option (ClockTime × List Char) := do
  let (hour, r) ← readTwo? 0 23 cs
  let (minute, r) ← readTwo? 0 59 (← readThe? ':' r)
  let (second, r) ← readTwo? 0 59 (← readThe? ':' r)
  let (microsecond, r) := readMicroseconds r
  return (⟨hour, minute, second, microsecond⟩, r)

/-- An offset from universal time in minutes. -/
def readOffset? (cs : List Char) : Option (Int × List Char) :=
  match cs with
  | c :: rest =>
    if c = 'Z' ∨ c = 'z' then some (0, rest)
    else if c = '+' ∨ c = '-' then do
      let (hours, r) ← readTwo? 0 23 rest
      let (minutes, r) ← readTwo? 0 59 (← readThe? ':' r)
      let n : Int := (60 * hours + minutes : Nat)
      return (if c = '-' then -n else n, r)
    else none
  | [] => none

/-- A time of day after a date, and the offset behind it. -/
def readDayTime? (cs : List Char) : Option ((ClockTime × Option Int) × List Char) :=
  match cs with
  | c :: rest =>
    if c = 'T' ∨ c = 't' ∨ c = ' ' then
      (readClock? rest).map fun (time, r) =>
        match readOffset? r with
        | some (offset, after) => ((time, some offset), after)
        | none => ((time, none), r)
    else none
  | [] => none

def isLeapYear (y : Nat) : Bool := (y % 4 == 0 && y % 100 != 0) || y % 400 == 0

/-- The number of days of a month. -/
def daysInMonth (year month : Nat) : Nat :=
  if month = 2 then (if isLeapYear year then 29 else 28)
  else if [4, 6, 9, 11].contains month then 30
  else 31

/-- Is the day in the calendar? -/
def isInCalendar (d : CalendarDay) : Bool :=
  1 ≤ d.year && d.day ≤ daysInMonth d.year d.month

/-- A moment, if the text begins like one. A date that is not in the calendar is at fault. -/
def readMoment? (cs : List Char) : Option (Except Fault (Datum × List Char)) :=
  match readDay? cs with
  | some (day, r) =>
    if isInCalendar day then
      match readDayTime? r with
      | some ((time, offset), after) => some (.ok (.moment (.both day time offset), after))
      | none => some (.ok (.moment (.date day), r))
    else some (stop .invalidMoment cs)
  | none => (readClock? cs).map fun (time, r) => .ok (.moment (.time time), r)

end Formwork.Toml

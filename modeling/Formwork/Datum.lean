import Formwork.Decimal.Layout
import Formwork.Json.Basic
import Formwork.Text.Literal

/-!
# Data as messages show them

A `Datum` is a value of a settings file, or of a JSON text, as far as messages quote it. It has
two texts. `Datum.shown` can be told from the text of any other datum of another type, strings
being quoted; `Datum.bare` differs from it for strings and moments, which stand without quotes.
-/

set_option autoImplicit false

namespace Formwork

/-- A day of the calendar in a settings file. -/
structure CalendarDay where
  year : Nat
  month : Nat
  day : Nat

/-- A time of day in a settings file. -/
structure ClockTime where
  hour : Nat
  minute : Nat
  second : Nat
  microsecond : Nat

/-- A point in time. The offset from universal time, in minutes, may be left open. -/
inductive Moment where
  | date (day : CalendarDay)
  | time (time : ClockTime)
  | both (day : CalendarDay) (time : ClockTime) (offset : Option Int)

/-- A value that messages quote. -/
inductive Datum where
  | nothing
  | flag (value : Bool)
  | integer (value : Int)
  | number (value : Binary64)
  | text (value : String)
  | moment (value : Moment)
  | list (items : List Datum)
  | table (entries : List (String × Datum))

/-- How messages set out a number. -/
def messageLayout : Layout where
  leastPositional := -4
  endPositional := 16
  keepsPoint := true
  exponentWidth := 2
  nanText := "nan"
  infinityText := "inf"

/-- A natural number in at least two digits. -/
def twoDigits (n : Nat) : String := padLeft 2 '0' (natText n)

namespace CalendarDay

def parts (d : CalendarDay) : List Nat := [d.year, d.month, d.day]

/-- The day as `1979-05-27`. -/
def bare (d : CalendarDay) : String :=
  padLeft 4 '0' (natText d.year) ++ "-" ++ twoDigits d.month ++ "-" ++ twoDigits d.day

end CalendarDay

namespace ClockTime

/-- The parts, without zeros at the end; hour and minute always stand. -/
def parts (t : ClockTime) : List Nat :=
  if t.microsecond ≠ 0 then [t.hour, t.minute, t.second, t.microsecond]
  else if t.second ≠ 0 then [t.hour, t.minute, t.second]
  else [t.hour, t.minute]

/-- The time as `07:32:00`, with six places of a second where there is a fraction. -/
def bare (t : ClockTime) : String :=
  twoDigits t.hour ++ ":" ++ twoDigits t.minute ++ ":" ++ twoDigits t.second
    ++ (if t.microsecond = 0 then "" else "." ++ padLeft 6 '0' (natText t.microsecond))

end ClockTime

namespace Moment

private def call (name : String) (args : List String) : String :=
  name ++ "(" ++ ", ".intercalate args ++ ")"

/-- An offset as whole days and the seconds beyond them. -/
private def offsetParts (minutes : Int) : List String :=
  let days := (minutes * 60).fdiv 86400
  let seconds := (minutes * 60).fmod 86400
  (if days = 0 then [] else ["days=" ++ intText days])
    ++ (if seconds = 0 then [] else ["seconds=" ++ intText seconds])

private def zone : Option Int → List String
  | none => []
  | some 0 => ["tzinfo=datetime.timezone.utc"]
  | some m => ["tzinfo=" ++ call "datetime.timezone" [call "datetime.timedelta" (offsetParts m)]]

def shown : Moment → String
  | .date d => call "datetime.date" (d.parts.map natText)
  | .time t => call "datetime.time" (t.parts.map natText)
  | .both d t offset =>
    call "datetime.datetime" (d.parts.map natText ++ t.parts.map natText ++ zone offset)

private def bareOffset : Option Int → String
  | none => ""
  | some m =>
    (if m < 0 then "-" else "+") ++ twoDigits (m.natAbs / 60) ++ ":" ++ twoDigits (m.natAbs % 60)

def bare : Moment → String
  | .date d => d.bare
  | .time t => t.bare
  | .both d t offset => d.bare ++ " " ++ t.bare ++ bareOffset offset

end Moment

namespace Datum

mutual

/-- The text in which every string is quoted. -/
def shown : Datum → String
  | .nothing => "None"
  | .flag true => "True"
  | .flag false => "False"
  | .integer n => intText n
  | .number x => messageLayout.text x
  | .text s => Text.Quoted.text s
  | .moment m => m.shown
  | .list items => "[" ++ ", ".intercalate (shownItems items) ++ "]"
  | .table entries => "\x7b" ++ ", ".intercalate (shownEntries entries) ++ "\x7d"

def shownItems : List Datum → List String
  | [] => []
  | d :: ds => d.shown :: shownItems ds

def shownEntries : List (String × Datum) → List String
  | [] => []
  | (k, d) :: es => (Text.Quoted.text k ++ ": " ++ d.shown) :: shownEntries es

end

mutual

/-- Is there an integer in the datum with more digits than a message shows? -/
def isOverlong : Datum → Bool
  | .integer n => Formwork.isOverlong n
  | .list items => isOverlongItems items
  | .table entries => isOverlongEntries entries
  | _ => false

def isOverlongItems : List Datum → Bool
  | [] => false
  | d :: ds => d.isOverlong || isOverlongItems ds

def isOverlongEntries : List (String × Datum) → Bool
  | [] => false
  | (_, d) :: es => d.isOverlong || isOverlongEntries es

end

/-- The text in which a string, or a moment, stands for itself. -/
def bare : Datum → String
  | .text s => s
  | .moment m => m.bare
  | d => d.shown

/-- Sets the value of a key that a table may already have; a new key comes last. -/
def put {α : Type} (entries : List (String × α)) (key : String) (value : α) :
    List (String × α) :=
  if entries.any fun e => e.1 == key then
    entries.map fun e => if e.1 == key then (key, value) else e
  else entries ++ [(key, value)]

mutual

/-- A JSON value as a datum; of a repeated key the last value counts. -/
def ofJson : Json → Datum
  | .null => .nothing
  | .bool b => .flag b
  | .integer n => .integer n
  | .number x => .number x
  | .text s => .text s
  | .list items => .list (ofItems items)
  | .object members => .table (ofMembers [] members)

def ofItems : List Json → List Datum
  | [] => []
  | v :: vs => ofJson v :: ofItems vs

def ofMembers (read : List (String × Datum)) : List (String × Json) → List (String × Datum)
  | [] => read
  | (k, v) :: ms => ofMembers (put read k (ofJson v)) ms

end

end Datum

end Formwork

import Formwork.Datum

/-!
# Room for descents

Some of what the program does goes down a level for every level of what it works on: it reads the
values of a settings text, shows a datum in a message or writes a value over several lines. How far
it can go is up to the system it runs on, and depends on more than the number of levels. A `Stack`
says which descents are too deep. It has room for a number of levels in any case.
-/

set_option autoImplicit false

namespace Formwork

namespace Datum

mutual

/-- How many values stand one in another. -/
def levels : Datum → Nat
  | .list items => levelsOfItems items + 1
  | .table entries => levelsOfEntries entries + 1
  | _ => 0

def levelsOfItems : List Datum → Nat
  | [] => 0
  | d :: ds => max d.levels (levelsOfItems ds)

def levelsOfEntries : List (String × Datum) → Nat
  | [] => 0
  | (_, d) :: es => max d.levels (levelsOfEntries es)

end

end Datum

namespace Json

mutual

/-- How many values stand one in another. -/
def levels : Json → Nat
  | .list items => levelsOfItems items + 1
  | .object members => levelsOfMembers members + 1
  | _ => 0

def levelsOfItems : List Json → Nat
  | [] => 0
  | v :: vs => max v.levels (levelsOfItems vs)

def levelsOfMembers : List (String × Json) → Nat
  | [] => 0
  | (_, v) :: ms => max v.levels (levelsOfMembers ms)

end

end Json

/-- Something that goes down level by level. -/
inductive Descent where
  /-- Reading the values of a settings text. -/
  | read (text : String)
  /-- Showing a datum. -/
  | shown (d : Datum)
  /-- Writing a value over several lines. -/
  | written (v : Json)

/-- How many levels there are to go down, at most. A text has no more than opening brackets. -/
def Descent.levels : Descent → Nat
  | read text => text.toList.countP fun c => c = '[' ∨ c = '\x7b'
  | shown d => d.levels
  | written v => v.levels

/-- Which descents the system has no room for. -/
structure Stack where
  exhausts : Descent → Bool := fun _ => false
  /-- A number of levels for which there is room. -/
  room : Nat := 0
  not_exhausts : ∀ d, d.levels ≤ room → exhausts d = false := by exact fun _ _ => rfl

namespace Stack

/-- What the message of a descent says that is too deep. -/
def exhaustedText : String := "maximum recursion depth exceeded"

end Stack

end Formwork

import Formwork.Datum

/-!
# The event journal

A journal numbers the events of a run, from one on, and keeps the newest of them: as many as its
capacity says, or all where there is none. The number of the newest event is known even when the
event itself is no longer kept, so a reader who asks for what came after a number can tell how
far it has read.
-/

set_option autoImplicit false

namespace Formwork

/-- What happened, how grave it is, and the named values that explain it. -/
structure Event where
  id : Int
  level : String
  text : String
  details : List (String × Json) := []

/-- A bounded list of events, the oldest first. -/
structure Journal where
  capacity : Option Nat := some 300
  events : List Event := []
  last : Nat := 0

/-- A capacity below zero. -/
structure CapacityError where

def CapacityError.message (_ : CapacityError) : String := "maxlen must be non-negative"

namespace Journal

/-- An empty journal. -/
def ofCapacity : Option Int → Except CapacityError Journal
  | none => .ok { capacity := none }
  | some n => if n < 0 then .error {} else .ok { capacity := some n.toNat }

/-- The newest events, as many as there is room for. -/
def trim (capacity : Option Nat) (events : List Event) : List Event :=
  match capacity with
  | none => events
  | some n => events.drop (events.length - n)

/-- The event that comes next. -/
def nextEvent (j : Journal) (level text : String) (details : List (String × Json)) : Event :=
  ⟨(j.last + 1 : Nat), level, text, details⟩

/-- Numbers an event and keeps it. -/
def append (j : Journal) (level text : String) (details : List (String × Json) := []) : Journal :=
  { j with
    events := trim j.capacity (j.events ++ [j.nextEvent level text details])
    last := j.last + 1 }

/-- The newest events, the oldest of them first; a limit below one is none. -/
def history (j : Journal) : Option Int → List Event
  | none => j.events
  | some n => if n ≤ 0 then j.events else j.events.drop (j.events.length - n.toNat)

/-- The newest event that is kept. -/
def latest? (j : Journal) : Option Event := j.events.getLast?

/-- The kept events numbered above `cursor`, and the number of the newest event of all. -/
def snapshotAfter (j : Journal) (cursor : Int) : List Event × Nat :=
  (j.events.filter fun e => cursor < e.id, j.last)

/-- The one name that no value of an event can have. -/
def reservedName : String := "self"

/-- The event that is reported when a value has the reserved name; it is not kept. -/
def unkept (level text : String) (details : List (String × Json)) : Event :=
  ⟨-1, level, text, details⟩

/-- Reports an event: it is kept unless a value has the reserved name. -/
def record (j : Journal) (level text : String) (details : List (String × Json) := []) :
    Event × Journal :=
  if details.any fun d => d.1 == reservedName then (unkept level text details, j)
  else (j.nextEvent level text details, j.append level text details)

end Journal

/-- How grave a notice is. -/
inductive Severity where
  | debug
  | info
  | warning
  | error
  deriving DecidableEq

namespace Severity

def rank : Severity → Nat
  | debug => 0
  | info => 1
  | warning => 2
  | error => 3

def name : Severity → String
  | debug => "DEBUG"
  | info => "INFO"
  | warning => "WARNING"
  | error => "ERROR"

/-- The severity that an event's level stands for. -/
def ofLevel (level : String) : Severity :=
  if ["warn", "warning", "error"].contains level then warning else info

end Severity

/-- A line for the person who runs the program. -/
structure Notice where
  severity : Severity
  source : String
  text : String

namespace Notice

def line (n : Notice) : String := n.severity.name ++ " " ++ n.source ++ ": " ++ n.text

/-- The notice of an event. -/
def ofEvent (level text : String) (details : List (String × Json)) : Notice :=
  ⟨.ofLevel level, "radbuilder.status", text ++ " " ++ (Datum.ofJson (.object details)).shown⟩

end Notice

end Formwork

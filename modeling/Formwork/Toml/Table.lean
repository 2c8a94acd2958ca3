import Formwork.Datum
import Formwork.Toml.Scan

/-!
# Tables of a settings text

Statements build one table of tables. A key of several parts leads through tables, and through
the last table of a list of tables; what is missing on the way is made. `Marks` remember which
tables may no longer be declared and which values may no longer be changed.
-/

set_option autoImplicit false

namespace Formwork.Toml

/-- The entries of a table. -/
abbrev Entries := List (String × Datum)

/-- A key with its parts. -/
abbrev Key := List String

/-- The value of a key. -/
def valueOf? (t : Entries) (key : String) : Option Datum :=
  (t.find? fun e => e.1 == key).map Prod.snd

/-- Changes the table that a key leads to; nothing if a value on the way is no table. Lists of
tables are entered only where `throughLists` says so. -/
def alter (throughLists : Bool) (change : Entries → Option Entries) :
    Key → Entries → Option Entries
  | [], t => change t
  | k :: ks, t =>
    match valueOf? t k with
    | none => (alter throughLists change ks []).map fun inner => Datum.put t k (.table inner)
    | some (.table inner) =>
      (alter throughLists change ks inner).map fun inner => Datum.put t k (.table inner)
    | some (.list items) =>
      match throughLists, items.getLast? with
      | true, some (.table inner) =>
        (alter throughLists change ks inner).map fun inner =>
          Datum.put t k (.list (items.dropLast ++ [.table inner]))
      | _, _ => none
    | some _ => none

/-- Adds a value under a key that the table does not have. -/
def addValue (key : String) (value : Datum) (t : Entries) : Option Entries :=
  if (valueOf? t key).isSome then none else some (t ++ [(key, value)])

/-- Adds an empty table to a list of tables, which begins with it where there is none. -/
def addToList (key : String) (t : Entries) : Option Entries :=
  match valueOf? t key with
  | none => some (t ++ [(key, .list [.table []])])
  | some (.list items) => some (Datum.put t key (.list (items ++ [.table []])))
  | some _ => none

/-- What may no longer be declared or changed. -/
structure Marks where
  /-- Values that may not be changed, nor anything in them. -/
  frozen : List Key := []
  /-- Tables that may not be declared. -/
  declared : List Key := []
  /-- Tables that may not be declared once another table has been. -/
  pending : List Key := []

namespace Marks

def isFrozen (m : Marks) (key : Key) : Bool := m.frozen.any fun f => f.isPrefixOf key

def isDeclared (m : Marks) (key : Key) : Bool := m.declared.contains key

def freeze (m : Marks) (key : Key) : Marks := { m with frozen := key :: m.frozen }

def declare (m : Marks) (key : Key) : Marks := { m with declared := key :: m.declared }

/-- Declares what is pending. -/
def settle (m : Marks) : Marks := { m with declared := m.pending ++ m.declared, pending := [] }

/-- Forgets what is said of a key and of everything in it. -/
def forget (m : Marks) (key : Key) : Marks :=
  { m with
    frozen := m.frozen.filter fun f => !key.isPrefixOf f
    declared := m.declared.filter fun d => !key.isPrefixOf d }

end Marks

/-- Is the value a table or a list? -/
def isNested : Datum → Bool
  | .table _ => true
  | .list _ => true
  | _ => false

end Formwork.Toml

import Formwork.Toml.Number
import Formwork.Toml.Table

/-!
# Reading a settings text

`Toml.read` reads a text statement by statement: an entry of the current table, the declaration
of a table, or the declaration of one more table in a list. The text is TOML 1.0. It is refused
at its first fault, which is named with its place.
-/

set_option autoImplicit false

namespace Formwork.Toml

/-! ## Values -/

/-- A key, an equals sign and a value. -/
def readPair (value : Reader Datum) (cs : List Char) :
    Except Fault ((Key × Datum) × List Char) := do
  let (key, r) ← readKey cs
  match r with
  | '=' :: rest => do
    let (v, after) ← value (skipSpace rest)
    return ((key, v), after)
  | r => stop .equalsExpected r

/-- The items of an array, onto those read so far; one is due. -/
def readItems (value : Reader Datum) :
    Nat → List Datum → List Char → Except Fault (List Datum × List Char)
  | 0, _, cs => stop .unclosedArray cs
  | fuel + 1, read, cs => do
    let (item, r) ← value cs
    match ← skipBetween r with
    | ']' :: rest => return (read ++ [item], rest)
    | ',' :: rest =>
      match ← skipBetween rest with
      | ']' :: after => return (read ++ [item], after)
      | next => readItems value fuel (read ++ [item]) next
    | r => stop .unclosedArray r

/-- An array, after its opening bracket. -/
def readArray (value : Reader Datum) (cs : List Char) : Except Fault (List Datum × List Char) := do
  match ← skipBetween cs with
  | ']' :: rest => return ([], rest)
  | r => readItems value (r.length + 1) [] r

/-- Puts an entry into an inline table. -/
def addInline (frozen : Marks) (t : Entries) (key : Key) (v : Datum) (rest : List Char) :
    Except Fault Entries :=
  if frozen.isFrozen key then stop (.frozen key) rest
  else
    let stem := key.getLastD ""
    let absent (t : Entries) : Option Entries := if (valueOf? t stem).isSome then none else some t
    match alter false some key.dropLast t, alter false absent key.dropLast t with
    | none, _ => stop .overwritten rest
    | some _, none => stop (.duplicateKey stem) rest
    | some _, some _ => .ok ((alter false (addValue stem v) key.dropLast t).getD t)

/-- The entries of an inline table, onto those read so far; one is due. -/
def readEntries (value : Reader Datum) :
    Nat → Marks → Entries → List Char → Except Fault (Entries × List Char)
  | 0, _, _, cs => stop .unclosedTable cs
  | fuel + 1, frozen, read, cs => do
    let ((key, v), r) ← readPair value cs
    let read ← addInline frozen read key v r
    match skipSpace r with
    | '}' :: rest => return (read, rest)
    | ',' :: rest =>
      let frozen := if isNested v then frozen.freeze key else frozen
      readEntries value fuel frozen read (skipSpace rest)
    | r => stop .unclosedTable r

/-- An inline table, after its opening brace. -/
def readInline (value : Reader Datum) (cs : List Char) : Except Fault (Entries × List Char) :=
  match skipSpace cs with
  | '}' :: rest => .ok ([], rest)
  | r => readEntries value (r.length + 1) {} [] r

/-- A value that is neither quoted nor nested. -/
def readPlain (cs : List Char) : Except Fault (Datum × List Char) :=
  if "true".toList.isPrefixOf cs then .ok (.flag true, cs.drop 4)
  else if "false".toList.isPrefixOf cs then .ok (.flag false, cs.drop 5)
  else match readMoment? cs with
    | some r => r
    | none =>
      match readBased? cs with
      | some r => .ok r
      | none =>
        match readDecimal? cs with
        | some r => r
        | none =>
          match readSpecial? cs with
          | some r => .ok r
          | none => stop .invalidValue cs

/-- A value with at most `room` brackets around its parts. -/
def readValue : Nat → List Char → Except Fault (Datum × List Char)
  | 0, cs => stop .invalidValue cs
  | room + 1, cs =>
    match cs with
    | '"' :: '"' :: '"' :: rest => (readLines rest).map fun (s, r) => (.text s, r)
    | '"' :: rest => (readLine rest).map fun (s, r) => (.text s, r)
    | '\'' :: '\'' :: '\'' :: rest => (readLiteralLines rest).map fun (s, r) => (.text s, r)
    | '\'' :: rest => (readLiteralLine rest).map fun (s, r) => (.text s, r)
    | '[' :: rest => (readArray (readValue room) rest).map fun (xs, r) => (.list xs, r)
    | '{' :: rest => (readInline (readValue room) rest).map fun (es, r) => (.table es, r)
    | cs => readPlain cs

/-! ## Statements -/

/-- What has been read: the table of all tables, the marks on it, and the current table. -/
structure Progress where
  table : Entries := []
  marks : Marks := {}
  header : Key := []

/-- The beginnings of a key that lead to tables, the shortest first. -/
def beginnings (header key : Key) : List Key :=
  (List.range (key.length - 1)).map fun i => header ++ key.take (i + 1)

/-- Puts an entry into the current table. -/
def addEntry (p : Progress) (key : Key) (v : Datum) (rest : List Char) : Except Fault Progress :=
  let parent := p.header ++ key.dropLast
  match (beginnings p.header key).find? p.marks.isDeclared with
  | some k => stop (.redefined k) rest
  | none =>
    if p.marks.isFrozen parent then stop (.frozen parent) rest
    else
      let marks := { p.marks with pending := beginnings p.header key ++ p.marks.pending }
      match alter true (addValue (key.getLastD "") v) parent p.table with
      | none => stop .overwritten rest
      | some table =>
        let marks := if isNested v then marks.freeze (p.header ++ key) else marks
        .ok { p with table, marks }

/-- An entry of the current table. -/
def readEntry (p : Progress) (cs : List Char) : Except Fault (Progress × List Char) := do
  let ((key, v), r) ← readPair (readValue (cs.length + 1)) cs
  return (← addEntry p key v r, r)

/-- The declaration of a table, after its opening bracket. -/
def readTable (p : Progress) (cs : List Char) : Except Fault (Progress × List Char) := do
  let (key, r) ← readKey (skipSpace cs)
  if p.marks.isDeclared key || p.marks.isFrozen key then stop (.declaredTwice key) r
  else match alter true some key p.table with
    | none => stop .overwritten r
    | some table =>
      match r with
      | ']' :: rest => return ({ table, marks := p.marks.declare key, header := key }, rest)
      | r => stop .tableEndExpected r

/-- The declaration of one more table in a list, after its opening brackets. -/
def readListTable (p : Progress) (cs : List Char) : Except Fault (Progress × List Char) := do
  let (key, r) ← readKey (skipSpace cs)
  if p.marks.isFrozen key then stop (.frozen key) r
  else match alter true (addToList (key.getLastD "")) key.dropLast p.table with
    | none => stop .overwritten r
    | some table =>
      match r with
      | ']' :: ']' :: rest =>
        return ({ table, marks := (p.marks.forget key).declare key, header := key }, rest)
      | r => stop .listEndExpected r

/-- One statement, which may be empty. -/
def readStatement (p : Progress) (cs : List Char) : Except Fault (Progress × List Char) :=
  match cs with
  | [] => .ok (p, [])
  | '[' :: '[' :: rest => readListTable { p with marks := p.marks.settle } rest
  | '[' :: rest => readTable { p with marks := p.marks.settle } rest
  | c :: rest =>
    if beginsKey c then readEntry p cs
    else if c = '#' ∨ c = '\n' then .ok (p, cs)
    else stop .invalidStatement (c :: rest)

/-- The statements of a text, each in a line of its own. -/
def readStatements : Nat → Progress → List Char → Except Fault Entries
  | 0, p, _ => .ok p.table
  | fuel + 1, p, cs => do
    let (p, r) ← readStatement p (skipSpace cs)
    match ← skipComment (skipSpace r) with
    | [] => return p.table
    | '\n' :: rest => readStatements fuel p rest
    | r => stop .lineEndExpected r

/-- A place in a text; none is the end of it. -/
abbrev Place := Option (Nat × Nat)

/-- The line and the column, both counted from one, where `rest` begins. -/
def placeOf (text rest : List Char) : Place :=
  if rest.isEmpty then none
  else
    let before := text.take (text.length - rest.length)
    some (before.count '\n' + 1, (before.reverse.takeWhile (· ≠ '\n')).length + 1)

def placeText : Place → String
  | none => "end of document"
  | some (line, column) => "line " ++ line.repr ++ ", column " ++ column.repr

/-- Why a text is no TOML, and where. -/
inductive Error where
  | malformed (problem : Problem) (place : Place)
  | longInteger (digits : Nat)

def Error.message : Error → String
  | malformed problem place => problem.message ++ " (at " ++ placeText place ++ ")"
  | longInteger digits =>
    "Exceeds the limit (" ++ natText maxDigits ++ " digits) for integer string conversion: "
      ++ "value has " ++ digits.repr ++ " digits; "
      ++ "use sys.set_int_max_str_digits() to increase the limit"

/-- Reads a settings text. -/
def read (text : String) : Except Error Entries :=
  match readStatements (text.length + 1) {} text.toList with
  | .ok t => .ok t
  | .error (.problem p rest) => .error (.malformed p (placeOf text.toList rest))
  | .error (.longInteger digits) => .error (.longInteger digits)

end Formwork.Toml

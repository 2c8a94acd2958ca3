import Formwork.Source.Format
import Formwork.Stack

/-!
# Settings

The settings of a design session and of the generator, as a settings file gives them: the table
`designer` has the grid and the switch for automatic generation, the table `codegen` the format
and the choice of comments. What is not said keeps its default; unknown tables and keys are
ignored.
-/

set_option autoImplicit false

namespace Formwork

/-- How a session works and what it generates. -/
structure Settings where
  gridSize : Binary64 := 1
  autoGenerate : Bool := false
  format : Source.Format := .single
  comments : Bool := true

/-- Why a table gives no settings. -/
inductive SettingsError where
  | notATable (tableName : String)
  | notAGrid (value : Datum)
  | notAFlag (tableName key : String) (value : Datum)
  | format (e : NameError)
  /-- The grid is an integer beyond every finite number. -/
  | oversizedGrid
  /-- The value has an integer in it that no message shows. -/
  | overlong
  /-- The same of a value that should name a format. -/
  | overlongFormat
  /-- The value has more levels than there is room for to show it. -/
  | tooDeep

namespace SettingsError

def message : SettingsError → String
  | notATable name => "[" ++ name ++ "] must be a table"
  | notAGrid value =>
    "designer.grid_size must be a non-negative number, got " ++ value.shown
  | notAFlag name key value =>
    name ++ "." ++ key ++ " must be true or false, got " ++ value.shown
  | format e => e.message
  | oversizedGrid => "int too large to convert to float"
  | overlong => overlongText
  | overlongFormat => overlongText
  | tooDeep => Stack.exhaustedText

end SettingsError

namespace Settings

variable (stack : Stack)

/-- The value of a key. -/
def find? (table : List (String × Datum)) (key : String) : Option Datum :=
  (table.find? fun e => e.1 == key).map Prod.snd

/-- A table of the settings; one that is not there is empty. -/
def section? (table : List (String × Datum)) (name : String) :
    Except SettingsError (List (String × Datum)) :=
  match find? table name with
  | none => .ok []
  | some (.table entries) => .ok entries
  | some _ => .error (.notATable name)

/-- Refuses a value, and shows it where a message can. -/
def refuse {α : Type} (reason : Datum → SettingsError) (value : Datum) : Except SettingsError α :=
  if stack.exhausts (.shown value) then .error .tooDeep
  else .error (if value.isOverlong then .overlong else reason value)

/-- The grid that a value gives: a number that is not below zero. -/
def gridOf : Datum → Except SettingsError Binary64
  | .integer n =>
    if n < 0 then refuse stack .notAGrid (.integer n)
    else match Binary64.ofInt? n with
      | some x => .ok x
      | none => .error .oversizedGrid
  | .number x => if Binary64.below x 0 then refuse stack .notAGrid (.number x) else .ok x
  | value => refuse stack .notAGrid value

/-- The switch that a value gives. -/
def flagOf (tableName key : String) : Datum → Except SettingsError Bool
  | .flag b => .ok b
  | value => refuse stack (.notAFlag tableName key) value

/-- The format that a value gives, by the text of the value. -/
def formatOf (value : Datum) : Except SettingsError Source.Format :=
  if stack.exhausts (.shown value) then .error .tooDeep
  else if value.isOverlong then .error .overlongFormat
  else (Source.Format.ofName value.bare).mapError .format

/-- What a key gives, or the default where it is not there. -/
def read {α : Type} (table : List (String × Datum)) (key : String) (default : α)
    (meaning : Datum → Except SettingsError α) : Except SettingsError α :=
  match find? table key with
  | none => .ok default
  | some value => meaning value

/-- The settings that a table gives. -/
def ofTable (table : List (String × Datum)) : Except SettingsError Settings := do
  let designer ← section? table "designer"
  let codegen ← section? table "codegen"
  let defaults : Settings := {}
  let gridSize ← read designer "grid_size" defaults.gridSize (gridOf stack)
  let autoGenerate ←
    read designer "auto_generate" defaults.autoGenerate (flagOf stack "designer" "auto_generate")
  let format ← read codegen "format" defaults.format (formatOf stack)
  let comments ← read codegen "comments" defaults.comments (flagOf stack "codegen" "comments")
  return ⟨gridSize, autoGenerate, format, comments⟩

end Settings

end Formwork

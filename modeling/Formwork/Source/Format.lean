import Formwork.Design.Kind
import Formwork.Text.Blank
import Formwork.Text.Letters

/-!
# Output formats

The same module can be written as a program of its own, together with the manifest of a package
around it, or without the part that starts a program.
-/

set_option autoImplicit false

namespace Formwork.Source

/-- What is generated. -/
inductive Format where
  | single
  | separate
  | uiOnly
  deriving DecidableEq, Repr

namespace Format

def all : List Format := [.single, .separate, .uiOnly]

/-- The short name, which settings and commands use. -/
def tag : Format → String
  | single => "single"
  | separate => "separate"
  | uiOnly => "ui"

/-- The name shown to a person. -/
def displayName : Format → String
  | single => "Single File"
  | separate => "Separate Files"
  | uiOnly => "UI Function Only"

/-- Every name of a format, in lower case. -/
def names : Format → List String
  | single => ["single", "single_file", "single file"]
  | separate => ["separate", "separate_files", "separate files"]
  | uiOnly => ["ui", "ui_only", "ui function only"]

/-- The format that a name stands for, in any letter case. -/
def ofName (raw : String) : Except NameError Format :=
  let s := Text.lower (Text.strip raw)
  match all.find? fun f => f.names.contains s with
  | some f => .ok f
  | none => .error (.unknownFormat raw)

end Format

end Formwork.Source

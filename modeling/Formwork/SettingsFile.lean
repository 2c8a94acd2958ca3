import Formwork.Files.Tree
import Formwork.Settings
import Formwork.Toml.Reader

/-!
# The settings file

The settings of a directory stand in a file of a fixed name. Where there is none, the defaults
count.
-/

set_option autoImplicit false

namespace Formwork

/-- The name of the settings file. -/
def settingsFileName : String := "radbuilder.toml"

/-- Why a settings file gives no settings. -/
inductive SettingsFileError where
  | settings (e : SettingsError)
  | malformed (e : Toml.Error)
  | unreadable (e : FileError) (path : Path)
  | encoding (f : Text.Utf8.Fault)
  /-- It is not known whether there is a file. -/
  | unknown (e : FileError)
  /-- The values have more levels than there is room for to read them. -/
  | tooDeep

def SettingsFileError.message : SettingsFileError → String
  | settings e => e.message
  | malformed (.malformed problem place) =>
    "Invalid " ++ settingsFileName ++ ": " ++ (Toml.Error.malformed problem place).message
  | malformed e => e.message
  | unreadable e path => "Cannot read " ++ path.text ++ ": " ++ e.message
  | encoding f => f.message
  | unknown e => e.message
  | tooDeep => Stack.exhaustedText

namespace Settings

/-- The settings that a text gives. -/
def ofText (stack : Stack) (text : String) : Except SettingsFileError Settings :=
  if stack.exhausts (.read text) then .error .tooDeep
  else match Toml.read text with
  | .error e => .error (.malformed e)
  | .ok table => (ofTable stack table).mapError .settings

/-- The settings of a directory. -/
def load (stack : Stack) (files : FileTree) (directory : Path) :
    Except SettingsFileError Settings :=
  let path := directory.child settingsFileName
  match files.contains path with
  | .error e => .error (.unknown e)
  | .ok false => .ok {}
  | .ok true =>
    match files.readText path with
    | .error (.file e) => .error (.unreadable e path)
    | .error (.encoding f) => .error (.encoding f)
    | .ok text => ofText stack text

end Settings

end Formwork

import Formwork.CommandLine.Arguments
import Formwork.Design.Kind
import Formwork.Files.Path
import Formwork.Journal

/-!
# Invocations

What the program can be asked to do, and the argument vectors that ask for it. The options of the
program itself stand before the name of a command, and everything behind that name belongs to the
command.
-/

set_option autoImplicit false

namespace Formwork.CommandLine

/-- How a module is generated, where the settings do not say it. -/
structure Choices where
  format : Option String := none
  noComments : Bool := false

/-- What the program is asked to do. -/
inductive Invocation where
  | new (file : Path) (canvasWidth canvasHeight : Binary64) (panels : String) (force : Bool)
  | add (file : Path) (kind : String) (x y : Binary64) (area : String)
  | kinds
  | generate (file : Path) (choices : Choices) (out : Option Path)
  | preview (file : Path)
  | check (file : Path)
  | watch (file out : Path) (choices : Choices) (debounce : Binary64)
  | help
  | version

/-- An invocation, and how grave a notice must be to be shown. -/
structure Request where
  threshold : Severity := .warning
  invocation : Invocation

/-- The name of the program. -/
def programName : String := "radb"

def helpSwitch : Switch := { names := ["-h", "--help"], stops := true }

/-- The names of the severities. -/
def severityNames : List String := ["debug", "info", "warning", "error"]

/-- The severity with a name. -/
def severityOf : String → Severity
  | "debug" => .debug
  | "info" => .info
  | "error" => .error
  | _ => .warning

/-- What the program itself takes. -/
def programGrammar : Grammar where
  program := programName
  switches := [
    helpSwitch,
    { names := ["--version"], stops := true },
    { names := ["--log-level"], takes := .choice severityNames }]
  command := some "command"

/-- The commands, in the order in which messages list them. -/
def commandNames : List String :=
  ["new", "add", "kinds", "generate", "preview", "check", "watch"]

/-- The operand that most commands take. -/
def fileOperand : String := "file"

/-- The options that say how a module is generated. -/
def choiceSwitches : List Switch := [
  { names := ["--format"], takes := .text },
  { names := ["--no-comments"] }]

/-- What a command takes besides its file. -/
def switchesOf : String → List Switch
  | "new" => [
    { names := ["--width"], takes := .number },
    { names := ["--height"], takes := .number },
    { names := ["--panels"], takes := .text },
    { names := ["--force"] }]
  | "add" => [
    { names := ["--x"], takes := .number },
    { names := ["--y"], takes := .number },
    { names := ["--area"], takes := .text }]
  | "generate" => choiceSwitches ++ [{ names := ["--out"], takes := .text }]
  | "watch" =>
    { names := ["--out"], takes := .text, required := true } :: choiceSwitches
      ++ [{ names := ["--debounce"], takes := .number }]
  | _ => []

def operandsOf : String → List String
  | "kinds" => []
  | "add" => [fileOperand, "kind"]
  | _ => [fileOperand]

/-- What a command takes. -/
def commandGrammar (name : String) : Grammar where
  program := programName ++ " " ++ name
  switches := helpSwitch :: switchesOf name
  operands := operandsOf name

/-- The choices that options make. -/
def choicesOf (p : Parsed) : Choices where
  format := (p.text? "--format").map Text.Raw.text
  noComments := p.has "--no-comments"

/-- The invocation of a command. -/
def invocationOf (name : String) (p : Parsed) : Invocation :=
  let file := Path.ofText (p.operand fileOperand)
  let out := (p.text? "--out").map Path.ofText
  match p.stoppedAt, name with
  | some _, _ => .help
  | none, "new" =>
    .new file (p.number "--width" 800) (p.number "--height" 600)
      ((p.text? "--panels").getD "").text (p.has "--force")
  | none, "add" =>
    .add file (p.operand "kind").text (p.number "--x" 0) (p.number "--y" 0)
      ((p.text? "--area").getD Area.free.tag).text
  | none, "kinds" => .kinds
  | none, "generate" => .generate file (choicesOf p) out
  | none, "preview" => .preview file
  | none, "check" => .check file
  | none, _ => .watch file (out.getD {}) (choicesOf p) (p.number "--debounce" Binary64.half)

/-- The invocation that a command and what stands behind it ask for, and what is left over. -/
def readCommand : List Text.Raw → Except UsageError (Invocation × List Text.Raw)
  | [] => .ok (.help, [])
  | name :: arguments =>
    if commandNames.contains name.text then
      ((commandGrammar name.text).read arguments).map fun p => (invocationOf name.text p, p.extras)
    else .error ⟨programName, .notAChoice "command" name commandNames⟩

/-- Is nothing read behind the invocation? -/
def Invocation.isFinal : Invocation → Bool
  | help => true
  | version => true
  | _ => false

/-- The request that an argument vector makes. -/
def Request.read (arguments : List Text.Raw) : Except UsageError Request := do
  let p ← programGrammar.read arguments
  let threshold := severityOf ((p.text? "--log-level").getD "").text
  match p.stoppedAt with
  | some "--version" => return ⟨threshold, .version⟩
  | some _ => return ⟨threshold, .help⟩
  | none =>
    let (invocation, extras) ← readCommand (p.command.getD [])
    if invocation.isFinal then return ⟨threshold, invocation⟩
    else match p.extras ++ extras with
      | [] => return ⟨threshold, invocation⟩
      | rest => .error ⟨programName, .unrecognized rest⟩

end Formwork.CommandLine

import Formwork.CommandLine.Invocation
import Formwork.Manifest
import Formwork.Session.Command
import Formwork.SettingsFile
import Formwork.Watcher

/-!
# Running commands

A command works on a `Terminal`: the files, what has been printed, and what has been said on the
side. It ends well or with a `Failure`. Some failures are no fault of the program but of the
system it runs on, or of arithmetic; these are not reported as a plain message
(`Failure.isReported`).

What the output takes and how deep a descent may go is up to the `Host`. A text that the output does
not take is not printed at all, and the command fails; what it has written by then stays. On the side
everything is taken, surrogates by their escapes.
-/

set_option autoImplicit false

namespace Formwork.CommandLine

open Text (Raw RawUnit)

/-- What a command finds in the system that it runs on, besides the files. -/
structure Host where
  stack : Stack := {}
  /-- Does the output take the unit? -/
  takes : RawUnit → Bool := fun _ => true
  takes_ascii : ∀ c : Char, c.toNat < 128 → takes (.char c) = true := by exact fun _ _ => rfl
  /-- What is said of a text that the output does not take. -/
  complaint : Raw → String := fun _ => ""

/-- Does the output take the text? -/
def Host.prints (host : Host) (s : Raw) : Bool := s.units.all host.takes

/-- What a command works on. -/
structure Terminal where
  files : FileTree := {}
  output : Raw := ""
  errors : String := ""
  threshold : Severity := .warning

/-- Why a command fails. -/
inductive Failure where
  | alreadyExists (path : Path)
  | document (e : DocumentError)
  | settings (e : SettingsFileError)
  | name (e : NameError)
  | notToggleable (name : String)
  | fault (e : Fault)
  | file (e : FileError)
  | noDirectory
  | number (e : Source.NumberFault)
  | unprintable (complaint : String)
  /-- What is to be printed has more levels than there is room for. -/
  | tooDeep

namespace Failure

def message : Failure → String
  | alreadyExists path => path.text ++ " already exists (use --force to overwrite)"
  | document e => e.message
  | settings e => e.message
  | name e => e.message
  | notToggleable given => "'" ++ given ++ "' is not a toggleable panel"
  | fault e => e.message
  | file e => e.message
  | noDirectory => WatchFault.noDirectory.message
  | number e => e.message
  | unprintable complaint => complaint
  | tooDeep => Stack.exhaustedText

/-- Does the program end with the message? -/
def isReported : Failure → Bool
  | settings (.settings .oversizedGrid) => false
  | settings (.settings .tooDeep) => false
  | settings (.unknown _) => false
  | settings .tooDeep => false
  | fault (.rounding .infinite) => false
  | fault .oversizedInteger => false
  | fault (.number .oversized) => false
  | number .oversized => false
  | file (.refused _ _) => false
  | noDirectory => false
  | tooDeep => false
  | _ => true

end Failure

/-- A command under way. -/
abbrev Console := ReaderT Host (ExceptT Failure (StateM Terminal))

/-- The directory of the settings that count for a file. -/
def settingsDirectory (home : Location) (file : Path) : Path := (file.resolve home).parent.path

namespace Console

/-- Prints a text. -/
def print (s : Raw) : Console Unit := do
  let host ← read
  if host.prints s then modify fun t => { t with output := t.output ++ s }
  else throw (.unprintable (host.complaint s))

/-- Prints a line. -/
def say (s : Raw) : Console Unit := print (s ++ "\n")

/-- Prints a line on the side. -/
def warn (s : String) : Console Unit := modify fun t => { t with errors := t.errors ++ s ++ "\n" }

/-- Shows a notice that is grave enough. -/
def notify (n : Notice) : Console Unit := do
  if (← get).threshold.rank ≤ n.severity.rank then warn n.line

def notifyAll (ns : List Notice) : Console Unit := ns.forM notify

/-- Goes on with a value, or fails. -/
def check {ε α : Type} (failure : ε → Failure) : Except ε α → Console α
  | .ok a => pure a
  | .error e => throw (failure e)

/-- Works on the files. -/
def onFiles (action : FileM Unit) : Console Unit := do
  let (r, files) := action.run.run (← get).files
  modify fun t => { t with files }
  check .file r

/-- Reads a design. -/
def loadProject (file : Path) : Console Project := do
  match Project.load (← get).files file with
  | .ok p => pure p
  | .error (.nameless flaw) => throw (.file (.nameless flaw))
  | .error (.document e) => do
    notifyAll e.notices
    throw (.document e)

/-- Writes a design. -/
def saveProject (project : Project) (file : Path) : Console Unit := do
  let (r, files) := project.save file (← get).files
  modify fun t => { t with files }
  match r with
  | .error (.nameless flaw) => throw (.file (.nameless flaw))
  | .error (.document e) => throw (.document e)
  | .ok () =>
    notify ⟨.info, "radbuilder.document",
      "Saved " ++ project.widgets.length.repr ++ " widget(s) to " ++ file.text⟩

/-- The settings that stand beside a file. -/
def settingsFor (file : Path) : Console Settings := do
  let files := (← get).files
  match file.wayFlaw? files.ground.home with
  | some flaw => throw (.file (.nameless flaw))
  | none =>
    let directory := settingsDirectory files.ground.home file
    check .settings (Settings.load (← read).stack files directory)

/-- The format and the comments that the options or else the settings ask for. -/
def generation (choices : Choices) (settings : Settings) : Console (Source.Format × Bool) := do
  let format ← match choices.format with
    | none => pure settings.format
    | some "" => pure settings.format
    | some f => check .name (Source.Format.ofName f)
  return (format, settings.comments && !choices.noComments)

/-- Generates a module and says so. -/
def generated (p : Project) (format : Source.Format) (comments : Bool) : Console String := do
  notify (p.generationNotice format)
  check .number (p.checkedGenerate format comments)

end Console

/-! ## Commands -/

/-- The panels that a list separated by commas names. -/
def panelsOf (raw : String) : Except Failure (List Panel) :=
  (((Text.split ',' raw).map Text.strip).filter (· ≠ "")).mapM fun name =>
    match Area.ofName name with
    | .error e => .error (.name e)
    | .ok area =>
      match area.panel? with
      | some panel => .ok panel
      | none => .error (.notToggleable name)

/-- How numbers are set out in messages: six significant digits at most. -/
def shortLayout : Layout where
  leastPositional := -4
  endPositional := 6
  keepsPoint := false
  exponentWidth := 2
  nanText := "nan"
  infinityText := "inf"

def shortText (x : Binary64) : String := shortLayout.roundedText 6 x

/-- How numbers are set out in a printed manifest. -/
def manifestLayout : Layout := { messageLayout with nanText := "NaN", infinityText := "Infinity" }

/-- A text filled on the right to a least width. -/
def padRight (width : Nat) (s : String) : String :=
  s ++ String.ofList (List.replicate (width - s.length) ' ')

/-- The line of a kind: its name and its size. -/
def kindLine (k : Kind) : String :=
  padRight 18 k.tag ++ " " ++ shortText k.defaultSize.x ++ "x" ++ shortText k.defaultSize.y

open Console

def runNew (file : Path) (canvas : Vec) (panels : String) (force : Bool) : Console Unit := do
  let found ← check .file ((← get).files.contains file)
  if found && !force then throw (.alreadyExists file)
  let chosen ← check id (panelsOf panels)
  let switched := chosen.foldl (fun ps panel => ps.set panel true) ({} : Panels)
  saveProject { canvas, panels := switched } file
  say ("Created " ++ file.raw)

/-- Says that a module is generated, where a widget has been added and that is wanted. -/
def noteGeneration (before : Project) (s : Session) : Console Unit := do
  if s.autoGenerate && s.project.widgets.length ≠ before.widgets.length then
    notify (s.project.generationNotice s.format)

/-- Shows a widget that has been added. -/
def showAdded (w : Widget) : Console Unit := do
  if isOverlong w.id then throw (.number .overlong)
  else say ("Added " ++ w.kind.tag ++ " #" ++ intText w.id ++ " at (" ++ shortText w.pos.x ++ ", "
    ++ shortText w.pos.y ++ ") in " ++ w.area.tag)

def runAdd (file : Path) (kind : String) (point : Vec) (area : String) : Console Unit := do
  let project ← loadProject file
  let settings ← settingsFor file
  let k ← check .name (Kind.ofName kind)
  let a ← check .name (Area.ofName area)
  let (placed, session) := (Session.start project settings).place k point a
  noteGeneration project session
  let w ← check .fault placed
  saveProject session.project file
  showAdded w

def runGenerate (file : Path) (choices : Choices) (out : Option Path) : Console Unit := do
  let settings ← settingsFor file
  let (format, comments) ← generation choices settings
  let source ← generated (← loadProject file) format comments
  match out with
  | none => print source
  | some path =>
    onFiles (FileM.writeInto path source)
    say ("Wrote " ++ format.displayName ++ " output to " ++ path.raw)

def runPreview (file : Path) : Console Unit := do
  let project ← loadProject file
  let manifest := (Manifest.ofProject project).toJson
  if (← read).stack.exhausts (.written manifest) then throw .tooDeep
  say (Json.render manifestLayout manifest)

def runCheck (file : Path) : Console Unit := do
  let project ← loadProject file
  say (file.raw ++ ": " ++ project.widgets.length.repr ++ " widget(s)")
  Area.drawOrder.forM fun a => do
    let count := (project.inArea a).length
    if count ≠ 0 then say ("  " ++ a.tag ++ ": " ++ count.repr)

/-- Takes over what a watcher leaves behind. -/
def watched {α : Type} (r : Watched α) : Console (α × Watcher) := do
  modify fun t => { t with files := r.files }
  notifyAll r.notices
  match r.answer with
  | .ok a => return (a, r.watcher)
  | .error (.nameless flaw) => throw (.file (.nameless flaw))
  | .error (.number e) => throw (.number e)
  | .error .noDirectory => throw .noDirectory

/-- Generates once and begins to watch. -/
def beginWatch (file out : Path) (choices : Choices) : Console Watcher := do
  let settings ← settingsFor file
  let (format, comments) ← generation choices settings
  let w : Watcher := { project := file, output := out, format, comments }
  let (done, w) ← watched (w.regenerate (← get).files)
  unless done do warn ("Initial generation failed: " ++ w.lastError.getD "")
  let (_, w) ← watched (w.start (← get).files)
  say ("Watching " ++ file.raw ++ " -> " ++ out.raw ++ " (Ctrl+C to stop)")
  return w

/-- Ends a watch. -/
def endWatch (w : Watcher) : Console Unit := do
  let _ ← watched (w.stop (← get).files)

/-- Watches, and is stopped before anything changes. -/
def runWatch (file out : Path) (choices : Choices) : Console Unit := do
  endWatch (← beginWatch file out choices)

def Invocation.run : Invocation → Console Unit
  | new file canvasWidth canvasHeight panels force =>
    runNew file ⟨canvasWidth, canvasHeight⟩ panels force
  | add file kind x y area => runAdd file kind ⟨x, y⟩ area
  | kinds => Kind.all.forM fun k => say (kindLine k)
  | generate file choices out => runGenerate file choices out
  | preview file => runPreview file
  | check file => runCheck file
  | watch file out choices _ => runWatch file out choices
  | help => say ("usage: " ++ programName ++ " [--log-level LEVEL] COMMAND ...")
  | version => say ("radbuilder " ++ Formwork.version)

/-- The paths that a command reads or writes. -/
def Invocation.paths (home : Location) : Invocation → List Path
  | new file .. => [file]
  | add file .. => [file, settingsOf file]
  | generate file _ out => [file, settingsOf file] ++ out.toList
  | preview file => [file]
  | check file => [file]
  | watch file out .. => [file, settingsOf file, out]
  | _ => []
where
  settingsOf (file : Path) : Path := (settingsDirectory home file).child settingsFileName

/-- How the program ends. -/
inductive Exit where
  | done
  | failed (f : Failure)
  | misused (e : UsageError)

/-- How a run of the program ends and what it leaves behind. -/
structure Ended where
  exit : Exit
  terminal : Terminal

/-- Runs the program on an argument vector. -/
def run (host : Host) (files : FileTree) (arguments : List Raw) : Ended :=
  match Request.read arguments with
  | .error e => ⟨.misused e, { files }⟩
  | .ok r =>
    match ((r.invocation.run.run host).run).run { files, threshold := r.threshold } with
    | (.ok (), t) => ⟨.done, t⟩
    | (.error f, t) => ⟨.failed f, t⟩

end Formwork.CommandLine

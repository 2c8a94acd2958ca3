import Formwork.Document.Store
import Formwork.Journal
import Formwork.Source.NumberFault

/-!
# The watcher

A watcher keeps a generated module in step with a document: it loads the document, generates the
module and writes it to a file, and remembers how that went. What stands in the way is recorded,
and the file is left as it was.

A `Handler` decides which changes of files matter. A change of the document calls for a new
module, unless the last one was called for less than the debounce interval ago; such a change is
dropped, not put off.
-/

set_option autoImplicit false

namespace Formwork

/-- Why no module is generated. -/
inductive RegenerationError where
  | document (e : DocumentError)
  | output (cause : FileError.Cause) (path : Path)

def RegenerationError.message : RegenerationError → String
  | document e => e.message
  | output cause path => (FileError.refused cause path).message

/-- What comes of one try to generate. -/
inductive Regeneration where
  | succeeded (project : Project)
  | failed (e : RegenerationError)
  /-- One of the paths names no file at all. -/
  | nameless (flaw : Text.Flaw)
  | number (e : Source.NumberFault)

/-- A document, the module made from it, and how making it went. -/
structure Watcher where
  project : Path
  output : Path
  format : Source.Format := .single
  comments : Bool := true
  lastError : Option String := none
  generations : Nat := 0
  running : Bool := false
  journal : Journal := {}

/-- What the watcher itself fails with. -/
inductive WatchFault where
  | nameless (flaw : Text.Flaw)
  | number (e : Source.NumberFault)
  | noDirectory

def WatchFault.message : WatchFault → String
  | nameless flaw => flaw.message
  | number e => e.message
  | noDirectory => "[Errno 2] No such file or directory"

/-- What a watcher answers, and what it leaves behind whether or not it fails. -/
structure Watched (α : Type) where
  answer : Except WatchFault α
  watcher : Watcher
  files : FileTree
  notices : List Notice := []

namespace Project

/-- What is noted when a design is generated. -/
def generationNotice (p : Project) (f : Source.Format) : Notice :=
  let counts : List (String × Json) :=
    Area.drawOrder.map fun a => (a.tag, .integer ((p.inArea a).length : Nat))
  ⟨.debug, "radbuilder.codegen",
    "Generating " ++ f.tag ++ " for " ++ p.widgets.length.repr ++ " widgets "
      ++ (Datum.ofJson (.object counts)).shown⟩

end Project

/-- What is noted when a document is not read. -/
def DocumentError.notices : DocumentError → List Notice
  | rejected r =>
    [⟨.warning, "radbuilder.document",
      "Rejected project document: " ++ r.issues.length.repr ++ " error(s)"⟩]
  | _ => []

namespace Watcher

/-- Loads, generates and writes once. -/
def attempt (w : Watcher) (files : FileTree) : Regeneration × FileTree × List Notice :=
  match Project.load files w.project with
  | .error (.nameless flaw) => (.nameless flaw, files, [])
  | .error (.document e) => (.failed (.document e), files, e.notices)
  | .ok p =>
    let noted := [p.generationNotice w.format]
    match p.checkedGenerate w.format w.comments with
    | .error e => (.number e, files, noted)
    | .ok source =>
      match (FileM.writeInto w.output source).run.run files with
      | (.ok (), files) => (.succeeded p, files, noted)
      | (.error (.nameless flaw), files) => (.nameless flaw, files, noted)
      | (.error (.refused cause path), files) => (.failed (.output cause path), files, noted)

/-- Whether a module has been generated yet. -/
def hasGenerated (w : Watcher) : Bool := 0 < w.generations

def notice (severity : Severity) (text : String) : Notice := ⟨severity, "radbuilder.watch", text⟩

/-- Journals an event and says so. -/
def report (w : Watcher) (level text : String) (details : List (String × Json)) :
    Watcher × Notice :=
  ({ w with journal := w.journal.append level text details }, .ofEvent level text details)

/-- Records that a module has been generated. -/
def succeed (w : Watcher) (p : Project) : Watcher × List Notice :=
  let details := [("path", Json.text w.output.text), ("widgets", .integer (p.widgets.length : Nat))]
  let done := { w with lastError := none, generations := w.generations + 1 }
  let (w, noted) := done.report "info" "regenerated" details
  let text := "Regenerated " ++ w.project.text ++ " -> " ++ w.output.text
  (w, [notice .info text, noted])

/-- Records that no module has been generated. -/
def fail (w : Watcher) (e : RegenerationError) : Watcher × List Notice :=
  let details := [("path", Json.text w.project.text), ("message", .text e.message)]
  let (w, noted) := { w with lastError := some e.message }.report "error" "regenerate_error" details
  let text := "Regeneration of " ++ w.project.text ++ " failed: " ++ e.message
  (w, [notice .warning text, noted])

/-- Generates the module once and records how that went. -/
def regenerate (w : Watcher) (files : FileTree) : Watched Bool :=
  match w.attempt files with
  | (.nameless flaw, files, before) => ⟨.error (.nameless flaw), w, files, before⟩
  | (.number e, files, before) => ⟨.error (.number e), w, files, before⟩
  | (.succeeded p, files, before) =>
    let (w, notices) := w.succeed p
    ⟨.ok true, w, files, before ++ notices⟩
  | (.failed e, files, before) =>
    let (w, notices) := w.fail e
    ⟨.ok false, w, files, before ++ notices⟩

/-- Begins to watch; nothing happens where the watcher is running. -/
def start (w : Watcher) (files : FileTree) : Watched Bool :=
  if w.running then ⟨.ok false, w, files, []⟩
  else match w.project.wayFlaw? files.ground.home with
  | some flaw => ⟨.error (.nameless flaw), w, files, []⟩
  | none =>
    if (files.entry? (files.place w.project).parent).isNone then
      ⟨.error .noDirectory, w, files, []⟩
    else
      let (w, noted) := { w with running := true }.report "info" "watcher_started"
        [("path", .text w.project.text)]
      ⟨.ok true, w, files, [noted]⟩

/-- Stops watching. -/
def stop (w : Watcher) (files : FileTree) : Watched Unit :=
  if w.running then
    let (w, noted) := { w with running := false }.report "info" "watcher_stopped"
      [("path", .text w.project.text)]
    ⟨.ok (), w, files, [noted]⟩
  else ⟨.ok (), w, files, []⟩

end Watcher

/-- A change of a file: where it is, where it went, and when that was seen. -/
structure FileEvent where
  source : Text.Raw
  destination : Text.Raw := ""
  kind : String := "modified"
  isDirectory : Bool := false
  time : Binary64

/-- What decides whether a change matters. -/
structure Handler where
  target : Location
  /-- The working directory, where the paths of changes begin. -/
  home : Location := {}
  debounce : Binary64
  lastRun : Binary64 := 0

namespace Handler

/-- The handler of a watcher; there is none for a path that names no file. -/
def ofWatcher (home : Location) (w : Watcher) (debounce : Binary64) : Except WatchFault Handler :=
  match w.project.wayFlaw? home with
  | some flaw => .error (.nameless flaw)
  | none => .ok { target := w.project.resolve home, home, debounce }

/-- Is one of the paths that of the document? An empty path is none. -/
def touches (h : Handler) : List Text.Raw → Except WatchFault Bool
  | [] => .ok false
  | s :: ss =>
    let path := Path.ofText s
    if s = "" then h.touches ss
    else match path.wayFlaw? h.home with
    | some flaw => .error (.nameless flaw)
    | none => if path.resolve h.home = h.target then .ok true else h.touches ss

/-- Is an event too close to the last one that mattered? -/
def isEarly (h : Handler) (time : Binary64) : Bool := Binary64.below (time - h.lastRun) h.debounce

/-- Generates the module anew if an event calls for it. -/
def handle (h : Handler) (e : FileEvent) (w : Watcher) (files : FileTree) :
    Watched Unit × Handler :=
  if e.isDirectory then (⟨.ok (), w, files, []⟩, h)
  else match h.touches [e.source, e.destination] with
    | .error fault => (⟨.error fault, w, files, []⟩, h)
    | .ok false => (⟨.ok (), w, files, []⟩, h)
    | .ok true =>
      if h.isEarly e.time then (⟨.ok (), w, files, []⟩, h)
      else
        let (w, noted) := w.report "info" "watcher_event" [("event_type", .text e.kind)]
        let r := w.regenerate files
        let done : Watched Unit :=
          ⟨r.answer.map fun _ => (), r.watcher, r.files, noted :: r.notices⟩
        (done, { h with lastRun := e.time })

end Handler

end Formwork

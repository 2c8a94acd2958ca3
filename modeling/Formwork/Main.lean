import Formwork.CommandLine.Run

/-!
# The program

Reads the files that the arguments name, runs the command on them, and writes what has changed.
A watch goes on until it is interrupted.
-/

set_option autoImplicit false

namespace Formwork.CommandLine

/-- The empty tree around the working directory. -/
def emptyTree : IO FileTree := do
  let home := Path.ofText (← IO.currentDir).toString
  return { ground := { home := home.resolve {} } }

/-- What lies on the disk at a place. -/
def diskEntry? (l : Location) : IO (Option FileEntry) := do
  let name := (← IO.currentDir) / l.path.text
  if ← name.isDir then return some .directory
  else if ← name.pathExists then return some (.file (← IO.FS.readBinFile name))
  else return none

/-- The tree with what lies on the disk on the way that a path leads. -/
def survey (files : FileTree) (path : Path) : IO FileTree := do
  if !path.isNameable then return files
  let mut tree := files
  for n in List.range path.segments.length do
    let l := tree.place { path with segments := path.segments.take (n + 1) }
    match ← diskEntry? l with
    | none => return tree
    | some e => unless tree.isAbove l do tree := tree.put l e
  return tree

/-- Writes to the disk what has changed. -/
def commit (before after : FileTree) : IO Unit := do
  for (l, e) in after.entries do
    let name := (← IO.currentDir) / l.path.text
    match e, before.entry? l with
    | .directory, some .directory => pure ()
    | .directory, _ => IO.FS.createDir name
    | .file bytes, some (.file old) => unless bytes == old do IO.FS.writeBinFile name bytes
    | .file bytes, _ => IO.FS.writeBinFile name bytes

/-- Shows what a command has printed. -/
def flush (t : Terminal) : IO Unit := do
  IO.print t.output.text
  (← IO.getStdout).flush
  IO.eprint t.errors

/-- Does a step of a command on the disk. -/
def onDisk {α : Type} (paths : List Path) (threshold : Severity) (step : Console α) :
    IO (Except Failure α) := do
  let files ← paths.foldlM survey (← emptyTree)
  let (r, t) := ((step.run {}).run).run { files, threshold }
  commit files t.files
  flush t
  return r

/-- Generates anew whenever the document has changed. -/
partial def keepWatching (paths : List Path) (threshold : Severity) (h : Handler) (w : Watcher)
    (seen : Option ByteArray) : IO (Except Failure Unit) := do
  IO.sleep 500
  let now := (← survey (← emptyTree) w.project).read w.project |>.toOption
  if now == seen then keepWatching paths threshold h w seen
  else
    let time := Binary64.ofNat (← IO.monoMsNow) / 1000
    let event : FileEvent := { source := w.project.raw, time }
    let step : Console (Handler × Watcher) := do
      let (r, h) := h.handle event w (← get).files
      return (h, (← watched r).2)
    match ← onDisk paths threshold step with
    | .error e => return .error e
    | .ok (h, w) => keepWatching paths threshold h w now

/-- Runs an invocation on the disk. -/
def runOnDisk (r : Request) : IO (Except Failure Unit) := do
  let home := (← emptyTree).ground.home
  let paths := r.invocation.paths home
  match r.invocation with
  | .watch file out choices debounce =>
    match ← onDisk paths r.threshold (beginWatch file out choices) with
    | .error e => return .error e
    | .ok w =>
      match Handler.ofWatcher home w debounce with
      | .error _ => return .error (.file (.nameless file.flaw))
      | .ok h =>
        let seen := (← survey (← emptyTree) file).read file |>.toOption
        keepWatching paths r.threshold h w seen
  | invocation => onDisk paths r.threshold invocation.run

end Formwork.CommandLine

open Formwork.CommandLine in
def main (arguments : List String) : IO UInt32 := do
  match Request.read (arguments.map Formwork.Text.Raw.ofString) with
  | .error e =>
    IO.eprintln e.message
    return 2
  | .ok r =>
    match ← runOnDisk r with
    | .error f =>
      IO.eprintln f.message
      return 1
    | .ok () => return 0

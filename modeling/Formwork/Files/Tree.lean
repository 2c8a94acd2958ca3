import Formwork.Files.Path
import Formwork.Text.Utf8

/-!
# A tree of files

A `FileTree` holds files and directories. The working directory and those above it exist in any case
and can be written to as well.

A path is followed segment by segment: each but the last must be a directory that exists. The system
may bar a step, whatever lies behind it, and refuse a path that is too long: its `Ground` says when.
What goes wrong is a `FileError`, which names the path that was asked for.

Directories that were made before a failure stay, so the operations that write answer the tree
they leave behind along with their outcome.
-/

set_option autoImplicit false

namespace Formwork

/-- What lies at a place. -/
inductive FileEntry where
  | file (bytes : ByteArray)
  | directory

/-- Why a step is not made. -/
inductive Bar where
  | tooLong
  | denied
  deriving DecidableEq

/-- What a system says of paths, whatever the files. -/
structure Ground where
  /-- The working directory. -/
  home : Location := {}
  /-- Is the path longer than any may be? -/
  isTooLong : Path → Bool := fun _ => false
  /-- What keeps a segment from being looked up in a directory. -/
  bar? : Location → Text.Raw → Option Bar := fun _ _ => none
  /-- A path is not longer than one that goes further. -/
  isTooLong_parent : ∀ p, isTooLong p = false → isTooLong p.parent = false := by exact fun _ h => h

/-- Files and directories by place. -/
structure FileTree where
  entries : List (Location × FileEntry) := []
  ground : Ground := {}

/-- Why a file cannot be used. -/
inductive FileError.Cause where
  | missing
  | exists
  | notDirectory
  | isDirectory
  | barred (bar : Bar)
  deriving DecidableEq

/-- What went wrong with a path. -/
inductive FileError where
  | refused (cause : FileError.Cause) (path : Path)
  | nameless (flaw : Text.Flaw)

namespace FileError

/-- The number that stands for a cause. -/
def Cause.number : Cause → String
  | missing => "2"
  | .exists => "17"
  | notDirectory => "20"
  | isDirectory => "21"
  | barred .tooLong => "36"
  | barred .denied => "13"

def Cause.text : Cause → String
  | missing => "No such file or directory"
  | .exists => "File exists"
  | notDirectory => "Not a directory"
  | isDirectory => "Is a directory"
  | barred .tooLong => "File name too long"
  | barred .denied => "Permission denied"

def message : FileError → String
  | refused cause path =>
    "[Errno " ++ cause.number ++ "] " ++ cause.text ++ ": " ++ path.raw.quoted
  | nameless flaw => flaw.message

end FileError

/-- Why a file cannot be read as text. -/
inductive ReadError where
  | file (e : FileError)
  | encoding (f : Text.Utf8.Fault)

def ReadError.message : ReadError → String
  | file e => e.message
  | encoding f => f.message

/-- An operation on files: it leaves a tree behind whether or not it succeeds. -/
abbrev FileM := ExceptT FileError (StateM FileTree)

namespace FileTree

/-- Is the place the working directory, or does it lie above it? -/
def isAbove (t : FileTree) (l : Location) : Bool :=
  l.segments.isPrefixOf t.ground.home.segments

/-- What lies at a place. -/
def entry? (t : FileTree) (l : Location) : Option FileEntry :=
  if t.isAbove l then some .directory else (t.entries.find? fun e => e.1 == l).map Prod.snd

/-- The place that a path names when going up cancels any segment. -/
def place (t : FileTree) (p : Path) : Location := p.resolve t.ground.home

/-- Puts something at a place, instead of what lies there. -/
def put (t : FileTree) (l : Location) (e : FileEntry) : FileTree :=
  { t with entries := t.entries.filter (fun old => old.1 != l) ++ [(l, e)] }

/-- Puts something at a place and directories on the way to it where nothing lies. -/
def plant (t : FileTree) (l : Location) (e : FileEntry) : FileTree :=
  let made := (List.range l.segments.length).foldl
    (fun t n =>
      let above : Location := ⟨l.segments.take n⟩
      if (t.entry? above).isSome then t else t.put above .directory) t
  made.put l e

/-- The files below the working directory, with the ways to them. -/
def files (t : FileTree) : List (Path × ByteArray) :=
  let home := t.ground.home.segments
  t.entries.filterMap fun
    | (l, .file bytes) =>
      if home.isPrefixOf l.segments then some (⟨l.segments.drop home.length, .home⟩, bytes)
      else none
    | (_, .directory) => none

/-- The place that one segment leads to, unless the system bars the step. -/
def step (t : FileTree) (here : Location) (s : Text.Raw) : Except FileError.Cause Location :=
  match t.ground.bar? here s with
  | some bar => .error (.barred bar)
  | none => .ok (here.enter s)

/-- The place where a way ends that starts in the directory `here`. -/
def follow (t : FileTree) (here : Location) : List Text.Raw → Except FileError.Cause Location
  | [] => .ok here
  | [s] => t.step here s
  | s :: rest => do
    let next ← t.step here s
    match t.entry? next with
    | none => .error .missing
    | some (.file _) => .error .notDirectory
    | some .directory => t.follow next rest

/-- The place that a path leads to. -/
def locate (t : FileTree) (p : Path) : Except FileError Location :=
  if !p.isNameable then .error (.nameless p.flaw)
  else if t.ground.isTooLong p then .error (.refused (.barred .tooLong) p)
  else (t.follow (p.origin t.ground.home) p.segments).mapError fun c => .refused c p

/-- What lies where a path leads. -/
def lookup? (t : FileTree) (p : Path) : Option FileEntry :=
  match t.locate p with
  | .ok l => t.entry? l
  | .error _ => none

/-- Does something lie where the path leads? Where the system does not let one look, it is not
known. -/
def contains (t : FileTree) (p : Path) : Except FileError Bool :=
  match t.locate p with
  | .ok l => .ok (t.entry? l).isSome
  | .error (.refused (.barred bar) q) => .error (.refused (.barred bar) q)
  | .error _ => .ok false

/-- Does a directory lie where the path leads? -/
def isDirectory (t : FileTree) (p : Path) : Bool :=
  match t.lookup? p with
  | some .directory => true
  | _ => false

/-- The bytes of a file. -/
def read (t : FileTree) (p : Path) : Except FileError ByteArray := do
  let l ← t.locate p
  match t.entry? l with
  | none => .error (.refused .missing p)
  | some .directory => .error (.refused .isDirectory p)
  | some (.file bytes) => .ok bytes

/-- The text of a file, a line feed at the end of every line. -/
def readText (t : FileTree) (p : Path) : Except ReadError String :=
  match t.read p with
  | .error e => .error (.file e)
  | .ok bytes =>
    match Text.Utf8.decode bytes with
    | .error f => .error (.encoding f)
    | .ok s => .ok (Text.unifyLines s)

/-- The tree after a file has been written. -/
def write (t : FileTree) (p : Path) (bytes : ByteArray) : Except FileError FileTree := do
  let l ← t.locate p
  match t.entry? l with
  | some .directory => .error (.refused .isDirectory p)
  | _ => .ok (t.put l (.file bytes))

/-- The tree after a directory has been made. -/
def makeDirectory (t : FileTree) (p : Path) : Except FileError FileTree := do
  let l ← t.locate p
  match t.entry? l with
  | none => .ok (t.put l .directory)
  | some _ => .error (.refused .exists p)

end FileTree

namespace FileM

/-- Does one step that leaves the tree as it is when it fails. -/
def step (change : FileTree → Except FileError FileTree) : FileM Unit := do
  match change (← get) with
  | .ok t => set t
  | .error e => throw e

/-- Writes a text to a file. -/
def writeText (p : Path) (s : String) : FileM Unit := step fun t => t.write p s.toUTF8

/-- Accepts a failure to make a directory where there is one. To look may fail as well, but then it
fails as making the directory has. -/
def orDirectory (p : Path) (e : FileError) : FileM Unit := do
  unless (← get).isDirectory p do throw e

/-- Makes a directory unless it is there. -/
def ensureDirectory (p : Path) : FileM Unit := do
  match (← get).makeDirectory p with
  | .ok t => set t
  | .error e => orDirectory p e

/-- Makes a directory and those that lead to it, unless they are there. -/
def ensureDirectories (p : Path) : FileM Unit := do
  match (← get).makeDirectory p with
  | .ok t => set t
  | .error (.refused .missing q) =>
    if h : p.segments = [] then throw (.refused .missing q)
    else
      have : p.segments.dropLast.length < p.segments.length := by
        have := List.length_pos_iff.2 h
        rw [List.length_dropLast]
        omega
      ensureDirectories p.parent
      ensureDirectory p
  | .error e => orDirectory p e
termination_by p.segments.length

/-- Writes a text to a file. Its directory is made, and those that lead to it; what lies there
must be a directory. -/
def writeInto (p : Path) (s : String) : FileM Unit := do
  ensureDirectories p.parent
  writeText p s

/-- Writes a text to a file. Its directory is made, and those that lead to it, unless something
lies there. -/
def writeBeside (p : Path) (s : String) : FileM Unit := do
  match (← get).contains p.parent with
  | .error e => throw e
  | .ok true => writeText p s
  | .ok false => writeInto p s

end FileM

end Formwork

import Formwork.Session.Basic

/-!
# Documents of a session

A design comes into a session from a file or a text and goes to a file. A document that is
refused leaves the session as it was and is noted; one that is accepted replaces the design and
clears the selection. The counter of ids goes on, above the ids of the new design.
-/

set_option autoImplicit false

namespace Formwork.Session

/-- Puts another design into the session. -/
def replace (s : Session) (project : Project) : Session :=
  { s with project, selected := [], nextId := max s.nextId (project.maxId + 1) }

/-- Begins an empty design. -/
def newProject (s : Session) : Session :=
  { s.replace {} with currentFile := none, generated := "" }.note "New project"

/-- Notes that something failed. -/
def fail (s : Session) (what : String) (reason : String) : Session :=
  s.note (what ++ " failed: " ++ reason) "error"

/-- Reads the design from a file. -/
def load (s : Session) (files : FileTree) (path : Text.Raw) : Outcome Bool :=
  match Project.load files (.ofText path) with
  | .error (.nameless flaw) => (.error (.nameless flaw), s)
  | .error (.document e) => (.ok false, s.fail "Load" e.message)
  | .ok project =>
    let loaded := { s.replace project with currentFile := some (.ofText path) }
    (loaded.note ("Loaded " ++ path.text)).touched true

/-- Writes the design to a file: to the one it is given, or to that of the session. -/
def save (s : Session) (files : FileTree) (path : Option Text.Raw) : Outcome Bool × FileTree :=
  match path.map Path.ofText <|> s.currentFile with
  | none => ((.ok false, s.fail "Save" "no file name"), files)
  | some target =>
    match s.project.save target files with
    | (.error (.nameless flaw), files) => ((.error (.nameless flaw), s), files)
    | (.error (.document e), files) => ((.ok false, s.fail "Save" e.message), files)
    | (.ok (), files) =>
      ((.ok true, { s with currentFile := some target }.note ("Saved to " ++ target.text)), files)

/-- The design as a document. -/
def exportText (s : Session) : String := s.project.encode

/-- Reads the design from a text. -/
def importText (s : Session) (text : String) : Outcome Bool :=
  match Project.ofText text with
  | .error e => (.ok false, s.fail "Import" e.message)
  | .ok project =>
    let note := "Imported " ++ project.widgets.length.repr ++ " widget(s)"
    ((s.replace project).note note).touched true

end Formwork.Session

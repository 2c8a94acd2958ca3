import Formwork.Document.Decode
import Formwork.Document.Encode
import Formwork.Files.Tree

/-!
# Documents in files

A design is read from a file and written to one. What stands in the way is a `DocumentError`,
except for a path that names no file at all: `StoreError.nameless` is the caller's mistake and
no statement about a document.
-/

set_option autoImplicit false

namespace Formwork

/-- Why a document is not read or written. -/
inductive DocumentError where
  | unreadable (e : ReadError) (path : Path)
  | unwritable (e : FileError) (path : Path)
  | rejected (r : Document.Rejection)

def DocumentError.message : DocumentError → String
  | unreadable e path => "Cannot read project: " ++ e.message ++ " (" ++ path.text ++ ")"
  | unwritable e path => "Cannot write project: " ++ e.message ++ " (" ++ path.text ++ ")"
  | rejected r => r.message

/-- What goes wrong with a file of a document. -/
inductive StoreError where
  | document (e : DocumentError)
  | nameless (flaw : Text.Flaw)

def StoreError.message : StoreError → String
  | document e => e.message
  | nameless flaw => flaw.message

namespace Project

/-- Reads a design from a text. -/
def ofText (text : String) : Except DocumentError Project :=
  match decode text with
  | .ok project => .ok project
  | .rejected r => .error (.rejected r)

/-- Reads a design from a file. -/
def load (files : FileTree) (path : Path) : Except StoreError Project :=
  match files.readText path with
  | .error (.file (.nameless flaw)) => .error (.nameless flaw)
  | .error e => .error (.document (.unreadable e path))
  | .ok text => (ofText text).mapError .document

/-- Writes a design to a file. -/
def save (project : Project) (path : Path) (files : FileTree) :
    Except StoreError Unit × FileTree :=
  match (FileM.writeBeside path project.encode).run.run files with
  | (.ok (), files) => (.ok (), files)
  | (.error (.nameless flaw), files) => (.error (.nameless flaw), files)
  | (.error e, files) => (.error (.document (.unwritable e path)), files)

end Project

end Formwork

import Formwork.Proofs.Session.Ids
import Formwork.Proofs.Unreported

/-!
# All or nothing

A document command either does what it says or does nothing but say why not. An import or a load
that fails, for whatever reason and however deep in the file, leaves the session as it was, with one
error more in its journal; one that succeeds puts the whole design into the session, and a save
changes the file that goes with the design (`documents_settle`).
-/

set_option autoImplicit false

namespace Formwork

namespace Session

/-- The session holds another design, with nothing selected and the counter above its ids, and a
note in its journal. Its module is generated where that is wanted. -/
structure Holds (s : Session) (p : Project) (file : Option Path) (s' : Session) : Prop where
  project : s'.project = p
  selected : s'.selected = []
  nextId : s'.nextId = max s.nextId (p.maxId + 1)
  clipboard : s'.clipboard = s.clipboard
  currentFile : s'.currentFile = file
  journal : ∃ text, s'.journal = s.journal.append "info" text
  generated : s'.generated =
    if s.autoGenerate && !p.widgets.isEmpty then p.generate s.format s.comments else s.generated

end Session

end Formwork

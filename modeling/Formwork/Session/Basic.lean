import Formwork.Design.Catalogue
import Formwork.Design.Edit
import Formwork.Design.Grid
import Formwork.Document.Store
import Formwork.Journal
import Formwork.Settings
import Formwork.Source.NumberFault

/-!
# Design sessions

A session owns one design and what an editor keeps around it: the selection, the clipboard, the
next free id, the file, the journal of what was done and the text generated last.

Ids are given out by a counter that never goes back, so no id is used twice in a session. The
selection is a list of ids in the order in which they were selected; an id that no widget has any
more is passed over.
-/

set_option autoImplicit false

namespace Formwork

/-- Why a command fails. What it had done before stays done. -/
inductive Fault where
  | rounding (e : Binary64.RoundingError)
  | oversizedInteger
  | noSuchWidget (id : Int)
  | noItems (kind : Kind)
  | name (e : NameError)
  | number (e : Source.NumberFault)
  | nameless (flaw : Text.Flaw)

def Fault.message : Fault → String
  | rounding .nan => "cannot convert float NaN to integer"
  | rounding .infinite => "cannot convert float infinity to integer"
  | oversizedInteger => "int too large to convert to float"
  | noSuchWidget id => "No widget with id " ++ intText id
  | noItems kind => kind.tag ++ " widgets have no item list"
  | name e => e.message
  | number e => e.message
  | nameless flaw => flaw.message

/-- A design being edited. -/
structure Session where
  project : Project := {}
  selected : List Int := []
  nextId : Int := 1
  clipboard : Option Widget := none
  currentFile : Option Path := none
  journal : Journal := { capacity := some 200 }
  generated : String := ""
  gridSize : Binary64 := 1
  format : Source.Format := .single
  comments : Bool := true
  autoGenerate : Bool := false

/-- What a command answers, and the session it leaves behind whether or not it fails. -/
abbrev Outcome (α : Type) := Except Fault α × Session

namespace Session

/-- A session on a design. -/
def start (project : Project) (settings : Settings) : Session where
  project := project
  nextId := project.maxId + 1
  gridSize := settings.gridSize
  format := settings.format
  comments := settings.comments
  autoGenerate := settings.autoGenerate

/-- Notes what was done. -/
def note (s : Session) (text : String) (level : String := "info") : Session :=
  { s with journal := s.journal.append level text }

/-- What was noted last. -/
def status (s : Session) : Option String := s.journal.latest?.map Event.text

/-- Generates the module of the design. -/
def generate (s : Session) : Outcome Unit :=
  match s.project.checkedGenerate s.format s.comments with
  | .error e => (.error (.number e), s)
  | .ok text => (.ok (), { s with generated := text })

/-- Generates the module after a change, where that is wanted and there is something to draw. -/
def touch (s : Session) : Outcome Unit :=
  if s.autoGenerate && !s.project.widgets.isEmpty then s.generate else (.ok (), s)

/-- What a command answers that has changed the session, unless generating the module fails. The
change stays in any case. -/
def touched {α : Type} (s : Session) (answer : α) : Outcome α :=
  (s.touch.1.map fun _ => answer, s.touch.2)

/-- A point moved to the session's grid. -/
def snap (s : Session) (p : Vec) : Except Fault Vec :=
  (snapToGrid s.gridSize p).mapError .rounding

/-- The widget with an id. An id that no message shows is missing all the same. -/
def widget (s : Session) (id : Int) : Except Fault Widget :=
  match s.project.find? id with
  | some w => .ok w
  | none => .error (if isOverlong id then .number .overlong else .noSuchWidget id)

/-- Changes the widget with an id. -/
def update (s : Session) (id : Int) (change : Widget → Widget) : Session :=
  { s with project := s.project.update id change }

/-- Changes the widgets with the given ids, one after the other. -/
def updateEach (s : Session) (ids : List Int) (change : Widget → Widget) : Session :=
  ids.foldl (fun s id => s.update id change) s

/-! ## Selection -/

def isSelected (s : Session) (id : Int) : Bool := s.selected.contains id

def selectSingle (s : Session) (id : Int) : Session := { s with selected := [id] }

/-- Selects an id, or takes it out of the selection. -/
def toggleSelection (s : Session) (id : Int) : Session :=
  { s with selected := if s.isSelected id then s.selected.erase id else s.selected ++ [id] }

def addToSelection (s : Session) (id : Int) : Session :=
  { s with selected := if s.isSelected id then s.selected else s.selected ++ [id] }

def clearSelection (s : Session) : Session := { s with selected := [] }

def selectAll (s : Session) : Session :=
  { s with selected := s.project.widgets.map Widget.id }

/-- The selected widgets in the order of selection; stale ids are passed over. -/
def selectedWidgets (s : Session) : List Widget := s.selected.filterMap s.project.find?

/-- The widget that was selected first. -/
def primary (s : Session) : Option Widget := s.selectedWidgets.head?

/-- Two numbers, the smaller one first. -/
def ordered (a b : Binary64) : Binary64 × Binary64 :=
  if Binary64.below b a then (b, a) else (a, b)

/-- Do the bounds of a widget and the rectangle between two corners meet? -/
def meets (a b : Vec) (w : Widget) : Bool :=
  let (left, right) := ordered a.x b.x
  let (top, bottom) := ordered a.y b.y
  Binary64.atMost w.pos.x right && Binary64.atMost left (w.pos.x + w.size.x)
    && Binary64.atMost w.pos.y bottom && Binary64.atMost top (w.pos.y + w.size.y)

/-- The widgets, of one area or of all, that a rectangle touches. -/
def widgetsInRect (s : Session) (a b : Vec) (area : Option Area) : List Widget :=
  s.project.widgets.filter fun w => (area.all fun x => w.area == x) && meets a b w

end Session

end Formwork

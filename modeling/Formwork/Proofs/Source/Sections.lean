import Formwork.Source.Module

/-!
# The sections of a module

A module is put together from sections: imports, helpers, the state record, and the panels and the
canvas with the widgets in them. What generated code is like is known section by section, and put
together in one way. Most of them are the same for every design but for a number or two: `Stmt.Frame`
and `Stmt.Extras` say that these have a property.

`Stmt.Lifts L C R` says that a property `R` of statements goes up from a property `L` of lines and a
property `C` of comments, through lists and blocks. A section has such a property where its parts
have it, and so has the body of the module (`Stmt.Lifts.moduleBody`).
-/

set_option autoImplicit false

namespace Formwork.Source

/-! ## Parts -/

/-- The code of a widget without the comment that names it. -/
def dressed (w : Widget) : List Stmt :=
  placement w ++ whereDisabled w.props (.line ["imgui.begin_disabled()"])
    ++ body w.id w.size w.pos w.props.control
    ++ whereDisabled w.props (.line ["imgui.end_disabled()"])
    ++ tooltip w.props.tooltip

theorem block_eq (w : Widget) : block w = header w :: dressed w := rfl

section Fields

variable {p : Project} {R : Field → Prop}

/-- A field is the switch of a panel, or what a widget of the design keeps. -/
theorem forall_mem_fields (switch : ∀ panel, R (panelField p.panels panel))
    (own : ∀ w ∈ p.widgets, ∀ stem hint initial,
      stateOf w.props.control = some (stem, hint, initial) → R ⟨.widget stem w.id, hint, initial⟩) :
    ∀ f ∈ fields p, R f := by
  intro f listed
  rcases List.mem_append.1 listed with panels | widgets
  · obtain ⟨panel, _, rfl⟩ := List.mem_map.1 panels
    exact switch panel
  · obtain ⟨area, _, inside⟩ := List.mem_flatMap.1 widgets
    obtain ⟨w, mem, found⟩ := List.mem_filterMap.1 inside
    obtain ⟨⟨stem, hint, initial⟩, state, rfl⟩ := Option.map_eq_some_iff.1 found
    exact own w (List.mem_filter.1 mem).1 stem hint initial state

/-- The type of a field, and the pieces of what the field is set to at first. -/
inductive Begun : String → Line → Prop where
  | flag (b : Bool) : Begun "bool" [.flag b]
  | integer (n : Int) : Begun "int" [.integer n]
  | number (x : Binary64) : Begun "float" [.number x 3]
  | text (s : String) : Begun "str" [.text s]
  | channels (ns : List Int) : Begun "list[float]" [channelsText ns]
  | date (d : Day) : Begun "datetime.date" (stateOf.date d)

theorem begun_stateOf {c : Control} {stem : Stem} {hint : String} {initial : Line}
    (h : stateOf c = some (stem, hint, initial)) : Begun hint initial := by
  cases c <;> cases h <;> constructor

theorem begun_of_mem_fields : ∀ f ∈ fields p, Begun f.annotation f.initial :=
  forall_mem_fields (fun _ => .flag _) fun _ _ _ _ _ state => begun_stateOf state

end Fields

section Drawing

variable (p : Project) (panel : Panel) (pos size : String)

/-- What comes before the widgets of a panel. -/
def panelOpening : List Stmt := [
  .line [.code (panelName panel), " = ", .number (panelExtent p panel) 1],
  .line ["imgui.set_next_window_pos(", .code pos, ")"],
  .line ["imgui.set_next_window_size(", .code size, ")"],
  .line ["imgui.begin(", .text ("##panel_" ++ panelName panel), ", None, PANEL_FLAGS)"],
  .line ["origin = imgui.get_cursor_screen_pos()"]]

/-- What comes after the widgets of a panel. -/
def panelClosing : List Stmt := [.line ["imgui.end()"]]

theorem panelCode_eq : panelCode p panel pos size = [
    .comment (panel.area.tag ++ " panel"),
    .block ["if state.", .slot (.panel panel)]
      (panelOpening p panel pos size ++ blocks (p.inArea panel.area) ++ panelClosing)] := rfl

/-- What comes before the widgets of the canvas. -/
def canvasOpening : List Stmt := [
  .comment "Central canvas",
  .line ["imgui.set_next_window_pos(imgui.ImVec2(work_pos.x + left, work_pos.y + top))"],
  .line ["imgui.set_next_window_size(imgui.ImVec2(work_size.x - left - right, ",
    "work_size.y - top - bottom))"],
  .line ["imgui.begin(", .text "##canvas",
    ", None, PANEL_FLAGS | imgui.WindowFlags_.horizontal_scrollbar)"],
  .line ["origin = imgui.get_cursor_screen_pos()"]]

/-- What comes after the widgets of the canvas. -/
def canvasClosing : List Stmt := [
  .line ["imgui.set_cursor_screen_pos(origin)"],
  .line ["imgui.dummy(", .vector ⟨usable p.canvas.x 800, usable p.canvas.y 600⟩, ")"],
  .line ["imgui.end()"]]

theorem canvasCode_eq : canvasCode p =
    canvasOpening ++ blocks (p.inArea .center) ++ blocks (p.inArea .free) ++ canvasClosing p := rfl

/-- What comes before the panels. -/
def uiOpening : List Stmt := [
  .line ["viewport = imgui.get_main_viewport()"],
  .line ["work_pos = viewport.work_pos"],
  .line ["work_size = viewport.work_size"],
  .line ["top = bottom = left = right = 0.0"]]

/-- Where a panel is. -/
def panelPos : Panel → String
  | .top => "work_pos"
  | .bottom => "imgui.ImVec2(work_pos.x, work_pos.y + work_size.y - bottom)"
  | .left => "imgui.ImVec2(work_pos.x, work_pos.y + top)"
  | .right => "imgui.ImVec2(work_pos.x + work_size.x - right, work_pos.y + top)"

/-- How large a panel is. -/
def panelSize : Panel → String
  | .top => "imgui.ImVec2(work_size.x, top)"
  | .bottom => "imgui.ImVec2(work_size.x, bottom)"
  | .left => "imgui.ImVec2(left, work_size.y - top - bottom)"
  | .right => "imgui.ImVec2(right, work_size.y - top - bottom)"

theorem uiFunction_eq : uiFunction p = [
    .block ["def generated_ui(state: GeneratedState) -> None"]
      (uiOpening ++ (Panel.all.flatMap fun q => panelCode p q (panelPos q) (panelSize q))
        ++ canvasCode p)] := by
  simp only [uiFunction, uiOpening, Panel.all, List.flatMap_cons, List.flatMap_nil,
    List.append_nil, List.append_assoc, panelPos, panelSize]

end Drawing

section Imports

/-- The imports for dates. -/
def dateImports : List Stmt := [.line ["import calendar"], .line ["import datetime"]]

/-- The import for trees. -/
def treeImports : List Stmt := [.line ["from dataclasses import dataclass, field"]]

variable (p : Project) (f : Format)

/-- The import of the drawing library. -/
def libraryImport : Stmt :=
  .line ["from imgui_bundle import ", .code (", ".intercalate (libraryModules p f))]

theorem imports_sections : imports p f =
    spaced ((if uses p .datePicker then dateImports else []) ++
      if uses p .tree then treeImports else []) ++ [libraryImport p f] := rfl

end Imports

/-! ## From lines to sections -/

namespace Stmt

/-- Is it a statement, and not a comment or a blank line? -/
def isCode : Stmt → Bool
  | line _ => true
  | block .. => true
  | wrapped .. => true
  | comment _ => false
  | blank => false

/-- A property `R` of statements that goes up from a property `L` of lines and a property `C` of
comments. A block needs a statement in it. -/
structure Lifts (L : Line → Prop) (C : String → Prop) (R : List Stmt → Prop) : Prop where
  nil : R []
  append {ss ts : List Stmt} (first : R ss) (second : R ts) : R (ss ++ ts)
  line {l : Line} (told : L l) : R [.line l]
  block {head : Line} {body : List Stmt} (told : L head) (code : body.any isCode = true)
    (inside : R body) : R [.block head body]
  comment {text : String} (told : C text) : R [.comment text]
  blank : R [.blank]

/-- What every module has between its imports and its end has the property, the fields of its record
and the code of its widgets apart. -/
structure Frame (L : Line → Prop) (C : String → Prop) (R : List Stmt → Prop) (p : Project) :
    Prop where
  flags : R [panelFlags]
  record : L ["class GeneratedState"]
  purpose : C "Runtime values of every interactive widget."
  init : L ["def __init__(self) -> None"]
  drawing : L ["def generated_ui(state: GeneratedState) -> None"]
  uiOpening : R uiOpening
  title (panel : Panel) : C (panel.area.tag ++ " panel")
  switch (panel : Panel) : L ["if state.", .slot (.panel panel)]
  panelOpening (panel : Panel) : R (panelOpening p panel (panelPos panel) (panelSize panel))
  panelClosing : R panelClosing
  canvasOpening : R canvasOpening
  canvasClosing : R (canvasClosing p)

theorem Frame.imp {L L' : Line → Prop} {C C' : String → Prop} {R R' : List Stmt → Prop}
    {p : Project} (frame : Frame L C R p) (hL : ∀ l, L l → L' l) (hC : ∀ t, C t → C' t)
    (hR : ∀ ss, R ss → R' ss) : Frame L' C' R' p where
  flags := hR _ frame.flags
  record := hL _ frame.record
  purpose := hC _ frame.purpose
  init := hL _ frame.init
  drawing := hL _ frame.drawing
  uiOpening := hR _ frame.uiOpening
  title panel := hC _ (frame.title panel)
  switch panel := hL _ (frame.switch panel)
  panelOpening panel := hR _ (frame.panelOpening panel)
  panelClosing := hR _ frame.panelClosing
  canvasOpening := hR _ frame.canvasOpening
  canvasClosing := hR _ frame.canvasClosing

/-- The sections that a module has where it needs them have the property. -/
structure Extras (R : List Stmt → Prop) (p : Project) : Prop where
  dateImports : R dateImports
  treeImports : R treeImports
  treeHelpers : R treeHelpers
  dateHelpers : R dateHelpers
  main : R (mainCode p)
  separate : R (framing .separate)

theorem Extras.framing {R : List Stmt → Prop} {p : Project} (extras : Extras R p) (nil : R [])
    (f : Format) : R (framing f) := by
  cases f with
  | separate => exact extras.separate
  | single => exact nil
  | uiOnly => exact nil

namespace Lifts

variable {L : Line → Prop} {C : String → Prop} {R : List Stmt → Prop} (lifts : Lifts L C R)

include lifts

theorem flatMap {α : Type} {f : α → List Stmt} {as : List α} (each : ∀ a ∈ as, R (f a)) :
    R (as.flatMap f) := by
  induction as with
  | nil => exact lifts.nil
  | cons a as ih =>
    obtain ⟨first, rest⟩ := List.forall_mem_cons.1 each
    rw [List.flatMap_cons]
    exact lifts.append first (ih rest)

theorem lines {α : Type} {f : α → Line} {as : List α} (each : ∀ a ∈ as, L (f a)) :
    R (as.map fun a => .line (f a)) := by
  rw [List.map_eq_flatMap]
  exact lifts.flatMap fun a mem => lifts.line (each a mem)

section Choice

variable {c : Prop} [Decidable c] {ss : List Stmt}

theorem ifTrue (h : c → R ss) : R (if c then ss else []) := by
  split
  next holds => exact h holds
  next => exact lifts.nil

theorem ifFalse (h : ¬c → R ss) : R (if c then [] else ss) := by
  split
  next => exact lifts.nil
  next fails => exact h fails

end Choice

theorem whereText {ss : List Stmt} (text : String) (h : R ss) : R (whereText text ss) :=
  lifts.ifFalse fun _ => h

theorem whereDisabled {l : Line} (p : Props) (told : L l) : R (whereDisabled p (.line l)) :=
  lifts.ifFalse fun _ => lifts.line told

theorem spaced {ss : List Stmt} (h : R ss) : R (spaced ss) :=
  lifts.ifFalse fun _ => lifts.append h lifts.blank

theorem setOff {ss : List Stmt} (h : R ss) : R (setOff ss) :=
  lifts.append lifts.blank (lifts.append lifts.blank h)

theorem dressed {w : Widget} (placed : R (placement w)) (disabled : L ["imgui.begin_disabled()"])
    (drawn : R (body w.id w.size w.pos w.props.control)) (enabled : L ["imgui.end_disabled()"])
    (tip : L ["imgui.set_item_tooltip(", .text w.props.tooltip, ")"]) : R (dressed w) := by
  have before := lifts.append placed (lifts.whereDisabled w.props disabled)
  have after := lifts.append (lifts.append before drawn) (lifts.whereDisabled w.props enabled)
  exact lifts.append after (lifts.whereText w.props.tooltip (lifts.line tip))

section Sections

variable {p : Project} {f : Format}

theorem imports (dates : uses p .datePicker = true → R dateImports)
    (trees : uses p .tree = true → R treeImports) (library : R [libraryImport p f]) :
    R (imports p f) := by
  rw [imports_sections]
  exact lifts.append (lifts.spaced (lifts.append (lifts.ifTrue dates) (lifts.ifTrue trees))) library

theorem helpers (flags : R [panelFlags]) (trees : uses p .tree = true → R treeHelpers)
    (dates : uses p .datePicker = true → R dateHelpers) : R (helpers p) :=
  lifts.append (lifts.append flags (lifts.ifTrue fun used => lifts.setOff (trees used)))
    (lifts.ifTrue fun used => lifts.setOff (dates used))

theorem stateClass (frame : Frame L C R p)
    (each : ∀ s ∈ fields p, L s.declaration ∧ L s.assignment) : R (stateClass p) := by
  have declarations :=
    lifts.append (lifts.comment frame.purpose) (lifts.lines fun s mem => (each s mem).1)
  -- The switches of the panels are fields of every design.
  have code : ((fields p).map fun s => Stmt.line s.assignment).any isCode = true := rfl
  have assignments := lifts.block frame.init code (lifts.lines fun s mem => (each s mem).2)
  exact lifts.block frame.record rfl
    (lifts.append declarations (lifts.append lifts.blank assignments))

theorem panelCode (frame : Frame L C R p) (drawn : ∀ a, R (blocks (p.inArea a))) (panel : Panel) :
    R (panelCode p panel (panelPos panel) (panelSize panel)) := by
  rw [panelCode_eq]
  have inside := lifts.append (frame.panelOpening panel) (drawn panel.area)
  exact lifts.append (lifts.comment (frame.title panel))
    (lifts.block (frame.switch panel) rfl (lifts.append inside frame.panelClosing))

theorem canvasCode (frame : Frame L C R p) (drawn : ∀ a, R (blocks (p.inArea a))) :
    R (canvasCode p) := by
  rw [canvasCode_eq]
  have inside := lifts.append frame.canvasOpening (drawn .center)
  exact lifts.append (lifts.append inside (drawn .free)) frame.canvasClosing

theorem uiFunction (frame : Frame L C R p) (drawn : ∀ a, R (blocks (p.inArea a))) :
    R (uiFunction p) := by
  rw [uiFunction_eq]
  have panels : R (Panel.all.flatMap fun q => Source.panelCode p q (panelPos q) (panelSize q)) :=
    lifts.flatMap fun panel _ => lifts.panelCode frame drawn panel
  exact lifts.block frame.drawing rfl
    (lifts.append (lifts.append frame.uiOpening panels) (lifts.canvasCode frame drawn))

/-- Everything but the header has the property where the sections have it. -/
theorem moduleBody (imports : R (Source.imports p f)) (helpers : R (Source.helpers p))
    (record : R (Source.stateClass p)) (drawing : R (Source.uiFunction p))
    (main : f ≠ .uiOnly → R (mainCode p)) : R (moduleBody p f) := by
  have start := lifts.append (lifts.append lifts.blank imports) (lifts.setOff helpers)
  have whole := lifts.append (lifts.append start (lifts.setOff record)) (lifts.setOff drawing)
  exact lifts.append whole (lifts.ifFalse fun program => lifts.setOff (main program))

/-- A header consists of comments. -/
theorem header (comments : Bool) (any : ∀ text, C text) :
    R (if comments then fullHeader f else briefHeader) := by
  have each (texts : List String) : R (texts.map .comment) := by
    rw [List.map_eq_flatMap]
    exact lifts.flatMap fun text _ => lifts.comment (any text)
  cases comments with
  | true =>
    refine lifts.append (each [_, _, _, _]) (lifts.ifTrue fun _ => each [_, _, _, _, _])
  | false => exact each [_]

end Sections

end Lifts

end Stmt

end Formwork.Source

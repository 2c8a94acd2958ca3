import Formwork.Source.Piece

/-!
# The state record of a generated program

Kinds whose value changes at run time keep it in a field of the state record. A field is
initialised from the design, brought into range where the design is out of range: a selection
lies among the options, a progress between zero and one, a date in the calendar.
-/

set_option autoImplicit false

namespace Formwork.Source

/-- The option at which a selection is drawn: the nearest one of `count`, or zero where there
is none. -/
def clampIndex (selected : Int) (count : Nat) : Int :=
  if count = 0 then 0 else max 0 (min selected (count - 1))

/-- A number brought between zero and one; NaN counts as zero. -/
def clampUnit (x : Binary64) : Binary64 :=
  if x.isNaN then 0 else (x.greater 0).lesser 1

/-- A day that exists: the day of the month ends at 28, which every month has. -/
def clampDay (d : Day) : Day :=
  ⟨min (max d.year 1) 9999, min (max d.month 1) 12, min (max d.day 1) 28⟩

/-- A field of the state record. -/
structure Field where
  slot : Slot
  annotation : String
  initial : Line

/-- The line that declares a field. -/
def Field.declaration (f : Field) : Line := [.slot f.slot, ": ", f.annotation]

/-- The line that initialises a field. -/
def Field.assignment (f : Field) : Line :=
  .code "self." :: .slot f.slot :: .code " = " :: f.initial

/-- What a control keeps in the state record: under which stem, of which type, and what at
first. -/
def stateOf : Control → Option (Stem × String × Line)
  | .menuButton _ c => selection c
  | .radioGroup _ c => selection c
  | .comboBox _ c => selection c
  | .tabBar c => some (.tab, "int", [.integer (clampIndex c.selected c.items.length)])
  | .checkbox _ b => some (.checked, "bool", [.flag b])
  | .selectableLabel _ b => some (.selection, "bool", [.flag b])
  | .collapsingHeader _ b => some (.opened, "bool", [.flag b])
  | .textEdit t => some (.text, "str", [.text t])
  | .textArea t => some (.textArea, "str", [.text t])
  | .password t => some (.password, "str", [.text t])
  | .code t => some (.code, "str", [.text t])
  | .slider _ r => some (.value, "float", [.number r.value 3])
  | .angleSelector _ r => some (.angle, "float", [.number r.value 3])
  | .dragValue _ r => some (.drag, "float", [.number r.value 3])
  | .progressBar x => some (.progress, "float", [.number (clampUnit x) 3])
  | .datePicker _ d => some (.date, "datetime.date", date (clampDay d))
  | .colorPicker _ c => some (.color, "list[float]", [channelsText c.channels])
  | .window _ => some (.window, "bool", [.flag true])
  | .label _ => none
  | .heading _ => none
  | .small _ => none
  | .monospace _ => none
  | .button _ => none
  | .imageTextButton .. => none
  | .link _ => none
  | .hyperlink .. => none
  | .separator => none
  | .tree .. => none
  | .spinner => none
  | .image .. => none
  | .placeholder .. => none
  | .group .. => none
  | .scrollBox _ => none
  | .columns .. => none
where
  selection (c : Choice) : Option (Stem × String × Line) :=
    some (.selection, "int", [.integer (clampIndex c.selected c.items.length)])
  date (d : Day) : Line :=
    ["datetime.date(", .integer d.year, ", ", .integer d.month, ", ", .integer d.day, ")"]

/-- The field of a widget, where its kind has one. -/
def fieldOf (w : Widget) : Option Field :=
  (stateOf w.props.control).map fun (stem, annotation, initial) =>
    ⟨.widget stem w.id, annotation, initial⟩

/-- The field of a panel switch. -/
def panelField (panels : Panels) (p : Panel) : Field :=
  ⟨.panel p, "bool", [.flag (panels.get p)]⟩

/-- All fields: the panel switches, then those of the widgets in drawing order. -/
def fields (p : Project) : List Field :=
  Panel.all.map (panelField p.panels)
    ++ Area.drawOrder.flatMap fun a => (p.inArea a).filterMap fieldOf

end Formwork.Source

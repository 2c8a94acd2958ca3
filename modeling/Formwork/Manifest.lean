import Formwork.Json.Basic
import Formwork.Source.Module

/-!
# Preview manifests

A manifest tells a live preview what to paint: the canvas, and for each panel and the canvas the
widgets in the order in which they are painted. Free widgets are painted on the canvas, above
those of the centre. An entry repeats the geometry of its widget and adds a label and what else
the kind shows; selections are brought into range and outlines are parsed, so that a preview
decides nothing.
-/

set_option autoImplicit false

namespace Formwork.Manifest

/-- The version of the manifest format. -/
def formatVersion : String := "1"

/-- What an entry shows besides its label. -/
inductive Detail where
  | plain
  | choice (items : List String) (selected : Int)
  | toggle (checked : Bool)
  | range (range : Range)
  | value (value : Binary64)
  | link (url : String)
  | date (text : String)
  | outline (trees : List Node)
  | color (color : Color)
  | icon (icon : String)
  | layout (horizontal : Bool)
  | columns (count : Int)

/-- What a preview paints for one widget. -/
structure Entry where
  id : Int
  kind : Kind
  pos : Vec
  size : Vec
  z : Int
  enabled : Bool
  tooltip : String
  hasOptions : Bool
  label : String
  detail : Detail

/-- A panel or the canvas, with its entries in painting order. -/
structure Section where
  name : String
  enabled : Bool
  entries : List Entry

end Manifest

/-- What a preview paints. -/
structure Manifest where
  canvas : Vec
  sections : List Manifest.Section
  widgetCount : Nat

namespace Manifest

/-- A share as a whole percentage; the product may overflow. -/
def percentText (x : Binary64) : String :=
  match x * 100 with
  | .nan => "nan%"
  | .infinite negative => Layout.signed negative "inf%"
  | .finite negative u _ => fixedText 0 negative u ++ "%"

/-- An integer in at least `width` characters, its sign in front of the zeros. -/
def paddedInt (width : Nat) (n : Int) : String :=
  if n < 0 then "-" ++ padLeft (width - 1) '0' (natText n.natAbs)
  else padLeft width '0' (natText n.natAbs)

def dayText (d : Day) : String :=
  paddedInt 4 d.year ++ "-" ++ paddedInt 2 d.month ++ "-" ++ paddedInt 2 d.day

/-- The options with a selection among them. -/
def shownChoice (c : Choice) : Detail :=
  .choice c.items (if c.items.isEmpty then 0 else min c.selected (c.items.length - 1))

/-- The label and the detail of a control. -/
def summary : Control → String × Detail
  | .menuButton t c => (t, shownChoice c)
  | .radioGroup t c => (t, shownChoice c)
  | .comboBox t c => (t, shownChoice c)
  | .tabBar c => ("", shownChoice c)
  | .checkbox t b => (t, .toggle b)
  | .selectableLabel t b => (t, .toggle b)
  | .collapsingHeader t b => (t, .toggle b)
  | .slider t r => (t, .range r)
  | .angleSelector t r => (t, .range r)
  | .dragValue t r => (t, .range r)
  | .progressBar x => (if x.isFinite then percentText x else "", .value x)
  | .hyperlink t url => (t, .link url)
  | .image t url => (t, .link url)
  | .datePicker t d => (t, .date (dayText d))
  | .tree t lines => (t, .outline (Outline.parse lines))
  | .colorPicker t c => (t, .color c)
  | .placeholder t c => (t, .color c)
  | .imageTextButton t icon => (Text.strip (icon ++ " " ++ t), .icon icon)
  | .group t horizontal => (t, .layout horizontal)
  | .columns t n => (t, .columns (max n 1))
  | .password t => (String.ofList (List.replicate t.length '•'), .plain)
  | .spinner => ("⟳", .plain)
  | .separator => ("", .plain)
  | .label t => (t, .plain)
  | .heading t => (t, .plain)
  | .small t => (t, .plain)
  | .monospace t => (t, .plain)
  | .button t => (t, .plain)
  | .textEdit t => (t, .plain)
  | .textArea t => (t, .plain)
  | .link t => (t, .plain)
  | .code t => (t, .plain)
  | .scrollBox t => (t, .plain)
  | .window t => (t, .plain)

/-- The entry of a widget. -/
def entry (w : Widget) : Entry where
  id := w.id
  kind := w.kind
  pos := w.pos
  size := w.size
  z := w.z
  enabled := w.props.enabled
  tooltip := w.props.tooltip
  hasOptions := w.props.hasOptions
  label := (summary w.props.control).1
  detail := (summary w.props.control).2

/-- The entries of an area, in painting order. -/
def painted (p : Project) (a : Area) : List Entry := (paintOrder (p.inArea a)).map entry

/-- The section of a panel. -/
def panelSection (p : Project) (panel : Panel) : Section where
  name := Source.panelName panel
  enabled := p.panels.get panel
  entries := painted p panel.area

/-- The section of the canvas. -/
def canvasSection (p : Project) : Section where
  name := "center"
  enabled := true
  entries := painted p .center ++ painted p .free

/-- The manifest of a design. -/
def ofProject (p : Project) : Manifest where
  canvas := p.canvas
  sections := Panel.all.map (panelSection p) ++ [canvasSection p]
  widgetCount := p.widgets.length

/-! ## As JSON -/

def nodeJson (label : String) (children : List Json) : Json :=
  .object [("label", .text label), ("children", .list children)]

def Detail.members : Detail → List (String × Json)
  | plain => []
  | choice items selected => [("items", .texts items), ("selected", .integer selected)]
  | toggle b => [("checked", .bool b)]
  | range r => [("value", .number r.value), ("min", .number r.minimum), ("max", .number r.maximum)]
  | value x => [("value", .number x)]
  | link url => [("url", .text url)]
  | date s => [("date", .text s)]
  | outline trees => [("outline", .list (Node.foldAll nodeJson trees))]
  | color c => [("color", .list (c.channels.map .integer))]
  | icon s => [("icon", .text s)]
  | layout horizontal => [("layout", .text (if horizontal then "horizontal" else "vertical"))]
  | columns n => [("columns", .integer n)]

def Entry.toJson (e : Entry) : Json :=
  .object ([
    ("id", .integer e.id),
    ("kind", .text e.kind.tag),
    ("x", .number e.pos.x),
    ("y", .number e.pos.y),
    ("width", .number e.size.x),
    ("height", .number e.size.y),
    ("z", .integer e.z),
    ("enabled", .bool e.enabled),
    ("tooltip", .text e.tooltip),
    ("has_options", .bool e.hasOptions),
    ("label", .text e.label)] ++ e.detail.members)

def Section.toJson (s : Section) : Json :=
  .object [("enabled", .bool s.enabled), ("widgets", .list (s.entries.map Entry.toJson))]

def toJson (m : Manifest) : Json :=
  .object [
    ("preview_manifest_version", .text formatVersion),
    ("canvas", .object [("width", .number m.canvas.x), ("height", .number m.canvas.y)]),
    ("areas", .object (m.sections.map fun s => (s.name, s.toJson))),
    ("widget_count", .integer m.widgetCount)]

end Manifest

end Formwork

import Formwork.Design.Project
import Formwork.Json.Writer

/-!
# The document of a project

A document holds every property of every widget, in a fixed order: what all kinds share comes
first, then what the kind shares with others, then its tag, then what is its own. The text is
JSON whose numbers have the fewest digits that read back.
-/

set_option autoImplicit false

namespace Formwork

/-- How documents set out a number: positionally from one hundred-thousandth up to below
`10 ^ 16`. -/
def documentLayout : Layout where
  leastPositional := -5
  endPositional := 16
  keepsPoint := true
  exponentWidth := 1
  nanText := "NaN"
  infinityText := "Infinity"

/-- Members of an object. -/
abbrev Members := List (String × Json)

def Vec.toJson (v : Vec) : Json := .object [("x", .number v.x), ("y", .number v.y)]

def Choice.members (c : Choice) : Members :=
  [("items", .texts c.items), ("selected", .integer c.selected)]

def Range.members (r : Range) : Members :=
  [("value", .number r.value), ("min", .number r.minimum), ("max", .number r.maximum)]

def Color.toJson (c : Color) : Json := .list (c.channels.map .integer)

def Day.members (d : Day) : Members :=
  [("year", .integer d.year), ("month", .integer d.month), ("day", .integer d.day)]

namespace Control

/-- The properties that stand before the tag. -/
def leading : Control → Members
  | menuButton t c => ("text", .text t) :: c.members
  | radioGroup t c => ("text", .text t) :: c.members
  | comboBox t c => ("text", .text t) :: c.members
  | slider t r => ("text", .text t) :: r.members
  | angleSelector t r => ("text", .text t) :: r.members
  | dragValue t r => ("text", .text t) :: r.members
  | checkbox t b => [("text", .text t), ("checked", .bool b)]
  | selectableLabel t b => [("text", .text t), ("checked", .bool b)]
  | collapsingHeader t b => [("text", .text t), ("checked", .bool b)]
  | progressBar _ => []
  | separator => []
  | spinner => []
  | tabBar _ => []
  | label t => [("text", .text t)]
  | heading t => [("text", .text t)]
  | small t => [("text", .text t)]
  | monospace t => [("text", .text t)]
  | button t => [("text", .text t)]
  | imageTextButton t _ => [("text", .text t)]
  | textEdit t => [("text", .text t)]
  | textArea t => [("text", .text t)]
  | link t => [("text", .text t)]
  | hyperlink t _ => [("text", .text t)]
  | datePicker t _ => [("text", .text t)]
  | password t => [("text", .text t)]
  | tree t _ => [("text", .text t)]
  | colorPicker t _ => [("text", .text t)]
  | code t => [("text", .text t)]
  | image t _ => [("text", .text t)]
  | placeholder t _ => [("text", .text t)]
  | group t _ => [("text", .text t)]
  | scrollBox t => [("text", .text t)]
  | columns t _ => [("text", .text t)]
  | window t => [("text", .text t)]

/-- The properties that stand after the tag. -/
def trailing : Control → Members
  | imageTextButton _ icon => [("icon", .text icon)]
  | progressBar x => [("value", .number x)]
  | hyperlink _ url => [("url", .text url)]
  | datePicker _ d => d.members
  | tree _ lines => [("items", .texts lines)]
  | colorPicker _ c => [("color", c.toJson)]
  | image _ url => [("url", .text url)]
  | placeholder _ c => [("color", c.toJson)]
  | group _ b => [("horizontal", .bool b)]
  | tabBar c => c.members
  | columns _ n => [("columns", .integer n)]
  | _ => []

end Control

/-- The members of a property object. -/
def Props.members (p : Props) : Members :=
  [("tooltip", .text p.tooltip), ("enabled", .bool p.enabled)] ++ p.control.leading
    ++ ("kind", .text p.kind.tag) :: p.control.trailing

def Widget.toJson (w : Widget) : Json :=
  .object [
    ("id", .integer w.id),
    ("pos", w.pos.toJson),
    ("size", w.size.toJson),
    ("z", .integer w.z),
    ("area", .text w.area.tag),
    ("props", .object w.props.members)]

namespace Project

def toJson (p : Project) : Json :=
  .object [
    ("widgets", .list (p.widgets.map Widget.toJson)),
    ("canvas_size", p.canvas.toJson),
    ("panel_top_enabled", .bool p.panels.top),
    ("panel_bottom_enabled", .bool p.panels.bottom),
    ("panel_left_enabled", .bool p.panels.left),
    ("panel_right_enabled", .bool p.panels.right)]

/-- The document of a project. -/
def encode (p : Project) : String := Json.render documentLayout p.toJson

end Project

end Formwork

import Formwork.Design.Project
import Formwork.Source.State
import Formwork.Source.Stmt

/-!
# The code of one widget

`block` is the code that draws a widget: a comment that names it, the placement of the cursor,
the drawing of its control, and its tooltip. A disabled widget is drawn between two calls that
disable what they enclose. A window places itself.

A caption ends in the widget's own id after two number signs, which the drawing library does not
show but takes into account when it tells widgets apart, so that equal captions do no harm.
-/

set_option autoImplicit false

namespace Formwork.Source

/-- A caption that is told apart by the id of its widget. -/
def captionId (text : String) (id : Int) : String := text ++ "##w" ++ intText id

/-- The identity of a part that has no caption. -/
def tagId (id : Int) : String := "##w" ++ intText id

/-- The identity of the popup of a widget. -/
def popupId (id : Int) : String := "popup_w" ++ intText id

/-- The format by which each option of a widget gets an identity of its own. -/
def optionFormat (id : Int) : String := "\x7bitem\x7d##w" ++ intText id ++ "_\x7bi\x7d"

/-- The outline that is shown for a tree without lines. -/
def outlineFallback : List String := ["Root", "  Child"]

/-- The trees that a tree widget shows. -/
def treesOf (lines : List String) : List Node :=
  Outline.parse (if lines.isEmpty then outlineFallback else lines)

/-- The options that are shown: where there are none, a single one. -/
def shownOptions (items : List String) : List String :=
  if items.isEmpty then ["Item"] else items

/-- The pictures of a spinner. -/
def spinnerFrames : String := "|/-\\"

/-- A channel as a fraction of the largest one. -/
def channelFraction (c : Int) : Binary64 := .ofRatio (c < 0) (c.natAbs * oneSteps) 255

/-- The statements that a text stands for, none where it is empty. -/
def whereText (text : String) (ss : List Stmt) : List Stmt := if text = "" then [] else ss

/-- A line that shows a text. -/
def showText (text : String) : Stmt := .line ["imgui.text(", .text text, ")"]

/-- The width of the next item. -/
def itemWidth (x : Binary64) : Stmt :=
  .line ["imgui.set_next_item_width(", .number x 1, ")"]

/-- The beginning of a framed child region. -/
def beginChild (id : Int) (size : Vec) : Stmt :=
  .line ["imgui.begin_child(", .text (tagId id), ", ", .vector size,
    ", imgui.ChildFlags_.borders)"]

section Controls

variable (id : Int) (size : Vec)

/-- The widget's own value in the state record. -/
def own (stem : Stem) : Slot := .widget stem id

def menuButton (text : String) (c : Choice) : List Stmt := [
  .block ["if imgui.button(", .text (captionId text id), ", ", .vector size, ")"] [
    .line ["imgui.open_popup(", .text (popupId id), ")"]],
  .block ["if imgui.begin_popup(", .text (popupId id), ")"] [
    .block ["for i, item in enumerate(", .texts (shownOptions c.items), ")"] [
      .block ["if imgui.menu_item(item, ", .text "", ", state.", .slot (own id .selection),
          " == i)[0]"] [
        .line ["state.", .slot (own id .selection), " = i"]]],
    .line ["imgui.end_popup()"]]]

def checkbox (text : String) : List Stmt := [
  .line ["_, state.", .slot (own id .checked), " = imgui.checkbox(", .text (captionId text id),
    ", state.", .slot (own id .checked), ")"]]

def textEdit : List Stmt := [
  itemWidth size.x,
  .line ["_, state.", .slot (own id .text), " = imgui.input_text(", .text (tagId id),
    ", state.", .slot (own id .text), ")"]]

def textArea : List Stmt := [
  .line ["_, state.", .slot (own id .textArea), " = imgui.input_text_multiline(",
    .text (tagId id), ", state.", .slot (own id .textArea), ", ", .vector size, ")"]]

def slider (text : String) (r : Range) : List Stmt := [
  itemWidth size.x,
  .line ["_, state.", .slot (own id .value), " = imgui.slider_float(", .text (captionId text id),
    ", state.", .slot (own id .value), ", ", .number r.minimum 3, ", ", .number r.maximum 3, ")"]]

def progressBar : List Stmt := [
  .line ["imgui.progress_bar(state.", .slot (own id .progress), ", ", .vector size, ")"]]

def radioGroup (text : String) (c : Choice) : List Stmt :=
  whereText text [showText text] ++ [
  .block ["for i, item in enumerate(", .texts (shownOptions c.items), ")"] [
    .block ["if imgui.radio_button(f", .text (optionFormat id), ", state.",
        .slot (own id .selection), " == i)"] [
      .line ["state.", .slot (own id .selection), " = i"]]]]

def selectableLabel (text : String) : List Stmt := [
  .line ["_, state.", .slot (own id .selection), " = imgui.selectable(",
    .text (captionId text id), ", state.", .slot (own id .selection), ", 0, ", .vector size, ")"]]

def comboBox (text : String) (c : Choice) : List Stmt := [
  itemWidth size.x,
  .line ["_, state.", .slot (own id .selection), " = imgui.combo(", .text (captionId text id),
    ", state.", .slot (own id .selection), ", ", .texts (shownOptions c.items), ")"]]

def collapsingHeader (text : String) : List Stmt := [
  .line ["imgui.set_next_item_open(state.", .slot (own id .opened), ")"],
  .line ["state.", .slot (own id .opened), " = imgui.collapsing_header(",
    .text (captionId text id), ")"],
  .block ["if state.", .slot (own id .opened)] [
    .line ["imgui.text_disabled(", .text (text ++ " content"), ")"]]]

def datePicker (text : String) : List Stmt :=
  whereText text [showText text, .line ["imgui.same_line()"]] ++ [
  itemWidth size.x,
  .line ["changed, parts = imgui.input_int3(", .text (tagId id), ", [state.",
    .slot (own id .date), ".year, state.", .slot (own id .date), ".month, state.",
    .slot (own id .date), ".day])"],
  .block ["if changed"] [
    .line ["state.", .slot (own id .date), " = gen_make_date(parts)"]]]

def angleSelector (text : String) (r : Range) : List Stmt := [
  itemWidth size.x,
  .line ["_, state.", .slot (own id .angle), " = imgui.slider_float(", .text (captionId text id),
    ", state.", .slot (own id .angle), ", ", .number r.minimum 3, ", ", .number r.maximum 3, ", ",
    .text "%.1f°", ")"]]

def password : List Stmt := [
  itemWidth size.x,
  .line ["_, state.", .slot (own id .password), " = imgui.input_text(", .text (tagId id),
    ", state.", .slot (own id .password), ", imgui.InputTextFlags_.password)"]]

def tree (text : String) (lines : List String) : List Stmt :=
  beginChild id size :: whereText text [showText text] ++ [
  .line ["gen_show_tree(", .forest (treesOf lines), ")"],
  .line ["imgui.end_child()"]]

def dragValue (text : String) (r : Range) : List Stmt :=
  whereText text [showText text, .line ["imgui.same_line()"]] ++ [
  itemWidth (size.x / 2),
  .line ["_, state.", .slot (own id .drag), " = imgui.drag_float(", .text (tagId id),
    ", state.", .slot (own id .drag), ", 1.0, ", .number r.minimum 3, ", ", .number r.maximum 3,
    ")"]]

def colorPicker (text : String) : List Stmt := [
  itemWidth size.x,
  .line ["_, state.", .slot (own id .color), " = imgui.color_edit4(", .text (captionId text id),
    ", state.", .slot (own id .color), ")"]]

def codeEditor : List Stmt := [
  .line ["_, state.", .slot (own id .code), " = imgui.input_text_multiline(", .text (tagId id),
    ", state.", .slot (own id .code), ", ", .vector size,
    ", imgui.InputTextFlags_.allow_tab_input)"]]

def placeholder (text : String) (c : Color) : List Stmt := [
  .line ["corner = imgui.get_cursor_screen_pos()"],
  .line ["draw = imgui.get_window_draw_list()"],
  .line ["draw.add_rect_filled(corner, imgui.ImVec2(corner.x + ", .number size.x 1,
    ", corner.y + ", .number size.y 1, "), imgui.color_convert_float4_to_u32(imgui.ImVec4(",
    .number (channelFraction c.red) 3, ", ", .number (channelFraction c.green) 3, ", ",
    .number (channelFraction c.blue) 3, ", ", .number (channelFraction c.alpha) 3, ")))"],
  .line ["draw.add_text(imgui.ImVec2(corner.x + 4.0, corner.y + 4.0), ",
    "imgui.get_color_u32(imgui.Col_.text), ", .text text, ")"],
  .line ["imgui.dummy(", .vector size, ")"]]

def group (text : String) (horizontal : Bool) : List Stmt :=
  beginChild id size :: whereText text [showText text, .line ["imgui.separator()"]] ++ [
  .comment (if horizontal then "group contents (horizontal)" else "group contents (vertical)"),
  .line ["imgui.end_child()"]]

def scrollBox (text : String) : List Stmt := [
  .line ["imgui.begin_child(", .text (tagId id), ", ", .vector size,
    ", imgui.ChildFlags_.borders, imgui.WindowFlags_.horizontal_scrollbar)"],
  .line ["imgui.text_wrapped(", .text text, ")"],
  .line ["imgui.end_child()"]]

def tabBar (c : Choice) : List Stmt := [
  .block ["if imgui.begin_tab_bar(", .text (tagId id), ")"] [
    .block ["for i, item in enumerate(", .texts c.items, ")"] [
      .block ["if imgui.begin_tab_item(f", .text (optionFormat id), ")[0]"] [
        .line ["state.", .slot (own id .tab), " = i"],
        .line ["imgui.end_tab_item()"]]],
    .line ["imgui.end_tab_bar()"]]]

def columns (text : String) (count : Int) : List Stmt := [
  .block ["if imgui.begin_table(", .text (tagId id), ", ", .integer (max count 1),
      ", imgui.TableFlags_.borders, ", .vector size, ")"] [
    .block ["for col in range(", .integer (max count 1), ")"] [
      .line ["imgui.table_next_column()"],
      .line ["imgui.text(", .text (text ++ " "), " + str(col + 1))"]],
    .line ["imgui.end_table()"]]]

def window (text : String) (pos : Vec) : List Stmt := [
  .block ["if state.", .slot (own id .window)] [
    .line ["imgui.set_next_window_pos(imgui.ImVec2(", .offset "origin.x" pos.x, ", ",
      .offset "origin.y" pos.y, "), imgui.Cond_.first_use_ever)"],
    .line ["imgui.set_next_window_size(", .vector size, ", imgui.Cond_.first_use_ever)"],
    .line ["_, state.", .slot (own id .window), " = imgui.begin(", .text (captionId text id),
      ", state.", .slot (own id .window), ")"],
    .line ["imgui.end()"]]]

/-- The caption of a button with an icon, which stands first where there is one. -/
def iconCaption (text icon : String) : String := if icon = "" then text else icon ++ " " ++ text

/-- The drawing of a control. -/
def body (pos : Vec) : Control → List Stmt
  | .menuButton t c => menuButton id size t c
  | .label t => [showText t]
  | .heading t => [
    .line ["imgui.set_window_font_scale(1.4)"],
    showText t,
    .line ["imgui.set_window_font_scale(1.0)"]]
  | .small t => [.line ["imgui.text_disabled(", .text t, ")"]]
  | .monospace t => [showText t]
  | .button t => [.line ["imgui.button(", .text (captionId t id), ", ", .vector size, ")"]]
  | .imageTextButton t icon =>
    [.line ["imgui.button(", .text (captionId (iconCaption t icon) id), ", ", .vector size, ")"]]
  | .checkbox t _ => checkbox id t
  | .textEdit _ => textEdit id size
  | .textArea _ => textArea id size
  | .slider t r => slider id size t r
  | .progressBar _ => progressBar id size
  | .radioGroup t c => radioGroup id t c
  | .link t => [.line ["imgui.text_link(", .text (captionId t id), ")"]]
  | .hyperlink t url =>
    [.line ["imgui.text_link_open_url(", .text (captionId t id), ", ", .text url, ")"]]
  | .selectableLabel t _ => selectableLabel id size t
  | .comboBox t c => comboBox id size t c
  | .separator => [.line ["imgui.separator()"]]
  | .collapsingHeader t _ => collapsingHeader id t
  | .datePicker t _ => datePicker id size t
  | .angleSelector t r => angleSelector id size t r
  | .password _ => password id size
  | .tree t lines => tree id size t lines
  | .dragValue t r => dragValue id size t r
  | .spinner =>
    [.line ["imgui.text(", .text spinnerFrames, "[int(imgui.get_time() * 10.0) % 4])"]]
  | .colorPicker t _ => colorPicker id size t
  | .code _ => codeEditor id size
  | .image _ url => [.line ["hello_imgui.image_from_asset(", .text url, ", ", .vector size, ")"]]
  | .placeholder t c => placeholder size t c
  | .group t horizontal => group id size t horizontal
  | .scrollBox t => scrollBox id size t
  | .tabBar c => tabBar id c
  | .columns t n => columns id size t n
  | .window t => window id size t pos

end Controls

/-- The comment that names a widget. -/
def header (w : Widget) : Stmt := .comment (w.kind.tag ++ " #" ++ intText w.id)

/-- The placement of the cursor. -/
def placement (w : Widget) : List Stmt :=
  if w.kind = .window then []
  else [.line ["imgui.set_cursor_screen_pos(imgui.ImVec2(", .offset "origin.x" w.pos.x, ", ",
    .offset "origin.y" w.pos.y, "))"]]

/-- Statements that disable, or enable again, unless the widget is enabled. -/
def whereDisabled (p : Props) (s : Stmt) : List Stmt := if p.enabled then [] else [s]

/-- The tooltip of the item drawn last. -/
def tooltip (text : String) : List Stmt :=
  whereText text [.line ["imgui.set_item_tooltip(", .text text, ")"]]

/-- The code of a widget. -/
def block (w : Widget) : List Stmt :=
  header w :: placement w
    ++ whereDisabled w.props (.line ["imgui.begin_disabled()"])
    ++ body w.id w.size w.pos w.props.control
    ++ whereDisabled w.props (.line ["imgui.end_disabled()"])
    ++ tooltip w.props.tooltip

/-- The lines of a widget's code, not indented. -/
def blockLines (comments : Bool) (w : Widget) : List String :=
  Stmt.linesAll 0 (Stmt.commented comments (block w))

end Formwork.Source

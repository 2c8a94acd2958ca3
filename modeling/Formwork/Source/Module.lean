import Formwork.Source.Block
import Formwork.Source.Format

/-!
# The generated module

`Project.generate` writes a design as a Python module that draws it through `imgui_bundle`. The
module consists of a header, imports, helpers, the state record, one function that draws all
widgets, and, unless only that function is wanted, a `main` around it.

Widgets are drawn area by area (`Area.drawOrder`), each area in list order. Imports and helpers
stand there only when a widget needs them. A design is never refused: what is out of range is
brought into range. The text depends on nothing but the design, the format and the choice of
comments.
-/

set_option autoImplicit false

namespace Formwork

/-- The version of the tool. -/
def version : String := "0.4.0"

namespace Source

/-- The least thickness of a panel at the top or the bottom. -/
def minBand : Binary64 := 48

/-- The least thickness of a panel at a side. -/
def minSide : Binary64 := 120

/-- What a panel adds to the extent of its widgets. -/
def panelPad : Binary64 := 8

/-- The largest side of the window. -/
def maxWindowSide : Binary64 := 16384

/-- A number where it is finite and positive, otherwise a fallback. -/
def usable (x fallback : Binary64) : Binary64 :=
  if x.isFinite && Binary64.below 0 x then x else fallback

/-- Does the panel run along the top or the bottom? -/
def isBand : Panel → Bool
  | .top => true
  | .bottom => true
  | _ => false

/-- The far edge of a widget across a panel. -/
def farEdge (p : Panel) (w : Widget) : Binary64 :=
  if isBand p then w.pos.y + w.size.y else w.pos.x + w.size.x

/-- The thickness of a panel: enough for its widgets, never below the minimum. -/
def extent (p : Panel) (ws : List Widget) : Binary64 :=
  ws.foldl (fun e w => if (farEdge p w).isFinite then e.greater (farEdge p w + panelPad) else e)
    (if isBand p then minBand else minSide)

/-- The extent of a panel of a design. -/
def panelExtent (p : Project) (panel : Panel) : Binary64 := extent panel (p.inArea panel.area)

/-- Does the design have a widget of the kind? -/
def uses (p : Project) (k : Kind) : Bool := p.widgets.any fun w => w.kind == k

/-- A rule of dashes. -/
def rule : Stmt := .comment (String.ofList (List.replicate 66 '-'))

/-- The header with comments. -/
def fullHeader (f : Format) : List Stmt :=
  [rule, .comment ("Generated by radbuilder " ++ version),
    .comment "Target: Dear ImGui via imgui_bundle (pip install imgui-bundle)", rule]
    ++ if f = .uiOnly then [
      .comment "",
      .comment "UI function only. Create one GeneratedState and call",
      .comment "generated_ui(state) from your own frame callback, e.g.",
      .comment "    state = GeneratedState()",
      .comment "    immapp.run(lambda: generated_ui(state))"]
    else []

/-- The header without comments, a single line. -/
def briefHeader : List Stmt := [.comment "--- generated by radbuilder ---"]

/-- The modules imported from the drawing library. -/
def libraryModules (p : Project) (f : Format) : List String :=
  (if uses p .image then ["hello_imgui"] else []) ++ ["imgui"]
    ++ if f = .uiOnly then [] else ["immapp"]

/-- The imports of the standard library. -/
def standardImports (p : Project) : List Stmt :=
  (if uses p .datePicker then [.line ["import calendar"], .line ["import datetime"]] else [])
    ++ if uses p .tree then [.line ["from dataclasses import dataclass, field"]] else []

/-- Statements with a blank line after them, where there are any. -/
def spaced (ss : List Stmt) : List Stmt := if ss.isEmpty then [] else ss ++ [.blank]

def imports (p : Project) (f : Format) : List Stmt :=
  spaced (standardImports p)
    ++ [.line ["from imgui_bundle import ", .code (", ".intercalate (libraryModules p f))]]

/-- The flags of a panel window. -/
def panelFlags : Stmt :=
  .wrapped ["PANEL_FLAGS = ("] [
    ["imgui.WindowFlags_.no_title_bar"],
    ["| imgui.WindowFlags_.no_resize"],
    ["| imgui.WindowFlags_.no_move"],
    ["| imgui.WindowFlags_.no_collapse"]] [")"]

/-- The type of tree nodes, and the function that shows them. -/
def treeHelpers : List Stmt := [
  .line ["@dataclass"],
  .block ["class GenTreeNode"] [
    .line ["label: str"],
    .line ["children: list[", .text "GenTreeNode", "] = field(default_factory=list)"]],
  .blank,
  .blank,
  .block ["def gen_show_tree(nodes: list[GenTreeNode]) -> None"] [
    .block ["for i, node in enumerate(nodes)"] [
      .line ["imgui.push_id(i)"],
      .block ["if node.children"] [
        .block ["if imgui.tree_node(node.label)"] [
          .line ["gen_show_tree(node.children)"],
          .line ["imgui.tree_pop()"]]],
      .block ["else"] [
        .line ["imgui.bullet_text(node.label)"]],
      .line ["imgui.pop_id()"]]]]

/-- The function that makes a date out of three numbers. -/
def dateHelpers : List Stmt := [
  .block ["def gen_make_date(parts: list[int]) -> datetime.date"] [
    .line ["year = min(max(parts[0], 1), 9999)"],
    .line ["month = min(max(parts[1], 1), 12)"],
    .line ["day = min(max(parts[2], 1), calendar.monthrange(year, month)[1])"],
    .line ["return datetime.date(year, month, day)"]]]

/-- A section that is set off by two blank lines. -/
def setOff (ss : List Stmt) : List Stmt := .blank :: .blank :: ss

def helpers (p : Project) : List Stmt :=
  panelFlags :: (if uses p .tree then setOff treeHelpers else [])
    ++ if uses p .datePicker then setOff dateHelpers else []

/-- The state record. -/
def stateClass (p : Project) : List Stmt := [
  .block ["class GeneratedState"]
    (.comment "Runtime values of every interactive widget."
      :: (fields p).map (fun f => .line f.declaration)
      ++ [.blank, .block ["def __init__(self) -> None"]
        ((fields p).map fun f => .line f.assignment)])]

/-- The code of widgets, one after another. -/
def blocks (ws : List Widget) : List Stmt := ws.flatMap block

/-- A panel: its window, drawn while its switch is on. -/
def panelCode (p : Project) (panel : Panel) (pos size : String) : List Stmt := [
  .comment (panel.area.tag ++ " panel"),
  .block ["if state.", .slot (.panel panel)]
    ([.line [.code (panelName panel), " = ", .number (panelExtent p panel) 1],
      .line ["imgui.set_next_window_pos(", .code pos, ")"],
      .line ["imgui.set_next_window_size(", .code size, ")"],
      .line ["imgui.begin(", .text ("##panel_" ++ panelName panel), ", None, PANEL_FLAGS)"],
      .line ["origin = imgui.get_cursor_screen_pos()"]]
      ++ blocks (p.inArea panel.area)
      ++ [.line ["imgui.end()"]])]

/-- The central canvas. -/
def canvasCode (p : Project) : List Stmt :=
  [.comment "Central canvas",
    .line ["imgui.set_next_window_pos(imgui.ImVec2(work_pos.x + left, work_pos.y + top))"],
    .line ["imgui.set_next_window_size(imgui.ImVec2(work_size.x - left - right, ",
      "work_size.y - top - bottom))"],
    .line ["imgui.begin(", .text "##canvas",
      ", None, PANEL_FLAGS | imgui.WindowFlags_.horizontal_scrollbar)"],
    .line ["origin = imgui.get_cursor_screen_pos()"]]
    ++ blocks (p.inArea .center) ++ blocks (p.inArea .free)
    ++ [.line ["imgui.set_cursor_screen_pos(origin)"],
    .line ["imgui.dummy(",
      .vector ⟨usable p.canvas.x 800, usable p.canvas.y 600⟩, ")"],
    .line ["imgui.end()"]]

/-- The function that draws everything. -/
def uiFunction (p : Project) : List Stmt := [
  .block ["def generated_ui(state: GeneratedState) -> None"]
    ([.line ["viewport = imgui.get_main_viewport()"],
      .line ["work_pos = viewport.work_pos"],
      .line ["work_size = viewport.work_size"],
      .line ["top = bottom = left = right = 0.0"]]
      ++ panelCode p .top "work_pos" "imgui.ImVec2(work_size.x, top)"
      ++ panelCode p .bottom "imgui.ImVec2(work_pos.x, work_pos.y + work_size.y - bottom)"
        "imgui.ImVec2(work_size.x, bottom)"
      ++ panelCode p .left "imgui.ImVec2(work_pos.x, work_pos.y + top)"
        "imgui.ImVec2(left, work_size.y - top - bottom)"
      ++ panelCode p .right "imgui.ImVec2(work_pos.x + work_size.x - right, work_pos.y + top)"
        "imgui.ImVec2(right, work_size.y - top - bottom)"
      ++ canvasCode p)]

/-- What the panels that are switched on add to one side of the canvas. -/
def withPanels (p : Project) (side : Binary64) (panels : List Panel) : Binary64 :=
  panels.foldl (fun s panel => if p.panels.get panel then s + panelExtent p panel else s) side

/-- A side of the window in whole pixels. The sum of the extents may overflow; the largest side
bounds it before the fraction is dropped. -/
def windowSide (side : Binary64) : Nat := (side.lesser maxWindowSide).wholePart

/-- The size of the window: the canvas and the panels around it. -/
def windowSize (p : Project) : Nat × Nat :=
  (windowSide (withPanels p (usable p.canvas.x 800) [.left, .right]),
    windowSide (withPanels p (usable p.canvas.y 600) [.top, .bottom]))

/-- The part that starts a program. -/
def mainCode (p : Project) : List Stmt := [
  .block ["def main() -> None"] [
    .line ["state = GeneratedState()"],
    .wrapped ["immapp.run("] [
      ["gui_function=lambda: generated_ui(state),"],
      ["window_title=", .text "radbuilder app", ","],
      ["window_size=(", .integer (windowSize p).1, ", ", .integer (windowSize p).2, "),"]] [")"]],
  .blank,
  .blank,
  .block ["if __name__ == ", .text "__main__"] [
    .line ["main()"]]]

/-- Everything but the header, with its comments. -/
def moduleBody (p : Project) (f : Format) : List Stmt :=
  .blank :: imports p f ++ setOff (helpers p) ++ setOff (stateClass p) ++ setOff (uiFunction p)
    ++ if f = .uiOnly then [] else setOff (mainCode p)

/-- The whole module. -/
def moduleCode (p : Project) (f : Format) (comments : Bool) : List Stmt :=
  (if comments then fullHeader f else briefHeader) ++ Stmt.commented comments (moduleBody p f)

/-- The line before the text of a file in a text of several files. -/
def fileMarker (name : String) : Stmt := .comment ("FILE: " ++ name)

/-- The name of the generated module. -/
def moduleFile : String := "generated_ui.py"

/-- The manifest of the package around a module. -/
def packageManifest : List Stmt := [
  fileMarker "pyproject.toml",
  .line ["[project]"],
  .line ["name = ", .text "generated-ui"],
  .line ["version = ", .text "0.1.0"],
  .line ["requires-python = ", .text ">=3.10"],
  .line ["dependencies = [", .text "imgui-bundle>=1.6", "]"],
  .blank,
  .line ["[project.scripts]"],
  .line ["generated-ui = ", .text "generated_ui:main"],
  .blank,
  fileMarker moduleFile]

/-- What a format puts in front of the module. -/
def framing : Format → List Stmt
  | .separate => packageManifest
  | _ => []

/-- The characters after the first occurrence of `mark`. -/
def after? (mark : List Char) : List Char → Option (List Char)
  | [] => if mark = [] then some [] else none
  | c :: cs =>
    if mark.isPrefixOf (c :: cs) then some ((c :: cs).drop mark.length) else after? mark cs

/-- The module inside a text of several files. -/
def moduleSection? (text : String) : Option String :=
  (after? ("# FILE: " ++ moduleFile ++ "\n").toList text.toList).map String.ofList

end Source

/-- The generated code of a design. -/
def Project.generate (p : Project) (f : Source.Format) (comments : Bool) : String :=
  Source.Stmt.text (Source.framing f ++ Source.moduleCode p f comments)

end Formwork

import Formwork.Proofs.Source.Plain

/-!
# Texts stay in their literals

No text of a design becomes program text. Two designs that differ in their free-form texts alone
(`Project.Alike`) are written as modules with the same skeleton, and in both every literal is
closed on the line where it begins (`Project.skeleton_generate`).

What a text decides besides the contents of literals is whether it is empty, how many options
there are, and the shape of an outline; `Alike` compares exactly those. It does not compare
options one by one, so an option may be empty in one design and not in the other.
-/

set_option autoImplicit false

namespace Formwork

/-- Both texts are empty, or neither is. -/
def SameText (s t : String) : Prop := s = "" ↔ t = ""

instance (s t : String) : Decidable (SameText s t) :=
  inferInstanceAs (Decidable (s = "" ↔ t = ""))

/-- As many options, and the same selection. -/
structure Choice.Alike (c d : Choice) : Prop where
  count : c.items.length = d.items.length
  selected : c.selected = d.selected

/-- As many lines, read as forests of one shape. -/
structure Outline.Alike (ls ms : List String) : Prop where
  count : ls.length = ms.length
  shape : Node.unlabelled (Outline.parse ls) = Node.unlabelled (Outline.parse ms)

/-- Controls of one kind that differ in their free-form texts alone. -/
inductive Control.Alike : Control → Control → Prop where
  | menuButton {s t : String} {c d : Choice} (text : SameText s t) (choice : c.Alike d) :
    Alike (.menuButton s c) (.menuButton t d)
  | label {s t : String} (text : SameText s t) : Alike (.label s) (.label t)
  | heading {s t : String} (text : SameText s t) : Alike (.heading s) (.heading t)
  | small {s t : String} (text : SameText s t) : Alike (.small s) (.small t)
  | monospace {s t : String} (text : SameText s t) : Alike (.monospace s) (.monospace t)
  | button {s t : String} (text : SameText s t) : Alike (.button s) (.button t)
  | imageTextButton {s t i j : String} (text : SameText s t) (icon : SameText i j) :
    Alike (.imageTextButton s i) (.imageTextButton t j)
  | checkbox {s t : String} (text : SameText s t) (checked : Bool) :
    Alike (.checkbox s checked) (.checkbox t checked)
  | textEdit {s t : String} (text : SameText s t) : Alike (.textEdit s) (.textEdit t)
  | textArea {s t : String} (text : SameText s t) : Alike (.textArea s) (.textArea t)
  | slider {s t : String} (text : SameText s t) (range : Range) :
    Alike (.slider s range) (.slider t range)
  | progressBar (value : Binary64) : Alike (.progressBar value) (.progressBar value)
  | radioGroup {s t : String} {c d : Choice} (text : SameText s t) (choice : c.Alike d) :
    Alike (.radioGroup s c) (.radioGroup t d)
  | link {s t : String} (text : SameText s t) : Alike (.link s) (.link t)
  | hyperlink {s t u v : String} (text : SameText s t) (url : SameText u v) :
    Alike (.hyperlink s u) (.hyperlink t v)
  | selectableLabel {s t : String} (text : SameText s t) (checked : Bool) :
    Alike (.selectableLabel s checked) (.selectableLabel t checked)
  | comboBox {s t : String} {c d : Choice} (text : SameText s t) (choice : c.Alike d) :
    Alike (.comboBox s c) (.comboBox t d)
  | separator : Alike .separator .separator
  | collapsingHeader {s t : String} (text : SameText s t) (checked : Bool) :
    Alike (.collapsingHeader s checked) (.collapsingHeader t checked)
  | datePicker {s t : String} (text : SameText s t) (day : Day) :
    Alike (.datePicker s day) (.datePicker t day)
  | angleSelector {s t : String} (text : SameText s t) (range : Range) :
    Alike (.angleSelector s range) (.angleSelector t range)
  | password {s t : String} (text : SameText s t) : Alike (.password s) (.password t)
  | tree {s t : String} {ls ms : List String} (text : SameText s t)
      (lines : Outline.Alike ls ms) : Alike (.tree s ls) (.tree t ms)
  | dragValue {s t : String} (text : SameText s t) (range : Range) :
    Alike (.dragValue s range) (.dragValue t range)
  | spinner : Alike .spinner .spinner
  | colorPicker {s t : String} (text : SameText s t) (color : Color) :
    Alike (.colorPicker s color) (.colorPicker t color)
  | code {s t : String} (text : SameText s t) : Alike (.code s) (.code t)
  | image {s t u v : String} (text : SameText s t) (url : SameText u v) :
    Alike (.image s u) (.image t v)
  | placeholder {s t : String} (text : SameText s t) (color : Color) :
    Alike (.placeholder s color) (.placeholder t color)
  | group {s t : String} (text : SameText s t) (horizontal : Bool) :
    Alike (.group s horizontal) (.group t horizontal)
  | scrollBox {s t : String} (text : SameText s t) : Alike (.scrollBox s) (.scrollBox t)
  | tabBar {c d : Choice} (choice : c.Alike d) : Alike (.tabBar c) (.tabBar d)
  | columns {s t : String} (text : SameText s t) (count : Int) :
    Alike (.columns s count) (.columns t count)
  | window {s t : String} (text : SameText s t) : Alike (.window s) (.window t)

structure Props.Alike (p q : Props) : Prop where
  tooltip : SameText p.tooltip q.tooltip
  enabled : p.enabled = q.enabled
  control : p.control.Alike q.control

/-- Widgets that differ in their free-form texts alone. -/
structure Widget.Alike (w v : Widget) : Prop where
  id : w.id = v.id
  pos : w.pos = v.pos
  size : w.size = v.size
  z : w.z = v.z
  area : w.area = v.area
  props : w.props.Alike v.props

/-- Designs that differ in their free-form texts alone. -/
structure Project.Alike (p q : Project) : Prop where
  widgets : List.Forall₂ Widget.Alike p.widgets q.widgets
  canvas : p.canvas = q.canvas
  panels : p.panels = q.panels

theorem Control.Alike.kind_eq {c d : Control} (alike : c.Alike d) : c.kind = d.kind := by
  cases alike <;> rfl

theorem Widget.Alike.kind_eq {w v : Widget} (alike : w.Alike v) : w.kind = v.kind :=
  alike.props.control.kind_eq

theorem Project.Alike.inArea {p q : Project} (alike : p.Alike q) (a : Area) :
    List.Forall₂ Widget.Alike (p.inArea a) (q.inArea a) := by
  refine List.rel_filter (fun w v h => ?_) alike.widgets
  show (w.area == a) = true ↔ (v.area == a) = true
  rw [h.area]

namespace Source

open Stmt (emptiedAll emptiedAll_append)

/-! ## Controls -/

private theorem emptied_texts {as bs : List String} (count : as.length = bs.length) :
    Piece.emptied (.texts as) = Piece.emptied (.texts bs) := by
  rw [Piece.emptied, Piece.emptied, List.map_const', List.map_const', count]

private theorem length_shownOptions {as bs : List String} (count : as.length = bs.length) :
    (shownOptions as).length = (shownOptions bs).length := by
  cases as with
  | nil => rw [List.length_eq_zero_iff.1 count.symm]
  | cons a as =>
    cases bs with
    | nil => exact absurd count (Nat.succ_ne_zero _)
    | cons b bs => exact count

private theorem emptied_forest {ls ms : List String} (alike : Outline.Alike ls ms) :
    Piece.emptied (.forest (treesOf ls)) = Piece.emptied (.forest (treesOf ms)) := by
  cases ls with
  | nil => rw [List.length_eq_zero_iff.1 alike.count.symm]
  | cons l ls =>
    cases ms with
    | nil => exact absurd alike.count (Nat.succ_ne_zero _)
    | cons m ms => exact congrArg Piece.forest alike.shape

private theorem emptiedAll_titled {s t : String} {ss ts us vs : List Stmt} (text : SameText s t)
    (title : emptiedAll ss = emptiedAll ts) (rest : emptiedAll us = emptiedAll vs) :
    emptiedAll (whereText s ss ++ us) = emptiedAll (whereText t ts ++ vs) := by
  rw [emptiedAll_append, emptiedAll_append, whereText, whereText, rest]
  by_cases empty : s = ""
  · rw [if_pos empty, if_pos (text.1 empty)]
  · rw [if_neg empty, if_neg (mt text.2 empty), title]

/-- What draws a control is the same for controls that are alike, up to the texts in it. -/
theorem emptiedAll_body {c d : Control} (alike : c.Alike d) (id : Int) (size pos : Vec) :
    emptiedAll (body id size pos c) = emptiedAll (body id size pos d) := by
  cases alike with
  | menuButton _ choice =>
    have options := emptied_texts (length_shownOptions choice.count)
    simp only [body, menuButton, emptiedAll, Stmt.emptied, Line.emptied, List.map_cons, options]
    rfl
  | radioGroup text choice =>
    have options := emptied_texts (length_shownOptions choice.count)
    refine emptiedAll_titled text rfl ?_
    simp only [emptiedAll, Stmt.emptied, Line.emptied, List.map_cons, options]
  | comboBox _ choice =>
    have options := emptied_texts (length_shownOptions choice.count)
    simp only [body, comboBox, emptiedAll, Stmt.emptied, Line.emptied, List.map_cons, options]
    rfl
  | tabBar choice =>
    have options := emptied_texts choice.count
    simp only [body, tabBar, emptiedAll, Stmt.emptied, Line.emptied, List.map_cons, options]
  | datePicker text _ => exact emptiedAll_titled text rfl rfl
  | tree text lines =>
    have forest := emptied_forest lines
    refine congrArg (_ :: ·) (emptiedAll_titled text rfl ?_)
    simp only [emptiedAll, Stmt.emptied, Line.emptied, List.map_cons, forest]
  | dragValue text _ => exact emptiedAll_titled text rfl rfl
  | group text _ => exact congrArg (_ :: ·) (emptiedAll_titled text rfl rfl)
  | _ => rfl

/-! ## Widgets -/

private theorem emptiedAll_tooltip {s t : String} (text : SameText s t) :
    emptiedAll (tooltip s) = emptiedAll (tooltip t) := by
  rw [tooltip, tooltip, ← List.append_nil (whereText s _), ← List.append_nil (whereText t _)]
  exact emptiedAll_titled text rfl rfl

/-- The code of widgets that are alike is the same, up to the texts in it. -/
theorem emptiedAll_block {w v : Widget} (alike : w.Alike v) :
    emptiedAll (block w) = emptiedAll (block v) := by
  have same : header w :: placement w = header v :: placement v := by
    rw [header, header, placement, placement, alike.kind_eq, alike.id, alike.pos]
  have disabled (s : Stmt) : whereDisabled w.props s = whereDisabled v.props s := by
    rw [whereDisabled, whereDisabled, alike.props.enabled]
  rw [block, block, same, disabled, disabled, alike.id, alike.size, alike.pos]
  have control := emptiedAll_body alike.props.control v.id v.size v.pos
  have tooltips := emptiedAll_tooltip alike.props.tooltip
  simp only [emptiedAll_append, control, tooltips]

private theorem map_eq_of_forall₂ {α : Type} {f : Widget → α} {ws vs : List Widget}
    (alike : List.Forall₂ Widget.Alike ws vs) (h : ∀ w v, w.Alike v → f w = f v) :
    ws.map f = vs.map f := by
  induction alike with
  | nil => rfl
  | cons first _ ih => rw [List.map_cons, List.map_cons, h _ _ first, ih]

theorem emptiedAll_blocks {ws vs : List Widget} (alike : List.Forall₂ Widget.Alike ws vs) :
    emptiedAll (blocks ws) = emptiedAll (blocks vs) := by
  induction alike with
  | nil => rfl
  | cons first _ ih =>
    rw [blocks, blocks, List.flatMap_cons, List.flatMap_cons, emptiedAll_append, emptiedAll_append,
      emptiedAll_block first]
    exact congrArg (_ ++ ·) ih

theorem extent_eq {ws vs : List Widget} (alike : List.Forall₂ Widget.Alike ws vs)
    (panel : Panel) : extent panel ws = extent panel vs := by
  have edges : ws.map (farEdge panel) = vs.map (farEdge panel) :=
    map_eq_of_forall₂ alike fun w v h => by rw [farEdge, farEdge, h.pos, h.size]
  have general (us : List Widget) : extent panel us = (us.map (farEdge panel)).foldl
      (fun e x => if x.isFinite then e.greater (x + panelPad) else e)
      (if isBand panel then minBand else minSide) := by
    rw [extent, List.foldl_map]
  rw [general, general, edges]

/-! ## State -/

/-- The field without the texts in it. -/
def Field.emptied (f : Field) : Field := { f with initial := Line.emptied f.initial }

/-- The field of a control with a given id. -/
def fieldAt (id : Int) (c : Control) : Option Field :=
  (stateOf c).map fun (stem, annotation, initial) => ⟨.widget stem id, annotation, initial⟩

private theorem selection_eq {c d : Choice} (choice : c.Alike d) :
    stateOf.selection c = stateOf.selection d := by
  rw [stateOf.selection, stateOf.selection, choice.count, choice.selected]

theorem emptied_fieldAt {c d : Control} (alike : c.Alike d) (id : Int) :
    (fieldAt id c).map Field.emptied = (fieldAt id d).map Field.emptied := by
  cases alike with
  | menuButton _ choice => simp only [fieldAt, stateOf, selection_eq choice]
  | radioGroup _ choice => simp only [fieldAt, stateOf, selection_eq choice]
  | comboBox _ choice => simp only [fieldAt, stateOf, selection_eq choice]
  | tabBar choice => simp only [fieldAt, stateOf, choice.count, choice.selected]
  | _ => rfl

theorem emptied_fieldOf {w v : Widget} (alike : w.Alike v) :
    (fieldOf w).map Field.emptied = (fieldOf v).map Field.emptied := by
  have same := emptied_fieldAt alike.props.control w.id
  rw [alike.id] at same
  have left : fieldOf w = fieldAt v.id w.props.control := by rw [← alike.id]; rfl
  rw [left]
  exact same

section Project

variable {p q : Project} (alike : p.Alike q)

include alike

theorem emptied_fields : (fields p).map Field.emptied = (fields q).map Field.emptied := by
  have switches : panelField p.panels = panelField q.panels := by rw [alike.panels]
  have own (a : Area) : ((p.inArea a).filterMap fieldOf).map Field.emptied =
      ((q.inArea a).filterMap fieldOf).map Field.emptied := by
    have same := map_eq_of_forall₂ (alike.inArea a) fun _ _ => emptied_fieldOf
    have general (ws : List Widget) : (ws.filterMap fieldOf).map Field.emptied =
        (ws.map fun w => (fieldOf w).map Field.emptied).filterMap id := by
      rw [List.map_filterMap, List.filterMap_map]
      rfl
    rw [general, general, same]
  simp only [fields, List.map_append, List.map_flatMap, switches, own]

theorem uses_eq (k : Kind) : uses p k = uses q k := by
  have kinds : p.widgets.map Widget.kind = q.widgets.map Widget.kind :=
    map_eq_of_forall₂ alike.widgets fun _ _ => Widget.Alike.kind_eq
  have general (r : Project) : uses r k = (r.widgets.map Widget.kind).any fun j => j == k := by
    rw [uses, List.any_map]
    rfl
  rw [general, general, kinds]

theorem panelExtent_eq (panel : Panel) : panelExtent p panel = panelExtent q panel :=
  extent_eq (alike.inArea panel.area) panel

theorem windowSize_eq : windowSize p = windowSize q := by
  have extents : panelExtent p = panelExtent q := funext (panelExtent_eq alike)
  rw [windowSize, windowSize, withPanels, withPanels, withPanels, withPanels, alike.canvas,
    alike.panels, extents]

private theorem imports_eq (f : Format) : imports p f = imports q f := by
  simp only [imports, standardImports, libraryModules, uses_eq alike]

private theorem helpers_eq : helpers p = helpers q := by
  simp only [helpers, uses_eq alike]

private theorem mainCode_eq : mainCode p = mainCode q := by
  simp only [mainCode, windowSize_eq alike]

private theorem emptiedAll_stateClass : emptiedAll (stateClass p) = emptiedAll (stateClass q) := by
  have same := emptied_fields alike
  have declarations (fs : List Field) : emptiedAll (fs.map fun f => .line f.declaration) =
      (fs.map Field.emptied).map fun f => .line f.declaration := by
    induction fs with
    | nil => rfl
    | cons f fs ih => exact congrArg (_ :: ·) ih
  have assignments (fs : List Field) : emptiedAll (fs.map fun f => .line f.assignment) =
      (fs.map Field.emptied).map fun f => .line f.assignment := by
    induction fs with
    | nil => rfl
    | cons f fs ih => exact congrArg (_ :: ·) ih
  simp only [stateClass, emptiedAll, Stmt.emptied, emptiedAll_append, List.cons_append,
    declarations, assignments, same]

private theorem emptiedAll_panelCode (panel : Panel) (pos size : String) :
    emptiedAll (panelCode p panel pos size) = emptiedAll (panelCode q panel pos size) := by
  have code := emptiedAll_blocks (alike.inArea panel.area)
  simp only [panelCode, emptiedAll, Stmt.emptied, emptiedAll_append, panelExtent_eq alike, code]

private theorem emptiedAll_canvasCode : emptiedAll (canvasCode p) = emptiedAll (canvasCode q) := by
  have center := emptiedAll_blocks (alike.inArea .center)
  have free := emptiedAll_blocks (alike.inArea .free)
  simp only [canvasCode, emptiedAll_append, alike.canvas, center, free]

private theorem emptiedAll_uiFunction : emptiedAll (uiFunction p) = emptiedAll (uiFunction q) := by
  simp only [uiFunction, emptiedAll, Stmt.emptied, emptiedAll_append, emptiedAll_panelCode alike,
    emptiedAll_canvasCode alike]

private theorem emptiedAll_moduleBody (f : Format) :
    emptiedAll (moduleBody p f) = emptiedAll (moduleBody q f) := by
  simp only [moduleBody, setOff, emptiedAll, emptiedAll_append, imports_eq alike, helpers_eq alike,
    emptiedAll_stateClass alike, emptiedAll_uiFunction alike, mainCode_eq alike]

/-- The modules of designs that are alike are the same, up to the texts in them. -/
theorem emptiedAll_moduleCode (f : Format) (comments : Bool) :
    emptiedAll (moduleCode p f comments) = emptiedAll (moduleCode q f comments) := by
  rw [moduleCode, moduleCode, emptiedAll_append, emptiedAll_append, Stmt.emptiedAll_commented,
    Stmt.emptiedAll_commented, emptiedAll_moduleBody alike]

end Project

end Source

open Source (Format framing moduleCode)
open Source.Stmt (emptiedAll emptiedAll_append)
open Text (skeleton Whole SameSkeleton)

/-- Every literal of a generated module is closed on the line where it begins, and the skeleton is
that of the module without the texts of the design. -/
theorem Project.sameSkeleton_generate (p : Project) (f : Format) (comments : Bool) :
    SameSkeleton (p.generate f comments)
      (Source.Stmt.text (emptiedAll (framing f ++ moduleCode p f comments))) := by
  apply Source.Stmt.sameSkeleton_text
  rw [Source.Stmt.isPlainAll_append, Source.isPlainAll_framing, Source.isPlainAll_moduleCode]
  rfl

/-- No text of a design becomes program text. Designs that differ in their free-form texts alone
are written with the same skeleton, and no literal of either module is left open or spans a line
break. -/
theorem Project.skeleton_generate {p q : Project} (alike : p.Alike q) (f : Format)
    (comments : Bool) :
    skeleton (p.generate f comments) = skeleton (q.generate f comments)
      ∧ Whole (p.generate f comments) ∧ Whole (q.generate f comments) := by
  have left := p.sameSkeleton_generate f comments
  have right := q.sameSkeleton_generate f comments
  rw [emptiedAll_append, ← Source.emptiedAll_moduleCode alike, ← emptiedAll_append] at right
  exact ⟨(left.trans right.symm).same, left.left, right.left⟩

/-- A button and a tree. -/
def Project.captioned (caption : String) (lines : List String) : Project :=
  { widgets := [⟨1, {}, {}, 0, .free, { control := .button caption }⟩,
      ⟨2, {}, {}, 0, .free, { control := .tree "" lines }⟩] }

/-- A caption that would end its literal and the call around it, and an outline that would do the
same. -/
theorem Project.skeleton_generate_captioned :
    skeleton ((captioned "Save" ["Root", "  Child"]).generate .single true) =
        skeleton ((captioned "\"); import os\n" ["\"])", "  \\"]).generate .single true)
      ∧ Whole ((captioned "Save" ["Root", "  Child"]).generate .single true)
      ∧ Whole ((captioned "\"); import os\n" ["\"])", "  \\"]).generate .single true) := by
  have button : SameText "Save" "\"); import os\n" := by decide
  have outline : Outline.Alike ["Root", "  Child"] ["\"])", "  \\"] := ⟨rfl, by rfl⟩
  have props {c d : Control} (alike : c.Alike d) : Props.Alike { control := c } { control := d } :=
    ⟨Iff.rfl, rfl, alike⟩
  have alike : (captioned "Save" ["Root", "  Child"]).Alike
      (captioned "\"); import os\n" ["\"])", "  \\"]) :=
    ⟨.cons ⟨rfl, rfl, rfl, rfl, rfl, props (.button button)⟩
      (.cons ⟨rfl, rfl, rfl, rfl, rfl, props (.tree Iff.rfl outline)⟩ .nil), rfl, rfl⟩
  exact skeleton_generate alike .single true

end Formwork

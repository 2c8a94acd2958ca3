import Formwork.Proofs.Manifest.Entries
import Formwork.Proofs.Source.Shown

/-!
# A preview shows what the program shows

A manifest and a generated module are written from the same design, each by itself. Both bring
selections and counts of columns into range, and both set out the trees of an outline, one as JSON
and the other as an expression. They agree (`Project.agree_manifest`): the option that a preview
shows is the one that the record of the program begins with, the columns are those of its table, and
the outline is the forest that its code denotes.

Each side is read from what is written: the manifest by its members, the first values from the lines
of the record, the columns and the forest from the lines that draw the widget. An outline without
lines is left out, since the program shows a sample in its place.
-/

set_option autoImplicit false

namespace Formwork

namespace Manifest

open Source

/-! ## Outlines -/

mutual

/-- The tree that a value sets out by its label and its children. -/
def tree? : Json → Option Node
  | .object [("label", .text label), ("children", .list items)] =>
    (trees? items).map (.node label)
  | _ => none

/-- The trees that values set out. -/
def trees? : List Json → Option (List Node)
  | [] => some []
  | v :: vs => do
    let n ← tree? v
    let ns ← trees? vs
    some (n :: ns)

end

mutual

theorem tree?_fold : ∀ n : Node, tree? (n.fold nodeJson) = some n
  | .node label cs => by
    rw [Node.fold, nodeJson, tree?, trees?_foldAll cs]
    rfl

theorem trees?_foldAll : ∀ ns : List Node, trees? (Node.foldAll nodeJson ns) = some ns
  | [] => rfl
  | n :: ns => by
    rw [Node.foldAll, trees?, tree?_fold n, trees?_foldAll ns]
    rfl

end

/-! ## Selections -/

section Selection

variable {control : Control} {c : Choice}

theorem summary_choice (h : control.choice? = some c) :
    (summary control).2 = shownChoice c := by
  cases control with
  | menuButton t d | radioGroup t d | comboBox t d | tabBar d =>
    rw [← Option.some.inj h]
    rfl
  | _ => cases h

theorem stateOf_choice (h : control.choice? = some c) : ∃ stem, stateOf control =
    some (stem, "int", [.integer (clampIndex c.selected c.items.length)]) := by
  cases control with
  | menuButton t d | radioGroup t d | comboBox t d | tabBar d =>
    rw [← Option.some.inj h]
    exact ⟨_, rfl⟩
  | _ => cases h

/-- From zero on, both ways to bring a selection into range are the same. -/
theorem shownChoice_eq (natural : 0 ≤ c.selected) :
    shownChoice c = .choice c.items (clampIndex c.selected c.items.length) := by
  rw [shownChoice, clampIndex]
  cases c.items with
  | nil => rfl
  | cons item items =>
    have some_item : ¬ (item :: items).length = 0 := Nat.succ_ne_zero _
    rw [if_neg some_item, List.length_cons]
    congr 1
    have other : ¬ (item :: items).isEmpty = true := nofun
    rw [if_neg other]
    omega

theorem clampIndex_lt {selected : Int} {count : Nat} (some_item : 0 < count) :
    0 ≤ clampIndex selected count ∧ clampIndex selected count < count := by
  rw [clampIndex, if_neg (Nat.ne_of_gt some_item)]
  omega

theorem clampIndex_of_lt {selected : Int} {count : Nat} (natural : 0 ≤ selected)
    (within : selected < count) : clampIndex selected count = selected := by
  have some_item : ¬ count = 0 := by omega
  rw [clampIndex, if_neg some_item]
  omega

end Selection

/-! ## Widgets -/

/-- The entry of a widget in a manifest shows what the program shows: `text` is the module, and
`block` has the lines that draw the widget. -/
structure Agree (text : String) (block : List String) (w : Widget) (entry : Json) : Prop where
  choice : ∀ c, w.props.control.choice? = some c → ∃ (n : Int) (name : String),
    entry.member? "items" = some (.texts c.items) ∧
    entry.member? "selected" = some (.integer n) ∧
    nameOf w = some name ∧
    (valuesOf text name).map (fun value => integer? value.toList) = [some n] ∧
    (c.items ≠ [] → 0 ≤ n ∧ n < c.items.length) ∧
    (c.selected < c.items.length → n = c.selected)
  columns : ∀ t count, w.props.control = .columns t count → ∃ n : Int,
    entry.member? "columns" = some (.integer n) ∧
    tableColumns block = [n] ∧
    loopColumns block = [n]
  outline : ∀ t lines, w.props.control = .tree t lines → lines ≠ [] → ∃ items trees,
    entry.member? "outline" = some (.list items) ∧
    trees? items = some trees ∧
    shownForests block = [trees]

theorem member?_detail (w : Widget) {key : String} {v : Json}
    (mem : (key, v) ∈ (summary w.props.control).2.members) :
    (entry w).toJson.member? key = some v :=
  member?_entry (entry w) rfl (List.mem_append_right _ mem)

section Widget

variable {p : Project} {w : Widget} (f : Format) (comments : Bool)

/-- The field of a widget with options is given the selection that the manifest shows. -/
theorem valuesOf_choice (distinct : p.ids.Nodup) (mem : w ∈ p.widgets) {c : Choice}
    (h : w.props.control.choice? = some c) : ∃ name, nameOf w = some name ∧
      (valuesOf (p.generate f comments) name).map (fun value => integer? value.toList) =
        [some (clampIndex c.selected c.items.length)] := by
  obtain ⟨stem, state⟩ := stateOf_choice h
  have own : fieldOf w = some ⟨.widget stem w.id, "int",
      [.integer (clampIndex c.selected c.items.length)]⟩ := by
    rw [fieldOf, state]
    rfl
  have value : Line.render [.integer (clampIndex c.selected c.items.length)] =
      intText (clampIndex c.selected c.items.length) := by
    rw [render_cons]
    exact String.append_empty
  refine ⟨Slot.name (.widget stem w.id), by rw [nameOf, own]; rfl, ?_⟩
  rw [valuesOf_name distinct (mem_fields mem own) f comments, List.map_singleton]
  dsimp only
  rw [value, integer?_intText]

theorem agree_entry (selecting : p.Selecting) (mem : w ∈ p.widgets) (depth : Nat) :
    Agree (p.generate f comments) (widgetLines comments depth w) w (entry w).toJson where
  choice c h := by
    have natural : 0 ≤ c.selected := selecting.natural w mem c h
    have detail := (summary_choice h).trans (shownChoice_eq natural)
    obtain ⟨name, own, values⟩ := valuesOf_choice f comments selecting.distinct mem h
    refine ⟨_, name, member?_detail w ?_, member?_detail w ?_, own, values, ?_, ?_⟩
    · rw [detail]
      exact List.mem_cons_self
    · rw [detail]
      exact List.mem_cons_of_mem _ List.mem_cons_self
    · exact fun some_item => clampIndex_lt (List.length_pos_iff.2 some_item)
    · exact clampIndex_of_lt natural
  columns t count h := by
    refine ⟨max count 1, member?_detail w ?_, ?_, ?_⟩
    · rw [h]
      exact List.mem_cons_self
    · rw [tableColumns, found_widgetLines comments depth isMark_table, h]
      exact tableColumns_columns comments depth w.id w.size t count
    · rw [loopColumns, found_widgetLines comments depth isMark_loop, h]
      exact loopColumns_columns comments depth w.id w.size t count
  outline t lines h some_line := by
    refine ⟨_, Outline.parse lines, member?_detail w ?_, trees?_foldAll _, ?_⟩
    · rw [h]
      exact List.mem_cons_self
    · have shown : treesOf lines = Outline.parse lines := by
        rw [treesOf, if_neg (by rwa [List.isEmpty_iff])]
      rw [shownForests, found_widgetLines comments depth isMark_forest, h, ← shown]
      exact shownForests_tree comments depth w.id w.size t lines

end Widget

end Manifest

open Source Manifest in
/-- **A preview shows what the program shows.** The entries of a manifest are those of the widgets,
each once. Where the ids are distinct and no selection is negative, every entry agrees with the
generated text: with the first value of the field of its widget, and with the lines that draw it. -/
theorem Project.agree_manifest (p : Project) (f : Format) (comments : Bool)
    (selecting : p.Selecting) :
    ∃ ws, ws.Perm p.widgets ∧ List.Forall₂ (fun w entry => EntryOf w entry ∧
      ∃ depth, widgetLines comments depth w <:+: Text.lines (p.generate f comments) ∧
        Agree (p.generate f comments) (widgetLines comments depth w) w entry)
      ws (entries (Manifest.ofProject p).toJson) := by
  refine ⟨listed p, perm_listed p, ?_⟩
  rw [entries_ofProject, List.map_map, List.forall₂_map_right_iff, List.forall₂_same]
  intro w drawn
  have mem : w ∈ p.widgets := (perm_listed p).subset drawn
  obtain ⟨depth, part⟩ := exists_infix_generate comments mem f
  exact ⟨entryOf_entry w, depth, part, agree_entry f comments selecting mem depth⟩

/-- A combo box whose selection lies behind its two options, tabs without a title, columns of which
there are none, and a tree whose third line lies too deep. -/
def Project.outOfRange : Project :=
  { widgets := [
    { id := 3, size := ⟨120, 24⟩, props := { control := .comboBox "Size" ⟨["5\"", "7\""], 9⟩ } },
    { id := 1, size := ⟨300, 80⟩, area := .top, props := { control := .tabBar ⟨[], 4⟩ } },
    { id := 8, size := ⟨200, 90⟩, props := { control := .columns "Cell" 0 } },
    { id := 2, size := ⟨200, 90⟩, area := .center,
      props := { control := .tree "Files" ["src, [\\]", "  \"main\"", "      late", "docs"] } }] }

open Source Manifest in
theorem Project.agree_manifest_outOfRange :
    outOfRange.Selecting ∧
      ∃ ws, ws.Perm outOfRange.widgets ∧ List.Forall₂ (fun w entry => EntryOf w entry ∧
        ∃ depth, widgetLines true depth w <:+: Text.lines (outOfRange.generate .single true) ∧
          Agree (outOfRange.generate .single true) (widgetLines true depth w) w entry)
        ws (entries (Manifest.ofProject outOfRange).toJson) := by
  have selecting : outOfRange.Selecting := by decide
  exact ⟨selecting, agree_manifest outOfRange .single true selecting⟩

end Formwork

import Formwork.Manifest
import Formwork.Proofs.Design.PaintOrder
import Formwork.Proofs.Document.RoundTrip
import Formwork.Proofs.Source.Headers
import Mathlib.Data.List.Perm.Basic

/-!
# What a manifest lists

A manifest has a list of entries for each panel and one for the canvas, and every widget has its
entry in one of them (`Project.partition_manifest`). All of this is said about the manifest as JSON,
which `areaNames`, `entriesIn?` and `Json.member?` read; where a key stands twice in an object, the
last member counts.

So what the detail of an entry adds comes after what all entries have, and could take its place. It
does not: the keys of an entry are distinct, whatever its detail is (`nodup_keys`).
-/

set_option autoImplicit false

namespace Formwork

namespace Json

/-- The member of an object with a key; the last one, where there are several. -/
def member? (key : String) : Json → Option Json
  | object members => last? members key
  | _ => none

/-- The items of a list. -/
def items? : Json → Option (List Json)
  | list items => some items
  | _ => none

/-- The keys of an object. -/
def keys : Json → List String
  | object members => members.map Prod.fst
  | _ => []

end Json

namespace Manifest

/-! ## Reading a manifest -/

/-- The names of the areas. -/
def areaNames (m : Json) : List String := (m.member? "areas").elim [] Json.keys

/-- The entries of an area. -/
def entriesIn? (m : Json) (area : String) : Option (List Json) := do
  let areas ← m.member? "areas"
  let shown ← areas.member? area
  let listed ← shown.member? "widgets"
  listed.items?

/-- The entries of all areas. -/
def entries (m : Json) : List Json := ((areaNames m).filterMap (entriesIn? m)).flatten

/-- The entry has the widget's own id, kind, place, size, order and switch, and its tooltip. -/
structure EntryOf (w : Widget) (entry : Json) : Prop where
  id : entry.member? "id" = some (.integer w.id)
  kind : entry.member? "kind" = some (.text w.kind.tag)
  x : entry.member? "x" = some (.number w.pos.x)
  y : entry.member? "y" = some (.number w.pos.y)
  width : entry.member? "width" = some (.number w.size.x)
  height : entry.member? "height" = some (.number w.size.y)
  z : entry.member? "z" = some (.integer w.z)
  enabled : entry.member? "enabled" = some (.bool w.props.enabled)
  tooltip : entry.member? "tooltip" = some (.text w.props.tooltip)

/-- The list of an area shows the given widgets, in this order. -/
def Lists (m : Json) (area : String) (ws : List Widget) : Prop :=
  ∃ listed, entriesIn? m area = some listed ∧ List.Forall₂ EntryOf ws listed

/-! ## Entries -/

/-- No detail has a key that all entries have, and none has a key twice. -/
theorem nodup_keys (e : Entry) : e.toJson.keys.Nodup := by
  obtain ⟨id, kind, pos, size, z, enabled, tooltip, hasOptions, label, detail⟩ := e
  cases detail <;> simp [Json.keys, Entry.toJson, Detail.members]

theorem member?_entry (e : Entry) {members : List (String × Json)} {key : String} {v : Json}
    (object : e.toJson = .object members) (mem : (key, v) ∈ members) :
    e.toJson.member? key = some v := by
  have distinct := nodup_keys e
  rw [object] at distinct ⊢
  exact Document.last?_of_mem distinct mem

theorem entryOf_entry (w : Widget) : EntryOf w (entry w).toJson := by
  constructor
  all_goals exact member?_entry (entry w) rfl (List.mem_append_left _ (by simp [entry]))

theorem forall₂_entryOf (ws : List Widget) :
    List.Forall₂ EntryOf ws ((ws.map entry).map Entry.toJson) := by
  rw [List.map_map, List.forall₂_map_right_iff]
  exact List.forall₂_same.2 fun w _ => entryOf_entry w

/-! ## Areas -/

section Areas

variable {m : Manifest}

/-- Where names are distinct, the list under a name is the one of its section. -/
theorem entriesIn?_toJson (distinct : (m.sections.map Section.name).Nodup) {s : Section}
    (mem : s ∈ m.sections) : entriesIn? m.toJson s.name = some (s.entries.map Entry.toJson) := by
  have keys : ((m.sections.map fun s => (s.name, s.toJson)).map Prod.fst).Nodup := by
    rwa [List.map_map]
  have area : Json.last? (m.sections.map fun s => (s.name, s.toJson)) s.name = some s.toJson :=
    Document.last?_of_mem keys (List.mem_map_of_mem mem)
  show (Json.last? _ s.name).bind _ = _
  rw [area]
  rfl

theorem areaNames_toJson : areaNames m.toJson = m.sections.map Section.name := by
  show (m.sections.map fun s => (s.name, s.toJson)).map Prod.fst = _
  rw [List.map_map]
  rfl

theorem entries_toJson (distinct : (m.sections.map Section.name).Nodup) :
    entries m.toJson = m.sections.flatMap fun s => s.entries.map Entry.toJson := by
  have listed : (m.sections.map Section.name).filterMap (entriesIn? m.toJson) =
      m.sections.map fun s => s.entries.map Entry.toJson := by
    rw [List.filterMap_map, ← List.filterMap_eq_map]
    exact List.filterMap_congr fun s mem => entriesIn?_toJson distinct mem
  rw [entries, areaNames_toJson, listed, List.flatMap_def]

end Areas

/-! ## Projects -/

section Projects

variable (p : Project)

theorem names_ofProject :
    (ofProject p).sections.map Section.name = ["top", "bottom", "left", "right", "center"] := rfl

theorem nodup_names_ofProject : ((ofProject p).sections.map Section.name).Nodup := by
  rw [names_ofProject]
  decide

/-- The widgets of an area, in painting order. -/
def shown (a : Area) : List Widget := paintOrder (p.inArea a)

/-- The widgets of the panels and of the canvas, as they are listed. -/
def listed : List Widget := Area.drawOrder.flatMap (shown p)

theorem perm_listed : (listed p).Perm p.widgets :=
  (List.Perm.flatMap_left _ fun a _ => perm_paintOrder (p.inArea a)).trans (Source.perm_inArea p)

theorem lists_panel (panel : Panel) :
    Lists (ofProject p).toJson (Source.panelName panel) (shown p panel.area) := by
  have mem : panelSection p panel ∈ (ofProject p).sections := by
    refine List.mem_append_left _ (List.mem_map_of_mem ?_)
    cases panel <;> decide
  exact ⟨_, entriesIn?_toJson (nodup_names_ofProject p) mem, forall₂_entryOf _⟩

theorem lists_canvas : Lists (ofProject p).toJson "center" (shown p .center ++ shown p .free) := by
  have mem : canvasSection p ∈ (ofProject p).sections :=
    List.mem_append_right _ (List.mem_singleton_self _)
  refine ⟨_, entriesIn?_toJson (nodup_names_ofProject p) mem, ?_⟩
  have both : (canvasSection p).entries = (shown p .center ++ shown p .free).map entry :=
    List.map_append.symm
  rw [both]
  exact forall₂_entryOf _

theorem entries_ofProject :
    entries (ofProject p).toJson = ((listed p).map entry).map Entry.toJson := by
  rw [entries_toJson (nodup_names_ofProject p), listed]
  simp only [ofProject, panelSection, canvasSection, painted, shown, Panel.all, Panel.area,
    Area.drawOrder, List.map_cons, List.map_nil, List.map_append, List.flatMap_cons,
    List.flatMap_nil, List.flatMap_append, List.append_nil, List.append_assoc]

end Projects

end Manifest

open Manifest in
/-- **A manifest lists every widget once.** There is a list for each panel and one for the canvas.
The list of a panel has the widgets of that panel in painting order, the list of the canvas those of
the centre and then the free ones. The count is that of all entries, and every entry shows what is
its widget's own. -/
theorem Project.partition_manifest (p : Project) :
    let m := (Manifest.ofProject p).toJson
    ∃ shown : Area → List Widget,
      (∀ a, InPaintOrder (p.widgets.filter fun w => w.area = a) (shown a)) ∧
      areaNames m = ["top", "bottom", "left", "right", "center"] ∧
      (∀ panel : Panel, Lists m (Source.panelName panel) (shown panel.area)) ∧
      Lists m "center" (shown .center ++ shown .free) ∧
      (∃ ws, ws.Perm p.widgets ∧ List.Forall₂ EntryOf ws (entries m)) ∧
      m.member? "widget_count" = some (.integer (entries m).length) := by
  have each : List.Forall₂ EntryOf (listed p) (entries (Manifest.ofProject p).toJson) :=
    entries_ofProject p ▸ forall₂_entryOf (listed p)
  have count : p.widgets.length = (entries (Manifest.ofProject p).toJson).length :=
    (perm_listed p).length_eq.symm.trans each.length_eq
  refine ⟨Manifest.shown p, fun a => inPaintOrder_paintOrder _, ?_, lists_panel p, lists_canvas p,
    ⟨listed p, perm_listed p, each⟩, ?_⟩
  · exact areaNames_toJson.trans (names_ofProject p)
  · rw [← count]
    rfl

end Formwork

import Formwork.Proofs.Source.Record

/-!
# Values of the state record

A new state record gives every field its first value. `assignments` reads the names and the values
from the text of a module, one line after another, and finds what the fields of the design say
(`assignments_generate`). Where ids are distinct, each field is given one value (`valuesOf_name`).

A name ends at the first blank, so that this holds of every id, a negative one included.
-/

set_option autoImplicit false

namespace Formwork.Source

/-! ## Reading -/

/-- The name and the text of the value in a line that gives a field its value. -/
def assignment? (line : String) : Option (String × String) := do
  let cs ← line.toList.dropPrefix? (indentation 2 ++ "self.").toList
  let value ← (cs.dropWhile (· ≠ ' ')).dropPrefix? " = ".toList
  some (String.ofList (cs.takeWhile (· ≠ ' ')), String.ofList value)

/-- The names and values that are assigned when a record is made. -/
def assignments (text : String) : List (String × String) :=
  (recordLines text).filterMap assignment?

/-- The values that are given to the field of a name. -/
def valuesOf (text name : String) : List String :=
  ((assignments text).filter fun a => a.1 = name).map Prod.snd

/-! ## One line -/

theorem dropPrefix?_eq_none {mark cs : List Char} (other : ¬ mark <+: cs) :
    cs.dropPrefix? mark = none := by
  refine Option.eq_none_iff_forall_ne_some.2 fun rest found => other ?_
  obtain ⟨start, rfl, same⟩ := List.dropPrefix?_eq_some_iff.1 found
  rw [eq_of_beq same]
  exact List.prefix_append mark rest

theorem ne_blank_intText (n : Int) :
    ∀ c ∈ (intText n).toList, decide (c ≠ ' ') = true :=
  fun _ mem => decide_eq_true (ne_of_mem_of_not_mem mem (notMem_intText rfl (by decide)))

/-- No name of a field has a blank. -/
theorem ne_blank_name (s : Slot) : ∀ c ∈ s.name.toList, decide (c ≠ ' ') = true := by
  cases s with
  | panel p =>
    have side : ∀ c ∈ (panelName p).toList, decide (c ≠ ' ') = true := by
      cases p <;> exact ne_blank_chars _ rfl
    rw [Slot.name, String.toList_append]
    exact List.forall_mem_append.2 ⟨ne_blank_chars _ rfl, side⟩
  | widget stem id =>
    have start : ∀ c ∈ stem.start.toList, decide (c ≠ ' ') = true := by
      cases stem <;> exact ne_blank_chars _ rfl
    have finish : ∀ c ∈ stem.finish.toList, decide (c ≠ ' ') = true := by
      cases stem <;> exact ne_blank_chars _ rfl
    rw [Slot.name, String.toList_append, String.toList_append]
    exact List.forall_mem_append.2
      ⟨List.forall_mem_append.2 ⟨start, ne_blank_intText id⟩, finish⟩

theorem assignment?_assignmentLine (f : Field) :
    assignment? (assignmentLine f) = some (f.slot.name, f.initial.render) := by
  have text : (assignmentLine f).toList = (indentation 2 ++ "self.").toList ++
      (f.slot.name.toList ++ (" = ".toList ++ (Line.render f.initial).toList)) := by
    rw [assignmentLine, Field.assignment, render_cons, render_cons, render_cons]
    simp only [String.toList_append, List.append_assoc]
    rfl
  have equals : " = ".toList ++ (Line.render f.initial).toList =
      ' ' :: '=' :: ' ' :: (Line.render f.initial).toList := rfl
  have named := ne_blank_name f.slot
  rw [assignment?, text, List.dropPrefix?_append_of_beq _ BEq.rfl, Option.bind_eq_bind,
    Option.bind_some, List.dropWhile_append_of_pos named, List.takeWhile_append_of_pos named,
    equals, List.dropWhile_cons_of_neg (by decide), List.takeWhile_cons_of_neg (by decide),
    ← equals, List.dropPrefix?_append_of_beq _ BEq.rfl, Option.bind_some, List.append_nil,
    String.ofList_toList, String.ofList_toList]

/-- A declaration begins with fewer blanks. -/
theorem assignment?_declarationLine (f : Field) : assignment? (declarationLine f) = none := by
  have other : ¬ (indentation 2 ++ "self.").toList <+: (declarationLine f).toList := by
    obtain ⟨c, cs, begins, letter⟩ := begins_slotName f.slot
    rw [declarationLine, Field.declaration, render_cons, Piece.render, String.toList_append,
      String.toList_append, String.toList_append, begins]
    intro goes
    -- After four blanks the name begins, where a fifth blank would stand.
    have same : ' ' = c :=
      (List.cons_prefix_cons.1 ((List.prefix_append_right_inj (indentation 1).toList).1 goes)).1
    rw [← same] at letter
    cases letter
  rw [assignment?, dropPrefix?_eq_none other]
  rfl

/-! ## The record -/

/-- **The first values of a record can be read.** The lines of the class give every field its first
value, in the order of the fields. -/
theorem assignments_generate (p : Project) (f : Format) (comments : Bool) :
    assignments (p.generate f comments) =
      (fields p).map fun f => (f.slot.name, f.initial.render) := by
  have own : (fields p).filterMap (assignment? ∘ assignmentLine) =
      (fields p).map fun f => (f.slot.name, f.initial.render) := by
    rw [← List.filterMap_eq_map]
    exact List.filterMap_congr fun f _ => assignment?_assignmentLine f
  have other : (fields p).filterMap (assignment? ∘ declarationLine) = [] :=
    List.filterMap_eq_nil_iff.2 fun f _ => assignment?_declarationLine f
  have blank : ["", ""].filterMap assignment? = [] := rfl
  rw [assignments, recordLines_generate, List.filterMap_append, blank, List.append_nil,
    filterMap_recordBody comments rfl rfl rfl, other, own, List.nil_append]

/-- Where names are distinct, a field is the only one of its name. -/
private theorem filter_name {fs : List Field} (names : (fs.map fun f => f.slot.name).Nodup)
    {field : Field} (mem : field ∈ fs) :
    fs.filter (fun f => f.slot.name = field.slot.name) = [field] := by
  obtain ⟨before, after, rfl⟩ := List.append_of_mem mem
  rw [List.map_append, List.map_cons, List.nodup_middle, List.nodup_cons,
    ← List.map_append] at names
  have others : ∀ f ∈ before ++ after, ¬ decide (f.slot.name = field.slot.name) = true :=
    fun f hf same => names.1 (of_decide_eq_true same ▸ List.mem_map_of_mem hf)
  obtain ⟨earlier, later⟩ := List.forall_mem_append.1 others
  rw [List.filter_append, List.filter_cons_of_pos (by simp only [decide_true]),
    List.filter_eq_nil_iff.2 earlier, List.filter_eq_nil_iff.2 later, List.nil_append]

/-- Distinct fields are given one value each. -/
theorem valuesOf_name {p : Project} (distinct : p.ids.Nodup) {field : Field}
    (mem : field ∈ fields p) (f : Format) (comments : Bool) :
    valuesOf (p.generate f comments) field.slot.name = [field.initial.render] := by
  have names : ((fields p).map fun f => f.slot.name).Nodup := by
    have slots := (nodup_slots distinct).map Slot.name_injective
    rwa [Source.slots, List.map_map] at slots
  have own := filter_name names mem
  rw [valuesOf, assignments_generate, List.filter_map, List.map_map]
  show ((fields p).filter fun f => f.slot.name = field.slot.name).map _ = _
  rw [own]
  rfl

end Formwork.Source

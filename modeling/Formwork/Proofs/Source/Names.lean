import Formwork.Proofs.Session.Ids
import Formwork.Proofs.Source.Headers
import Mathlib.Data.List.Nodup

/-!
# Names of fields

No two fields of the state record have one name: the first word of a name tells the panel switches
and the kinds of value apart, and what follows tells the panel or the id (`Slot.name_injective`).
The fields of a design are distinct where the ids of its widgets are (`nodup_slots`).

A negative id would not be read back, since a minus sign ends a name. Documents do not admit one.
-/

set_option autoImplicit false

namespace Formwork.Source

open Text (isNameChar)

/-! ## One name -/

theorem intText_injective : Function.Injective intText := by
  intro m n same
  have read := congrArg (fun s : String => integer? s.toList) same
  simpa only [integer?_intText, Option.some.injEq] using read

theorem natText_injective : Function.Injective natText := by
  intro m n same
  have read := congrArg (fun s : String => digits? s.toList) same
  simpa only [digits?_natText, Option.some.injEq] using read

theorem Stem.start_injective : Function.Injective Stem.start := by
  intro s t same
  cases s <;> cases t <;> first | rfl | exact absurd same (by decide)

theorem panelName_injective : Function.Injective panelName := by
  intro p q same
  cases p <;> cases q <;> first | rfl | exact absurd same (by decide)

namespace Slot

/-- The first word of the name, with its underscore. -/
def start : Slot → String
  | panel _ => "enable_"
  | widget stem _ => stem.start

/-- What comes after the first word. -/
def rest : Slot → String
  | panel p => panelName p
  | widget stem id => intText id ++ stem.finish

theorem name_eq (s : Slot) : s.name = s.start ++ s.rest := by
  cases s with
  | panel p => rfl
  | widget stem id => exact String.append_assoc

private theorem exists_word (s : Slot) :
    ∃ word, s.start.toList = word ++ ['_'] ∧ ∀ c ∈ word, decide (c ≠ '_') = true := by
  have chars (cs : List Char) (last : cs.getLast? = some '_')
      (word : cs.dropLast.all (fun c => decide (c ≠ '_')) = true) :
      ∃ word, (String.ofList cs).toList = word ++ ['_'] ∧
        ∀ c ∈ word, decide (c ≠ '_') = true := by
    refine ⟨cs.dropLast, ?_, List.all_eq_true.1 word⟩
    rw [String.toList_ofList]
    exact (List.dropLast_append_getLast? '_' last).symm
  cases s with
  | panel p => exact chars _ rfl rfl
  | widget stem id => cases stem <;> exact chars _ rfl rfl

/-- The first underscore of a name ends its first word. -/
theorem start_eq_of_name_eq {s t : Slot} (same : s.name = t.name) :
    s.start = t.start ∧ s.rest = t.rest := by
  obtain ⟨v, startS, wordS⟩ := exists_word s
  obtain ⟨w, startT, wordT⟩ := exists_word t
  have texts : v ++ '_' :: s.rest.toList = w ++ '_' :: t.rest.toList := by
    have chars := congrArg String.toList same
    rwa [name_eq, name_eq, String.toList_append, String.toList_append, startS, startT,
      List.append_assoc, List.append_assoc] at chars
  have words : v = w := by
    have first := congrArg (List.takeWhile fun c => decide (c ≠ '_')) texts
    rwa [List.takeWhile_append_of_pos wordS, List.takeWhile_append_of_pos wordT,
      List.takeWhile_cons_of_neg (by decide), List.takeWhile_cons_of_neg (by decide),
      List.append_nil, List.append_nil] at first
  subst words
  constructor
  · exact String.toList_injective (startS.trans startT.symm)
  · exact String.toList_injective (List.cons.inj (List.append_cancel_left texts)).2

/-- No two fields have one name. -/
theorem name_injective : Function.Injective Slot.name := by
  have switch (stem : Stem) : "enable_" ≠ stem.start := by cases stem <;> decide
  intro s t same
  obtain ⟨starts, rests⟩ := start_eq_of_name_eq same
  cases s with
  | panel p =>
    cases t with
    | panel q => exact congrArg panel (panelName_injective rests)
    | widget stem id => exact absurd starts (switch stem)
  | widget stem id =>
    cases t with
    | panel q => exact absurd starts.symm (switch stem)
    | widget stem' id' =>
      obtain rfl : stem = stem' := Stem.start_injective starts
      have ids : intText id = intText id' := by
        refine String.toList_injective ((List.append_left_inj stem.finish.toList).1 ?_)
        rw [← String.toList_append, ← String.toList_append]
        exact congrArg String.toList rests
      rw [intText_injective ids]

/-- The id in a name has no minus sign. -/
def Natural : Slot → Prop
  | panel _ => True
  | widget _ id => 0 ≤ id

private theorem isNameChar_chars (cs : List Char) (h : cs.all isNameChar = true) :
    ∀ c ∈ (String.ofList cs).toList, isNameChar c = true := by
  rw [String.toList_ofList]
  exact List.all_eq_true.1 h

private theorem isNameChar_intText {n : Int} (natural : 0 ≤ n) :
    ∀ c ∈ (intText n).toList, isNameChar c = true := by
  rw [intText, if_neg (Int.not_lt.2 natural)]
  intro c hc
  have digit : c.isDigit = true := isDigit_of_mem_natText hc
  rw [isNameChar, Char.isAlphanum, digit, Bool.or_true]
  rfl

theorem isNameChar_name {s : Slot} (natural : s.Natural) :
    ∀ c ∈ s.name.toList, isNameChar c = true := by
  cases s with
  | panel p =>
    have side : ∀ c ∈ (panelName p).toList, isNameChar c = true := by
      cases p <;> exact isNameChar_chars _ rfl
    rw [name, String.toList_append]
    exact List.forall_mem_append.2 ⟨isNameChar_chars _ rfl, side⟩
  | widget stem id =>
    have start : ∀ c ∈ stem.start.toList, isNameChar c = true := by
      cases stem <;> exact isNameChar_chars _ rfl
    have finish : ∀ c ∈ stem.finish.toList, isNameChar c = true := by
      cases stem <;> exact isNameChar_chars _ rfl
    rw [name, String.toList_append, String.toList_append]
    exact List.forall_mem_append.2 ⟨List.forall_mem_append.2 ⟨start, isNameChar_intText natural⟩,
      finish⟩

end Slot

/-! ## The fields of a design -/

/-- The names of the fields of the state record. -/
def names (p : Project) : List String := (slots p).map Slot.name

/-- The name of the field of a widget, where it has one. -/
def nameOf (w : Widget) : Option String := (fieldOf w).map fun f => f.slot.name

section Fields

variable (p : Project)

/-- The panel switches, then the fields of the widgets in the order in which they are drawn. -/
theorem slots_eq : slots p = Panel.all.map Slot.panel ++
    (Area.drawOrder.flatMap p.inArea).filterMap fun w => (fieldOf w).map Field.slot := by
  rw [slots, fields, List.map_append, List.map_map, List.map_flatMap, List.filterMap_flatMap]
  congr 2
  funext a
  rw [List.map_filterMap]

theorem names_eq : names p = ["enable_top", "enable_bottom", "enable_left", "enable_right"] ++
    Area.drawOrder.flatMap fun a => (p.inArea a).filterMap nameOf := by
  rw [names, slots_eq, List.map_append, List.map_filterMap, List.filterMap_flatMap]
  congr 2
  funext a
  congr 1
  funext w
  rw [Option.map_map]
  rfl

variable {p}

/-- The field of a widget has the id of the widget. -/
theorem exists_slot_eq {w : Widget} {f : Field} (own : fieldOf w = some f) :
    ∃ stem, f.slot = .widget stem w.id := by
  obtain ⟨⟨stem, hint, initial⟩, -, rfl⟩ := Option.map_eq_some_iff.1 own
  exact ⟨stem, rfl⟩

/-- Distinct ids give distinct fields. -/
theorem nodup_slots (distinct : p.ids.Nodup) : (slots p).Nodup := by
  have drawn : (Area.drawOrder.flatMap p.inArea).Pairwise fun v w => v.id ≠ w.id := by
    rw [← List.pairwise_map]
    exact ((perm_inArea p).map Widget.id).nodup_iff.2 distinct
  have own : ((Area.drawOrder.flatMap p.inArea).filterMap
      fun w => (fieldOf w).map Field.slot).Nodup := by
    refine drawn.filterMap _ fun v w ids s hs t ht same => ids ?_
    obtain ⟨f, hf, rfl⟩ := Option.map_eq_some_iff.1 hs
    obtain ⟨g, hg, rfl⟩ := Option.map_eq_some_iff.1 ht
    obtain ⟨stem, slotF⟩ := exists_slot_eq hf
    obtain ⟨stem', slotG⟩ := exists_slot_eq hg
    rw [slotF, slotG] at same
    exact (Slot.widget.inj same).2
  have switches : (Panel.all.map Slot.panel).Nodup := by decide
  rw [slots_eq]
  refine List.nodup_append.2 ⟨switches, own, ?_⟩
  intro s switch t listed same
  obtain ⟨panel, -, rfl⟩ := List.mem_map.1 switch
  obtain ⟨w, -, found⟩ := List.mem_filterMap.1 listed
  obtain ⟨f, hf, rfl⟩ := Option.map_eq_some_iff.1 found
  obtain ⟨stem, slot⟩ := exists_slot_eq hf
  rw [slot] at same
  cases same

/-- Where no id is negative, every name of a field can be read. -/
theorem named_slots (identified : p.Identified) : Named (· ∈ slots p) := by
  have each : ∀ f ∈ fields p, f.slot.Natural :=
    forall_mem_fields (fun _ => trivial) fun w mem _ _ _ _ =>
      identified.natural w.id (List.mem_map_of_mem mem)
  intro s listed
  obtain ⟨f, mem, rfl⟩ := List.mem_map.1 listed
  exact Slot.isNameChar_name (each f mem)

end Fields

end Formwork.Source

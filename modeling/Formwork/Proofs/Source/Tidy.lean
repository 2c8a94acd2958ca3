import Formwork.Proofs.Source.Accessed
import Formwork.Proofs.Source.Sections
import Mathlib.Data.List.Basic

/-!
# Generated code is tidy

Program text is quiet wherever it stands: it has no quote, no number sign and no line break. A line
of code begins with program text that is not blank, or with the name of a field; the mark before the
name of a field stands nowhere else, and what comes after a name cannot be read as a part of it.
`Tidy` says all of that of one line and takes a predicate for the fields that the line may name;
`Stmt.AllIn` says it of every line of statements, together with a predicate for the comments.

The rest of the module goes through the generator, section by section: whatever the design, every
line is tidy. A widget names no field but its own. Apart from the comment that names a widget, every
comment is quiet. What is known about the text of generated code rests on this, since the pieces
themselves are known to be inert.
-/

set_option autoImplicit false

namespace Formwork.Source

open Text (Quiet Inert isQuiet isSealed isUnmarked isStop isNameChar stateMark)

/-! ## Tidy lines -/

/-- What stands before a piece in its line. -/
inductive Place where
  | start
  | name
  | inside
  deriving DecidableEq

/-- May program text begin like this? -/
def Place.admits : Place → List Char → Bool
  | start, c :: _ => c ≠ ' '
  | name, c :: _ => !isNameChar c
  | inside, _ => true
  | _, [] => false

/-- May the line end here? It is not empty. -/
def Place.endsLine : Place → Bool
  | start => false
  | _ => true

/-- May the name of a field stand here? -/
def Place.takesName : Place → Bool
  | name => false
  | _ => true

/-- May a value stand here? -/
def Place.takesValue : Place → Bool
  | inside => true
  | _ => false

/-- Does the text end in the mark, which it has nowhere else? -/
def endsInMark (cs : List Char) : Bool :=
  let start := cs.take (cs.length - stateMark.length)
  isSealed start && cs = start ++ stateMark

/-- In a text and what follows it in its line, no access begins in the text, unless it ends in the
mark and a field follows. -/
inductive Junction (cs : List Char) : Line → Prop where
  | skipped {ps : Line} (closed : isSealed cs = true) : Junction cs ps
  | access {t : Slot} {ps : Line} (mark : endsInMark cs = true) : Junction cs (.slot t :: ps)
  | last (unmarked : isUnmarked cs = true) : Junction cs []
  | cut {c : Char} {s : String} {ds : List Char} {ps : Line} (unmarked : isUnmarked cs = true)
    (begins : s.toList = c :: ds) (stop : isStop c = true) : Junction cs (.code s :: ps)

/-- Program text that may stand at a place, before the rest of its line. -/
structure TidyText (place : Place) (rest : Line) (s : String) : Prop where
  quiet : Quiet s
  admitted : place.admits s.toList = true
  junction : Junction s.toList rest

namespace TidyText

variable {place : Place} {rest : Line}

private theorem of_chars {cs : List Char} (quiet : cs.all isQuiet = true)
    (admitted : place.admits cs = true) (junction : Junction cs rest) :
    TidyText place rest (String.ofList cs) := by
  refine ⟨.chars cs quiet, ?_, ?_⟩
  all_goals rwa [String.toList_ofList]

/-! These decide it for fixed text, which is a list of characters to the elaborator. -/

theorem chars (cs : List Char)
    (h : (cs.all isQuiet && place.admits cs && isSealed cs) = true) :
    TidyText place rest (String.ofList cs) := by
  rw [Bool.and_eq_true, Bool.and_eq_true] at h
  exact of_chars h.1.1 h.1.2 (.skipped h.2)

theorem access {t : Slot} (cs : List Char)
    (h : (cs.all isQuiet && place.admits cs && endsInMark cs) = true) :
    TidyText place (.slot t :: rest) (String.ofList cs) := by
  rw [Bool.and_eq_true, Bool.and_eq_true] at h
  exact of_chars h.1.1 h.1.2 (.access h.2)

theorem last (cs : List Char)
    (h : (cs.all isQuiet && place.admits cs && isUnmarked cs) = true) :
    TidyText place [] (String.ofList cs) := by
  rw [Bool.and_eq_true, Bool.and_eq_true] at h
  exact of_chars h.1.1 h.1.2 (.last h.2)

theorem cut {c : Char} {ds : List Char} (cs : List Char)
    (h : (cs.all isQuiet && place.admits cs && isUnmarked cs && isStop c) = true) :
    TidyText place (.code (String.ofList (c :: ds)) :: rest) (String.ofList cs) := by
  rw [Bool.and_eq_true, Bool.and_eq_true, Bool.and_eq_true] at h
  exact of_chars h.1.1.1 h.1.1.2 (.cut h.1.2 String.toList_ofList h.2)

/-- Inside a line, quiet text that is inert may stand anywhere. -/
theorem of_inert {s : String} (quiet : Quiet s) (inert : Inert s) : TidyText .inside rest s := by
  refine ⟨quiet, rfl, .skipped ?_⟩
  rw [← quiet.bare_eq]
  exact inert.bare_sealed

end TidyText

/-- A line of code whose fields are all of the given ones. -/
def Tidy (S : Slot → Prop) : Place → Line → Prop
  | place, [] => place.endsLine = true
  | place, .code s :: ps => TidyText place ps s ∧ Tidy S .inside ps
  | place, .slot t :: ps => place.takesName = true ∧ S t ∧ Tidy S .name ps
  | place, .offset base _ :: ps =>
    place.takesValue = true ∧ Quiet base ∧ Inert base ∧ Tidy S .inside ps
  | place, _ :: ps => place.takesValue = true ∧ Tidy S .inside ps

namespace Stmt

mutual

/-- Every line of code has the property `P`, and every comment the property `Q`. -/
def All (P : Line → Prop) (Q : String → Prop) : Stmt → Prop
  | line l => P l
  | block head body => P head ∧ AllIn P Q body
  | wrapped opening inner closing => P opening ∧ inner.Forall P ∧ P closing
  | comment text => Q text
  | blank => True

def AllIn (P : Line → Prop) (Q : String → Prop) : List Stmt → Prop
  | [] => True
  | s :: ss => s.All P Q ∧ AllIn P Q ss

end

variable {P P' : Line → Prop} {Q Q' : String → Prop}

theorem allIn_append {ss ts : List Stmt} :
    AllIn P Q (ss ++ ts) ↔ AllIn P Q ss ∧ AllIn P Q ts := by
  induction ss with
  | nil => exact ⟨fun h => ⟨trivial, h⟩, And.right⟩
  | cons s ss ih => rw [List.cons_append, AllIn, AllIn, ih, and_assoc]

/-- What is said of every line and every comment goes up to sections. -/
theorem AllIn.lifts : Lifts P Q (AllIn P Q) where
  nil := trivial
  append first second := allIn_append.2 ⟨first, second⟩
  line told := ⟨told, trivial⟩
  block told _ inside := ⟨⟨told, inside⟩, trivial⟩
  comment told := ⟨told, trivial⟩
  blank := ⟨trivial, trivial⟩

mutual

private theorem All.imp (hP : ∀ l, P l → P' l) (hQ : ∀ t, Q t → Q' t) :
    ∀ s : Stmt, s.All P Q → s.All P' Q'
  | line l, h => hP l h
  | block head body, h => ⟨hP head h.1, AllIn.imp hP hQ body h.2⟩
  | wrapped opening _ closing, h =>
    ⟨hP opening h.1, List.forall_iff_forall_mem.2 fun l hl =>
      hP l (List.forall_iff_forall_mem.1 h.2.1 l hl), hP closing h.2.2⟩
  | comment text, h => hQ text h
  | blank, _ => trivial

theorem AllIn.imp (hP : ∀ l, P l → P' l) (hQ : ∀ t, Q t → Q' t) :
    ∀ ss : List Stmt, AllIn P Q ss → AllIn P' Q' ss
  | [], _ => trivial
  | s :: ss, h => ⟨All.imp hP hQ s h.1, AllIn.imp hP hQ ss h.2⟩

end

mutual

private theorem All.and : ∀ s : Stmt, s.All P Q → s.All P' Q' →
    s.All (fun l => P l ∧ P' l) (fun t => Q t ∧ Q' t)
  | line _, h, h' => ⟨h, h'⟩
  | block _ body, h, h' => ⟨⟨h.1, h'.1⟩, AllIn.and body h.2 h'.2⟩
  | wrapped _ _ _, h, h' => by
    refine ⟨⟨h.1, h'.1⟩, List.forall_iff_forall_mem.2 fun l hl => ?_, h.2.2, h'.2.2⟩
    exact ⟨List.forall_iff_forall_mem.1 h.2.1 l hl, List.forall_iff_forall_mem.1 h'.2.1 l hl⟩
  | comment _, h, h' => ⟨h, h'⟩
  | blank, _, _ => trivial

theorem AllIn.and : ∀ ss : List Stmt, AllIn P Q ss → AllIn P' Q' ss →
    AllIn (fun l => P l ∧ P' l) (fun t => Q t ∧ Q' t) ss
  | [], _, _ => trivial
  | s :: ss, h, h' => ⟨All.and s h.1 h'.1, AllIn.and ss h.2 h'.2⟩

end

mutual

private theorem allIn_without : ∀ s : Stmt, s.All P Q → AllIn P Q s.withoutComments
  | line _, h => ⟨h, trivial⟩
  | block _ body, h => ⟨⟨h.1, allIn_withoutAll body h.2⟩, trivial⟩
  | wrapped _ _ _, h => ⟨h, trivial⟩
  | comment _, _ => trivial
  | blank, _ => ⟨trivial, trivial⟩

private theorem allIn_withoutAll : ∀ ss : List Stmt, AllIn P Q ss →
    AllIn P Q (withoutCommentsAll ss)
  | [], _ => trivial
  | s :: ss, h => allIn_append.2 ⟨allIn_without s h.1, allIn_withoutAll ss h.2⟩

end

theorem allIn_commented {ss : List Stmt} (comments : Bool) (h : AllIn P Q ss) :
    AllIn P Q (commented comments ss) := by
  cases comments with
  | true => exact h
  | false => exact allIn_withoutAll ss h

end Stmt

open Stmt

/-- Statements whose lines are tidy and whose comments are quiet. -/
def TidyIn (S : Slot → Prop) (ss : List Stmt) : Prop := AllIn (Tidy S .start) Quiet ss

/-! ## Widgets -/

section Widgets

variable {S : Slot → Prop}

/-- What draws a control names the field of the control. -/
theorem tidyIn_body {id : Int} {c : Control}
    (own : ∀ stem hint initial, stateOf c = some (stem, hint, initial) → S (.widget stem id))
    (size pos : Vec) : TidyIn S (body id size pos c) := by
  cases c
  case' radioGroup | datePicker | dragValue =>
    refine allIn_append.2 ⟨AllIn.lifts.whereText _ ?_, ?_⟩
  case' tree => refine ⟨?_, allIn_append.2 ⟨AllIn.lifts.whereText _ ?_, ?_⟩⟩
  case' group _ horizontal =>
    refine ⟨?_, allIn_append.2 ⟨AllIn.lifts.whereText _ ?_, ?_⟩⟩
    rotate_right
    cases horizontal
  all_goals repeat' apply And.intro
  all_goals first
    | exact TidyText.chars _ rfl
    | exact TidyText.access _ rfl
    | exact own _ _ _ rfl
    | exact Quiet.chars _ rfl
    | exact Inert.chars _ rfl
    | exact trivial
    | exact rfl

private theorem tidyIn_placement (w : Widget) : TidyIn S (placement w) := by
  have coordinate {base : String} (quiet : Quiet base) (inert : Inert base) {x : Binary64}
      {ps : Line} (behind : Tidy S .inside ps) : Tidy S .inside (.offset base x :: ps) :=
    ⟨rfl, quiet, inert, behind⟩
  refine AllIn.lifts.ifFalse fun _ => ⟨⟨.chars _ rfl, ?_⟩, trivial⟩
  refine coordinate (.chars _ rfl) (.chars _ rfl) ⟨.chars _ rfl, ?_⟩
  exact coordinate (.chars _ rfl) (.chars _ rfl) ⟨.chars _ rfl, rfl⟩

/-- The code of a widget names no field but that of the widget. -/
theorem tidyIn_dressed {w : Widget} (own : ∀ f, fieldOf w = some f → S f.slot) :
    TidyIn S (dressed w) := by
  have controls : TidyIn S (body w.id w.size w.pos w.props.control) := by
    refine tidyIn_body (fun stem hint initial state => ?_) w.size w.pos
    exact own ⟨.widget stem w.id, hint, initial⟩ (by rw [fieldOf, state]; rfl)
  refine AllIn.lifts.dressed (tidyIn_placement w) ⟨?_, rfl⟩ controls ⟨?_, rfl⟩ ⟨?_, rfl, ?_, rfl⟩
  all_goals exact TidyText.chars _ rfl

end Widgets

/-! ## The state record -/

theorem quiet_channelsText (channels : List Int) : Quiet (channelsText channels) := by
  refine ((Quiet.chars _ rfl).append (.intercalate (.chars _ rfl) fun s hs => ?_)).append
    (.chars _ rfl)
  obtain ⟨c, _, rfl⟩ := List.mem_map.1 hs
  exact (Quiet.of_isNumeral (isNumeral_intText c)).append (.chars _ rfl)

private theorem tidyText_channelsText {rest : Line} (channels : List Int) :
    TidyText .inside rest (channelsText channels) :=
  .of_inert (quiet_channelsText channels) (inert_of_value (composed_channelsText channels))

/-- A field is declared and initialised in tidy lines. -/
private theorem tidy_field {S : Slot → Prop} {slot : Slot} (named : S slot) {hint : String}
    {initial : Line} (begun : Begun hint initial) :
    Tidy S .start (Field.mk slot hint initial).declaration ∧
      Tidy S .start (Field.mk slot hint initial).assignment := by
  cases begun with
  | flag | integer | number | text =>
    refine ⟨⟨rfl, named, ?_, ?_, rfl⟩, ?_, rfl, named, ?_, rfl, rfl⟩
    all_goals exact TidyText.chars _ rfl
  | channels ns =>
    refine ⟨⟨rfl, named, ?_, ?_, rfl⟩, ?_, rfl, named, ?_, tidyText_channelsText ns, rfl⟩
    all_goals exact TidyText.chars _ rfl
  | date d =>
    refine ⟨⟨rfl, named, ?_, ?_, rfl⟩, ?_, rfl, named, ?_, ?_, rfl, ?_, rfl, ?_, rfl, ?_, rfl⟩
    all_goals exact TidyText.chars _ rfl

/-- The fields of the state record. -/
def slots (p : Project) : List Slot := (fields p).map Field.slot

theorem tidy_of_mem_fields {p : Project} {f : Field} (h : f ∈ fields p) :
    Tidy (· ∈ slots p) .start f.declaration ∧ Tidy (· ∈ slots p) .start f.assignment :=
  tidy_field (List.mem_map_of_mem h) (begun_of_mem_fields f h)

/-! ## What is the same for every design -/

section Frame

variable {S : Slot → Prop} (p : Project)

theorem quiet_panelTitle (panel : Panel) : Quiet (panel.area.tag ++ " panel") := by
  cases panel <;> exact Quiet.append (.chars _ rfl) (.chars _ rfl)

theorem tidy_frame (switches : ∀ panel, S (.panel panel)) :
    Frame (Tidy S .start) Quiet (TidyIn S) p := by
  constructor
  case title => exact quiet_panelTitle
  case switch => exact fun panel => ⟨TidyText.access _ rfl, rfl, switches panel, rfl⟩
  case' panelOpening => rintro ⟨⟩
  all_goals repeat' apply And.intro
  all_goals first
    | exact TidyText.chars _ rfl
    | exact TidyText.last _ rfl
    | exact TidyText.cut _ rfl
    | exact Quiet.chars _ rfl
    | exact trivial
    | exact rfl

theorem tidy_extras : Extras (TidyIn S) p := by
  constructor
  all_goals repeat' apply And.intro
  all_goals first
    | exact TidyText.chars _ rfl
    | exact TidyText.last _ rfl
    | exact Quiet.append (.chars _ rfl) (.chars _ rfl)
    | exact trivial
    | exact rfl

end Frame

/-! ## Everything around them -/

section Scaffold

variable {S : Slot → Prop} (p : Project) (f : Format)

theorem eq_of_mem_libraryModules {s : String} (hs : s ∈ libraryModules p f) :
    s = "hello_imgui" ∨ s = "imgui" ∨ s = "immapp" := by
  simp only [libraryModules, List.mem_append, List.mem_ite_nil_left, List.mem_ite_nil_right,
    List.mem_singleton] at hs
  tauto

theorem quiet_libraryModules : Quiet (", ".intercalate (libraryModules p f)) := by
  refine .intercalate (.chars _ rfl) fun s hs => ?_
  rcases eq_of_mem_libraryModules p f hs with rfl | rfl | rfl
  all_goals exact Quiet.chars _ rfl

private theorem tidyText_libraryModules :
    TidyText .inside [] (", ".intercalate (libraryModules p f)) := by
  refine .of_inert (quiet_libraryModules p f) (.intercalate (.chars _ rfl) fun s hs => ?_)
  rcases eq_of_mem_libraryModules p f hs with rfl | rfl | rfl
  all_goals exact Inert.chars _ rfl

theorem tidyIn_imports : TidyIn S (imports p f) :=
  AllIn.lifts.imports (fun _ => (tidy_extras p).dateImports) (fun _ => (tidy_extras p).treeImports)
    ⟨⟨TidyText.chars _ rfl, tidyText_libraryModules p f, rfl⟩, trivial⟩

theorem tidyIn_fullHeader : TidyIn S (fullHeader f) := by
  refine allIn_append.2 ⟨⟨?_, .append ?_ ?_, ?_, ?_, trivial⟩,
    AllIn.lifts.ifTrue fun _ => ⟨?_, ?_, ?_, ?_, ?_, trivial⟩⟩
  all_goals exact Quiet.chars _ rfl

theorem tidyIn_briefHeader : TidyIn S briefHeader := ⟨Quiet.chars _ rfl, trivial⟩

theorem tidyIn_framing : TidyIn S (framing f) := (tidy_extras {}).framing trivial f

end Scaffold

/-! ## The module -/

/-- A comment that names a widget has a number sign. -/
def IsComment (t : String) : Prop := ∀ c ∈ t.toList, isQuiet c = true ∨ c = '#'

theorem quiet_kindTag (k : Kind) : Quiet k.tag := by cases k <;> exact Quiet.chars _ rfl

private theorem isComment_header (w : Widget) :
    IsComment (w.kind.tag ++ " #" ++ intText w.id) := by
  have mark : IsComment " #" := by
    intro c hc
    have either : c = ' ' ∨ c = '#' := by simpa using hc
    rcases either with rfl | rfl
    · exact .inl (by decide)
    · exact .inr rfl
  intro c hc
  rw [String.toList_append, String.toList_append, List.mem_append, List.mem_append] at hc
  rcases hc with (tag | sign) | id
  · exact .inl (quiet_kindTag w.kind c tag)
  · exact mark c sign
  · exact .inl (Quiet.of_isNumeral (isNumeral_intText w.id) c id)

/-- Statements whose lines are tidy, with comments that may name widgets. -/
def TidyCode (S : Slot → Prop) (ss : List Stmt) : Prop := AllIn (Tidy S .start) IsComment ss

section Module

variable {S : Slot → Prop}

theorem TidyIn.code {ss : List Stmt} (h : TidyIn S ss) : TidyCode S ss :=
  AllIn.imp (fun _ => id) (fun _ quiet c hc => .inl (quiet c hc)) ss h

theorem tidyCode_block {w : Widget} (own : ∀ f, fieldOf w = some f → S f.slot) :
    TidyCode S (block w) := ⟨isComment_header w, (tidyIn_dressed own).code⟩

/-- The field of a widget is one of the state record. -/
theorem mem_fields {p : Project} {w : Widget} (mem : w ∈ p.widgets) {f : Field}
    (own : fieldOf w = some f) : f ∈ fields p := by
  have listed : w ∈ p.inArea w.area := List.mem_filter.2 ⟨mem, beq_self_eq_true w.area⟩
  exact List.mem_append_right _
    (List.mem_flatMap.2 ⟨w.area, w.area.mem_drawOrder, List.mem_filterMap.2 ⟨w, listed, own⟩⟩)

theorem slot_mem_slots {p : Project} {w : Widget} (mem : w ∈ p.widgets) {f : Field}
    (own : fieldOf w = some f) : f.slot ∈ slots p := List.mem_map_of_mem (mem_fields mem own)

theorem panel_mem_slots (p : Project) (panel : Panel) : .panel panel ∈ slots p := by
  have listed : panel ∈ Panel.all := by cases panel <;> decide
  exact List.mem_map_of_mem (List.mem_append_left _ (List.mem_map_of_mem listed))

variable (p : Project)

theorem tidyCode_inArea (a : Area) : TidyCode (· ∈ slots p) (blocks (p.inArea a)) :=
  AllIn.lifts.flatMap fun _ hw =>
    tidyCode_block fun _ own => slot_mem_slots (List.mem_filter.1 hw).1 own

/-- Every line of the body of a generated module is tidy and names fields of the state record
only. -/
theorem tidyCode_moduleBody (f : Format) : TidyCode (· ∈ slots p) (moduleBody p f) := by
  have frame : Frame (Tidy (· ∈ slots p) .start) IsComment (TidyCode (· ∈ slots p)) p :=
    (tidy_frame p (panel_mem_slots p)).imp (fun _ => id) (fun _ quiet c hc => .inl (quiet c hc))
      fun _ => TidyIn.code
  have extras := tidy_extras (S := (· ∈ slots p)) p
  exact AllIn.lifts.moduleBody (tidyIn_imports p f).code
    (AllIn.lifts.helpers frame.flags (fun _ => extras.treeHelpers.code) fun _ =>
      extras.dateHelpers.code)
    (AllIn.lifts.stateClass frame fun _ => tidy_of_mem_fields)
    (AllIn.lifts.uiFunction frame (tidyCode_inArea p)) fun _ => extras.main.code

/-- With a header before it, it is the module. -/
theorem tidyCode_moduleCode (f : Format) (comments : Bool) :
    TidyCode (· ∈ slots p) (moduleCode p f comments) := by
  refine allIn_append.2 ⟨?_, allIn_commented comments (tidyCode_moduleBody p f)⟩
  cases comments with
  | true => exact (tidyIn_fullHeader f).code
  | false => exact tidyIn_briefHeader.code

/-- Every line of the whole text is tidy, too. -/
theorem tidyCode_generate (f : Format) (comments : Bool) :
    TidyCode (· ∈ slots p) (framing f ++ moduleCode p f comments) :=
  allIn_append.2 ⟨(tidyIn_framing f).code, tidyCode_moduleCode p f comments⟩

end Module

end Formwork.Source

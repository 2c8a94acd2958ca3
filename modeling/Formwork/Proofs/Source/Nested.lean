import Formwork.Proofs.Source.Logical
import Formwork.Proofs.Source.Tidy

/-!
# Brackets of generated code

In a line of code the brackets of program text are followed from piece to piece, past the values
between them (`Nested`). A line closes what it opens and does not end in a colon, the head of a
block has statements below it even when all comments are left out, and a statement that is set out
over several lines has one bracket around the inner ones (`Stmt.Sound`).

The rest of the module goes through the generator: whatever the design, its code is sound. Where
trees are shown, they satisfy a property that the trees of the design have.
-/

set_option autoImplicit false

namespace Formwork.Source

open Text (Quiet Encloses Brackets.after Brackets.afterWithin Brackets.deepest colonAfter)

/-! ## Lines -/

/-- Program text between other pieces of its line: which brackets are open before and after it, and
whether the code ends in a colon there. It opens few brackets. -/
structure Passes (pending : List Char) (colon : Bool) (s : String) (rest : List Char)
    (colon' : Bool) : Prop where
  reached : Brackets.after pending s.toList = some rest
  ending : colonAfter colon s.toList = colon'
  shallow : Brackets.deepest pending s.toList ≤ 4

theorem Passes.chars {pending rest : List Char} {colon colon' : Bool} (cs : List Char)
    (within : Brackets.afterWithin 4 pending cs = some rest) (ending : colonAfter colon cs = colon') :
    Passes pending colon (String.ofList cs) rest colon' := by
  obtain ⟨reached, shallow⟩ := Text.Brackets.of_afterWithin within
  refine ⟨?_, ?_, ?_⟩
  all_goals rwa [String.toList_ofList]

/-- Text with brackets of its own leaves those around it as they are. -/
theorem Passes.of_encloses {s : String} {n : Nat} (quiet : Quiet s) (h : Encloses n s) (hn : n ≤ 4) :
    Passes [] false s [] false := by
  obtain ⟨-, spans, colonless⟩ := h
  rw [quiet.bare_eq] at spans colonless
  obtain ⟨reached, deep⟩ := spans []
  refine ⟨reached, Text.colonAfter_of_not_mem colonless, ?_⟩
  rw [deep, List.length_nil, Nat.zero_add]
  exact hn

/-- A line in front of which the brackets `pending` are open, and `final` behind it. No colon stands
in front of a value or at the end. Trees are shown inside of one bracket, and have the property `F`. -/
def Nested (F : List Node → Prop) (final : List Char) : List Char → Bool → Line → Prop
  | pending, colon, [] => pending = final ∧ colon = false
  | pending, colon, .code s :: ps =>
    ∃ rest colon', Passes pending colon s rest colon' ∧ Nested F final rest colon' ps
  | pending, colon, .forest trees :: ps =>
    colon = false ∧ pending.length = 1 ∧ F trees ∧ Nested F final pending false ps
  | pending, colon, .offset base _ :: ps =>
    colon = false ∧ Encloses 0 base ∧ Nested F final pending false ps
  | pending, colon, _ :: ps => colon = false ∧ Nested F final pending false ps

private theorem Nested.code {F : List Node → Prop} {final pending rest : List Char}
    {colon colon' : Bool} {s : String} {ps : Line} (passes : Passes pending colon s rest colon')
    (later : Nested F final rest colon' ps) : Nested F final pending colon (.code s :: ps) :=
  ⟨rest, colon', passes, later⟩

/-- Program text that closes what it opens makes a line. -/
theorem nested_code {F : List Node → Prop} {s : String} (h : Passes [] false s [] false) :
    Nested F [] [] false [.code s] := .code h ⟨rfl, rfl⟩

/-- How many brackets a value opens at most where `pending` are open; a forest opens as many as it
needs. -/
inductive Room (F : List Node → Prop) (pending : List Char) : Nat → Prop where
  | value {n : Nat} (small : n ≤ 2) : Room F pending n
  | forest {trees : List Node} (one : pending.length = 1) (shown : F trees) :
    Room F pending (2 * Node.heightAll trees - 1 + 1)

/-- A line goes on behind program text, which may open and close brackets, or behind a value, which
leaves them as they are. -/
inductive Nested.Step (F : List Node → Prop) (final pending : List Char) (colon : Bool) (p : Piece)
    (ps : Line) : Prop where
  | code {s : String} {rest : List Char} {colon' : Bool} (text : p = .code s)
    (passes : Passes pending colon s rest colon') (later : Nested F final rest colon' ps)
  | value {n : Nat} (plain : colon = false) (encloses : Encloses n p.render)
    (room : Room F pending n) (later : Nested F final pending false ps)

theorem Nested.step {F : List Node → Prop} {final pending : List Char} {colon : Bool} {p : Piece}
    {ps : Line} (h : Nested F final pending colon (p :: ps)) :
    Nested.Step F final pending colon p ps := by
  have value (plain : colon = false) (later : Nested F final pending false ps)
      (known : ∃ n ≤ 2, Encloses n p.render) : Nested.Step F final pending colon p ps := by
    obtain ⟨n, small, encloses⟩ := known
    exact .value plain encloses (.value small) later
  cases p with
  | code s =>
    obtain ⟨rest, colon', passes, later⟩ := h
    exact .code rfl passes later
  | forest trees =>
    obtain ⟨plain, one, shown, later⟩ := h
    exact .value plain (encloses_forestText trees) (.forest one shown) later
  | offset base x =>
    obtain ⟨plain, simple, later⟩ := h
    refine value plain later (Piece.exists_encloses nofun nofun fun _ _ same => ?_)
    cases same
    exact simple
  | _ => exact value h.1 h.2 (Piece.exists_encloses nofun nofun nofun)

/-! ## Statements -/

namespace Stmt

variable (F : List Node → Prop)

mutual

/-- The brackets of a statement are closed where it ends, and no block is without statements. -/
def Sound : Stmt → Prop
  | line l => Nested F [] [] false l
  | block head body => Nested F [] [] false head ∧ body.any isCode = true ∧ SoundIn body
  | wrapped opening inner closing =>
    Nested F [')'] [] false opening ∧ inner.Forall (Nested F [')'] [')'] false) ∧
      Nested F [] [')'] false closing
  | comment _ => True
  | blank => True

def SoundIn : List Stmt → Prop
  | [] => True
  | s :: ss => s.Sound ∧ SoundIn ss

end

variable {F}

theorem soundIn_iff {ss : List Stmt} : SoundIn F ss ↔ ∀ s ∈ ss, s.Sound F := by
  induction ss with
  | nil => exact ⟨fun _ => nofun, fun _ => trivial⟩
  | cons s ss ih => rw [SoundIn, ih, List.forall_mem_cons]

theorem soundIn_append {ss ts : List Stmt} :
    SoundIn F (ss ++ ts) ↔ SoundIn F ss ∧ SoundIn F ts := by
  simp only [soundIn_iff, List.forall_mem_append]

theorem soundIn_lifts : Lifts (Nested F [] [] false) (fun _ => True) (SoundIn F) where
  nil := trivial
  append first second := soundIn_append.2 ⟨first, second⟩
  line told := ⟨told, trivial⟩
  block told code inside := ⟨⟨told, code, inside⟩, trivial⟩
  comment _ := ⟨trivial, trivial⟩
  blank := ⟨trivial, trivial⟩

/-- No statement is a comment, so none gets lost with the comments. -/
theorem any_isCode_without {ss : List Stmt} (h : ss.any isCode = true) :
    (withoutCommentsAll ss).any isCode = true := by
  induction ss with
  | nil => exact h
  | cons s ss ih =>
    rw [withoutCommentsAll, List.any_append, Bool.or_eq_true]
    rw [List.any_cons, Bool.or_eq_true] at h
    refine h.imp (fun code => ?_) ih
    cases s with
    | comment t => cases code
    | blank => cases code
    | line l => rfl
    | block head body => rfl
    | wrapped opening inner closing => rfl

mutual

private theorem soundIn_without : ∀ s : Stmt, s.Sound F → SoundIn F s.withoutComments
  | line _, h => ⟨h, trivial⟩
  | block _ body, h =>
    ⟨⟨h.1, any_isCode_without h.2.1, soundIn_withoutAll body h.2.2⟩, trivial⟩
  | wrapped _ _ _, h => ⟨h, trivial⟩
  | comment _, _ => trivial
  | blank, _ => ⟨trivial, trivial⟩

private theorem soundIn_withoutAll : ∀ ss : List Stmt, SoundIn F ss →
    SoundIn F (withoutCommentsAll ss)
  | [], _ => trivial
  | s :: ss, h => soundIn_append.2 ⟨soundIn_without s h.1, soundIn_withoutAll ss h.2⟩

end

theorem soundIn_commented {ss : List Stmt} (comments : Bool) (h : SoundIn F ss) :
    SoundIn F (commented comments ss) := by
  cases comments with
  | true => exact h
  | false => exact soundIn_withoutAll ss h

end Stmt

open Stmt

/-! ## Widgets -/

section Widgets

variable {F : List Node → Prop}

theorem soundIn_body (id : Int) (size pos : Vec) {c : Control}
    (trees : ∀ text lines, c = .tree text lines → F (treesOf lines)) :
    SoundIn F (body id size pos c) := by
  cases c
  case' radioGroup | datePicker | dragValue =>
    refine soundIn_append.2 ⟨soundIn_lifts.whereText _ ?_, ?_⟩
  case' tree | group => refine ⟨?_, soundIn_append.2 ⟨soundIn_lifts.whereText _ ?_, ?_⟩⟩
  all_goals repeat' first
    | apply And.intro
    | refine Nested.code (.chars _ rfl rfl) ?_
    | exact rfl
    | exact trivial
    | exact trees _ _ rfl
    | exact Encloses.chars _ rfl

private theorem soundIn_placement (w : Widget) : SoundIn F (placement w) := by
  refine soundIn_lifts.ifFalse fun _ => ⟨.code (.chars _ rfl rfl) ?_, trivial⟩
  refine ⟨rfl, Encloses.chars _ rfl, .code (.chars _ rfl rfl) ?_⟩
  exact ⟨rfl, Encloses.chars _ rfl, .code (.chars _ rfl rfl) ⟨rfl, rfl⟩⟩

/-- The code of a widget is sound where the trees that it shows are as they should be. -/
theorem soundIn_block {w : Widget}
    (trees : ∀ text lines, w.props.control = .tree text lines → F (treesOf lines)) :
    SoundIn F (block w) := by
  have tip : Nested F [] [] false ["imgui.set_item_tooltip(", .text w.props.tooltip, ")"] :=
    .code (.chars _ rfl rfl) ⟨rfl, .code (.chars _ rfl rfl) ⟨rfl, rfl⟩⟩
  rw [block_eq]
  refine ⟨trivial, soundIn_lifts.dressed (soundIn_placement w) ?_ ?_ ?_ tip⟩
  · exact nested_code (.chars _ rfl rfl)
  · exact soundIn_body w.id w.size w.pos trees
  · exact nested_code (.chars _ rfl rfl)

end Widgets

/-! ## The state record -/

private theorem passes_channelsText (channels : List Int) :
    Passes [] false (channelsText channels) [] false :=
  .of_encloses (quiet_channelsText channels) (encloses_channelsText channels) (by decide)

private theorem nested_field {F : List Node → Prop} (slot : Slot) {hint : String} {initial : Line}
    (begun : Begun hint initial) :
    Nested F [] [] false (Field.mk slot hint initial).declaration ∧
      Nested F [] [] false (Field.mk slot hint initial).assignment := by
  -- The type stands behind a colon, and so a declaration does not end in one.
  cases begun with
  | flag | integer | number | text =>
    refine ⟨⟨rfl, .code (.chars _ rfl rfl) (.code (.chars _ rfl rfl) ⟨rfl, rfl⟩)⟩, ?_⟩
    exact .code (.chars _ rfl rfl) ⟨rfl, .code (.chars _ rfl rfl) ⟨rfl, rfl, rfl⟩⟩
  | channels ns =>
    refine ⟨⟨rfl, .code (.chars _ rfl rfl) (.code (.chars _ rfl rfl) ⟨rfl, rfl⟩)⟩, ?_⟩
    refine .code (.chars _ rfl rfl) ⟨rfl, .code (.chars _ rfl rfl) ?_⟩
    exact nested_code (passes_channelsText ns)
  | date d =>
    refine ⟨⟨rfl, .code (.chars _ rfl rfl) (.code (.chars _ rfl rfl) ⟨rfl, rfl⟩)⟩, ?_⟩
    refine .code (.chars _ rfl rfl) ⟨rfl, .code (.chars _ rfl rfl) ?_⟩
    refine .code (.chars _ rfl rfl) ⟨rfl, .code (.chars _ rfl rfl) ⟨rfl, ?_⟩⟩
    exact .code (.chars _ rfl rfl) ⟨rfl, .code (.chars _ rfl rfl) ⟨rfl, rfl⟩⟩

private theorem nested_of_mem_fields {F : List Node → Prop} {p : Project} :
    ∀ f ∈ fields p, Nested F [] [] false f.declaration ∧ Nested F [] [] false f.assignment :=
  fun f h => nested_field f.slot (begun_of_mem_fields f h)

/-! ## What is the same for every design -/

theorem sound_frame (F : List Node → Prop) (p : Project) :
    Frame (Nested F [] [] false) (fun _ => True) (SoundIn F) p := by
  constructor
  case' panelOpening | switch => intro panel
  case' panelOpening => cases panel
  all_goals repeat' first
    | apply And.intro
    | refine Nested.code (.chars _ rfl rfl) ?_
    | exact rfl
    | exact trivial
    | exact fun _ => trivial

theorem sound_extras (F : List Node → Prop) (p : Project) : Extras (SoundIn F) p := by
  constructor
  all_goals repeat' first
    | apply And.intro
    | refine Nested.code (.chars _ rfl rfl) ?_
    | exact rfl
    | exact trivial

/-! ## Everything around them -/

section Scaffold

variable {F : List Node → Prop} (p : Project) (f : Format)

private theorem passes_libraryModules :
    Passes [] false (", ".intercalate (libraryModules p f)) [] false := by
  refine .of_encloses (quiet_libraryModules p f) ?_ (Nat.zero_le 4)
  refine .intercalate_simple (.chars _ rfl) fun s hs => ?_
  rcases eq_of_mem_libraryModules p f hs with rfl | rfl | rfl
  all_goals exact Encloses.chars _ rfl

private theorem soundIn_imports : SoundIn F (imports p f) := by
  have extras := sound_extras F p
  exact soundIn_lifts.imports (fun _ => extras.dateImports) (fun _ => extras.treeImports)
    ⟨.code (.chars _ rfl rfl) (nested_code (passes_libraryModules p f)), trivial⟩

end Scaffold

/-! ## The module -/

section Module

variable {F : List Node → Prop} (p : Project)

/-- The trees of a design have the property. -/
def Shows (F : List Node → Prop) (p : Project) : Prop :=
  ∀ w ∈ p.widgets, ∀ text lines, w.props.control = .tree text lines → F (treesOf lines)

variable {p} (trees : Shows F p)

include trees

private theorem soundIn_inArea (a : Area) : SoundIn F (blocks (p.inArea a)) :=
  soundIn_lifts.flatMap fun w hw => soundIn_block (trees w (List.mem_filter.1 hw).1)

/-- The code of every module is sound, and the trees in it are those of the design. -/
theorem soundIn_moduleCode (f : Format) (comments : Bool) :
    SoundIn F (moduleCode p f comments) := by
  have frame := sound_frame F p
  have extras := sound_extras F p
  have body : SoundIn F (moduleBody p f) :=
    soundIn_lifts.moduleBody (soundIn_imports p f)
      (soundIn_lifts.helpers frame.flags (fun _ => extras.treeHelpers) fun _ => extras.dateHelpers)
      (soundIn_lifts.stateClass frame nested_of_mem_fields)
      (soundIn_lifts.uiFunction frame (soundIn_inArea trees)) fun _ => extras.main
  exact soundIn_append.2
    ⟨soundIn_lifts.header comments fun _ => trivial, soundIn_commented comments body⟩

end Module

end Formwork.Source

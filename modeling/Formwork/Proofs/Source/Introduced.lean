import Formwork.Proofs.Source.Supplies

/-!
# A module defines the names that it uses

The generator is gone through section by section: what draws a control, what declares and sets its
value, panels and canvas, helpers and imports mention the names that are needed and no others
(`speaksIn_moduleCode`).

A name that is needed is brought in by an import or by the head of a helper. `Introduces s ss` says
that in the statements the line that mentions it first binds it; this stays so when statements that
do not mention the name are put in front, and when any statements follow. Imports and helpers stand
above everything else, so it holds of the module (`introduces_moduleCode`).
-/

set_option autoImplicit false

namespace Formwork

namespace Text

/-- The names that a line at column zero binds for the rest of a module: an imported module, what is
imported from a module under its own name, a function, or a class. -/
def boundBy (line : List Char) : List String :=
  if line.head? = some ' ' then []
  else
    match words line with
    | ["import", name] => [name]
    | "from" :: _ :: "import" :: names => if "as" ∈ names then [] else names
    | "def" :: name :: _ => [name]
    | "class" :: name :: _ => [name]
    | _ => []

end Text

namespace Source

open Text (Lacks isNameChar bare spellings words codeLines firstMention? boundBy)

/-! ## The generator -/

/-- The names that a kind of widget needs. -/
def Supply.ofKind : Kind → List Supply
  | .datePicker => [calendar, datetime, makeDate]
  | .tree => [dataclass, field, nodeType, showTree]
  | .image => [assets]
  | _ => []

theorem Supply.kind?_of_mem_ofKind {s : Supply} {k : Kind} (mem : s ∈ ofKind k) :
    s.kind? = some k := by
  unfold ofKind at mem
  split at mem
  next => revert s; decide
  next => revert s; decide
  next => revert s; decide
  next => cases mem

open Stmt

section Widgets

/-- What draws a control mentions the names only that its kind needs. -/
theorem speaksIn_body (id : Int) (size pos : Vec) (c : Control) :
    SpeaksIn (· ∈ Supply.ofKind c.kind) (body id size pos c) := by
  cases c
  case' radioGroup | datePicker | dragValue =>
    refine allIn_append.2 ⟨AllIn.lifts.whereText _ ?_, ?_⟩
  case' tree | group => refine ⟨?_, allIn_append.2 ⟨AllIn.lifts.whereText _ ?_, ?_⟩⟩
  all_goals dsimp only [Control.kind]
  all_goals repeat' apply And.intro
  all_goals first
    | exact Tells.last _ rfl
    | exact Tells.quoted _ rfl
    | exact Tells.chars _ rfl
    | exact Lacks.chars _ rfl
    | exact trivial
    | exact rfl
    | decide

private theorem tells_channelsText {T : Supply → Prop} (channels : List Int) :
    Tells T false [] (channelsText channels) := by
  refine ⟨rfl, fun t mem => ?_, .last⟩
  rw [← (quiet_channelsText channels).bare_eq] at mem
  exact absurd mem (not_mem_of_lacks (lacks_of_value (composed_channelsText channels)) t)

private theorem speaksIn_dressed (w : Widget) :
    SpeaksIn (· ∈ Supply.ofKind w.kind) (dressed w) := by
  have code (l : Line) (h : Speaks (· ∈ []) false l) :
      Speaks (· ∈ Supply.ofKind w.kind) false l := h.imp nofun
  have placed : SpeaksIn (· ∈ Supply.ofKind w.kind) (placement w) := by
    refine AllIn.lifts.ifFalse fun _ => ⟨code _ ?_, trivial⟩
    exact ⟨.chars _ rfl, rfl, .chars _ rfl, .chars _ rfl, rfl, .chars _ rfl, .chars _ rfl, trivial⟩
  have disabled : Speaks (· ∈ []) false ["imgui.begin_disabled()"] :=
    ⟨.chars _ rfl, trivial⟩
  have enabled : Speaks (· ∈ []) false ["imgui.end_disabled()"] :=
    ⟨.chars _ rfl, trivial⟩
  have tooltip : Speaks (· ∈ []) false
      ["imgui.set_item_tooltip(", .text w.props.tooltip, ")"] :=
    ⟨.chars _ rfl, rfl, .chars _ rfl, trivial⟩
  exact AllIn.lifts.dressed placed (code _ disabled)
    (speaksIn_body w.id w.size w.pos w.props.control) (code _ enabled) (code _ tooltip)

/-- Dates apart, a field is declared and set without any of the names. -/
private theorem speaks_field {T : Supply → Prop} (slot : Slot) {hint : String} {initial : Line}
    (begun : Begun hint initial) (dated : hint = "datetime.date" → T .datetime) :
    Speaks T false (Field.mk slot hint initial).declaration ∧
      Speaks T false (Field.mk slot hint initial).assignment := by
  have silent {l : Line} (h : Speaks (· ∈ []) false l) : Speaks T false l := h.imp nofun
  cases begun with
  | flag | integer | number | text =>
    refine ⟨silent ⟨rfl, .chars _ rfl, .last _ rfl, trivial⟩, silent ?_⟩
    exact ⟨.chars _ rfl, rfl, .chars _ rfl, rfl, trivial⟩
  | channels ns =>
    refine ⟨silent ⟨rfl, .chars _ rfl, .last _ rfl, trivial⟩, silent ?_⟩
    exact ⟨.chars _ rfl, rfl, .chars _ rfl, tells_channelsText ns, trivial⟩
  | date d =>
    have known {l : Line} (h : Speaks (· ∈ [.datetime]) false l) : Speaks T false l :=
      h.imp (List.forall_mem_singleton.2 (dated rfl))
    refine ⟨known ⟨rfl, .chars _ rfl, .last _ rfl, trivial⟩, known ?_⟩
    exact ⟨.chars _ rfl, rfl, .chars _ rfl, .chars _ rfl, rfl, .chars _ rfl, rfl, .chars _ rfl, rfl,
      .chars _ rfl, trivial⟩

private theorem kind_of_dated {c : Control} {stem : Stem} {initial : Line}
    (h : stateOf c = some (stem, "datetime.date", initial)) : c.kind = .datePicker := by
  cases c
  case datePicker => rfl
  all_goals simp [stateOf, stateOf.selection] at h

end Widgets

/-! ## Sections -/

section Sections

variable (p : Project) (f : Format)

private theorem silent_frame :
    Frame (Speaks (· ∈ []) false) (fun _ => True) Silent p := by
  constructor
  case title => exact fun _ => trivial
  case' panelOpening | switch => intro panel
  case' panelOpening => cases panel
  all_goals repeat' apply And.intro
  all_goals first
    | exact Tells.last _ rfl
    | exact Tells.chars _ rfl
    | exact Tells.cut _ rfl
    | exact trivial
    | exact rfl

/-- What every module has mentions no name, and so none but any given ones. -/
private theorem speaks_frame (T : Supply → Prop) :
    Frame (Speaks T false) (fun _ => True) (SpeaksIn T) p :=
  (silent_frame p).imp (fun _ told => told.imp nofun) (fun _ => id) fun _ => Silent.speaksIn

/-- The names that a section mentions which is there where it is needed. -/
private theorem speaksIn_extras :
    SpeaksIn (· ∈ Supply.ofKind .tree) treeHelpers ∧
      SpeaksIn (· ∈ Supply.ofKind .datePicker) dateHelpers ∧
      SpeaksIn (· ∈ [.calendar, .datetime]) dateImports ∧
      SpeaksIn (· ∈ [.dataclass, .field]) treeImports ∧
      SpeaksIn (· ∈ [.runner]) (mainCode p) := by
  repeat' apply And.intro
  all_goals first
    | exact Tells.last _ rfl
    | exact Tells.chars _ rfl
    | exact trivial
    | exact rfl

theorem needed_of_mem {p : Project} {f : Format} {w : Widget} (mem : w ∈ p.widgets) {s : Supply}
    (own : s ∈ Supply.ofKind w.kind) : s.Needed p f := by
  rw [Supply.Needed, Supply.kind?_of_mem_ofKind own]
  exact ⟨w, mem, rfl⟩

theorem needed_of_uses {p : Project} {f : Format} {k : Kind} (used : uses p k = true) {s : Supply}
    (own : s ∈ Supply.ofKind k) : s.Needed p f := by
  obtain ⟨w, mem, same⟩ := List.any_eq_true.1 used
  exact needed_of_mem mem (beq_iff_eq.1 same ▸ own)

/-- What draws the widgets of an area mentions the names that are needed. -/
private theorem speaksIn_inArea (a : Area) : SpeaksIn (·.Needed p f) (blocks (p.inArea a)) := by
  refine AllIn.lifts.flatMap fun w listed => ?_
  have mem : w ∈ p.widgets := (List.mem_filter.1 listed).1
  rw [block_eq]
  exact ⟨trivial, (speaksIn_dressed w).imp fun _ => needed_of_mem mem⟩

private theorem speaks_of_mem_fields : ∀ s ∈ fields p,
    Speaks (·.Needed p f) false s.declaration ∧ Speaks (·.Needed p f) false s.assignment := by
  refine forall_mem_fields (fun panel => ?_) fun w mem stem hint initial state => ?_
  · exact speaks_field (.panel panel) (.flag _) fun same => absurd same (by decide)
  · refine speaks_field (.widget stem w.id) (begun_stateOf state) fun same => ?_
    have own : Supply.datetime ∈ Supply.ofKind w.kind := by
      rw [Widget.kind, Props.kind, kind_of_dated (same ▸ state)]
      decide
    exact needed_of_mem mem own

/-- The names that the drawing library is asked for. -/
def libraryNames : List Supply :=
  (if uses p .image then [.assets] else []) ++ if f = .uiOnly then [] else [.runner]

theorem mem_libraryNames {s : Supply} :
    s ∈ libraryNames p f ↔ s ∈ [.assets, .runner] ∧ s.Needed p f := by
  unfold libraryNames
  constructor
  · intro mem
    rcases List.mem_append.1 mem with asset | runner
    · obtain ⟨used, rfl⟩ : uses p .image = true ∧ s = .assets := by simpa using asset
      exact ⟨by decide, needed_of_uses used (by decide)⟩
    · obtain ⟨whole, rfl⟩ : f ≠ .uiOnly ∧ s = .runner := by simpa using runner
      exact ⟨by decide, whole⟩
  · rintro ⟨mem, needed⟩
    obtain rfl | rfl : s = .assets ∨ s = .runner := by simpa using mem
    · simp [Supply.uses_of_needed rfl needed]
    · have whole : f ≠ .uiOnly := needed
      simp [whole]

private theorem speaksIn_libraryImport :
    SpeaksIn (· ∈ libraryNames p f) [libraryImport p f] := by
  refine ⟨⟨?_, ?_, trivial⟩, trivial⟩
  · have silent : Tells (· ∈ []) false [.code (", ".intercalate (libraryModules p f))]
        "from imgui_bundle import " := .chars _ rfl
    exact silent.imp nofun
  · unfold libraryModules libraryNames
    split <;> split
    all_goals exact Tells.of_check (by decide +kernel) .last

/-- The names that are imported. -/
def Supply.imported : List Supply := [calendar, datetime, dataclass, field, assets, runner]

private theorem speaksIn_imports :
    SpeaksIn (fun s => s.Needed p f ∧ s ∈ Supply.imported) (imports p f) := by
  obtain ⟨-, -, dates, trees, -⟩ := speaksIn_extras p
  have dates (used : uses p .datePicker = true) :
      SpeaksIn (fun s => s.Needed p f ∧ s ∈ Supply.imported) dateImports := by
    refine dates.imp fun s mem => ⟨needed_of_uses used ?_, ?_⟩
    · revert s; decide
    · revert s; decide
  have trees (used : uses p .tree = true) :
      SpeaksIn (fun s => s.Needed p f ∧ s ∈ Supply.imported) treeImports := by
    refine trees.imp fun s mem => ⟨needed_of_uses used ?_, ?_⟩
    · revert s; decide
    · revert s; decide
  have library : SpeaksIn (fun s => s.Needed p f ∧ s ∈ Supply.imported) [libraryImport p f] := by
    refine (speaksIn_libraryImport p f).imp fun s mem => ?_
    obtain ⟨listed, needed⟩ := (mem_libraryNames p f).1 mem
    refine ⟨needed, ?_⟩
    clear mem needed
    revert s
    decide
  exact AllIn.lifts.imports dates trees library

/-- A module mentions the names only that are needed. -/
theorem speaksIn_moduleCode (comments : Bool) :
    SpeaksIn (·.Needed p f) (moduleCode p f comments) := by
  obtain ⟨trees, dates, -, -, main⟩ := speaksIn_extras p
  have frame := speaks_frame p (·.Needed p f)
  have helped : SpeaksIn (·.Needed p f) (helpers p) :=
    AllIn.lifts.helpers frame.flags (fun used => trees.imp fun _ => needed_of_uses used)
      fun used => dates.imp fun _ => needed_of_uses used
  have main (whole : f ≠ .uiOnly) : SpeaksIn (·.Needed p f) (mainCode p) := by
    refine main.imp fun s mem => ?_
    obtain rfl := List.mem_singleton.1 mem
    exact whole
  have body : SpeaksIn (·.Needed p f) (moduleBody p f) :=
    AllIn.lifts.moduleBody ((speaksIn_imports p f).imp fun _ => And.left) helped
      (AllIn.lifts.stateClass frame (speaks_of_mem_fields p f))
      (AllIn.lifts.uiFunction frame (speaksIn_inArea p f)) main
  exact allIn_append.2
    ⟨AllIn.lifts.header comments fun _ => trivial, allIn_commented comments body⟩

end Sections

/-! ## Bringing a name in -/

/-- The line that mentions the name first binds it, and mentions it once. -/
inductive Introduces (s : Supply) : List Stmt → Prop where
  | intro {above below : List Stmt} {line : String} (silent : SpeaksIn (· ≠ s) above)
    (first : (linesAll 0 below).head? = some line)
    (binds : (words (bare line)).count s.name = 1 ∧ s.name ∈ boundBy (bare line)) :
    Introduces s (above ++ below)

namespace Introduces

variable {s : Supply} {ss : List Stmt}

theorem here {line : String} (first : (linesAll 0 ss).head? = some line)
    (binds : (words (bare line)).count s.name = 1 ∧ s.name ∈ boundBy (bare line)) :
    Introduces s ss := .intro (show SpeaksIn (· ≠ s) [] from trivial) first binds

theorem after {above : List Stmt} (silent : SpeaksIn (· ≠ s) above) (h : Introduces s ss) :
    Introduces s (above ++ ss) := by
  obtain ⟨silent', first, binds⟩ := h
  rw [← List.append_assoc]
  exact .intro (allIn_append.2 ⟨silent, silent'⟩) first binds

/-- The name is mentioned in the line that binds it. -/
theorem mentioned (h : Introduces s ss) : ∃ line ∈ linesAll 0 ss, s.name ∈ words (bare line) := by
  obtain @⟨above, below, line, silent, first, once, -⟩ := h
  refine ⟨line, ?_, List.count_pos_iff.1 (once ▸ Nat.one_pos)⟩
  rw [linesAll_append]
  exact List.mem_append_right _ (List.mem_of_head? first)

theorem append (h : Introduces s ss) (ts : List Stmt) : Introduces s (ss ++ ts) := by
  obtain ⟨silent, first, binds⟩ := h
  rw [List.append_assoc]
  refine .intro silent ?_ binds
  rw [linesAll_append, List.head?_append, first]
  rfl

theorem setOff (h : Introduces s ss) : Introduces s (setOff ss) :=
  h.after (show SpeaksIn (· ≠ s) [.blank, .blank] from ⟨trivial, trivial, trivial⟩)

theorem spaced (h : Introduces s ss) : Introduces s (spaced ss) := by
  unfold Source.spaced
  split
  next empty =>
    rw [List.isEmpty_iff] at empty
    rwa [empty] at h
  next => exact h.append [.blank]

end Introduces

section Prelude

variable (p : Project) (f : Format)

private theorem introduces_calendar : Introduces .calendar dateImports :=
  .here rfl (by decide +kernel)

private theorem introduces_datetime : Introduces .datetime dateImports := by
  have silent : SpeaksIn (· ∈ [.calendar]) (dateImports.take 1) :=
    ⟨⟨.last _ rfl, trivial⟩, trivial⟩
  rw [← List.take_append_drop 1 dateImports]
  exact .after (silent.imp (by decide)) (.here rfl (by decide +kernel))

private theorem introduces_treeImports {s : Supply} (mem : s ∈ [.dataclass, .field]) :
    Introduces s treeImports := by
  revert s
  simp only [List.forall_mem_cons]
  exact ⟨.here rfl (by decide +kernel), .here rfl (by decide +kernel), nofun⟩

private theorem introduces_libraryImport :
    ∀ s ∈ libraryNames p f, Introduces s [libraryImport p f] := by
  unfold libraryNames libraryImport libraryModules
  split <;> split
  all_goals simp only [List.append_nil, List.nil_append, List.cons_append, List.forall_mem_cons]
  all_goals repeat' apply And.intro
  all_goals first
    | exact .here rfl (by decide +kernel)
    | exact nofun

private theorem introduces_nodeType : Introduces .nodeType treeHelpers := by
  have silent : SpeaksIn (· ∈ [.dataclass]) (treeHelpers.take 1) :=
    ⟨⟨.last _ rfl, trivial⟩, trivial⟩
  rw [← List.take_append_drop 1 treeHelpers]
  exact .after (silent.imp (by decide)) (.here rfl (by decide +kernel))

private theorem introduces_showTree : Introduces .showTree treeHelpers := by
  have silent : SpeaksIn (· ∈ [.dataclass, .nodeType, .field]) (treeHelpers.take 4) := by
    repeat' apply And.intro
    all_goals first
      | exact Tells.last _ rfl
      | exact Tells.chars _ rfl
      | exact trivial
      | exact rfl
  rw [← List.take_append_drop 4 treeHelpers]
  exact .after (silent.imp (by decide)) (.here rfl (by decide +kernel))

private theorem introduces_makeDate : Introduces .makeDate dateHelpers :=
  .here rfl (by decide +kernel)

private theorem introduces_imports {s : Supply} (needed : s.Needed p f)
    (imported : s ∈ Supply.imported) : Introduces s (imports p f) := by
  have dates (kind : s.kind? = some .datePicker) (h : Introduces s dateImports) :
      Introduces s (imports p f) := by
    rw [imports_sections, if_pos (Supply.uses_of_needed kind needed)]
    exact ((h.append _).spaced).append _
  obtain ⟨-, -, dateNames, treeNames, -⟩ := speaksIn_extras p
  have silent (other : s ∉ [.calendar, .datetime]) :
      SpeaksIn (· ≠ s) (if uses p .datePicker then dateImports else []) := by
    refine AllIn.lifts.ifTrue fun _ => dateNames.imp ?_
    rintro t mem rfl
    exact other mem
  have trees (kind : s.kind? = some .tree) (other : s ∉ [.calendar, .datetime])
      (h : Introduces s treeImports) : Introduces s (imports p f) := by
    rw [imports_sections, if_pos (Supply.uses_of_needed kind needed)]
    exact ((h.after (silent other)).spaced).append _
  have library (other : s ∉ [.calendar, .datetime]) (other' : s ∉ [.dataclass, .field])
      (mem : s ∈ [.assets, .runner]) : Introduces s (imports p f) := by
    have silent' : SpeaksIn (· ≠ s) (if uses p .tree then treeImports else []) := by
      refine AllIn.lifts.ifTrue fun _ => treeNames.imp ?_
      rintro t own rfl
      exact other' own
    have h := introduces_libraryImport p f s ((mem_libraryNames p f).2 ⟨mem, needed⟩)
    rw [imports_sections]
    exact h.after (AllIn.lifts.spaced (allIn_append.2 ⟨silent other, silent'⟩))
  cases s with
  | calendar => exact dates rfl introduces_calendar
  | datetime => exact dates rfl introduces_datetime
  | dataclass => exact trees rfl (by decide) (introduces_treeImports (by decide))
  | field => exact trees rfl (by decide) (introduces_treeImports (by decide))
  | assets => exact library (by decide) (by decide) (by decide)
  | runner => exact library (by decide) (by decide) (by decide)
  | _ => exact absurd imported (by decide)

private theorem introduces_helpers {s : Supply} (needed : s.Needed p f)
    (helper : s ∉ Supply.imported) : Introduces s (helpers p) := by
  have flags : SpeaksIn (· ≠ s) [panelFlags] := (speaks_frame p (· ≠ s)).flags
  have trees (kind : s.kind? = some .tree) (h : Introduces s treeHelpers) :
      Introduces s (helpers p) := by
    rw [helpers, if_pos (Supply.uses_of_needed kind needed)]
    exact (h.setOff.after flags).append _
  cases s with
  | nodeType => exact trees rfl introduces_nodeType
  | showTree => exact trees rfl introduces_showTree
  | makeDate =>
    have above : SpeaksIn (· ≠ .makeDate) (if uses p .tree then setOff treeHelpers else []) :=
      AllIn.lifts.ifTrue fun _ => AllIn.lifts.setOff ((speaksIn_extras p).1.imp (by decide))
    rw [helpers, if_pos (Supply.uses_of_needed (k := .datePicker) rfl needed)]
    exact introduces_makeDate.setOff.after (allIn_append.2 ⟨flags, above⟩)
  | _ => exact absurd (by decide) helper

private theorem commented_imports (comments : Bool) :
    commented comments (imports p f) = imports p f := by
  cases comments with
  | true => rfl
  | false =>
    unfold imports standardImports
    split <;> split <;> rfl

private theorem commented_helpers (comments : Bool) :
    commented comments (setOff (helpers p)) = setOff (helpers p) := by
  cases comments with
  | true => rfl
  | false =>
    unfold helpers
    split <;> split <;> rfl

/-- A module brings in the names that it needs. -/
theorem introduces_moduleCode {s : Supply} (needed : s.Needed p f) (comments : Bool) :
    Introduces s (moduleCode p f comments) := by
  have brought : Introduces s (imports p f ++ setOff (helpers p)) := by
    by_cases imported : s ∈ Supply.imported
    · exact (introduces_imports p f needed imported).append _
    · have silent : SpeaksIn (· ≠ s) (imports p f) := by
        refine (speaksIn_imports p f).imp ?_
        rintro t ⟨-, mem⟩ rfl
        exact imported mem
      exact (introduces_helpers p f needed imported).setOff.after silent
  have body : moduleBody p f = [.blank] ++ ((imports p f ++ setOff (helpers p)) ++
      (setOff (stateClass p) ++ setOff (uiFunction p) ++
        if f = .uiOnly then [] else setOff (mainCode p))) := by
    simp only [moduleBody, List.append_assoc, List.cons_append, List.nil_append]
  have blank : commented comments [.blank] = [.blank] := by cases comments <;> rfl
  rw [moduleCode, body, commented_append, commented_append, commented_append, blank,
    commented_imports, commented_helpers]
  have blanks : SpeaksIn (· ≠ s) [.blank] := ⟨trivial, trivial⟩
  exact ((brought.append _).after blanks).after (AllIn.lifts.header comments fun _ => trivial)

end Prelude

/-! ## Lines of the text -/

section Text

variable {S : Slot → Prop} {s : Supply} {ss : List Stmt}

private theorem codeLines_text (tidy : TidyCode S ss) :
    codeLines (Stmt.text ss) = (linesAll 0 ss).map bare ++ [[]] :=
  splitOn_bareLines (written_linesAll 0 ss tidy)

theorem name_mem_text (tidy : TidyCode S ss) : s.name ∈ words (bare (Stmt.text ss)) ↔
    ∃ line ∈ linesAll 0 ss, s.name ∈ words (bare line) := by
  have lines : spellings (bare (Stmt.text ss)) =
      (linesAll 0 ss).flatMap fun line => spellings (bare line) :=
    spellings_bareLines (written_linesAll 0 ss tidy)
  simp only [Supply.name_mem_words, lines, List.mem_flatMap]

/-- The first line of the text with the name is the one that brings it in. -/
theorem Introduces.firstMention? (tidy : TidyCode S ss) (h : Introduces s ss) :
    ∃ line, Text.firstMention? s.name (Stmt.text ss) = some line ∧
      (words line).count s.name = 1 ∧ s.name ∈ boundBy line := by
  have lines := codeLines_text tidy
  obtain @⟨above, below, line, silent, first, once, bound⟩ := h
  refine ⟨bare line, ?_, once, bound⟩
  have mentions : (words (bare line)).contains s.name = true :=
    List.contains_iff_mem.2 (List.count_pos_iff.1 (once ▸ Nat.one_pos))
  have none : ((linesAll 0 above).map bare).find? (fun l => (words l).contains s.name) = none := by
    rw [List.find?_eq_none]
    intro l listed
    obtain ⟨text, written, rfl⟩ := List.mem_map.1 listed
    rw [List.contains_iff_mem, Supply.name_mem_words]
    intro mem
    exact known_of_mem_linesAll (allIn_append.1 tidy).1 silent written s mem rfl
  obtain ⟨rest, cons⟩ : ∃ rest, linesAll 0 below = line :: rest := List.head?_eq_some_iff.1 first
  rw [Text.firstMention?, lines, linesAll_append, List.map_append, List.append_assoc,
    List.find?_append, none, cons, List.map_cons, List.cons_append, List.find?_cons, mentions]
  rfl

end Text

end Source

open Source in
/-- **Names are there when they are needed, and defined.** Of the names that a module brings in, it
mentions, outside of literals and comments, exactly those that are needed: those of dates where
there is a date picker, those of trees where there is a tree, that of images where there is an
image, and what runs a program where the text is one. The first line that mentions such a name binds
it, at column zero, and mentions it once. -/
theorem Project.supplies_generate (p : Project) (f : Format) (comments : Bool) :
    ∃ code, pythonOf f (p.generate f comments) = some code ∧
      ∀ s : Supply, (s.name ∈ Text.words (Text.bare code) ↔ s.Needed p f) ∧
        (s.Needed p f → ∃ line, Text.firstMention? s.name code = some line ∧
          (Text.words line).count s.name = 1 ∧ s.name ∈ Text.boundBy line) := by
  have tidy := tidyCode_moduleCode p f comments
  refine ⟨_, pythonOf_generate p f comments, fun s => ⟨⟨?_, ?_⟩, ?_⟩⟩
  · intro mentioned
    obtain ⟨line, written, mem⟩ := (name_mem_text tidy).1 mentioned
    exact known_of_mem_linesAll tidy (speaksIn_moduleCode p f comments) written s
      (Supply.name_mem_words.1 mem)
  · intro needed
    exact (name_mem_text tidy).2 (introduces_moduleCode p f needed comments).mentioned
  · intro needed
    exact (introduces_moduleCode p f needed comments).firstMention? tidy

end Formwork

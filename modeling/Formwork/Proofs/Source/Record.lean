import Formwork.Proofs.Source.Names

/-!
# The state record

The class of the state record declares the fields of a design and assigns them in the same order,
and nothing else in the module is accessed as a part of the state. The code of a widget accesses no
field but the one of that widget.

All of this is said about the text of the module: `declared`, `assigned` and `accessed` read names
from it. The class is found by its head, which no earlier line of the module is, and its end by the
first line that is not indented.
-/

set_option autoImplicit false

namespace Formwork

namespace Source

open Text (isNameChar)
open Stmt (linesAll commented linesAll_append linesAll_block linesAll_map commented_append
  commented_block commented_map)

/-! ## Reading the record -/

/-- The name in a line between two fixed texts; the first of them begins the line. -/
def nameBetween? (before after : List Char) (line : String) : Option String :=
  let left := line.toList.drop before.length
  if before.isPrefixOf line.toList ∧ after.isPrefixOf (left.dropWhile isNameChar) then
    some (String.ofList (left.takeWhile isNameChar))
  else none

/-- The name that a line of the class declares, with a type. -/
def declaredName? : String → Option String :=
  nameBetween? (indentation 1).toList ": ".toList

/-- The name that a line assigns when a record is made. -/
def assignedName? : String → Option String :=
  nameBetween? (indentation 2 ++ "self.").toList " = ".toList

/-- The lines of the class of the record: those below its head that are indented or empty. -/
def recordLines (text : String) : List String :=
  (((Text.lines text).dropWhile (· ≠ "class GeneratedState:")).drop 1).takeWhile
    fun line => line.toList.head?.all (· = ' ')

/-- The names that the class declares. -/
def declared (text : String) : List String := (recordLines text).filterMap declaredName?

/-- The names that are assigned when a record is made. -/
def assigned (text : String) : List String := (recordLines text).filterMap assignedName?

/-! ### One line -/

section Line

variable {before after : List Char} {line : String}

private theorem nameBetween?_eq_some (rest : List Char) {name : String}
    (named : ∀ c ∈ name.toList, isNameChar c = true) {d : Char} (ends : isNameChar d = false)
    (text : line.toList = before ++ (name.toList ++ (d :: after ++ rest))) :
    nameBetween? before (d :: after) line = some name := by
  have left : line.toList.drop before.length = name.toList ++ (d :: after ++ rest) := by
    rw [text, List.drop_left]
  have stop : ¬ isNameChar d = true := Bool.eq_false_iff.1 ends
  have begins : before.isPrefixOf line.toList = true :=
    List.isPrefixOf_iff_prefix.2 (text ▸ List.prefix_append _ _)
  have goes : (d :: after).isPrefixOf (d :: after ++ rest) = true :=
    List.isPrefixOf_iff_prefix.2 (List.prefix_append _ _)
  rw [nameBetween?, left, List.dropWhile_append_of_pos named, List.takeWhile_append_of_pos named,
    List.cons_append, List.dropWhile_cons_of_neg stop, List.takeWhile_cons_of_neg stop,
    List.append_nil, String.ofList_toList]
  exact if_pos ⟨begins, goes⟩

/-- A line that begins in another way has no name there. -/
private theorem nameBetween?_eq_none (other : ¬ before <+: line.toList) :
    nameBetween? before after line = none :=
  if_neg fun h => other (List.isPrefixOf_iff_prefix.1 h.1)

/-- Neither has a line where no name follows. -/
private theorem nameBetween?_eq_none_of_cons (rest : List Char) {c d : Char}
    (other : isNameChar c = false) (differs : d ≠ c) (text : line.toList = before ++ c :: rest) :
    nameBetween? before (d :: after) line = none := by
  have stop : ¬ isNameChar c = true := Bool.eq_false_iff.1 other
  rw [nameBetween?, text, List.drop_left, List.dropWhile_cons_of_neg stop]
  exact if_neg fun h => differs (List.cons_prefix_cons.1 (List.isPrefixOf_iff_prefix.1 h.2)).1

end Line

/-! ### The class -/

section Class

variable (p : Project) (comments : Bool)

/-- The line that declares a field. -/
def declarationLine (f : Field) : String := indentation 1 ++ f.declaration.render

/-- The line that assigns a field. -/
def assignmentLine (f : Field) : String := indentation 2 ++ f.assignment.render

/-- The lines of the class below its head. -/
def recordBody : List String :=
  (if comments then ["    # Runtime values of every interactive widget."] else [])
    ++ (fields p).map declarationLine ++ ["", "    def __init__(self) -> None:"]
    ++ (fields p).map assignmentLine

/-- The head of the class, and what is indented below it. -/
theorem linesAll_stateClass : linesAll 0 (commented comments (stateClass p)) =
    "class GeneratedState:" :: recordBody p comments := by
  have blank : commented comments [.blank] = [.blank] := by cases comments <;> rfl
  have note : linesAll 1
      (commented comments [.comment "Runtime values of every interactive widget."]) =
        if comments then ["    # Runtime values of every interactive widget."] else [] := by
    cases comments <;> rfl
  have split (first last : Stmt) (ss : List Stmt) :
      first :: ss ++ [.blank, last] = [first] ++ ss ++ ([.blank] ++ [last]) := rfl
  rw [stateClass, split, commented_block, commented_append, commented_append, commented_append,
    commented_map, commented_block, commented_map, blank, linesAll_block, linesAll_append,
    linesAll_append, linesAll_append, note, linesAll_map, linesAll_block, linesAll_map, recordBody,
    List.append_assoc _ [_, _]]
  rfl

end Class

section Reading

variable {p : Project} {f : Field}

private theorem declared_declarationLine
    (named : ∀ c ∈ f.slot.name.toList, isNameChar c = true) :
    declaredName? (declarationLine f) = some f.slot.name := by
  refine nameBetween?_eq_some (Line.render [.code f.annotation]).toList named (d := ':') rfl ?_
  rw [declarationLine, Field.declaration, render_cons, render_cons, String.toList_append,
    String.toList_append, String.toList_append]
  rfl

private theorem declared_assignmentLine :
    declaredName? (assignmentLine f) = none := by
  refine nameBetween?_eq_none_of_cons ([' ', ' ', ' '] ++ f.assignment.render.toList)
    (c := ' ') (d := ':') rfl (by decide) ?_
  rw [assignmentLine, String.toList_append]
  rfl

private theorem assigned_assignmentLine
    (named : ∀ c ∈ f.slot.name.toList, isNameChar c = true) :
    assignedName? (assignmentLine f) = some f.slot.name := by
  refine nameBetween?_eq_some (Line.render f.initial).toList named (d := ' ') rfl ?_
  rw [assignmentLine, Field.assignment, render_cons, render_cons, render_cons,
    String.toList_append, String.toList_append, String.toList_append, String.toList_append,
    String.toList_append, List.append_assoc]
  rfl

private theorem assigned_declarationLine :
    assignedName? (declarationLine f) = none := by
  refine nameBetween?_eq_none fun goes => ?_
  obtain ⟨c, cs, begins, letter⟩ := begins_slotName f.slot
  rw [declarationLine, Field.declaration, render_cons, Piece.render, String.toList_append,
    String.toList_append, String.toList_append, begins] at goes
  -- After four blanks the name begins, where a fifth blank would stand.
  have same : ' ' = c :=
    (List.cons_prefix_cons.1 ((List.prefix_append_right_inj (indentation 1).toList).1 goes)).1
  rw [← same] at letter
  cases letter

/-- A reader that finds nothing in the fixed lines of the class reads the lines of the fields. -/
theorem filterMap_recordBody {α : Type} (comments : Bool) {read : String → Option α}
    (note : read "    # Runtime values of every interactive widget." = none)
    (blank : read "" = none) (maker : read "    def __init__(self) -> None:" = none) :
    (recordBody p comments).filterMap read =
      (fields p).filterMap (read ∘ declarationLine)
        ++ (fields p).filterMap (read ∘ assignmentLine) := by
  have first : (if comments then ["    # Runtime values of every interactive widget."]
      else []).filterMap read = [] := by
    cases comments with
    | true => exact List.filterMap_cons_none note
    | false => rfl
  have middle : ["", "    def __init__(self) -> None:"].filterMap read = [] := by
    rw [List.filterMap_cons_none blank, List.filterMap_cons_none maker]
    rfl
  rw [recordBody, List.filterMap_append, List.filterMap_append, List.filterMap_append, first,
    middle, List.nil_append, List.append_nil, List.filterMap_map, List.filterMap_map]

private theorem filterMap_fields {read : Field → Option String}
    (reads : ∀ f ∈ fields p, read f = some f.slot.name) :
    (fields p).filterMap read = names p := by
  rw [names, slots, List.map_map, ← List.filterMap_eq_map]
  exact List.filterMap_congr reads

/-- The class declares the fields of the design. -/
private theorem declared_recordBody (comments : Bool) (named : Named (· ∈ slots p)) :
    (recordBody p comments).filterMap declaredName? = names p := by
  have own := filterMap_fields (p := p) fun f mem =>
    declared_declarationLine (named f.slot (List.mem_map_of_mem mem))
  have other : (fields p).filterMap (declaredName? ∘ assignmentLine) = [] :=
    List.filterMap_eq_nil_iff.2 fun f _ => declared_assignmentLine
  rw [filterMap_recordBody comments rfl rfl rfl, other, List.append_nil]
  exact own

/-- It assigns the same fields in the same order. -/
private theorem assigned_recordBody (comments : Bool) (named : Named (· ∈ slots p)) :
    (recordBody p comments).filterMap assignedName? = names p := by
  have own := filterMap_fields (p := p) fun f mem =>
    assigned_assignmentLine (named f.slot (List.mem_map_of_mem mem))
  have other : (fields p).filterMap (assignedName? ∘ declarationLine) = [] :=
    List.filterMap_eq_nil_iff.2 fun f _ => assigned_declarationLine
  rw [filterMap_recordBody comments rfl rfl rfl, other, List.nil_append]
  exact own

end Reading

/-! ### Where the class is -/

/-- The line begins with program text that the head of the class does not begin with. -/
def Apart (l : Line) : Prop :=
  ∃ s ps, l = .code s :: ps ∧ ¬ s.toList <+: "class GeneratedState:".toList

private theorem Apart.chars {ps : Line} (cs : List Char)
    (h : cs.isPrefixOf "class GeneratedState:".toList = false) :
    Apart (.code (String.ofList cs) :: ps) := by
  refine ⟨_, ps, rfl, ?_⟩
  rw [String.toList_ofList, ← List.isPrefixOf_iff_prefix, h]
  exact Bool.false_ne_true

/-- An indented line begins with a blank. -/
private theorem head?_indentation (depth : Nat) (text : String) :
    (indentation (depth + 1) ++ text).toList.head? = some ' ' := by
  have blanks : 4 * (depth + 1) = 4 * depth + 3 + 1 := rfl
  rw [String.toList_append, indentation, String.toList_ofList, blanks, List.replicate_succ]
  rfl

private theorem ne_of_written {text : String} (h : Written Apart (fun _ => True) text) :
    text ≠ "class GeneratedState:" := by
  have apart {l : Line} (h : Apart l) (ending : String) :
      l.render ++ ending ≠ "class GeneratedState:" := by
    obtain ⟨s, ps, rfl, differs⟩ := h
    rw [render_cons]
    intro same
    refine differs ?_
    rw [← same, String.toList_append, String.toList_append, List.append_assoc]
    exact List.prefix_append _ _
  have level (depth : Nat) {line : String} (ne : line ≠ "class GeneratedState:") :
      indentation depth ++ line ≠ "class GeneratedState:" := by
    cases depth with
    | zero => exact ne
    | succ depth =>
      intro same
      have first := head?_indentation depth line
      rw [same] at first
      exact absurd first (by decide)
  cases h with
  | code depth h =>
    have whole := apart h ""
    rw [String.append_empty] at whole
    exact level depth whole
  | head depth h =>
    rw [String.append_assoc]
    exact level depth (apart h ":")
  | @comment depth t h =>
    refine level depth fun same => ?_
    obtain ⟨cs, begins⟩ := exists_commentText t
    have first : some '#' = "class GeneratedState:".toList.head? := by rw [← same, begins]; rfl
    exact absurd first (by decide)
  | blank => decide

section Sections

variable {p : Project} (f : Format)

private theorem apart_extras (p : Project) : Stmt.Extras (Stmt.AllIn Apart fun _ => True) p := by
  constructor
  all_goals repeat' apply And.intro
  all_goals first
    | exact Apart.chars _ rfl
    | exact trivial

private theorem apart_imports : Stmt.AllIn Apart (fun _ => True) (imports p f) :=
  have extras := apart_extras p
  Stmt.AllIn.lifts.imports (fun _ => extras.dateImports) (fun _ => extras.treeImports)
    ⟨.chars _ rfl, trivial⟩

private theorem apart_helpers : Stmt.AllIn Apart (fun _ => True) (helpers p) := by
  have extras := apart_extras p
  refine Stmt.AllIn.lifts.helpers ⟨⟨?_, ⟨?_, ?_, ?_, ?_⟩, ?_⟩, trivial⟩
    (fun _ => extras.treeHelpers) fun _ => extras.dateHelpers
  all_goals exact Apart.chars _ rfl

variable (p) (comments : Bool)

/-- What comes before the class in the body of the module. -/
private def aboveRecord : List Stmt :=
  Stmt.blank :: imports p f ++ setOff (helpers p) ++ [Stmt.blank, Stmt.blank]

/-- Everything that comes before the class. -/
private def upToRecord : List Stmt :=
  framing f ++ (if comments then fullHeader f else briefHeader)
    ++ commented comments (aboveRecord p f)

/-- What comes after it. -/
private def belowRecord : List Stmt :=
  [Stmt.blank, Stmt.blank] ++ (uiFunction p ++ if f = .uiOnly then [] else setOff (mainCode p))

private theorem code_eq : framing f ++ moduleCode p f comments =
    upToRecord p f comments ++ (commented comments (stateClass p)
      ++ commented comments (belowRecord p f)) := by
  have body : moduleBody p f = aboveRecord p f ++ (stateClass p ++ belowRecord p f) := by
    simp only [moduleBody, aboveRecord, belowRecord, setOff, List.append_assoc, List.cons_append,
      List.nil_append]
  rw [moduleCode, body, commented_append, commented_append, upToRecord]
  simp only [List.append_assoc]

private theorem ne_of_mem_upToRecord :
    ∀ line ∈ linesAll 0 (upToRecord p f comments), line ≠ "class GeneratedState:" := by
  have apart : Stmt.AllIn Apart (fun _ => True) (upToRecord p f comments) := by
    have header : Stmt.AllIn Apart (fun _ => True)
        (if comments then fullHeader f else briefHeader) :=
      Stmt.AllIn.lifts.header comments fun _ => trivial
    refine Stmt.allIn_append.2 ⟨Stmt.allIn_append.2 ⟨(apart_extras p).framing trivial f, header⟩,
      Stmt.allIn_commented comments (Stmt.allIn_append.2 ⟨Stmt.allIn_append.2 ⟨?_, ?_⟩, ?_⟩)⟩
    · exact ⟨trivial, apart_imports f⟩
    · exact Stmt.AllIn.lifts.setOff apart_helpers
    · exact ⟨trivial, trivial, trivial⟩
  exact fun line mem => ne_of_written (Stmt.written_linesAll 0 _ apart line mem)

/-- After the class the function comes that draws everything. -/
private theorem exists_lines_belowRecord : ∃ after,
    linesAll 0 (commented comments (belowRecord p f)) =
      "" :: "" :: "def generated_ui(state: GeneratedState) -> None:" :: after := by
  rw [belowRecord, uiFunction_eq, commented_append, commented_append, commented_block,
    linesAll_append, linesAll_append, linesAll_block]
  cases comments <;> exact ⟨_, rfl⟩

/-- Every line of the class is indented or empty. -/
private theorem indented_recordBody :
    ∀ line ∈ recordBody p comments, line.toList.head?.all (· = ' ') = true := by
  have field (depth : Nat) (text : String) :
      (indentation (depth + 1) ++ text).toList.head?.all (· = ' ') = true := by
    rw [head?_indentation]
    rfl
  refine List.forall_mem_append.2 ⟨List.forall_mem_append.2
    ⟨List.forall_mem_append.2 ⟨?_, ?_⟩, by decide⟩, ?_⟩
  · cases comments <;> decide
  · exact List.forall_mem_map.2 fun f _ => field 0 f.declaration.render
  · exact List.forall_mem_map.2 fun f _ => field 1 f.assignment.render

/-- The lines below the head of the class are found. -/
theorem recordLines_generate :
    recordLines (p.generate f comments) = recordBody p comments ++ ["", ""] := by
  obtain ⟨after, next⟩ := exists_lines_belowRecord p f comments
  have lines : Text.lines (p.generate f comments) = linesAll 0 (upToRecord p f comments)
      ++ "class GeneratedState:" :: (recordBody p comments ++ "" :: "" ::
        "def generated_ui(state: GeneratedState) -> None:" :: (after ++ [""])) := by
    rw [Project.generate, lines_text (tidyCode_generate p f comments), code_eq,
      linesAll_append, linesAll_append, linesAll_stateClass, next]
    simp only [List.append_assoc, List.cons_append]
  have before : ∀ line ∈ linesAll 0 (upToRecord p f comments),
      decide (line ≠ "class GeneratedState:") = true := fun line mem =>
    decide_eq_true (ne_of_mem_upToRecord p f comments line mem)
  rw [recordLines, lines, List.dropWhile_append_of_pos before,
    List.dropWhile_cons_of_neg (by decide), List.drop_one, List.tail_cons,
    List.takeWhile_append_of_pos (indented_recordBody p comments)]
  rfl

end Sections

/-! ## The code of a widget -/

section Widget

variable {p : Project} {w : Widget} (comments : Bool)

/-- The lines that draw a widget, at a level: what `blockLines` says, indented. -/
def widgetLines (depth : Nat) (w : Widget) : List String :=
  linesAll depth (commented comments (block w))

/-- What is a part of the statements is a part of the lines. -/
private theorem infix_linesAll (depth : Nat) {ss ts : List Stmt} (h : ss <:+: ts) :
    linesAll depth (commented comments ss) <:+:
      linesAll depth (commented comments ts) := by
  obtain ⟨before, after, rfl⟩ := h
  rw [commented_append, commented_append, linesAll_append, linesAll_append]
  exact List.infix_append _ _ _

/-- The body of a block is written one level deeper. -/
private theorem infix_body (depth : Nat) (head : Line) (body : List Stmt) :
    linesAll (depth + 1) (commented comments body) <:+:
      linesAll depth (commented comments [.block head body]) := by
  rw [commented_block, linesAll_block]
  exact (List.suffix_cons _ _).isInfix

private theorem infix_flatMap {α β : Type} {a : α} {as : List α} (mem : a ∈ as) (f : α → List β) :
    f a <:+: as.flatMap f := by
  obtain ⟨before, after, rfl⟩ := List.append_of_mem mem
  rw [List.flatMap_append, List.flatMap_cons, ← List.append_assoc]
  exact List.infix_append _ _ _

/-- In the function that draws everything a widget of a panel is two levels deep, any other widget
one level. -/
private theorem exists_infix_uiFunction (mem : w ∈ p.widgets) :
    ∃ depth, widgetLines comments depth w <:+:
      linesAll 0 (commented comments (uiFunction p)) := by
  have own : block w <:+: blocks (p.inArea w.area) :=
    infix_flatMap (List.mem_filter.2 ⟨mem, beq_self_eq_true w.area⟩) block
  have inside {ss : List Stmt} (part : ss <:+: uiOpening
      ++ (Panel.all.flatMap fun q => panelCode p q (panelPos q) (panelSize q)) ++ canvasCode p) :
      linesAll 1 (commented comments ss) <:+:
        linesAll 0 (commented comments (uiFunction p)) := by
    rw [uiFunction_eq]
    exact (infix_linesAll comments 1 part).trans (infix_body comments 0 _ _)
  have canvas (part : blocks (p.inArea w.area) <:+: canvasCode p) :
      widgetLines comments 1 w <:+: linesAll 0 (commented comments (uiFunction p)) :=
    inside ((own.trans part).trans (List.suffix_append _ _).isInfix)
  have panel (q : Panel) (same : w.area = q.area) :
      widgetLines comments 2 w <:+: linesAll 0 (commented comments (uiFunction p)) := by
    have listed : q ∈ Panel.all := by cases q <;> decide
    have code : panelCode p q (panelPos q) (panelSize q) <:+: uiOpening
        ++ (Panel.all.flatMap fun q => panelCode p q (panelPos q) (panelSize q)) ++ canvasCode p :=
      (infix_flatMap listed fun q => panelCode p q (panelPos q) (panelSize q)).trans
        (List.infix_append _ _ _)
    have body := infix_linesAll comments 2 (own.trans (List.infix_append
      (panelOpening p q (panelPos q) (panelSize q)) _ panelClosing))
    have switched : [.block ["if state.", .slot (.panel q)]
        (panelOpening p q (panelPos q) (panelSize q) ++ blocks (p.inArea q.area) ++ panelClosing)]
          <:+: panelCode p q (panelPos q) (panelSize q) := by
      rw [panelCode_eq]
      exact ⟨[_], [], rfl⟩
    rw [same] at body
    exact ((body.trans (infix_body comments 1 _ _)).trans
      (infix_linesAll comments 1 switched)).trans (inside code)
  cases area : w.area with
  | top => exact ⟨2, panel .top area⟩
  | bottom => exact ⟨2, panel .bottom area⟩
  | left => exact ⟨2, panel .left area⟩
  | right => exact ⟨2, panel .right area⟩
  | center =>
    rw [area, canvasCode_eq, List.append_assoc] at canvas
    exact ⟨1, canvas (List.infix_append _ _ _)⟩
  | free =>
    rw [area, canvasCode_eq] at canvas
    exact ⟨1, canvas (List.infix_append _ _ _)⟩

/-- The code of every widget stands in the module. -/
theorem exists_infix_moduleCode (mem : w ∈ p.widgets) (f : Format) :
    ∃ depth, widgetLines comments depth w <:+: linesAll 0 (moduleCode p f comments) := by
  obtain ⟨depth, part⟩ := exists_infix_uiFunction comments mem
  have drawn : uiFunction p <:+: moduleBody p f := by
    refine List.IsInfix.trans ?_ (List.prefix_append _ _).isInfix
    exact ((List.suffix_append [.blank, .blank] (uiFunction p)).trans
      (List.suffix_append _ _)).isInfix
  refine ⟨depth, part.trans ((infix_linesAll comments 0 drawn).trans ?_)⟩
  rw [moduleCode, linesAll_append]
  exact (List.suffix_append _ _).isInfix

/-- The code of every widget stands in the text. -/
theorem exists_infix_generate (mem : w ∈ p.widgets) (f : Format) :
    ∃ depth, widgetLines comments depth w <:+: Text.lines (p.generate f comments) := by
  obtain ⟨depth, part⟩ := exists_infix_moduleCode comments mem f
  refine ⟨depth, part.trans ?_⟩
  rw [Project.generate, lines_text (tidyCode_generate p f comments), linesAll_append]
  exact List.infix_append _ _ _

/-- The code of a widget accesses no field but its own. -/
theorem nameOf_of_accessed (natural : 0 ≤ w.id) {depth : Nat} {n : String}
    (mem : n ∈ Text.accessed (Text.bare
      (String.join ((widgetLines comments depth w).map fun l => l ++ "\n")))) :
    nameOf w = some n := by
  have code : TidyCode (fun t => ∃ f, fieldOf w = some f ∧ f.slot = t)
      (commented comments (block w)) :=
    Stmt.allIn_commented comments (tidyCode_block fun f own => ⟨f, own, rfl⟩)
  have named : Named fun t => ∃ f, fieldOf w = some f ∧ f.slot = t := by
    rintro t ⟨f, own, rfl⟩
    obtain ⟨stem, slot⟩ := exists_slot_eq own
    rw [slot]
    exact Slot.isNameChar_name natural
  obtain ⟨t, ⟨f, own, rfl⟩, rfl⟩ := exists_slot_of_accessed named code depth mem
  exact Option.map_eq_some_iff.2 ⟨f, own, rfl⟩

end Widget

end Source

open Source in
/-- **The state record is closed.** Where the ids of a design are distinct and, as documents demand,
not negative, the names of the fields are distinct: one for each panel, and one for each widget that
keeps a value. The class declares and assigns these names. The module accesses no other, and in the
lines that draw a widget no other than that of the field of the widget. -/
theorem Project.record_generate (p : Project) (f : Format) (comments : Bool)
    (identified : p.Identified) :
    (names p).Nodup ∧
      names p = ["enable_top", "enable_bottom", "enable_left", "enable_right"] ++
        (Area.drawOrder.flatMap fun a => (p.inArea a).filterMap nameOf) ∧
      declared (p.generate f comments) = names p ∧
      assigned (p.generate f comments) = names p ∧
      (∀ n ∈ Text.accessed (Text.bare (p.generate f comments)), n ∈ names p) ∧
      ∀ w ∈ p.widgets,
        (∃ depth, widgetLines comments depth w <:+: Text.lines (p.generate f comments)) ∧
        ∀ depth, ∀ n ∈ Text.accessed (Text.bare
          (String.join ((widgetLines comments depth w).map fun l => l ++ "\n"))),
          nameOf w = some n := by
  have named := named_slots identified
  have quiet (read : String → Option String) (blank : read "" = none) :
      ["", ""].filterMap read = [] := by
    rw [List.filterMap_cons_none blank, List.filterMap_cons_none blank]
    rfl
  have once := nodup_slots identified.distinct
  refine ⟨once.map Slot.name_injective, names_eq p, ?_, ?_, ?_, ?_⟩
  · rw [declared, recordLines_generate, List.filterMap_append, declared_recordBody comments named,
      quiet _ rfl, List.append_nil]
  · rw [assigned, recordLines_generate, List.filterMap_append, assigned_recordBody comments named,
      quiet _ rfl, List.append_nil]
  · intro n mem
    obtain ⟨t, listed, rfl⟩ := exists_slot_of_accessed named (tidyCode_generate p f comments) 0 mem
    exact List.mem_map_of_mem listed
  · intro w mem
    exact ⟨exists_infix_generate comments mem f, fun depth n =>
      nameOf_of_accessed comments (identified.natural w.id (List.mem_map_of_mem mem))⟩

/-- A check box, and a window at the top. -/
def Project.boxAndWindow : Project :=
  { widgets := [Session.newWidget 2 .checkbox {} .free, Session.newWidget 17 .window {} .top] }

open Source in
theorem Project.record_generate_boxAndWindow :
    boxAndWindow.Identified ∧
      declared (boxAndWindow.generate .single true) = ["enable_top", "enable_bottom", "enable_left",
        "enable_right", "window_17_open", "checked_2"] ∧
      ∀ n ∈ Text.accessed (Text.bare (boxAndWindow.generate .single true)),
        n ∈ assigned (boxAndWindow.generate .single true) := by
  have identified : boxAndWindow.Identified := by decide
  obtain ⟨-, listed, declares, assigns, accesses, -⟩ :=
    record_generate boxAndWindow .single true identified
  refine ⟨identified, ?_, ?_⟩
  · rw [declares]
    decide
  · rw [assigns]
    exact accesses

end Formwork

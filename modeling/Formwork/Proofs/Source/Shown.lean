import Formwork.Proofs.Source.Assignments
import Formwork.Proofs.Source.TreeLiteral

/-!
# What the code of a widget shows

The lines that draw a widget are read back by marks: a mark is the program text with which a line
of one kind begins, and what comes behind it is a literal or a number. `tableColumns`, `loopColumns`
and `shownForests` read the columns of tables and the trees of outlines in this way.

All that stands around the control of a widget is a call of the drawing library or a comment. No
mark begins like one of them, so that a reader finds in the lines of a widget what it finds in those
of its control (`found_widgetLines`).
-/

set_option autoImplicit false

namespace Formwork.Source

open Text (Begins)
open Stmt (AllIn linesAll commented linesAll_append linesAll_block commented_append
  commented_block)

/-! ## Reading -/

/-- What comes behind a mark in a line that begins with it, apart from the indentation. -/
def behind? (mark line : String) : Option (List Char) :=
  (line.toList.dropWhile Char.isWhitespace).dropPrefix? mark.toList

/-- What is read behind a mark. -/
def found {α : Type} (mark : String) (parse : List Char → Option α) (lines : List String) :
    List α :=
  lines.filterMap fun line => (behind? mark line).bind parse

/-- The program text that begins a table. -/
def tableMark : String := "if imgui.begin_table("

/-- The program text that begins a loop over the columns of a table. -/
def loopMark : String := "for col in range("

/-- The program text that shows a forest. -/
def forestMark : String := "gen_show_tree("

/-- The count of columns behind the identity of a table. -/
def tableCount? (cs : List Char) : Option Int := do
  let (_, cs) ← Text.Literal.read? cs
  let cs ← cs.dropPrefix? ", ".toList
  integer? (cs.takeWhile (· ≠ ','))

/-- The count of rounds of a loop. -/
def loopCount? (cs : List Char) : Option Int := integer? (cs.takeWhile (· ≠ ')'))

/-- A literal of a forest that closes the line. -/
def forest? (cs : List Char) : Option (List Node) := do
  let (trees, rest) ← readList? cs.length cs
  if rest = [')'] then some trees else none

/-- The counts of columns of the tables in lines of code. -/
def tableColumns (lines : List String) : List Int := found tableMark tableCount? lines

/-- The counts of rounds of the loops over columns. -/
def loopColumns (lines : List String) : List Int := found loopMark loopCount? lines

/-- The forests that are shown. -/
def shownForests (lines : List String) : List (List Node) := found forestMark forest? lines

/-! ## Marks -/

/-- Two texts differ at a place that both have. -/
def clash : List Char → List Char → Bool
  | c :: cs, d :: ds => c ≠ d || clash cs ds
  | _, _ => false

theorem not_prefix_of_clash {cs ds : List Char} (h : clash cs ds = true) : ¬ cs <+: ds := by
  induction cs generalizing ds with
  | nil => cases h
  | cons c cs ih =>
    cases ds with
    | nil => cases h
    | cons d ds =>
      intro goes
      obtain ⟨same, goes⟩ := List.cons_prefix_cons.1 goes
      rcases Bool.or_eq_true_iff.1 h with differs | later
      · exact of_decide_eq_true differs same
      · exact ih later goes

theorem clash_append {cs ds : List Char} (h : clash cs ds = true) (rest : List Char) :
    clash cs (ds ++ rest) = true := by
  induction cs generalizing ds with
  | nil => cases h
  | cons c cs ih =>
    cases ds with
    | nil => cases h
    | cons d ds =>
      rcases Bool.or_eq_true_iff.1 h with differs | later
      · exact Bool.or_eq_true_iff.2 (.inl differs)
      · exact Bool.or_eq_true_iff.2 (.inr (ih later))

/-- A text that begins a line of code, and in another way than the calls of the drawing library. -/
structure IsMark (mark : String) : Prop where
  opens : Begins opensCode mark
  apart : clash mark.toList "imgui.".toList = true

theorem IsMark.chars (c : Char) (cs : List Char) (opens : opensCode c = true)
    (apart : clash (c :: cs) "imgui.".toList = true) : IsMark (String.ofList (c :: cs)) :=
  ⟨.chars c cs opens, by rwa [String.toList_ofList]⟩

theorem isMark_table : IsMark tableMark := .chars _ _ rfl rfl

theorem isMark_loop : IsMark loopMark := .chars _ _ rfl rfl

theorem isMark_forest : IsMark forestMark := .chars _ _ rfl rfl

/-- The line begins with program text that differs from the mark. -/
def Foreign (mark : String) (l : Line) : Prop :=
  ∃ s ps, l = .code s :: ps ∧ Begins opensCode s ∧ clash mark.toList s.toList = true

theorem Foreign.chars {mark : String} {ps : Line} (c : Char) (cs : List Char)
    (opens : opensCode c = true) (h : clash mark.toList (c :: cs) = true) :
    Foreign mark (.code (String.ofList (c :: cs)) :: ps) :=
  ⟨_, ps, rfl, .chars c cs opens, by rwa [String.toList_ofList]⟩

/-- A call of the drawing library is foreign to every mark. -/
theorem IsMark.foreign {mark : String} (h : IsMark mark) {ps : Line} (cs : List Char) :
    Foreign mark (.code (String.ofList ('i' :: 'm' :: 'g' :: 'u' :: 'i' :: '.' :: cs)) :: ps) :=
  .chars 'i' _ rfl (clash_append h.apart cs)

/-! ## One line -/

section Line

variable {mark : String} {text : String} (depth : Nat)

private theorem dropWhile_code (h : Begins opensCode text) :
    (indentation depth ++ text).toList.dropWhile Char.isWhitespace = text.toList := by
  obtain ⟨c, cs, begins, opens⟩ := h
  rw [opensCode, Bool.and_eq_true, Bool.not_eq_true'] at opens
  rw [dropWhile_indentation, begins, List.dropWhile_cons_of_neg (Bool.eq_false_iff.1 opens.1)]

theorem behind?_mark (h : IsMark mark) (rest : String) :
    behind? mark (indentation depth ++ (mark ++ rest)) = some rest.toList := by
  rw [behind?, dropWhile_code depth (h.opens.append rest), String.toList_append,
    List.dropPrefix?_append_of_beq _ BEq.rfl]

private theorem behind?_foreign {s : String} (opens : Begins opensCode s)
    (other : clash mark.toList s.toList = true) (rest : String) :
    behind? mark (indentation depth ++ (s ++ rest)) = none := by
  rw [behind?, dropWhile_code depth (opens.append rest), String.toList_append]
  exact dropPrefix?_eq_none (not_prefix_of_clash (clash_append other rest.toList))

private theorem behind?_comment (h : IsMark mark) (t : String) :
    behind? mark (indentation depth ++ commentText t) = none := by
  obtain ⟨cs, sign⟩ := exists_commentText t
  obtain ⟨c, ds, begins, opens⟩ := h.opens
  rw [behind?, dropWhile_indentation, sign, List.dropWhile_cons_of_neg (by decide), begins]
  refine dropPrefix?_eq_none fun goes => ?_
  rw [(List.cons_prefix_cons.1 goes).1] at opens
  cases opens

/-- Nothing is read from a comment, or from a line that begins in another way. -/
theorem behind?_of_written (h : IsMark mark) (line : Written (Foreign mark) (fun _ => True) text) :
    behind? mark text = none := by
  cases line with
  | code depth other =>
    obtain ⟨s, ps, rfl, opens, other⟩ := other
    rw [render_cons]
    exact behind?_foreign depth opens other _
  | head depth other =>
    obtain ⟨s, ps, rfl, opens, other⟩ := other
    rw [render_cons, String.append_assoc, String.append_assoc]
    exact behind?_foreign depth opens other _
  | comment depth _ => exact behind?_comment depth h _
  | blank =>
    obtain ⟨c, cs, begins, -⟩ := h.opens
    rw [behind?, begins]
    rfl

end Line

/-! ## Statements -/

section Found

variable {α : Type} {mark : String} {parse : List Char → Option α} (comments : Bool)
  (depth : Nat)

theorem found_append (ls ms : List String) :
    found mark parse (ls ++ ms) = found mark parse ls ++ found mark parse ms :=
  List.filterMap_append

/-- In statements that begin in other ways there is nothing to read. -/
theorem found_foreign (h : IsMark mark) {ss : List Stmt}
    (foreign : AllIn (Foreign mark) (fun _ => True) ss) :
    found mark parse (linesAll depth (commented comments ss)) = [] := by
  refine List.filterMap_eq_nil_iff.2 fun line mem => ?_
  have written := Stmt.written_linesAll depth _ (Stmt.allIn_commented comments foreign) line mem
  rw [behind?_of_written h written]
  rfl

/-- What stands around a control begins in other ways. -/
theorem found_widgetLines (h : IsMark mark) (w : Widget) :
    found mark parse (widgetLines comments depth w) = found mark parse
      (linesAll depth (commented comments (body w.id w.size w.pos w.props.control))) := by
  have before : AllIn (Foreign mark) (fun _ => True)
      (header w :: placement w ++ whereDisabled w.props (.line ["imgui.begin_disabled()"])) := by
    have placed : AllIn (Foreign mark) (fun _ => True) (placement w) :=
      AllIn.lifts.ifFalse fun _ => ⟨h.foreign _, trivial⟩
    exact Stmt.allIn_append.2 ⟨⟨trivial, placed⟩, AllIn.lifts.whereDisabled _ (h.foreign _)⟩
  have after : AllIn (Foreign mark) (fun _ => True)
      (whereDisabled w.props (.line ["imgui.end_disabled()"]) ++ tooltip w.props.tooltip) :=
    Stmt.allIn_append.2 ⟨AllIn.lifts.whereDisabled _ (h.foreign _),
      AllIn.lifts.whereText _ ⟨h.foreign _, trivial⟩⟩
  rw [widgetLines, block, List.append_assoc, commented_append, commented_append, linesAll_append,
    linesAll_append, found_append, found_append, found_foreign comments depth h before,
    found_foreign comments depth h after, List.nil_append, List.append_nil]

/-- What comes behind the mark of a line is parsed. -/
theorem found_mark (h : IsMark mark) (rest : String) :
    found mark parse [indentation depth ++ (mark ++ rest)] = (parse rest.toList).toList := by
  rw [found, List.filterMap_cons, behind?_mark depth h, Option.bind_some]
  cases parse rest.toList <;> rfl

theorem found_block (head : Line) (ss : List Stmt) :
    found mark parse (linesAll depth (commented comments [.block head ss])) =
      found mark parse [indentation depth ++ (head.render ++ ":")]
        ++ found mark parse (linesAll (depth + 1) (commented comments ss)) := by
  rw [commented_block, linesAll_block, ← found_append, String.append_assoc]
  rfl

theorem found_foreignHead (h : IsMark mark) {head : Line} (foreign : Foreign mark head) :
    found mark parse [indentation depth ++ (head.render ++ ":")] = [] := by
  have line := behind?_of_written h (.head depth foreign)
  rw [String.append_assoc] at line
  rw [found, List.filterMap_cons, line]
  rfl

end Found

/-! ## Controls -/

section Controls

variable (comments : Bool) (depth : Nat) (id : Int) (size : Vec) (text : String)

/-- An integer ends where a character comes that is neither a digit nor a sign. -/
private theorem integer?_until (n : Int) {stop : Char} (other : stop.isDigit = false)
    (unsigned : stop ≠ '-') (rest : List Char) :
    integer? (((intText n).toList ++ stop :: rest).takeWhile (· ≠ stop)) = some n := by
  have number : ∀ c ∈ (intText n).toList, decide (c ≠ stop) = true :=
    fun _ mem => decide_eq_true (ne_of_mem_of_not_mem mem (notMem_intText other unsigned))
  rw [List.takeWhile_append_of_pos number, List.takeWhile_cons_of_neg (by simp), List.append_nil,
    integer?_intText]

private theorem tableCount?_text (name : String) (n : Int) (rest : String) :
    tableCount? (Text.Literal.quote name ++ (", " ++ (intText n ++ ("," ++ rest)))).toList =
      some n := by
  rw [String.toList_append, String.toList_append, String.toList_append, String.toList_append,
    tableCount?, Text.Literal.read?_quote, Option.bind_eq_bind, Option.bind_some]
  dsimp only
  rw [List.dropPrefix?_append_of_beq _ BEq.rfl, Option.bind_eq_bind, Option.bind_some]
  exact integer?_until n rfl (by decide) rest.toList

private theorem loopCount?_text (n : Int) : loopCount? (intText n ++ "):").toList = some n := by
  rw [String.toList_append]
  exact integer?_until n rfl (by decide) [':']

private theorem forest?_text (trees : List Node) :
    forest? (forestText trees ++ ")").toList = some trees := by
  have closing : ")".toList = [')'] := rfl
  have enough : (forestText trees).toList.length ≤
      ((forestText trees).toList ++ [')']).length := by
    rw [List.length_append]
    exact Nat.le_add_right _ _
  rw [String.toList_append, closing]
  show (readList? _ ((forestText trees).toList ++ [')'])).bind _ = _
  rw [readList?_forestText trees _ enough]
  rfl

/-- A widget with columns draws a table of at least one column. -/
theorem tableColumns_columns (count : Int) :
    tableColumns (linesAll depth (commented comments (columns id size text count))) =
      [max count 1] := by
  have head : Line.render ["if imgui.begin_table(", .text (tagId id), ", ",
      .integer (max count 1), ", imgui.TableFlags_.borders, ", .vector size, ")"] ++ ":" =
      tableMark ++ (Text.Literal.quote (tagId id) ++ (", " ++ (intText (max count 1) ++ ("," ++
        (" imgui.TableFlags_.borders, " ++ (vectorText size ++ ")") ++ ":"))))) := by
    simp only [render_cons, String.append_assoc]
    rfl
  have inside : AllIn (Foreign tableMark) (fun _ => True) [
      .block ["for col in range(", .integer (max count 1), ")"] [
        .line ["imgui.table_next_column()"],
        .line ["imgui.text(", .text (text ++ " "), " + str(col + 1))"]],
      .line ["imgui.end_table()"]] :=
    ⟨⟨.chars _ _ rfl rfl, isMark_table.foreign _, isMark_table.foreign _, trivial⟩,
      isMark_table.foreign _, trivial⟩
  rw [tableColumns, columns, found_block, head, found_mark depth isMark_table, tableCount?_text,
    found_foreign comments _ isMark_table inside]
  rfl

/-- It goes through as many columns. -/
theorem loopColumns_columns (count : Int) :
    loopColumns (linesAll depth (commented comments (columns id size text count))) =
      [max count 1] := by
  have table : Foreign loopMark ["if imgui.begin_table(", .text (tagId id), ", ",
      .integer (max count 1), ", imgui.TableFlags_.borders, ", .vector size, ")"] :=
    .chars _ _ rfl rfl
  have head : Line.render ["for col in range(", .integer (max count 1), ")"] ++ ":" =
      loopMark ++ (intText (max count 1) ++ "):") := by
    simp only [render_cons, String.append_assoc]
    rfl
  have inside : AllIn (Foreign loopMark) (fun _ => True) [
      .line ["imgui.table_next_column()"],
      .line ["imgui.text(", .text (text ++ " "), " + str(col + 1))"]] :=
    ⟨isMark_loop.foreign _, isMark_loop.foreign _, trivial⟩
  have last : AllIn (Foreign loopMark) (fun _ => True) [.line ["imgui.end_table()"]] :=
    ⟨isMark_loop.foreign _, trivial⟩
  have split (s t : Stmt) : [s, t] = [s] ++ [t] := rfl
  rw [loopColumns, columns, found_block, found_foreignHead depth isMark_loop table, split,
    commented_append, linesAll_append, found_append, found_block, head,
    found_mark _ isMark_loop, loopCount?_text, found_foreign comments _ isMark_loop inside,
    found_foreign comments _ isMark_loop last]
  rfl

/-- A tree is shown by the literal of its forest. -/
theorem shownForests_tree (lines : List String) :
    shownForests (linesAll depth (commented comments (tree id size text lines))) =
      [treesOf lines] := by
  have before : AllIn (Foreign forestMark) (fun _ => True)
      (beginChild id size :: whereText text [showText text]) :=
    ⟨isMark_forest.foreign _,
      AllIn.lifts.whereText _ ⟨isMark_forest.foreign _, trivial⟩⟩
  have after : AllIn (Foreign forestMark) (fun _ => True) [.line ["imgui.end_child()"]] :=
    ⟨isMark_forest.foreign _, trivial⟩
  have line : linesAll depth (commented comments
      [.line ["gen_show_tree(", .forest (treesOf lines), ")"]]) =
        [indentation depth ++ (forestMark ++ (forestText (treesOf lines) ++ ")"))] := by
    have plain : commented comments [.line ["gen_show_tree(", .forest (treesOf lines), ")"]] =
        [.line ["gen_show_tree(", .forest (treesOf lines), ")"]] := by cases comments <;> rfl
    rw [plain, linesAll, linesAll, Stmt.lines, render_cons, render_cons]
    rfl
  have split (s t : Stmt) (ss : List Stmt) : ss ++ [s, t] = ss ++ ([s] ++ [t]) := rfl
  rw [shownForests, tree, split, commented_append, commented_append, linesAll_append,
    linesAll_append, found_append, found_append, line, found_mark _ isMark_forest, forest?_text,
    found_foreign comments _ isMark_forest before, found_foreign comments _ isMark_forest after]
  rfl

end Controls

end Formwork.Source

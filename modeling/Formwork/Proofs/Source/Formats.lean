import Formwork.Proofs.Source.Blocks
import Formwork.Proofs.Source.Comments
import Formwork.Proofs.Source.Shown

/-!
# All formats carry the same program

A text of several files has the text of the single file in it: what comes behind the line that names
the module, wherever that name may occur again. The function alone is the same code as the whole
program, but for the import line and what stands above it; the program goes on with `main` where the
function alone ends (`Project.formats_generate`).

Both are said of the texts. What is searched for is found where it first occurs, and no text of a
design comes before that place. So it does no harm when a caption spells the name of the file or an
import.
-/

set_option autoImplicit false

namespace Formwork

namespace Source

open Stmt (AllIn linesAll commented linesAll_append commented_append text_append)

/-! ## Below a line -/

/-- The text below the first line that begins with `mark`. -/
def belowLine? (mark text : String) : Option String :=
  match (Text.endedLines text).dropWhile fun line => ¬ mark.toList <+: line.toList with
  | [] => none
  | _ :: below => some (String.join below)

/-- A line in which a mark is not found does not begin with it. -/
theorem not_prefix_of_behind? {mark line : String} (h : IsMark mark) (unended : '\n' ∉ mark.toList)
    (other : behind? mark line = none) : ¬ mark.toList <+: (line ++ "\n").toList := by
  rw [String.toList_append]
  intro begins
  rcases List.prefix_concat_iff.1 begins with whole | inside
  · apply unended
    rw [whole]
    exact List.mem_append_right _ List.mem_cons_self
  · obtain ⟨rest, text⟩ := inside
    have read := behind?_mark 0 h (String.ofList rest)
    have same : indentation 0 ++ (mark ++ String.ofList rest) = line := by
      rw [← String.toList_inj, ← text]
      simp [indentation]
    rw [same, other] at read
    cases read

/-- Where a mark is not found in the statements in front, the text is found that is written for the
statements behind a line that begins with it. -/
theorem belowLine?_text {S : Slot → Prop} {before after : List Stmt} {l : Line} {mark : String}
    (h : IsMark mark) (unended : '\n' ∉ mark.toList)
    (tidy : TidyCode S (before ++ .line l :: after))
    (other : ∀ line ∈ linesAll 0 before, behind? mark line = none)
    (begins : mark.toList <+: l.render.toList) :
    belowLine? mark (Stmt.text (before ++ .line l :: after)) = some (Stmt.text after) := by
  have skipped : ∀ line ∈ (linesAll 0 before).map fun l => l ++ "\n",
      decide (¬ mark.toList <+: line.toList) = true := by
    intro line mem
    obtain ⟨text, written, rfl⟩ := List.mem_map.1 mem
    exact decide_eq_true (not_prefix_of_behind? h unended (other text written))
  have stops : ¬ decide (¬ mark.toList <+: (indentation 0 ++ l.render ++ "\n").toList) = true := by
    have longer : mark.toList <+: (indentation 0 ++ l.render ++ "\n").toList := by
      rw [String.toList_append]
      exact begins.trans (List.prefix_append _ _)
    simpa using longer
  rw [belowLine?, endedLines_text tidy, linesAll_append, linesAll, Stmt.lines,
    List.singleton_append, List.map_append, List.map_cons, List.dropWhile_append_of_pos skipped,
    List.dropWhile_cons, if_neg stops]
  rfl

/-! ## The sections of a module -/

section Sections

variable (p : Project) (f : Format) (comments : Bool)

/-- How the line begins that imports the drawing library. -/
def importMark : String := "from imgui_bundle import"

theorem isMark_import : IsMark importMark := .chars _ _ rfl rfl

/-- The line that imports the drawing library. -/
private def importLine : Line :=
  ["from imgui_bundle import ", .code (", ".intercalate (libraryModules p f))]

/-- What a module has above the import of the drawing library. -/
private def aboveImport : List Stmt :=
  (if comments then fullHeader f else briefHeader) ++ .blank :: spaced (standardImports p)

/-- What it has below, but for the part that starts a program. -/
private def drawingCode : List Stmt :=
  commented comments (setOff (helpers p) ++ setOff (stateClass p) ++ setOff (uiFunction p))

/-- The part that starts a program, where there is one. -/
private def startingCode : List Stmt := if f = .uiOnly then [] else setOff (mainCode p)

private theorem moduleCode_eq : moduleCode p f comments = aboveImport p f comments ++
    .line (importLine p f) :: (drawingCode p comments ++ startingCode p f) := by
  have plain : commented comments (.blank :: spaced (standardImports p)) =
      .blank :: spaced (standardImports p) := by
    unfold standardImports
    cases comments <;> cases uses p .datePicker <;> cases uses p .tree <;> rfl
  have line : commented comments [.line (importLine p f)] = [.line (importLine p f)] := by
    cases comments <;> rfl
  have main : commented comments (startingCode p f) = startingCode p f := by
    cases comments <;> cases f <;> rfl
  have body : moduleBody p f = (.blank :: spaced (standardImports p)) ++
      ([.line (importLine p f)] ++
        ((setOff (helpers p) ++ setOff (stateClass p) ++ setOff (uiFunction p)) ++
          startingCode p f)) := by
    simp [moduleBody, imports, importLine, startingCode]
  rw [moduleCode, body, commented_append, commented_append, commented_append, plain, line, main,
    aboveImport, drawingCode]
  simp

/-- No text of the design stands above the import line, and no line there begins like it. -/
private theorem foreign_aboveImport :
    AllIn (Foreign importMark) (fun _ => True) (aboveImport p f comments) := by
  have standard : AllIn (Foreign importMark) (fun _ => True) (standardImports p) := by
    refine Stmt.allIn_append.2 ⟨AllIn.lifts.ifTrue fun _ => ?_, AllIn.lifts.ifTrue fun _ => ?_⟩
    · exact ⟨.chars 'i' _ rfl rfl, .chars 'i' _ rfl rfl, trivial⟩
    · exact ⟨.chars 'f' _ rfl rfl, trivial⟩
  exact Stmt.allIn_append.2
    ⟨AllIn.lifts.header comments fun _ => trivial, trivial, AllIn.lifts.spaced standard⟩

private theorem belowLine?_moduleCode :
    belowLine? importMark (Stmt.text (moduleCode p f comments)) =
      some (Stmt.text (drawingCode p comments) ++ Stmt.text (startingCode p f)) := by
  have tidy := tidyCode_moduleCode p f comments
  have begins : importMark.toList <+: (importLine p f).render.toList := by
    rw [importLine, render_cons, String.toList_append]
    exact List.IsPrefix.trans ⟨[' '], rfl⟩ (List.prefix_append _ _)
  rw [moduleCode_eq] at tidy ⊢
  have other : ∀ line ∈ linesAll 0 (aboveImport p f comments), behind? importMark line = none :=
    fun line mem => behind?_of_written isMark_import
      (Stmt.written_linesAll 0 _ (foreign_aboveImport p f comments) line mem)
  rw [belowLine?_text isMark_import (by decide) tidy other begins, text_append]

/-- The lines that a program has and the function alone has not: they open a window of the given
size and draw in it. -/
def startingLines (size : Nat × Nat) : List String := [
  "",
  "",
  "def main() -> None:",
  "    state = GeneratedState()",
  "    immapp.run(",
  "        gui_function=lambda: generated_ui(state),",
  "        window_title=\"radbuilder app\",",
  "        window_size=(" ++ natText size.1 ++ ", " ++ natText size.2 ++ "),",
  "    )",
  "",
  "",
  "if __name__ == \"__main__\":",
  "    main()"]

private theorem text_startingCode : Stmt.text (startingCode p .single) =
    String.join ((startingLines (windowSize p)).map fun line => line ++ "\n") := by
  have natural (n : Nat) : intText n = natText n := by
    rw [intText, if_neg (by omega), Int.natAbs_natCast]
  have size : indentation 2 ++ Line.render ["window_size=(", .integer (windowSize p).1, ", ",
      .integer (windowSize p).2, "),"] = "        window_size=(" ++ natText (windowSize p).1 ++
        ", " ++ natText (windowSize p).2 ++ ")," := by
    simp only [render_cons, Piece.render, natural, String.append_assoc]
    rfl
  have lines : linesAll 0 (startingCode p .single) = startingLines (windowSize p) := by
    rw [startingLines, ← size]
    rfl
  rw [Stmt.text, lines]

end Sections

end Source

open Source in
/-- **All formats carry the same program.** Whatever the texts in a design, the module that is found
in a text of several files is the text of the single file. Below its import line, the function alone
is the head of what a single file has below its own; there only the blank lines and the part follow
that starts the program. -/
theorem Project.formats_generate (p : Project) (comments : Bool) :
    moduleSection? (p.generate .separate comments) = some (p.generate .single comments) ∧
      ∃ drawing,
        belowLine? "from imgui_bundle import" (p.generate .uiOnly comments) = some drawing ∧
        belowLine? "from imgui_bundle import" (p.generate .single comments) =
          some (drawing ++
            String.join ((startingLines (windowSize p)).map fun line => line ++ "\n")) := by
  constructor
  · exact pythonOf_generate p .separate comments
  · have alone := belowLine?_moduleCode p .uiOnly comments
    have whole := belowLine?_moduleCode p .single comments
    have none : Stmt.text (startingCode p .uiOnly) = "" := rfl
    rw [none, String.append_empty] at alone
    rw [text_startingCode] at whole
    exact ⟨_, alone, whole⟩

end Formwork

import Formwork.Proofs.Source.Lines
import Formwork.Text.Blank

/-!
# Comments do no more than comment

A comment line is one whose first character that is not blank is a number sign. `Text.uncommented`
deletes these lines from a text and `Text.commentLines` lists them; neither knows how the text came
about. In the text of tidy statements the comment lines are the comments that were written and no
others: a line of code begins with a visible character, whatever a design puts into it, and no text
of a design breaks a line.

So deleting the comment lines from a text is leaving out the comments before it is written
(`uncommented_text`), and the choice of comments changes nothing else (`Project.comments_generate`).
-/

set_option autoImplicit false

namespace Formwork

namespace Text

/-- The lines of a text, each with the line break that ends it. -/
def splitEnded : List Char → List (List Char)
  | [] => []
  | c :: cs =>
    if isLineBreak c then [c] :: splitEnded cs
    else
      match splitEnded cs with
      | [] => [[c]]
      | line :: lines => (c :: line) :: lines

/-- The lines of a text, each with the line break that ends it. -/
def endedLines (s : String) : List String := (splitEnded s.toList).map String.ofList

/-- Is a number sign the first character that is not blank? -/
def isCommentLine (line : String) : Bool := (line.toList.dropWhile isBlank).head? == some '#'

/-- A text without its comment lines. -/
def uncommented (s : String) : String :=
  String.join ((endedLines s).filter fun line => !isCommentLine line)

/-- The comment lines of a text. -/
def commentLines (s : String) : List String := (endedLines s).filter isCommentLine

example : uncommented "a = 1\n  # b\n\n# c\nd # e" = "a = 1\n\nd # e" := by decide

theorem splitEnded_append {cs : List Char} (unbroken : ∀ c ∈ cs, isLineBreak c = false) {b : Char}
    (ends : isLineBreak b = true) (ds : List Char) :
    splitEnded (cs ++ b :: ds) = (cs ++ [b]) :: splitEnded ds := by
  induction cs with
  | nil => exact if_pos ends
  | cons c cs ih =>
    have inside := unbroken c List.mem_cons_self
    have rest := ih fun d hd => unbroken d (List.mem_cons_of_mem c hd)
    rw [List.cons_append, splitEnded, inside, if_neg Bool.false_ne_true, rest]
    rfl

/-- Lines that end in line feeds are found again. -/
theorem endedLines_join {ss : List String} (unbroken : ∀ s ∈ ss, Unbroken s) :
    endedLines (String.join (ss.map fun s => s ++ "\n")) = ss.map fun s => s ++ "\n" := by
  induction ss with
  | nil => rfl
  | cons s ss ih =>
    have first := unbroken s List.mem_cons_self
    have rest := ih fun t ht => unbroken t (List.mem_cons_of_mem s ht)
    have line : String.ofList (s.toList ++ ['\n']) = s ++ "\n" := by
      rw [String.ofList_append, String.ofList_toList]
    rw [endedLines, toList_join_cons, splitEnded_append first (by decide), List.map_cons, line,
      List.map_cons]
    exact congrArg ((s ++ "\n") :: ·) rest

theorem isBlank_of_isQuiet {c : Char} (quiet : isQuiet c = true) (blank : c ≠ ' ') :
    isBlank c = false := by
  obtain ⟨low, high⟩ := (isQuiet_iff.1 quiet).1
  have other : c.toNat ≠ 0x20 := by
    intro same
    apply blank
    rw [← Char.ofNat_toNat c, same]
  simp only [isBlank, isWhiteSpace, Bool.or_eq_false_iff, Bool.and_eq_false_iff,
    decide_eq_false_iff_not, beq_eq_false_iff_ne]
  omega

end Text

namespace Source

open Text (Begins Unbroken isBlank isQuiet isLineBreak isCommentLine endedLines uncommented
  commentLines)

/-! ## Which lines are comments -/

/-- Blanks at the start of a line do not count. -/
private theorem isCommentLine_indented (depth : Nat) {text : String} {c : Char} {cs : List Char}
    (begins : text.toList = c :: cs) (shown : isBlank c = false) :
    isCommentLine (indentation depth ++ text) = (c == '#') := by
  have blanks : ∀ d ∈ (indentation depth).toList, isBlank d = true := by
    intro d hd
    rw [indentation, String.toList_ofList] at hd
    rw [List.eq_of_mem_replicate hd]
    decide
  rw [isCommentLine, String.toList_append, List.dropWhile_append_of_pos blanks, begins,
    List.dropWhile_cons_of_neg (Bool.eq_false_iff.1 shown)]
  rfl

private theorem isCommentLine_code {S : Slot → Prop} {l : Line} (h : Tidy S .start l)
    (depth : Nat) (ending : String) :
    isCommentLine (indentation depth ++ l.render ++ ending) = false := by
  obtain ⟨c, cs, begins, visible⟩ := (visible_of_tidy h).append ending
  obtain ⟨quiet, blank⟩ := isVisible_iff.1 visible
  rw [String.append_assoc,
    isCommentLine_indented depth begins (Text.isBlank_of_isQuiet quiet blank)]
  exact beq_eq_false_iff_ne.2 (Text.isQuiet_iff.1 quiet).2.2.2

private theorem isCommentLine_comment (depth : Nat) (t : String) :
    isCommentLine (indentation depth ++ commentText t ++ "\n") = true := by
  obtain ⟨cs, begins⟩ := exists_commentText t
  have text : (commentText t ++ "\n").toList = '#' :: (cs ++ ['\n']) := by
    rw [String.toList_append, begins]
    rfl
  rw [String.append_assoc]
  exact isCommentLine_indented depth text (by decide)

/-! ## Leaving comments out -/

/-- Is the line, with the line feed behind it, not a comment? -/
def isCodeLine (text : String) : Bool := !isCommentLine (text ++ "\n")

theorem isCodeLine_line {S : Slot → Prop} {l : Line} (h : Tidy S .start l) (depth : Nat) :
    isCodeLine (indentation depth ++ l.render) = true := by
  rw [isCodeLine, isCommentLine_code h]
  rfl

theorem isCodeLine_head {S : Slot → Prop} {l : Line} (h : Tidy S .start l) (depth : Nat) :
    isCodeLine (indentation depth ++ l.render ++ ":") = true := by
  rw [isCodeLine, String.append_assoc, isCommentLine_code h]
  rfl

namespace Stmt

variable {S : Slot → Prop}

mutual

private theorem linesAll_withoutComments : ∀ (depth : Nat) (s : Stmt),
    s.All (Tidy S .start) IsComment →
      linesAll depth s.withoutComments = (s.lines depth).filter isCodeLine
  | depth, line l, h => by
    rw [withoutComments, linesAll, linesAll, List.append_nil, lines,
      List.filter_cons_of_pos (isCodeLine_line h depth), List.filter_nil]
  | depth, block head body, h => by
    rw [withoutComments, linesAll_block, lines, List.filter_cons_of_pos (isCodeLine_head h.1 depth),
      linesAll_withoutCommentsAll (depth + 1) body h.2]
  | depth, wrapped opening inner closing, h => by
    obtain ⟨first, middle, last⟩ := h
    rw [List.forall_iff_forall_mem] at middle
    rw [withoutComments, linesAll, linesAll, List.append_nil]
    refine (List.filter_eq_self.2 ?_).symm
    rw [lines, List.forall_mem_append, List.forall_mem_cons, List.forall_mem_map,
      List.forall_mem_singleton]
    exact ⟨⟨isCodeLine_line first depth, fun l hl => isCodeLine_line (middle l hl) (depth + 1)⟩,
      isCodeLine_line last depth⟩
  | depth, comment t, _ => by
    have marked : isCodeLine (indentation depth ++ commentText t) = false := by
      rw [isCodeLine, isCommentLine_comment]
      rfl
    rw [withoutComments, lines, List.filter_cons_of_neg (Bool.eq_false_iff.1 marked)]
    rfl
  | _, blank, _ => rfl

/-- Leaving the comments out of tidy statements takes the comment lines from what they are written
as. -/
theorem linesAll_withoutCommentsAll : ∀ (depth : Nat) (ss : List Stmt),
    AllIn (Tidy S .start) IsComment ss →
      linesAll depth (withoutCommentsAll ss) = (linesAll depth ss).filter isCodeLine
  | _, [], _ => rfl
  | depth, s :: ss, h => by
    rw [withoutCommentsAll, linesAll_append, linesAll, List.filter_append,
      linesAll_withoutComments depth s h.1, linesAll_withoutCommentsAll depth ss h.2]

end

/-- The choice of comments is one of comment lines. -/
theorem filter_linesAll_commented {ss : List Stmt} (h : TidyCode S ss) (comments : Bool) :
    (linesAll 0 (commented comments ss)).filter isCodeLine = (linesAll 0 ss).filter isCodeLine := by
  cases comments with
  | true => rfl
  | false =>
    have left : linesAll 0 (commented false ss) = (linesAll 0 ss).filter isCodeLine :=
      linesAll_withoutCommentsAll 0 ss h
    rw [left, List.filter_filter]
    simp

end Stmt

/-! ## Texts -/

section Text

variable {S : Slot → Prop} {ss : List Stmt}

private theorem unbroken_linesAll (h : TidyCode S ss) :
    ∀ text ∈ Stmt.linesAll 0 ss, Unbroken text := by
  intro text mem
  exact unbroken_of_written (Stmt.written_linesAll 0 ss h text mem)

theorem endedLines_text (h : TidyCode S ss) :
    endedLines (Stmt.text ss) = (Stmt.linesAll 0 ss).map fun l => l ++ "\n" :=
  Text.endedLines_join (unbroken_linesAll h)

theorem uncommented_text (h : TidyCode S ss) :
    uncommented (Stmt.text ss) =
      String.join (((Stmt.linesAll 0 ss).filter isCodeLine).map fun l => l ++ "\n") := by
  rw [uncommented, endedLines_text h, List.filter_map]
  rfl

theorem commentLines_text (h : TidyCode S ss) :
    commentLines (Stmt.text ss) =
      ((Stmt.linesAll 0 ss).filter fun l => isCommentLine (l ++ "\n")).map fun l => l ++ "\n" := by
  rw [commentLines, endedLines_text h, List.filter_map]
  rfl

/-- No line of tidy statements is broken but at its end. -/
theorem eq_feed_of_mem_text (h : TidyCode S ss) {c : Char} (mem : c ∈ (Stmt.text ss).toList)
    (breaks : isLineBreak c = true) : c = '\n' := by
  rw [Stmt.text, String.toList_join, List.mem_flatMap] at mem
  obtain ⟨line, listed, mem⟩ := mem
  obtain ⟨text, written, rfl⟩ := List.mem_map.1 listed
  rw [String.toList_append, List.mem_append] at mem
  rcases mem with inside | feed
  · have unbroken := unbroken_linesAll h text written c inside
    rw [breaks] at unbroken
    cases unbroken
  · simpa using feed

end Text

/-! ## The module -/

section Module

variable (p : Project) (f : Format)

/-- A header is nothing but comments. -/
theorem filter_linesAll_header (comments : Bool) :
    (Stmt.linesAll 0 (if comments then fullHeader f else briefHeader)).filter isCodeLine = [] := by
  have without {ss : List Stmt} (tidy : TidyIn (fun _ => False) ss)
      (none : Stmt.withoutCommentsAll ss = []) : (Stmt.linesAll 0 ss).filter isCodeLine = [] := by
    rw [← Stmt.linesAll_withoutCommentsAll 0 ss tidy.code, none]
    rfl
  cases comments with
  | true => exact without (tidyIn_fullHeader f) (by cases f <;> rfl)
  | false => exact without tidyIn_briefHeader rfl

/-- The lines of code of a text do not depend on the choice of comments. -/
theorem filter_linesAll_generate (comments : Bool) :
    (Stmt.linesAll 0 (framing f ++ moduleCode p f comments)).filter isCodeLine =
      (Stmt.linesAll 0 (framing f)).filter isCodeLine ++
        (Stmt.linesAll 0 (moduleBody p f)).filter isCodeLine := by
  rw [moduleCode, Stmt.linesAll_append, Stmt.linesAll_append, List.filter_append,
    List.filter_append, filter_linesAll_header,
    Stmt.filter_linesAll_commented (tidyCode_moduleBody p f), List.nil_append]

/-- Where comments are left out, those are left that the header and the framing consist of. -/
theorem filter_linesAll_without :
    (Stmt.linesAll 0 (framing f ++ moduleCode p f false)).filter
        (fun l => isCommentLine (l ++ "\n")) =
      (Stmt.linesAll 0 (framing f ++ briefHeader)).filter fun l => isCommentLine (l ++ "\n") := by
  have body : (Stmt.linesAll 0 (Stmt.withoutCommentsAll (moduleBody p f))).filter
      (fun l => isCommentLine (l ++ "\n")) = [] := by
    rw [Stmt.linesAll_withoutCommentsAll 0 _ (tidyCode_moduleBody p f), List.filter_filter]
    simp [isCodeLine]
  have code : framing f ++ moduleCode p f false =
      framing f ++ briefHeader ++ Stmt.withoutCommentsAll (moduleBody p f) := by
    rw [List.append_assoc]
    rfl
  rw [code, Stmt.linesAll_append, List.filter_append, body, List.append_nil]

end Module

end Source

open Source in
/-- **Comments are inert.** With its comment lines deleted, a text is the same whether it was
generated with comments or without. Without comments the only comment lines are the header and,
where several files are generated, the lines that name them. This is so whatever the texts of the
widgets, which can neither make a line nor hide one: every line break is a line feed that was
written. -/
theorem Project.comments_generate (p : Project) (f : Format) :
    Text.uncommented (p.generate f true) = Text.uncommented (p.generate f false) ∧
      Text.commentLines (p.generate f false) =
        (if f = .separate then ["# FILE: pyproject.toml\n", "# FILE: generated_ui.py\n"] else []) ++
          ["# --- generated by radbuilder ---\n"] ∧
      ∀ comments, ∀ c ∈ (p.generate f comments).toList, Text.isLineBreak c = true → c = '\n' := by
  refine ⟨?_, ?_, ?_⟩
  · rw [generate, generate, uncommented_text (tidyCode_generate p f true),
      uncommented_text (tidyCode_generate p f false), filter_linesAll_generate,
      filter_linesAll_generate]
  · rw [generate, commentLines_text (tidyCode_generate p f false), filter_linesAll_without]
    cases f <;> decide +kernel
  · intro comments c mem breaks
    exact eq_feed_of_mem_text (tidyCode_generate p f comments) mem breaks

end Formwork

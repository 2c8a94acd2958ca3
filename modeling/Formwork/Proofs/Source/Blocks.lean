import Formwork.Proofs.Source.Lines
import Formwork.Proofs.Source.Nested

/-!
# The blocks of a generated module

The statements of a generated text, as they are read from its bare code, are those that were
written: each at the column of its depth, and only heads open blocks (`statements?_text`). Since
every block has a statement, also when the comments are left out, the statements form blocks.

Where several files are generated, the module is the text behind the line that names its file
(`pythonOf_generate`). `Project.blocks_generate` says it of the module itself, whatever the design,
the format and the choice of comments: all brackets nest and are closed, and the statements form
blocks that begin at column zero.
-/

set_option autoImplicit false

namespace Formwork

namespace Text

open Brackets (after)

namespace Scanner

/-- What is kept of a text is part of it. -/
theorem mem_of_mem_kept {c : Char} {s : Scanner} {cs : List Char} (h : c ∈ s.kept cs) : c ∈ cs := by
  induction cs generalizing s with
  | nil => exact h
  | cons d cs ih =>
    rw [kept] at h
    split at h
    next =>
      rcases List.mem_cons.1 h with rfl | later
      · exact List.mem_cons_self
      · exact List.mem_cons_of_mem d (ih later)
    next => exact List.mem_cons_of_mem d (ih h)

end Scanner

theorem not_mem_bare_of_unbroken {s : String} (unbroken : Unbroken s) : '\n' ∉ bare s := by
  intro mem
  have broken := unbroken '\n' (Scanner.mem_of_mem_kept mem)
  exact absurd broken (by decide)

/-- The brackets of statements are closed. -/
theorem after_of_statementLines {p cs : List Char} {lines : List (List Char)}
    (h : statementLines p cs = some lines) : after p cs = some [] := by
  induction cs generalizing p lines with
  | nil =>
    obtain ⟨closed, -⟩ := Option.ite_none_right_eq_some.1 h
    exact congrArg some closed
  | cons c cs ih =>
    rw [statementLines] at h
    split at h
    next feed =>
      obtain ⟨rfl, rfl⟩ := feed
      obtain ⟨rest, read, -⟩ := Option.map_eq_some_iff.1 h
      exact ih read
    next =>
      obtain ⟨rest, step, read⟩ := Option.bind_eq_some_iff.1 h
      obtain ⟨more, read, -⟩ := Option.map_eq_some_iff.1 read
      rw [after, step]
      exact ih read

/-! ## Blanks -/

theorem spans_blanks (n : Nat) : Brackets.Spans 0 (List.replicate n ' ') :=
  .plain fun _ hc => List.eq_of_mem_replicate hc ▸ rfl

theorem joins_blanks (n : Nat) (p : List Char) : Joins p (List.replicate n ' ') p :=
  .of_after (spans_blanks n p).1 fun mem => absurd (List.eq_of_mem_replicate mem) (by decide)

theorem colonAfter_blanks (n : Nat) : colonAfter false (List.replicate n ' ') = false :=
  colonAfter_of_not_mem fun mem => absurd (List.eq_of_mem_replicate mem) (by decide)

/-- Blanks hold no statement. -/
theorem statement?_blanks (n : Nat) : statement? (List.replicate n ' ') = none := by
  rw [statement?, if_pos]
  exact List.all_eq_true.2 fun d hd => decide_eq_true (List.eq_of_mem_replicate hd)

/-! ## The code of a statement -/

/-- The code of one statement, without the line break that ends it. -/
structure IsStatement (column : Nat) (opens : Bool) (cs : List Char) : Prop where
  begins : ∃ c rest, cs = List.replicate column ' ' ++ c :: rest ∧ c ≠ ' '
  joins : Joins [] cs []
  ending : colonAfter false cs = opens

theorem IsStatement.statements?_eq {column : Nat} {opens : Bool} {cs : List Char}
    (h : IsStatement column opens cs) (ds : List Char) :
    statements? (cs ++ '\n' :: ds) = (statements? ds).map (⟨column, opens⟩ :: ·) := by
  obtain ⟨⟨c, rest, text, other⟩, joins, ending⟩ := h
  have blanks : ∀ d ∈ List.replicate column ' ', decide (d = ' ') = true := fun d hd =>
    decide_eq_true (List.eq_of_mem_replicate hd)
  have code : cs.all (· = ' ') = false := by
    rw [text, List.all_append, List.all_cons, decide_eq_false other, Bool.false_and,
      Bool.and_false]
  have start : (cs.takeWhile (· = ' ')).length = column := by
    rw [text, List.takeWhile_append_of_pos blanks, List.takeWhile_cons, decide_eq_false other,
      if_neg Bool.false_ne_true, List.append_nil, List.length_replicate]
  rw [joins.statements?_eq, statement?, code, if_neg Bool.false_ne_true, start, ending]
  rfl

end Text

namespace Source

open Text (Closed Unbroken Joins Statement bare statement? statements? inBlocks columnsOf
  colonAfter Brackets.after)

/-! ## The statements that are written -/

namespace Stmt

mutual

/-- The statements of a statement at a depth: those of its block, if it has one, follow it. -/
def statements (depth : Nat) : Stmt → List Statement
  | line _ => [⟨4 * depth, false⟩]
  | block _ body => ⟨4 * depth, true⟩ :: statementsAll (depth + 1) body
  | wrapped .. => [⟨4 * depth, false⟩]
  | comment _ => []
  | blank => []

def statementsAll (depth : Nat) : List Stmt → List Statement
  | [] => []
  | s :: ss => s.statements depth ++ statementsAll depth ss

end

end Stmt

/-- The bare code of lines that are written one after another. -/
def bareLines (texts : List String) : List Char := bare (String.join (texts.map fun l => l ++ "\n"))

theorem bareLines_cons {text : String} (closed : Closed text) (texts : List String) :
    bareLines (text :: texts) = bare text ++ '\n' :: bareLines texts := by
  rw [bareLines, List.map_cons, String.join_cons, String.append_assoc, Text.bare_append closed,
    Text.bare_append (show Closed "\n" from rfl)]
  rfl

/-- Of a comment line only the indentation is left. -/
theorem bareLines_comment (depth : Nat) {t : String} (h : IsComment t) (texts : List String) :
    bareLines ((indentation depth ++ commentText t) :: texts) =
      (indentation depth).toList ++ '\n' :: bareLines texts := by
  obtain ⟨closed, left⟩ := bare_comment depth (unbroken_of_isComment (isComment_commentText h))
  rw [bareLines, List.map_cons, String.join_cons, Text.bare_append closed, left, List.append_assoc]
  rfl

section Lines

variable {S : Slot → Prop} {F : List Node → Prop} {pending final : List Char} {l : Line}

/-- At the end of a line the brackets are open that are said to be, and no colon is at the end. -/
theorem after_of_nested {place : Place} {colon : Bool} (tidy : Tidy S place l)
    (h : Nested F final pending colon l) :
    Brackets.after pending (bare l.render) = some final ∧
      colonAfter colon (bare l.render) = false := by
  induction l generalizing place pending colon with
  | nil =>
    obtain ⟨rfl, rfl⟩ := h
    exact ⟨rfl, rfl⟩
  | cons p ps ih =>
    obtain ⟨⟨closed, -⟩, next, tidy'⟩ := piece_of_tidy tidy
    rw [render_cons, Text.bare_append closed, Text.colonAfter_append]
    cases h.step with
    | code text passes later =>
      subst text
      obtain ⟨reached, ending⟩ := ih tidy' later
      rw [Piece.render, tidy.1.quiet.bare_eq, Text.Brackets.after_append_of passes.reached,
        passes.ending]
      exact ⟨reached, ending⟩
    | value plain encloses room later =>
      obtain ⟨reached, ending⟩ := ih tidy' later
      rw [Text.Brackets.after_append_of (encloses.spans pending).1, plain,
        Text.colonAfter_of_not_mem encloses.colonless]
      exact ⟨reached, ending⟩

theorem bare_indented (depth : Nat) (l : Line) :
    bare (indentation depth ++ l.render) = List.replicate (4 * depth) ' ' ++ bare l.render := by
  have quiet := quiet_indentation depth
  rw [Text.bare_append quiet.closed, quiet.bare_eq, indentation, String.toList_ofList]

/-- A line of code has no break in it, and begins right after the indentation. -/
theorem bare_of_tidy (tidy : Tidy S .start l) (depth : Nat) :
    '\n' ∉ bare (indentation depth ++ l.render) ∧
      ∃ c rest, bare (indentation depth ++ l.render) =
        List.replicate (4 * depth) ' ' ++ c :: rest ∧ c ≠ ' ' := by
  have unbroken := (inert_indentation depth).unbroken.append (render_of_tidy tidy).2
  refine ⟨Text.not_mem_bare_of_unbroken unbroken, ?_⟩
  obtain ⟨c, cs, text, opens⟩ := begins_of_tidy tidy
  obtain ⟨visible, sign⟩ := Bool.and_eq_true_iff.1 opens
  refine ⟨c, (Text.Scanner.code.next c).kept cs, ?_, ?_⟩
  · rw [bare_indented, bare, text, Text.Scanner.kept, if_pos]
    exact sign
  · rintro rfl
    exact absurd visible (by decide)

theorem after_indented (depth : Nat) (tidy : Tidy S .start l)
    (h : Nested F final pending false l) :
    Brackets.after pending (bare (indentation depth ++ l.render)) = some final ∧
      colonAfter false (bare (indentation depth ++ l.render)) = false := by
  rw [bare_indented, Text.Brackets.after_append_of (Text.spans_blanks (4 * depth) pending).1,
    Text.colonAfter_append, Text.colonAfter_blanks]
  exact after_of_nested tidy h

theorem joins_indented (depth : Nat) (tidy : Tidy S .start l)
    (h : Nested F final pending false l) :
    Joins pending (bare (indentation depth ++ l.render)) final :=
  .of_after (after_indented depth tidy h).1 (bare_of_tidy tidy depth).1

theorem isStatement_line (depth : Nat) (tidy : Tidy S .start l) (h : Nested F [] [] false l) :
    Text.IsStatement (4 * depth) false (bare (indentation depth ++ l.render)) :=
  ⟨(bare_of_tidy tidy depth).2, joins_indented depth tidy h, (after_indented depth tidy h).2⟩

theorem isStatement_head (depth : Nat) (tidy : Tidy S .start l) (h : Nested F [] [] false l) :
    Text.IsStatement (4 * depth) true (bare (indentation depth ++ l.render ++ ":")) := by
  obtain ⟨⟨c, rest, text, other⟩, joins, -⟩ := isStatement_line depth tidy h
  have closed : Closed (indentation depth ++ l.render) :=
    (quiet_indentation depth).closed.append (render_of_tidy tidy).1
  have colon : Joins [] [':'] [] := .of_after rfl (by decide)
  rw [Text.bare_append closed]
  refine ⟨⟨c, rest ++ [':'], ?_, other⟩, joins.append colon, ?_⟩
  · rw [text, List.append_assoc]
    rfl
  · rw [Text.colonAfter_append]
    rfl

/-- The code of the inner lines and the last one of a statement that is set out over several
lines. -/
def innerCode (depth : Nat) (closing : Line) : List Line → List Char
  | [] => '\n' :: bare (indentation depth ++ closing.render)
  | l :: ls => '\n' :: (bare (indentation (depth + 1) ++ l.render) ++ innerCode depth closing ls)

theorem closed_indented (tidy : Tidy S .start l) (depth : Nat) :
    Closed (indentation depth ++ l.render) :=
  (quiet_indentation depth).closed.append (render_of_tidy tidy).1

theorem bareLines_inner {depth : Nat} {closing : Line} {inner : List Line}
    (tidy : ∀ l ∈ inner, Tidy S .start l) (last : Tidy S .start closing) {text : String}
    (closed : Closed text) (texts : List String) :
    bareLines (text :: inner.map (fun l => indentation (depth + 1) ++ l.render) ++
        [indentation depth ++ closing.render] ++ texts) =
      bare text ++ innerCode depth closing inner ++ '\n' :: bareLines texts := by
  induction inner generalizing text with
  | nil =>
    rw [List.map_nil, List.singleton_append, List.cons_append, List.singleton_append,
      bareLines_cons closed, bareLines_cons (closed_indented last depth), innerCode,
      List.append_assoc]
    rfl
  | cons l ls ih =>
    have first := closed_indented (tidy l List.mem_cons_self) (depth + 1)
    have rest := ih (fun l' hl => tidy l' (List.mem_cons_of_mem l hl)) first
    rw [List.cons_append, List.cons_append] at rest ⊢
    rw [bareLines_cons closed, List.map_cons, List.cons_append, List.cons_append, rest, innerCode]
    simp only [List.append_assoc, List.cons_append]

/-- Inside of brackets lines go on, and the last one closes them. -/
theorem joins_innerCode (depth : Nat) {closing : Line} {inner : List Line}
    (tidy : ∀ l ∈ inner, Tidy S .start l) (last : Tidy S .start closing)
    (nested : ∀ l ∈ inner, Nested F [')'] [')'] false l) (closes : Nested F [] [')'] false closing) :
    Joins [')'] (innerCode depth closing inner) [] ∧
      colonAfter false (innerCode depth closing inner) = false := by
  have feed {cs q : List Char} (joins : Joins [')'] cs q) : Joins [')'] ('\n' :: cs) q :=
    Joins.feed.append joins
  have colon (cs : List Char) : colonAfter false ('\n' :: cs) = colonAfter false cs := rfl
  induction inner with
  | nil => exact ⟨feed (joins_indented depth last closes), (after_indented depth last closes).2⟩
  | cons l ls ih =>
    have tidy' := tidy l List.mem_cons_self
    have nested' := nested l List.mem_cons_self
    obtain ⟨joins, ending⟩ := ih (fun m hm => tidy m (List.mem_cons_of_mem l hm))
      fun m hm => nested m (List.mem_cons_of_mem l hm)
    rw [innerCode]
    refine ⟨feed ((joins_indented (depth + 1) tidy' nested').append joins), ?_⟩
    rw [colon, Text.colonAfter_append, (after_indented (depth + 1) tidy' nested').2, ending]

end Lines

namespace Stmt

variable {S : Slot → Prop} {F : List Node → Prop}

mutual

private theorem statements?_lines : ∀ (depth : Nat) (s : Stmt), s.All (Tidy S .start) IsComment →
    s.Sound F → ∀ texts : List String, statements? (bareLines (s.lines depth ++ texts)) =
      (statements? (bareLines texts)).map (s.statements depth ++ ·)
  | depth, line l, tidy, sound, texts => by
    rw [lines, List.singleton_append, bareLines_cons (closed_indented tidy depth),
      (isStatement_line depth tidy sound).statements?_eq]
    rfl
  | depth, block head body, tidy, sound, texts => by
    have colon : Closed ":" := rfl
    rw [lines, List.cons_append, bareLines_cons ((closed_indented tidy.1 depth).append colon),
      (isStatement_head depth tidy.1 sound.1).statements?_eq,
      statements?_linesAll (depth + 1) body tidy.2 sound.2.2, Option.map_map]
    rfl
  | depth, wrapped opening inner closing, tidy, sound, texts => by
    obtain ⟨first, middle, last⟩ := tidy
    obtain ⟨opens, nested, closes⟩ := sound
    rw [List.forall_iff_forall_mem] at middle nested
    obtain ⟨joins, ending⟩ := joins_innerCode depth middle last nested closes
    obtain ⟨-, c, rest, text, other⟩ := bare_of_tidy first depth
    have whole : Text.IsStatement (4 * depth) false
        (bare (indentation depth ++ opening.render) ++ innerCode depth closing inner) := by
      refine ⟨⟨c, rest ++ innerCode depth closing inner, ?_, other⟩,
        (joins_indented depth first opens).append joins, ?_⟩
      · rw [text, List.append_assoc]
        rfl
      · rw [Text.colonAfter_append, (after_indented depth first opens).2, ending]
    rw [lines, bareLines_inner middle last (closed_indented first depth), whole.statements?_eq]
    rfl
  | depth, comment t, tidy, _, texts => by
    rw [lines, List.singleton_append, bareLines_comment depth tidy, indentation,
      String.toList_ofList, (Text.joins_blanks _ []).statements?_eq, Text.statement?_blanks]
    rfl
  | _, blank, _, _, texts => by
    have empty : Joins [] [] [] := .of_after rfl nofun
    rw [lines, List.singleton_append, bareLines_cons (show Closed "" from rfl)]
    exact empty.statements?_eq (bareLines texts)

private theorem statements?_linesAll : ∀ (depth : Nat) (ss : List Stmt),
    AllIn (Tidy S .start) IsComment ss → SoundIn F ss →
    ∀ texts : List String, statements? (bareLines (linesAll depth ss ++ texts)) =
      (statements? (bareLines texts)).map (statementsAll depth ss ++ ·)
  | _, [], _, _, texts => Option.map_id'.symm
  | depth, s :: ss, tidy, sound, texts => by
    rw [linesAll, List.append_assoc, statements?_lines depth s tidy.1 sound.1,
      statements?_linesAll depth ss tidy.2 sound.2, Option.map_map, statementsAll]
    refine congrArg (Option.map · _) (funext fun rest => ?_)
    exact (List.append_assoc _ _ rest).symm

end

/-- The statements that are read from the text of sound code are those that were written. -/
theorem statements?_text {ss : List Stmt} (tidy : TidyCode S ss) (sound : SoundIn F ss) :
    statements? (bare (text ss)) = some (statementsAll 0 ss) := by
  have read := statements?_linesAll 0 ss tidy sound []
  rw [List.append_nil] at read
  refine Eq.trans read ?_
  exact congrArg some (List.append_nil _)

/-- All brackets of sound code nest and are closed. -/
theorem after_text {ss : List Stmt} (tidy : TidyCode S ss) (sound : SoundIn F ss) :
    Brackets.after [] (bare (text ss)) = some [] := by
  obtain ⟨lines, split, -⟩ := Option.map_eq_some_iff.1 (statements?_text tidy sound)
  exact Text.after_of_statementLines split

/-! ## Blocks -/

/-- Statements without a comment in front of them begin at their depth. -/
theorem exists_head_statements (depth : Nat) :
    ∀ ss : List Stmt, ss.any isCode = true →
      ∃ opens rest, statementsAll depth ss = ⟨4 * depth, opens⟩ :: rest
  | line _ :: ss, _ => ⟨false, statementsAll depth ss, rfl⟩
  | wrapped .. :: ss, _ => ⟨false, statementsAll depth ss, rfl⟩
  | block _ body :: ss, _ =>
    ⟨true, statementsAll (depth + 1) body ++ statementsAll depth ss, rfl⟩
  | comment _ :: ss, h => exists_head_statements depth ss h
  | blank :: ss, h => exists_head_statements depth ss h

mutual

/-- Statements at a depth may be followed by what closes the blocks inside of it. -/
private theorem inBlocks_statements : ∀ (depth : Nat) (s : Stmt), s.Sound F →
    ∀ rest : List Statement, (∀ e, depth ≤ e → inBlocks (columnsOf e) false rest = true) →
    ∀ e, depth ≤ e → inBlocks (columnsOf e) false (s.statements depth ++ rest) = true
  | depth, line _, _, rest, follow, e, outer => by
    rw [statements, List.singleton_append, Text.inBlocks_columnsOf outer]
    exact follow depth (Nat.le_refl depth)
  | depth, wrapped .., _, rest, follow, e, outer => by
    rw [statements, List.singleton_append, Text.inBlocks_columnsOf outer]
    exact follow depth (Nat.le_refl depth)
  | depth, block _ body, sound, rest, follow, e, outer => by
    have inside := inBlocks_statementsAll (depth + 1) body sound.2.2 rest
      (fun e inner => follow e (Nat.le_of_succ_le inner)) (depth + 1) (Nat.le_refl _)
    obtain ⟨opens, more, first⟩ := exists_head_statements (depth + 1) body sound.2.1
    rw [first, List.cons_append] at inside
    rw [statements, List.cons_append, Text.inBlocks_columnsOf outer, first, List.cons_append,
      Text.inBlocks_head]
    exact inside
  | _, comment _, _, _, follow, e, outer => follow e outer
  | _, blank, _, _, follow, e, outer => follow e outer

private theorem inBlocks_statementsAll : ∀ (depth : Nat) (ss : List Stmt), SoundIn F ss →
    ∀ rest : List Statement, (∀ e, depth ≤ e → inBlocks (columnsOf e) false rest = true) →
    ∀ e, depth ≤ e → inBlocks (columnsOf e) false (statementsAll depth ss ++ rest) = true
  | _, [], _, _, follow, e, outer => follow e outer
  | depth, s :: ss, sound, rest, follow, e, outer => by
    have later := inBlocks_statementsAll depth ss sound.2 rest follow
    have first := inBlocks_statements depth s sound.1 _ later e outer
    rwa [statementsAll, List.append_assoc]

end

/-- The statements of sound code form blocks. -/
theorem inBlocks_text {ss : List Stmt} (sound : SoundIn F ss) :
    inBlocks [0] false (statementsAll 0 ss) = true := by
  have whole := inBlocks_statementsAll 0 ss sound [] (fun _ _ => rfl) 0 (Nat.le_refl 0)
  rwa [List.append_nil] at whole

theorem text_append (ss ts : List Stmt) : text (ss ++ ts) = text ss ++ text ts := by
  have join (as bs : List String) : String.join (as ++ bs) = String.join as ++ String.join bs := by
    induction as with
    | nil => exact String.empty_append.symm
    | cons a as ih =>
      rw [List.cons_append, String.join_cons, String.join_cons, ih, String.append_assoc]
  rw [text, linesAll_append, List.map_append, join, text, text]

end Stmt

/-- Every line of tidy code ends outside of a literal. -/
theorem closed_of_written {S : Slot → Prop} {text : String}
    (h : Written (Tidy S .start) IsComment text) : Closed (text ++ "\n") := by
  have feed : Closed "\n" := rfl
  have colon : Closed ":" := rfl
  cases h with
  | code depth tidy => exact (closed_indented tidy depth).append feed
  | head depth tidy => exact ((closed_indented tidy depth).append colon).append feed
  | comment depth comment =>
    exact (bare_comment depth (unbroken_of_isComment (isComment_commentText comment))).1
  | blank => exact feed

/-! ## The Python code of a text -/

/-- The Python code of a generated text: its module, where the text is several files. -/
def pythonOf : Format → String → Option String
  | .separate, text => moduleSection? text
  | _, text => some text

private theorem length_of_after? {mark cs rest : List Char} (h : after? mark cs = some rest) :
    mark.length ≤ cs.length := by
  induction cs with
  | nil =>
    obtain ⟨empty, -⟩ := Option.ite_none_right_eq_some.1 h
    exact Nat.le_of_eq (congrArg List.length empty)
  | cons c cs ih =>
    rw [after?] at h
    split at h
    next here => exact (List.isPrefixOf_iff_prefix.1 here).length_le
    next => exact Nat.le_succ_of_le (ih h)

/-- The first occurrence of a mark is the first one whatever comes behind the text. -/
theorem after?_append {mark cs rest : List Char} (h : after? mark cs = some rest)
    (ds : List Char) : after? mark (cs ++ ds) = some (rest ++ ds) := by
  induction cs with
  | nil =>
    obtain ⟨rfl, same⟩ := Option.ite_none_right_eq_some.1 h
    obtain rfl := Option.some.inj same
    cases ds <;> rfl
  | cons c cs ih =>
    rw [after?] at h
    rw [List.cons_append, after?]
    split at h
    next here =>
      have mark_prefix := List.isPrefixOf_iff_prefix.1 here
      have still := mark_prefix.trans (List.prefix_append (c :: cs) ds)
      obtain rfl := Option.some.inj h
      rw [← List.cons_append, if_pos (List.isPrefixOf_iff_prefix.2 still),
        List.drop_append_of_le_length mark_prefix.length_le]
    next other =>
      rw [if_neg, ih h]
      -- An occurrence here would be complete before the text ends, since a later one is.
      intro here
      have fits : mark.length ≤ (c :: cs).length := Nat.le_succ_of_le (length_of_after? h)
      exact other (List.isPrefixOf_iff_prefix.2 (List.prefix_of_prefix_length_le
        (List.isPrefixOf_iff_prefix.1 here) (List.prefix_append (c :: cs) ds) fits))

/-- The line that names the file of the module is the last one of what is put in front of it. -/
private theorem after?_packageManifest :
    after? ("# FILE: " ++ moduleFile ++ "\n").toList (Stmt.text packageManifest).toList =
      some [] := by
  simp only [Stmt.text, packageManifest, Stmt.linesAll, Stmt.lines, fileMarker, moduleFile,
    commentText, Line.render, indentation, Piece.render, Text.Literal.quote, Text.Literal.escape,
    List.map_cons, List.map_nil, List.singleton_append, List.nil_append, String.join_cons,
    String.toList_append, String.toList_ofList, String.reduceToList]
  decide +kernel

/-- A module is not empty. -/
theorem any_isCode_moduleCode (p : Project) (f : Format) (comments : Bool) :
    (moduleCode p f comments).any Stmt.isCode = true := by
  have body : (moduleBody p f).any Stmt.isCode = true := by
    simp only [moduleBody, helpers, panelFlags, setOff, List.any_append, List.any_cons,
      Stmt.isCode, Bool.true_or, Bool.or_true, List.cons_append]
  rw [moduleCode, List.any_append, Bool.or_eq_true]
  cases comments with
  | true => exact .inr body
  | false => exact .inr (Stmt.any_isCode_without body)

theorem pythonOf_generate (p : Project) (f : Format) (comments : Bool) :
    pythonOf f (p.generate f comments) = some (Stmt.text (moduleCode p f comments)) := by
  cases f with
  | single => rfl
  | uiOnly => rfl
  | separate =>
    have split : (p.generate .separate comments).toList = (Stmt.text packageManifest).toList ++
        (Stmt.text (moduleCode p .separate comments)).toList := by
      rw [Project.generate, framing, Stmt.text_append, String.toList_append]
    rw [pythonOf, moduleSection?, split, after?_append after?_packageManifest]
    exact congrArg some String.ofList_toList

end Source

open Text (Closed bare statements? inBlocks Brackets.after)

/-- **Generated code has the block structure of Python.** Whatever the design, the format and the
choice of comments, the module in the generated text has its literals closed on every line, all its
brackets nest and are closed, and its statements form blocks: the first one stands at column zero, a
block four columns to the right of its head follows every statement that ends in a colon, and what
follows another statement, if anything does, is at the column of a block that is open. -/
theorem Project.blocks_generate (p : Project) (f : Source.Format) (comments : Bool) :
    ∃ code, Source.pythonOf f (p.generate f comments) = some code ∧
      (∀ line ∈ Text.lines code, Closed (line ++ "\n")) ∧
      Brackets.after [] (bare code) = some [] ∧
      ∃ ss, statements? (bare code) = some ss ∧ ss.head?.map Text.Statement.column = some 0 ∧
        inBlocks [0] false ss = true := by
  have tidy := Source.tidyCode_moduleCode p f comments
  have sound : Source.Stmt.SoundIn (fun _ => True) (Source.moduleCode p f comments) :=
    Source.soundIn_moduleCode (fun _ _ _ _ _ => trivial) f comments
  obtain ⟨opens, rest, first⟩ :=
    Source.Stmt.exists_head_statements 0 _ (Source.any_isCode_moduleCode p f comments)
  refine ⟨_, Source.pythonOf_generate p f comments, ?_, Source.Stmt.after_text tidy sound, _,
    Source.Stmt.statements?_text tidy sound, ?_, Source.Stmt.inBlocks_text sound⟩
  · rw [Source.lines_text tidy]
    intro line mem
    rcases List.mem_append.1 mem with written | last
    · exact Source.closed_of_written (Source.Stmt.written_linesAll 0 _ tidy line written)
    · obtain rfl := List.mem_singleton.1 last
      rfl
  · rw [first]
    rfl

end Formwork

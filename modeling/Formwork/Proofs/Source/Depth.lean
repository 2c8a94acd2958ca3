import Formwork.Proofs.Source.Blocks
import Formwork.Proofs.Source.Record

/-!
# How deep the brackets of a generated module nest

Only trees make brackets nest deeply: every level of an outline opens two, but for the last one.
So a generated module keeps a limit on the brackets that are open at once, two hundred of them,
exactly when no tree of the design shows a line below the ninety-ninth level
(`Project.depth_generate_iff`). A hundred lines, each one level below the one before it, are too
many (`Project.depth_generate_staircase`).
-/

set_option autoImplicit false

namespace Formwork

namespace Source

open Text (Closed bare Encloses Brackets.after Brackets.deepest)

/-- What the code of trees may open, apart from the two brackets around them and around their list:
`bound` brackets in all. -/
def Fits (bound : Nat) (trees : List Node) : Prop := 2 * Node.heightAll trees - 1 + 2 ≤ bound

/-! ## No more than the trees need -/

section Bound

variable {S : Slot → Prop} {bound : Nat} {pending final : List Char} {l : Line}

/-- Behind few open brackets a line opens no more than its trees need. -/
theorem deepest_of_nested (enough : 6 ≤ bound) {place : Place} {colon : Bool}
    (tidy : Tidy S place l) (h : Nested (Fits bound) final pending colon l)
    (few : pending.length ≤ 4) : Brackets.deepest pending (bare l.render) ≤ bound := by
  induction l generalizing place pending colon with
  | nil => exact Nat.le_trans few (Nat.le_of_succ_le (Nat.le_of_succ_le enough))
  | cons p ps ih =>
    obtain ⟨⟨closed, -⟩, next, tidy'⟩ := piece_of_tidy tidy
    rw [render_cons, Text.bare_append closed]
    cases h.step with
    | @code s rest colon' text passes later =>
      subst text
      have shallow := passes.shallow
      have part : rest.length ≤ Brackets.deepest pending s.toList :=
        Text.Brackets.length_le_deepest_of_isPrefix (List.prefix_refl _) passes.reached
      have still : rest.length ≤ 4 := Nat.le_trans part shallow
      rw [Piece.render, tidy.1.quiet.bare_eq, Text.Brackets.deepest_append passes.reached]
      exact Nat.max_le.2 ⟨Nat.le_trans shallow (by omega), ih tidy' later still⟩
    | @value n plain encloses room later =>
      obtain ⟨reached, deep⟩ := encloses.spans pending
      have here : pending.length + n ≤ bound := by
        cases room with
        | value small => omega
        | forest one shown =>
          rw [Fits] at shown
          omega
      rw [Text.Brackets.deepest_append reached, deep]
      exact Nat.max_le.2 ⟨here, ih tidy' later few⟩

theorem deepest_indented (enough : 6 ≤ bound) {depth : Nat} (tidy : Tidy S .start l)
    (h : Nested (Fits bound) final pending false l) (few : pending.length ≤ 4) :
    Brackets.deepest pending (bare (indentation depth ++ l.render)) ≤ bound := by
  obtain ⟨reached, deep⟩ := Text.spans_blanks (4 * depth) pending
  have room : pending.length ≤ bound := Nat.le_trans few (by omega)
  rw [bare_indented, Text.Brackets.deepest_append reached, deep]
  exact Nat.max_le.2 ⟨room, deepest_of_nested enough tidy h few⟩

/-- A line break opens nothing. -/
private theorem deepest_feed {p cs : List Char} (room : p.length ≤ bound)
    (h : Brackets.deepest p cs ≤ bound) : Brackets.deepest p ('\n' :: cs) ≤ bound :=
  Nat.max_le.2 ⟨room, h⟩

/-- What closes its brackets does not add to what comes after it. -/
private theorem deepest_line {cs ds : List Char} (closes : Brackets.after [] cs = some [])
    (h : Brackets.deepest [] cs ≤ bound) (later : Brackets.deepest [] ds ≤ bound) :
    Brackets.deepest [] (cs ++ '\n' :: ds) ≤ bound := by
  rw [Text.Brackets.deepest_append closes]
  exact Nat.max_le.2 ⟨h, deepest_feed (Nat.zero_le bound) later⟩

private theorem deepest_innerCode (depth : Nat) (enough : 6 ≤ bound) {closing : Line}
    {inner : List Line} (tidy : ∀ l ∈ inner, Tidy S .start l) (last : Tidy S .start closing)
    (nested : ∀ l ∈ inner, Nested (Fits bound) [')'] [')'] false l)
    (closes : Nested (Fits bound) [] [')'] false closing) :
    Brackets.after [')'] (innerCode depth closing inner) = some [] ∧
      Brackets.deepest [')'] (innerCode depth closing inner) ≤ bound := by
  have one : [')'].length ≤ 4 := by decide
  have room : [')'].length ≤ bound := Nat.le_trans one (by omega)
  have feed (cs : List Char) : Brackets.after [')'] ('\n' :: cs) = Brackets.after [')'] cs := rfl
  induction inner with
  | nil =>
    rw [innerCode, feed]
    exact ⟨(after_indented depth last closes).1,
      deepest_feed room (deepest_indented enough last closes one)⟩
  | cons l ls ih =>
    have tidy' := tidy l List.mem_cons_self
    have nested' := nested l List.mem_cons_self
    obtain ⟨reached, deep⟩ := ih (fun m hm => tidy m (List.mem_cons_of_mem l hm))
      fun m hm => nested m (List.mem_cons_of_mem l hm)
    have first := (after_indented (depth + 1) tidy' nested').1
    rw [innerCode, feed, Text.Brackets.after_append_of first]
    refine ⟨reached, deepest_feed room ?_⟩
    rw [Text.Brackets.deepest_append first]
    exact Nat.max_le.2 ⟨deepest_indented enough tidy' nested' one, deep⟩

namespace Stmt

mutual

private theorem deepest_lines (enough : 6 ≤ bound) : ∀ (depth : Nat) (s : Stmt),
    s.All (Tidy S .start) IsComment → s.Sound (Fits bound) → ∀ texts : List String,
      Brackets.deepest [] (bareLines texts) ≤ bound →
      Brackets.deepest [] (bareLines (s.lines depth ++ texts)) ≤ bound
  | depth, line l, tidy, sound, texts, later => by
    rw [lines, List.singleton_append, bareLines_cons (closed_indented tidy depth)]
    exact deepest_line (after_indented depth tidy sound).1
      (deepest_indented enough tidy sound (Nat.zero_le 4)) later
  | depth, block head body, tidy, sound, texts, later => by
    have colon : Closed ":" := rfl
    have closed := closed_indented tidy.1 depth
    have code := after_indented depth tidy.1 sound.1
    rw [lines, List.cons_append, bareLines_cons (closed.append colon), Text.bare_append closed]
    refine deepest_line ?_ ?_ (deepest_linesAll enough (depth + 1) body tidy.2 sound.2.2 texts later)
    · rw [Text.Brackets.after_append_of code.1]
      rfl
    · rw [Text.Brackets.deepest_append code.1]
      exact Nat.max_le.2
        ⟨deepest_indented enough tidy.1 sound.1 (Nat.zero_le 4), Nat.zero_le bound⟩
  | depth, wrapped opening inner closing, tidy, sound, texts, later => by
    obtain ⟨first, middle, last⟩ := tidy
    obtain ⟨opens, nested, closes⟩ := sound
    rw [List.forall_iff_forall_mem] at middle nested
    obtain ⟨reached, deep⟩ := deepest_innerCode depth enough middle last nested closes
    have code := (after_indented depth first opens).1
    rw [lines, bareLines_inner middle last (closed_indented first depth)]
    refine deepest_line ?_ ?_ later
    · rw [Text.Brackets.after_append_of code, reached]
    · rw [Text.Brackets.deepest_append code]
      exact Nat.max_le.2 ⟨deepest_indented enough first opens (Nat.zero_le 4), deep⟩
  | depth, comment t, tidy, _, texts, later => by
    obtain ⟨reached, deep⟩ := Text.spans_blanks (4 * depth) []
    rw [lines, List.singleton_append, bareLines_comment depth tidy, indentation,
      String.toList_ofList]
    exact deepest_line reached (deep ▸ Nat.zero_le bound) later
  | _, blank, _, _, texts, later => by
    rw [lines, List.singleton_append, bareLines_cons (show Closed "" from rfl)]
    exact deepest_line rfl (Nat.zero_le bound) later

private theorem deepest_linesAll (enough : 6 ≤ bound) : ∀ (depth : Nat) (ss : List Stmt),
    AllIn (Tidy S .start) IsComment ss → SoundIn (Fits bound) ss → ∀ texts : List String,
      Brackets.deepest [] (bareLines texts) ≤ bound →
      Brackets.deepest [] (bareLines (linesAll depth ss ++ texts)) ≤ bound
  | _, [], _, _, _, later => later
  | depth, s :: ss, tidy, sound, texts, later => by
    rw [linesAll, List.append_assoc]
    exact deepest_lines enough depth s tidy.1 sound.1 _
      (deepest_linesAll enough depth ss tidy.2 sound.2 texts later)

end

/-- Sound code opens no more brackets at once than its trees need. -/
theorem deepest_text (enough : 6 ≤ bound) {ss : List Stmt} (tidy : TidyCode S ss)
    (sound : SoundIn (Fits bound) ss) : Brackets.deepest [] (bare (text ss)) ≤ bound := by
  have whole := deepest_linesAll enough 0 ss tidy sound [] (Nat.zero_le bound)
  rwa [List.append_nil] at whole

end Stmt

end Bound

/-! ## No fewer than a tree needs -/

/-- A line of code is written with or without the comments around it. -/
theorem line_mem_linesAll {l : Line} {ss : List Stmt} (mem : Stmt.line l ∈ ss) (comments : Bool)
    (depth : Nat) : indentation depth ++ l.render ∈
      Stmt.linesAll depth (Stmt.commented comments ss) := by
  obtain ⟨front, back, rfl⟩ := List.append_of_mem mem
  have alone : Stmt.commented comments (Stmt.line l :: back) =
      Stmt.line l :: Stmt.commented comments back := by cases comments <;> rfl
  rw [Stmt.commented_append, Stmt.linesAll_append, alone]
  exact List.mem_append_right _ List.mem_cons_self

theorem bareLines_append {texts : List String} (closed : ∀ t ∈ texts, Closed (t ++ "\n"))
    (more : List String) : bareLines (texts ++ more) = bareLines texts ++ bareLines more := by
  induction texts with
  | nil => rfl
  | cons t ts ih =>
    have first (us : List String) : bareLines (t :: us) = bare (t ++ "\n") ++ bareLines us := by
      rw [bareLines, List.map_cons, String.join_cons, Text.bare_append (closed t List.mem_cons_self)]
      rfl
    rw [List.cons_append, first, first, ih fun u hu => closed u (List.mem_cons_of_mem t hu),
      List.append_assoc]

/-- The line that shows trees. -/
def treeLine (lines : List String) : Line := ["gen_show_tree(", .forest (treesOf lines), ")"]

theorem encloses_treeLine (lines : List String) :
    Encloses (2 * Node.heightAll (treesOf lines) - 1 + 2) (treeLine lines).render := by
  have call : Encloses _ ("gen_show_tree(" ++ forestText (treesOf lines) ++ ")") :=
    .enclosed (o := '(') _ rfl rfl (encloses_forestText (treesOf lines))
  rw [treeLine, render_cons, render_cons, render_cons]
  exact (String.append_assoc ▸ call)

theorem treeLine_mem_block {w : Widget} {text : String} {lines : List String}
    (h : w.props.control = .tree text lines) : .line (treeLine lines) ∈ block w := by
  simp only [block, body, tree, h, treeLine, List.mem_append, List.mem_cons, true_or, or_true]

section Module

variable {p : Project} {w : Widget} {text : String} {lines : List String}

/-- As many brackets as a tree of the design needs are open somewhere. -/
theorem le_deepest_moduleCode (mem : w ∈ p.widgets) (h : w.props.control = .tree text lines)
    (f : Format) (comments : Bool) : 2 * Node.heightAll (treesOf lines) - 1 + 2 ≤
      Brackets.deepest [] (bare (Stmt.text (moduleCode p f comments))) := by
  have tidy := tidyCode_moduleCode p f comments
  obtain ⟨depth, part⟩ := exists_infix_moduleCode comments mem f
  have listed := part.subset (line_mem_linesAll (treeLine_mem_block h) comments depth)
  obtain ⟨front, back, all⟩ := List.append_of_mem listed
  have closed : ∀ t ∈ front, Closed (t ++ "\n") := by
    intro t ht
    refine closed_of_written (Stmt.written_linesAll 0 _ tidy t ?_)
    rw [all]
    exact List.mem_append_left _ ht
  -- Whatever is open in front of the line, it opens its brackets on top of that.
  have sound : Stmt.SoundIn (fun _ => True) (moduleCode p f comments) :=
    soundIn_moduleCode (fun _ _ _ _ _ => trivial) f comments
  have code : bare (Stmt.text (moduleCode p f comments)) = bareLines front ++
      bareLines ((indentation depth ++ (treeLine lines).render) :: back) := by
    rw [← bareLines_append closed, ← all]
    rfl
  have whole := Stmt.after_text tidy sound
  have line := encloses_treeLine lines
  rw [code] at whole ⊢
  obtain ⟨q, reached, -⟩ := Text.Brackets.exists_after_of_append whole
  obtain ⟨blanks, -⟩ := Text.spans_blanks (4 * depth) q
  rw [Text.Brackets.deepest_append reached,
    bareLines_cons ((quiet_indentation depth).closed.append line.closed), bare_indented,
    List.append_assoc, Text.Brackets.deepest_append blanks,
    Text.Brackets.deepest_append (line.spans q).1, (line.spans q).2]
  omega

end Module

/-- The most brackets that may be open at once. -/
def nestingLimit : Nat := 200

/-- The lines of an outline that are shown. -/
def shownEntries (lines : List String) : List Outline.Entry :=
  Outline.nested 0 (Outline.entries (if lines.isEmpty then outlineFallback else lines))

theorem fits_treesOf_iff (lines : List String) :
    Fits nestingLimit (treesOf lines) ↔ ∀ e ∈ shownEntries lines, e.level < 99 := by
  have height : Node.heightAll (treesOf lines) ≤ 99 ↔ ∀ e ∈ shownEntries lines, e.level < 99 :=
    Outline.heightAll_forest_le_iff
  rw [← height, Fits, nestingLimit]
  omega

end Source

open Text (bare Brackets.after)

/-- **How deep brackets nest depends on the outlines alone.** Whatever the design, the format and the
choice of comments, no more than two hundred brackets are open at once in the module of the
generated text exactly when no outline of the design shows a line below its ninety-ninth level. -/
theorem Project.depth_generate_iff (p : Project) (f : Source.Format) (comments : Bool) :
    ∃ code, Source.pythonOf f (p.generate f comments) = some code ∧
      ((∀ cs pending, cs <+: bare code → Brackets.after [] cs = some pending →
          pending.length ≤ Source.nestingLimit) ↔
        ∀ w ∈ p.widgets, ∀ text lines, w.props.control = .tree text lines →
          ∀ e ∈ Source.shownEntries lines, e.level < 99) := by
  refine ⟨_, Source.pythonOf_generate p f comments, ?_⟩
  rw [← Text.Brackets.deepest_le_iff]
  constructor
  · intro bound w mem text lines tree
    rw [← Source.fits_treesOf_iff]
    exact Nat.le_trans (Source.le_deepest_moduleCode mem tree f comments) bound
  · intro levels
    have shows : Source.Shows (Source.Fits Source.nestingLimit) p := by
      intro w mem text lines tree
      exact (Source.fits_treesOf_iff lines).2 (levels w mem text lines tree)
    exact Source.Stmt.deepest_text (by decide) (Source.tidyCode_moduleCode p f comments)
      (Source.soundIn_moduleCode shows f comments)

namespace Source

/-! ## Outlines that go deep -/

/-- The line at a level of a staircase. -/
def stair (level : Nat) : String := String.ofList (List.replicate (2 * level) ' ' ++ ['x'])

/-- Lines that lie one level below each other. -/
def staircase (n : Nat) : List String := (List.range n).map stair

private theorem entry_stair (level : Nat) :
    Outline.Entry.mk (Outline.indentLevel (stair level)) (Text.strip (stair level)) =
      ⟨level, "x"⟩ := by
  have blanks (p : Char → Bool) (h : p ' ' = true) :
      ∀ c ∈ List.replicate (2 * level) ' ', p c = true := fun c hc =>
    List.eq_of_mem_replicate hc ▸ h
  have spaces : ((List.replicate (2 * level) ' ' ++ ['x']).takeWhile (· = ' ')).length =
      2 * level := by
    rw [List.takeWhile_append_of_pos (blanks _ rfl), List.length_append, List.length_replicate]
    rfl
  have label : Text.trimBoth Text.isBlank (List.replicate (2 * level) ' ' ++ ['x']) = ['x'] := by
    rw [Text.trimBoth, List.dropWhile_append_of_pos (blanks _ (by decide))]
    decide
  rw [Outline.indentLevel, Text.strip, stair, String.toList_ofList, spaces, label,
    Nat.mul_div_cancel_left level (by decide)]

/-- Levels that grow one by one are all shown. -/
private theorem nested_range' (limit n : Nat) :
    Outline.nested limit ((List.range' limit n).map fun level => ⟨level, "x"⟩) =
      (List.range' limit n).map fun level => ⟨level, "x"⟩ := by
  induction n generalizing limit with
  | zero => rfl
  | succ n ih =>
    rw [List.range'_succ, List.map_cons, Outline.nested, if_pos (Nat.le_refl limit), ih]

theorem shownEntries_staircase {n : Nat} (pos : 0 < n) :
    shownEntries (staircase n) = (List.range n).map fun level => ⟨level, "x"⟩ := by
  have some' : (staircase n).isEmpty = false := by
    cases n with
    | zero => cases pos
    | succ n => rw [staircase, List.range_succ_eq_map]; rfl
  have entries : Outline.entries (staircase n) =
      (List.range n).map fun level => ⟨level, "x"⟩ := by
    rw [Outline.entries, staircase, List.map_map, List.filter_eq_self.2]
    · exact List.map_congr_left fun level _ => entry_stair level
    · rw [List.forall_mem_map]
      intro level _
      rw [Function.comp, entry_stair]
      rfl
  rw [shownEntries, some', if_neg Bool.false_ne_true, entries, List.range_eq_range']
  exact nested_range' 0 n

/-- A design that shows a staircase. -/
def tower (n : Nat) : Project where
  widgets := [{ id := 1, size := {}, props := { control := .tree "Tree" (staircase n) } }]

end Source

/-- In the module for a hundred lines that lie one level below each other, more than two hundred
brackets are open at once somewhere. -/
theorem Project.depth_generate_staircase :
    ∃ code, Source.pythonOf .single ((Source.tower 100).generate .single true) = some code ∧
      ∃ cs pending, cs <+: bare code ∧ Brackets.after [] cs = some pending ∧
        Source.nestingLimit < pending.length := by
  have deep : ¬ Node.heightAll (Source.treesOf (Source.staircase 100)) ≤ 99 := by
    intro low
    have shown : Source.shownEntries (Source.staircase 100) = _ :=
      Source.shownEntries_staircase (by decide)
    have last : (⟨99, "x"⟩ : Outline.Entry) ∈ Source.shownEntries (Source.staircase 100) := by
      rw [shown]
      exact List.mem_map.2 ⟨99, List.mem_range.2 (by decide), rfl⟩
    exact absurd (Outline.heightAll_forest_le_iff.1 low _ last) (Nat.lt_irrefl 99)
  obtain ⟨cs, pending, part, reached, length⟩ := Text.Brackets.exists_prefix_deepest []
    (bare (Source.Stmt.text (Source.moduleCode (Source.tower 100) .single true)))
  refine ⟨_, Source.pythonOf_generate _ _ _, cs, pending, part, reached, ?_⟩
  have open' := Source.le_deepest_moduleCode (p := Source.tower 100) List.mem_cons_self rfl
    .single true
  rw [length, Source.nestingLimit]
  omega

end Formwork

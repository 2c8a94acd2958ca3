import Formwork.Proofs.Source.Tidy

/-!
# The lines of generated code

A tidy line of code is written as one line of text. It begins with a character that is neither a
blank nor a number sign, after it a scanner is in code again, and the names that it accesses are
names of the fields it may name. A text that is written for statements is split into exactly the
lines that were written (`lines_text`).

`Written` lists what a line of the text can be: a line of code, the head of a block with its colon,
a comment, or nothing.
-/

set_option autoImplicit false

namespace Formwork

namespace Text

/-- The lines of a text. -/
def lines (s : String) : List String := (s.toList.splitOnP isLineBreak).map String.ofList

/-- The text is not empty and begins with a character of the class. -/
def Begins (class' : Char → Bool) (s : String) : Prop :=
  ∃ c cs, s.toList = c :: cs ∧ class' c = true

namespace Begins

variable {class' : Char → Bool}

theorem chars (c : Char) (cs : List Char) (h : class' c = true) :
    Begins class' (String.ofList (c :: cs)) := ⟨c, cs, String.toList_ofList, h⟩

theorem append {s : String} (h : Begins class' s) (t : String) : Begins class' (s ++ t) := by
  obtain ⟨c, cs, text, member⟩ := h
  refine ⟨c, cs ++ t.toList, ?_, member⟩
  rw [String.toList_append, text]
  rfl

theorem imp {class'' : Char → Bool} {s : String} (h : Begins class' s)
    (wider : ∀ c, class' c = true → class'' c = true) : Begins class'' s := by
  obtain ⟨c, cs, text, member⟩ := h
  exact ⟨c, cs, text, wider c member⟩

end Begins

theorem toList_join_cons (s : String) (ss : List String) :
    (String.join ((s :: ss).map fun t => t ++ "\n")).toList =
      s.toList ++ '\n' :: (String.join (ss.map fun t => t ++ "\n")).toList := by
  rw [List.map_cons, String.join_cons, String.toList_append, String.toList_append,
    List.append_assoc]
  rfl

/-- Lines that end in line feeds are found again, and after the last line feed there is nothing. -/
theorem lines_join {ss : List String} (unbroken : ∀ s ∈ ss, Unbroken s) :
    lines (String.join (ss.map fun s => s ++ "\n")) = ss ++ [""] := by
  induction ss with
  | nil => rfl
  | cons s ss ih =>
    have first := unbroken s List.mem_cons_self
    have rest := ih fun t ht => unbroken t (List.mem_cons_of_mem s ht)
    have feed : isLineBreak '\n' = true := by decide
    rw [lines, toList_join_cons, List.splitOnP_append_cons_of_forall_mem first '\n' feed,
      List.map_cons, String.ofList_toList]
    exact congrArg (s :: ·) rest

end Text

namespace Source

open Text (Quiet Inert Closed Unbroken Begins bare accessed isQuiet isStop isNameChar isLineBreak)

theorem render_cons (p : Piece) (ps : Line) :
    Line.render (p :: ps) = p.render ++ Line.render ps := by
  rw [Line.render, List.map_cons, String.join_cons]
  rfl

/-! ## Tidy lines -/

section Tidy

variable {S : Slot → Prop} {place : Place}

/-- Every piece of a tidy line is closed and unbroken. -/
theorem piece_of_tidy {p : Piece} {ps : Line} (h : Tidy S place (p :: ps)) :
    (Closed p.render ∧ Unbroken p.render) ∧ ∃ next, Tidy S next ps := by
  have inert (h : Inert p.render) : Closed p.render ∧ Unbroken p.render := ⟨h.closed, h.unbroken⟩
  cases p with
  | code s =>
    obtain ⟨text, rest⟩ := h
    exact ⟨⟨text.quiet.closed, text.quiet.unbroken⟩, .inside, rest⟩
  | slot t => exact ⟨inert (inert_slotName t), .name, h.2.2⟩
  | offset base x =>
    obtain ⟨-, -, base, rest⟩ := h
    exact ⟨inert (inert_offsetText base x), .inside, rest⟩
  | _ => exact ⟨inert (Piece.inert_render nofun nofun), .inside, h.2⟩

theorem render_of_tidy {l : Line} (h : Tidy S place l) : Closed l.render ∧ Unbroken l.render := by
  induction l generalizing place with
  | nil => exact ⟨rfl, nofun⟩
  | cons p ps ih =>
    obtain ⟨⟨closed, unbroken⟩, next, rest⟩ := piece_of_tidy h
    obtain ⟨closed', unbroken'⟩ := ih rest
    rw [render_cons]
    exact ⟨closed.append closed', unbroken.append unbroken'⟩

theorem isQuiet_of_isNameChar {c : Char} (h : isNameChar c = true) : isQuiet c = true := by
  have other {d : Char} (hd : isNameChar d = false) : c ≠ d := by
    rintro rfl
    rw [h] at hd
    cases hd
  refine Text.isQuiet_iff.2 ⟨?_, other (by decide), other (by decide), other (by decide)⟩
  have spelled : (decide (c.val ≥ 65 ∧ c.val ≤ 90) || decide (c.val ≥ 97) && decide (c.val ≤ 122) ||
      decide (c.val ≥ 48) && decide (c.val ≤ 57) || decide (c = '_')) = true := h
  simp only [Bool.or_eq_true, Bool.and_eq_true, decide_eq_true_eq, ge_iff_le,
    UInt32.le_iff_toNat_le] at spelled
  rcases spelled with ((⟨low, high⟩ | ⟨low, high⟩) | ⟨low, high⟩) | rfl
  · have bounds : 65 ≤ c.toNat ∧ c.toNat ≤ 90 := ⟨low, high⟩
    omega
  · have bounds : 97 ≤ c.toNat ∧ c.toNat ≤ 122 := ⟨low, high⟩
    omega
  · have bounds : 48 ≤ c.toNat ∧ c.toNat ≤ 57 := ⟨low, high⟩
    omega
  · decide

/-- A quiet character that is not a blank. -/
def isVisible (c : Char) : Bool := isQuiet c && c ≠ ' '

theorem isVisible_iff {c : Char} : isVisible c = true ↔ isQuiet c = true ∧ c ≠ ' ' := by
  rw [isVisible, Bool.and_eq_true, decide_eq_true_eq]

/-- A character that a line of code may begin with. -/
def opensCode (c : Char) : Bool := !c.isWhitespace && c ≠ '#'

theorem opensCode_of_isVisible {c : Char} (visible : isVisible c = true) : opensCode c = true := by
  obtain ⟨quiet, blank⟩ := isVisible_iff.1 visible
  have sign := (Text.isQuiet_iff.1 quiet).2.2.2
  rw [opensCode, Text.isWhitespace_of_isQuiet quiet blank, decide_eq_true sign]
  rfl

/-- A name begins with a letter. -/
theorem begins_slotName (s : Slot) : Begins isNameChar s.name := by
  cases s with
  | panel p => exact (Begins.chars _ _ rfl).append _
  | widget stem id =>
    refine Begins.append (Begins.append ?_ (intText id)) stem.finish
    cases stem <;> exact Begins.chars _ _ rfl

/-- Only program text and names stand at the start of a line. -/
theorem visible_of_tidy {l : Line} (h : Tidy S .start l) : Begins isVisible l.render := by
  cases l with
  | nil => cases h
  | cons p ps =>
    rw [render_cons]
    refine Begins.append ?_ (String.join (ps.map Piece.render))
    cases p with
    | code s =>
      obtain ⟨⟨quiet, admitted, -⟩, -⟩ := h
      rw [Piece.render]
      cases text : s.toList with
      | nil =>
        rw [text] at admitted
        cases admitted
      | cons c cs =>
        rw [text] at admitted
        have quiet : isQuiet c = true := quiet c (text ▸ List.mem_cons_self)
        exact ⟨c, cs, text, isVisible_iff.2 ⟨quiet, of_decide_eq_true admitted⟩⟩
    | slot t =>
      have letter : ∀ c, isNameChar c = true → isVisible c = true := by
        intro c hc
        refine isVisible_iff.2 ⟨isQuiet_of_isNameChar hc, ?_⟩
        rintro rfl
        cases hc
      exact (begins_slotName t).imp letter
    | _ => cases h.1

theorem begins_of_tidy {l : Line} (h : Tidy S .start l) : Begins opensCode l.render :=
  (visible_of_tidy h).imp fun _ => opensCode_of_isVisible

/-! ## Accesses -/

/-- Every name of a field can be read as a name. -/
def Named (S : Slot → Prop) : Prop := ∀ t, S t → ∀ c ∈ t.name.toList, isNameChar c = true

/-- What stands behind a line of code: the text begins with a character that ends a name. -/
def Stops (cs : List Char) : Prop := ∃ d ds, cs = d :: ds ∧ isStop d = true

private theorem bare_cons {p : Piece} {ps : Line} (quiet : Quiet p.render) :
    bare (Line.render (p :: ps)) = p.render.toList ++ bare (Line.render ps) := by
  rw [render_cons, Text.bare_append quiet.closed, quiet.bare_eq]

private theorem bare_code {s : String} {ps : Line} (quiet : Quiet s) :
    bare (Line.render (.code s :: ps)) = s.toList ++ bare (Line.render ps) := bare_cons quiet

/-- What comes behind a name cannot be read as a part of it. -/
private theorem takeWhile_name {t : Slot} {ps : Line} {cs : List Char}
    (named : ∀ c ∈ t.name.toList, isNameChar c = true) (rest : Tidy S .name ps) (stops : Stops cs) :
    String.ofList ((t.name.toList ++ (bare (Line.render ps) ++ cs)).takeWhile isNameChar) =
      t.name := by
  have ends : (bare (Line.render ps) ++ cs).takeWhile isNameChar = [] := by
    cases ps with
    | nil =>
      obtain ⟨d, ds, rfl, stop⟩ := stops
      have other : isNameChar d = false := by
        rw [isStop, Bool.and_eq_true, Bool.not_eq_true'] at stop
        exact stop.1
      exact List.takeWhile_cons_of_neg (Bool.eq_false_iff.1 other)
    | cons p ps =>
      cases p with
      | code s =>
        obtain ⟨⟨quiet, admitted, -⟩, -⟩ := rest
        rw [bare_code quiet]
        cases text : s.toList with
        | nil =>
          rw [text] at admitted
          cases admitted
        | cons c cs =>
          rw [text] at admitted
          have other : isNameChar c = false := by
            simpa only [Place.admits, Bool.not_eq_true'] using admitted
          exact List.takeWhile_cons_of_neg (Bool.eq_false_iff.1 other)
      | _ => cases rest.1
  rw [List.takeWhile_append_of_pos named, ends, List.append_nil, String.ofList_toList]

/-- The names that a line accesses are those of its fields. -/
theorem accessed_render (named : Named S) {l : Line} {place : Place} (h : Tidy S place l)
    {cs : List Char} (stops : Stops cs) :
    ∀ n ∈ accessed (bare l.render ++ cs), (∃ t, S t ∧ t.name = n) ∨ n ∈ accessed cs := by
  induction l generalizing place with
  | nil => exact fun n hn => .inr hn
  | cons p ps ih =>
    have inert {rest : Place} (inert : Inert p.render) (h : Tidy S rest ps) :
        ∀ n ∈ accessed (bare (Line.render (p :: ps)) ++ cs),
          (∃ t, S t ∧ t.name = n) ∨ n ∈ accessed cs := by
      rw [render_cons, Text.bare_append inert.closed,
        List.append_assoc, Text.accessed_append inert.bare_sealed]
      exact ih h
    cases p with
    | code s =>
      obtain ⟨⟨quiet, -, junction⟩, rest⟩ := h
      rw [bare_code quiet, List.append_assoc]
      cases junction with
      | skipped closed =>
        rw [Text.accessed_append closed]
        exact ih rest
      | @access t ps mark =>
        have member : S t := rest.2.1
        have after : Tidy S .name ps := rest.2.2
        obtain ⟨closed, text⟩ := Bool.and_eq_true_iff.1 mark
        have name : bare (Line.render (.slot t :: ps)) = t.name.toList ++ bare (Line.render ps) :=
          bare_cons fun c hc => isQuiet_of_isNameChar (named t member c hc)
        have read := takeWhile_name (named t member) after stops
        rw [of_decide_eq_true text, List.append_assoc, Text.accessed_append closed,
          Text.accessed_mark_append]
        intro n hn
        rcases List.mem_cons.1 hn with rfl | later
        · refine .inl ⟨t, member, ?_⟩
          rw [name, List.append_assoc, read]
        · exact ih rest n later
      | last unmarked =>
        obtain ⟨d, ds, rfl, stop⟩ := stops
        rw [show bare (Line.render []) ++ d :: ds = d :: ds from rfl,
          Text.accessed_append_stop unmarked stop]
        exact fun n hn => .inr hn
      | @cut c s' ds ps unmarked begins stop =>
        have next : bare (Line.render (.code s' :: ps)) = c :: (ds ++ bare (Line.render ps)) := by
          rw [bare_code rest.1.quiet, begins, List.cons_append]
        have skip := ih rest
        rw [next, List.cons_append] at skip ⊢
        rwa [Text.accessed_append_stop unmarked stop]
    | slot t => exact inert (inert_slotName t) h.2.2
    | offset base x =>
      obtain ⟨-, -, moved, rest⟩ := h
      exact inert (inert_offsetText moved x) rest
    | _ => exact inert (Piece.inert_render nofun nofun) h.2

end Tidy

/-! ## Written lines -/

/-- A line of the text of statements whose lines have the property `P` and whose comments have the
property `Q`. -/
inductive Written (P : Line → Prop) (Q : String → Prop) : String → Prop where
  | code (depth : Nat) {l : Line} (h : P l) : Written P Q (indentation depth ++ l.render)
  | head (depth : Nat) {l : Line} (h : P l) : Written P Q (indentation depth ++ l.render ++ ":")
  | comment (depth : Nat) {t : String} (h : Q t) : Written P Q (indentation depth ++ commentText t)
  | blank : Written P Q ""

namespace Stmt

variable {P : Line → Prop} {Q : String → Prop}

mutual

private theorem written_lines : ∀ (depth : Nat) (s : Stmt), s.All P Q →
    ∀ text ∈ s.lines depth, Written P Q text
  | depth, line l, h => List.forall_mem_singleton.2 (.code depth h)
  | depth, block head body, h =>
    List.forall_mem_cons.2 ⟨.head depth h.1, written_linesAll (depth + 1) body h.2⟩
  | depth, wrapped opening inner closing, h => by
    obtain ⟨first, middle, last⟩ := h
    refine List.forall_mem_append.2 ⟨List.forall_mem_cons.2 ⟨.code depth first, ?_⟩,
      List.forall_mem_singleton.2 (.code depth last)⟩
    intro text mem
    obtain ⟨l, hl, rfl⟩ := List.mem_map.1 mem
    exact .code (depth + 1) (List.forall_iff_forall_mem.1 middle l hl)
  | depth, comment t, h => List.forall_mem_singleton.2 (.comment depth h)
  | _, blank, _ => List.forall_mem_singleton.2 .blank

theorem written_linesAll : ∀ (depth : Nat) (ss : List Stmt), AllIn P Q ss →
    ∀ text ∈ linesAll depth ss, Written P Q text
  | _, [], _ => nofun
  | depth, s :: ss, h =>
    List.forall_mem_append.2 ⟨written_lines depth s h.1, written_linesAll depth ss h.2⟩

end

theorem linesAll_append (depth : Nat) (ss ts : List Stmt) :
    linesAll depth (ss ++ ts) = linesAll depth ss ++ linesAll depth ts := by
  induction ss with
  | nil => rfl
  | cons s ss ih => rw [List.cons_append, linesAll, linesAll, ih, List.append_assoc]

theorem linesAll_block (depth : Nat) (head : Line) (body : List Stmt) :
    linesAll depth [block head body] =
      (indentation depth ++ head.render ++ ":") :: linesAll (depth + 1) body := by
  rw [linesAll, linesAll, List.append_nil, lines]

theorem linesAll_map (depth : Nat) {α : Type} (f : α → Line) (as : List α) :
    linesAll depth (as.map fun a => line (f a)) =
      as.map fun a => indentation depth ++ (f a).render := by
  induction as with
  | nil => rfl
  | cons a as ih => exact congrArg (_ :: ·) ih

private theorem withoutCommentsAll_append (ss ts : List Stmt) :
    withoutCommentsAll (ss ++ ts) = withoutCommentsAll ss ++ withoutCommentsAll ts := by
  induction ss with
  | nil => rfl
  | cons s ss ih =>
    rw [List.cons_append, withoutCommentsAll, withoutCommentsAll, ih, List.append_assoc]

theorem commented_append (comments : Bool) (ss ts : List Stmt) :
    commented comments (ss ++ ts) = commented comments ss ++ commented comments ts := by
  cases comments with
  | true => rfl
  | false => exact withoutCommentsAll_append ss ts

theorem commented_block (comments : Bool) (head : Line) (body : List Stmt) :
    commented comments [block head body] = [block head (commented comments body)] := by
  cases comments <;> rfl

theorem commented_map (comments : Bool) {α : Type} (f : α → Line) (as : List α) :
    commented comments (as.map fun a => line (f a)) = as.map fun a => line (f a) := by
  cases comments with
  | true => rfl
  | false =>
    induction as with
    | nil => rfl
    | cons a as ih => exact congrArg (line (f a) :: ·) ih

end Stmt

theorem quiet_indentation (depth : Nat) : Quiet (indentation depth) := by
  intro c hc
  rw [indentation, String.toList_ofList] at hc
  rw [List.eq_of_mem_replicate hc]
  decide

theorem inert_indentation (depth : Nat) : Inert (indentation depth) := by
  refine .of_quiet (quiet_indentation depth) (Text.isSealed_of_not_mem fun mem => ?_)
  rw [indentation, String.toList_ofList] at mem
  exact absurd (List.eq_of_mem_replicate mem) (by decide)

theorem isComment_commentText {t : String} (h : IsComment t) : IsComment (commentText t) := by
  have sign : IsComment "#" := fun c hc => .inr (by simpa using hc)
  have opening : IsComment "# " := fun c hc => by
    have either : c = '#' ∨ c = ' ' := by simpa using hc
    rcases either with rfl | rfl
    · exact .inr rfl
    · exact .inl (by decide)
  unfold commentText
  split
  next => exact sign
  next =>
    intro c hc
    rw [String.toList_append] at hc
    rcases List.mem_append.1 hc with first | second
    · exact opening c first
    · exact h c second

theorem unbroken_of_isComment {t : String} (h : IsComment t) : Unbroken t := by
  intro c hc
  rcases h c hc with quiet | rfl
  · exact Text.isLineBreak_of_isQuiet quiet
  · decide

section Written

variable {S : Slot → Prop} {text ending : String}

theorem unbroken_of_written (h : Written (Tidy S .start) IsComment text) : Unbroken text := by
  have colon : Unbroken ":" := (Quiet.chars _ rfl).unbroken
  have indented (depth : Nat) {s : String} (h : Unbroken s) : Unbroken (indentation depth ++ s) :=
    (inert_indentation depth).unbroken.append h
  cases h with
  | code depth h => exact indented depth (render_of_tidy h).2
  | head depth h => exact (indented depth (render_of_tidy h).2).append colon
  | comment depth h => exact indented depth (unbroken_of_isComment (isComment_commentText h))
  | blank => nofun

/-- The text of statements has the lines that were written, and nothing after the last one. -/
theorem lines_text {ss : List Stmt} (h : TidyCode S ss) :
    Text.lines (Stmt.text ss) = Stmt.linesAll 0 ss ++ [""] :=
  Text.lines_join fun text mem => unbroken_of_written (Stmt.written_linesAll 0 ss h text mem)

/-- A scanner passes a comment up to the end of its line. -/
private theorem scan_comment {cs : List Char} (none : '\n' ∉ cs) :
    Text.Scanner.comment.after cs = .comment ∧ Text.Scanner.comment.kept cs = [] := by
  induction cs with
  | nil => exact ⟨rfl, rfl⟩
  | cons c cs ih =>
    obtain ⟨first, rest⟩ := not_or.1 (mt List.mem_cons.2 none)
    have stays : Text.Scanner.comment.next c = .comment := if_neg (Ne.symm first)
    have dropped : Text.Scanner.comment.keeps c = false := decide_eq_false (Ne.symm first)
    rw [Text.Scanner.after, Text.Scanner.kept, stays, dropped]
    exact ih rest

theorem exists_commentText (t : String) : ∃ cs, (commentText t).toList = '#' :: cs := by
  unfold commentText
  split
  next => exact ⟨[], rfl⟩
  next => exact ⟨' ' :: t.toList, by rw [String.toList_append]; rfl⟩

/-- Of a comment line only the indentation is code. -/
theorem bare_comment {t : String} (depth : Nat) (unbroken : Unbroken (commentText t)) :
    Closed (indentation depth ++ commentText t ++ "\n") ∧
      bare (indentation depth ++ commentText t ++ "\n") = (indentation depth).toList ++ ['\n'] := by
  obtain ⟨cs, begins⟩ := exists_commentText t
  have none : '\n' ∉ cs := by
    intro mem
    have broken := unbroken '\n' (begins ▸ List.mem_cons_of_mem '#' mem)
    exact absurd broken (by decide)
  obtain ⟨after, kept⟩ := scan_comment none
  have quiet := quiet_indentation depth
  have opened : Text.Scanner.code.next '#' = .comment := rfl
  have comment : Closed (commentText t ++ "\n") ∧ bare (commentText t ++ "\n") = ['\n'] := by
    have text : (commentText t ++ "\n").toList = '#' :: (cs ++ ['\n']) := by
      rw [String.toList_append, begins]
      rfl
    constructor
    · rw [Closed, text, Text.Scanner.after, opened, Text.Scanner.after_append, after]
      rfl
    · rw [bare, text, Text.Scanner.kept, opened, Text.Scanner.kept_append, after, kept]
      rfl
  rw [String.append_assoc, Text.bare_append quiet.closed, quiet.bare_eq, comment.2]
  exact ⟨quiet.closed.append comment.1, rfl⟩

/-- After the text a scanner is in code, and what the text accesses is among the fields. -/
structure Reads (S : Slot → Prop) (text : String) : Prop where
  closed : Closed text
  names : ∀ cs : List Char, ∀ n ∈ accessed (bare text ++ cs),
    (∃ t, S t ∧ t.name = n) ∨ n ∈ accessed cs

private theorem reads_code (named : Named S) {l : Line} (h : Tidy S .start l) (depth : Nat)
    {d : Char} {ds : List Char} (quiet : Closed ending) (left : bare ending = d :: ds)
    (stop : isStop d = true) (skipped : Text.isSealed (d :: ds) = true) :
    Reads S (indentation depth ++ l.render ++ ending) := by
  have start := inert_indentation depth
  have closed := start.closed.append (render_of_tidy h).1
  refine ⟨closed.append quiet, fun cs n hn => ?_⟩
  rw [Text.bare_append closed, Text.bare_append start.closed, List.append_assoc, List.append_assoc,
    Text.accessed_append start.bare_sealed, left] at hn
  have names := accessed_render named h ⟨d, ds ++ cs, rfl, stop⟩ n hn
  rwa [← List.cons_append, Text.accessed_append skipped] at names

/-- A written line accesses fields only. -/
theorem reads_of_written (named : Named S) (h : Written (Tidy S .start) IsComment text) :
    Reads S (text ++ "\n") := by
  have skipped {ds : List Char} (closed : Text.isSealed ds = true) (cs : List Char) (n : String)
      (hn : n ∈ accessed (ds ++ cs)) : (∃ t, S t ∧ t.name = n) ∨ n ∈ accessed cs := by
    rw [Text.accessed_append closed] at hn
    exact .inr hn
  cases h with
  | code depth h => exact reads_code named h depth rfl rfl rfl rfl
  | head depth h =>
    rw [String.append_assoc]
    exact reads_code named h depth rfl rfl rfl rfl
  | comment depth h =>
    obtain ⟨closed, left⟩ := bare_comment depth (unbroken_of_isComment (isComment_commentText h))
    refine ⟨closed, ?_⟩
    rw [left]
    refine skipped (Text.isSealed_append ?_ rfl)
    rw [← (quiet_indentation depth).bare_eq]
    exact (inert_indentation depth).bare_sealed
  | blank => exact ⟨rfl, skipped rfl⟩

theorem reads_join {texts : List String} (h : ∀ text ∈ texts, Reads S text) :
    Reads S (String.join texts) := by
  induction texts with
  | nil => exact ⟨rfl, fun cs n hn => .inr hn⟩
  | cons text texts ih =>
    have first := h text List.mem_cons_self
    have rest := ih fun t ht => h t (List.mem_cons_of_mem text ht)
    rw [String.join_cons]
    refine ⟨first.closed.append rest.closed, fun cs n hn => ?_⟩
    rw [Text.bare_append first.closed, List.append_assoc] at hn
    rcases first.names _ n hn with own | later
    · exact .inl own
    · exact rest.names cs n later

end Written

/-- Every name that the lines of tidy code access is that of a field which the code may name. -/
theorem exists_slot_of_accessed {S : Slot → Prop} (named : Named S) {ss : List Stmt}
    (h : TidyCode S ss) (depth : Nat) {n : String}
    (mem : n ∈ accessed (bare (String.join ((Stmt.linesAll depth ss).map fun l => l ++ "\n")))) :
    ∃ t, S t ∧ t.name = n := by
  have reads : Reads S (String.join ((Stmt.linesAll depth ss).map fun l => l ++ "\n")) := by
    apply reads_join
    intro text listed
    obtain ⟨l, hl, rfl⟩ := List.mem_map.1 listed
    exact reads_of_written named (Stmt.written_linesAll depth ss h l hl)
  have names := reads.names [] n (by rwa [List.append_nil])
  exact names.resolve_right nofun

end Source

end Formwork

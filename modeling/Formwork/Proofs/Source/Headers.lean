import Formwork.Proofs.Source.Lines

/-!
# Every widget is drawn once

With comments the code of each widget begins with a line that names its kind and its id. Reading
these lines back from the text of a module gives the widgets area by area, each area in the order of
the list: none is lost and none repeated (`headers_generate`). Nothing else in the text looks like
such a line. A line of code does not begin with a number sign, whatever the literals in it show, and
no other comment has a second one.
-/

set_option autoImplicit false

namespace Formwork

namespace Source

open Text (Quiet lines)

/-- The number that decimal digits stand for. -/
def digits? (ds : List Char) : Option Nat :=
  if ds ≠ [] ∧ ds.all Char.isDigit then some (Nat.ofDigitChars 10 ds 0) else none

/-- The integer that decimal digits, with a minus sign or without, stand for. -/
def integer? : List Char → Option Int
  | '-' :: ds => (digits? ds).map Int.negOfNat
  | ds => (digits? ds).map Int.ofNat

/-- A kind and an id, where the tag of the kind is followed by a number sign and the id. -/
def numbered? (tag : List Char) : List Char → Option (Kind × Int)
  | ' ' :: '#' :: text => do
    let kind ← Kind.ofTag? (String.ofList tag)
    let id ← integer? text
    return (kind, id)
  | _ => none

/-- The widget that a comment names. -/
def named? : List Char → Option (Kind × Int)
  | '#' :: ' ' :: text => numbered? (text.takeWhile (· ≠ ' ')) (text.dropWhile (· ≠ ' '))
  | _ => none

/-- The widget that a line names: after its indentation, the tag of a kind and an id. -/
def headerOf? (line : String) : Option (Kind × Int) :=
  named? (line.toList.dropWhile Char.isWhitespace)

/-- The widgets that the lines of a text name. -/
def headers (text : String) : List (Kind × Int) := (lines text).filterMap headerOf?

/-- What the line above a widget says. -/
def label (w : Widget) : Kind × Int := (w.kind, w.id)

/-! ## One line -/

theorem isDigit_of_mem_natText {n : Nat} {c : Char} (mem : c ∈ (natText n).toList) :
    c.isDigit = true := by
  rw [natText, String.toList_ofList] at mem
  exact Nat.isDigit_of_mem_toDigits (by decide) (by decide) mem

/-- An integer is written with digits and a minus sign. -/
theorem isDigit_of_mem_intText {n : Int} {c : Char} (mem : c ∈ (intText n).toList)
    (unsigned : c ≠ '-') : c.isDigit = true := by
  rw [intText] at mem
  split at mem
  next =>
    rw [String.toList_append] at mem
    rcases List.mem_append.1 mem with sign | digit
    · exact absurd (List.mem_singleton.1 sign) unsigned
    · exact isDigit_of_mem_natText digit
  next => exact isDigit_of_mem_natText mem

theorem notMem_intText {n : Int} {c : Char} (noDigit : c.isDigit = false) (unsigned : c ≠ '-') :
    c ∉ (intText n).toList := by
  intro mem
  rw [isDigit_of_mem_intText mem unsigned] at noDigit
  cases noDigit

theorem digits?_natText (n : Nat) : digits? (natText n).toList = some n := by
  have digits : (natText n).toList.all Char.isDigit = true :=
    List.all_eq_true.2 fun _ hc => isDigit_of_mem_natText hc
  rw [natText, String.toList_ofList] at digits ⊢
  rw [digits?, if_pos ⟨Nat.toDigits_ne_nil, digits⟩,
    Nat.ofDigitChars_toDigits (by decide) (by decide)]

/-- An integer is read as what was written. -/
theorem integer?_intText (n : Int) : integer? (intText n).toList = some n := by
  by_cases negative : n < 0
  · rw [intText, if_pos negative, String.toList_append]
    show (digits? (natText n.natAbs).toList).map Int.negOfNat = some n
    rw [digits?_natText, Option.map_some, Int.negOfNat_eq, Int.ofNat_eq_natCast]
    congr 1
    omega
  · rw [intText, if_neg negative, integer?]
    · rw [digits?_natText, Option.map_some, Int.ofNat_eq_natCast]
      congr 1
      omega
    · intro ds text
      have sign : Char.isDigit '-' = true := isDigit_of_mem_natText (text ▸ List.mem_cons_self)
      exact absurd sign (by decide)

/-- The indentation is not looked at. -/
theorem dropWhile_indentation (depth : Nat) (text : String) :
    (indentation depth ++ text).toList.dropWhile Char.isWhitespace =
      text.toList.dropWhile Char.isWhitespace := by
  rw [String.toList_append, indentation, String.toList_ofList]
  refine List.dropWhile_append_of_pos fun c hc => ?_
  rw [List.eq_of_mem_replicate hc]
  rfl

theorem ne_blank_chars (cs : List Char) (h : cs.contains ' ' = false) :
    ∀ c ∈ (String.ofList cs).toList, decide (c ≠ ' ') = true := by
  intro c hc
  rw [String.toList_ofList] at hc
  refine decide_eq_true ?_
  rintro rfl
  rw [List.contains_iff_mem.2 hc] at h
  cases h

private theorem ne_blank_tag (k : Kind) : ∀ c ∈ k.tag.toList, decide (c ≠ ' ') = true := by
  cases k <;> exact ne_blank_chars _ rfl

/-- A header names its widget. -/
theorem headerOf?_header (depth : Nat) (k : Kind) (id : Int) :
    headerOf? (indentation depth ++ commentText (k.tag ++ " #" ++ intText id)) = some (k, id) := by
  have whole : k.tag ++ " #" ++ intText id ≠ "" := by
    intro empty
    have none := congrArg String.toList empty
    rw [String.toList_append, String.toList_append] at none
    exact absurd (List.append_eq_nil_iff.1 (List.append_eq_nil_iff.1 none).1).2 (by decide)
  have text : (commentText (k.tag ++ " #" ++ intText id)).toList =
      '#' :: ' ' :: (k.tag.toList ++ ' ' :: '#' :: (intText id).toList) := by
    rw [commentText, if_neg whole, String.toList_append, String.toList_append, String.toList_append,
      List.append_assoc]
    rfl
  have tagged := ne_blank_tag k
  have blank : ¬ decide ((' ' : Char) ≠ ' ') = true := by decide
  have sign : ¬ Char.isWhitespace '#' = true := by decide
  have name (cs : List Char) : named? ('#' :: ' ' :: cs) =
      numbered? (cs.takeWhile (· ≠ ' ')) (cs.dropWhile (· ≠ ' ')) := rfl
  have number (cs ds : List Char) : numbered? cs (' ' :: '#' :: ds) =
    (Kind.ofTag? (String.ofList cs)).bind fun kind => (integer? ds).bind fun id =>
      some (kind, id) := rfl
  rw [headerOf?, dropWhile_indentation, text, List.dropWhile_cons_of_neg sign, name,
    List.dropWhile_append_of_pos tagged, List.dropWhile_cons_of_neg (by decide),
    List.takeWhile_append_of_pos tagged, List.takeWhile_cons_of_neg (by decide), List.append_nil,
    number, String.ofList_toList, Kind.ofTag?_tag, integer?_intText]
  rfl

private theorem headerOf?_of_begins {text : String} (h : Text.Begins opensCode text) (depth : Nat) :
    headerOf? (indentation depth ++ text) = none := by
  obtain ⟨c, cs, begins, opens⟩ := h
  rw [opensCode, Bool.and_eq_true, Bool.not_eq_true', decide_eq_true_eq] at opens
  have other : c ≠ '#' := opens.2
  rw [headerOf?, dropWhile_indentation, begins,
    List.dropWhile_cons_of_neg (Bool.eq_false_iff.1 opens.1), named?]
  intro text same
  exact other (List.cons.inj same).1

/-- Without a second number sign a comment names nothing. -/
private theorem named?_of_not_mem {cs : List Char} (none : '#' ∉ cs) :
    named? ('#' :: ' ' :: cs) = .none := by
  have signless : '#' ∉ cs.dropWhile (· ≠ ' ') := mt (List.dropWhile_sublist _).mem none
  rw [named?]
  unfold numbered?
  split
  next rest => exact absurd (rest ▸ List.mem_cons_of_mem ' ' List.mem_cons_self) signless
  next => rfl

/-- Neither code nor a quiet comment names a widget. -/
theorem headerOf?_of_written {S : Slot → Prop} {text : String}
    (h : Written (Tidy S .start) Quiet text) : headerOf? text = none := by
  cases h with
  | code depth h => exact headerOf?_of_begins (begins_of_tidy h) depth
  | head depth h =>
    rw [String.append_assoc]
    exact headerOf?_of_begins ((begins_of_tidy h).append ":") depth
  | @comment depth t h =>
    have none : '#' ∉ t.toList := fun mem => (Text.isQuiet_iff.1 (h _ mem)).2.2.2 rfl
    have sign : ¬ Char.isWhitespace '#' = true := by decide
    rw [headerOf?, dropWhile_indentation]
    unfold commentText
    split
    next => rfl
    next =>
      rw [String.toList_append]
      show named? (('#' :: ' ' :: t.toList).dropWhile Char.isWhitespace) = .none
      rw [List.dropWhile_cons_of_neg sign]
      exact named?_of_not_mem none
  | blank => rfl

/-! ## Sections -/

section Sections

variable {S : Slot → Prop} (depth : Nat)

/-- The widgets that the lines of statements name. -/
def headersIn (ss : List Stmt) : List (Kind × Int) := (Stmt.linesAll depth ss).filterMap headerOf?

private theorem headersIn_append (ss ts : List Stmt) :
    headersIn depth (ss ++ ts) = headersIn depth ss ++ headersIn depth ts := by
  rw [headersIn, Stmt.linesAll_append, List.filterMap_append]
  rfl

private theorem headersIn_cons (s : Stmt) (ss : List Stmt) :
    headersIn depth (s :: ss) = headersIn depth [s] ++ headersIn depth ss :=
  headersIn_append depth [s] ss

private theorem headersIn_flatMap {α : Type} (f : α → List Stmt) (as : List α) :
    headersIn depth (as.flatMap f) = as.flatMap fun a => headersIn depth (f a) := by
  induction as with
  | nil => rfl
  | cons a as ih => rw [List.flatMap_cons, List.flatMap_cons, headersIn_append, ih]

/-- Where all comments are quiet, no widget is named. -/
private theorem headersIn_quiet {ss : List Stmt} (h : TidyIn S ss) : headersIn depth ss = [] :=
  List.filterMap_eq_nil_iff.2 fun text mem =>
    headerOf?_of_written (Stmt.written_linesAll depth ss h text mem)

/-- The head of a block names nothing. -/
private theorem headersIn_block {head : Line} (h : Tidy S .start head) (body : List Stmt) :
    headersIn depth [.block head body] = headersIn (depth + 1) body := by
  have first : headerOf? (indentation depth ++ head.render ++ ":") = none := by
    rw [String.append_assoc]
    exact headerOf?_of_begins ((begins_of_tidy h).append ":") depth
  rw [headersIn, Stmt.linesAll_block, List.filterMap_cons_none first]
  rfl

private theorem headersIn_setOff (ss : List Stmt) :
    headersIn depth (setOff ss) = headersIn depth ss := rfl

/-- The code of a widget names that widget, once. -/
theorem headersIn_widget (w : Widget) : headersIn depth (block w) = [label w] := by
  have rest : TidyIn (fun _ => True) (dressed w) := tidyIn_dressed fun _ _ => trivial
  rw [block_eq, headersIn_cons, headersIn_quiet depth rest, List.append_nil]
  exact congrArg Option.toList (headerOf?_header depth w.kind w.id)

private theorem headersIn_blocks (ws : List Widget) :
    headersIn depth (blocks ws) = ws.map label := by
  rw [blocks, headersIn_flatMap, List.map_eq_flatMap]
  exact congrArg (ws.flatMap ·) (funext (headersIn_widget depth))

variable (p : Project)

/-- What every module has is tidy, whatever fields it names. -/
private theorem frame_tidy :
    Stmt.Frame (Tidy (fun _ => True) .start) Quiet (TidyIn fun _ => True) p :=
  tidy_frame p fun _ => trivial

private theorem headersIn_panel (panel : Panel) :
    headersIn depth (panelCode p panel (panelPos panel) (panelSize panel)) =
      (p.inArea panel.area).map label := by
  have frame := frame_tidy p
  have title : TidyIn (fun _ => True) [.comment (panel.area.tag ++ " panel")] :=
    ⟨frame.title panel, trivial⟩
  rw [panelCode_eq, headersIn_cons, headersIn_quiet depth title, List.nil_append,
    headersIn_block depth (frame.switch panel), headersIn_append, headersIn_append,
    headersIn_quiet _ (frame.panelOpening panel), headersIn_quiet _ frame.panelClosing,
    headersIn_blocks, List.nil_append, List.append_nil]

private theorem headersIn_canvas : headersIn depth (canvasCode p) =
    (p.inArea .center).map label ++ (p.inArea .free).map label := by
  have frame := frame_tidy p
  rw [canvasCode_eq, headersIn_append, headersIn_append, headersIn_append,
    headersIn_quiet depth frame.canvasOpening, headersIn_quiet depth frame.canvasClosing,
    headersIn_blocks, headersIn_blocks, List.nil_append, List.append_nil]

/-- The function that draws the design goes through the areas in their order. -/
private theorem headersIn_uiFunction :
    headersIn depth (uiFunction p) = Area.drawOrder.flatMap fun a => (p.inArea a).map label := by
  have frame := frame_tidy p
  have panels : headersIn (depth + 1)
      (Panel.all.flatMap fun q => panelCode p q (panelPos q) (panelSize q)) =
        Panel.all.flatMap fun q => (p.inArea q.area).map label := by
    rw [headersIn_flatMap]
    exact congrArg (Panel.all.flatMap ·) (funext (headersIn_panel (depth + 1) p))
  rw [uiFunction_eq, headersIn_block depth frame.drawing, headersIn_append, headersIn_append,
    headersIn_quiet _ frame.uiOpening, panels, headersIn_canvas, List.nil_append]
  simp only [Panel.all, Area.drawOrder, Panel.area, List.flatMap_cons, List.flatMap_nil,
    List.append_nil, List.append_assoc]

private theorem headersIn_moduleCode (f : Format) :
    headersIn depth (moduleCode p f true) = headersIn depth (uiFunction p) := by
  have header := tidyIn_fullHeader f (S := fun _ => True)
  have lifts := Stmt.AllIn.lifts (P := Tidy (· ∈ slots p) .start) (Q := Quiet)
  have frame := tidy_frame p (panel_mem_slots p)
  have extras := tidy_extras (S := (· ∈ slots p)) p
  have before : TidyIn (· ∈ slots p)
      (Stmt.blank :: imports p f ++ setOff (helpers p) ++ setOff (stateClass p)) :=
    lifts.append
      (lifts.append ⟨trivial, tidyIn_imports p f⟩
        (lifts.setOff (lifts.helpers frame.flags (fun _ => extras.treeHelpers) fun _ =>
          extras.dateHelpers)))
      (lifts.setOff (lifts.stateClass frame fun _ => tidy_of_mem_fields))
  have after : TidyIn (· ∈ slots p) (if f = .uiOnly then [] else setOff (mainCode p)) :=
    lifts.ifFalse fun _ => lifts.setOff extras.main
  show headersIn depth (fullHeader f ++ moduleBody p f) = _
  rw [headersIn_append, headersIn_quiet depth header, moduleBody, headersIn_append,
    headersIn_append, headersIn_quiet depth before, headersIn_quiet depth after,
    headersIn_setOff, List.nil_append, List.nil_append, List.append_nil]

end Sections

/-- Every widget is in one area, and there it is once. -/
theorem perm_inArea (p : Project) : (Area.drawOrder.flatMap p.inArea).Perm p.widgets := by
  classical
  refine List.perm_iff_count.2 fun w => ?_
  have share (a : Area) : (p.inArea a).count w = if w.area = a then p.widgets.count w else 0 := by
    split
    next same => exact List.count_filter (beq_iff_eq.2 same)
    next other =>
      refine List.count_eq_zero_of_not_mem fun mem => other ?_
      exact beq_iff_eq.1 (List.mem_filter.1 mem).2
  rw [List.count_flatMap, show List.count w ∘ p.inArea = _ from funext share]
  cases w.area <;> simp only [Area.drawOrder, List.map_cons, List.map_nil, List.sum_cons,
    List.sum_nil, reduceCtorEq, if_true, if_false, Nat.add_zero, Nat.zero_add]

end Source

open Source in
/-- **Every widget is drawn once.** A text with comments names the widgets of the design area by
area, each area in list order, and nothing else. -/
theorem Project.headers_generate (p : Project) (f : Format) :
    headers (p.generate f true) =
        ([.top, .bottom, .left, .right, .center, .free] : List Area).flatMap
          (fun a => (p.widgets.filter fun w => w.area = a).map fun w => (w.kind, w.id)) ∧
      (headers (p.generate f true)).Perm (p.widgets.map fun w => (w.kind, w.id)) := by
  have front := tidyIn_framing f (S := fun _ => True)
  have order : headers (p.generate f true) = (Area.drawOrder.flatMap p.inArea).map label := by
    have last : [""].filterMap headerOf? = [] := rfl
    rw [headers, Project.generate, lines_text (tidyCode_generate p f true),
      List.filterMap_append, last, List.append_nil]
    show headersIn 0 (framing f ++ moduleCode p f true) = _
    rw [headersIn_append, headersIn_quiet 0 front, headersIn_moduleCode, headersIn_uiFunction,
      List.map_flatMap, List.nil_append]
  constructor
  · rw [order, List.map_flatMap]
    rfl
  · rw [order]
    exact (perm_inArea p).map label

end Formwork

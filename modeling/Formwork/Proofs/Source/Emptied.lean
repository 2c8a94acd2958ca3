import Formwork.Proofs.Source.Skeleton
import Formwork.Source.Stmt

/-!
# Code with empty literals

`Stmt.emptiedAll` takes the texts of a design out of statements and leaves everything else, so
statements that differ in those texts alone have the same image. That is a statement about data;
`sameSkeleton_text` carries it over to the text that is written: statements and their image have
the same skeleton, provided that program text and comments are quoteless (`Stmt.isPlainAll`).

The proof follows the printer. Each kind of piece is whole by itself, a line is a concatenation of
pieces, and the lines of statements end in a line feed that no literal contains.
-/

set_option autoImplicit false

namespace Formwork

open Text (quoteless quoteless_append quoteless_chars Whole SameSkeleton)

/-- A forest without its labels. -/
def Node.unlabelled (trees : List Node) : List Node := Node.foldAll (fun _ cs => .node "" cs) trees

/-! ## Numerals -/

/-- The characters that a number is spelled with. -/
def numeralChars : List Char := ['0', '1', '2', '3', '4', '5', '6', '7', '8', '9', '.', '-']

/-- All characters of the text are such. -/
def IsNumeral (s : String) : Prop := ∀ c ∈ s.toList, c ∈ numeralChars

namespace IsNumeral

variable {s t : String}

/-- What can be decided for the few characters holds in every numeral. -/
theorem forall_mem (h : IsNumeral s) {p : Char → Bool} (each : numeralChars.all p = true) :
    ∀ c ∈ s.toList, p c = true := fun c hc => List.all_eq_true.1 each c (h c hc)

theorem chars (cs : List Char) (h : cs.all numeralChars.contains = true) :
    IsNumeral (String.ofList cs) := by
  rw [IsNumeral, String.toList_ofList]
  exact fun c hc => List.contains_iff_mem.1 (List.all_eq_true.1 h c hc)

theorem append (hs : IsNumeral s) (ht : IsNumeral t) : IsNumeral (s ++ t) := by
  rw [IsNumeral, String.toList_append]
  exact List.forall_mem_append.2 ⟨hs, ht⟩

theorem quoteless (h : IsNumeral s) : quoteless s = true := by
  rw [Text.quoteless_iff]
  intro mem
  exact absurd (h _ mem) (by decide)

end IsNumeral

theorem isNumeral_natText (n : Nat) : IsNumeral (natText n) := by
  rw [IsNumeral, natText, String.toList_ofList]
  intro c hc
  have digit := Nat.isDigit_of_mem_toDigits (by decide) (by decide) hc
  rw [Char.isDigit, Bool.and_eq_true, decide_eq_true_eq, decide_eq_true_eq] at digit
  have low : 48 ≤ c.toNat := UInt32.le_iff_toNat_le.1 digit.1
  have high : c.toNat ≤ 57 := UInt32.le_iff_toNat_le.1 digit.2
  have each : ∀ code < 58, 48 ≤ code → Char.ofNat code ∈ numeralChars := by decide
  rw [← Char.ofNat_toNat c]
  exact each c.toNat (Nat.lt_succ_of_le high) low

theorem isNumeral_signed {s : String} (negative : Bool) (h : IsNumeral s) :
    IsNumeral (Layout.signed negative s) := by
  cases negative with
  | false => exact h
  | true => exact (IsNumeral.chars ['-'] rfl).append h

theorem isNumeral_intText (n : Int) : IsNumeral (intText n) := by
  unfold intText
  split
  next => exact isNumeral_signed true (isNumeral_natText _)
  next => exact isNumeral_natText _

theorem isNumeral_fixedSteps (places u : Nat) : IsNumeral (fixedSteps places u) := by
  have zeros (n : Nat) : IsNumeral (String.ofList (List.replicate n '0')) := by
    refine .chars _ (List.all_eq_true.2 fun c hc => ?_)
    rw [List.eq_of_mem_replicate hc]
    rfl
  unfold fixedSteps
  dsimp only
  split
  next => exact isNumeral_natText _
  next =>
    have point : IsNumeral "." := .chars _ rfl
    exact ((isNumeral_natText _).append point).append ((zeros _).append (isNumeral_natText _))

theorem isNumeral_fixedText (places : Nat) (negative : Bool) (u : Nat) :
    IsNumeral (fixedText places negative u) :=
  isNumeral_signed negative (isNumeral_fixedSteps places u)

namespace Source

@[simp] theorem quoteless_panelName (p : Panel) : quoteless (panelName p) = true := by
  cases p <;> decide

@[simp] theorem quoteless_slotName (s : Slot) : quoteless s.name = true := by
  cases s with
  | panel p =>
    rw [Slot.name, quoteless_append, quoteless_panelName]
    decide
  | widget stem id =>
    rw [Slot.name, quoteless_append, quoteless_append, (isNumeral_intText id).quoteless]
    cases stem <;> decide

/-! ## Whole pieces -/

/-- A number that is not finite is written with a literal of its own. -/
theorem whole_numberText (places : Nat) (x : Binary64) : Whole (numberText places x) := by
  have literal (start s : String) (h : quoteless start = true) :
      Whole (start ++ Text.Literal.quote s ++ ")") :=
    ((Whole.of_quoteless h).append (Text.Literal.whole_quote s)).append
      (.of_chars _ rfl)
  cases x with
  | nan => exact literal "float(" "nan" (quoteless_chars _ rfl)
  | infinite negative =>
    cases negative with
    | false => exact literal "float(" "inf" (quoteless_chars _ rfl)
    | true => exact literal "-float(" "inf" (quoteless_chars _ rfl)
  | finite negative u _ =>
    exact .of_quoteless (isNumeral_fixedText places negative u).quoteless

theorem whole_vectorText (v : Vec) : Whole (vectorText v) :=
  ((((Whole.of_chars _ rfl).append (whole_numberText 1 v.x)).append (.of_chars _ rfl)).append
    (whole_numberText 1 v.y)).append (.of_chars _ rfl)

theorem whole_offsetText {base : String} (h : quoteless base = true) (x : Binary64) :
    Whole (offsetText base x) := by
  have moved (sign : String) (y : Binary64) (plain : quoteless sign = true) :
      Whole (base ++ sign ++ numberText 1 y) :=
    ((Whole.of_quoteless h).append (.of_quoteless plain)).append (whole_numberText 1 y)
  unfold offsetText
  split
  · exact moved " - " x.neg (quoteless_chars _ rfl)
  · exact moved " + " x (quoteless_chars _ rfl)

theorem sameSkeleton_listText {ss ts : List String} (h : List.Forall₂ SameSkeleton ss ts) :
    SameSkeleton (listText ss) (listText ts) :=
  ((SameSkeleton.of_chars _ rfl).append (.intercalate (.of_chars _ rfl) h)).append
    (.of_chars _ rfl)

theorem sameSkeleton_nodeText (l m : String) {ss ts : List String}
    (h : List.Forall₂ SameSkeleton ss ts) : SameSkeleton (nodeText l ss) (nodeText m ts) := by
  have opening : SameSkeleton "GenTreeNode(" "GenTreeNode(" := .of_chars _ rfl
  have closing : SameSkeleton ")" ")" := .of_chars _ rfl
  have labelled := opening.append (.quote l m)
  cases h with
  | nil => exact labelled.append closing
  | cons first rest =>
    have comma : SameSkeleton ", " ", " := .of_chars _ rfl
    exact ((labelled.append comma).append (sameSkeleton_listText (.cons first rest))).append closing

mutual

private theorem sameSkeleton_fold : ∀ n : Node,
    SameSkeleton (n.fold nodeText) ((n.fold fun _ cs => Node.node "" cs).fold nodeText)
  | .node l cs => sameSkeleton_nodeText l "" (sameSkeleton_foldAll cs)

private theorem sameSkeleton_foldAll : ∀ ns : List Node,
    List.Forall₂ SameSkeleton (Node.foldAll nodeText ns)
      (Node.foldAll nodeText (Node.foldAll (fun _ cs => Node.node "" cs) ns))
  | [] => .nil
  | n :: ns => .cons (sameSkeleton_fold n) (sameSkeleton_foldAll ns)

end

/-- A forest and the forest without its labels are written with the same skeleton. -/
theorem sameSkeleton_forestText (trees : List Node) :
    SameSkeleton (forestText trees) (forestText (Node.unlabelled trees)) :=
  sameSkeleton_listText (sameSkeleton_foldAll trees)

/-! ## Empty literals -/

namespace Piece

/-- The piece without the texts in it. -/
def emptied : Piece → Piece
  | text _ => text ""
  | texts items => texts (items.map fun _ => "")
  | forest trees => forest (Node.unlabelled trees)
  | other => other

/-- Is the program text in the piece quoteless? -/
def isPlain : Piece → Bool
  | code s => quoteless s
  | offset base _ => quoteless base
  | _ => true

theorem sameSkeleton_render {p : Piece} (plain : p.isPlain = true) :
    SameSkeleton p.render p.emptied.render := by
  cases p with
  | code s => exact .of_quoteless plain
  | text s => exact .quote s ""
  | number x places => exact .refl (whole_numberText places x)
  | integer n => exact .of_quoteless (isNumeral_intText n).quoteless
  | flag b => exact .of_quoteless (by cases b <;> decide)
  | vector v => exact .refl (whole_vectorText v)
  | offset base x => exact .refl (whole_offsetText plain x)
  | texts items =>
    refine sameSkeleton_listText ?_
    rw [List.map_map, List.forall₂_map_left_iff, List.forall₂_map_right_iff, List.forall₂_same]
    exact fun s _ => .quote s ""
  | forest trees => exact sameSkeleton_forestText trees
  | slot s => exact .of_quoteless (quoteless_slotName s)

end Piece

namespace Line

def emptied (l : Line) : Line := l.map Piece.emptied

def isPlain (l : Line) : Bool := l.all Piece.isPlain

theorem sameSkeleton_render {l : Line} (plain : l.isPlain = true) :
    SameSkeleton l.render l.emptied.render := by
  refine .join ?_
  rw [emptied, List.map_map, List.forall₂_map_left_iff, List.forall₂_map_right_iff,
    List.forall₂_same]
  exact fun p hp => Piece.sameSkeleton_render (List.all_eq_true.1 plain p hp)

end Line

namespace Stmt

mutual

/-- The statement without the texts in it. -/
def emptied : Stmt → Stmt
  | line l => line (Line.emptied l)
  | block head body => block (Line.emptied head) (emptiedAll body)
  | wrapped opening inner closing =>
    wrapped (Line.emptied opening) (inner.map Line.emptied) (Line.emptied closing)
  | comment text => comment text
  | blank => blank

def emptiedAll : List Stmt → List Stmt
  | [] => []
  | s :: ss => s.emptied :: emptiedAll ss

end

mutual

/-- Are the program text and the comments quoteless? -/
def isPlain : Stmt → Bool
  | line l => Line.isPlain l
  | block head body => Line.isPlain head && isPlainAll body
  | wrapped opening inner closing =>
    Line.isPlain opening && inner.all Line.isPlain && Line.isPlain closing
  | comment text => quoteless text
  | blank => true

def isPlainAll : List Stmt → Bool
  | [] => true
  | s :: ss => s.isPlain && isPlainAll ss

end

private theorem sameSkeleton_indented {s t : String} (depth : Nat) (h : SameSkeleton s t) :
    SameSkeleton (indentation depth ++ s) (indentation depth ++ t) := by
  have plain : quoteless (indentation depth) = true := by
    rw [Text.quoteless_iff, indentation, String.toList_ofList]
    exact fun mem => absurd (List.eq_of_mem_replicate mem) (by decide)
  exact SameSkeleton.append (.of_quoteless plain) h

private theorem quoteless_commentText {text : String} (h : quoteless text = true) :
    quoteless (commentText text) = true := by
  unfold commentText
  split
  · decide
  · rw [quoteless_append, h]
    decide

mutual

private theorem sameSkeleton_lines : ∀ (depth : Nat) (s : Stmt), s.isPlain = true →
    List.Forall₂ SameSkeleton (s.lines depth) (s.emptied.lines depth)
  | depth, line l, plain =>
    .cons (sameSkeleton_indented depth (Line.sameSkeleton_render plain)) .nil
  | depth, block head body, plain => by
    obtain ⟨plainHead, plainBody⟩ := Bool.and_eq_true_iff.1 plain
    have colon : SameSkeleton ":" ":" := .of_chars _ rfl
    exact .cons ((sameSkeleton_indented depth (Line.sameSkeleton_render plainHead)).append colon)
      (sameSkeleton_linesAll (depth + 1) body plainBody)
  | depth, wrapped opening inner closing, plain => by
    obtain ⟨plainStart, plainClosing⟩ := Bool.and_eq_true_iff.1 plain
    obtain ⟨plainOpening, plainInner⟩ := Bool.and_eq_true_iff.1 plainStart
    refine List.rel_append
      (.cons (sameSkeleton_indented depth (Line.sameSkeleton_render plainOpening)) ?_)
      (.cons (sameSkeleton_indented depth (Line.sameSkeleton_render plainClosing)) .nil)
    rw [List.map_map, List.forall₂_map_left_iff, List.forall₂_map_right_iff, List.forall₂_same]
    exact fun l hl => sameSkeleton_indented (depth + 1)
      (Line.sameSkeleton_render (List.all_eq_true.1 plainInner l hl))
  | depth, comment text, plain =>
    .cons (sameSkeleton_indented depth (.of_quoteless (quoteless_commentText plain))) .nil
  | _, blank, _ => .cons (.refl .empty) .nil

private theorem sameSkeleton_linesAll : ∀ (depth : Nat) (ss : List Stmt), isPlainAll ss = true →
    List.Forall₂ SameSkeleton (linesAll depth ss) (linesAll depth (emptiedAll ss))
  | _, [], _ => .nil
  | depth, s :: ss, plain => by
    obtain ⟨plainFirst, plainRest⟩ := Bool.and_eq_true_iff.1 plain
    exact List.rel_append (sameSkeleton_lines depth s plainFirst)
      (sameSkeleton_linesAll depth ss plainRest)

end

/-- Statements are written with the same skeleton as what is left of them when their texts are
taken out. -/
theorem sameSkeleton_text {ss : List Stmt} (plain : isPlainAll ss = true) :
    SameSkeleton (text ss) (text (emptiedAll ss)) := by
  refine .join ?_
  rw [List.forall₂_map_left_iff, List.forall₂_map_right_iff]
  have feed : SameSkeleton "\n" "\n" := .of_chars _ rfl
  exact (sameSkeleton_linesAll 0 ss plain).imp fun _ _ h => h.append feed

/-! ## Statements with and without comments -/

theorem isPlainAll_append (ss ts : List Stmt) :
    isPlainAll (ss ++ ts) = (isPlainAll ss && isPlainAll ts) := by
  induction ss with
  | nil => rfl
  | cons s ss ih => simp only [List.cons_append, isPlainAll, ih, Bool.and_assoc]

theorem emptiedAll_append (ss ts : List Stmt) :
    emptiedAll (ss ++ ts) = emptiedAll ss ++ emptiedAll ts := by
  induction ss with
  | nil => rfl
  | cons s ss ih => simp only [List.cons_append, emptiedAll, ih]

mutual

private theorem emptiedAll_without : ∀ s : Stmt,
    emptiedAll s.withoutComments = s.emptied.withoutComments
  | line _ => rfl
  | block head body => by
    rw [withoutComments, emptiedAll, emptied, emptiedAll_withoutAll body]
    rfl
  | wrapped _ _ _ => rfl
  | comment _ => rfl
  | blank => rfl

private theorem emptiedAll_withoutAll : ∀ ss : List Stmt,
    emptiedAll (withoutCommentsAll ss) = withoutCommentsAll (emptiedAll ss)
  | [] => rfl
  | s :: ss => by
    rw [withoutCommentsAll, emptiedAll_append, emptiedAll_without s, emptiedAll_withoutAll ss]
    rfl

end

theorem emptiedAll_commented (comments : Bool) (ss : List Stmt) :
    emptiedAll (commented comments ss) = commented comments (emptiedAll ss) := by
  cases comments with
  | true => rfl
  | false => exact emptiedAll_withoutAll ss

end Stmt

end Source

end Formwork

import Formwork.Proofs.Binary64.Sort
import Formwork.Proofs.Source.Depth
import Formwork.Proofs.Source.Expressions
import Formwork.Proofs.Text.SignPairs
import Formwork.Session.Edit

/-!
# Signs in generated code

A coordinate is moved by a number in such a way that no minus sign follows a plus sign: what is
below zero is subtracted. Two numbers are negative and added all the same, minus zero, which is not
below zero, and minus infinity, which is not finite. They keep their sign (`KeepsSign`), and the
moved coordinate has a sign pair exactly for them (`unpaired_offsetText`,
`hasSignPair_offsetText`). A placeholder is filled up to its far corner, and there its size is added
whatever its sign.

Nothing else that is written for a design can make a pair. Every other piece of a line leaves no
trail of one, so lines are unpaired, whatever the texts and the numbers in them, and with them the
whole text (`unpairedIn_generate`).
-/

set_option autoImplicit false

namespace Formwork

namespace Source

open Text (Unpaired HasSignPair)

/-! ## Numbers -/

/-- A number that is negative and yet not subtracted, but added with its sign. -/
def KeepsSign (x : Binary64) : Prop :=
  x = .finite true 0 representable_zero ∨ x = .infinite true

/-- The text has no sign. -/
def Unsigned (s : String) : Prop := '+' ∉ s.toList ∧ '-' ∉ s.toList

section Numbers

variable {x : Binary64}

private theorem below_zero (negative : Bool) (u : Nat) (fits : Representable u) :
    (Binary64.finite negative u fits).below 0 =
      decide ((if negative then -(u : Int) else u) < 0) := by
  rw [Binary64.below, Binary64.orderKey?_zero]
  rfl

theorem isNegative_of_below (h : (x.isFinite && x.below 0) = true) : x.isNegative = true := by
  cases x with
  | nan => cases h
  | infinite negative => cases h
  | finite negative u fits =>
    cases negative with
    | true => rfl
    | false =>
      have below : (u : Int) < 0 := by
        rw [below_zero] at h
        exact of_decide_eq_true h
      omega

theorem keepsSign_iff :
    KeepsSign x ↔ x.isNegative = true ∧ (x.isFinite && x.below 0) = false := by
  constructor
  · rintro (rfl | rfl)
    · exact ⟨rfl, by rw [below_zero]; rfl⟩
    · exact ⟨rfl, rfl⟩
  · rintro ⟨negative, added⟩
    cases x with
    | nan => cases negative
    | infinite s => exact .inr (congrArg _ negative)
    | finite s u fits =>
      obtain rfl : s = true := negative
      have whole : ¬-(u : Int) < 0 := by
        rw [below_zero] at added
        exact of_decide_eq_false added
      obtain rfl : u = 0 := by omega
      exact .inl rfl

theorem isNegative_neg (h : x.isNegative = true) : x.neg.isNegative = false := by
  cases x with
  | nan => cases h
  | infinite negative => exact congrArg not h
  | finite negative u fits => exact congrArg not h

theorem unsigned_fixedSteps (places u : Nat) : Unsigned (fixedSteps places u) := by
  have spelled : ∀ c ∈ (fixedSteps places u).toList, c.isDigit = true ∨ c = '.' := by
    have digits (n : Nat) : ∀ c ∈ (natText n).toList, c.isDigit = true ∨ c = '.' :=
      fun c mem => .inl (isDigit_of_mem_natText mem)
    unfold fixedSteps
    dsimp only
    split
    next => exact digits _
    next =>
      rw [String.toList_append, String.toList_append]
      refine List.forall_mem_append.2 ⟨List.forall_mem_append.2 ⟨digits _, ?_⟩, fun c mem => ?_⟩
      · exact fun c mem => .inr (by simpa using mem)
      · exact .inl (isDigit_of_mem_padLeft places mem)
  constructor
  all_goals
    intro mem
    exact absurd (spelled _ mem) (by decide)

/-- A number that is not negative is written without a sign. -/
theorem unsigned_numberText (h : x.isNegative = false) (places : Nat) :
    Unsigned (numberText places x) := by
  cases x with
  | nan =>
    rw [Unsigned, numberText]
    decide
  | infinite negative =>
    obtain rfl : negative = false := h
    rw [Unsigned, numberText]
    decide
  | finite negative u fits =>
    obtain rfl : negative = false := h
    exact unsigned_fixedSteps places u

/-- Any other number is written with a minus sign. -/
theorem exists_numberText_neg (h : x.isNegative = true) (places : Nat) :
    ∃ cs, (numberText places x).toList = '-' :: cs := by
  cases x with
  | nan => cases h
  | infinite negative =>
    obtain rfl : negative = true := h
    exact ⟨_, toList_negFloat "inf"⟩
  | finite negative u fits =>
    obtain rfl : negative = true := h
    refine ⟨(fixedSteps places u).toList, ?_⟩
    rw [numberText, fixedText, Layout.signed, if_pos rfl, String.toList_append]
    rfl

theorem unpaired_numberText (places : Nat) (x : Binary64) : Unpaired (numberText places x) := by
  have call (start s : String) (h : Unpaired start) :
      Unpaired (start ++ Text.Literal.quote s ++ ")") :=
    (h.append (.quote s)).append (.chars _ rfl rfl)
  cases x with
  | nan => exact call "float(" "nan" (.chars _ rfl rfl)
  | infinite negative =>
    cases negative with
    | false => exact call "float(" "inf" (.chars _ rfl rfl)
    | true => exact call "-float(" "inf" (.chars _ rfl rfl)
  | finite negative u _ =>
    exact .of_isNumeral (isNumeral_fixedText places negative u)

section Sum

variable {base : String} (unpaired : Unpaired base) {places : Nat}

include unpaired

theorem unpaired_sum (h : x.isNegative = false) (some_place : 0 < places) :
    Unpaired (base ++ " + " ++ numberText places x) := by
  obtain ⟨c, cs, text, -⟩ := (fractional_numberText some_place x).begins
  obtain ⟨plus, minus⟩ := unsigned_numberText h places
  rw [text] at plus minus
  exact unpaired.sum (unpaired_numberText places x) text
    (List.ne_of_not_mem_cons plus).symm (List.ne_of_not_mem_cons minus).symm

theorem hasSignPair_sum (h : x.isNegative = true) (places : Nat) :
    HasSignPair (base ++ " + " ++ numberText places x) := by
  obtain ⟨cs, text⟩ := exists_numberText_neg h places
  exact unpaired.hasSignPair_sum text

theorem unpaired_offsetText (h : ¬KeepsSign x) : Unpaired (offsetText base x) := by
  unfold offsetText
  split
  next => exact (unpaired.append (.chars _ rfl rfl)).append (unpaired_numberText 1 x.neg)
  next added =>
    refine unpaired_sum unpaired ?_ Nat.one_pos
    rw [keepsSign_iff, not_and_or, Bool.not_eq_true, Bool.not_eq_false] at h
    exact h.resolve_right added

theorem hasSignPair_offsetText (h : KeepsSign x) : HasSignPair (offsetText base x) := by
  obtain ⟨negative, added⟩ := keepsSign_iff.1 h
  rw [offsetText, if_neg (Bool.eq_false_iff.1 added)]
  exact hasSignPair_sum unpaired negative 1

end Sum

end Numbers

/-! ## Moved coordinates -/

/-- The text moves a base by a number that is written without a sign. -/
def IsMoved (base text : String) : Prop :=
  ∃ n, Unsigned n ∧ (text = base ++ " + " ++ n ∨ text = base ++ " - " ++ n)

theorem isMoved_offsetText_iff (base : String) (x : Binary64) :
    IsMoved base (offsetText base x) ↔ ¬KeepsSign x := by
  constructor
  · rintro ⟨n, ⟨plus, minus⟩, text⟩ keeps
    obtain ⟨negative, added⟩ := keepsSign_iff.1 keeps
    obtain ⟨cs, number⟩ := exists_numberText_neg negative 1
    rw [offsetText, if_neg (Bool.eq_false_iff.1 added)] at text
    rcases text with sum | difference
    · have same : numberText 1 x = n := (String.append_right_inj _).1 sum
      exact minus (same ▸ number ▸ List.mem_cons_self)
    · have same := congrArg String.toList difference
      simp only [String.append_assoc, String.toList_append, List.append_cancel_left_eq] at same
      cases same
  · intro h
    unfold offsetText
    split
    next below =>
      refine ⟨numberText 1 x.neg, unsigned_numberText ?_ 1, .inr rfl⟩
      exact isNegative_neg (isNegative_of_below below)
    next added =>
      refine ⟨numberText 1 x, unsigned_numberText ?_ 1, .inl rfl⟩
      rw [keepsSign_iff, not_and_or, Bool.not_eq_true, Bool.not_eq_false] at h
      exact h.resolve_right added

/-! ## Pieces -/

private theorem unpaired_intText (n : Int) : Unpaired (intText n) :=
  .of_isNumeral (isNumeral_intText n)

private theorem unpaired_listText {items : List String} (h : ∀ s ∈ items, Unpaired s) :
    Unpaired (listText items) := by
  have separator : Unpaired ", " := .chars _ rfl rfl
  exact (Unpaired.append (.chars _ rfl rfl) (separator.intercalate h)).append (.chars _ rfl rfl)

private theorem unpaired_channelsText (channels : List Int) : Unpaired (channelsText channels) := by
  refine unpaired_listText fun s hs => ?_
  obtain ⟨c, _, rfl⟩ := List.mem_map.1 hs
  exact (unpaired_intText c).append (.chars _ rfl rfl)

private theorem unpaired_nodeText (label : String) {children : List String}
    (h : ∀ s ∈ children, Unpaired s) : Unpaired (nodeText label children) := by
  have labelled : Unpaired ("GenTreeNode(" ++ Text.Literal.quote label) :=
    (Unpaired.chars _ rfl rfl).append (.quote label)
  unfold nodeText
  split
  next => exact labelled.append (.chars _ rfl rfl)
  next =>
    exact ((labelled.append (.chars _ rfl rfl)).append (unpaired_listText h)).append
      (.chars _ rfl rfl)

mutual

private theorem unpaired_fold : ∀ n : Node, Unpaired (n.fold nodeText)
  | .node label cs => unpaired_nodeText label (unpaired_foldAll cs)

private theorem unpaired_foldAll : ∀ ns : List Node, ∀ s ∈ Node.foldAll nodeText ns, Unpaired s
  | [] => nofun
  | n :: ns => List.forall_mem_cons.2 ⟨unpaired_fold n, unpaired_foldAll ns⟩

end

private theorem unpaired_slotName (t : Slot) : Unpaired t.name := by
  cases t with
  | panel p => cases p <;> exact Unpaired.append (.chars _ rfl rfl) (.chars _ rfl rfl)
  | widget stem id =>
    refine Unpaired.append (Unpaired.append ?_ (unpaired_intText id)) ?_
    all_goals cases stem <;> exact Unpaired.chars _ rfl rfl

/-- What a design puts into a line leaves no trail, moved coordinates apart. -/
theorem Piece.unpaired_render {p : Piece} (code : ∀ s, p ≠ .code s)
    (offset : ∀ base x, p ≠ .offset base x) : Unpaired p.render := by
  cases p with
  | code s => exact absurd rfl (code s)
  | offset base x => exact absurd rfl (offset base x)
  | text s => exact .quote s
  | number x places => exact unpaired_numberText places x
  | integer n => exact unpaired_intText n
  | flag b => cases b <;> exact Unpaired.chars _ rfl rfl
  | vector v =>
    exact ((((Unpaired.chars _ rfl rfl).append (unpaired_numberText 1 v.x)).append
      (.chars _ rfl rfl)).append (unpaired_numberText 1 v.y)).append (.chars _ rfl rfl)
  | texts items =>
    refine unpaired_listText fun s hs => ?_
    obtain ⟨item, _, rfl⟩ := List.mem_map.1 hs
    exact .quote item
  | forest trees => exact unpaired_listText (unpaired_foldAll trees)
  | slot t => exact unpaired_slotName t

/-! ## Lines -/

/-- A line whose program text and whose moved coordinates leave no trail. -/
def Settled : Line → Prop
  | [] => True
  | .code s :: ps => Unpaired s ∧ Settled ps
  | .offset base x :: ps => Unpaired (offsetText base x) ∧ Settled ps
  | _ :: ps => Settled ps

theorem Settled.unpaired {l : Line} (h : Settled l) : Unpaired l.render := by
  induction l with
  | nil => exact .chars [] rfl rfl
  | cons p ps ih =>
    rw [render_cons]
    cases p with
    | code s => exact h.1.append (ih h.2)
    | offset base x => exact h.1.append (ih h.2)
    | _ =>
      refine Unpaired.append ?_ (ih h)
      exact Piece.unpaired_render nofun nofun

/-- Statements whose lines and comments are unpaired. -/
def UnpairedIn (ss : List Stmt) : Prop := Stmt.AllIn (fun l => Unpaired l.render) Unpaired ss

/-- Statements whose lines are settled. -/
def SettledIn (ss : List Stmt) : Prop := Stmt.AllIn Settled Unpaired ss

theorem SettledIn.unpairedIn {ss : List Stmt} (h : SettledIn ss) : UnpairedIn ss :=
  Stmt.AllIn.imp (fun _ => Settled.unpaired) (fun _ => id) ss h

open Stmt

/-! ## Widgets -/

/-- The code of a widget makes a sign pair: its position does, or it is a placeholder whose size has
a minus sign. -/
def PairsSigns (w : Widget) : Prop :=
  KeepsSign w.pos.x ∨ KeepsSign w.pos.y ∨
    w.kind = .placeholder ∧ (w.size.x.isNegative = true ∨ w.size.y.isNegative = true)

section Widgets

variable {id : Int} {size pos : Vec}

theorem exists_placeholder {control : Control} (h : control.kind = .placeholder) :
    ∃ text c, control = .placeholder text c := by
  cases control
  case placeholder text c => exact ⟨text, c, rfl⟩
  all_goals cases h

theorem exists_window {control : Control} (h : control.kind = .window) :
    ∃ text, control = .window text := by
  cases control
  case window text => exact ⟨text, rfl⟩
  all_goals cases h

/-- What draws a control is settled, unless it fills a rectangle. -/
theorem settledIn_body {c : Control} (drawn : c.kind ≠ .placeholder) (x : ¬KeepsSign pos.x)
    (y : ¬KeepsSign pos.y) : SettledIn (body id size pos c) := by
  -- Only a window places itself.
  have left : Unpaired (offsetText "origin.x" pos.x) := unpaired_offsetText (.chars _ rfl rfl) x
  have top : Unpaired (offsetText "origin.y" pos.y) := unpaired_offsetText (.chars _ rfl rfl) y
  cases c
  case placeholder => exact absurd rfl drawn
  case' radioGroup | datePicker | dragValue =>
    refine allIn_append.2 ⟨AllIn.lifts.whereText _ ?_, ?_⟩
  case' tree => refine ⟨?_, allIn_append.2 ⟨AllIn.lifts.whereText _ ?_, ?_⟩⟩
  case' group _ horizontal =>
    refine ⟨?_, allIn_append.2 ⟨AllIn.lifts.whereText _ ?_, ?_⟩⟩
    rotate_right
    cases horizontal
  all_goals repeat' apply And.intro
  all_goals first
    | exact Unpaired.chars _ rfl rfl
    | exact trivial
    | exact left
    | exact top

/-- The line that fills a rectangle. -/
def rectLine (size : Vec) (c : Color) : Line :=
  ["draw.add_rect_filled(corner, imgui.ImVec2(corner.x + ", .number size.x 1,
    ", corner.y + ", .number size.y 1, "), imgui.color_convert_float4_to_u32(imgui.ImVec4(",
    .number (channelFraction c.red) 3, ", ", .number (channelFraction c.green) 3, ", ",
    .number (channelFraction c.blue) 3, ", ", .number (channelFraction c.alpha) 3, ")))"]

/-- It adds the size to the corner, and nothing else in it can make a pair. -/
private theorem exists_rectLine (size : Vec) (c : Color) : ∃ rest, Unpaired rest ∧
    (rectLine size c).render = "draw.add_rect_filled(corner, imgui.ImVec2(corner.x" ++ " + " ++
      numberText 1 size.x ++ (", corner.y" ++ " + " ++ numberText 1 size.y ++ rest) := by
  have colour : Settled ["), imgui.color_convert_float4_to_u32(imgui.ImVec4(",
      .number (channelFraction c.red) 3, ", ", .number (channelFraction c.green) 3, ", ",
      .number (channelFraction c.blue) 3, ", ", .number (channelFraction c.alpha) 3, ")))"] :=
    ⟨.chars _ rfl rfl, .chars _ rfl rfl, .chars _ rfl rfl, .chars _ rfl rfl, .chars _ rfl rfl,
      trivial⟩
  refine ⟨_, colour.unpaired, ?_⟩
  rw [rectLine, render_cons, render_cons, render_cons, render_cons]
  simp only [Piece.render, String.append_assoc]
  -- The two sides differ in where the program text is cut.
  rfl

section Rect

variable (c : Color)

private theorem unpaired_rectLine (x : size.x.isNegative = false) (y : size.y.isNegative = false) :
    Unpaired (rectLine size c).render := by
  obtain ⟨rest, unpaired, text⟩ := exists_rectLine size c
  rw [text]
  exact (unpaired_sum (.chars _ rfl rfl) x Nat.one_pos).append
    ((unpaired_sum (.chars _ rfl rfl) y Nat.one_pos).append unpaired)

private theorem hasSignPair_rectLine
    (h : size.x.isNegative = true ∨ size.y.isNegative = true) :
    HasSignPair (rectLine size c).render := by
  obtain ⟨rest, -, text⟩ := exists_rectLine size c
  rw [text]
  cases x : size.x.isNegative with
  | true => exact (hasSignPair_sum (.chars _ rfl rfl) x 1).append _
  | false =>
    have y : size.y.isNegative = true := h.resolve_left (Bool.eq_false_iff.1 x)
    exact .behind (unpaired_sum (.chars _ rfl rfl) x Nat.one_pos)
      ((hasSignPair_sum (.chars _ rfl rfl) y 1).append rest)

end Rect

/-- A rectangle that is filled towards a corner behind its own makes no pair. -/
private theorem unpairedIn_placeholder (text : String) (c : Color) (x : size.x.isNegative = false)
    (y : size.y.isNegative = false) : UnpairedIn (placeholder size text c) := by
  have settled {l : Line} (h : Settled l) : Unpaired l.render := h.unpaired
  have corner : Settled ["corner = imgui.get_cursor_screen_pos()"] := ⟨.chars _ rfl rfl, trivial⟩
  have draw : Settled ["draw = imgui.get_window_draw_list()"] := ⟨.chars _ rfl rfl, trivial⟩
  have caption : Settled ["draw.add_text(imgui.ImVec2(corner.x + 4.0, corner.y + 4.0), ",
      "imgui.get_color_u32(imgui.Col_.text), ", .text text, ")"] :=
    ⟨.chars _ rfl rfl, .chars _ rfl rfl, .chars _ rfl rfl, trivial⟩
  have room : Settled ["imgui.dummy(", .vector size, ")"] :=
    ⟨.chars _ rfl rfl, .chars _ rfl rfl, trivial⟩
  exact ⟨settled corner, settled draw, unpaired_rectLine c x y, settled caption, settled room,
    trivial⟩

end Widgets

theorem unpairedIn_block {w : Widget} (h : ¬PairsSigns w) : UnpairedIn (block w) := by
  obtain ⟨x, y, size⟩ : ¬KeepsSign w.pos.x ∧ ¬KeepsSign w.pos.y ∧ (w.kind = .placeholder →
      w.size.x.isNegative = false ∧ w.size.y.isNegative = false) := by
    simpa only [PairsSigns, not_or, not_and, Bool.not_eq_true] using h
  have name : Unpaired (w.kind.tag ++ " #" ++ intText w.id) := by
    refine (Unpaired.append ?_ (.chars _ rfl rfl)).append (unpaired_intText w.id)
    cases w.kind <;> exact Unpaired.chars _ rfl rfl
  have placed : SettledIn (placement w) :=
    AllIn.lifts.ifFalse fun _ => ⟨⟨.chars _ rfl rfl, unpaired_offsetText (.chars _ rfl rfl) x,
      .chars _ rfl rfl, unpaired_offsetText (.chars _ rfl rfl) y, .chars _ rfl rfl, trivial⟩,
      trivial⟩
  have drawn : UnpairedIn (body w.id w.size w.pos w.props.control) := by
    by_cases filled : w.kind = .placeholder
    · obtain ⟨width, height⟩ := size filled
      obtain ⟨text, c, control⟩ := exists_placeholder filled
      rw [control]
      exact unpairedIn_placeholder text c width height
    · exact (settledIn_body filled x y).unpairedIn
  have disabled : Settled ["imgui.begin_disabled()"] := ⟨.chars _ rfl rfl, trivial⟩
  have enabled : Settled ["imgui.end_disabled()"] := ⟨.chars _ rfl rfl, trivial⟩
  have tip : Settled ["imgui.set_item_tooltip(", .text w.props.tooltip, ")"] :=
    ⟨.chars _ rfl rfl, .chars _ rfl rfl, trivial⟩
  exact ⟨name, AllIn.lifts.dressed placed.unpairedIn disabled.unpaired drawn enabled.unpaired
    tip.unpaired⟩

/-! ## Sections -/

section Sections

variable (p : Project) (f : Format)

private theorem settled_field (slot : Slot) {hint : String} {initial : Line}
    (begun : Begun hint initial) :
    Settled (Field.mk slot hint initial).declaration ∧
      Settled (Field.mk slot hint initial).assignment := by
  cases begun with
  | flag | integer | number | text =>
    refine ⟨⟨?_, ?_, trivial⟩, ?_, ?_, trivial⟩
    all_goals exact Unpaired.chars _ rfl rfl
  | channels ns =>
    refine ⟨⟨?_, ?_, trivial⟩, ?_, ?_, unpaired_channelsText ns, trivial⟩
    all_goals exact Unpaired.chars _ rfl rfl
  | date d =>
    refine ⟨⟨?_, ?_, trivial⟩, ?_, ?_, ?_, ?_, ?_, ?_, trivial⟩
    all_goals exact Unpaired.chars _ rfl rfl

private theorem settled_of_mem_fields :
    ∀ s ∈ fields p, Settled s.declaration ∧ Settled s.assignment :=
  fun s mem => settled_field s.slot (begun_of_mem_fields s mem)

private theorem unpaired_panelTitle (panel : Panel) : Unpaired (panel.area.tag ++ " panel") := by
  cases panel <;> exact Unpaired.append (.chars _ rfl rfl) (.chars _ rfl rfl)

private theorem settled_frame : Frame Settled Unpaired SettledIn p := by
  constructor
  case title => exact unpaired_panelTitle
  case' panelOpening | switch => intro panel
  case' panelOpening => cases panel
  all_goals repeat' apply And.intro
  all_goals first
    | exact Unpaired.chars _ rfl rfl
    | exact trivial

private theorem settled_extras : Extras SettledIn p := by
  constructor
  all_goals repeat' apply And.intro
  all_goals first
    | exact Unpaired.chars _ rfl rfl
    | exact Unpaired.append (.chars _ rfl rfl) (.chars _ rfl rfl)
    | exact trivial

private theorem settledIn_imports : SettledIn (imports p f) := by
  have modules : Unpaired (", ".intercalate (libraryModules p f)) := by
    refine .intercalate (.chars _ rfl rfl) fun s hs => ?_
    rcases eq_of_mem_libraryModules p f hs with rfl | rfl | rfl
    all_goals exact Unpaired.chars _ rfl rfl
  have extras := settled_extras p
  exact AllIn.lifts.imports (fun _ => extras.dateImports) (fun _ => extras.treeImports)
    ⟨⟨.chars _ rfl rfl, modules, trivial⟩, trivial⟩

private theorem settledIn_fullHeader : SettledIn (fullHeader f) := by
  refine allIn_append.2 ⟨⟨?_, .append ?_ ?_, ?_, ?_, trivial⟩,
    AllIn.lifts.ifTrue fun _ => ⟨?_, ?_, ?_, ?_, ?_, trivial⟩⟩
  all_goals exact Unpaired.chars _ rfl rfl

/-! ## The module -/

variable {p} (clean : ∀ w ∈ p.widgets, ¬PairsSigns w)

include clean

private theorem unpairedIn_inArea (a : Area) : UnpairedIn (blocks (p.inArea a)) :=
  AllIn.lifts.flatMap fun w hw => unpairedIn_block (clean w (List.mem_filter.1 hw).1)

/-- Where no widget makes a pair, nothing in the text does. -/
theorem unpairedIn_generate (comments : Bool) :
    UnpairedIn (framing f ++ moduleCode p f comments) := by
  have extras := settled_extras p
  have helped : SettledIn (helpers p) :=
    AllIn.lifts.helpers (settled_frame p).flags (fun _ => extras.treeHelpers) fun _ =>
      extras.dateHelpers
  have record : SettledIn (stateClass p) :=
    AllIn.lifts.stateClass (settled_frame p) (settled_of_mem_fields p)
  have frame : Frame (fun l => Unpaired l.render) Unpaired UnpairedIn p :=
    (settled_frame p).imp (fun _ => Settled.unpaired) (fun _ => id) fun _ => SettledIn.unpairedIn
  have body : UnpairedIn (moduleBody p f) :=
    AllIn.lifts.moduleBody (settledIn_imports p f).unpairedIn helped.unpairedIn record.unpairedIn
      (AllIn.lifts.uiFunction frame (unpairedIn_inArea clean)) fun _ => extras.main.unpairedIn
  refine allIn_append.2 ⟨(extras.framing trivial f).unpairedIn, allIn_append.2
    ⟨?_, allIn_commented comments body⟩⟩
  cases comments with
  | true => exact (settledIn_fullHeader f).unpairedIn
  | false => exact ⟨.chars _ rfl rfl, trivial⟩

end Sections

/-! ## Lines -/

private theorem unpaired_indentation (depth : Nat) : Unpaired (indentation depth) := by
  have quiet := quiet_indentation depth
  refine .of_quoteless quiet.quoteless (Text.Trail.after_of_not_mem fun mem => ?_)
  rw [indentation, String.toList_ofList] at mem
  exact absurd (List.eq_of_mem_replicate mem) (by decide)

/-- Indented lines and comments are unpaired as they are. -/
theorem unpaired_of_written {text : String}
    (h : Written (fun l => Unpaired l.render) Unpaired text) : Unpaired text := by
  cases h with
  | code depth h => exact (unpaired_indentation depth).append h
  | head depth h => exact ((unpaired_indentation depth).append h).append (.chars _ rfl rfl)
  | @comment depth t h =>
    refine (unpaired_indentation depth).append ?_
    unfold commentText
    split
    next => exact .chars _ rfl rfl
    next => exact Unpaired.append (.chars _ rfl rfl) h
  | blank => exact .chars [] rfl rfl

/-! ## Places -/

/-- The call that places a widget. -/
def positionCall (w : Widget) : String :=
  if w.kind = .window then
    "imgui.set_next_window_pos(imgui.ImVec2(" ++ offsetText "origin.x" w.pos.x ++ ", " ++
      offsetText "origin.y" w.pos.y ++ "), imgui.Cond_.first_use_ever)"
  else
    "imgui.set_cursor_screen_pos(imgui.ImVec2(" ++ offsetText "origin.x" w.pos.x ++ ", " ++
      offsetText "origin.y" w.pos.y ++ "))"

section Places

variable {p : Project} {w : Widget}

private theorem hasSignPair_position {pos : Vec} (h : KeepsSign pos.x ∨ KeepsSign pos.y)
    {opening : String} (unpaired : Unpaired opening) (closing : String) :
    HasSignPair (opening ++ offsetText "origin.x" pos.x ++ ", " ++ offsetText "origin.y" pos.y ++
      closing) := by
  have left : Unpaired "origin.x" := .chars _ rfl rfl
  have top : Unpaired "origin.y" := .chars _ rfl rfl
  by_cases x : KeepsSign pos.x
  · have pair : HasSignPair (opening ++ offsetText "origin.x" pos.x) :=
      .behind unpaired (hasSignPair_offsetText left x)
    exact ((pair.append _).append _).append closing
  · have comma : Unpaired ", " := .chars _ rfl rfl
    have before := (unpaired.append (unpaired_offsetText left x)).append comma
    exact (HasSignPair.behind before (hasSignPair_offsetText top (h.resolve_left x))).append closing

theorem hasSignPair_positionCall (h : KeepsSign w.pos.x ∨ KeepsSign w.pos.y) :
    HasSignPair (positionCall w) := by
  unfold positionCall
  split
  · exact hasSignPair_position h (.chars _ rfl rfl) _
  · exact hasSignPair_position h (.chars _ rfl rfl) _

private theorem render_position (opening closing : String) (pos : Vec) :
    Line.render [.code opening, .offset "origin.x" pos.x, ", ", .offset "origin.y" pos.y,
      .code closing] =
      opening ++ offsetText "origin.x" pos.x ++ ", " ++ offsetText "origin.y" pos.y ++ closing := by
  have none : Line.render [] = "" := rfl
  simp only [render_cons, Piece.render, none, String.append_empty, String.append_assoc]

/-- What draws the control of a widget stands in the code of the widget. -/
private theorem mem_widgetLines {comments : Bool} {depth : Nat} {text : String}
    (h : text ∈ linesAll depth (commented comments (body w.id w.size w.pos w.props.control))) :
    text ∈ widgetLines comments depth w := by
  rw [widgetLines, block, List.append_assoc, commented_append, commented_append, linesAll_append,
    linesAll_append]
  exact List.mem_append_left _ (List.mem_append_right _ h)

/-- The call that places a widget stands in its code. -/
theorem exists_positionCall_mem (comments : Bool) (depth : Nat) (w : Widget) :
    ∃ level, indentation level ++ positionCall w ∈ widgetLines comments depth w := by
  unfold positionCall
  split
  next placesItself =>
    obtain ⟨text, control⟩ := exists_window placesItself
    refine ⟨depth + 1, mem_widgetLines ?_⟩
    rw [control, ← render_position, body, window, commented_block, linesAll_block]
    exact List.mem_cons_of_mem _ (line_mem_linesAll List.mem_cons_self comments (depth + 1))
  next placed =>
    refine ⟨depth, ?_⟩
    rw [← render_position]
    refine line_mem_linesAll ?_ comments depth
    simp only [block, placement, if_neg placed, List.cons_append, List.mem_cons, true_or, or_true,
      List.nil_append]

theorem rectLine_mem (comments : Bool) (depth : Nat) {text : String} {c : Color}
    (h : w.props.control = .placeholder text c) :
    indentation depth ++ (rectLine w.size c).render ∈ widgetLines comments depth w := by
  have third : .line (rectLine w.size c) ∈ placeholder w.size text c :=
    List.mem_cons_of_mem _ (List.mem_cons_of_mem _ List.mem_cons_self)
  refine mem_widgetLines ?_
  rw [h]
  exact line_mem_linesAll third comments depth

/-- The call stands in the module. -/
theorem exists_positionCall (mem : w ∈ p.widgets) (f : Format) (comments : Bool) :
    ∃ level, indentation level ++ positionCall w ∈ Text.lines (p.generate f comments) := by
  obtain ⟨depth, part⟩ := exists_infix_generate comments mem f
  obtain ⟨level, listed⟩ := exists_positionCall_mem comments depth w
  exact ⟨level, part.subset listed⟩

/-- The code of a widget that makes a sign pair has a line with one. -/
theorem exists_hasSignPair (h : PairsSigns w) (comments : Bool) (depth : Nat) :
    ∃ line ∈ widgetLines comments depth w, HasSignPair line := by
  have indented (level : Nat) {text : String} (h : HasSignPair text) :
      HasSignPair (indentation level ++ text) := h.behind (unpaired_indentation level)
  by_cases position : KeepsSign w.pos.x ∨ KeepsSign w.pos.y
  · obtain ⟨level, mem⟩ := exists_positionCall_mem comments depth w
    exact ⟨_, mem, indented level (hasSignPair_positionCall position)⟩
  · obtain ⟨filled, corner⟩ := (or_assoc.2 h).resolve_left position
    obtain ⟨text, c, control⟩ := exists_placeholder filled
    exact ⟨_, rectLine_mem comments depth control, indented depth (hasSignPair_rectLine c corner)⟩

end Places

/-- The lines of a module have a sign pair where the code of some widget makes one. -/
theorem forall_not_hasSignPair_iff (p : Project) (f : Format) (comments : Bool) :
    (∀ line ∈ Text.lines (p.generate f comments), ¬HasSignPair line) ↔
      ∀ w ∈ p.widgets, ¬PairsSigns w := by
  constructor
  · intro none w mem pairs
    obtain ⟨depth, part⟩ := exists_infix_generate comments mem f
    obtain ⟨line, listed, pair⟩ := exists_hasSignPair pairs comments depth
    exact none line (part.subset listed) pair
  · intro clean line listed
    rw [Project.generate, lines_text (tidyCode_generate p f comments)] at listed
    rcases List.mem_append.1 listed with written | last
    · exact (unpaired_of_written
        (written_linesAll 0 _ (unpairedIn_generate f clean comments) line written)).not_hasSignPair
    · rw [List.mem_singleton.1 last]
      decide

end Source

open Source Text

/-- **Signs behind plus signs.** A module has a line with a sign pair outside its literals exactly
where a widget is placed by a number that keeps its sign, minus zero or minus infinity, or is a
placeholder of a negative size. Every widget is placed by a call whose two coordinates are those of
the origin, moved by a number, and that number is written without a sign unless it keeps its own. -/
theorem Project.signs_generate_iff (p : Project) (f : Format) (comments : Bool) :
    ((∀ line ∈ lines (p.generate f comments), ¬HasSignPair line) ↔
      ∀ w ∈ p.widgets, ¬PairsSigns w) ∧
    ∀ w ∈ p.widgets,
      (∃ level, indentation level ++ positionCall w ∈ lines (p.generate f comments)) ∧
      (IsMoved "origin.x" (offsetText "origin.x" w.pos.x) ↔ ¬KeepsSign w.pos.x) ∧
      (IsMoved "origin.y" (offsetText "origin.y" w.pos.y) ↔ ¬KeepsSign w.pos.y) := by
  refine ⟨forall_not_hasSignPair_iff p f comments, fun w mem => ⟨?_, ?_, ?_⟩⟩
  · exact exists_positionCall mem f comments
  · exact isMoved_offsetText_iff "origin.x" w.pos.x
  · exact isMoved_offsetText_iff "origin.y" w.pos.y

/-- A label whose place is minus zero across, and zero down. -/
def Project.atMinusZero : Project :=
  { widgets := [Session.newWidget 1 .label ⟨.finite true 0 representable_zero, 0⟩ .free] }

/-- Its place is the origin plus minus zero. -/
theorem Project.signs_generate_atMinusZero :
    (∃ line ∈ lines (atMinusZero.generate .single false), HasSignPair line ∧
      ∃ level, line = indentation level ++
        "imgui.set_cursor_screen_pos(imgui.ImVec2(origin.x + -0.0, origin.y + 0.0))") ∧
    ¬IsMoved "origin.x" "origin.x + -0.0" := by
  have keeps : KeepsSign (.finite true 0 representable_zero) := .inl rfl
  have call : positionCall (Session.newWidget 1 .label ⟨.finite true 0 representable_zero, 0⟩
      .free) = "imgui.set_cursor_screen_pos(imgui.ImVec2(origin.x + -0.0, origin.y + 0.0))" := by
    decide +kernel
  have moved : offsetText "origin.x" (.finite true 0 representable_zero) = "origin.x + -0.0" := by
    decide +kernel
  constructor
  · obtain ⟨level, listed⟩ :=
      exists_positionCall (p := atMinusZero) List.mem_cons_self .single false
    refine ⟨_, listed, ?_, level, congrArg _ call⟩
    exact .behind (unpaired_indentation level) (hasSignPair_positionCall (.inl keeps))
  · rw [← moved, isMoved_offsetText_iff]
    exact not_not_intro keeps

end Formwork

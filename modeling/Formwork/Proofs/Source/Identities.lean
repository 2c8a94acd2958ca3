import Formwork.Proofs.Source.Calls
import Mathlib.Data.List.Infix
import Mathlib.Data.List.Sigma

/-!
# Identities of widgets

The drawing library tells items apart by texts, which it takes from the first argument of a call; of
a text with three number signs only the part from the last ones counts (`counted`). `passed` lists
the identities that the lines of a widget pass, the gaps of a pattern filled in from the options that
a loop goes through. A caption, a tag and the identity of a popup end in the id of the widget, and the
identity of an option ends in the id and the position of the option. The options of a menu are told
apart within its popup only; they are passed as they are and stand for no widget.

Whatever a caption or an option says, it stands before the last w of an identity, and there is no
number sign behind that w. So the id can be read off the end of every identity, also of the part
that counts, and the widgets of a design share no identity (`Project.identities_generate`).
-/

set_option autoImplicit false

namespace Formwork

namespace Source

open Stmt (commented linesAll)

/-! ## Passing -/

/-- Text with the gaps between braces filled in; within a gap, the name that was read so far. -/
def filled (item : String) (position : Nat) : Option (List Char) → List Char → List Char
  | none, '{' :: cs => filled item position (some []) cs
  | none, c :: cs => c :: filled item position none cs
  | some name, '}' :: cs =>
    (if name = ['i', 't', 'e', 'm'] then item.toList
      else if name = ['i'] then (natText position).toList
      else []) ++ filled item position none cs
  | some name, c :: cs => filled item position (some (name ++ [c])) cs
  | _, [] => []

/-- The identities that are passed, where the options are those of the last loop. -/
def passedAfter : List String → List Event → List String
  | _, [] => []
  | _, .loop items :: es => passedAfter items es
  | items, .identity s :: es => s :: passedAfter items es
  | items, .pattern s :: es =>
    items.zipIdx.map (fun option => String.ofList (filled option.1 option.2 none s.toList))
      ++ passedAfter items es

/-- The identities that lines of code pass to the drawing library. -/
def passed (lines : List String) : List String := passedAfter [] (events lines)

/-! ## Identities -/

/-- The identity of an option of a widget. -/
def optionId (id : Int) (item : String) (position : Nat) : String :=
  item ++ "##w" ++ intText id ++ "_" ++ natText position

/-- The options that a control tells apart by identities of their own. -/
def namedOptions : Control → List String
  | .radioGroup _ c => shownOptions c.items
  | .tabBar c => c.items
  | _ => []

/-- The identities of a control that are none of its options: captions, tags and popups. -/
def controlIds (id : Int) : Control → List String
  | .menuButton t _ => [captionId t id, popupId id, popupId id]
  | .button t | .checkbox t _ | .slider t _ | .link t | .hyperlink t _ | .selectableLabel t _
  | .comboBox t _ | .collapsingHeader t _ | .angleSelector t _ | .colorPicker t _ | .window t =>
    [captionId t id]
  | .imageTextButton t icon => [captionId (iconCaption t icon) id]
  | .textEdit _ | .textArea _ | .datePicker .. | .password _ | .tree .. | .dragValue .. | .code _
  | .group .. | .scrollBox _ | .tabBar _ | .columns .. => [tagId id]
  | _ => []

/-- The identities of the options of a widget. -/
def optionIds (w : Widget) : List String :=
  (namedOptions w.props.control).zipIdx.map fun option => optionId w.id option.1 option.2

/-- The identities of a widget. -/
def identities (w : Widget) : List String := controlIds w.id w.props.control ++ optionIds w

/-- The part of an identity that counts: from the last three number signs on. -/
def counted (s : String) : String :=
  String.ofList (((s.toList.tails.filter fun t => ['#', '#', '#'].isPrefixOf t).getLast?).getD
    s.toList)

/-! ## Reading the code of a widget -/

/-- What the code of a control says about its options. -/
def optionEvents (id : Int) : Control → List Event
  | .menuButton _ c => [.loop (shownOptions c.items)]
  | .radioGroup _ c => [.loop (shownOptions c.items), .pattern (optionFormat id)]
  | .tabBar c => [.loop c.items, .pattern (optionFormat id)]
  | _ => []

section Controls

variable (id : Int) (size pos : Vec)

theorem saysAll_showText (t : String) : SaysAll [showText t] [] :=
  .quiet (.direct rfl rfl rfl) .nil

/-- A text and what stands behind it, where there is a text. -/
theorem saysAll_showText_line {l : Line} (h : Says l none) (t : String) :
    SaysAll (whereText t [showText t, .line l]) [] :=
  .whereText (.quiet (.direct rfl rfl rfl) (.quiet h .nil)) t

/-- The code of a control names its identities, and goes through its options. -/
theorem saysAll_body (control : Control) : SaysAll (body id size pos control)
    ((controlIds id control).map .identity ++ optionEvents id control) := by
  cases control with
  | label | monospace | small | separator | spinner | progressBar | image =>
    exact .quiet (.direct rfl rfl rfl) .nil
  | heading =>
    exact .quiet (.direct rfl rfl rfl) (.quiet (.direct rfl rfl rfl)
      (.quiet (.direct rfl rfl rfl) .nil))
  | button | imageTextButton | link | hyperlink => exact .naming (.direct rfl rfl rfl) .nil
  | checkbox | selectableLabel | textArea | code =>
    exact .naming (.assigning rfl rfl rfl rfl rfl) .nil
  | slider | comboBox | angleSelector | colorPicker | textEdit | password =>
    exact .quiet (.direct rfl rfl rfl) (.naming (.assigning rfl rfl rfl rfl rfl) .nil)
  | placeholder =>
    exact .quiet (.direct rfl rfl rfl) (.quiet (.direct rfl rfl rfl) (.quiet (.direct rfl rfl rfl)
      (.quiet (.direct rfl rfl rfl) (.quiet (.direct rfl rfl rfl) .nil))))
  | scrollBox =>
    exact .naming (.direct rfl rfl rfl) (.quiet (.direct rfl rfl rfl)
      (.quiet (.direct rfl rfl rfl) .nil))
  | menuButton t c =>
    have code : SaysAll (menuButton id size t c) _ :=
      .block (.direct rfl rfl rfl) (.naming (.direct rfl rfl rfl) .nil)
        (.namingHead (.direct rfl rfl rfl)
          (.namingHead (.direct rfl rfl rfl)
            (.quietHead (.direct rfl rfl rfl) (.quiet (.setting rfl rfl rfl) .nil) .nil)
            (.quiet (.direct rfl rfl rfl) .nil))
          .nil)
    exact code
  | radioGroup t c =>
    exact .after (.whereText (saysAll_showText t) t) (.namingHead (.direct rfl rfl rfl)
      (.namingHead (.direct rfl rfl rfl) (.quiet (.setting rfl rfl rfl) .nil) .nil) .nil)
  | tabBar c =>
    exact .namingHead (.direct rfl rfl rfl)
      (.namingHead (.direct rfl rfl rfl)
        (.namingHead (.direct rfl rfl rfl)
          (.quiet (.setting rfl rfl rfl) (.quiet (.direct rfl rfl rfl) .nil)) .nil)
        (.quiet (.direct rfl rfl rfl) .nil))
      .nil
  | collapsingHeader t b =>
    exact .quiet (.direct rfl rfl rfl) (.naming (.assigning rfl rfl rfl rfl rfl)
      (.quietHead (.condition rfl rfl) (.quiet (.direct rfl rfl rfl) .nil) .nil))
  | datePicker t d =>
    exact .after (saysAll_showText_line (.direct rfl rfl rfl) t)
      (.quiet (.direct rfl rfl rfl) (.naming (.direct rfl rfl rfl)
        (.quietHead (.none (.plain rfl rfl .nil)) (.quiet (.assigning rfl rfl rfl rfl rfl) .nil)
          .nil)))
  | dragValue t r =>
    exact .after (saysAll_showText_line (.direct rfl rfl rfl) t)
      (.quiet (.direct rfl rfl rfl) (.naming (.assigning rfl rfl rfl rfl rfl) .nil))
  | tree t lines =>
    exact .naming (.direct rfl rfl rfl) (.after (.whereText (saysAll_showText t) t)
      (.quiet (.direct rfl rfl rfl) (.quiet (.direct rfl rfl rfl) .nil)))
  | group t horizontal =>
    exact .naming (.direct rfl rfl rfl) (.after (saysAll_showText_line (.direct rfl rfl rfl) t)
      (.comment (.quiet (.direct rfl rfl rfl) .nil)))
  | columns t n =>
    exact .namingHead (.direct rfl rfl rfl)
      (.quietHead (.direct rfl rfl rfl)
        (.quiet (.direct rfl rfl rfl) (.quiet (.direct rfl rfl rfl) .nil))
        (.quiet (.direct rfl rfl rfl) .nil))
      .nil
  | window t =>
    exact .quietHead (.condition rfl rfl)
      (.quiet (.direct rfl rfl rfl) (.quiet (.direct rfl rfl rfl)
        (.naming (.assigning rfl rfl rfl rfl rfl) (.quiet (.direct rfl rfl rfl) .nil))))
      .nil

end Controls

/-- Around a control nothing is said about identities. -/
theorem saysAll_block (w : Widget) : SaysAll (block w)
    ((controlIds w.id w.props.control).map .identity ++ optionEvents w.id w.props.control) := by
  have placed : SaysAll (placement w) [] := by
    unfold placement
    split
    next => exact .nil
    next => exact .quiet (.direct rfl rfl rfl) .nil
  have tooltip : SaysAll (tooltip w.props.tooltip) [] :=
    .whereText (.quiet (.direct rfl rfl rfl) .nil) _
  have before : SaysAll (header w :: placement w
      ++ whereDisabled w.props (.line ["imgui.begin_disabled()"])) [] :=
    (SaysAll.comment placed).append (.whereDisabled (.direct rfl rfl rfl) _)
  have ended : Says ["imgui.end_disabled()"] none := .direct rfl rfl rfl
  have code := ((SaysAll.after before (saysAll_body w.id w.size w.pos w.props.control)).append
    (.whereDisabled ended w.props)).append tooltip
  rw [List.append_nil, List.append_nil] at code
  exact code

theorem filled_append {cs : List Char} (plain : '{' ∉ cs) (item : String) (position : Nat)
    (rest : List Char) :
    filled item position none (cs ++ rest) = cs ++ filled item position none rest := by
  induction cs with
  | nil => rfl
  | cons c cs ih =>
    obtain ⟨first, others⟩ := not_or.1 (mt List.mem_cons.2 plain)
    rw [List.cons_append, filled, ih others, List.cons_append]
    exact Ne.symm first

/-- The pattern of a widget, filled in. -/
theorem filled_optionFormat (id : Int) (item : String) (position : Nat) :
    String.ofList (filled item position none (optionFormat id).toList) =
      optionId id item position := by
  have plain : '{' ∉ (intText id).toList := notMem_intText rfl (by decide)
  have start (cs : List Char) : filled item position none
      ("\x7bitem\x7d##w".toList ++ cs) =
      item.toList ++ ("##w".toList ++ filled item position none cs) := by
    rfl
  have finish : filled item position none "_\x7bi\x7d".toList =
      "_".toList ++ (natText position).toList := by
    show '_' :: ((natText position).toList ++ []) = _
    rw [List.append_nil]
    rfl
  rw [optionFormat, String.toList_append, String.toList_append, List.append_assoc, start,
    filled_append plain, finish, optionId]
  simp only [String.ofList_append, String.ofList_toList, String.append_assoc]

theorem passedAfter_identities (items ids : List String) (es : List Event) :
    passedAfter items (ids.map .identity ++ es) = ids ++ passedAfter items es := by
  induction ids with
  | nil => rfl
  | cons s ids ih => exact congrArg (s :: ·) ih

theorem passedAfter_options (w : Widget) :
    passedAfter [] (optionEvents w.id w.props.control) = optionIds w := by
  have options (items : List String) :
      passedAfter [] [.loop items, .pattern (optionFormat w.id)] =
        items.zipIdx.map fun option => optionId w.id option.1 option.2 := by
    rw [passedAfter, passedAfter, passedAfter, List.append_nil]
    simp only [filled_optionFormat]
  cases control : w.props.control with
  | radioGroup t c | tabBar c => rw [optionIds, control]; exact options _
  | _ => rw [optionIds, control]; rfl

/-- The lines of a widget pass its identities. -/
theorem passed_widgetLines (comments : Bool) (depth : Nat) (w : Widget) :
    passed (widgetLines comments depth w) = identities w := by
  rw [passed, widgetLines, events_of_saysAll ((saysAll_block w).commented comments) depth,
    passedAfter_identities, passedAfter_options, identities]

/-! ## Endings -/

/-- What comes behind the last w. -/
def ending (s : String) : List Char := s.toList.rtakeWhile (· ≠ 'w')

/-- The text ends in these characters behind a w; they are neither a w nor a number sign. -/
structure EndsIn (tail : List Char) (s : String) : Prop where
  split : ∃ start, s.toList = start ++ 'w' :: tail
  letter : 'w' ∉ tail
  sign : '#' ∉ tail

variable {tail : List Char} {s : String}

theorem EndsIn.ending_eq (h : EndsIn tail s) : ending s = tail := by
  obtain ⟨start, split⟩ := h.split
  have other : ∀ c ∈ tail.reverse, decide (c ≠ 'w') = true :=
    fun _ mem => decide_eq_true (ne_of_mem_of_not_mem (List.mem_reverse.1 mem) h.letter)
  rw [ending, split, List.rtakeWhile, List.reverse_append, List.reverse_cons, List.append_assoc,
    List.takeWhile_append_of_pos other, List.singleton_append,
    List.takeWhile_cons_of_neg (by decide), List.append_nil, List.reverse_reverse]

/-- The part that counts has the same ending: it begins with a number sign, and there is none behind
the last w. -/
theorem EndsIn.counted (h : EndsIn tail s) : EndsIn tail (counted s) := by
  refine ⟨?_, h.letter, h.sign⟩
  obtain ⟨start, split⟩ := h.split
  rw [Source.counted, String.toList_ofList]
  cases last : (s.toList.tails.filter fun t => ['#', '#', '#'].isPrefixOf t).getLast? with
  | none => exact ⟨start, split⟩
  | some t =>
    obtain ⟨listed, begins⟩ := List.mem_filter.1 (List.mem_of_getLast? last)
    have sign : '#' ∈ t := (List.isPrefixOf_iff_prefix.1 begins).subset List.mem_cons_self
    have own : 'w' :: tail <:+ s.toList := ⟨start, split.symm⟩
    rcases List.suffix_or_suffix_of_suffix ((List.mem_tails _ _).1 listed) own with inside | around
    · rcases List.mem_cons.1 (inside.subset sign) with same | later
      · cases same
      · exact absurd later h.sign
    · obtain ⟨before, same⟩ := around
      exact ⟨before, same.symm⟩

theorem EndsIn.ending_counted (h : EndsIn tail s) : ending (Source.counted s) = ending s :=
  h.counted.ending_eq.trans h.ending_eq.symm

/-! ## What identities end in -/

theorem endsIn_captionId (t : String) (id : Int) :
    EndsIn (intText id).toList (captionId t id) := by
  refine ⟨⟨t.toList ++ ['#', '#'], ?_⟩, notMem_intText rfl (by decide),
    notMem_intText rfl (by decide)⟩
  rw [captionId, String.toList_append, String.toList_append, List.append_assoc, List.append_assoc]
  rfl

theorem endsIn_popupId (id : Int) : EndsIn (intText id).toList (popupId id) := by
  refine ⟨⟨['p', 'o', 'p', 'u', 'p', '_'], ?_⟩, notMem_intText rfl (by decide),
    notMem_intText rfl (by decide)⟩
  rw [popupId, String.toList_append]
  rfl

/-- What the identity of an option ends in. -/
def optionEnding (id : Int) (position : Nat) : List Char :=
  (intText id).toList ++ '_' :: (natText position).toList

theorem endsIn_optionId (id : Int) (item : String) (position : Nat) :
    EndsIn (optionEnding id position) (optionId id item position) := by
  have other {c : Char} (noDigit : c.isDigit = false) (unsigned : c ≠ '-') (mark : c ≠ '_') :
      c ∉ optionEnding id position := by
    intro mem
    rcases List.mem_append.1 mem with inId | behind
    · exact notMem_intText noDigit unsigned inId
    rcases List.mem_cons.1 behind with same | inPosition
    · exact mark same
    · rw [isDigit_of_mem_natText inPosition] at noDigit
      cases noDigit
  refine ⟨⟨item.toList ++ ['#', '#'], ?_⟩, other rfl (by decide) (by decide),
    other rfl (by decide) (by decide)⟩
  simp only [optionId, optionEnding, String.toList_append, List.append_assoc]
  rfl

theorem eq_popupId_or_captionId {id : Int} {control : Control} (mem : s ∈ controlIds id control) :
    s = popupId id ∨ ∃ t, s = captionId t id := by
  have tag : tagId id = captionId "" id := by
    rw [captionId, String.empty_append]
    rfl
  cases control with
  | menuButton t c =>
    rcases List.mem_cons.1 mem with caption | popup
    · exact .inr ⟨t, caption⟩
    rcases List.mem_cons.1 popup with first | second
    · exact .inl first
    · exact .inl (List.mem_singleton.1 second)
  | button | checkbox | slider | link | hyperlink | selectableLabel | comboBox | collapsingHeader
    | angleSelector | colorPicker | window | imageTextButton =>
    exact .inr ⟨_, List.mem_singleton.1 mem⟩
  | textEdit | textArea | datePicker | password | tree | dragValue | code | group | scrollBox
    | tabBar | columns => exact .inr ⟨"", (List.mem_singleton.1 mem).trans tag⟩
  | _ => cases mem

/-- Every identity of a widget ends in the id of the widget, up to an underscore. -/
theorem exists_endsIn {w : Widget} (mem : s ∈ identities w) :
    ∃ tail, EndsIn tail s ∧ tail.takeWhile (· ≠ '_') = (intText w.id).toList := by
  have digits : ∀ c ∈ (intText w.id).toList, decide (c ≠ '_') = true :=
    fun _ mem => decide_eq_true (ne_of_mem_of_not_mem mem (notMem_intText rfl (by decide)))
  rcases List.mem_append.1 mem with control | own
  · refine ⟨(intText w.id).toList, ?_, List.takeWhile_eq_self_iff.2 digits⟩
    rcases eq_popupId_or_captionId control with rfl | ⟨t, rfl⟩
    · exact endsIn_popupId w.id
    · exact endsIn_captionId t w.id
  · obtain ⟨option, _, rfl⟩ := List.mem_map.1 own
    refine ⟨_, endsIn_optionId w.id option.1 option.2, ?_⟩
    rw [optionEnding, List.takeWhile_append_of_pos digits,
      List.takeWhile_cons_of_neg (by decide), List.append_nil]

/-- Identities with one ending are those of one id. -/
theorem id_eq_of_ending_eq {v w : Widget} {t : String} (hs : s ∈ identities v)
    (ht : t ∈ identities w) (same : ending s = ending t) : v.id = w.id := by
  obtain ⟨_, endS, idS⟩ := exists_endsIn hs
  obtain ⟨_, endT, idT⟩ := exists_endsIn ht
  rw [endS.ending_eq, endT.ending_eq] at same
  exact intText_injective (String.toList_injective (by rw [← idS, ← idT, same]))

/-- Widgets with different ids share no identity, also where only a part of it counts. -/
theorem identities_ne {v w : Widget} {t : String} (apart : v.id ≠ w.id) (hs : s ∈ identities v)
    (ht : t ∈ identities w) : s ≠ t ∧ counted s ≠ counted t := by
  refine ⟨fun same => apart (id_eq_of_ending_eq hs ht (congrArg ending same)), fun same => ?_⟩
  obtain ⟨_, endS, _⟩ := exists_endsIn hs
  obtain ⟨_, endT, _⟩ := exists_endsIn ht
  have endings := congrArg ending same
  rw [endS.ending_counted, endT.ending_counted] at endings
  exact apart (id_eq_of_ending_eq hs ht endings)

/-! ## The options of a widget -/

theorem optionEnding_injective (id : Int) : Function.Injective (optionEnding id) := by
  intro i j same
  have positions := (List.cons.inj (List.append_cancel_left same)).2
  exact natText_injective (String.toList_injective positions)

/-- The options of a widget have different endings, whatever they say. -/
theorem nodup_endings (w : Widget) : ((optionIds w).map ending).Nodup := by
  have endings : (optionIds w).map ending =
      ((namedOptions w.props.control).zipIdx.map Prod.snd).map (optionEnding w.id) := by
    rw [optionIds, List.map_map, List.map_map]
    exact List.map_congr_left fun option _ =>
      (endsIn_optionId w.id option.1 option.2).ending_eq
  rw [endings]
  exact (List.nodup_zipIdx_map_snd _).map (optionEnding_injective w.id)

theorem nodup_optionIds (w : Widget) :
    (optionIds w).Nodup ∧ ((optionIds w).map counted).Nodup := by
  refine ⟨(nodup_endings w).of_map ending, List.Nodup.of_map ending ?_⟩
  have same : ((optionIds w).map counted).map ending = (optionIds w).map ending := by
    rw [List.map_map]
    refine List.map_congr_left fun s mem => ?_
    obtain ⟨_, ends, _⟩ := exists_endsIn (List.mem_append_right _ mem)
    rw [Function.comp_apply, ends.ending_counted]
  rw [same]
  exact nodup_endings w

end Source

open Source in
/-- **Widgets share no identity.** Where the ids of a design are distinct, the lines of a widget
stand in the module and pass the identities of that widget. None of them is an identity of another
widget, and none counts for one where only the part from the last three number signs on counts. The
options of one widget are told apart as well. None of this depends on what captions and options
say. -/
theorem Project.identities_generate (p : Project) (f : Format) (comments : Bool)
    (distinct : p.ids.Nodup) :
    (∀ w ∈ p.widgets,
      (∃ depth, widgetLines comments depth w <:+: Text.lines (p.generate f comments)) ∧
      ∀ depth, passed (widgetLines comments depth w) = identities w) ∧
    p.widgets.Pairwise (fun v w => ∀ s ∈ identities v, ∀ t ∈ identities w,
      s ≠ t ∧ counted s ≠ counted t) ∧
    ∀ w ∈ p.widgets, (optionIds w).Nodup ∧ ((optionIds w).map counted).Nodup := by
  refine ⟨fun w mem => ?_, ?_, fun w _ => nodup_optionIds w⟩
  · exact ⟨exists_infix_generate comments mem f, fun depth => passed_widgetLines comments depth w⟩
  · have apart : p.widgets.Pairwise fun v w => v.id ≠ w.id := List.pairwise_map.1 distinct
    exact apart.imp fun ids s hs t ht => identities_ne ids hs ht

/-- Options that imitate the identities of other widgets and of each other. -/
def Widget.imitatingSizes : Widget :=
  { id := 1, size := ⟨160, 80⟩,
    props := { control := .radioGroup "Size" ⟨["###w2", "S##w1_2", "S"], 0⟩ } }

/-- Captions and options that imitate the identities of other widgets. -/
def Project.imitating : Project :=
  { widgets := [
      .imitatingSizes,
      { id := 2, size := ⟨120, 24⟩, props := { control := .button "Save##w12" } },
      { id := 12, size := ⟨120, 24⟩, props := { control := .checkbox "###w2##w" true } },
      { id := 21, size := ⟨300, 80⟩, area := .left,
        props := { control := .tabBar ⟨["###", "##w1_1", "##w1_1"], 1⟩ } },
      { id := 3, size := ⟨120, 24⟩, area := .top,
        props := { control := .menuButton "popup_w21" ⟨["popup_w3", "##w3"], 0⟩ } }]
    panels := { left := true } }

open Source in
theorem Project.identities_generate_imitating :
    imitating.ids.Nodup ∧
    (∃ depth, widgetLines true depth .imitatingSizes <:+:
      Text.lines (imitating.generate .single true)) ∧
    (∀ depth, passed (widgetLines true depth .imitatingSizes) =
      ["###w2##w1_0", "S##w1_2##w1_1", "S##w1_2"]) ∧
    imitating.widgets.Pairwise (fun v w => ∀ s ∈ identities v, ∀ t ∈ identities w,
      s ≠ t ∧ counted s ≠ counted t) ∧
    (["###w2##w1_0", "S##w1_2##w1_1", "S##w1_2"].map counted).Nodup := by
  have distinct : imitating.ids.Nodup := by decide
  have sizes : optionIds .imitatingSizes = ["###w2##w1_0", "S##w1_2##w1_1", "S##w1_2"] := by
    decide +kernel
  obtain ⟨code, apart, options⟩ := identities_generate imitating .single true distinct
  obtain ⟨part, passes⟩ := code .imitatingSizes List.mem_cons_self
  have own := (options .imitatingSizes List.mem_cons_self).2
  rw [sizes] at own
  exact ⟨distinct, part, fun depth => (passes depth).trans sizes, apart, own⟩

end Formwork

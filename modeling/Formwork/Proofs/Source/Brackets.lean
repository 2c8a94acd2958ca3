import Formwork.Proofs.Outline
import Formwork.Proofs.Source.Accessed

/-!
# Brackets in code

`Brackets.after` follows the brackets of bare code, of all three kinds: what is still to be closed
is a list, innermost first, and a text whose brackets do not nest has no answer. `Brackets.deepest`
is how many are open at once, at the place of the text where that is most.

A text that `Spans` a depth leaves the open brackets as they are, whatever they are, and opens that
many on the way. Values of a design are written with brackets of their own: a vector, a list and a
number that is not finite have them, and a forest opens two for every level below its first
(`encloses_forestText`).
-/

set_option autoImplicit false

namespace Formwork

namespace Text

/-- What closes a bracket. -/
def closer? : Char → Option Char
  | '(' => some ')'
  | '[' => some ']'
  | '{' => some '}'
  | _ => none

def isCloser (c : Char) : Bool := c = ')' || c = ']' || c = '}'

theorem isCloser_of_closer? {o c : Char} (pair : closer? o = some c) :
    isCloser c = true ∧ closer? c = none := by
  unfold closer? at pair
  split at pair
  case h_4 => cases pair
  all_goals
    obtain rfl := Option.some.inj pair
    exact ⟨rfl, rfl⟩

/-- Brackets are quiet, and no colons. -/
theorem isQuiet_of_closer? {o c : Char} (pair : closer? o = some c) :
    (isQuiet o = true ∧ isQuiet c = true) ∧ ':' ≠ o ∧ ':' ≠ c := by
  unfold closer? at pair
  split at pair
  case h_4 => cases pair
  all_goals
    obtain rfl := Option.some.inj pair
    decide

namespace Brackets

/-- What is still to be closed after a character, innermost first. -/
def next (pending : List Char) (c : Char) : Option (List Char) :=
  match closer? c with
  | some d => some (d :: pending)
  | none =>
    if isCloser c then
      match pending with
      | d :: rest => if c = d then some rest else none
      | [] => none
    else some pending

/-- What is still to be closed after a text; nothing is known once a bracket does not fit. -/
def after : List Char → List Char → Option (List Char)
  | pending, [] => some pending
  | pending, c :: cs => (next pending c).bind fun rest => after rest cs

/-- The most brackets that are open at once in a text, as far as they fit. -/
def deepest : List Char → List Char → Nat
  | pending, [] => pending.length
  | pending, c :: cs => max pending.length ((next pending c).elim 0 fun rest => deepest rest cs)

example : after [] "f(a[1], \x7bb: 2\x7d)[".toList = some [']'] := by decide

example : deepest [] "f(a[1], \x7bb: (2)\x7d)".toList = 3 := by decide

variable {p q r cs ds : List Char}

theorem after_append : after p (cs ++ ds) = (after p cs).bind fun q => after q ds := by
  induction cs generalizing p with
  | nil => rfl
  | cons c cs ih =>
    rw [List.cons_append, after, after, Option.bind_assoc]
    exact congrArg _ (funext fun _ => ih)

/-- What comes after a text finds the brackets open that the text has left open. -/
theorem after_append_of (h : after p cs = some q) (ds : List Char) :
    after p (cs ++ ds) = after q ds := by
  rw [after_append, h]
  rfl

theorem exists_after_of_append (h : after p (cs ++ ds) = some r) :
    ∃ q, after p cs = some q ∧ after q ds = some r := by
  rw [after_append] at h
  exact Option.bind_eq_some_iff.1 h

theorem length_le_deepest (p cs : List Char) : p.length ≤ deepest p cs := by
  cases cs with
  | nil => exact Nat.le_refl _
  | cons c cs => exact Nat.le_max_left _ _

theorem deepest_append (h : after p cs = some q) (ds : List Char) :
    deepest p (cs ++ ds) = max (deepest p cs) (deepest q ds) := by
  induction cs generalizing p with
  | nil =>
    obtain rfl := Option.some.inj h
    exact (Nat.max_eq_right (length_le_deepest p ds)).symm
  | cons c cs ih =>
    obtain ⟨rest, step, later⟩ := Option.bind_eq_some_iff.1 h
    rw [List.cons_append, deepest, deepest, step]
    simp only [Option.elim]
    rw [ih later, Nat.max_assoc]

/-- Nowhere in a text more brackets are open than where it is deepest. -/
theorem length_le_deepest_of_isPrefix (part : cs <+: ds) (h : after p cs = some q) :
    q.length ≤ deepest p ds := by
  obtain ⟨rest, rfl⟩ := part
  rw [deepest_append h]
  exact Nat.le_trans (length_le_deepest q rest) (Nat.le_max_right _ _)

/-- Somewhere in a text as many brackets are open as where it is deepest. -/
theorem exists_prefix_deepest (p ds : List Char) :
    ∃ cs q, cs <+: ds ∧ after p cs = some q ∧ q.length = deepest p ds := by
  induction ds generalizing p with
  | nil => exact ⟨[], p, List.nil_prefix, rfl, rfl⟩
  | cons c ds ih =>
    have here (most : deepest p (c :: ds) = p.length) :
        ∃ cs q, cs <+: c :: ds ∧ after p cs = some q ∧ q.length = deepest p (c :: ds) :=
      ⟨[], p, List.nil_prefix, rfl, most.symm⟩
    cases step : next p c with
    | none =>
      refine here ?_
      rw [deepest, step]
      exact Nat.max_zero _
    | some rest =>
      rcases Nat.le_total (deepest rest ds) p.length with shallow | deep
      · refine here ?_
        rw [deepest, step]
        exact Nat.max_eq_left shallow
      · obtain ⟨cs, q, part, reached, length⟩ := ih rest
        refine ⟨c :: cs, q, List.cons_prefix_cons.2 ⟨rfl, part⟩, ?_, ?_⟩
        · rw [after, step]
          exact reached
        · rw [deepest, step, length]
          exact (Nat.max_eq_right deep).symm

/-- A text is as deep as it is at most anywhere. -/
theorem deepest_le_iff {n : Nat} :
    deepest p ds ≤ n ↔ ∀ cs q, cs <+: ds → after p cs = some q → q.length ≤ n := by
  constructor
  · exact fun bound cs q part h => Nat.le_trans (length_le_deepest_of_isPrefix part h) bound
  · intro bound
    obtain ⟨cs, q, part, reached, length⟩ := exists_prefix_deepest p ds
    rw [← length]
    exact bound cs q part reached

/-- What is still to be closed after a text, if no more than `bound` brackets are open anywhere in
it. -/
def afterWithin (bound : Nat) : List Char → List Char → Option (List Char)
  | pending, [] => if pending.length ≤ bound then some pending else none
  | pending, c :: cs =>
    if pending.length ≤ bound then (next pending c).bind fun rest => afterWithin bound rest cs
    else none

theorem of_afterWithin {bound : Nat} (h : afterWithin bound p cs = some q) :
    after p cs = some q ∧ deepest p cs ≤ bound := by
  induction cs generalizing p with
  | nil =>
    obtain ⟨few, same⟩ := Option.ite_none_right_eq_some.1 h
    exact ⟨same, few⟩
  | cons c cs ih =>
    obtain ⟨few, reached⟩ := Option.ite_none_right_eq_some.1 h
    obtain ⟨rest, step, later⟩ := Option.bind_eq_some_iff.1 reached
    obtain ⟨same, shallow⟩ := ih later
    rw [after, deepest, step]
    exact ⟨same, Nat.max_le.2 ⟨few, shallow⟩⟩

/-! ## Texts that close what they open -/

/-- The text leaves the open brackets as they are and opens that many more on the way. -/
def Spans (depth : Nat) (cs : List Char) : Prop :=
  ∀ p, after p cs = some p ∧ deepest p cs = p.length + depth

/-- Is the character no bracket? -/
def isPlain (c : Char) : Bool := (closer? c).isNone && !isCloser c

theorem next_of_isPlain {c : Char} (plain : isPlain c = true) (p : List Char) :
    next p c = some p := by
  obtain ⟨opens, closes⟩ := Bool.and_eq_true_iff.1 plain
  rw [Bool.not_eq_true'] at closes
  simp only [next, Option.isNone_iff_eq_none.1 opens, closes, Bool.false_eq_true, if_false]

namespace Spans

variable {m n : Nat}

theorem plain (h : ∀ c ∈ cs, isPlain c = true) : Spans 0 cs := by
  intro p
  induction cs with
  | nil => exact ⟨rfl, rfl⟩
  | cons c cs ih =>
    have same := next_of_isPlain (h c List.mem_cons_self) p
    obtain ⟨reached, deep⟩ := ih fun d hd => h d (List.mem_cons_of_mem c hd)
    rw [after, deepest, same]
    exact ⟨reached, (congrArg (max p.length) deep).trans (Nat.max_self p.length)⟩

theorem append (hc : Spans m cs) (hd : Spans n ds) : Spans (max m n) (cs ++ ds) := by
  intro p
  obtain ⟨reached, deep⟩ := hc p
  rw [after_append_of reached, deepest_append reached, deep, (hd p).2, Nat.add_max_add_left]
  exact ⟨(hd p).1, rfl⟩

/-- A bracket around a text adds one to its depth. -/
theorem enclosed {o c : Char} (pair : closer? o = some c) (h : Spans n cs) :
    Spans (n + 1) (o :: (cs ++ [c])) := by
  intro p
  obtain ⟨closing, closes⟩ := isCloser_of_closer? pair
  have opened : next p o = some (c :: p) := by simp only [next, pair]
  have closed : next (c :: p) c = some p := by simp only [next, closes, closing, if_true]
  obtain ⟨reached, deep⟩ := h (c :: p)
  have last : after (c :: p) [c] = some p := by
    rw [after, closed]
    rfl
  have shallow : deepest (c :: p) [c] = p.length + 1 := by
    rw [deepest, closed]
    exact Nat.max_eq_left (Nat.le_succ _)
  have whole : deepest p (o :: (cs ++ [c])) = p.length + (n + 1) := by
    rw [deepest, opened]
    simp only [Option.elim]
    rw [deepest_append reached, deep, shallow, List.length_cons]
    omega
  refine ⟨?_, whole⟩
  rw [after, opened, Option.bind_some, after_append_of reached, last]

end Spans

end Brackets

/-! ## Values -/

/-- A text that can stand for a value in a line of code: after it a scanner is in code, the brackets
of its bare code are closed again and it opens so many of them, and no colon is among it. -/
structure Encloses (depth : Nat) (s : String) : Prop where
  closed : Closed s
  spans : Brackets.Spans depth (bare s)
  colonless : ':' ∉ bare s

/-- Quiet characters that are neither brackets nor colons. -/
def isSimple (c : Char) : Bool := isQuiet c && Brackets.isPlain c && c ≠ ':'

/-- Does the text open one bracket of the kind, with its last character? -/
def opensWith (o : Char) (cs : List Char) : Bool :=
  cs.dropLast.all isSimple && cs = cs.dropLast ++ [o]

namespace Encloses

variable {m n : Nat} {s t : String}

theorem of_quiet (quiet : Quiet s) (spans : Brackets.Spans n s.toList) (colonless : ':' ∉ s.toList) :
    Encloses n s := by
  rw [← quiet.bare_eq] at spans colonless
  exact ⟨quiet.closed, spans, colonless⟩

theorem simple (h : ∀ c ∈ s.toList, isSimple c = true) : Encloses 0 s := by
  have parts {c : Char} (hc : c ∈ s.toList) :
      (isQuiet c = true ∧ Brackets.isPlain c = true) ∧ c ≠ ':' := by
    simpa only [isSimple, Bool.and_eq_true, decide_eq_true_eq] using h c hc
  exact of_quiet (fun c hc => (parts hc).1.1) (.plain fun c hc => (parts hc).1.2)
    fun mem => (parts mem).2 rfl

theorem chars (cs : List Char) (h : cs.all isSimple = true) : Encloses 0 (String.ofList cs) := by
  refine simple fun c hc => ?_
  rw [String.toList_ofList] at hc
  exact List.all_eq_true.1 h c hc

theorem of_isNumeral (h : IsNumeral s) : Encloses 0 s := simple (h.forall_mem (by decide))

theorem append (hs : Encloses m s) (ht : Encloses n t) : Encloses (max m n) (s ++ t) where
  closed := hs.closed.append ht.closed
  spans := by
    rw [bare_append hs.closed]
    exact hs.spans.append ht.spans
  colonless := by
    rw [bare_append hs.closed, List.mem_append]
    exact not_or.2 ⟨hs.colonless, ht.colonless⟩

/-- What has no brackets adds no depth. -/
theorem append_simple (hs : Encloses n s) (ht : Encloses 0 t) : Encloses n (s ++ t) :=
  Nat.max_zero n ▸ hs.append ht

theorem simple_append (hs : Encloses 0 s) (ht : Encloses n t) : Encloses n (s ++ t) :=
  Nat.zero_max n ▸ hs.append ht

theorem quote (s : String) : Encloses 0 (Literal.quote s) where
  closed := (Literal.bare_quote s).1
  spans := by
    rw [(Literal.bare_quote s).2]
    refine .plain fun c hc => ?_
    obtain rfl : c = '"' := by simpa using hc
    rfl
  colonless := by
    rw [(Literal.bare_quote s).2]
    decide

/-- Only the bracket that stands last in front of a text is open in the text. -/
theorem enclosed {o c : Char} (front : List Char) (opens : opensWith o front = true)
    (pair : closer? o = some c) (h : Encloses n s) :
    Encloses (n + 1) (String.ofList front ++ s ++ String.ofList [c]) := by
  obtain ⟨⟨quietOpener, quietCloser⟩, opener, closer⟩ := isQuiet_of_closer? pair
  rw [opensWith, Bool.and_eq_true, decide_eq_true_eq] at opens
  obtain ⟨name, text⟩ := opens
  have start : Encloses 0 (String.ofList front.dropLast) := .chars _ name
  have left : Quiet (String.ofList [o]) := .chars [o] (by rw [List.all_cons, quietOpener]; rfl)
  have right : Quiet (String.ofList [c]) := .chars [c] (by rw [List.all_cons, quietCloser]; rfl)
  have around : Encloses (n + 1) (String.ofList [o] ++ s ++ String.ofList [c]) := by
    have code : bare (String.ofList [o] ++ s ++ String.ofList [c]) = o :: (bare s ++ [c]) := by
      rw [String.append_assoc, bare_append left.closed, bare_append h.closed, left.bare_eq,
        right.bare_eq, String.toList_ofList, String.toList_ofList]
      rfl
    refine ⟨(left.closed.append h.closed).append right.closed, ?_, ?_⟩
    · rw [code]
      exact .enclosed pair h.spans
    · rw [code, List.mem_cons, List.mem_append, List.mem_singleton]
      exact not_or.2 ⟨opener, not_or.2 ⟨h.colonless, closer⟩⟩
  have joined := start.simple_append around
  rwa [← String.append_assoc, ← String.append_assoc, ← String.ofList_append, ← text] at joined

theorem intercalate {separator : String} {ds : List Nat} {ss : List String}
    (hs : Encloses 0 separator) (h : List.Forall₂ Encloses ds ss) :
    Encloses (ds.foldr max 0) (separator.intercalate ss) := by
  induction h with
  | nil => exact chars [] rfl
  | @cons d s ds ss first rest ih =>
    rw [List.foldr_cons]
    cases rest with
    | nil =>
      rw [String.intercalate_singleton, List.foldr_nil, Nat.max_zero]
      exact first
    | cons second rest =>
      rw [String.intercalate_cons_cons]
      exact (first.append_simple hs).append ih

/-- Texts without brackets stay so when they are joined. -/
theorem intercalate_simple {separator : String} {ss : List String} (hs : Encloses 0 separator)
    (h : ∀ s ∈ ss, Encloses 0 s) : Encloses 0 (separator.intercalate ss) := by
  have depths : List.Forall₂ Encloses (ss.map fun _ => 0) ss := by
    rw [List.forall₂_map_left_iff, List.forall₂_same]
    exact h
  have zero : (ss.map fun _ => 0).foldr max 0 = 0 := by
    clear h depths
    induction ss with
    | nil => rfl
    | cons s ss ih => rw [List.map_cons, List.foldr_cons, ih, Nat.max_self]
  exact zero ▸ intercalate hs depths

end Encloses

end Text

open Text (Encloses)

namespace Source

/-- A number that is not finite is a call. -/
theorem encloses_numberText (places : Nat) (x : Binary64) :
    ∃ n ≤ 1, Encloses n (numberText places x) := by
  have call (front : List Char) (opens : Text.opensWith '(' front = true) (s : String) :
      Encloses 1 (String.ofList front ++ Text.Literal.quote s ++ String.ofList [')']) :=
    .enclosed front opens rfl (.quote s)
  cases x with
  | nan => exact ⟨1, Nat.le_refl 1, call _ rfl _⟩
  | infinite negative =>
    cases negative with
    | false => exact ⟨1, Nat.le_refl 1, call _ rfl _⟩
    | true => exact ⟨1, Nat.le_refl 1, call _ rfl _⟩
  | finite negative u _ =>
    exact ⟨0, Nat.zero_le 1, .of_isNumeral (isNumeral_fixedText places negative u)⟩

theorem encloses_vectorText (v : Vec) : ∃ n ≤ 2, Encloses n (vectorText v) := by
  obtain ⟨m, hm, x⟩ := encloses_numberText 1 v.x
  obtain ⟨n, hn, y⟩ := encloses_numberText 1 v.y
  have both := (x.append_simple (.chars _ rfl : Encloses 0 ", ")).append y
  have call : Encloses (max m n + 1) ("imgui.ImVec2(" ++ _ ++ ")") :=
    .enclosed (o := '(') _ rfl rfl both
  rw [← String.append_assoc, ← String.append_assoc] at call
  exact ⟨max m n + 1, by omega, call⟩

theorem encloses_offsetText {base : String} (h : Encloses 0 base) (x : Binary64) :
    ∃ n ≤ 1, Encloses n (offsetText base x) := by
  unfold offsetText
  split
  next =>
    obtain ⟨n, hn, number⟩ := encloses_numberText 1 x.neg
    exact ⟨n, hn, (h.append_simple (.chars _ rfl)).simple_append number⟩
  next =>
    obtain ⟨n, hn, number⟩ := encloses_numberText 1 x
    exact ⟨n, hn, (h.append_simple (.chars _ rfl)).simple_append number⟩

theorem encloses_listText {ds : List Nat} {ss : List String} (h : List.Forall₂ Encloses ds ss) :
    Encloses (ds.foldr max 0 + 1) (listText ss) :=
  .enclosed (o := '[') _ rfl rfl (.intercalate (.chars _ rfl) h)

/-- Items without brackets make a list of depth one. -/
theorem encloses_listText_simple {ss : List String} (h : ∀ s ∈ ss, Encloses 0 s) :
    Encloses 1 (listText ss) :=
  .enclosed (o := '[') _ rfl rfl (.intercalate_simple (.chars _ rfl) h)

/-- The deepest of trees is the highest one. -/
private theorem foldr_max_depths (hs : List Nat) :
    (hs.map fun h => 2 * h - 1).foldr max 0 = 2 * hs.foldr max 0 - 1 := by
  induction hs with
  | nil => rfl
  | cons h hs ih =>
    rw [List.map_cons, List.foldr_cons, List.foldr_cons, ih]
    omega

mutual

private theorem encloses_fold : ∀ n : Node, Encloses (2 * n.height - 1) (n.fold nodeText)
  | .node label [] => .enclosed (o := '(') _ rfl rfl (.quote label)
  | .node label (n :: ns) => by
    have labelled := (Encloses.quote label).append_simple (.chars _ rfl : Encloses 0 ", ")
    have children := encloses_listText (encloses_foldAll (n :: ns))
    have call : Encloses _ ("GenTreeNode(" ++ _ ++ ")") :=
      .enclosed (o := '(') _ rfl rfl (labelled.simple_append children)
    have depth : 2 * (Node.node label (n :: ns)).height - 1 =
        2 * Node.heightAll (n :: ns) - 1 + 1 + 1 := by
      have pos := n.height_pos
      rw [Node.height_node, Node.heightAll_cons]
      omega
    rw [foldr_max_depths, ← String.append_assoc, ← String.append_assoc] at call
    rw [depth]
    exact call

private theorem encloses_foldAll : ∀ ns : List Node,
    List.Forall₂ Encloses ((ns.map Node.height).map fun h => 2 * h - 1) (Node.foldAll nodeText ns)
  | [] => .nil
  | n :: ns => .cons (encloses_fold n) (encloses_foldAll ns)

end

/-- A forest is a list in which every level opens two brackets, but for the last one, which opens
a single one. -/
theorem encloses_forestText (trees : List Node) :
    Encloses (2 * Node.heightAll trees - 1 + 1) (forestText trees) := by
  rw [Node.heightAll, ← foldr_max_depths]
  exact encloses_listText (encloses_foldAll trees)

theorem encloses_slotName (s : Slot) : Encloses 0 s.name := by
  cases s with
  | panel p =>
    cases p <;> exact Encloses.append (.chars _ rfl) (.chars _ rfl)
  | widget stem id =>
    have start : Encloses 0 stem.start := by cases stem <;> exact .chars _ rfl
    have finish : Encloses 0 stem.finish := by cases stem <;> exact .chars _ rfl
    exact (start.append (.of_isNumeral (isNumeral_intText id))).append finish

theorem encloses_channelsText (channels : List Int) : Encloses 1 (channelsText channels) := by
  refine encloses_listText_simple fun s hs => ?_
  obtain ⟨c, _, rfl⟩ := List.mem_map.1 hs
  exact (Encloses.of_isNumeral (isNumeral_intText c)).append (.chars _ rfl)

/-- What a design puts into a line of code opens two brackets at most, unless it is a forest. -/
theorem Piece.exists_encloses {p : Piece} (code : ∀ s, p ≠ .code s) (trees : ∀ ts, p ≠ .forest ts)
    (moved : ∀ base x, p = .offset base x → Encloses 0 base) : ∃ n ≤ 2, Encloses n p.render := by
  cases p with
  | code s => exact absurd rfl (code s)
  | text s => exact ⟨0, by decide, .quote s⟩
  | number x places =>
    obtain ⟨n, hn, number⟩ := encloses_numberText places x
    exact ⟨n, Nat.le_trans hn (by decide), number⟩
  | integer n => exact ⟨0, by decide, .of_isNumeral (isNumeral_intText n)⟩
  | flag b => exact ⟨0, by decide, by cases b <;> exact .chars _ rfl⟩
  | vector v => exact encloses_vectorText v
  | offset base x =>
    obtain ⟨n, hn, sum⟩ := encloses_offsetText (moved base x rfl) x
    exact ⟨n, Nat.le_trans hn (by decide), sum⟩
  | texts items =>
    refine ⟨1, by decide, encloses_listText_simple fun s hs => ?_⟩
    obtain ⟨item, _, rfl⟩ := List.mem_map.1 hs
    exact .quote item
  | forest ts => exact absurd rfl (trees ts)
  | slot s => exact ⟨0, by decide, encloses_slotName s⟩

end Source

end Formwork

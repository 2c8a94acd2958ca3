import Formwork.Proofs.Source.Values

/-!
# Accesses of the state record

A generated program reads and writes its state as `state.name`. `accessed` lists the names that
stand after this mark in bare code, wherever the mark occurs, be it the end of a longer word.

Text does not compose under this reading either: the mark may begin in one text and end in the
next. In a sealed text no occurrence of the mark begins, not even one that goes on behind the text,
so it can be skipped (`accessed_append`). Whatever a design puts into a line of code is `Inert`: the
scanner is in code after it, its bare code is sealed, and it does not break the line.
-/

set_option autoImplicit false

namespace Formwork

namespace Text

/-- What stands before the name of a field where it is used. -/
def stateMark : List Char := ['s', 't', 'a', 't', 'e', '.']

/-- May the character be part of a name? -/
def isNameChar (c : Char) : Bool := c.isAlphanum || c = '_'

/-- The names that stand after the mark, in the order of the text. -/
def accessed : List Char → List String
  | [] => []
  | c :: cs =>
    if stateMark.isPrefixOf (c :: cs) then
      String.ofList (((c :: cs).drop stateMark.length).takeWhile isNameChar) :: accessed cs
    else accessed cs

example : accessed "f(state.a, mystate.b_1, state)".toList = ["a", "b_1"] := by decide

/-- Does no occurrence of the mark begin in the text, whatever comes behind it? -/
def isSealed : List Char → Bool
  | [] => true
  | c :: cs =>
    !stateMark.isPrefixOf (c :: cs) && !(c :: cs).isPrefixOf stateMark && isSealed cs

theorem isSealed_cons {c : Char} {cs : List Char} : isSealed (c :: cs) = true ↔
    (¬ stateMark <+: c :: cs ∧ ¬ c :: cs <+: stateMark) ∧ isSealed cs = true := by
  simp only [isSealed, Bool.and_eq_true, Bool.not_eq_true', ← Bool.not_eq_true,
    List.isPrefixOf_iff_prefix]

/-- Two texts that begin the same text begin alike. -/
private theorem not_mark_prefix_append {cs ds : List Char} (other : ¬ stateMark <+: cs)
    (open' : ¬ cs <+: stateMark) : ¬ stateMark <+: cs ++ ds := by
  intro mark
  rcases List.prefix_or_prefix_of_prefix mark (List.prefix_append cs ds) with begins | goes
  · exact other begins
  · exact open' goes

/-- A sealed text is skipped. -/
theorem accessed_append {cs : List Char} (closed : isSealed cs = true) (ds : List Char) :
    accessed (cs ++ ds) = accessed ds := by
  induction cs with
  | nil => rfl
  | cons c cs ih =>
    obtain ⟨⟨other, open'⟩, rest⟩ := isSealed_cons.1 closed
    have none : ¬ stateMark <+: c :: cs ++ ds := not_mark_prefix_append other open'
    rw [List.cons_append] at none ⊢
    rw [accessed, if_neg (mt List.isPrefixOf_iff_prefix.1 none), ih rest]

theorem isSealed_append {cs ds : List Char} (hc : isSealed cs = true) (hd : isSealed ds = true) :
    isSealed (cs ++ ds) = true := by
  induction cs with
  | nil => exact hd
  | cons c cs ih =>
    obtain ⟨⟨other, open'⟩, rest⟩ := isSealed_cons.1 hc
    refine isSealed_cons.2 ⟨⟨not_mark_prefix_append other open', fun goes => ?_⟩, ih rest⟩
    exact open' ((List.prefix_append (c :: cs) ds).trans goes)

/-- The mark begins with an `s`. -/
theorem isSealed_of_not_mem {cs : List Char} (none : 's' ∉ cs) : isSealed cs = true := by
  induction cs with
  | nil => rfl
  | cons c cs ih =>
    obtain ⟨first, rest⟩ := not_or.1 (mt List.mem_cons.2 none)
    refine isSealed_cons.2 ⟨⟨fun mark => ?_, fun begins => ?_⟩, ih rest⟩
    · exact first (List.cons_prefix_cons.1 mark).1
    · exact first (List.cons_prefix_cons.1 begins).1.symm

/-- Does the mark stand nowhere in the text? It may begin in it and end behind it. -/
def isUnmarked : List Char → Bool
  | [] => true
  | c :: cs => !stateMark.isPrefixOf (c :: cs) && isUnmarked cs

/-- Does the character end a name, so that no mark goes on with it? -/
def isStop (c : Char) : Bool := !isNameChar c && c ≠ '.'

/-- An unmarked text is skipped when a mark that begins in it would have to go on with a character
that no mark goes on with. -/
theorem accessed_append_stop {cs : List Char} (unmarked : isUnmarked cs = true) {d : Char}
    (stop : isStop d = true) (ds : List Char) :
    accessed (cs ++ d :: ds) = accessed (d :: ds) := by
  induction cs with
  | nil => rfl
  | cons c cs ih =>
    rw [isUnmarked, Bool.and_eq_true, Bool.not_eq_true', ← Bool.not_eq_true,
      List.isPrefixOf_iff_prefix] at unmarked
    have none : ¬ stateMark <+: c :: cs ++ d :: ds := by
      intro mark
      rcases List.prefix_or_prefix_of_prefix mark (List.prefix_append (c :: cs) (d :: ds)) with
        within | beyond
      · exact unmarked.1 within
      · -- The mark goes on behind the text, so it has the stop in it.
        obtain ⟨rest, split⟩ := beyond
        rw [← split, List.prefix_append_right_inj] at mark
        cases rest with
        | nil => exact unmarked.1 ⟨[], by rw [← split, List.append_nil, List.append_nil]⟩
        | cons e rest =>
          have same : e = d := (List.cons_prefix_cons.1 mark).1
          have inMark : d ∈ stateMark := by
            rw [← split, ← same]
            exact List.mem_append_right _ List.mem_cons_self
          have goes : stateMark.all (fun e => !isStop e) = true := rfl
          have none := List.all_eq_true.1 goes d inMark
          rw [stop] at none
          cases none
    rw [List.cons_append] at none ⊢
    rw [accessed, if_neg (mt List.isPrefixOf_iff_prefix.1 none), ih unmarked.2]

/-- After the mark there is a name. -/
theorem accessed_mark_append (cs : List Char) :
    accessed (stateMark ++ cs) = String.ofList (cs.takeWhile isNameChar) :: accessed cs := by
  have tail : isSealed stateMark.tail = true := by decide
  have mark : stateMark.isPrefixOf ('s' :: (stateMark.tail ++ cs)) = true :=
    List.isPrefixOf_iff_prefix.2 (List.prefix_append stateMark cs)
  show accessed ('s' :: (stateMark.tail ++ cs)) = _
  rw [accessed, if_pos mark, accessed_append tail]
  rfl

/-! ## Inert text -/

/-- Text that stands in a line of code and begins no access. -/
structure Inert (s : String) : Prop where
  closed : Closed s
  bare_sealed : isSealed (bare s) = true
  unbroken : Unbroken s

namespace Inert

theorem of_quiet {s : String} (quiet : Quiet s) (closed : isSealed s.toList = true) : Inert s :=
  ⟨quiet.closed, quiet.bare_eq ▸ closed, quiet.unbroken⟩

theorem chars (cs : List Char) (h : (cs.all isQuiet && isSealed cs) = true) :
    Inert (String.ofList cs) := by
  obtain ⟨quiet, closed⟩ := Bool.and_eq_true_iff.1 h
  refine of_quiet (.chars cs quiet) ?_
  rwa [String.toList_ofList]

theorem append {s t : String} (hs : Inert s) (ht : Inert t) : Inert (s ++ t) where
  closed := hs.closed.append ht.closed
  bare_sealed := by
    rw [bare_append hs.closed]
    exact isSealed_append hs.bare_sealed ht.bare_sealed
  unbroken := hs.unbroken.append ht.unbroken

theorem of_composed {marks : List Char} {s : String} (h : Composed marks s)
    (none : ('"' :: marks).contains 's' = false) : Inert s where
  closed := h.closed
  bare_sealed := isSealed_of_not_mem fun mem => by
    rw [List.contains_iff_mem.2 (h.bare_mem _ mem)] at none
    cases none
  unbroken := h.unbroken

theorem intercalate {separator : String} {ss : List String} (hs : Inert separator)
    (h : ∀ s ∈ ss, Inert s) : Inert (separator.intercalate ss) :=
  intercalate_of_append (chars [] rfl) append hs h

end Inert

end Text

open Text (Inert Composed)

namespace Source

theorem inert_of_value {s : String} (h : Composed valueMarks s) : Inert s :=
  .of_composed h (by decide)

theorem inert_offsetText {base : String} (h : Inert base) (x : Binary64) :
    Inert (offsetText base x) := by
  obtain ⟨moved, text, value⟩ := offsetText_eq_append base x
  rw [text]
  exact h.append (inert_of_value value)

theorem inert_slotName (s : Slot) : Inert s.name := by
  cases s with
  | panel p =>
    cases p <;> exact Inert.append (.chars _ rfl) (.chars _ rfl)
  | widget stem id =>
    have start : Inert stem.start := by cases stem <;> exact .chars _ rfl
    have finish : Inert stem.finish := by cases stem <;> exact .chars _ rfl
    exact (start.append (inert_of_value (composed_intText id))).append finish

/-- What a design puts into a line of code is inert. -/
theorem Piece.inert_render {p : Piece} (h : ∀ s, p = .code s → Inert s)
    (moved : ∀ base x, p = .offset base x → Inert base) : Inert p.render := by
  cases p with
  | code s => exact h s rfl
  | text s => exact inert_of_value (.quote s)
  | number x places => exact inert_of_value (composed_numberText places x)
  | integer n => exact inert_of_value (composed_intText n)
  | flag b => cases b <;> exact .chars _ rfl
  | vector v => exact inert_of_value (composed_vectorText v)
  | offset base x => exact inert_offsetText (moved base x rfl) x
  | texts items => exact inert_of_value (composed_texts items)
  | forest trees => exact .of_composed (composed_forestText trees) (by decide)
  | slot s => exact inert_slotName s

end Source

end Formwork

import Formwork.Proofs.Source.Bare

/-!
# Sign pairs

A plus sign, a blank and a minus sign in a row are a sign pair. Nothing is wrong with one inside a
literal, so a text has a sign pair if its skeleton has one (`HasSignPair`).

Whether it has is seen in one reading from the left: `Trail` says how much of a pair the text so far
ends in, and reading stops where a pair is complete (`Trail.after_eq_none_iff`). Text that leaves no
trail, and no open literal, is `Unpaired`. Such texts compose, unlike those that merely have no sign
pair: a plus sign and a blank may come before a minus sign.
-/

set_option autoImplicit false

namespace Formwork.Text

/-- The characters of a sign pair. -/
def signPair : List Char := ['+', ' ', '-']

/-- How much of a sign pair a text ends in. -/
inductive Trail where
  | clear
  | plus
  | blank
  deriving DecidableEq

namespace Trail

/-- The characters that a trail consists of. -/
def seen : Trail → List Char
  | clear => []
  | plus => ['+']
  | blank => ['+', ' ']

/-- The trail after one more character, nothing where that completes a pair. -/
def next : Trail → Char → Option Trail
  | clear, c => if c = '+' then some plus else some clear
  | plus, c => if c = '+' then some plus else if c = ' ' then some blank else some clear
  | blank, c => if c = '+' then some plus else if c = '-' then none else some clear

/-- The trail after a text, nothing where a pair is completed in it. -/
def after : Trail → List Char → Option Trail
  | t, [] => some t
  | t, c :: cs => (t.next c).bind fun u => u.after cs

theorem after_append (t : Trail) (cs ds : List Char) :
    t.after (cs ++ ds) = (t.after cs).bind fun u => u.after ds := by
  induction cs generalizing t with
  | nil => rfl
  | cons c cs ih =>
    rw [List.cons_append, after, after]
    cases t.next c with
    | none => rfl
    | some u => exact ih u

/-- A character that is read in front of a text completes a pair, or its trail takes its place. -/
theorem infix_seen_cons (t : Trail) (c : Char) (cs : List Char) :
    signPair <:+: t.seen ++ c :: cs ↔ ∀ u, t.next c = some u → signPair <:+: u.seen ++ cs := by
  have begins (d e : Char) (ds es : List Char) : d :: ds <+: e :: es ↔ e = d ∧ ds <+: es := by
    rw [List.cons_prefix_cons, eq_comm]
  cases t <;> rw [next] <;> split_ifs <;> simp [*, signPair, seen, List.infix_cons_iff]

/-- Reading stops exactly where the text has a pair, be it begun before the text. -/
theorem after_eq_none_iff (t : Trail) (cs : List Char) :
    t.after cs = none ↔ signPair <:+: t.seen ++ cs := by
  induction cs generalizing t with
  | nil => cases t <;> decide
  | cons c cs ih =>
    rw [infix_seen_cons, after]
    cases step : t.next c with
    | none => exact ⟨fun _ => nofun, fun _ => rfl⟩
    | some u =>
      rw [Option.bind_some, ih u]
      exact ⟨fun h v same => Option.some.inj same ▸ h, fun h => h u rfl⟩

/-- A text without a plus sign leaves no trail. -/
theorem after_of_not_mem {cs : List Char} (none : '+' ∉ cs) : clear.after cs = some clear := by
  induction cs with
  | nil => rfl
  | cons c cs ih =>
    obtain ⟨first, rest⟩ := not_or.1 (mt List.mem_cons.2 none)
    rw [after, next, if_neg (Ne.symm first)]
    exact ih rest

/-- After a plus sign and a blank, a text that begins with no sign is read like any text. -/
theorem after_blank {c : Char} (plus : c ≠ '+') (minus : c ≠ '-') (cs : List Char) :
    blank.after (c :: cs) = clear.after (c :: cs) := by
  rw [after, after, next, next, if_neg plus, if_neg minus, if_neg plus]

end Trail

/-- The text has a sign pair outside its literals. -/
def HasSignPair (s : String) : Prop := signPair <:+: (skeleton s).toList

instance (s : String) : Decidable (HasSignPair s) :=
  inferInstanceAs (Decidable (signPair <:+: (skeleton s).toList))

/-- What a text leaves to the text after it. -/
def trail (s : String) : Option Trail := Trail.clear.after (skeleton s).toList

theorem hasSignPair_iff {s : String} : HasSignPair s ↔ trail s = none := by
  rw [HasSignPair, trail, Trail.after_eq_none_iff, Trail.seen, List.nil_append]

theorem trail_append {s : String} (whole : Whole s) (t : String) :
    trail (s ++ t) = (trail s).bind fun u => u.after (skeleton t).toList := by
  rw [trail, skeleton_append whole, String.toList_append, Trail.after_append]
  rfl

/-- A text without an open literal, without a sign pair and without the beginning of one at its
end. -/
structure Unpaired (s : String) : Prop where
  whole : Whole s
  clear : trail s = some .clear

namespace Unpaired

variable {s t : String}

theorem not_hasSignPair (h : Unpaired s) : ¬HasSignPair s := by
  rw [hasSignPair_iff, h.clear]
  exact Option.some_ne_none _

/-- What stands before a text has no part in its pairs. -/
theorem trail_append (h : Unpaired s) (t : String) : trail (s ++ t) = trail t := by
  rw [Text.trail_append h.whole, h.clear, Option.bind_some, trail]

theorem append (hs : Unpaired s) (ht : Unpaired t) : Unpaired (s ++ t) :=
  ⟨hs.whole.append ht.whole, (hs.trail_append t).trans ht.clear⟩

theorem of_quoteless (quoteless : quoteless s = true)
    (clear : Trail.clear.after s.toList = some .clear) : Unpaired s where
  whole := .of_quoteless quoteless
  clear := by rw [trail, skeleton_of_quoteless quoteless, clear]

theorem chars (cs : List Char) (quoteless : cs.contains '"' = false)
    (clear : Trail.clear.after cs = some .clear) : Unpaired (String.ofList cs) :=
  of_quoteless (quoteless_chars cs quoteless) (by rwa [String.toList_ofList])

theorem of_isNumeral (h : IsNumeral s) : Unpaired s :=
  of_quoteless h.quoteless (Trail.after_of_not_mem fun mem => absurd (h _ mem) (by decide))

theorem quote (s : String) : Unpaired (Literal.quote s) where
  whole := Literal.whole_quote s
  clear := by rw [trail, Literal.skeleton_quote]; rfl

theorem intercalate {separator : String} {ss : List String} (hs : Unpaired separator)
    (h : ∀ s ∈ ss, Unpaired s) : Unpaired (separator.intercalate ss) :=
  intercalate_of_append (chars [] rfl rfl) append hs h

end Unpaired

namespace HasSignPair

variable {s t : String}

/-- A sign pair stays one before any text. -/
theorem append (h : HasSignPair s) (t : String) : HasSignPair (s ++ t) := by
  rw [HasSignPair, skeleton, String.toList_ofList, String.toList_append, Reader.kept_append]
  rw [HasSignPair, skeleton, String.toList_ofList] at h
  exact h.trans (List.prefix_append _ _).isInfix

/-- Behind unpaired text it stays one, too. -/
theorem behind (unpaired : Unpaired s) (h : HasSignPair t) : HasSignPair (s ++ t) := by
  rw [hasSignPair_iff] at h ⊢
  rw [unpaired.trail_append, h]

end HasSignPair

/-! ## Sums -/

section Sum

variable {s t : String} {c : Char} {cs : List Char}

/-- The first character of a text is the first one of its skeleton. -/
theorem exists_skeleton (text : t.toList = c :: cs) : ∃ ds, (skeleton t).toList = c :: ds := by
  rw [skeleton, String.toList_ofList, text]
  exact ⟨(Reader.outside.next c).kept cs, rfl⟩

private theorem trail_sum (hs : Unpaired s) (t : String) :
    trail (s ++ " + " ++ t) = Trail.blank.after (skeleton t).toList := by
  have plus : Whole " + " := .of_chars _ rfl
  have left : trail " + " = some .blank := by decide
  rw [trail_append (hs.whole.append plus), hs.trail_append, left, Option.bind_some]

theorem Unpaired.sum (hs : Unpaired s) (ht : Unpaired t) (text : t.toList = c :: cs)
    (plus : c ≠ '+') (minus : c ≠ '-') : Unpaired (s ++ " + " ++ t) where
  whole := (hs.whole.append (.of_chars _ rfl)).append ht.whole
  clear := by
    obtain ⟨ds, left⟩ := exists_skeleton text
    rw [trail_sum hs, left, Trail.after_blank plus minus, ← left]
    exact ht.clear

/-- A summand with a minus sign makes a sign pair. -/
theorem Unpaired.hasSignPair_sum (hs : Unpaired s) (text : t.toList = '-' :: cs) :
    HasSignPair (s ++ " + " ++ t) := by
  obtain ⟨ds, left⟩ := exists_skeleton text
  rw [hasSignPair_iff, trail_sum hs, left]
  rfl

end Sum

end Formwork.Text

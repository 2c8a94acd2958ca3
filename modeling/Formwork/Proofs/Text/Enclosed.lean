import Formwork.Proofs.Source.Skeleton
import Formwork.Proofs.Text.Unquoted

/-!
# What stands between the quotes

A literal that is written for a text is read as that text, and the reading ends at its last quote.
It does not end before: what is read from the head of a text is read from there whatever comes
behind (`readChars?_append`), so no part of the literal that leaves the last quote out can be read.

All that stands between the quotes is visible, since a character is written as it is only if it is
visible, and escapes are made of a backslash, letters and digits.
-/

set_option autoImplicit false

namespace Formwork.Text

/-! ## Visible characters -/

theorem isPrintable_of_mem_hexDigits {width n : Nat} :
    ∀ c ∈ hexDigits width n, isPrintable c.toNat = true := by
  have each : ∀ d : Fin 16, isPrintable (Nat.digitChar d).toNat = true := by decide
  induction width generalizing n with
  | zero => exact nofun
  | succ width ih =>
    intro c hc
    rcases List.mem_append.1 hc with earlier | last
    · exact ih c earlier
    · rw [List.mem_singleton.1 last]
      exact each ⟨n % 16, Nat.mod_lt n (by decide)⟩

theorem isPrintable_of_mem_numericEscape {n : Nat} :
    ∀ c ∈ numericEscape n, isPrintable c.toNat = true := by
  have started (letter : Char) (width : Nat) (visible : isPrintable letter.toNat = true) :
      ∀ c ∈ '\\' :: letter :: hexDigits width n, isPrintable c.toNat = true :=
    List.forall_mem_cons.2 ⟨by decide, List.forall_mem_cons.2
      ⟨visible, isPrintable_of_mem_hexDigits⟩⟩
  unfold numericEscape
  split
  next => exact started 'x' 2 (by decide)
  next =>
    split
    next => exact started 'u' 4 (by decide)
    next => exact started 'U' 8 (by decide)

/-- A character is written with visible ones. -/
theorem isPrintable_of_mem_escapePoint (c : Char) :
    ∀ d ∈ escapePoint '"' c.toNat, isPrintable d.toNat = true := by
  have pair (letter : Char) (visible : isPrintable letter.toNat = true) :
      ∀ d ∈ ['\\', letter], isPrintable d.toNat = true :=
    List.forall_mem_cons.2 ⟨by decide, List.forall_mem_singleton.2 visible⟩
  unfold escapePoint
  split
  next => exact pair '\\' (by decide)
  split
  next => exact pair '"' (by decide)
  split
  next => exact pair 'n' (by decide)
  split
  next => exact pair 'r' (by decide)
  split
  next => exact pair 't' (by decide)
  split
  next visible =>
    rw [Char.ofNat_toNat]
    exact List.forall_mem_singleton.2 visible
  next => exact isPrintable_of_mem_numericEscape

theorem Literal.isPrintable_of_mem_escape {s : String} :
    ∀ c ∈ (escape s).toList, isPrintable c.toNat = true := by
  intro c hc
  rw [escape, String.toList_ofList] at hc
  obtain ⟨d, -, written⟩ := List.mem_flatMap.1 hc
  exact isPrintable_of_mem_escapePoint d c written

/-! ## Where reading ends -/

namespace Literal

private theorem map_onto_append {cs ds : List Char} {c : Char} {read : List Char × List Char}
    (ih : ∀ {later}, readChars? .plain cs = some later →
      readChars? .plain (cs ++ ds) = some (later.1, later.2 ++ ds))
    (h : (readChars? .plain cs).map (onto c) = some read) :
    (readChars? .plain (cs ++ ds)).map (onto c) = some (read.1, read.2 ++ ds) := by
  obtain ⟨later, found, rfl⟩ := Option.map_eq_some_iff.1 h
  rw [ih found]
  rfl

/-- What is read up to a closing quote is read whatever comes behind it. -/
theorem readChars?_append {state : Reading} {cs : List Char} {read : List Char × List Char}
    (h : readChars? state cs = some read) (ds : List Char) :
    readChars? state (cs ++ ds) = some (read.1, read.2 ++ ds) := by
  fun_induction readChars? state cs generalizing read with
  | case1 => cases h
  | case2 cs =>
    obtain rfl := Option.some.inj h
    rfl
  | case3 cs quote ih =>
    rw [List.cons_append, readChars?, if_neg quote, if_pos rfl]
    exact ih h
  | case4 => cases h
  | case5 c cs quote backslash breaks ih =>
    rw [List.cons_append, readChars?, if_neg quote, if_neg backslash, if_neg breaks]
    exact map_onto_append ih h
  | case6 c cs d simple ih =>
    simp only [List.cons_append, readChars?, simple]
    exact map_onto_append ih h
  | case7 c cs more numeric simple ih =>
    simp only [List.cons_append, readChars?, numeric, simple]
    exact ih h
  | case8 => cases h
  | case9 => cases h
  | case10 value c cs digit more known ih =>
    simp only [List.cons_append, readChars?, known]
    exact ih h
  | case11 value c cs digit known valid ih =>
    simp only [List.cons_append, readChars?, known, if_pos valid]
    exact map_onto_append ih h
  | case12 => cases h

theorem read?_append {cs rest : List Char} {s : String} (h : read? cs = some (s, rest))
    (ds : List Char) : read? (cs ++ ds) = some (s, rest ++ ds) := by
  unfold read? at h
  split at h
  next =>
    obtain ⟨read, found, same⟩ := Option.map_eq_some_iff.1 h
    cases same
    rw [List.cons_append, read?, readChars?_append found]
    rfl
  next => cases h

/-- **A literal is read back whole.** Whatever the text, the literal that is written for it is read
as that text with nothing left over, no part of it that ends before its last quote can be read, and
between the quotes there is neither a line break nor a character without a visible form. -/
theorem enclosed_escape (s : String) :
    read? ("\"" ++ escape s ++ "\"").toList = some (s, []) ∧
      (∀ front back, ("\"" ++ escape s ++ "\"").toList = front ++ back → back ≠ [] →
        read? front = none) ∧
      ∀ c ∈ (escape s).toList, isLineBreak c = false ∧ isPrintable c.toNat = true := by
  have whole : read? ("\"" ++ escape s ++ "\"").toList = some (s, []) := by
    have alone := read?_quote s []
    rwa [List.append_nil] at alone
  refine ⟨whole, ?_, ?_⟩
  · intro front back split more
    rw [Option.eq_none_iff_forall_ne_some]
    rintro ⟨t, rest⟩ early
    have longer := read?_append early back
    rw [← split, whole] at longer
    have none : rest ++ back = [] := (congrArg Prod.snd (Option.some.inj longer)).symm
    exact more (List.append_eq_nil_iff.1 none).2
  · intro c hc
    have visible := isPrintable_of_mem_escape c hc
    have unbroken := isLineBreak_of_isPrintable visible
    rw [Char.ofNat_toNat] at unbroken
    exact ⟨unbroken, visible⟩

/-- A digit behind an escape is not taken for a digit of it. -/
example : escape "\"\x00b\u2028f" = "\\\"\\x00b\\u2028f" := by decide

end Literal

end Formwork.Text

import Formwork.Document.Encode
import Formwork.Json.Reader
import Formwork.Proofs.Decimal.Shortest

/-!
# A written number is read as the number

The writer sets the digits of a number out in five ways, the reader has one grammar. Between them
stands `Numeral`, the three parts of a number's text. What the reader makes of the parts is said
once (`readMagnitude_text`); each way of setting digits out is then a numeral whose parts denote
the number that was written (`exists_numeral`).

A number ends where the text after it cannot continue it (`EndsNumber`). The reader admits 4300
characters, the sign not counted. The text of a binary64 number stays far below that; an integer has
to be short enough.
-/

set_option autoImplicit false

namespace Formwork.Json

/-! ## Runs of digits -/

/-- A run of decimal digits, not empty. -/
structure IsRun (ds : List Char) : Prop where
  ne_nil : ds ≠ []
  digits : ∀ c ∈ ds, c.isDigit = true

theorem isRun_zero : IsRun ['0'] := ⟨by simp, by simp⟩

theorem isRun_toDigits (n : Nat) : IsRun (Nat.toDigits 10 n) :=
  ⟨Nat.toDigits_ne_nil, fun _ hc => Nat.isDigit_of_mem_toDigits (by decide) (by decide) hc⟩

theorem isRun_zeros_append {ds : List Char} (n : Nat) (h : IsRun ds) :
    IsRun (List.replicate n '0' ++ ds) where
  ne_nil := by simp [h.ne_nil]
  digits := by
    intro c hc
    rcases List.mem_append.1 hc with zero | digit
    · rw [List.eq_of_mem_replicate zero]
      decide
    · exact h.digits c digit

/-- Digits of a positive number do not begin with a zero. -/
theorem head_toDigits_ne_zero {n : Nat} (pos : 0 < n) : (Nat.toDigits 10 n).head? ≠ some '0' := by
  induction n using Nat.strongRecOn with
  | _ n ih =>
    rcases Nat.lt_or_ge n 10 with small | large
    · rw [Nat.toDigits_of_lt_base small]
      simp only [List.head?_cons, ne_eq, Option.some.injEq, Nat.digitChar_eq_zero]
      omega
    · have first := ih (n / 10) (by omega) (by omega)
      rw [Nat.toDigits_of_base_le (by decide) large]
      cases hd : Nat.toDigits 10 (n / 10) with
      | nil => exact absurd hd Nat.toDigits_ne_nil
      | cons d ds =>
        rw [hd] at first
        exact first

/-- Nothing at the head of the text continues a run of digits. -/
def EndsRun (rest : List Char) : Prop := ∀ c ∈ rest.head?, c.isDigit = false

/-- Nothing at the head of the text continues a number. -/
def EndsNumber (rest : List Char) : Prop :=
  ∀ c ∈ rest.head?, c.isDigit = false ∧ c ≠ '.' ∧ c ≠ 'e' ∧ c ≠ 'E'

theorem EndsNumber.endsRun {rest : List Char} (h : EndsNumber rest) : EndsRun rest :=
  fun c hc => (h c hc).1

theorem readDigits_append {ds rest : List Char} (run : IsRun ds) (ends : EndsRun rest) :
    readDigits (ds ++ rest) = .ok (ds, rest) := by
  have take : (ds ++ rest).takeWhile Char.isDigit = ds := by
    rw [List.takeWhile_append_of_pos run.digits]
    cases rest with
    | nil => simp
    | cons c cs => simp [ends c rfl]
  have drop : (ds ++ rest).dropWhile Char.isDigit = rest := by
    rw [List.dropWhile_append_of_pos run.digits]
    cases rest with
    | nil => simp
    | cons c cs => simp [ends c rfl]
  cases ds with
  | nil => exact absurd rfl run.ne_nil
  | cons d ds =>
    have digit := run.digits d (List.mem_cons_self ..)
    unfold readDigits
    simp only [List.cons_append, digit, if_true] at take drop ⊢
    rw [take, drop]

/-! ## Numerals -/

/-- The parts of a number's text. -/
structure Numeral where
  whole : List Char
  fraction : Option (List Char) := none
  exponent : Option Exponent := none

namespace Numeral

def fractionText (n : Numeral) : List Char :=
  match n.fraction with
  | none => []
  | some ds => '.' :: ds

def exponentText (n : Numeral) : List Char :=
  match n.exponent with
  | none => []
  | some e => 'e' :: e.sign ++ e.digits

def text (n : Numeral) : List Char := n.whole ++ (n.fractionText ++ n.exponentText)

/-- The parts have digits where the grammar asks for them: before the point no superfluous zero,
after the point and in the exponent at least one digit, and the exponent has its sign. -/
structure WellFormed (n : Numeral) : Prop where
  whole : IsRun n.whole
  lead : n.whole = ['0'] ∨ n.whole.head? ≠ some '0'
  fraction : ∀ ds ∈ n.fraction, IsRun ds
  exponent : ∀ e ∈ n.exponent, (e.sign = ['+'] ∨ e.sign = ['-']) ∧ IsRun e.digits

variable {n : Numeral} {rest : List Char}

theorem endsRun_fractionText (ends : EndsNumber rest) :
    EndsRun (n.fractionText ++ (n.exponentText ++ rest)) := by
  intro c hc
  unfold fractionText exponentText at hc
  cases hf : n.fraction with
  | some ds =>
    simp only [hf, List.cons_append, List.head?_cons, Option.mem_some] at hc
    subst hc
    decide
  | none =>
    cases he : n.exponent with
    | some e =>
      simp only [hf, he, List.nil_append, List.cons_append, List.head?_cons, Option.mem_some] at hc
      subst hc
      decide
    | none =>
      simp only [hf, he, List.nil_append] at hc
      exact ends.endsRun c hc

theorem endsRun_exponentText (ends : EndsNumber rest) : EndsRun (n.exponentText ++ rest) := by
  intro c hc
  unfold exponentText at hc
  cases he : n.exponent with
  | some e =>
    simp only [he, List.cons_append, List.head?_cons, Option.mem_some] at hc
    subst hc
    decide
  | none =>
    simp only [he, List.nil_append] at hc
    exact ends.endsRun c hc

theorem readWhole_append (h : n.WellFormed) (ends : EndsRun rest) :
    readWhole (n.whole ++ rest) = .ok (n.whole, rest) := by
  rcases h.lead with zero | other
  · rw [zero]
    cases rest with
    | nil => rfl
    | cons c cs =>
      show (if c.isDigit = true then _ else _) = _
      rw [if_neg (by simp [ends c rfl])]
  · rw [← readDigits_append h.whole ends]
    unfold readWhole
    split
    next c cs eq =>
      cases hw : n.whole with
      | nil => exact absurd hw h.whole.ne_nil
      | cons d ds =>
        rw [hw] at other eq
        obtain ⟨rfl, -⟩ := List.cons.inj eq
        exact absurd rfl other
    next => rfl

theorem readFraction_append (h : n.WellFormed) (ends : EndsNumber rest) :
    readFraction (n.fractionText ++ (n.exponentText ++ rest)) =
      .ok (n.fraction, n.exponentText ++ rest) := by
  have tail := endsRun_exponentText (n := n) ends
  unfold fractionText
  cases hf : n.fraction with
  | some ds =>
    have run := h.fraction ds hf
    simp only [List.cons_append, readFraction, readDigits_append run tail, Except.map]
  | none =>
    unfold readFraction
    split
    next r eq =>
      have head : '.' ∈ (n.exponentText ++ rest).head? := by
        simp only [List.nil_append] at eq
        simp [eq]
      unfold exponentText at head
      cases he : n.exponent with
      | some e => simp [he] at head
      | none =>
        simp only [he, List.nil_append] at head
        exact absurd rfl (ends _ head).2.1
    next => rfl

theorem readExponent_append (h : n.WellFormed) (ends : EndsNumber rest) :
    readExponent (n.exponentText ++ rest) = .ok (n.exponent, rest) := by
  unfold exponentText
  cases he : n.exponent with
  | some e =>
    obtain ⟨sign, ds⟩ := e
    obtain ⟨hsign, run⟩ := h.exponent _ he
    have digits := readDigits_append run ends.endsRun
    rcases hsign with rfl | rfl
    · simp [readExponent, digits, Except.map]
    · simp [readExponent, digits, Except.map]
  | none =>
    cases rest with
    | nil => rfl
    | cons c cs =>
      have := ends c rfl
      simp [readExponent, this.2.2.1, this.2.2.2]

/-- The width that the reader checks is the length of the text. -/
theorem length_text (n : Numeral) : n.text.length =
    n.whole.length + fractionWidth n.fraction + (n.exponent.map Exponent.width).getD 0 := by
  unfold text fractionText exponentText fractionWidth
  cases n.fraction <;> cases n.exponent <;> simp [Exponent.width] <;> omega

/-- What the reader makes of the parts of a numeral. -/
theorem readMagnitude_text (h : n.WellFormed) (negative : Bool)
    (short : n.text.length ≤ maxNumberLength) (ends : EndsNumber rest) :
    readMagnitude negative (n.text ++ rest) =
      .ok (numberOf negative n.whole n.fraction n.exponent, rest) := by
  rw [length_text] at short
  unfold text readMagnitude checkLength
  rw [List.append_assoc, List.append_assoc, readWhole_append h (endsRun_fractionText ends)]
  simp only [bind, Except.bind]
  rw [if_neg (by omega)]
  simp only [readFraction_append h ends, readExponent_append h ends]
  rw [if_neg (by omega)]
  rfl

end Numeral

/-! ## How digits are set out -/

section Layouts

variable {d : Decimal} {u : Nat}

/-- Parts that denote a decimal denote the number that the decimal reads as. -/
theorem numberOf_eq {whole : List Char} {fraction : Option (List Char)}
    {exponent : Option Exponent} (h : d.ReadsAs u) (fits : Representable u) (pos : 0 < u)
    (written : fraction.isSome = true ∨ exponent.isSome = true)
    (digits : Nat.ofDigitChars 10 (whole ++ fraction.getD []) 0 = d.digits)
    (scale : (exponent.map Exponent.value).getD 0 - (fraction.getD []).length = d.exponent)
    (negative : Bool) :
    numberOf negative whole fraction exponent = .number (.finite negative u fits) := by
  have general : numberOf negative whole fraction exponent =
      .number (Binary64.ofDecimal negative (Nat.ofDigitChars 10 (whole ++ fraction.getD []) 0)
        ((exponent.map Exponent.value).getD 0 - (fraction.getD []).length)) := by
    unfold numberOf
    split
    · simp at written
    · rfl
  rw [general, digits, scale, h.ofDecimal negative fits pos]

/-- A text is that of a numeral, short and well formed, which denotes the number. -/
def Spells (cs : List Char) (u : Nat) (fits : Representable u) : Prop :=
  ∃ n : Numeral, n.text = cs ∧ n.WellFormed ∧ n.text.length ≤ 1100 ∧
    ∀ negative, numberOf negative n.whole n.fraction n.exponent = .number (.finite negative u fits)

/-- Digits do not begin with a zero, unless they are a zero alone. -/
theorem lead_toDigits (n : Nat) :
    Nat.toDigits 10 n = ['0'] ∨ (Nat.toDigits 10 n).head? ≠ some '0' := by
  rcases Nat.eq_zero_or_pos n with rfl | pos
  · exact .inl (Nat.toDigits_zero 10)
  · exact .inr (head_toDigits_ne_zero pos)

theorem spells_zero : Spells "0.0".toList 0 representable_zero := by
  refine ⟨{ whole := ['0'], fraction := some ['0'] }, by decide,
    ⟨isRun_zero, .inl rfl, ?_, ?_⟩, by decide, fun negative => rfl⟩
  · rintro ds ⟨⟩
    exact isRun_zero
  · rintro e ⟨⟩

/-- A whole number: its zeros written out, and a zero after the point. -/
theorem spells_whole (h : d.ReadsAs u) (fits : Representable u) (pos : 0 < u)
    (nonneg : 0 ≤ d.exponent) (small : d.exponent < 17) :
    Spells (Nat.toDigits 10 d.digits ++ List.replicate d.exponent.toNat '0' ++ ['.', '0'])
      u fits := by
  have run := isRun_toDigits d.digits
  have length := h.length_digits fits pos
  refine ⟨{ whole := Nat.toDigits 10 d.digits ++ List.replicate d.exponent.toNat '0'
            fraction := some ['0'] }, ?_, ⟨⟨?_, ?_⟩, .inr ?_, ?_, ?_⟩, ?_, ?_⟩
  · simp [Numeral.text, Numeral.fractionText, Numeral.exponentText]
  · simp [run.ne_nil]
  · intro c hc
    rcases List.mem_append.1 hc with digit | zero
    · exact run.digits c digit
    · rw [List.eq_of_mem_replicate zero]
      decide
  · have first := head_toDigits_ne_zero (h.digits_pos fits pos)
    cases hd : Nat.toDigits 10 d.digits with
    | nil => exact absurd hd run.ne_nil
    | cons c cs =>
      rw [hd] at first
      exact first
  · rintro ds ⟨⟩
    exact isRun_zero
  · rintro e ⟨⟩
  · simp only [Numeral.text, Numeral.fractionText, Numeral.exponentText, List.length_append,
      List.length_replicate, List.length_cons, List.length_nil]
    omega
  · refine numberOf_eq (h.expanded nonneg) fits pos (.inl rfl) ?_ (by simp)
    simp only [Option.getD_some, Nat.ofDigitChars_append, Nat.ofDigitChars_ten_toDigits,
      Nat.ofDigitChars_replicate_zero, Nat.ofDigitChars_cons, Nat.ofDigitChars_nil]
    rw [Nat.pow_succ]
    simp
    ring

/-- A number below one: zeros after the point, then the digits. -/
theorem spells_fraction (h : d.ReadsAs u) (fits : Representable u) (pos : 0 < u) (zeros : Nat)
    (small : zeros ≤ 4) (scale : d.exponent = -(zeros + (Nat.toDigits 10 d.digits).length : Nat)) :
    Spells (['0', '.'] ++ (List.replicate zeros '0' ++ Nat.toDigits 10 d.digits)) u fits := by
  have length := h.length_digits fits pos
  refine ⟨{ whole := ['0']
            fraction := some (List.replicate zeros '0' ++ Nat.toDigits 10 d.digits) },
    ?_, ⟨isRun_zero, .inl rfl, ?_, ?_⟩, ?_, ?_⟩
  · simp [Numeral.text, Numeral.fractionText, Numeral.exponentText]
  · rintro ds ⟨⟩
    exact isRun_zeros_append zeros (isRun_toDigits d.digits)
  · rintro e ⟨⟩
  · simp only [Numeral.text, Numeral.fractionText, Numeral.exponentText, List.length_append,
      List.length_replicate, List.length_cons, List.length_nil]
    omega
  · refine numberOf_eq h fits pos (.inl rfl) ?_ ?_
    · rw [Option.getD_some, Nat.ofDigitChars_append, Nat.ofDigitChars_append,
        Nat.ofDigitChars_replicate_zero]
      exact Nat.ofDigitChars_ten_toDigits
    · simp only [Option.map_none, Option.getD_none, Option.getD_some, List.length_append,
        List.length_replicate]
      omega

/-- The exponent that is written for the place of the first digit. -/
def exponentOf (lead : Int) : Exponent where
  sign := if lead < 0 then ['-'] else ['+']
  digits := Nat.toDigits 10 lead.natAbs

theorem value_exponentOf (lead : Int) : (exponentOf lead).value = lead := by
  unfold Exponent.value exponentOf
  rw [Nat.ofDigitChars_ten_toDigits]
  by_cases negative : lead < 0
  · simp only [negative, if_true]
    omega
  · simp only [negative, if_false]
    rw [if_neg (by decide)]
    omega

/-- The exponent after a decimal, where it is written at all. -/
structure IsExponent (exponent : Option Exponent) (value : Int) : Prop where
  wellFormed : ∀ e ∈ exponent, (e.sign = ['+'] ∨ e.sign = ['-']) ∧ IsRun e.digits
  short : (exponent.map Exponent.width).getD 0 ≤ 6
  value_eq : (exponent.map Exponent.value).getD 0 = value

theorem isExponent_none : IsExponent none 0 := ⟨nofun, Nat.zero_le 6, rfl⟩

theorem isExponent_exponentOf (lead : Int) (small : lead.natAbs < 10 ^ 4) :
    IsExponent (some (exponentOf lead)) lead where
  wellFormed := by
    rintro e ⟨⟩
    refine ⟨?_, isRun_toDigits lead.natAbs⟩
    unfold exponentOf
    split
    · exact .inr rfl
    · exact .inl rfl
  short := by
    have digits := (Nat.length_toDigits_le_iff (by decide) (by decide)).2 small
    have sign : (exponentOf lead).sign.length = 1 := by
      unfold exponentOf
      split <;> rfl
    show 1 + (exponentOf lead).sign.length + (Nat.toDigits 10 lead.natAbs).length ≤ 6
    omega
  value_eq := value_exponentOf lead

/-- Digits with a point among them. -/
theorem spells_pointed (h : d.ReadsAs u) (fits : Representable u) (pos : 0 < u)
    {exponent : Option Exponent} {shift : Int} (he : IsExponent exponent shift) {k : Nat}
    (some_before : 0 < k) (some_after : k < (Nat.toDigits 10 d.digits).length)
    (scale : shift - ((Nat.toDigits 10 d.digits).length - k : Nat) = d.exponent) :
    Spells ((Nat.toDigits 10 d.digits).take k ++ '.' :: (Nat.toDigits 10 d.digits).drop k ++
      ({ whole := [], exponent := exponent } : Numeral).exponentText) u fits := by
  have length := h.length_digits fits pos
  have run := isRun_toDigits d.digits
  have split := List.take_append_drop k (Nat.toDigits 10 d.digits)
  have first := head_toDigits_ne_zero (h.digits_pos fits pos)
  have wide := he.short
  refine ⟨{ whole := (Nat.toDigits 10 d.digits).take k
            fraction := some ((Nat.toDigits 10 d.digits).drop k)
            exponent := exponent }, ?_, ⟨⟨?_, ?_⟩, .inr ?_, ?_, he.wellFormed⟩, ?_, ?_⟩
  · simp [Numeral.text, Numeral.fractionText, Numeral.exponentText]
  · intro none
    have := congrArg List.length none
    simp only [List.length_take, List.length_nil] at this
    omega
  · exact fun c hc => run.digits c (List.mem_of_mem_take hc)
  · rwa [List.head?_take, if_neg (by omega)]
  · rintro ds ⟨⟩
    refine ⟨?_, fun c hc => run.digits c (List.mem_of_mem_drop hc)⟩
    intro none
    have := congrArg List.length none
    simp only [List.length_drop, List.length_nil] at this
    omega
  · rw [Numeral.length_text]
    simp only [fractionWidth, Option.map_some, Option.getD_some, List.length_take, List.length_drop]
    omega
  · refine numberOf_eq h fits pos (.inl rfl) ?_ ?_
    · simp only [Option.getD_some, split, Nat.ofDigitChars_ten_toDigits]
    · rw [he.value_eq, Option.getD_some, List.length_drop, scale]

/-- A single digit and an exponent. -/
theorem spells_single (h : d.ReadsAs u) (fits : Representable u) (pos : 0 < u)
    (small : d.exponent.natAbs < 10 ^ 4) :
    Spells (Nat.toDigits 10 d.digits ++
      ({ whole := [], exponent := some (exponentOf d.exponent) } : Numeral).exponentText)
      u fits := by
  have length := h.length_digits fits pos
  have he := isExponent_exponentOf d.exponent small
  have wide := he.short
  refine ⟨{ whole := Nat.toDigits 10 d.digits, exponent := some (exponentOf d.exponent) }, ?_,
    ⟨isRun_toDigits d.digits, lead_toDigits d.digits, nofun, he.wellFormed⟩, ?_, ?_⟩
  · simp [Numeral.text, Numeral.fractionText, Numeral.exponentText]
  · rw [Numeral.length_text]
    simp only [fractionWidth, Option.map_none, Option.getD_none]
    omega
  · refine numberOf_eq h fits pos (.inr rfl) ?_ ?_
    · simp only [Option.getD_none, List.append_nil, Nat.ofDigitChars_ten_toDigits]
    · rw [he.value_eq, Option.getD_none, List.length_nil]
      exact Int.sub_zero _

/-- An exponent needs no filling: it has at least the one digit that the layout asks for. -/
private theorem padLeft_natText (n : Nat) : padLeft 1 '0' (natText n) = natText n := by
  have : 0 < (Nat.toDigits 10 n).length := Nat.length_toDigits_pos
  unfold padLeft natText
  rw [String.length_ofList, Nat.sub_eq_zero_of_le this]
  simp

private theorem exponentText_exponentOf (lead : Int) :
    ({ whole := [], exponent := some (exponentOf lead) } : Numeral).exponentText =
      'e' :: ((if lead < 0 then "-" else "+").toList ++ Nat.toDigits 10 lead.natAbs) := by
  show 'e' :: (exponentOf lead).sign ++ (exponentOf lead).digits = _
  unfold exponentOf
  by_cases negative : lead < 0
  · simp only [negative, if_true]
    rfl
  · simp only [negative, if_false]
    rfl

/-- However a document sets a decimal out, it spells the number that the decimal reads as. -/
theorem spells_decimal (h : d.ReadsAs u) (fits : Representable u) (pos : 0 < u) :
    Spells (documentLayout.decimal d).toList u fits := by
  have length := h.length_digits fits pos
  have some_digit : 0 < (Nat.toDigits 10 d.digits).length := Nat.length_toDigits_pos
  have least := h.least
  have most := h.most
  unfold Layout.decimal
  dsimp only
  rw [if_neg (h.digits_pos fits pos).ne']
  split
  next positional =>
    simp only [documentLayout] at positional ⊢
    split
    next whole =>
      convert spells_whole h fits pos whole (by omega) using 1
      simp
    next broken =>
      split
      next above =>
        convert spells_pointed h fits pos isExponent_none
          (k := (d.exponent + (Nat.toDigits 10 d.digits).length).toNat)
          (by omega) (by omega) (by omega) using 1
        simp [Layout.pointed, Numeral.exponentText]
      next below =>
        convert spells_fraction h fits pos
          (-d.exponent - (Nat.toDigits 10 d.digits).length).toNat (by omega) (by omega) using 1
        have zeros : (-(d.exponent + (Nat.toDigits 10 d.digits).length - 1) - 1).toNat =
            (-d.exponent - (Nat.toDigits 10 d.digits).length).toNat := by omega
        rw [zeros, String.toList_append]
        exact congrArg (['0', '.'] ++ ·) String.toList_ofList
  next scientific =>
    simp only [documentLayout] at scientific ⊢
    split
    next single =>
      have lead : d.exponent + (Nat.toDigits 10 d.digits).length - 1 = d.exponent := by omega
      rw [lead, padLeft_natText]
      convert spells_single h fits pos (by omega) using 1
      rw [exponentText_exponentOf]
      simp [natText]
    next several =>
      have exponent :=
        isExponent_exponentOf (d.exponent + (Nat.toDigits 10 d.digits).length - 1) (by omega)
      convert spells_pointed h fits pos (k := 1) exponent Nat.one_pos (by omega) (by omega) using 1
      rw [exponentText_exponentOf, padLeft_natText]
      simp [Layout.pointed, natText]

/-- The text of a magnitude spells it. -/
theorem spells_shortest (fits : Representable u) :
    Spells (documentLayout.decimal (Decimal.shortest u)).toList u fits := by
  rcases Nat.eq_zero_or_pos u with rfl | pos
  · exact spells_zero
  · exact spells_decimal (Decimal.readsAs_shortest fits pos) fits pos

end Layouts

/-! ## Values -/

section Values

variable {turns room : Nat} {rest : List Char}

/-- The text of a numeral begins with a digit. -/
theorem Numeral.WellFormed.exists_digit {n : Numeral} (h : n.WellFormed) :
    ∃ c cs, n.text = c :: cs ∧ c.isDigit = true := by
  cases hw : n.whole with
  | nil => exact absurd hw h.whole.ne_nil
  | cons c cs =>
    refine ⟨c, cs ++ (n.fractionText ++ n.exponentText), ?_, h.whole.digits c (by simp [hw])⟩
    rw [Numeral.text, hw, List.cons_append]

/-- A value that begins with a digit is a number. -/
theorem readValue_digit {c : Char} {cs : List Char} (digit : c.isDigit = true) :
    readValue turns (room + 1) (c :: cs) = readMagnitude false (c :: cs) := by
  have other (d : Char) (hd : d.isDigit = false) : c ≠ d := by
    rintro rfl
    exact absurd digit (by simp [hd])
  have h₁ := other '{' (by decide)
  have h₂ := other '[' (by decide)
  have h₃ := other '"' (by decide)
  have h₄ := other 't' (by decide)
  have h₅ := other 'f' (by decide)
  have h₆ := other 'n' (by decide)
  have h₇ := other 'N' (by decide)
  have h₈ := other 'I' (by decide)
  have h₉ := other '-' (by decide)
  unfold readValue
  simp [*]

/-- A value that begins with a minus sign and a digit is a negative number. -/
theorem readValue_minus {c : Char} {cs : List Char} (digit : c.isDigit = true) :
    readValue turns (room + 1) ('-' :: c :: cs) = readMagnitude true (c :: cs) := by
  show readNegative (c :: cs) = _
  unfold readNegative
  split
  next eq =>
    obtain ⟨rfl, -⟩ := List.cons.inj eq
    exact absurd digit (by decide)
  next => rfl

/-- A signed numeral is read as what its parts denote. -/
theorem readValue_signed {n : Numeral} {s : String} (h : n.WellFormed) (text : n.text = s.toList)
    (negative : Bool) (short : s.length ≤ maxNumberLength) (ends : EndsNumber rest) :
    readValue turns (room + 1) ((Layout.signed negative s).toList ++ rest) =
      .ok (numberOf negative n.whole n.fraction n.exponent, rest) := by
  obtain ⟨c, cs, head, digit⟩ := h.exists_digit
  have length : n.text.length ≤ maxNumberLength := by rwa [text, String.length_toList]
  have read := Numeral.readMagnitude_text h negative length ends
  rw [head] at read text
  cases negative with
  | false =>
    rw [Layout.signed, if_neg (by decide), ← text]
    exact (readValue_digit digit).trans read
  | true =>
    rw [Layout.signed, if_pos rfl, String.toList_append, ← text]
    exact (readValue_minus digit).trans read

/-- An integer that is short enough is read back. -/
theorem readValue_integer {n : Int} (short : (natText n.natAbs).length ≤ maxNumberLength)
    (ends : EndsNumber rest) :
    readValue turns (room + 1) ((intText n).toList ++ rest) = .ok (.integer n, rest) := by
  have wellFormed : ({ whole := Nat.toDigits 10 n.natAbs } : Numeral).WellFormed :=
    ⟨isRun_toDigits _, lead_toDigits _, nofun, nofun⟩
  have signed : intText n = Layout.signed (decide (n < 0)) (natText n.natAbs) := by
    unfold intText Layout.signed
    simp only [decide_eq_true_eq]
  rw [signed]
  rw [readValue_signed wellFormed (by simp [Numeral.text, Numeral.fractionText,
    Numeral.exponentText, natText]) _ short ends]
  unfold numberOf
  dsimp only
  rw [Nat.ofDigitChars_ten_toDigits]
  by_cases negative : n < 0
  · simp only [negative, decide_true, if_true]
    have : -(n.natAbs : Int) = n := by omega
    rw [this]
  · simp only [negative, decide_false, Bool.false_eq_true, if_false]
    have : (n.natAbs : Int) = n := by omega
    rw [this]

/-- A binary64 number is read back, the words for NaN and the infinities included. -/
theorem readValue_number (x : Binary64) (ends : EndsNumber rest) :
    readValue turns (room + 1) ((documentLayout.text x).toList ++ rest) =
      .ok (.number x, rest) := by
  cases x with
  | nan => rfl
  | infinite negative => cases negative <;> rfl
  | finite negative u fits =>
    obtain ⟨n, text, wellFormed, short, value⟩ := spells_shortest fits
    have length := congrArg List.length text
    rw [String.length_toList] at length
    show readValue turns (room + 1) ((Layout.signed negative _).toList ++ rest) = _
    rw [readValue_signed wellFormed text negative ?_ ends, value]
    unfold maxNumberLength
    omega

end Values

end Formwork.Json

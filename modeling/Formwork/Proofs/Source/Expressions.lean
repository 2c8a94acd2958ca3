import Formwork.Decimal.Reader
import Formwork.Proofs.Source.Assignments
import Formwork.Proofs.Source.TreeLiteral
import Formwork.Text.Split
import Mathlib.Algebra.Field.Rat
import Mathlib.Data.List.TakeWhile

/-!
# Values of expressions

The expressions that a state record is given at first are of a small language: string literals, the
two truth values, integers, decimals, calls that make a number or a day, and a list of quotients.
`Value.read?` is its reader. It knows the language and nothing of the design, and an expression has
no value where evaluating it fails: a quotient by zero has none, and neither has a day that the
calendar does not have.

Each form in which a design writes a value is read as that value.
-/

set_option autoImplicit false

namespace Formwork

-- A power of a natural number is the one of the core library, whatever else is imported.
attribute [local instance (2000)] instPowNat

/-! ## Days -/

/-- Does the year have a 29th of February? -/
def isLeap (year : Int) : Bool := year % 4 = 0 && (year % 100 ≠ 0 || year % 400 = 0)

/-- How many days a month has. -/
def daysIn (year month : Int) : Int :=
  if month = 2 then if isLeap year then 29 else 28
  else if month = 4 ∨ month = 6 ∨ month = 9 ∨ month = 11 then 30
  else 31

namespace Day

/-- The calendar has the day. Its years are counted from 1 to 9999. -/
def Exists (d : Day) : Prop :=
  1 ≤ d.year ∧ d.year ≤ 9999 ∧ 1 ≤ d.month ∧ d.month ≤ 12 ∧
    1 ≤ d.day ∧ d.day ≤ daysIn d.year d.month

instance (d : Day) : Decidable d.Exists := inferInstanceAs (Decidable (_ ∧ _))

/-- Every month of every year has a day of that number. -/
def InEveryMonth (d : Day) : Prop :=
  ∀ year month, 1 ≤ year → year ≤ 9999 → 1 ≤ month → month ≤ 12 →
    (⟨year, month, d.day⟩ : Day).Exists

end Day

theorem le_daysIn (year month : Int) : 28 ≤ daysIn year month := by
  unfold daysIn
  split_ifs <;> omega

namespace Source

/-! ## Reading -/

/-- What an expression denotes. A quotient is held exactly, before it is rounded to a number. -/
inductive Value where
  | text (value : String)
  | flag (value : Bool)
  | integer (value : Int)
  | number (value : Binary64)
  | day (value : Day)
  | quotients (values : List ℚ)

/-- What stands between two brackets and commas, where that is all of a text. -/
def items? (opening : List Char) (closing : Char) (cs : List Char) :
    Option (List (List Char)) := do
  let body ← cs.dropPrefix? opening
  if body.dropWhile (· ≠ closing) = [closing] then
    some ((Text.pieces ',' (body.takeWhile (· ≠ closing))).map fun item =>
      item.dropWhile (· = ' '))
  else none

/-- The quotient of two integers. -/
def quotient? (cs : List Char) : Option ℚ := do
  let num ← integer? (cs.takeWhile (· ≠ ' '))
  let denText ← (cs.dropWhile (· ≠ ' ')).dropPrefix? " / ".toList
  let den ← integer? denText
  if den = 0 then none else some (num / den)

/-- The day that a call with a year, a month and a day of the month makes. -/
def day? : List (List Char) → Option Day
  | [yearText, monthText, dayText] => do
    let year ← integer? yearText
    let month ← integer? monthText
    let day ← integer? dayText
    if (⟨year, month, day⟩ : Day).Exists then some ⟨year, month, day⟩ else none
  | _ => none

/-- A number without a sign: a decimal, or the call that makes a number of a literal. -/
def unsigned? (cs : List Char) : Option Binary64 :=
  match cs.dropPrefix? "float(".toList with
  | none => Numeral.magnitude? false cs
  | some argument => do
    let (word, rest) ← Text.Literal.read? argument
    if rest = [')'] then Numeral.read? word.toList else none

/-- A number. A minus sign turns it into its negation. -/
def number? : List Char → Option Binary64
  | '-' :: cs => (unsigned? cs).map Binary64.neg
  | cs => unsigned? cs

/-- The value of a numeral, where the expression is one. -/
def numeral? (cs : List Char) : Option Value :=
  match integer? cs with
  | some n => some (.integer n)
  | none => (number? cs).map .number

/-- The value of an expression. Its first character tells what it can be. -/
def Value.read? (cs : List Char) : Option Value :=
  match cs with
  | '"' :: _ => do
    let (value, rest) ← Text.Literal.read? cs
    if rest = [] then some (.text value) else none
  | '[' :: _ => do
    let items ← items? ['['] ']' cs
    let values ← items.mapM quotient?
    some (.quotients values)
  | 'd' :: _ => ((items? "datetime.date(".toList ')' cs).bind day?).map .day
  | 'T' :: _ => if cs = "True".toList then some (.flag true) else none
  | 'F' :: _ => if cs = "False".toList then some (.flag false) else none
  | _ => numeral? cs

/-! ## Texts, truth values and integers -/

theorem exists_quote (s : String) : ∃ cs, (Text.Literal.quote s).toList = '"' :: cs := by
  rw [Text.Literal.quote, String.toList_append, String.toList_append]
  exact ⟨_, rfl⟩

theorem read?_text (s : String) : Value.read? (Text.Literal.quote s).toList = some (.text s) := by
  have read := Text.Literal.read?_quote s []
  rw [List.append_nil] at read
  obtain ⟨cs, begins⟩ := exists_quote s
  rw [begins] at read ⊢
  show ((Text.Literal.read? ('"' :: cs)).bind fun read =>
    if read.2 = [] then some (Value.text read.1) else none) = _
  rw [read, Option.bind_some, if_pos rfl]

theorem read?_flag (b : Bool) : Value.read? (flagText b).toList = some (.flag b) := by
  cases b <;> rfl

/-- The characters with which numerals begin. -/
def BeginsNumeral (c : Char) : Prop := c.isDigit = true ∨ c = '-' ∨ c = 'f'

instance (c : Char) : Decidable (BeginsNumeral c) := inferInstanceAs (Decidable (_ ∨ _))

theorem read?_of_begins {c : Char} {cs : List Char} (begins : BeginsNumeral c) :
    Value.read? (c :: cs) = numeral? (c :: cs) := by
  unfold Value.read?
  split
  case h_6 => rfl
  all_goals
    rename_i same
    cases same
    exact absurd begins (by decide)

/-- A list of digits is not empty, and begins with one. -/
theorem exists_natText (n : Nat) : ∃ c cs, (natText n).toList = c :: cs ∧ c.isDigit = true := by
  cases text : (natText n).toList with
  | nil =>
    rw [natText, String.toList_ofList] at text
    exact absurd text Nat.toDigits_ne_nil
  | cons c cs => exact ⟨c, cs, rfl, isDigit_of_mem_natText (text ▸ List.mem_cons_self)⟩

theorem exists_intText (n : Int) : ∃ c cs, (intText n).toList = c :: cs ∧ BeginsNumeral c := by
  unfold intText
  split
  case isTrue => exact ⟨'-', _, by rw [String.toList_append]; rfl, .inr (.inl rfl)⟩
  case isFalse =>
    obtain ⟨c, cs, text, digit⟩ := exists_natText n.natAbs
    exact ⟨c, cs, text, .inl digit⟩

theorem read?_integer (n : Int) : Value.read? (intText n).toList = some (.integer n) := by
  obtain ⟨c, cs, text, begins⟩ := exists_intText n
  have read := integer?_intText n
  rw [text] at read ⊢
  rw [read?_of_begins begins, numeral?, read]

/-! ## Numbers -/

section Decimals

variable (places u : Nat)

/-- The digits after the point are as many as there are places. -/
theorem length_padLeft {n : Nat} (some_place : 0 < places) (small : n < 10 ^ places) :
    (padLeft places '0' (natText n)).toList.length = places := by
  have least : (Nat.toDigits 10 n).length ≤ places :=
    (Nat.length_toDigits_le_iff (by decide) some_place).2 small
  simp only [padLeft, natText, String.toList_append, String.toList_ofList, String.length_ofList,
    List.length_append, List.length_replicate]
  omega

theorem isDigit_of_mem_padLeft {n : Nat} {c : Char}
    (mem : c ∈ (padLeft places '0' (natText n)).toList) : c.isDigit = true := by
  rw [padLeft, String.toList_append, String.toList_ofList] at mem
  rcases List.mem_append.1 mem with zero | digit
  · rw [List.eq_of_mem_replicate zero]
    rfl
  · exact isDigit_of_mem_natText digit

theorem ofDigitChars_padLeft (n : Nat) :
    Nat.ofDigitChars 10 (padLeft places '0' (natText n)).toList 0 = n := by
  rw [padLeft, String.toList_append, String.toList_ofList, Nat.ofDigitChars_append,
    Nat.ofDigitChars_replicate_zero, Nat.mul_zero, natText, String.toList_ofList,
    Nat.ofDigitChars_ten_toDigits]

/-- A decimal with a point is read digit by digit. -/
theorem magnitude?_fixedSteps (some_place : 0 < places) :
    Numeral.magnitude? false (fixedSteps places u).toList =
      some (.ofDecimal false (roundHalfEven (u * 10 ^ places) oneSteps) (-places)) := by
  unfold fixedSteps
  generalize roundHalfEven (u * 10 ^ places) oneSteps = n
  have small : n % 10 ^ places < 10 ^ places := Nat.mod_lt _ (Nat.pow_pos (by decide))
  have whole : ∀ c ∈ (natText (n / 10 ^ places)).toList, c.isDigit = true :=
    fun _ => isDigit_of_mem_natText
  have fraction : ∀ c ∈ (padLeft places '0' (natText (n % 10 ^ places))).toList,
      c.isDigit = true := fun _ => isDigit_of_mem_padLeft places
  have length := length_padLeft places some_place small
  have digits : Nat.ofDigitChars 10 ((natText (n / 10 ^ places)).toList ++
      (padLeft places '0' (natText (n % 10 ^ places))).toList) 0 = n := by
    rw [Nat.ofDigitChars_append, Nat.ofDigitChars_eq_ofDigitChars_zero, length,
      ofDigitChars_padLeft, natText, String.toList_ofList, Nat.ofDigitChars_ten_toDigits]
    exact Nat.div_add_mod n (10 ^ places)
  have filled : ¬(padLeft places '0' (natText (n % 10 ^ places))).toList = [] :=
    fun none => some_place.ne' (by rw [← length, none, List.length_nil])
  have point : ".".toList = ['.'] := rfl
  have noDigit : ¬('.'.isDigit = true) := by decide
  rw [if_neg some_place.ne', String.toList_append, String.toList_append, point,
    List.append_assoc, List.singleton_append, Numeral.magnitude?,
    List.takeWhile_append_of_pos whole, List.dropWhile_append_of_pos whole,
    List.takeWhile_cons_of_neg noDigit, List.dropWhile_cons_of_neg noDigit, List.append_nil,
    Numeral.splitFraction, List.takeWhile_eq_self_iff.2 fraction,
    List.dropWhile_eq_nil_iff.2 fraction]
  simp only [filled, and_false, if_false, Numeral.exponent?, Option.map_some, digits, length,
    Int.zero_sub]

end Decimals

end Source

namespace Binary64

/-- The number that the decimal with so many places is nearest to; what is not finite stays. -/
def toPlaces (places : Nat) : Binary64 → Binary64
  | .finite negative u _ =>
    .ofDecimal negative (roundHalfEven (u * 10 ^ places) oneSteps) (-places)
  | x => x

theorem neg_ofRatio (num den : Nat) : neg (ofRatio false num den) = ofRatio true num den := by
  unfold ofRatio
  split <;> rfl

/-- Negation does not round. -/
theorem neg_ofDecimal (digits : Nat) (exponent : Int) :
    neg (ofDecimal false digits exponent) = ofDecimal true digits exponent := by
  unfold ofDecimal
  split_ifs
  · rfl
  · rfl
  · rfl
  · exact neg_ofRatio _ _
  · exact neg_ofRatio _ _

end Binary64

namespace Source

theorem unsigned?_float (word : String) :
    unsigned? ("float(" ++ Text.Literal.quote word ++ ")").toList = Numeral.read? word.toList := by
  have argument := Text.Literal.read?_quote word [')']
  rw [String.toList_append, String.toList_append, List.append_assoc, unsigned?,
    List.dropPrefix?_append_of_beq _ BEq.rfl]
  show (Text.Literal.read? _).bind _ = _
  rw [show ")".toList = [')'] from rfl, argument]
  rfl

theorem exists_fixedSteps {places : Nat} (some_place : 0 < places) (u : Nat) :
    ∃ c cs, (fixedSteps places u).toList = c :: cs ∧ c.isDigit = true := by
  obtain ⟨c, cs, text, digit⟩ :=
    exists_natText (roundHalfEven (u * 10 ^ places) oneSteps / 10 ^ places)
  unfold fixedSteps
  rw [if_neg some_place.ne', String.toList_append, String.toList_append, text]
  exact ⟨c, _, rfl, digit⟩

theorem unsigned?_fixedSteps {places : Nat} (some_place : 0 < places) (u : Nat) :
    unsigned? (fixedSteps places u).toList =
      some (.ofDecimal false (roundHalfEven (u * 10 ^ places) oneSteps) (-places)) := by
  obtain ⟨c, cs, text, digit⟩ := exists_fixedSteps some_place u
  have other : ¬"float(".toList <+: (fixedSteps places u).toList := by
    rw [text]
    intro goes
    have same : 'f' = c := (List.cons_prefix_cons.1 goes).1
    rw [← same] at digit
    cases digit
  rw [unsigned?, dropPrefix?_eq_none other]
  exact magnitude?_fixedSteps places u some_place

/-- Without a minus sign, a number is read as such. -/
theorem number?_of_ne {c : Char} {cs : List Char} (unsigned : c ≠ '-') :
    number? (c :: cs) = unsigned? (c :: cs) := by
  unfold number?
  split
  case h_1 same => exact absurd (List.cons.inj same).1 unsigned
  case h_2 => rfl

/-- The characters of the call that makes a number of a word. -/
theorem exists_float (word : String) :
    ∃ cs, ("float(" ++ Text.Literal.quote word ++ ")").toList = 'f' :: cs := by
  rw [String.toList_append, String.toList_append]
  exact ⟨_, rfl⟩

theorem number?_float (word : String) :
    number? ("float(" ++ Text.Literal.quote word ++ ")").toList = Numeral.read? word.toList := by
  obtain ⟨cs, text⟩ := exists_float word
  have read := unsigned?_float word
  rw [text] at read ⊢
  rw [number?_of_ne (by decide), read]

theorem toList_negFloat (word : String) :
    ("-float(" ++ Text.Literal.quote word ++ ")").toList =
      '-' :: ("float(" ++ Text.Literal.quote word ++ ")").toList := by
  simp only [String.toList_append]
  rfl

theorem number?_negFloat (word : String) :
    number? ("-float(" ++ Text.Literal.quote word ++ ")").toList =
      (Numeral.read? word.toList).map Binary64.neg := by
  rw [toList_negFloat, number?, unsigned?_float]

/-- A number is read as what it is to so many places. -/
theorem number?_numberText {places : Nat} (some_place : 0 < places) (x : Binary64) :
    number? (numberText places x).toList = some (x.toPlaces places) := by
  cases x with
  | nan => exact number?_float "nan"
  | infinite negative =>
    cases negative with
    | false => exact number?_float "inf"
    | true => exact number?_negFloat "inf"
  | finite negative u fits =>
    have read := unsigned?_fixedSteps some_place u
    rw [numberText, fixedText, Layout.signed, Binary64.toPlaces]
    cases negative with
    | false =>
      obtain ⟨c, cs, text, digit⟩ := exists_fixedSteps some_place u
      have unsigned : c ≠ '-' := by
        rintro rfl
        cases digit
      rw [if_neg Bool.false_ne_true]
      rw [text] at read ⊢
      rw [number?_of_ne unsigned, read]
    | true =>
      rw [if_pos rfl, String.toList_append]
      show (unsigned? (fixedSteps places u).toList).map Binary64.neg = _
      rw [read, Option.map_some, Binary64.neg_ofDecimal]

/-- An integer has no characters but digits and a minus sign. -/
theorem integer?_eq_none {cs : List Char} {c : Char} (mem : c ∈ cs) (noDigit : c.isDigit = false)
    (unsigned : c ≠ '-') : integer? cs = none := by
  have none {ds : List Char} (mem : c ∈ ds) : digits? ds = none := by
    refine if_neg fun digits => ?_
    have digit := List.all_eq_true.1 digits.2 c mem
    rw [noDigit] at digit
    cases digit
  unfold integer?
  split
  case h_1 ds => rw [none ((List.mem_cons.1 mem).resolve_left unsigned), Option.map_none]
  case h_2 => rw [none mem, Option.map_none]

/-- A text that begins as a numeral does, and has a character that no integer has. -/
structure Fractional (cs : List Char) : Prop where
  begins : ∃ c rest, cs = c :: rest ∧ BeginsNumeral c
  other : ∃ c ∈ cs, c.isDigit = false ∧ c ≠ '-'

theorem Fractional.neg {cs : List Char} (h : Fractional cs) : Fractional ('-' :: cs) := by
  obtain ⟨c, mem, other⟩ := h.other
  exact ⟨⟨'-', cs, rfl, by decide⟩, c, List.mem_cons_of_mem _ mem, other⟩

theorem fractional_float (word : String) :
    Fractional ("float(" ++ Text.Literal.quote word ++ ")").toList := by
  obtain ⟨cs, text⟩ := exists_float word
  rw [text]
  exact ⟨⟨'f', cs, rfl, by decide⟩, 'f', List.mem_cons_self, by decide⟩

theorem fractional_fixedSteps {places : Nat} (some_place : 0 < places) (u : Nat) :
    Fractional (fixedSteps places u).toList := by
  obtain ⟨c, cs, text, digit⟩ := exists_fixedSteps some_place u
  refine ⟨⟨c, cs, text, .inl digit⟩, '.', ?_, by decide⟩
  unfold fixedSteps
  rw [if_neg some_place.ne', String.toList_append, String.toList_append]
  exact List.mem_append_left _ (List.mem_append_right _ List.mem_cons_self)

/-- What holds of calls and of decimals, and is kept by a minus sign, holds of all numbers. -/
theorem numberText_induction {motive : List Char → Prop} {places : Nat}
    (call : ∀ word, motive ("float(" ++ Text.Literal.quote word ++ ")").toList)
    (decimal : ∀ u, motive (fixedSteps places u).toList)
    (minus : ∀ cs, motive cs → motive ('-' :: cs)) (x : Binary64) :
    motive (numberText places x).toList := by
  cases x with
  | nan => exact call "nan"
  | infinite negative =>
    cases negative with
    | false => exact call "inf"
    | true =>
      rw [numberText, toList_negFloat]
      exact minus _ (call "inf")
  | finite negative u fits =>
    rw [numberText, fixedText, Layout.signed]
    cases negative with
    | false => exact decimal u
    | true =>
      rw [if_pos rfl, String.toList_append]
      exact minus _ (decimal u)

theorem fractional_numberText {places : Nat} (some_place : 0 < places) (x : Binary64) :
    Fractional (numberText places x).toList :=
  numberText_induction fractional_float (fractional_fixedSteps some_place) (fun _ => .neg) x

theorem read?_number {places : Nat} (some_place : 0 < places) (x : Binary64) :
    Value.read? (numberText places x).toList = some (.number (x.toPlaces places)) := by
  obtain ⟨⟨c, cs, text, begins⟩, d, mem, noDigit, unsigned⟩ := fractional_numberText some_place x
  have read := number?_numberText some_place x
  have whole := integer?_eq_none mem noDigit unsigned
  rw [text] at read whole ⊢
  rw [read?_of_begins begins, numeral?, whole, read]
  rfl

/-! ## Items -/

section Items

/-- Text that stands between commas as one item. -/
structure IsItem (closing : Char) (s : String) : Prop where
  comma : ',' ∉ s.toList
  closing : closing ∉ s.toList
  first : s.toList.head? ≠ some ' '

theorem pieces_of_notMem {cut : Char} {cs : List Char} (uncut : cut ∉ cs) :
    Text.pieces cut cs = [cs] := by
  induction cs with
  | nil => rfl
  | cons c cs ih =>
    obtain ⟨first, others⟩ := not_or.1 (mt List.mem_cons.2 uncut)
    rw [Text.pieces, if_neg (Ne.symm first), ih others]

theorem pieces_append_cons {cut : Char} {cs : List Char} (uncut : cut ∉ cs) (rest : List Char) :
    Text.pieces cut (cs ++ cut :: rest) = cs :: Text.pieces cut rest := by
  induction cs with
  | nil => rw [List.nil_append, Text.pieces, if_pos rfl]
  | cons c cs ih =>
    obtain ⟨first, others⟩ := not_or.1 (mt List.mem_cons.2 uncut)
    rw [List.cons_append, Text.pieces, if_neg (Ne.symm first), ih others]

theorem dropWhile_blank_item {closing : Char} {s : String} (item : IsItem closing s) :
    s.toList.dropWhile (· = ' ') = s.toList := by
  have first := item.first
  cases text : s.toList with
  | nil => rfl
  | cons c cs =>
    rw [text] at first
    exact List.dropWhile_cons_of_neg (by simpa using first)

theorem map_dropWhile_pieces_blank (cs : List Char) :
    (Text.pieces ',' (' ' :: cs)).map (fun item => item.dropWhile (· = ' ')) =
      (Text.pieces ',' cs).map fun item => item.dropWhile (· = ' ') := by
  rw [Text.pieces, if_neg (by decide)]
  cases rest : Text.pieces ',' cs with
  | nil => exact absurd rest (Text.pieces_ne_nil ',' cs)
  | cons item items => rfl

theorem toList_intercalate_cons_cons (s t : String) (ts : List String) :
    (", ".intercalate (s :: t :: ts)).toList =
      s.toList ++ ',' :: ' ' :: (", ".intercalate (t :: ts)).toList := by
  rw [String.intercalate_cons_cons, String.toList_append, String.toList_append, List.append_assoc]
  rfl

variable (closing : Char) (s : String) (ss : List String)

/-- Items are found between the commas; the blank behind a comma is none of an item. -/
theorem pieces_intercalate (each : ∀ t ∈ s :: ss, IsItem closing t) :
    (Text.pieces ',' (", ".intercalate (s :: ss)).toList).map
      (fun item => item.dropWhile (· = ' ')) = (s :: ss).map String.toList := by
  induction ss generalizing s with
  | nil =>
    have item := each s List.mem_cons_self
    rw [String.intercalate_singleton, pieces_of_notMem item.comma, List.map_singleton,
      List.map_singleton, dropWhile_blank_item item]
  | cons t ts ih =>
    obtain ⟨item, others⟩ := List.forall_mem_cons.1 each
    rw [toList_intercalate_cons_cons, pieces_append_cons item.comma, List.map_cons,
      map_dropWhile_pieces_blank, ih t others, dropWhile_blank_item item]
    rfl

theorem ne_closing_intercalate (comma : ',' ≠ closing) (blank : ' ' ≠ closing)
    (each : ∀ t ∈ s :: ss, IsItem closing t) :
    ∀ c ∈ (", ".intercalate (s :: ss)).toList, decide (c ≠ closing) = true := by
  have own (t : String) (item : IsItem closing t) :
      ∀ c ∈ t.toList, decide (c ≠ closing) = true :=
    fun _ mem => decide_eq_true (ne_of_mem_of_not_mem mem item.closing)
  induction ss generalizing s with
  | nil =>
    rw [String.intercalate_singleton]
    exact own s (each s List.mem_cons_self)
  | cons t ts ih =>
    obtain ⟨item, others⟩ := List.forall_mem_cons.1 each
    rw [toList_intercalate_cons_cons]
    simp only [List.forall_mem_append, List.forall_mem_cons]
    exact ⟨own s item, decide_eq_true comma, decide_eq_true blank, ih t others⟩

theorem items?_intercalate (opening : List Char) (comma : ',' ≠ closing) (blank : ' ' ≠ closing)
    (each : ∀ t ∈ s :: ss, IsItem closing t) :
    items? opening closing (opening ++ ((", ".intercalate (s :: ss)).toList ++ [closing])) =
      some ((s :: ss).map String.toList) := by
  have within := ne_closing_intercalate closing s ss comma blank each
  rw [items?, List.dropPrefix?_append_of_beq _ BEq.rfl, Option.bind_eq_bind, Option.bind_some,
    List.takeWhile_append_of_pos within, List.dropWhile_append_of_pos within]
  have none : [closing].takeWhile (fun c => decide (c ≠ closing)) = [] := by simp
  have all : [closing].dropWhile (fun c => decide (c ≠ closing)) = [closing] := by simp
  rw [none, all, if_pos rfl, List.append_nil, pieces_intercalate closing s ss each]

end Items

/-! ## Days and quotients -/

/-- Nothing in the text of an integer, or of what begins with one, cuts it in two. -/
theorem isItem_intText_append {closing : Char} (noDigit : closing.isDigit = false)
    (unsigned : closing ≠ '-') (n : Int) (rest : String) (comma : ',' ∉ rest.toList)
    (closed : closing ∉ rest.toList) : IsItem closing (intText n ++ rest) := by
  refine ⟨?_, ?_, fun first => ?_⟩
  · rw [String.toList_append, List.mem_append]
    exact not_or.2 ⟨notMem_intText rfl (by decide), comma⟩
  · rw [String.toList_append, List.mem_append]
    exact not_or.2 ⟨notMem_intText noDigit unsigned, closed⟩
  · obtain ⟨c, cs, text, begins⟩ := exists_intText n
    rw [String.toList_append, text] at first
    have same : c = ' ' := Option.some.inj first
    subst same
    exact absurd begins (by decide)

theorem isItem_intText {closing : Char} (noDigit : closing.isDigit = false)
    (unsigned : closing ≠ '-') (n : Int) : IsItem closing (intText n) := by
  have item := isItem_intText_append noDigit unsigned n "" nofun nofun
  rwa [String.append_empty] at item

theorem day?_intText {d : Day} (real : d.Exists) :
    day? ([intText d.year, intText d.month, intText d.day].map String.toList) = some d := by
  simp only [List.map_cons, List.map_nil, day?, integer?_intText, Option.bind_eq_bind,
    Option.bind_some]
  exact if_pos real

theorem toList_date (d : Day) : (Line.render (stateOf.date d)).toList = "datetime.date(".toList ++
    ((", ".intercalate [intText d.year, intText d.month, intText d.day]).toList ++ [')']) := by
  simp only [stateOf.date, render_cons, Piece.render, toList_intercalate_cons_cons,
    String.intercalate_singleton, String.toList_append, List.append_assoc, List.cons_append]
  rfl

/-- A day that the calendar has is read as itself. -/
theorem read?_day {d : Day} (real : d.Exists) :
    Value.read? (Line.render (stateOf.date d)).toList = some (.day d) := by
  have items := items?_intercalate ')' (intText d.year) [intText d.month, intText d.day]
    "datetime.date(".toList (by decide) (by decide) fun t mem => by
      obtain ⟨n, rfl⟩ : ∃ n, t = intText n := by
        simp only [List.mem_cons, List.not_mem_nil, or_false] at mem
        rcases mem with rfl | rfl | rfl <;> exact ⟨_, rfl⟩
      exact isItem_intText rfl (by decide) n
  rw [toList_date]
  show ((items? "datetime.date(".toList ')' _).bind day?).map Value.day = _
  rw [items, Option.bind_some, day?_intText real, Option.map_some]

theorem quotient?_intText (n : Int) :
    quotient? (intText n ++ " / 255").toList = some ((n : ℚ) / 255) := by
  have numerator := ne_blank_intText n
  have text : " / 255".toList = ' ' :: ['/', ' ', '2', '5', '5'] := rfl
  have denominator : (' ' :: ['/', ' ', '2', '5', '5']).dropPrefix? " / ".toList =
      some ['2', '5', '5'] := rfl
  rw [String.toList_append, text, quotient?, List.takeWhile_append_of_pos numerator,
    List.dropWhile_append_of_pos numerator, List.takeWhile_cons_of_neg (by decide),
    List.dropWhile_cons_of_neg (by decide), List.append_nil, integer?_intText, denominator]
  have value : integer? ['2', '5', '5'] = some 255 := rfl
  show (integer? ['2', '5', '5']).bind (fun den =>
    if den = 0 then none else some ((n : ℚ) / den)) = _
  rw [value, Option.bind_some, if_neg (by decide), Int.cast_ofNat]

theorem mapM_quotient? (ns : List Int) :
    ((ns.map fun n => intText n ++ " / 255").map String.toList).mapM quotient? =
      some (ns.map fun n => (n : ℚ) / 255) := by
  induction ns with
  | nil => rfl
  | cons n ns ih =>
    rw [List.map_cons, List.map_cons, List.mapM_cons, quotient?_intText, ih]
    rfl

/-- Channels are read as fractions of the largest byte. -/
theorem read?_quotients (n : Int) (ns : List Int) :
    Value.read? (channelsText (n :: ns)).toList =
      some (.quotients ((n :: ns).map fun n => (n : ℚ) / 255)) := by
  have items := items?_intercalate ']' (intText n ++ " / 255")
    (ns.map fun n => intText n ++ " / 255") ['['] (by decide) (by decide) fun t mem => by
      rw [← List.map_cons (f := fun n => intText n ++ " / 255")] at mem
      obtain ⟨m, -, rfl⟩ := List.mem_map.1 mem
      exact isItem_intText_append rfl (by decide) m " / 255" (by decide) (by decide)
  rw [channelsText, listText, String.toList_append, String.toList_append, List.append_assoc]
  show ((items? ['['] ']' _).bind fun items => (items.mapM quotient?).bind fun values =>
    some (Value.quotients values)) = _
  rw [List.map_cons, show "[".toList = ['['] from rfl, show "]".toList = [']'] from rfl, items,
    Option.bind_some, ← List.map_cons (f := fun n => intText n ++ " / 255"), mapM_quotient?]
  rfl

end Source

end Formwork

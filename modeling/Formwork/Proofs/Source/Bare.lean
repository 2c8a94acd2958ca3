import Formwork.Proofs.Source.Emptied

/-!
# Bare code

The bare code of a text is what is left of it without the contents of its literals and without its
comments. Unlike the reader of skeletons, the scanner here knows both kinds of quotes, and a number
sign outside of a literal starts a comment that goes on to the end of the line.

A text is `Closed` when the scanner is in code again after it. The bare code of a closed text and
another one is the bare code of each, one after the other.
-/

set_option autoImplicit false

namespace Formwork

namespace Text

/-- Where a scanner of code stands. -/
inductive Scanner where
  | code
  /-- In a literal that ends at the next quote of the kind. -/
  | literal (quote : Char)
  /-- In such a literal, right after a backslash. -/
  | escaped (quote : Char)
  | comment
  deriving DecidableEq

namespace Scanner

/-- Where the scanner stands after a character. -/
def next : Scanner → Char → Scanner
  | code, c => if c = '"' ∨ c = '\'' then literal c else if c = '#' then comment else code
  | literal q, c => if c = q then code else if c = '\\' then escaped q else literal q
  | escaped q, _ => literal q
  | comment, c => if c = '\n' then code else comment

/-- Is the character part of the bare code? The quotes of a literal are, and the end of a line. -/
def keeps : Scanner → Char → Bool
  | code, c => c ≠ '#'
  | literal q, c => c = q
  | escaped _, _ => false
  | comment, c => c = '\n'

/-- Where the scanner stands after a text. -/
def after : Scanner → List Char → Scanner
  | s, [] => s
  | s, c :: cs => (s.next c).after cs

/-- What the scanner keeps of a text. -/
def kept : Scanner → List Char → List Char
  | _, [] => []
  | s, c :: cs => if s.keeps c then c :: (s.next c).kept cs else (s.next c).kept cs

theorem after_append (s : Scanner) (cs ds : List Char) :
    s.after (cs ++ ds) = (s.after cs).after ds := by
  induction cs generalizing s with
  | nil => rfl
  | cons c cs ih => exact ih (s.next c)

theorem kept_append (s : Scanner) (cs ds : List Char) :
    s.kept (cs ++ ds) = s.kept cs ++ (s.after cs).kept ds := by
  induction cs generalizing s with
  | nil => rfl
  | cons c cs ih =>
    simp only [List.cons_append, kept, after, ih]
    split
    next => rfl
    next => rfl

end Scanner

/-- The code of a text without the contents of literals and without comments. -/
def bare (s : String) : List Char := Scanner.code.kept s.toList

example : bare "f(\"a\\\"b\", 'c') # d\ng" = "f(\"\", '') \ng".toList := by decide

/-- After the text a scanner is in code. -/
def Closed (s : String) : Prop := Scanner.code.after s.toList = .code

theorem bare_append {s : String} (closed : Closed s) (t : String) :
    bare (s ++ t) = bare s ++ bare t := by
  rw [bare, String.toList_append, Scanner.kept_append, closed]
  rfl

namespace Closed

theorem append {s t : String} (hs : Closed s) (ht : Closed t) : Closed (s ++ t) := by
  rw [Closed, String.toList_append, Scanner.after_append, hs, ht]

end Closed

/-- The text has no line break. -/
def Unbroken (s : String) : Prop := ∀ c ∈ s.toList, isLineBreak c = false

theorem Unbroken.append {s t : String} (hs : Unbroken s) (ht : Unbroken t) : Unbroken (s ++ t) := by
  rw [Unbroken, String.toList_append]
  exact List.forall_mem_append.2 ⟨hs, ht⟩

/-- What holds of the empty text, and of two texts one after the other when it holds of each, holds
of texts with a separator between them. -/
theorem intercalate_of_append {P : String → Prop} (empty : P "")
    (append : ∀ {s t : String}, P s → P t → P (s ++ t)) {separator : String} {ss : List String}
    (hs : P separator) (h : ∀ s ∈ ss, P s) : P (separator.intercalate ss) := by
  induction ss with
  | nil => exact empty
  | cons s ss ih =>
    have first := h s List.mem_cons_self
    have rest := ih fun t ht => h t (List.mem_cons_of_mem s ht)
    cases ss with
    | nil => rwa [String.intercalate_singleton]
    | cons t ts =>
      rw [String.intercalate_cons_cons]
      exact append (append first hs) rest

/-! ## Quiet text -/

/-- A visible ASCII character, or a blank, that starts neither a literal nor a comment. -/
def isQuiet (c : Char) : Bool :=
  0x20 ≤ c.toNat && c.toNat ≤ 0x7E && c ≠ '"' && c ≠ '\'' && c ≠ '#'

theorem isQuiet_iff {c : Char} : isQuiet c = true ↔
    (0x20 ≤ c.toNat ∧ c.toNat ≤ 0x7E) ∧ c ≠ '"' ∧ c ≠ '\'' ∧ c ≠ '#' := by
  simp [isQuiet, and_assoc]

theorem isLineBreak_of_isQuiet {c : Char} (quiet : isQuiet c = true) : isLineBreak c = false := by
  obtain ⟨⟨low, high⟩, -⟩ := isQuiet_iff.1 quiet
  rw [isLineBreak, Bool.eq_false_iff, ne_eq, List.contains_iff_mem]
  simp only [List.mem_cons, List.not_mem_nil, or_false]
  omega

/-- The only white space that is quiet is the blank. -/
theorem isWhitespace_of_isQuiet {c : Char} (quiet : isQuiet c = true) (blank : c ≠ ' ') :
    c.isWhitespace = false := by
  have low := (isQuiet_iff.1 quiet).1.1
  have other {d : Char} (below : d.toNat < 0x20) : c ≠ d := by
    rintro rfl
    omega
  simp only [Char.isWhitespace, blank, other (show '\t'.toNat < 0x20 by decide),
    other (show '\r'.toNat < 0x20 by decide), other (show '\n'.toNat < 0x20 by decide),
    decide_false, Bool.or_self]

/-- All characters of the text are quiet. -/
def Quiet (s : String) : Prop := ∀ c ∈ s.toList, isQuiet c = true

theorem Quiet.chars (cs : List Char) (h : cs.all isQuiet = true) : Quiet (String.ofList cs) := by
  rw [Quiet, String.toList_ofList]
  exact List.all_eq_true.1 h

theorem Quiet.of_isNumeral {s : String} (h : IsNumeral s) : Quiet s := h.forall_mem rfl

theorem Quiet.append {s t : String} (hs : Quiet s) (ht : Quiet t) : Quiet (s ++ t) := by
  intro c hc
  rw [String.toList_append] at hc
  rcases List.mem_append.1 hc with first | second
  · exact hs c first
  · exact ht c second

theorem Quiet.intercalate {separator : String} {ss : List String} (hs : Quiet separator)
    (h : ∀ s ∈ ss, Quiet s) : Quiet (separator.intercalate ss) :=
  intercalate_of_append (.chars [] rfl) .append hs h

/-- Quiet text is all code. -/
private theorem code_of_quiet {cs : List Char} (quiet : ∀ c ∈ cs, isQuiet c = true) :
    Scanner.code.after cs = .code ∧ Scanner.code.kept cs = cs := by
  induction cs with
  | nil => exact ⟨rfl, rfl⟩
  | cons c cs ih =>
    obtain ⟨-, double, single, sign⟩ := isQuiet_iff.1 (quiet c List.mem_cons_self)
    obtain ⟨closed, same⟩ := ih fun d hd => quiet d (List.mem_cons_of_mem c hd)
    have stays : Scanner.code.next c = .code := by
      simp only [Scanner.next, double, single, sign, or_self, if_false]
    have kept : Scanner.code.keeps c = true := decide_eq_true sign
    rw [Scanner.after, Scanner.kept, if_pos kept, stays]
    exact ⟨closed, congrArg (c :: ·) same⟩

namespace Quiet

variable {s : String}

theorem closed (quiet : Quiet s) : Closed s := (code_of_quiet quiet).1

theorem bare_eq (quiet : Quiet s) : bare s = s.toList := (code_of_quiet quiet).2

theorem unbroken (quiet : Quiet s) : Unbroken s := fun c hc => isLineBreak_of_isQuiet (quiet c hc)

theorem quoteless (quiet : Quiet s) : quoteless s = true :=
  quoteless_iff.2 fun mem => (isQuiet_iff.1 (quiet _ mem)).2.1 rfl

end Quiet

/-! ## Literals -/

/-- Where a scanner stands that has read double-quoted literals only. -/
private def scannerOf : Reader → Scanner
  | .outside => .code
  | .inside => .literal '"'
  | .escaped => .escaped '"'

/-- A scanner reads what is hidden from a reader as the reader does, and it meets no line break. -/
private theorem scan_hidden {cs : List Char} {r : Reader} (inside : r ≠ .outside)
    (dropped : r.kept cs = []) (unbroken : r.unbroken cs = true) :
    (scannerOf r).after cs = scannerOf (r.after cs) ∧ (scannerOf r).kept cs = [] ∧
      ∀ c ∈ cs, isLineBreak c = false := by
  induction cs generalizing r with
  | nil => exact ⟨rfl, rfl, fun _ hc => absurd hc List.not_mem_nil⟩
  | cons c cs ih =>
    have passed : r.keeps c = false := by
      rw [Reader.kept] at dropped
      by_contra keeps
      rw [Bool.not_eq_false] at keeps
      rw [if_pos keeps] at dropped
      cases dropped
    rw [Reader.kept, passed] at dropped
    rw [Reader.unbroken, Bool.and_eq_true] at unbroken
    have plain : isLineBreak c = false := by simpa [inside] using unbroken.1
    have step : (scannerOf r).next c = scannerOf (r.next c) ∧ (scannerOf r).keeps c = false ∧
        r.next c ≠ .outside := by
      cases r with
      | outside => exact absurd rfl inside
      | inside =>
        have other : c ≠ '"' := of_decide_eq_false passed
        refine ⟨?_, passed, ?_⟩
        · simp only [scannerOf, Scanner.next, Reader.next, if_neg other]
          split
          next => rfl
          next => rfl
        · simp only [Reader.next, if_neg other]
          split
          next => decide
          next => decide
      | escaped => exact ⟨rfl, rfl, Reader.noConfusion⟩
    obtain ⟨next, skipped, still⟩ := step
    obtain ⟨after, kept, rest⟩ := ih still dropped unbroken.2
    refine ⟨?_, ?_, List.forall_mem_cons.2 ⟨plain, rest⟩⟩
    · rw [Scanner.after, next, after]
      rfl
    · rw [Scanner.kept, skipped, next, kept]
      rfl

private theorem Hidden.scanned {cs : List Char} (hidden : Hidden cs) :
    (Scanner.literal '"').after cs = .literal '"' ∧ (Scanner.literal '"').kept cs = [] ∧
      ∀ c ∈ cs, isLineBreak c = false := by
  have inside : Reader.inside ≠ .outside := by decide
  obtain ⟨after, kept, unbroken⟩ := scan_hidden inside hidden.dropped hidden.unbroken
  rw [hidden.inside] at after
  exact ⟨after, kept, unbroken⟩

namespace Literal

/-- The quotes are what is left of a literal. -/
theorem bare_quote (s : String) : Closed (quote s) ∧ bare (quote s) = ['"', '"'] := by
  obtain ⟨cs, text, hidden⟩ := exists_hidden s
  obtain ⟨closed, dropped, -⟩ := hidden.scanned
  have opened : Scanner.code.next '"' = .literal '"' := rfl
  constructor
  · rw [Closed, text, Scanner.after, opened, Scanner.after_append, closed]
    rfl
  · rw [bare, text, Scanner.kept, opened, Scanner.kept_append, closed, dropped]
    rfl

/-- A literal stands on one line. -/
theorem unbroken_quote (s : String) : Unbroken (quote s) := by
  obtain ⟨cs, text, hidden⟩ := exists_hidden s
  obtain ⟨-, -, unbroken⟩ := hidden.scanned
  have quotes : isLineBreak '"' = false := by decide
  rw [Unbroken, text]
  simp only [List.forall_mem_cons, List.forall_mem_append]
  exact ⟨quotes, unbroken, quotes, nofun⟩

end Literal

end Text

end Formwork

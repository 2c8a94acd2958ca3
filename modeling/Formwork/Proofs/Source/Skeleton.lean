import Formwork.Text.Literal
import Mathlib.Data.List.Forall2

/-!
# The skeleton of a text

The skeleton of a text is what is left of it when the contents of every double-quoted literal are
taken out. A text is read once from the left; `Reader` says where the reader stands, and a
backslash inside a literal keeps the character after it from ending the literal.

Texts do not compose under this reading: what follows an open literal is inside it. `Whole` texts
do. All their literals are closed, and none of them spans a line break, so a reader is outside
after them and the skeleton of a concatenation is the concatenation of the skeletons. Quoteless
text is whole, and so is every literal that `Literal.quote` writes, whatever the text in it: no
escape of a code point, be it a surrogate on its own, ends the literal (`hidden_escapePoint`).
`SameSkeleton` is the relation between two texts that are built alike.

Single quotes and comments have no meaning to the reader. That is enough for texts whose comments
hold no double quote, and nothing is said here about any others.
-/

set_option autoImplicit false

namespace Formwork.Text

/-- Where a reader of literals stands. -/
inductive Reader where
  | outside
  | inside
  /-- Inside a literal, right after a backslash that escapes. -/
  | escaped
  deriving DecidableEq, Repr

/-- The characters at which a text is split into lines. Two of them end a line of a program; the
others do so for some programs that show it. -/
def isLineBreak (c : Char) : Bool :=
  [0xA, 0xB, 0xC, 0xD, 0x1C, 0x1D, 0x1E, 0x85, 0x2028, 0x2029].contains c.toNat

namespace Reader

/-- Where the reader stands after a character. -/
def next : Reader → Char → Reader
  | outside, c => if c = '"' then inside else outside
  | inside, c => if c = '"' then outside else if c = '\\' then escaped else inside
  | escaped, _ => inside

/-- Is the character part of the skeleton? The quotes around a literal are. -/
def keeps : Reader → Char → Bool
  | outside, _ => true
  | inside, c => c = '"'
  | escaped, _ => false

/-- Where the reader stands after a text. -/
def after : Reader → List Char → Reader
  | r, [] => r
  | r, c :: cs => (r.next c).after cs

/-- What the reader keeps of a text. -/
def kept : Reader → List Char → List Char
  | _, [] => []
  | r, c :: cs => if r.keeps c then c :: (r.next c).kept cs else (r.next c).kept cs

/-- Does the reader meet no line break inside a literal? -/
def unbroken : Reader → List Char → Bool
  | _, [] => true
  | r, c :: cs => (r == outside || !isLineBreak c) && (r.next c).unbroken cs

theorem after_append (r : Reader) (cs ds : List Char) :
    r.after (cs ++ ds) = (r.after cs).after ds := by
  induction cs generalizing r with
  | nil => rfl
  | cons c cs ih => exact ih (r.next c)

theorem kept_append (r : Reader) (cs ds : List Char) :
    r.kept (cs ++ ds) = r.kept cs ++ (r.after cs).kept ds := by
  induction cs generalizing r with
  | nil => rfl
  | cons c cs ih =>
    simp only [List.cons_append, kept, after, ih]
    split
    · rfl
    · rfl

theorem unbroken_append (r : Reader) (cs ds : List Char) :
    r.unbroken (cs ++ ds) = (r.unbroken cs && (r.after cs).unbroken ds) := by
  induction cs generalizing r with
  | nil => rfl
  | cons c cs ih => simp only [List.cons_append, unbroken, after, ih, Bool.and_assoc]

end Reader

/-- A text without the contents of its double-quoted literals. -/
def skeleton (s : String) : String := String.ofList (Reader.outside.kept s.toList)

example : skeleton "f(\"a\\\"b\", 1)" = "f(\"\", 1)" := by decide

/-- Every literal of the text is closed, and none spans a line break. -/
structure Whole (s : String) : Prop where
  closed : Reader.outside.after s.toList = .outside
  unbroken : Reader.outside.unbroken s.toList = true

/-- The text has no double quote. -/
def quoteless (s : String) : Bool := !s.toList.contains '"'

theorem quoteless_iff {s : String} : quoteless s = true ↔ '"' ∉ s.toList := by
  simp [quoteless]

/-- A literal is a list of characters to the elaborator, so this decides fixed texts without
decoding them. -/
theorem quoteless_chars (cs : List Char) (h : cs.contains '"' = false) :
    quoteless (String.ofList cs) = true := by
  rw [quoteless, String.toList_ofList, h]
  rfl

theorem quoteless_append (s t : String) :
    quoteless (s ++ t) = (quoteless s && quoteless t) := by
  rw [Bool.eq_iff_iff, Bool.and_eq_true, quoteless_iff, quoteless_iff, quoteless_iff,
    String.toList_append, List.mem_append, not_or]

/-- The skeleton of a concatenation, where the first part leaves no literal open. -/
theorem skeleton_append {s : String} (whole : Whole s) (t : String) :
    skeleton (s ++ t) = skeleton s ++ skeleton t := by
  rw [skeleton, String.toList_append, Reader.kept_append, whole.closed, String.ofList_append]
  rfl

namespace Whole

theorem empty : Whole "" := ⟨rfl, rfl⟩

theorem append {s t : String} (hs : Whole s) (ht : Whole t) : Whole (s ++ t) where
  closed := by rw [String.toList_append, Reader.after_append, hs.closed, ht.closed]
  unbroken := by
    rw [String.toList_append, Reader.unbroken_append, hs.unbroken, hs.closed, ht.unbroken]
    rfl

end Whole

private theorem outside_of_quoteless {cs : List Char} (none : '"' ∉ cs) :
    Reader.outside.after cs = .outside ∧ Reader.outside.kept cs = cs
      ∧ Reader.outside.unbroken cs = true := by
  induction cs with
  | nil => exact ⟨rfl, rfl, rfl⟩
  | cons c cs ih =>
    obtain ⟨first, rest⟩ := not_or.1 (mt List.mem_cons.2 none)
    have stays : Reader.outside.next c = .outside := if_neg (Ne.symm first)
    obtain ⟨closed, kept, unbroken⟩ := ih rest
    refine ⟨?_, ?_, ?_⟩
    · rw [Reader.after, stays, closed]
    · rw [Reader.kept, stays, kept]
      rfl
    · rw [Reader.unbroken, stays, unbroken]
      rfl

theorem Whole.of_quoteless {s : String} (h : quoteless s = true) : Whole s :=
  have reading := outside_of_quoteless (quoteless_iff.1 h)
  ⟨reading.1, reading.2.2⟩

/-- Quoteless text is its own skeleton. -/
theorem skeleton_of_quoteless {s : String} (h : quoteless s = true) : skeleton s = s := by
  rw [skeleton, (outside_of_quoteless (quoteless_iff.1 h)).2.1, String.ofList_toList]

theorem Whole.of_chars (cs : List Char) (h : cs.contains '"' = false) : Whole (String.ofList cs) :=
  .of_quoteless (quoteless_chars cs h)

/-- Characters that a reader inside a literal passes: it is inside after them, keeps none, and
meets no line break. -/
structure Hidden (cs : List Char) : Prop where
  inside : Reader.inside.after cs = .inside
  dropped : Reader.inside.kept cs = []
  unbroken : Reader.inside.unbroken cs = true

/-- A character that stands for itself inside a literal. -/
def isOrdinary (c : Char) : Bool := c ≠ '"' && c ≠ '\\' && !isLineBreak c

namespace Hidden

theorem nil : Hidden [] := ⟨rfl, rfl, rfl⟩

theorem append {cs ds : List Char} (hc : Hidden cs) (hd : Hidden ds) : Hidden (cs ++ ds) where
  inside := by rw [Reader.after_append, hc.inside, hd.inside]
  dropped := by rw [Reader.kept_append, hc.inside, hc.dropped, hd.dropped]; rfl
  unbroken := by rw [Reader.unbroken_append, hc.inside, hc.unbroken, hd.unbroken]; rfl

theorem flatMap {α : Type} {f : α → List Char} (hidden : ∀ a, Hidden (f a)) (as : List α) :
    Hidden (as.flatMap f) := by
  induction as with
  | nil => exact nil
  | cons a as ih =>
    rw [List.flatMap_cons]
    exact (hidden a).append ih

theorem singleton {c : Char} (h : isOrdinary c = true) : Hidden [c] := by
  simp only [isOrdinary, Bool.and_eq_true, decide_eq_true_eq, ne_eq, Bool.not_eq_true'] at h
  obtain ⟨⟨quote, backslash⟩, lineBreak⟩ := h
  exact ⟨by simp [Reader.after, Reader.next, quote, backslash],
    by simp [Reader.kept, Reader.keeps, quote],
    by simp [Reader.unbroken, lineBreak]⟩

theorem of_ordinary {cs : List Char} (ordinary : ∀ c ∈ cs, isOrdinary c = true) : Hidden cs := by
  induction cs with
  | nil => exact nil
  | cons c cs ih =>
    exact (singleton (ordinary c List.mem_cons_self)).append
      (ih fun d hd => ordinary d (List.mem_cons_of_mem c hd))

/-- A backslash and the character after it are passed together, whatever that character is, unless
it breaks the line. -/
theorem escape {c : Char} (h : isLineBreak c = false) : Hidden ['\\', c] :=
  have backslash : isLineBreak '\\' = false := by decide
  ⟨rfl, rfl, by simp [Reader.unbroken, h, backslash]⟩

end Hidden

private theorem isOrdinary_digitChar : ∀ d : Fin 16, isOrdinary (Nat.digitChar d) = true := by
  decide

private theorem isOrdinary_hexDigits {width n : Nat} :
    ∀ c ∈ hexDigits width n, isOrdinary c = true := by
  induction width generalizing n with
  | zero => exact fun _ h => nomatch h
  | succ width ih =>
    intro c hc
    rcases List.mem_append.1 hc with earlier | last
    · exact ih c earlier
    · rw [List.mem_singleton.1 last]
      exact isOrdinary_digitChar ⟨n % 16, Nat.mod_lt n (by decide)⟩

private theorem hidden_numericEscape (n : Nat) : Hidden (numericEscape n) := by
  have hidden (c : Char) (width : Nat) (plain : isLineBreak c = false) :
      Hidden ('\\' :: c :: hexDigits width n) :=
    (Hidden.escape plain).append (.of_ordinary isOrdinary_hexDigits)
  unfold numericEscape
  split
  · exact hidden 'x' 2 (by decide)
  · split
    · exact hidden 'u' 4 (by decide)
    · exact hidden 'U' 8 (by decide)

private theorem toNat_ofNat {n : Nat} (valid : n.isValidChar) : (Char.ofNat n).toNat = n := by
  rw [Char.ofNat, dif_pos valid]
  rfl

/-- Every line break lacks a visible form. -/
theorem isLineBreak_of_isPrintable {n : Nat} (h : isPrintable n = true) :
    isLineBreak (Char.ofNat n) = false := by
  by_cases valid : n.isValidChar
  · have breaks : ∀ m ∈ [0xA, 0xB, 0xC, 0xD, 0x1C, 0x1D, 0x1E, 0x85, 0x2028, 0x2029],
        isPrintable m = false := by decide
    rw [isLineBreak, toNat_ofNat valid, Bool.eq_false_iff]
    intro listed
    have shown := breaks n (List.contains_iff_mem.1 listed)
    rw [h] at shown
    exact absurd shown (by decide)
  · rw [Char.ofNat, dif_neg valid]
    decide

private theorem ofNat_ne {n : Nat} {c : Char} (h : n ≠ c.toNat) (shown : c ≠ Char.ofNat 0) :
    Char.ofNat n ≠ c := by
  intro same
  by_cases valid : n.isValidChar
  · exact h (by rw [← same, toNat_ofNat valid])
  · rw [Char.ofNat, dif_neg valid] at same
    exact shown same.symm

/-- No escape ends the literal it stands in, and none breaks the line. -/
theorem hidden_escapePoint (n : Nat) : Hidden (escapePoint '"' n) := by
  unfold escapePoint
  split
  · exact .escape (by decide)
  rename_i backslash
  split
  · exact .escape (by decide)
  rename_i quote
  split
  · exact .escape (by decide)
  split
  · exact .escape (by decide)
  split
  · exact .escape (by decide)
  split
  · rename_i shown
    refine .singleton ?_
    simp only [isOrdinary, Bool.and_eq_true, decide_eq_true_eq, ne_eq, Bool.not_eq_true']
    exact ⟨⟨ofNat_ne quote (by decide), ofNat_ne backslash (by decide)⟩,
      isLineBreak_of_isPrintable shown⟩
  · exact hidden_numericEscape n

namespace Literal

/-- A literal is a text between two quotes, and a reader inside the literal passes that text. -/
theorem exists_hidden (s : String) : ∃ cs, (quote s).toList = '"' :: (cs ++ ['"']) ∧ Hidden cs := by
  refine ⟨s.toList.flatMap fun c => escapePoint '"' c.toNat, ?_,
    Hidden.flatMap (fun c : Char => hidden_escapePoint c.toNat) s.toList⟩
  simp [quote, escape, String.toList_append]

private theorem reads_quote (s : String) :
    Whole (quote s) ∧ skeleton (quote s) = "\"\"" := by
  obtain ⟨cs, text, hidden⟩ := exists_hidden s
  have opened : Reader.outside.next '"' = .inside := rfl
  refine ⟨⟨?_, ?_⟩, ?_⟩
  · rw [text, Reader.after, opened, Reader.after_append, hidden.inside]
    rfl
  · rw [text, Reader.unbroken, opened, Reader.unbroken_append, hidden.inside, hidden.unbroken]
    rfl
  · rw [skeleton, text, Reader.kept, opened, Reader.kept_append, hidden.inside, hidden.dropped]
    rfl

theorem whole_quote (s : String) : Whole (quote s) := (reads_quote s).1

/-- The skeleton of a literal is the same for every text. -/
theorem skeleton_quote (s : String) : skeleton (quote s) = "\"\"" := (reads_quote s).2

end Literal

/-- Two whole texts with the same skeleton. -/
structure SameSkeleton (s t : String) : Prop where
  left : Whole s
  right : Whole t
  same : skeleton s = skeleton t

namespace SameSkeleton

variable {s t u v : String}

theorem refl (h : Whole s) : SameSkeleton s s := ⟨h, h, rfl⟩

theorem symm (h : SameSkeleton s t) : SameSkeleton t s := ⟨h.right, h.left, h.same.symm⟩

theorem trans (h : SameSkeleton s t) (k : SameSkeleton t u) : SameSkeleton s u :=
  ⟨h.left, k.right, h.same.trans k.same⟩

theorem quote (s t : String) : SameSkeleton (Literal.quote s) (Literal.quote t) where
  left := Literal.whole_quote s
  right := Literal.whole_quote t
  same := by rw [Literal.skeleton_quote, Literal.skeleton_quote]

theorem of_quoteless (h : quoteless s = true) : SameSkeleton s s := refl (.of_quoteless h)

theorem of_chars (cs : List Char) (h : cs.contains '"' = false) :
    SameSkeleton (String.ofList cs) (String.ofList cs) := refl (.of_chars cs h)

theorem append (h : SameSkeleton s t) (k : SameSkeleton u v) :
    SameSkeleton (s ++ u) (t ++ v) where
  left := h.left.append k.left
  right := h.right.append k.right
  same := by rw [skeleton_append h.left, skeleton_append h.right, h.same, k.same]

variable {ss ts : List String}

theorem join (h : List.Forall₂ SameSkeleton ss ts) :
    SameSkeleton (String.join ss) (String.join ts) := by
  induction h with
  | nil => exact refl .empty
  | cons first _ ih =>
    rw [String.join_cons, String.join_cons]
    exact first.append ih

theorem intercalate {separator : String} (whole : Whole separator)
    (h : List.Forall₂ SameSkeleton ss ts) :
    SameSkeleton (separator.intercalate ss) (separator.intercalate ts) := by
  induction h with
  | nil => exact refl .empty
  | cons first rest ih =>
    cases rest with
    | nil => rwa [String.intercalate_singleton, String.intercalate_singleton]
    | cons _ _ =>
      rw [String.intercalate_cons_cons, String.intercalate_cons_cons]
      exact (first.append (refl whole)).append ih

end SameSkeleton

end Formwork.Text

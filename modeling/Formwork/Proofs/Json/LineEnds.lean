import Formwork.Document.Encode
import Formwork.Proofs.Json.Numerals
import Formwork.Text.Utf8

/-!
# Line ends of a document

Every line of a document ends in a line feed: a carriage return stands nowhere in it, since inside
of a string it is escaped. So a document is the same text after line ends have been unified
(`Project.unifyLines_encode`).
-/

set_option autoImplicit false

namespace Formwork

namespace Text

/-- Without a carriage return there is nothing to unify. -/
theorem unifyLines_of_not_mem {s : String} (none : '\r' ∉ s.toList) : unifyLines s = s := by
  have same (cs : List Char) (none : '\r' ∉ cs) : unifyLineEnds cs = cs := by
    induction cs with
    | nil => rfl
    | cons c cs ih =>
      obtain ⟨first, rest⟩ := not_or.1 (mt List.mem_cons.2 none)
      unfold unifyLineEnds
      split
      next same => exact absurd (List.cons.inj same).1.symm first
      next same => exact absurd (List.cons.inj same).1.symm first
      next same =>
        obtain ⟨rfl, rfl⟩ := List.cons.inj same
        rw [ih rest]
      next same => cases same
  rw [unifyLines, same _ none, String.ofList_toList]

theorem not_mem_hexDigits (width n : Nat) : '\r' ∉ hexDigits width n := by
  have digits : ∀ d < 16, '\r' ≠ Nat.digitChar d := by decide
  induction width generalizing n with
  | zero => nofun
  | succ width ih =>
    rw [hexDigits, List.mem_append, List.mem_singleton]
    exact not_or.2 ⟨ih (n / 16), digits _ (Nat.mod_lt n (by decide))⟩

end Text

namespace Json

/-! ## Numbers -/

theorem IsRun.not_mem {ds : List Char} (run : IsRun ds) : '\r' ∉ ds := fun mem =>
  absurd (run.digits _ mem) (by decide)

theorem Numeral.not_mem_text {n : Numeral} (h : n.WellFormed) : '\r' ∉ n.text := by
  rw [text, List.mem_append, List.mem_append]
  refine not_or.2 ⟨h.whole.not_mem, not_or.2 ⟨?_, ?_⟩⟩
  · unfold fractionText
    split
    next => exact List.not_mem_nil
    next ds found =>
      rw [List.mem_cons]
      exact not_or.2 ⟨by decide, (h.fraction ds found).not_mem⟩
  · unfold exponentText
    split
    next => exact List.not_mem_nil
    next e found =>
      obtain ⟨sign, run⟩ := h.exponent e found
      rw [List.cons_append, List.mem_cons, List.mem_append]
      refine not_or.2 ⟨by decide, not_or.2 ⟨?_, run.not_mem⟩⟩
      rcases sign with plus | minus
      · rw [plus]
        decide
      · rw [minus]
        decide

theorem not_mem_intText (n : Int) : '\r' ∉ (intText n).toList := by
  have digits (n : Nat) : '\r' ∉ (natText n).toList := by
    rw [natText, String.toList_ofList]
    exact (isRun_toDigits n).not_mem
  unfold intText
  split
  next =>
    rw [String.toList_append, List.mem_append]
    exact not_or.2 ⟨by decide, digits _⟩
  next => exact digits _

theorem not_mem_text (x : Binary64) : '\r' ∉ (documentLayout.text x).toList := by
  have signed (negative : Bool) {s : String} (h : '\r' ∉ s.toList) :
      '\r' ∉ (Layout.signed negative s).toList := by
    cases negative with
    | false => exact h
    | true =>
      rw [Layout.signed, if_pos rfl, String.toList_append, List.mem_append]
      exact not_or.2 ⟨by decide, h⟩
  cases x with
  | nan => decide
  | infinite negative => exact signed negative (by decide)
  | finite negative u fits =>
    obtain ⟨n, text, wellFormed, -, -⟩ := spells_shortest fits
    refine signed negative ?_
    rw [← text]
    exact Numeral.not_mem_text wellFormed

/-! ## Values -/

theorem Escaped.not_mem {c : Char} {cs : List Char} (h : Escaped c cs) : '\r' ∉ cs := by
  cases h with
  | @short letter listed =>
    have letters : ∀ e ∈ shortEscapes, '\r' ∉ ['\\', e.2] := by decide
    exact letters _ listed
  | control low =>
    rw [List.mem_cons, List.mem_cons]
    exact not_or.2 ⟨by decide, not_or.2 ⟨by decide, Text.not_mem_hexDigits 4 _⟩⟩
  | plain quote backslash high =>
    rw [List.mem_singleton]
    rintro rfl
    exact high (by decide)

theorem not_mem_writeString (s : String) : '\r' ∉ writeString s := by
  rw [writeString, List.cons_append, List.mem_cons, List.mem_append, List.mem_flatMap]
  refine not_or.2 ⟨by decide, not_or.2 ⟨?_, by decide⟩⟩
  rintro ⟨c, -, mem⟩
  exact (escaped_escapeChar c).not_mem mem

theorem not_mem_newLine (depth : Nat) : '\r' ∉ newLine depth := by
  rw [newLine, List.mem_cons]
  exact not_or.2 ⟨by decide, fun mem => absurd (List.eq_of_mem_replicate mem) (by decide)⟩

mutual

theorem not_mem_write : ∀ (depth : Nat) (v : Json), '\r' ∉ write documentLayout depth v
  | _, .null => show '\r' ∉ "null".toList by decide
  | _, .bool true => show '\r' ∉ "true".toList by decide
  | _, .bool false => show '\r' ∉ "false".toList by decide
  | _, .integer n => not_mem_intText n
  | _, .number x => not_mem_text x
  | _, .text s => not_mem_writeString s
  | _, .list [] => show '\r' ∉ ['[', ']'] by decide
  | depth, .list (x :: xs) => by
    simp [write_list_cons, not_mem_newLine, not_mem_write (depth + 1) x,
      not_mem_writeItems (depth + 1) xs]
  | _, .object [] => show '\r' ∉ ['{', '}'] by decide
  | depth, .object ((k, v) :: ms) => by
    simp [write_object_cons, not_mem_newLine, not_mem_writeString, not_mem_write (depth + 1) v,
      not_mem_writeMembers (depth + 1) ms]

theorem not_mem_writeItems : ∀ (depth : Nat) (xs : List Json),
    '\r' ∉ writeItems documentLayout depth xs
  | _, [] => nofun
  | depth, x :: xs => by
    simp [writeItems, not_mem_newLine, not_mem_write depth x, not_mem_writeItems depth xs]

theorem not_mem_writeMembers : ∀ (depth : Nat) (ms : List (String × Json)),
    '\r' ∉ writeMembers documentLayout depth ms
  | _, [] => nofun
  | depth, (k, v) :: ms => by
    simp [writeMembers, not_mem_newLine, not_mem_writeString, not_mem_write depth v,
      not_mem_writeMembers depth ms]

end

end Json

/-- The document of a project is as it was when its line ends have been unified. -/
theorem Project.unifyLines_encode (p : Project) : Text.unifyLines p.encode = p.encode := by
  refine Text.unifyLines_of_not_mem ?_
  rw [encode, Json.render, String.toList_ofList]
  exact Json.not_mem_write 0 p.toJson

end Formwork

import Formwork.Proofs.Source.Tidy

/-!
# Generated code is plain

What is tidy is plain: quiet program text has no quote, and neither has a comment that names a
widget. So no program text and no comment of a generated module holds a double quote, for any
design (`isPlainAll_moduleCode`).
-/

set_option autoImplicit false

namespace Formwork.Source

open Text (quoteless)
open Stmt (isPlainAll)

variable {S : Slot → Prop}

theorem isPlain_of_tidy {l : Line} {place : Place} (h : Tidy S place l) :
    Line.isPlain l = true := by
  induction l generalizing place with
  | nil => rfl
  | cons p ps ih =>
    have both {next : Place} (first : p.isPlain = true) (rest : Tidy S next ps) :
        Line.isPlain (p :: ps) = true := by
      rw [Line.isPlain, List.all_cons, first]
      exact ih rest
    cases p with
    | code s => exact both h.1.quiet.quoteless h.2
    | slot t => exact both rfl h.2.2
    | offset base x =>
      obtain ⟨-, quiet, -, rest⟩ := h
      exact both quiet.quoteless rest
    | _ => exact both rfl h.2

theorem quoteless_of_isComment {t : String} (h : IsComment t) : quoteless t = true := by
  refine Text.quoteless_iff.2 fun mem => ?_
  rcases h _ mem with quiet | sign
  · exact (Text.isQuiet_iff.1 quiet).2.1 rfl
  · exact absurd sign (by decide)

mutual

private theorem isPlain_of_tidyCode : ∀ s : Stmt, s.All (Tidy S .start) IsComment →
    s.isPlain = true
  | .line _, h => isPlain_of_tidy h
  | .block _ body, h =>
    Bool.and_eq_true_iff.2 ⟨isPlain_of_tidy h.1, isPlainAll_of_tidyCode body h.2⟩
  | .wrapped _ inner _, h => by
    obtain ⟨opening, middle, closing⟩ := h
    have plain : inner.all Line.isPlain = true := List.all_eq_true.2 fun l hl =>
      isPlain_of_tidy (List.forall_iff_forall_mem.1 middle l hl)
    exact Bool.and_eq_true_iff.2
      ⟨Bool.and_eq_true_iff.2 ⟨isPlain_of_tidy opening, plain⟩, isPlain_of_tidy closing⟩
  | .comment _, h => quoteless_of_isComment h
  | .blank, _ => rfl

theorem isPlainAll_of_tidyCode : ∀ ss : List Stmt, TidyCode S ss → isPlainAll ss = true
  | [], _ => rfl
  | s :: ss, h =>
    Bool.and_eq_true_iff.2 ⟨isPlain_of_tidyCode s h.1, isPlainAll_of_tidyCode ss h.2⟩

end

/-- The module that is generated for a design is plain, with its comments and without. -/
theorem isPlainAll_moduleCode (p : Project) (f : Format) (comments : Bool) :
    isPlainAll (moduleCode p f comments) = true :=
  isPlainAll_of_tidyCode _ (tidyCode_moduleCode p f comments)

theorem isPlainAll_framing (f : Format) : isPlainAll (framing f) = true :=
  isPlainAll_of_tidyCode _ (tidyIn_framing (S := fun _ => True) f).code

end Formwork.Source

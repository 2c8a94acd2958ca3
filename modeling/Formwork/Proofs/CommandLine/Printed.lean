import Formwork.CommandLine.Run
import Formwork.Proofs.Json.Numerals

/-!
# What every output takes

An output need not take every text, but it takes ASCII. So a line that is made of names and numbers
alone is printed in any case (`Host.prints_added`), and one that says where something has been
written is printed exactly if the output takes the path (`Host.prints_created`, `Host.prints_wrote`).
-/

set_option autoImplicit false

namespace Formwork.CommandLine

open Text (Raw)

/-- Every character is one of the first 128. -/
def IsAscii (s : String) : Prop := ∀ c ∈ s.toList, c.toNat < 128

instance (s : String) : Decidable (IsAscii s) :=
  List.decidableBAll (fun c : Char => c.toNat < 128) s.toList

theorem IsAscii.append {s t : String} (first : IsAscii s) (second : IsAscii t) :
    IsAscii (s ++ t) := by
  intro c mem
  rw [String.toList_append] at mem
  exact (List.mem_append.1 mem).elim (first c) (second c)

theorem isAscii_ite {p : Prop} [Decidable p] {s t : String} (yes : IsAscii s) (no : IsAscii t) :
    IsAscii (if p then s else t) := by
  split
  · exact yes
  · exact no

theorem isAscii_digits {cs : List Char} (digits : ∀ c ∈ cs, c.isDigit = true) :
    IsAscii (String.ofList cs) := by
  intro c mem
  rw [String.toList_ofList] at mem
  have below : c ≤ '9' := (Bool.and_eq_true_iff.1 (digits c mem)).2 |> of_decide_eq_true
  exact Nat.lt_of_le_of_lt below (by decide)

/-! ## Numbers -/

theorem isAscii_natText (n : Nat) : IsAscii (natText n) :=
  isAscii_digits (Json.isRun_toDigits n).digits

theorem isAscii_intText (n : Int) : IsAscii (intText n) :=
  isAscii_ite (.append (by decide) (isAscii_natText _)) (isAscii_natText _)

theorem isAscii_pointed {ds : List Char} (digits : ∀ c ∈ ds, c.isDigit = true) (whole : Nat) :
    IsAscii (Layout.pointed ds whole) := by
  refine .append (.append ?_ (by decide)) ?_
  · exact isAscii_digits fun c mem => digits c (List.mem_of_mem_take mem)
  · exact isAscii_digits fun c mem => digits c (List.mem_of_mem_drop mem)

/-- However a decimal is set out, it is digits, points and signs. -/
theorem isAscii_decimal (l : Layout) (d : Decimal) : IsAscii (l.decimal d) := by
  have digits := (Json.isRun_toDigits d.digits).digits
  have zeros (n : Nat) : ∀ c ∈ List.replicate n '0', c.isDigit = true := by
    intro c mem
    rw [List.eq_of_mem_replicate mem]
    rfl
  refine isAscii_ite (isAscii_ite (by decide) (by decide)) (isAscii_ite ?positional ?scientific)
  case positional =>
    refine isAscii_ite (.append ?_ (isAscii_ite (by decide) (by decide))) (isAscii_ite ?_ ?_)
    · exact isAscii_digits (List.forall_mem_append.2 ⟨digits, zeros _⟩)
    · exact isAscii_pointed digits _
    · exact .append (by decide) (isAscii_digits (List.forall_mem_append.2 ⟨zeros _, digits⟩))
  case scientific =>
    have mantissa := isAscii_ite (p := (Nat.toDigits 10 d.digits).length = 1)
      (isAscii_digits digits) (isAscii_pointed digits 1)
    have sign {p : Prop} [Decidable p] : IsAscii (if p then "-" else "+") :=
      isAscii_ite (by decide) (by decide)
    exact .append (.append (.append mantissa (by decide)) sign)
      (.append (isAscii_digits (zeros _)) (isAscii_natText _))

theorem isAscii_shortText (x : Binary64) : IsAscii (shortText x) := by
  have signed (negative : Bool) {s : String} (h : IsAscii s) :
      IsAscii (Layout.signed negative s) :=
    isAscii_ite (.append (by decide) h) h
  cases x with
  | nan => exact (by decide : IsAscii "nan")
  | infinite negative => exact signed negative (s := "inf") (by decide)
  | finite negative u => exact signed negative (isAscii_decimal _ _)

/-! ## Names -/

theorem isAscii_kindTag (k : Kind) : IsAscii k.tag := by cases k <;> decide

theorem isAscii_areaTag (a : Area) : IsAscii a.tag := by cases a <;> decide

theorem isAscii_displayName (f : Source.Format) : IsAscii f.displayName := by cases f <;> decide

/-! ## Lines -/

namespace Host

variable (host : Host)

theorem prints_append (r s : Raw) : host.prints (r ++ s) = (host.prints r && host.prints s) :=
  List.all_append

theorem prints_of_isAscii {s : String} (ascii : IsAscii s) : host.prints s = true := by
  refine List.all_eq_true.2 fun u mem => ?_
  obtain ⟨c, there, rfl⟩ := List.mem_map.1 mem
  exact host.takes_ascii c (ascii c there)

/-- What stands before a text in ASCII does not matter. -/
theorem prints_ascii_append {s : String} (ascii : IsAscii s) (r : Raw) :
    host.prints (s ++ r) = host.prints r := by
  rw [prints_append, prints_of_isAscii host ascii, Bool.true_and]

/-- Nor does what stands behind it. -/
theorem prints_append_ascii {s : String} (ascii : IsAscii s) (r : Raw) :
    host.prints (r ++ s) = host.prints r := by
  rw [prints_append, prints_of_isAscii host ascii, Bool.and_true]

theorem prints_created (p : Path) :
    host.prints ("Created " ++ p.raw ++ "\n") = host.prints p.raw := by
  rw [host.prints_append_ascii (by decide), host.prints_ascii_append (by decide)]

theorem prints_wrote (f : Source.Format) (p : Path) :
    host.prints ("Wrote " ++ f.displayName ++ " output to " ++ p.raw ++ "\n") =
      host.prints p.raw := by
  have opens : host.prints ("Wrote " ++ f.displayName ++ " output to ") = true := by
    rw [host.prints_append_ascii (by decide), host.prints_append_ascii (isAscii_displayName f),
      host.prints_of_isAscii (by decide)]
  rw [host.prints_append_ascii (by decide), prints_append, opens, Bool.true_and]

theorem prints_added (w : Widget) :
    host.prints ("Added " ++ w.kind.tag ++ " #" ++ intText w.id ++ " at (" ++ shortText w.pos.x
      ++ ", " ++ shortText w.pos.y ++ ") in " ++ w.area.tag ++ "\n") = true := by
  rw [host.prints_append_ascii (by decide), host.prints_append_ascii (isAscii_areaTag w.area),
    host.prints_append_ascii (by decide), host.prints_append_ascii (isAscii_shortText w.pos.y),
    host.prints_append_ascii (by decide), host.prints_append_ascii (isAscii_shortText w.pos.x),
    host.prints_append_ascii (by decide), host.prints_append_ascii (isAscii_intText w.id),
    host.prints_append_ascii (by decide), host.prints_append_ascii (isAscii_kindTag w.kind),
    host.prints_of_isAscii (by decide)]

end Host

end Formwork.CommandLine

import Formwork.Json.Reader
import Mathlib.Data.List.TakeWhile
import Mathlib.Tactic.SplitIfs

/-!
# What a reader leaves

A reader leaves no more than it is given, and one that reads a value leaves less
(`readValue_leaves`). So the bound on turns, which is longer than the text, is never reached: a loop
that has taken a turn goes on with a shorter text.

`Leaves n r` says of an answer that at most `n` characters are left; a fault leaves nothing to go on
with. The rules for answers come first, then there is one statement for each reader, whatever its
bound on turns.
-/

set_option autoImplicit false

namespace Formwork.Json

variable {α β : Type}

/-- Where there is a value, at most `n` characters are left after it. -/
inductive Leaves (n : Nat) : Except Fault (α × List Char) → Prop where
  | ok {a : α} {rest : List Char} (fits : rest.length ≤ n) : Leaves n (.ok (a, rest))
  | error {f : Fault} : Leaves n (.error f)

namespace Leaves

variable {m n : Nat} {r : Except Fault (α × List Char)}

theorem length_le {a : α} {rest : List Char} (h : Leaves n r) (answer : r = .ok (a, rest)) :
    rest.length ≤ n := by
  subst answer
  cases h with
  | ok fits => exact fits

theorem mono (h : Leaves m r) (le : m ≤ n) : Leaves n r := by
  cases h with
  | ok fits => exact .ok (Nat.le_trans fits le)
  | error => exact .error

/-- What follows a step leaves as much as it does of what the step has left. -/
theorem bind {next : α × List Char → Except Fault (β × List Char)} (h : Leaves m r)
    (rest : ∀ a rest, rest.length ≤ m → Leaves n (next (a, rest))) : Leaves n (r >>= next) := by
  cases h with
  | ok fits => exact rest _ _ fits
  | error => exact .error

/-- A step that reads nothing. -/
theorem check {c : Except Fault Unit} {next : Except Fault (β × List Char)} (h : Leaves n next) :
    Leaves n (c >>= fun _ => next) := by
  cases c with
  | ok => exact h
  | error => exact .error

/-- A step that makes another value of the one that is read. -/
theorem map {f : α × List Char → β × List Char} (h : Leaves n r)
    (same : ∀ answer, (f answer).2 = answer.2) : Leaves n (r.map f) := by
  cases h with
  | @ok a rest fits => exact .ok (by rwa [same (a, rest)])
  | error => exact .error

end Leaves

theorem length_skipSpace_le (cs : List Char) : (skipSpace cs).length ≤ cs.length :=
  List.length_dropWhile_le ..

/-- What comes first after blank space, and what comes behind it. -/
theorem length_of_skipSpace {c : Char} {cs rest : List Char} (h : skipSpace cs = c :: rest) :
    rest.length < cs.length := by
  have le := length_skipSpace_le cs
  rw [h, List.length_cons] at le
  exact le

theorem readWord_leaves (value : Json) (ws cs : List Char) :
    Leaves cs.length (readWord value ws cs) := by
  induction ws generalizing cs with
  | nil => exact .ok (Nat.le_refl _)
  | cons w ws ih =>
    cases cs with
    | nil => exact .error
    | cons c cs =>
      unfold readWord
      split
      · exact (ih cs).mono (Nat.le_succ _)
      · exact .error

/-! ## Numbers -/

/-- At least one digit is read. -/
theorem readDigits_leaves (cs : List Char) : Leaves (cs.length - 1) (readDigits cs) := by
  unfold readDigits
  split
  · exact .error
  · split
    next c cs digit =>
      rw [List.dropWhile_cons_of_pos digit]
      exact .ok (List.length_dropWhile_le ..)
    · exact .error

theorem readWhole_leaves (cs : List Char) : Leaves (cs.length - 1) (readWhole cs) := by
  unfold readWhole
  split
  · split
    · exact .error
    · exact .ok (Nat.le_refl _)
  · exact readDigits_leaves cs

theorem readFraction_leaves (cs : List Char) : Leaves cs.length (readFraction cs) := by
  unfold readFraction
  split
  next rest =>
    have shorter : rest.length - 1 ≤ ('.' :: rest).length := by
      rw [List.length_cons]
      omega
    exact ((readDigits_leaves rest).mono shorter).map fun _ => rfl
  · exact .ok (Nat.le_refl _)

theorem readExponent_leaves (cs : List Char) : Leaves cs.length (readExponent cs) := by
  unfold readExponent
  split
  next c rest =>
    split
    · dsimp only
      generalize ((rest.take 1).filter fun s => s == '+' || s == '-') = sign
      have shorter : (rest.drop sign.length).length - 1 ≤ (c :: rest).length := by
        rw [List.length_drop, List.length_cons]
        omega
      exact ((readDigits_leaves _).mono shorter).map fun _ => rfl
    · exact .ok (Nat.le_refl _)
  · exact .ok (Nat.le_refl _)

theorem readMagnitude_leaves (negative : Bool) (cs : List Char) :
    Leaves (cs.length - 1) (readMagnitude negative cs) := by
  refine (readWhole_leaves cs).bind fun whole r₁ h₁ => Leaves.check ?_
  refine (readFraction_leaves r₁).bind fun fraction r₂ h₂ => ?_
  refine (readExponent_leaves r₂).bind fun exponent r₃ h₃ => Leaves.check ?_
  exact .ok (Nat.le_trans h₃ (Nat.le_trans h₂ h₁))

theorem readNegative_leaves (cs : List Char) : Leaves cs.length (readNegative cs) := by
  unfold readNegative
  split
  · exact (readWord_leaves ..).mono (Nat.le_succ _)
  · exact (readMagnitude_leaves ..).mono (Nat.sub_le ..)

/-! ## Strings -/

theorem readHex_leaves (count n : Nat) (cs : List Char) :
    Leaves cs.length (readHex count n cs) := by
  induction count generalizing n cs with
  | zero => exact .ok (Nat.le_refl _)
  | succ count ih =>
    cases cs with
    | nil => exact .error
    | cons c cs =>
      unfold readHex
      split
      · exact (ih _ cs).mono (Nat.le_succ _)
      · exact .error

theorem readLowSurrogate_leaves (high : Nat) (cs : List Char) :
    Leaves cs.length (readLowSurrogate high cs) := by
  unfold readLowSurrogate
  split
  · exact .error
  · exact .error
  next digits =>
    refine (readHex_leaves 4 0 digits).bind fun low rest fits => ?_
    dsimp only
    split
    · exact .ok (Nat.le_trans fits (Nat.le_add_right _ 2))
    · exact .error
  · exact .error
  · exact .error

theorem readUnicodeEscape_leaves (cs : List Char) : Leaves cs.length (readUnicodeEscape cs) := by
  refine (readHex_leaves 4 0 cs).bind fun n rest fits => ?_
  dsimp only
  split_ifs
  · exact .error
  · exact (readLowSurrogate_leaves n rest).mono fits
  · exact .ok fits

theorem readEscape_leaves (cs : List Char) : Leaves cs.length (readEscape cs) := by
  unfold readEscape
  split
  all_goals try exact .ok (Nat.le_succ _)
  · exact .error
  · exact (readUnicodeEscape_leaves _).mono (Nat.le_succ _)
  · exact .error

theorem readChars_leaves (turns : Nat) (read cs : List Char) :
    Leaves cs.length (readChars turns read cs) := by
  induction turns generalizing read cs with
  | zero => exact .error
  | succ turns ih =>
    cases cs with
    | nil => exact .error
    | cons c cs =>
      unfold readChars
      split_ifs
      · exact .ok (Nat.le_succ _)
      · refine (readEscape_leaves cs).bind fun d rest fits => ?_
        exact (ih _ rest).mono (Nat.le_trans fits (Nat.le_succ _))
      · exact .error
      · exact (ih _ cs).mono (Nat.le_succ _)

/-! ## Containers -/

section Containers

variable {value : Reader Json}

theorem readItems_leaves (item_leaves : ∀ cs, Leaves (cs.length - 1) (value cs)) (turns : Nat)
    (read : List Json) (cs : List Char) : Leaves cs.length (readItems value turns read cs) := by
  induction turns generalizing read cs with
  | zero => exact .error
  | succ turns ih =>
    unfold readItems
    split
    · exact .error
    next c rest first =>
      have behind := length_of_skipSpace first
      split_ifs
      · exact .ok (Nat.le_of_lt behind)
      · split
        · exact .error
        next d more second =>
          have further := length_of_skipSpace second
          split
          · exact .error
          · refine (item_leaves (d :: more)).bind fun item after fits => (ih _ after).mono ?_
            rw [List.length_cons] at fits
            omega
      · exact .error

theorem readList_leaves (item_leaves : ∀ cs, Leaves (cs.length - 1) (value cs)) (turns : Nat)
    (cs : List Char) : Leaves cs.length (readList value turns cs) := by
  unfold readList
  split
  · exact .error
  next c rest first =>
    have behind := length_of_skipSpace first
    split
    · exact .ok (Nat.le_of_lt behind)
    · refine (item_leaves (c :: rest)).bind fun item after fits => ?_
      refine (readItems_leaves item_leaves turns _ after).mono ?_
      rw [List.length_cons] at fits
      omega

theorem readMember_leaves (item_leaves : ∀ cs, Leaves (cs.length - 1) (value cs)) (turns : Nat)
    (cs : List Char) : Leaves cs.length (readMember value turns cs) := by
  refine (readChars_leaves turns [] cs).bind fun key r₁ h₁ => ?_
  dsimp only
  split
  · exact .error
  next c r₂ first =>
    have behind := length_of_skipSpace first
    split
    · split
      · exact .error
      next r₃ _ =>
        have further := length_skipSpace_le r₂
        refine (item_leaves _).bind fun v r₄ h₄ => ?_
        have shorter : r₄.length ≤ cs.length := by omega
        exact .ok shorter
    · exact .error

theorem readMembers_leaves (item_leaves : ∀ cs, Leaves (cs.length - 1) (value cs))
    (total turns : Nat) (read : List (String × Json)) (cs : List Char) :
    Leaves cs.length (readMembers value total turns read cs) := by
  induction turns generalizing read cs with
  | zero => exact .error
  | succ turns ih =>
    unfold readMembers
    split
    · exact .error
    next c rest first =>
      have behind := length_of_skipSpace first
      split_ifs
      · exact .ok (Nat.le_of_lt behind)
      · split
        · exact .error
        next d more second =>
          have further := length_of_skipSpace second
          split_ifs
          · refine (readMember_leaves item_leaves total more).bind fun member after fits => ?_
            exact (ih _ after).mono (by omega)
          · exact .error
          · exact .error
      · exact .error

theorem readObject_leaves (item_leaves : ∀ cs, Leaves (cs.length - 1) (value cs)) (turns : Nat)
    (cs : List Char) : Leaves cs.length (readObject value turns cs) := by
  unfold readObject
  split
  · exact .error
  next c rest first =>
    have behind := length_of_skipSpace first
    split_ifs
    · exact .ok (Nat.le_of_lt behind)
    · refine (readMember_leaves item_leaves turns rest).bind fun member after fits => ?_
      exact (readMembers_leaves item_leaves turns turns _ after).mono (by omega)
    · exact .error

end Containers

/-- A value has at least one character. -/
theorem readValue_leaves (turns room : Nat) (cs : List Char) :
    Leaves (cs.length - 1) (readValue turns room cs) := by
  induction room generalizing cs with
  | zero => cases cs <;> exact .error
  | succ room ih =>
    cases cs with
    | nil => exact .error
    | cons c cs =>
      unfold readValue
      split
      · exact (readObject_leaves ih turns cs).map fun _ => rfl
      · exact (readList_leaves ih turns cs).map fun _ => rfl
      · exact (readChars_leaves turns [] cs).map fun _ => rfl
      · exact readWord_leaves ..
      · exact readWord_leaves ..
      · exact readWord_leaves ..
      · exact readWord_leaves ..
      · exact readWord_leaves ..
      · exact readNegative_leaves ..
      · split
        · exact readMagnitude_leaves ..
        · exact .error

end Formwork.Json

import Formwork.Document.Decode
import Mathlib.Data.List.Forall2

/-!
# When a check succeeds

A combination of checks succeeds exactly where each part does, and then with the values of the
parts. Every statement about documents that are accepted goes through these equivalences, left to
right where a document was accepted, right to left where one is to be.
-/

set_option autoImplicit false

namespace Formwork.Document

namespace Checked

variable {α β γ : Type}

@[simp] theorem map_eq_ok {f : α → β} {x : Checked α} {b : β} :
    f <$> x = .ok b ↔ ∃ a, x = .ok a ∧ f a = b := by
  cases x with
  | ok a => exact ⟨fun h => ⟨a, rfl, Checked.ok.inj h⟩, fun ⟨a, h, e⟩ => by cases h; cases e; rfl⟩
  | rejected r => exact ⟨nofun, fun ⟨a, h, _⟩ => nomatch h⟩

@[simp] theorem seq_eq_ok {f : Checked (α → β)} {x : Checked α} {b : β} :
    f <*> x = .ok b ↔ ∃ g a, f = .ok g ∧ x = .ok a ∧ g a = b := by
  constructor
  · intro h
    cases f with
    | rejected r => cases x <;> cases h
    | ok g =>
      cases x with
      | rejected r => cases h
      | ok a => exact ⟨g, a, rfl, rfl, Checked.ok.inj h⟩
  · rintro ⟨g, a, rfl, rfl, rfl⟩
    rfl

@[simp] theorem seqLeft_eq_ok {x : Checked α} {y : Checked β} {a : α} :
    x <* y = .ok a ↔ x = .ok a ∧ ∃ b, y = .ok b := by
  constructor
  · intro h
    cases x with
    | rejected r => cases y <;> cases h
    | ok a' =>
      cases y with
      | rejected r => cases h
      | ok b => exact ⟨h, b, rfl⟩
  · rintro ⟨rfl, b, rfl⟩
    rfl

@[simp] theorem andThen_eq_ok {x : Checked α} {f : α → Checked β} {b : β} :
    x.andThen f = .ok b ↔ ∃ a, x = .ok a ∧ f a = .ok b := by
  cases x with
  | ok a => exact ⟨fun h => ⟨a, rfl, h⟩, fun ⟨a, h, e⟩ => by cases h; exact e⟩
  | rejected r => exact ⟨nofun, fun ⟨a, h, _⟩ => nomatch h⟩

@[simp] theorem within_eq_ok {key : String} {x : Checked α} {a : α} :
    x.within key = .ok a ↔ x = .ok a := by
  cases x with
  | ok a => exact Iff.rfl
  | rejected r => exact ⟨nofun, nofun⟩

@[simp] theorem refuse_ne_ok {p : Problem} {a : α} : (refuse p : Checked α) ≠ .ok a := nofun

/-- Whether a check succeeds with a value can be computed. -/
instance decidableEqOk [DecidableEq α] (a : α) : (x : Checked α) → Decidable (x = .ok a)
  | .ok b => decidable_of_iff (b = a) ⟨congrArg _, Checked.ok.inj⟩
  | .rejected _ => isFalse nofun

/-- A list is accepted item by item. -/
theorem listFrom_eq_ok {check : α → Checked β} {position : Nat} {as : List α} {bs : List β} :
    listFrom check position as = .ok bs ↔ List.Forall₂ (fun a b => check a = .ok b) as bs := by
  induction as generalizing position bs with
  | nil =>
    rw [List.forall₂_nil_left_iff]
    exact ⟨fun h => (Checked.ok.inj h).symm, fun h => h ▸ rfl⟩
  | cons a as ih =>
    rw [List.forall₂_cons_left_iff]
    constructor
    · intro h
      cases ha : check a with
      | rejected r =>
        cases hs : listFrom check (position + 1) as <;> simp [listFrom, ha, hs, within, both] at h
      | ok b =>
        cases hs : listFrom check (position + 1) as with
        | rejected r => simp [listFrom, ha, hs, within, both] at h
        | ok bs' =>
          simp only [listFrom, ha, hs, within, both, Checked.ok.injEq] at h
          exact ⟨b, bs', rfl, ih.1 hs, h.symm⟩
    · rintro ⟨b, bs', hb, hs, rfl⟩
      simp only [listFrom, hb, ih.2 hs, within, both]

end Checked

variable {α : Type} {ms : Members} {key : String}

/-- A field that is present has the value its check gives. -/
theorem field_eq_ok_of_last? {default : Option α} {check : Json → Checked α} {v : Json} {a : α}
    (found : Json.last? ms key = some v) (h : check v = .ok a) :
    field ms key default check = .ok a := by
  simp [field, found, h]

/-- An accepted field has the value that its check gives, or the default. -/
theorem of_field_eq_ok {default : Option α} {check : Json → Checked α} {a : α}
    (h : field ms key default check = .ok a) :
    (∃ v, Json.last? ms key = some v ∧ check v = .ok a) ∨ default = some a := by
  unfold field at h
  split at h
  next _ v found => exact .inl ⟨v, found, by simpa using h⟩
  next => exact .inr (congrArg some (Checked.ok.inj h))
  next => cases h

theorem object_eq_ok {v : Json} : object v = .ok ms ↔ v = .object ms := by
  cases v <;> simp [object]

end Formwork.Document

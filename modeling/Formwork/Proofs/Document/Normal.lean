import Formwork.Proofs.Document.RoundTrip

/-!
# Every accepted document has a normal form

A document may spell a value in many ways: an integer as a flag, as a number without a fraction or
as a string; it may leave fields out, repeat them, or hold fields that nothing reads. However it is
spelled, what is decoded is a valid project, so the document that is written for it is accepted and
says the same (`Project.valid_normal_of_decode`). Writing what was decoded is therefore a normal
form: a second round changes nothing.

Ids are compared after they have been read. `Document.idValues` finds the values that stand for
them, and no two of these are read as the same integer, whichever way they are spelled.
-/

set_option autoImplicit false

namespace Formwork

namespace Document

/-- The value that stands for the id of a widget. -/
def idValue? : Json → Option Json
  | .object ms => Json.last? ms "id"
  | _ => none

/-- The values that stand for the ids of the widgets of a document, in order. -/
def idValues : Json → List Json
  | .object ms =>
    match Json.last? ms "widgets" with
    | some (.list items) => items.filterMap idValue?
    | _ => []
  | _ => []

/-- The id of an accepted widget is what its value is read as. -/
theorem exists_idValue?_of_widget {v : Json} {w : Widget} (h : widget v = .ok w) :
    ∃ x, idValue? v = some x ∧ integer x = .ok w.id := by
  simp only [widget, Checked.andThen_eq_ok, Checked.seq_eq_ok, Checked.map_eq_ok,
    object_eq_ok] at h
  obtain ⟨ms, rfl, _, _, ⟨_, _, ⟨_, _, ⟨_, _, ⟨_, _, ⟨id, accepted, rfl⟩, -, rfl⟩, -, rfl⟩, -, rfl⟩,
    -, rfl⟩, -, rfl⟩ := h
  rcases of_field_eq_ok accepted with ⟨x, found, read⟩ | preset
  · obtain ⟨n, hn, read⟩ := Checked.andThen_eq_ok.1 read
    split at read
    next => cases read
    next =>
      obtain rfl := Checked.ok.inj read
      exact ⟨x, found, hn⟩
  · cases preset

theorem idValues_of_items {items : List Json} {ws : List Widget}
    (h : List.Forall₂ (fun v w => widget v = .ok w) items ws) :
    (items.filterMap idValue?).map integer = ws.map fun w => .ok w.id := by
  induction h with
  | nil => rfl
  | cons first _ ih =>
    obtain ⟨x, found, read⟩ := exists_idValue?_of_widget first
    rw [List.filterMap_cons_some found, List.map_cons, List.map_cons, read, ih]

/-- The ids of a project are what the values in its document are read as. -/
theorem idValues_of_project {v : Json} {p : Project} (h : project v = .ok p) :
    (idValues v).map integer = p.widgets.map fun w => .ok w.id := by
  simp only [project, Checked.andThen_eq_ok, Checked.seq_eq_ok, Checked.map_eq_ok, object_eq_ok,
    uniqueIds_eq_ok] at h
  obtain ⟨_, ⟨ms, rfl, _, _, ⟨_, _, ⟨ws, accepted, rfl⟩, -, rfl⟩, -, rfl⟩, rfl, -⟩ := h
  cases found : Json.last? ms "widgets" with
  | none =>
    simp only [field, found, Checked.ok.injEq] at accepted
    simp only [idValues, found, ← accepted, List.map_nil]
  | some x =>
    simp only [field, found, Checked.within_eq_ok] at accepted
    cases x with
    | list items =>
      simp only [idValues, found]
      exact idValues_of_items (Checked.listFrom_eq_ok.1 accepted)
    | _ => cases accepted

end Document

namespace Project

/-- **Accepted documents have a normal form.** Whatever the spelling of a document that is accepted,
the project it holds is valid: ids from one on and pairwise distinct, no negative selection or
number of columns, channels that are bytes. No two values that stand for ids are read as the same
integer. The document that is written for the project is accepted and holds the same project, so
writing it once more changes nothing. -/
theorem valid_normal_of_decode {s : String} {p : Project} (h : decode s = .ok p) :
    p.Valid ∧
      (∃ v, Json.read s = .ok v ∧
        (Document.idValues v).Pairwise fun x y => Document.integer x ≠ Document.integer y) ∧
      decode p.encode = .ok p ∧
      encode <$> decode p.encode = .ok p.encode := by
  have valid := valid_of_decode h
  have again := decode_encode valid
  refine ⟨valid, ?_, again, ?_⟩
  · unfold decode at h
    split at h
    next v read =>
      have ids := Document.idValues_of_project h
      have distinct : (p.widgets.map fun w => Document.Checked.ok w.id).Pairwise (· ≠ ·) := by
        have nodup := valid.distinct
        rw [List.nodup_iff_pairwise_ne, List.pairwise_map] at nodup
        rw [List.pairwise_map]
        exact nodup.imp fun differ same => differ (Document.Checked.ok.inj same)
      rw [← ids, List.pairwise_map] at distinct
      exact ⟨v, read, distinct⟩
    next => cases h
  · rw [again]
    rfl

/-- The ids are a string and a floating-point number, the selection is a flag, and nothing reads the
key `x`. -/
def loose : String :=
  "\x7b\"widgets\":[\x7b\"id\":\" +1\",\"size\":\x7b\x7d,"
    ++ "\"props\":\x7b\"kind\":\"TabBar\",\"selected\":true\x7d\x7d,"
    ++ "\x7b\"id\":2.0,\"size\":\x7b\x7d,\"props\":\x7b\"kind\":\"Link\"\x7d\x7d],\"x\":[]\x7d"

/-- What the document holds. -/
def strict : Project where
  widgets := [
    { id := 1, size := {}, props := { control := .tabBar { selected := 1 } } },
    { id := 2, size := {}, props := { control := .link "" } }]

theorem decode_loose : decode loose = .ok strict := by decide +kernel

theorem valid_normal_of_decode_loose :
    decode loose = .ok strict ∧ strict.Valid ∧
      (∃ v, Json.read loose = .ok v ∧
        (Document.idValues v).Pairwise fun x y => Document.integer x ≠ Document.integer y) ∧
      decode strict.encode = .ok strict ∧
      encode <$> decode strict.encode = .ok strict.encode :=
  ⟨decode_loose, valid_normal_of_decode decode_loose⟩

end Project

end Formwork

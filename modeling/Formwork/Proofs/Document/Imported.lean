import Formwork.Proofs.Document.Store
import Formwork.Proofs.Json.Unified

/-!
# A file and its text

A document may come as a file or as a text. The reader of a file unifies the ends of the lines
first, the reader of a text does not; still both accept the same documents and find the same project
in them (`Project.load_iff_ofText`), since the reader of JSON is blind to the difference
(`Json.read_unifyLines`).
-/

set_option autoImplicit false

namespace Formwork

namespace Project

theorem decode_unifyLines (s : String) (p : Project) :
    decode (Text.unifyLines s) = .ok p ↔ decode s = .ok p := by
  rw [decode, decode]
  cases plain : Json.read s with
  | ok v => rw [(Json.read_unifyLines s v).2 plain]
  | error e =>
    cases unified : Json.read (Text.unifyLines s) with
    | ok v => cases plain.symm.trans ((Json.read_unifyLines s v).1 unified)
    | error f => exact ⟨nofun, nofun⟩

theorem ofText_iff_decode (s : String) (p : Project) : ofText s = .ok p ↔ decode s = .ok p := by
  rw [ofText]
  cases decode s with
  | ok q => rw [Except.ok.injEq, Document.Checked.ok.injEq]
  | rejected r => constructor <;> rintro ⟨⟩

/-- The file of a text is accepted exactly if the text is, and holds the same project. -/
theorem load_iff_ofText {t : FileTree} {path : Path} {s : String}
    (found : t.read path = .ok s.toUTF8) (p : Project) :
    load t path = .ok p ↔ ofText s = .ok p := by
  have loaded : load t path = (ofText (Text.unifyLines s)).mapError .document :=
    load_of_read found (decode_toUTF8 s)
  calc load t path = .ok p
      ↔ (ofText (Text.unifyLines s)).mapError StoreError.document = .ok p := by rw [loaded]
    _ ↔ ofText (Text.unifyLines s) = .ok p := mapError_eq_ok_iff
    _ ↔ decode (Text.unifyLines s) = .ok p := ofText_iff_decode _ p
    _ ↔ decode s = .ok p := decode_unifyLines s p
    _ ↔ ofText s = .ok p := (ofText_iff_decode s p).symm

/-- A document whose lines end in all three ways. -/
def mixedLines : String := "\x7b\r\"widgets\":\r\n[]\n\x7d\r"

theorem load_iff_ofText_mixedLines :
    let t : FileTree := { entries := [(⟨["p.json"]⟩, .file mixedLines.toUTF8)] }
    t.read (.ofText "p.json") = .ok mixedLines.toUTF8 ∧
      (load t (.ofText "p.json") = .ok {} ↔ ofText mixedLines = .ok {}) ∧
      ofText mixedLines = .ok {} :=
  ⟨rfl, load_iff_ofText rfl {}, rfl⟩

end Project

end Formwork

import Formwork.Proofs.Files.Tree

/-!
# Where paths lead

Going up cancels the segment before it in `Path.resolve`, which does not look at the tree. Following
a path does look: every place that it visits before its last segment must be a directory, and the
system must not bar a step (`FileTree.Passes`). Nothing in a tree stands for anything else, so where a
path leads at all, it leads to the place it resolves to (`FileTree.locate_eq_ok_iff`). What can depend
on the tree is only whether it leads there.
-/

set_option autoImplicit false

namespace Formwork

namespace Path

/-- The places that a path visits, from where it begins to its end. -/
def Visits (home : Location) (p : Path) (l : Location) : Prop :=
  ∃ ss, ss <+: p.segments ∧ l = ss.foldl .enter (p.origin home)

variable {home l : Location} {p : Path}

/-- The last place that a path visits is its end. -/
theorem visits_iff : p.Visits home l ↔ p.parent.Visits home l ∨ l = p.resolve home := by
  obtain ⟨ss, start⟩ := p
  rcases ss.eq_nil_or_concat with rfl | ⟨ss, s, rfl⟩
  · simp [Visits, parent, resolve, origin]
  · simp only [Visits, parent, resolve, origin, List.concat_eq_append, List.dropLast_concat,
      List.prefix_concat_iff, or_and_right, exists_or, exists_eq_left]
    exact or_comm

theorem isNameable_parent (named : p.isNameable = true) : p.parent.isNameable = true := by
  unfold isNameable at named ⊢
  rw [List.all_eq_true] at named ⊢
  exact fun s mem => named s (List.dropLast_subset _ mem)

end Path

namespace FileTree

variable {t u : FileTree} {l : Location} {p : Path}

/-- The bytes of the file at a place, where there is one. -/
def bytes? (t : FileTree) (l : Location) : Option ByteArray :=
  match t.entry? l with
  | some (.file bytes) => some bytes
  | _ => none

theorem bytes?_eq_some {b : ByteArray} : t.bytes? l = some b ↔ t.entry? l = some (.file b) := by
  unfold bytes?
  split
  next found => simp [found]
  next other =>
    refine iff_of_false nofun fun found => ?_
    exact other b found

theorem bytes?_of_directory (found : t.entry? l = some .directory) : t.bytes? l = none := by
  rw [bytes?, found]

theorem bytes?_of_missing (missing : t.entry? l = none) : t.bytes? l = none := by
  rw [bytes?, missing]

/-- Every place that a path visits is a directory. -/
def Open (t : FileTree) (p : Path) : Prop :=
  ∀ l, p.Visits t.ground.home l → t.entry? l = some .directory

/-- No place that a path visits is a file. -/
def Clear (t : FileTree) (p : Path) : Prop :=
  ∀ l, p.Visits t.ground.home l → t.bytes? l = none

theorem open_iff : t.Open p ↔ t.Open p.parent ∧ t.entry? (t.place p) = some .directory := by
  simp only [Open, Path.visits_iff (p := p), or_imp, forall_and, forall_eq, place]

theorem clear_iff : t.Clear p ↔ t.Clear p.parent ∧ t.bytes? (t.place p) = none := by
  simp only [Clear, Path.visits_iff (p := p), or_imp, forall_and, forall_eq, place]

theorem Open.clear (h : t.Open p) : t.Clear p := fun l visited => bytes?_of_directory (h l visited)

theorem Open.of_keeps (h : t.Open p) (keeps : t.Keeps u) : u.Open p := by
  intro l visited
  rw [keeps.ground] at visited
  exact keeps.directory l (h l visited)

/-! ## What the system lets pass -/

/-- The system bars no step of the way. -/
def Unbarred (t : FileTree) : Location → List Text.Raw → Prop
  | _, [] => True
  | here, s :: ss => t.ground.bar? here s = none ∧ t.Unbarred (here.enter s) ss

theorem unbarred_append {here : Location} {rs ss : List Text.Raw} :
    t.Unbarred here (rs ++ ss) ↔ t.Unbarred here rs ∧ t.Unbarred (rs.foldl .enter here) ss := by
  induction rs generalizing here with
  | nil => exact (and_iff_right trivial).symm
  | cons r rs ih => rw [List.cons_append, Unbarred, Unbarred, ih, and_assoc, List.foldl_cons]

/-- The system lets the path pass, whatever lies on the way. -/
structure Passes (t : FileTree) (p : Path) : Prop where
  short : t.ground.isTooLong p = false
  unbarred : t.Unbarred (p.origin t.ground.home) p.segments

/-- Where a path passes, so does the way to its last segment. -/
theorem Passes.parent (h : t.Passes p) : t.Passes p.parent := by
  refine ⟨t.ground.isTooLong_parent p h.short, ?_⟩
  rcases p.segments.eq_nil_or_concat with nil | ⟨ss, s, parts⟩
  · have same : p.parent = p := by rw [Path.parent, nil, List.dropLast_nil, ← nil]
    rw [same]
    exact h.unbarred
  · have steps := h.unbarred
    rw [parts, List.concat_eq_append, unbarred_append] at steps
    rw [Path.parent, parts, List.concat_eq_append, List.dropLast_concat]
    exact steps.1

theorem passes_congr (ground : u.ground = t.ground) : u.Passes p ↔ t.Passes p := by
  have unbarred (here : Location) (ss : List Text.Raw) :
      u.Unbarred here ss ↔ t.Unbarred here ss := by
    induction ss generalizing here with
    | nil => exact Iff.rfl
    | cons s ss ih => rw [Unbarred, Unbarred, ih, ground]
  constructor
  · rintro ⟨short, steps⟩
    rw [ground] at short steps
    exact ⟨short, (unbarred _ _).1 steps⟩
  · rintro ⟨short, steps⟩
    rw [← ground] at short steps
    exact ⟨short, (unbarred _ _).2 steps⟩

/-! ## Following -/

/-- The steps of a way are not barred, and all but the last lead from directory to directory. -/
theorem follow_eq_ok_iff {here : Location} {ss : List Text.Raw} : t.follow here ss = .ok l ↔
    t.Unbarred here ss ∧ (∀ rs, rs <+: ss.dropLast → rs ≠ [] →
      t.entry? (rs.foldl .enter here) = some .directory) ∧ l = ss.foldl .enter here := by
  induction ss generalizing here with
  | nil => simp [follow, Unbarred, eq_comm]
  | cons s ss ih =>
    cases ss with
    | nil => simp [follow, Unbarred, step_eq_ok_iff]
    | cons s' ss =>
      have but_last : (s :: s' :: ss).dropLast = s :: (s' :: ss).dropLast :=
        List.dropLast_cons_of_ne_nil (List.cons_ne_nil s' ss)
      rw [follow_cons_eq_ok_iff, ih, but_last]
      constructor
      · rintro ⟨free, found, unbarred, inside, rfl⟩
        refine ⟨⟨free, unbarred⟩, fun rs start some_step => ?_, rfl⟩
        obtain rfl | ⟨rs, rfl, rest⟩ := List.prefix_cons_iff.1 start
        · exact absurd rfl some_step
        · by_cases one_step : rs = []
          · rw [one_step]
            exact found
          · exact inside rs rest one_step
      · rintro ⟨⟨free, unbarred⟩, inside, rfl⟩
        refine ⟨free, inside [s] (by simp) (List.cons_ne_nil s []), unbarred,
          fun rs start _ => ?_, rfl⟩
        exact inside (s :: rs) ((List.prefix_cons_inj s).2 start) (List.cons_ne_nil s rs)

/-- What stops a way: something is missing, a file is in the way, or a step is barred. -/
theorem follow_error {here : Location} {ss : List Text.Raw} {cause : FileError.Cause}
    (h : t.follow here ss = .error cause) : cause = .missing ∧ ss ≠ [] ∨
      (cause = .notDirectory ∧ ∃ rs b, rs <+: ss.dropLast ∧
        t.entry? (rs.foldl .enter here) = some (.file b)) ∨
      ∃ bar, cause = .barred bar ∧ ¬t.Unbarred here ss := by
  induction ss generalizing here with
  | nil => cases h
  | cons s ss ih =>
    cases free : t.ground.bar? here s with
    | some bar =>
      refine .inr (.inr ⟨bar, ?_, fun unbarred => nomatch free.symm.trans unbarred.1⟩)
      cases ss <;> simpa [follow, step, free, bind, Except.bind, eq_comm] using h
    | none =>
      cases ss with
      | nil => simp [follow, step, free] at h
      | cons s' ss =>
        cases found : t.entry? (here.enter s) with
        | none =>
          refine .inl ⟨?_, List.cons_ne_nil _ _⟩
          simpa [follow, step, free, found, bind, Except.bind, eq_comm] using h
        | some e =>
          cases e with
          | file b =>
            refine .inr (.inl ⟨?_, [s], b, by simp, found⟩)
            simpa [follow, step, free, found, bind, Except.bind, eq_comm] using h
          | directory =>
            simp only [follow, step, free, found, bind, Except.bind] at h
            rcases ih h with ⟨missing, -⟩ | ⟨stopped, rs, b, start, file⟩ | ⟨bar, stopped, barred⟩
            · exact .inl ⟨missing, List.cons_ne_nil _ _⟩
            · refine .inr (.inl ⟨stopped, s :: rs, b, ?_, file⟩)
              rw [List.dropLast_cons_of_ne_nil (by simp)]
              exact (List.prefix_cons_inj s).2 start
            · exact .inr (.inr ⟨bar, stopped, fun unbarred => barred unbarred.2⟩)

/-- A path begins in a directory. -/
theorem entry?_origin (t : FileTree) (p : Path) :
    t.entry? (p.origin t.ground.home) = some .directory := by
  refine if_pos ?_
  unfold Path.origin isAbove
  split
  · exact List.isPrefixOf_iff_prefix.2 List.prefix_rfl
  · rfl

/-- **Where a path leads.** It leads to the place that it resolves to, or nowhere. -/
theorem locate_eq_ok_iff : t.locate p = .ok l ↔
    p.isNameable = true ∧ t.Passes p ∧ t.Open p.parent ∧ l = t.place p := by
  have steps : (∀ rs, rs <+: p.segments.dropLast → rs ≠ [] →
      t.entry? (rs.foldl .enter (p.origin t.ground.home)) = some .directory) ↔
        t.Open p.parent := by
    refine ⟨?_, fun inside rs start _ => inside _ ⟨rs, start, rfl⟩⟩
    rintro inside l ⟨rs, start, rfl⟩
    cases rs with
    | nil => exact t.entry?_origin p
    | cons r rs => exact inside _ start (by simp)
  rw [locate_eq_ok_iff_follow, follow_eq_ok_iff, steps]
  constructor
  · rintro ⟨named, short, unbarred, inside, found⟩
    exact ⟨named, ⟨short, unbarred⟩, inside, found⟩
  · rintro ⟨named, passes, inside, found⟩
    exact ⟨named, passes.short, passes.unbarred, inside, found⟩

/-- What keeps a path from leading anywhere: it has no name, something is missing on the way, a file
is in the way, or the system does not let it pass. -/
theorem locate_error {e : FileError} (h : t.locate p = .error e) :
    e = .nameless p.flaw ∧ p.isNameable = false ∨
      p.isNameable = true ∧ (e = .refused .missing p ∧ p.segments ≠ [] ∨
        e = .refused .notDirectory p ∧ ¬t.Clear p.parent ∨
        ∃ bar, e = .refused (.barred bar) p ∧ ¬t.Passes p) := by
  unfold locate at h
  cases named : p.isNameable with
  | false =>
    rw [named] at h
    exact .inl ⟨(Except.error.inj h).symm, rfl⟩
  | true =>
    rw [named] at h
    refine .inr ⟨rfl, ?_⟩
    cases short : t.ground.isTooLong p with
    | true =>
      rw [short] at h
      refine .inr (.inr ⟨.tooLong, (Except.error.inj h).symm, fun passes => ?_⟩)
      cases short.symm.trans passes.short
    | false =>
      rw [short] at h
      cases stopped : t.follow (p.origin t.ground.home) p.segments with
      | ok l =>
        rw [stopped] at h
        cases h
      | error cause =>
        rw [stopped] at h
        obtain rfl := Except.error.inj h
        rcases follow_error stopped with
          ⟨rfl, deeper⟩ | ⟨rfl, rs, b, start, file⟩ | ⟨bar, rfl, barred⟩
        · exact .inl ⟨rfl, deeper⟩
        · refine .inr (.inl ⟨rfl, fun clear => ?_⟩)
          cases (bytes?_eq_some.2 file).symm.trans (clear _ ⟨rs, start, rfl⟩)
        · exact .inr (.inr ⟨bar, rfl, fun passes => barred passes.unbarred⟩)

/-- A file is read at the place that its path resolves to, at the end of a way of directories. -/
theorem read_eq_ok_iff {b : ByteArray} : t.read p = .ok b ↔
    p.isNameable = true ∧ t.Passes p ∧ t.Open p.parent ∧ t.bytes? (t.place p) = some b := by
  rw [read_eq_ok, bytes?_eq_some]
  constructor
  · rintro ⟨l, located, file⟩
    obtain ⟨named, passes, inside, rfl⟩ := locate_eq_ok_iff.1 located
    exact ⟨named, passes, inside, file⟩
  · rintro ⟨named, passes, inside, file⟩
    exact ⟨_, locate_eq_ok_iff.2 ⟨named, passes, inside, rfl⟩, file⟩

/-- Only a path without a name is refused as one. -/
theorem isNameable_of_read {flaw : Text.Flaw} (h : t.read p = .error (.nameless flaw)) :
    p.isNameable = false := by
  cases located : t.locate p with
  | error e =>
    rw [read, located] at h
    obtain rfl := Except.error.inj h
    rcases locate_error located with
      ⟨-, nameless⟩ | ⟨-, ⟨mismatch, -⟩ | ⟨mismatch, -⟩ | ⟨_, mismatch, -⟩⟩
    · exact nameless
    · cases mismatch
    · cases mismatch
    · cases mismatch
  | ok l =>
    simp only [read, located, bind, Except.bind] at h
    split at h <;> cases h

theorem isDirectory_iff_open :
    t.isDirectory p = true ↔ p.isNameable = true ∧ t.Passes p ∧ t.Open p := by
  rw [isDirectory_iff, open_iff]
  constructor
  · rintro ⟨l, located, found⟩
    obtain ⟨named, passes, inside, rfl⟩ := locate_eq_ok_iff.1 located
    exact ⟨named, passes, inside, found⟩
  · rintro ⟨named, passes, inside, found⟩
    exact ⟨_, locate_eq_ok_iff.2 ⟨named, passes, inside, rfl⟩, found⟩

end FileTree

end Formwork

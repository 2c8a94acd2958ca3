import Formwork.Proofs.Source.Bare

/-!
# Values in bare code

What a design puts into a line of code is put together of numerals, of literals, and of a few fixed
characters: those of calls, of lists, of vectors, of trees. `Composed marks` says of a text that its
bare code has the given characters only, besides the quotes of its literals, that a scanner is in
code after it, and that it does not break the line. The characters are known once for all values
(`valueMarks`, `treeMarks`), so what a reading of bare code has to know of values can be decided.
-/

set_option autoImplicit false

namespace Formwork

namespace Text

/-- Text of one line whose bare code has the quotes of literals and the given characters only. -/
structure Composed (marks : List Char) (s : String) : Prop where
  closed : Closed s
  bare_mem : ∀ c ∈ bare s, c ∈ '"' :: marks
  unbroken : Unbroken s

namespace Composed

variable {marks : List Char} {s t : String}

theorem of_quiet (quiet : Quiet s) (h : ∀ c ∈ s.toList, c ∈ marks) : Composed marks s where
  closed := quiet.closed
  bare_mem := by
    rw [quiet.bare_eq]
    exact fun c hc => List.mem_cons_of_mem _ (h c hc)
  unbroken := quiet.unbroken

theorem of_isNumeral (h : IsNumeral s) : Composed numeralChars s := of_quiet (.of_isNumeral h) h

theorem mono {more : List Char} (h : Composed marks s) (wider : marks ⊆ more) : Composed more s :=
  ⟨h.closed, fun c hc => List.cons_subset_cons _ wider (h.bare_mem c hc), h.unbroken⟩

theorem chars (cs : List Char) (h : cs.all (fun c => isQuiet c && marks.contains c) = true) :
    Composed marks (String.ofList cs) := by
  have each (c : Char) (hc : c ∈ (String.ofList cs).toList) : isQuiet c = true ∧ c ∈ marks := by
    rw [String.toList_ofList] at hc
    simpa using List.all_eq_true.1 h c hc
  exact of_quiet (fun c hc => (each c hc).1) fun c hc => (each c hc).2

theorem quote (s : String) : Composed marks (Literal.quote s) where
  closed := (Literal.bare_quote s).1
  bare_mem := by
    rw [(Literal.bare_quote s).2]
    simp
  unbroken := Literal.unbroken_quote s

theorem append (hs : Composed marks s) (ht : Composed marks t) : Composed marks (s ++ t) where
  closed := hs.closed.append ht.closed
  bare_mem := by
    rw [bare_append hs.closed]
    exact List.forall_mem_append.2 ⟨hs.bare_mem, ht.bare_mem⟩
  unbroken := hs.unbroken.append ht.unbroken

theorem intercalate {separator : String} {ss : List String} (hs : Composed marks separator)
    (h : ∀ s ∈ ss, Composed marks s) : Composed marks (separator.intercalate ss) :=
  intercalate_of_append (chars [] rfl) append hs h

end Composed

end Text

open Text (Composed)

namespace Source

/-- The characters that values are put together of, trees aside. -/
def valueMarks : List Char :=
  numeralChars ++ ['f', 'l', 'o', 'a', 't', 'i', 'm', 'g', 'u', 'I', 'V', 'e', 'c'] ++
    ['(', ')', '[', ']', ',', ' ', '/', '+']

/-- The characters that trees are put together of. -/
def treeMarks : List Char :=
  ['G', 'e', 'n', 'T', 'r', 'N', 'o', 'd', '(', ')', '[', ']', ',', ' ']

private theorem numeralChars_subset : numeralChars ⊆ valueMarks := by
  rw [valueMarks, List.append_assoc]
  exact List.subset_append_left _ _

theorem composed_intText (n : Int) : Composed valueMarks (intText n) :=
  (Composed.of_isNumeral (isNumeral_intText n)).mono numeralChars_subset

theorem composed_numberText (places : Nat) (x : Binary64) :
    Composed valueMarks (numberText places x) := by
  have call (start s : String) (h : Composed valueMarks start) :
      Composed valueMarks (start ++ Text.Literal.quote s ++ ")") :=
    (h.append (.quote s)).append (.chars _ rfl)
  cases x with
  | nan => exact call "float(" "nan" (.chars _ rfl)
  | infinite negative =>
    cases negative with
    | false => exact call "float(" "inf" (.chars _ rfl)
    | true => exact call "-float(" "inf" (.chars _ rfl)
  | finite negative u _ =>
    exact (Composed.of_isNumeral (isNumeral_fixedText places negative u)).mono numeralChars_subset

theorem composed_vectorText (v : Vec) : Composed valueMarks (vectorText v) :=
  ((((Composed.chars _ rfl).append (composed_numberText 1 v.x)).append (.chars _ rfl)).append
    (composed_numberText 1 v.y)).append (.chars _ rfl)

/-- A moved coordinate is its base with a value behind it. -/
theorem offsetText_eq_append (base : String) (x : Binary64) :
    ∃ moved, offsetText base x = base ++ moved ∧ Composed valueMarks moved := by
  have sum (sign : String) (y : Binary64) (h : Composed valueMarks sign) :
      ∃ moved, base ++ sign ++ numberText 1 y = base ++ moved ∧ Composed valueMarks moved :=
    ⟨sign ++ numberText 1 y, String.append_assoc .., h.append (composed_numberText 1 y)⟩
  unfold offsetText
  split
  next => exact sum " - " x.neg (.chars _ rfl)
  next => exact sum " + " x (.chars _ rfl)

/-- The characters of a list display, without those of its items. -/
def listMarks : List Char := ['[', ']', ',', ' ']

theorem composed_listText {marks : List Char} (display : listMarks ⊆ marks) {ss : List String}
    (h : ∀ s ∈ ss, Composed marks s) : Composed marks (listText ss) := by
  have opened : Composed listMarks "[" := .chars _ rfl
  have separator : Composed listMarks ", " := .chars _ rfl
  have closed : Composed listMarks "]" := .chars _ rfl
  have items := Composed.intercalate (separator.mono display) h
  exact ((opened.mono display).append items).append (closed.mono display)

theorem composed_texts (items : List String) :
    Composed valueMarks (listText (items.map Text.Literal.quote)) := by
  refine composed_listText (by decide) fun s hs => ?_
  obtain ⟨item, _, rfl⟩ := List.mem_map.1 hs
  exact .quote item

theorem composed_channelsText (channels : List Int) :
    Composed valueMarks (channelsText channels) := by
  refine composed_listText (by decide) fun s hs => ?_
  obtain ⟨c, _, rfl⟩ := List.mem_map.1 hs
  exact (composed_intText c).append (.chars _ rfl)

private theorem composed_nodeText (label : String) {children : List String}
    (h : ∀ s ∈ children, Composed treeMarks s) : Composed treeMarks (nodeText label children) := by
  have labelled : Composed treeMarks ("GenTreeNode(" ++ Text.Literal.quote label) :=
    (Composed.chars _ rfl).append (.quote label)
  have list := composed_listText (by decide) h
  unfold nodeText
  split
  next => exact labelled.append (.chars _ rfl)
  next => exact ((labelled.append (.chars _ rfl)).append list).append (.chars _ rfl)

mutual

private theorem composed_fold : ∀ n : Node, Composed treeMarks (n.fold nodeText)
  | .node label cs => composed_nodeText label (composed_foldAll cs)

private theorem composed_foldAll :
    ∀ ns : List Node, ∀ s ∈ Node.foldAll nodeText ns, Composed treeMarks s
  | [] => nofun
  | n :: ns => List.forall_mem_cons.2 ⟨composed_fold n, composed_foldAll ns⟩

end

theorem composed_forestText (trees : List Node) : Composed treeMarks (forestText trees) :=
  composed_listText (by decide) (composed_foldAll trees)

end Source

end Formwork

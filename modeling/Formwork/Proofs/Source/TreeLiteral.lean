import Formwork.Proofs.Outline
import Formwork.Proofs.Text.Unquoted
import Formwork.Source.Piece
import Mathlib.Data.List.Basic

/-!
# Tree literals are read back

The expression that builds a list of trees is read by the grammar that it is written in: a list is a
sequence of trees between brackets, and a tree is a call with a label and, behind a comma, the list
of its children, where there are some. Labels are string literals, so nothing in a label is taken
for a bracket or a comma (`readList?_forestText`).

Bounds on turns ask for no care: the length of the text that is read is enough.
-/

set_option autoImplicit false

namespace Formwork.Source

open Text.Literal (quote read? read?_quote)

mutual

/-- The tree at the head of a text, and what comes behind it. -/
def readTree? : Nat → List Char → Option (Node × List Char)
  | 0, _ => none
  | turns + 1, cs => do
    let cs ← cs.dropPrefix? "GenTreeNode(".toList
    let (label, cs) ← read? cs
    match cs with
    | ')' :: rest => some (.node label [], rest)
    | ',' :: ' ' :: cs => do
      let (children, cs) ← readList? turns cs
      match cs with
      | ')' :: rest => some (.node label children, rest)
      | _ => none
    | _ => none

/-- The list of trees at the head of a text. -/
def readList? : Nat → List Char → Option (List Node × List Char)
  | 0, _ => none
  | _ + 1, '[' :: ']' :: rest => some ([], rest)
  | turns + 1, '[' :: cs => do
    let (tree, cs) ← readTree? turns cs
    let (trees, rest) ← readMore? turns cs
    some (tree :: trees, rest)
  | _ + 1, _ => none

/-- The trees that follow in a list, behind one of them. -/
def readMore? : Nat → List Char → Option (List Node × List Char)
  | 0, _ => none
  | _ + 1, ']' :: rest => some ([], rest)
  | turns + 1, ',' :: ' ' :: cs => do
    let (tree, cs) ← readTree? turns cs
    let (trees, rest) ← readMore? turns cs
    some (tree :: trees, rest)
  | _ + 1, _ => none

end

/-! ## Texts -/

/-- The characters that come behind an item of a list display. -/
def moreText : List String → List Char
  | [] => [']']
  | s :: ss => ',' :: ' ' :: (s.toList ++ moreText ss)

theorem toList_listText_cons (s : String) (ss : List String) :
    (listText (s :: ss)).toList = '[' :: (s.toList ++ moreText ss) := by
  have items : (", ".intercalate (s :: ss) ++ "]").toList = s.toList ++ moreText ss := by
    induction ss generalizing s with
    | nil => rw [String.intercalate_singleton, String.toList_append]; rfl
    | cons t ts ih =>
      rw [String.intercalate_cons_cons, String.append_assoc, String.append_assoc,
        String.toList_append, String.toList_append, ih]
      rfl
  rw [listText, String.append_assoc, String.toList_append, items]
  rfl

/-- The text of a tree is a call with the label of the tree. -/
theorem toList_nodeText (label : String) (children : List String) :
    (nodeText label children).toList = "GenTreeNode(".toList ++ ((quote label).toList ++
      if children = [] then [')'] else ',' :: ' ' :: ((listText children).toList ++ [')'])) := by
  cases children with
  | nil =>
    rw [nodeText, String.toList_append, String.toList_append, List.append_assoc, if_pos rfl]
    rfl
  | cons s ss =>
    rw [nodeText, if_neg (List.cons_ne_nil s ss)]
    · simp only [String.toList_append, List.append_assoc]
      rfl
    · exact List.cons_ne_nil s ss

/-! ## Reading -/

/-- With turns enough for its text, the tree is read as itself. -/
def ReadsBack (n : Node) : Prop :=
  ∀ (turns : Nat) (rest : List Char), (n.fold nodeText).toList.length ≤ turns →
    readTree? turns ((n.fold nodeText).toList ++ rest) = some (n, rest)

/-- The text of a tree is not the end of a list. -/
theorem exists_toList_fold (n : Node) : ∃ cs, (n.fold nodeText).toList = 'G' :: cs := by
  cases n with
  | node label cs =>
    rw [Node.fold, toList_nodeText]
    exact ⟨_, rfl⟩

section Lists

variable {ns : List Node} (each : ∀ n ∈ ns, ReadsBack n) (turns : Nat) (rest : List Char)
include each

theorem readMore?_moreText
    (enough : (moreText (ns.map (Node.fold nodeText))).length ≤ turns) :
    readMore? turns (moreText (ns.map (Node.fold nodeText)) ++ rest) = some (ns, rest) := by
  induction ns generalizing turns with
  | nil =>
    obtain ⟨turns, rfl⟩ : ∃ t, turns = t + 1 := ⟨turns - 1, by simp [moreText] at enough; omega⟩
    rfl
  | cons n ns ih =>
    obtain ⟨first, others⟩ := List.forall_mem_cons.1 each
    rw [List.map_cons, moreText, List.length_cons, List.length_cons, List.length_append] at enough
    obtain ⟨turns, rfl⟩ : ∃ t, turns = t + 1 := ⟨turns - 1, by omega⟩
    have tree := first turns (moreText (ns.map (Node.fold nodeText)) ++ rest) (by omega)
    have trees := ih others turns (by omega)
    rw [List.map_cons, moreText, List.cons_append, List.cons_append, List.append_assoc]
    show (readTree? turns _).bind _ = _
    rw [tree]
    show (readMore? turns _).bind _ = _
    rw [trees]
    rfl

theorem readList?_listText
    (enough : (listText (ns.map (Node.fold nodeText))).toList.length ≤ turns) :
    readList? turns ((listText (ns.map (Node.fold nodeText))).toList ++ rest) =
      some (ns, rest) := by
  cases ns with
  | nil =>
    obtain ⟨turns, rfl⟩ : ∃ t, turns = t + 1 := ⟨turns - 1, by simp [listText] at enough; omega⟩
    rfl
  | cons n ns =>
    obtain ⟨first, others⟩ := List.forall_mem_cons.1 each
    rw [List.map_cons, toList_listText_cons, List.length_cons, List.length_append] at enough
    obtain ⟨turns, rfl⟩ : ∃ t, turns = t + 1 := ⟨turns - 1, by omega⟩
    have tree := first turns (moreText (ns.map (Node.fold nodeText)) ++ rest) (by omega)
    have trees := readMore?_moreText others turns rest (by omega)
    obtain ⟨cs, begins⟩ := exists_toList_fold n
    rw [begins, List.cons_append] at tree
    rw [List.map_cons, toList_listText_cons, List.cons_append, List.append_assoc, begins,
      List.cons_append]
    show (readTree? turns _).bind _ = _
    rw [tree]
    show (readMore? turns _).bind _ = _
    rw [trees]
    rfl

end Lists

theorem readsBack_node (label : String) {cs : List Node} (each : ∀ n ∈ cs, ReadsBack n) :
    ReadsBack (.node label cs) := by
  intro turns rest enough
  have text : ((Node.node label cs).fold nodeText).toList = "GenTreeNode(".toList ++
      ((quote label).toList ++ if cs = [] then [')']
        else ',' :: ' ' :: ((listText (cs.map (Node.fold nodeText))).toList ++ [')'])) := by
    rw [Node.fold, Node.foldAll_eq_map, toList_nodeText]
    simp only [List.map_eq_nil_iff]
  rw [text, List.length_append] at enough
  obtain ⟨turns, rfl⟩ : ∃ t, turns = t + 1 := ⟨turns - 1, by simp at enough; omega⟩
  rw [text, List.append_assoc, List.append_assoc]
  rw [readTree?, List.dropPrefix?_append_of_beq _ BEq.rfl, Option.bind_eq_bind, Option.bind_some,
    read?_quote]
  by_cases leaf : cs = []
  · rw [if_pos leaf, leaf]
    rfl
  · rw [if_neg leaf] at enough ⊢
    have children := readList?_listText each turns (')' :: rest) (by simp at enough; omega)
    rw [List.cons_append, List.cons_append, List.append_assoc]
    show (readList? turns _).bind _ = _
    rw [List.singleton_append, children]
    rfl

mutual

theorem readsBack : ∀ n : Node, ReadsBack n
  | .node label cs => readsBack_node label (readsBack_all cs)

theorem readsBack_all : ∀ ns : List Node, ∀ n ∈ ns, ReadsBack n
  | [] => nofun
  | n :: ns => List.forall_mem_cons.2 ⟨readsBack n, readsBack_all ns⟩

end

/-- The literal of a forest is read as that forest. -/
theorem readList?_forestText (trees : List Node) (rest : List Char) {turns : Nat}
    (enough : (forestText trees).toList.length ≤ turns) :
    readList? turns ((forestText trees).toList ++ rest) = some (trees, rest) := by
  rw [forestText, Node.foldAll_eq_map] at enough ⊢
  exact readList?_listText (readsBack_all trees) turns rest enough

end Formwork.Source

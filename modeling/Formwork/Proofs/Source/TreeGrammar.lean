import Formwork.Proofs.Outline.Listing
import Formwork.Proofs.Source.TreeLiteral
import Formwork.Proofs.Text.Enclosed
import Formwork.Source.Block

/-!
# The grammar of tree literals

A tree literal is a word of a small grammar: a list is a sequence of nodes between brackets, and a
node is the call `GenTreeNode` of a string literal, with a list of nodes as a second argument where
there is one. `Derivation` has the derivations of a node, whose string literals are any that can be
read, however they spell their text.

The grammar is unambiguous, with any text behind a word (`text_append_inj`): a string literal says
itself where it ends, so nothing in a label is taken for a bracket or a comma. So the literal that
is written for an outline has one derivation, and that derivation denotes the trees of the outline
(`exists_derivation_forestText`).

An outline without lines is replaced by a sample. One that has lines is not, and may still have no
trees; the list that is written for it is empty then (`forestText_treesOf_iff`).
-/

set_option autoImplicit false

namespace Formwork

namespace Text.Literal

/-- A string literal: a text that is read whole. -/
structure Token where
  chars : List Char
  value : String
  whole : read? chars = some (value, [])

/-- The literal that is written for a text. -/
def Token.ofText (s : String) : Token where
  chars := (quote s).toList
  value := s
  whole := by simpa using read?_quote s []

/-- A literal ends where it says, whatever comes behind it. -/
theorem Token.append_inj {t u : Token} {rest rest' : List Char}
    (h : t.chars ++ rest = u.chars ++ rest') : t = u ∧ rest = rest' := by
  have reads := read?_append t.whole rest
  rw [h, read?_append u.whole rest'] at reads
  obtain ⟨value, same⟩ := Prod.mk.inj (Option.some.inj reads)
  obtain rfl : rest' = rest := same
  obtain ⟨chars, _, _⟩ := t
  obtain ⟨chars', _, _⟩ := u
  obtain rfl : chars = chars' := List.append_cancel_right h
  obtain rfl : _ = _ := value
  exact ⟨rfl, rfl⟩

end Text.Literal

namespace Source

open Text.Literal (Token quote)

/-- What a node begins with. -/
def nodeMark : List Char := "GenTreeNode(".toList

/-- A derivation of a node. -/
inductive Derivation where
  /-- `GenTreeNode(literal)` -/
  | leaf (label : Token)
  /-- `GenTreeNode(literal, list)` -/
  | branch (label : Token) (children : List Derivation)

namespace Derivation

mutual

/-- The word that a node is derived as. -/
def text : Derivation → List Char
  | leaf label => nodeMark ++ (label.chars ++ [')'])
  | branch label ds => nodeMark ++ (label.chars ++ ',' :: ' ' :: (listText ds ++ [')']))

/-- The word that a list of nodes is derived as. -/
def listText : List Derivation → List Char
  | [] => ['[', ']']
  | d :: ds => '[' :: (d.text ++ moreText ds)

/-- What follows a node in a list. -/
def moreText : List Derivation → List Char
  | [] => [']']
  | d :: ds => ',' :: ' ' :: (d.text ++ moreText ds)

end

mutual

/-- The tree that a node denotes. -/
def denote : Derivation → Node
  | leaf label => .node label.value []
  | branch label ds => .node label.value (denoteAll ds)

/-- The trees that a list of nodes denotes. -/
def denoteAll : List Derivation → List Node
  | [] => []
  | d :: ds => d.denote :: denoteAll ds

end

/-! ## One derivation at most -/

section Unambiguous

variable {label label' : Token} {ds : List Derivation} {rest rest' : List Char}

theorem text_leaf_append : (leaf label).text ++ rest =
    nodeMark ++ (label.chars ++ ')' :: rest) := by
  simp only [text, List.append_assoc, List.singleton_append]

theorem text_branch_append : (branch label ds).text ++ rest =
    nodeMark ++ (label.chars ++ ',' :: ' ' :: (listText ds ++ ')' :: rest)) := by
  simp only [text, List.append_assoc, List.cons_append, List.nil_append]

/-- Calls that begin alike have the same label. -/
theorem call_inj (h : nodeMark ++ (label.chars ++ rest) =
    nodeMark ++ (label'.chars ++ rest')) : label = label' ∧ rest = rest' :=
  Token.append_inj (List.append_cancel_left h)

/-- A node does not begin like the end of a list. -/
theorem close_ne_text {d : Derivation} : ']' :: rest ≠ d.text ++ rest' := by
  cases d <;> exact nofun

end Unambiguous

mutual

/-- A text begins with the word of one node at most. -/
theorem text_append_inj : ∀ {d e : Derivation} {rest rest' : List Char},
    d.text ++ rest = e.text ++ rest' → d = e ∧ rest = rest'
  | leaf label, leaf label', _, _, h => by
    rw [text_leaf_append, text_leaf_append] at h
    obtain ⟨rfl, close⟩ := call_inj h
    exact ⟨rfl, (List.cons.inj close).2⟩
  | leaf label, branch label' es, _, _, h => by
    rw [text_leaf_append, text_branch_append] at h
    exact nomatch (call_inj h).2
  | branch label ds, leaf label', _, _, h => by
    rw [text_branch_append, text_leaf_append] at h
    exact nomatch (call_inj h).2
  | branch label ds, branch label' es, _, _, h => by
    rw [text_branch_append, text_branch_append] at h
    obtain ⟨rfl, comma⟩ := call_inj h
    obtain ⟨rfl, close⟩ := listText_append_inj (List.cons.inj (List.cons.inj comma).2).2
    exact ⟨rfl, (List.cons.inj close).2⟩

theorem listText_append_inj : ∀ {ds es : List Derivation} {rest rest' : List Char},
    listText ds ++ rest = listText es ++ rest' → ds = es ∧ rest = rest'
  | [], [], _, _, h => ⟨rfl, List.append_cancel_left h⟩
  | [], e :: es, _, _, h => by
    rw [listText, listText, List.cons_append, List.cons_append, List.cons_append,
      List.append_assoc] at h
    exact absurd (List.cons.inj h).2 close_ne_text
  | d :: ds, [], _, _, h => by
    rw [listText, listText, List.cons_append, List.cons_append, List.cons_append,
      List.append_assoc] at h
    exact absurd (List.cons.inj h).2.symm close_ne_text
  | d :: ds, e :: es, _, _, h => by
    rw [listText, listText, List.cons_append, List.cons_append, List.append_assoc,
      List.append_assoc] at h
    obtain ⟨rfl, more⟩ := text_append_inj (List.cons.inj h).2
    obtain ⟨rfl, same⟩ := moreText_append_inj more
    exact ⟨rfl, same⟩

theorem moreText_append_inj : ∀ {ds es : List Derivation} {rest rest' : List Char},
    moreText ds ++ rest = moreText es ++ rest' → ds = es ∧ rest = rest'
  | [], [], _, _, h => ⟨rfl, List.append_cancel_left h⟩
  | [], _ :: _, _, _, h => nomatch h
  | _ :: _, [], _, _, h => nomatch h
  | d :: ds, e :: es, _, _, h => by
    rw [moreText, moreText, List.cons_append, List.cons_append, List.cons_append, List.cons_append,
      List.append_assoc, List.append_assoc] at h
    obtain ⟨rfl, more⟩ := text_append_inj (List.cons.inj (List.cons.inj h).2).2
    obtain ⟨rfl, same⟩ := moreText_append_inj more
    exact ⟨rfl, same⟩

end

/-! ## The derivation of a forest -/

mutual

/-- The derivation of the literal that is written for a tree. -/
def ofNode : Node → Derivation
  | .node label [] => leaf (.ofText label)
  | .node label (c :: cs) => branch (.ofText label) (ofNode c :: ofNodes cs)

/-- The derivations of the literals that are written for trees. -/
def ofNodes : List Node → List Derivation
  | [] => []
  | n :: ns => ofNode n :: ofNodes ns

end

mutual

theorem denote_ofNode : ∀ n : Node, (ofNode n).denote = n
  | .node label [] => by rw [ofNode, denote, Token.ofText]
  | .node label (c :: cs) => by
    rw [ofNode, denote, denoteAll, denote_ofNode c, denoteAll_ofNodes cs, Token.ofText]

theorem denoteAll_ofNodes : ∀ ns : List Node, denoteAll (ofNodes ns) = ns
  | [] => rfl
  | n :: ns => by rw [ofNodes, denoteAll, denote_ofNode n, denoteAll_ofNodes ns]

end

private theorem toList_nodeText_eq (label : String) (children : List String) :
    (nodeText label children).toList = nodeMark ++ ((quote label).toList ++
      if children = [] then [')']
      else ',' :: ' ' :: ((Source.listText children).toList ++ [')'])) := by
  unfold nodeMark
  exact toList_nodeText label children

mutual

theorem text_ofNode : ∀ n : Node, (ofNode n).text = (n.fold nodeText).toList
  | .node label [] => by
    rw [Node.fold, toList_nodeText_eq, ofNode, text, Token.ofText, Node.foldAll,
      if_pos rfl]
  | .node label (c :: cs) => by
    rw [Node.fold, toList_nodeText_eq, Node.foldAll, if_neg (List.cons_ne_nil _ _),
      toList_listText_cons, ofNode, text, listText, text_ofNode c, moreText_ofNodes cs,
      Token.ofText]

theorem moreText_ofNodes : ∀ ns : List Node,
    moreText (ofNodes ns) = Source.moreText (Node.foldAll nodeText ns)
  | [] => rfl
  | n :: ns => by
    rw [ofNodes, moreText, text_ofNode n, moreText_ofNodes ns]
    rfl

end

/-- What is written for a forest is a word of the grammar. -/
theorem listText_ofNodes (ns : List Node) : listText (ofNodes ns) = (forestText ns).toList := by
  cases ns with
  | nil => rfl
  | cons n ns =>
    rw [forestText, Node.foldAll, toList_listText_cons, ofNodes, listText, text_ofNode,
      moreText_ofNodes]

end Derivation

/-- **Tree literals denote their outline.** Whatever the lines, there is one derivation, and no
other one, of the literal that is written for their outline, and it denotes the trees that are read
from the lines, or from the sample where there are no lines. -/
theorem exists_derivation_forestText (lines : List String) :
    ∃ ds, (∀ es, Derivation.listText es = (forestText (treesOf lines)).toList ↔ es = ds) ∧
      Derivation.denoteAll ds = Outline.parse (if lines = [] then outlineFallback else lines) := by
  refine ⟨Derivation.ofNodes (treesOf lines), fun es => ⟨fun word => ?_, ?_⟩, ?_⟩
  · rw [← Derivation.listText_ofNodes] at word
    exact (Derivation.listText_append_inj (congrArg (· ++ []) word)).1
  · rintro rfl
    exact Derivation.listText_ofNodes _
  · rw [Derivation.denoteAll_ofNodes, treesOf]
    cases lines <;> rfl

/-- Quotes, brackets and commas of a label stay in the label. -/
example : forestText (treesOf ["a\"), [", "  ]"]) =
    "[GenTreeNode(\"a\\\"), [\", [GenTreeNode(\"]\")])]" := by decide

/-! ## The sample -/

theorem forestText_inj {ns ms : List Node} : forestText ns = forestText ms ↔ ns = ms := by
  refine ⟨fun same => ?_, congrArg forestText⟩
  have read := readList?_forestText ns [] (Nat.le_refl _)
  rw [same, readList?_forestText ms [] (Nat.le_refl _)] at read
  exact (Prod.mk.inj (Option.some.inj read)).1.symm

/-- **Only an outline without lines is replaced.** Nothing is read from lines exactly when the first
of them that counts is indented, or none counts. What is written for lines is the literal of the
sample exactly when there are no lines, or when the same trees are read from them as from the
sample; and it is the empty list exactly when there are lines and nothing is read from them. -/
theorem forestText_treesOf_iff (lines : List String) :
    (Outline.parse lines = [] ↔ ∀ e ∈ (Outline.entries lines).head?, 0 < e.level) ∧
      (forestText (treesOf lines) = forestText (Outline.parse outlineFallback) ↔
        lines = [] ∨ Outline.parse lines = Outline.parse outlineFallback) ∧
      (forestText (treesOf lines) = "[]" ↔ lines ≠ [] ∧ Outline.parse lines = []) := by
  have empty : "[]" = forestText [] := rfl
  refine ⟨Outline.parse_eq_nil_iff lines, ?_⟩
  rw [empty, forestText_inj, forestText_inj, treesOf]
  cases lines with
  | nil => exact ⟨⟨fun _ => .inl rfl, fun _ => rfl⟩, ⟨nofun, fun none => absurd rfl none.1⟩⟩
  | cons line lines =>
    have some : line :: lines ≠ [] := List.cons_ne_nil line lines
    exact ⟨(or_iff_right some).symm, (and_iff_right some).symm⟩

/-- A single line that is indented has no trees, and is not replaced by the sample. -/
theorem forestText_treesOf_indented :
    Outline.parse ["  A"] = [] ∧ forestText (treesOf ["  A"]) = "[]" ∧
      forestText (treesOf ["  A"]) ≠ forestText (Outline.parse outlineFallback) := by
  decide

end Source

end Formwork

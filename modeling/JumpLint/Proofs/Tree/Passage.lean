import JumpLint.Proofs.Tree.Place

/-!
# Where the text of an element stands

The text of a node is made of its brackets and of the texts of its children.  So the way down to an
element passes over some text on the left and leaves some on the right, and what is between them is
the text of the element.  Both sides are read off the way alone, without a look at what is found
there.

## What is here

* `Element.textBefore`, `Element.textAfter`: the text on either side of the place that an address
  leads to.
* `Element.text_eq_of_at?`: between them stands the text of the element.
* `Element.prefix_textBefore`: of two elements that do not hold each other the one that comes first
  ends before the other one begins.
* `Document.textBefore`, `Document.textAfter`: the same in the text of a document, and
  `Document.pairwise_passages` about the elements in the order in which they are listed.
-/

set_option autoImplicit false
namespace JumpLint
namespace Element

/-- The bracket in front of the children; a token has none. -/
def opening : Element → Text
  | .token _ _ _ => []
  | .node kind _ => .ofString kind.opening

/-- The bracket behind the children; a token has none. -/
def closing : Element → Text
  | .token _ _ _ => []
  | .node kind _ => .ofString kind.closing

/-- The text that is passed over on the way down an address: at each step the bracket of the element
and the children in front of the one that is taken. -/
def textBefore (e : Element) : Address → Text
  | [] => []
  | i :: more =>
    match e.children[i]? with
    | some child => e.opening ++ textOfAll (e.children.take i) ++ child.textBefore more
    | none => []

/-- The text that the way down an address leaves behind: at each step the children behind the one
that is taken, and the bracket of the element. -/
def textAfter (e : Element) : Address → Text
  | [] => []
  | i :: more =>
    match e.children[i]? with
    | some child => child.textAfter more ++ textOfAll (e.children.drop (i + 1)) ++ e.closing
    | none => []

theorem textBefore_cons {e child : Element} {i : Nat} (h : e.children[i]? = some child)
    (more : Address) :
    e.textBefore (i :: more) =
      e.opening ++ textOfAll (e.children.take i) ++ child.textBefore more := by
  rw [textBefore, h]

theorem textAfter_cons {e child : Element} {i : Nat} (h : e.children[i]? = some child)
    (more : Address) :
    e.textAfter (i :: more) =
      child.textAfter more ++ textOfAll (e.children.drop (i + 1)) ++ e.closing := by
  rw [textAfter, h]

/-- A first step down an address goes to a child. -/
theorem at?_cons_eq_some_iff {e f : Element} {i : Nat} {more : Address} :
    e.at? (i :: more) = some f ↔
      ∃ child, e.children[i]? = some child ∧ child.at? more = some f := by
  rw [at?_cons, Option.bind_eq_some_iff]

/-! ## Texts in a row -/

theorem textOfAll_append (elements others : List Element) :
    textOfAll (elements ++ others) = textOfAll elements ++ textOfAll others := by
  induction elements with
  | nil => rfl
  | cons e more ih => rw [List.cons_append, textOfAll, textOfAll, ih, List.append_assoc]

/-- The text of a row as that of one of its elements and those around it. -/
theorem textOfAll_eq {elements : List Element} {i : Nat} {e : Element}
    (h : elements[i]? = some e) :
    textOfAll elements =
      textOfAll (elements.take i) ++ e.text ++ textOfAll (elements.drop (i + 1)) := by
  obtain ⟨hi, rfl⟩ := List.getElem?_eq_some_iff.1 h
  calc textOfAll elements
      = textOfAll (elements.take i ++ elements[i] :: elements.drop (i + 1)) := by
        rw [← List.drop_eq_getElem_cons hi, List.take_append_drop]
    _ = textOfAll (elements.take i) ++ elements[i].text ++ textOfAll (elements.drop (i + 1)) := by
        rw [textOfAll_append, textOfAll, List.append_assoc]

/-- Behind an element the text goes on with that of the elements in between. -/
theorem prefix_textOfAll_take {elements : List Element} {i j : Nat} {e : Element}
    (h : elements[i]? = some e) (hij : i < j) :
    textOfAll (elements.take i) ++ e.text <+: textOfAll (elements.take j) := by
  have hi : (elements.take j)[i]? = some e := by rw [List.getElem?_take_of_lt hij, h]
  rw [textOfAll_eq hi, List.take_take, Nat.min_eq_left (Nat.le_of_lt hij)]
  exact List.prefix_append _ _

/-- An element with a child has the texts of its children between its brackets. -/
theorem text_eq_of_child {e child : Element} {i : Nat} (h : e.children[i]? = some child) :
    e.text = e.opening ++ textOfAll e.children ++ e.closing := by
  cases e with
  | token => cases h
  | node kind children => rw [text, opening, closing, Element.children]

/-! ## Elements in their places -/

/-- **An element stands in its place.**  By induction on the address: the child that it leads to
stands between its siblings, and the element in its place within the child. -/
theorem text_eq_of_at? {e f : Element} {a : Address} (h : e.at? a = some f) :
    e.text = e.textBefore a ++ f.text ++ e.textAfter a := by
  induction a generalizing e with
  | nil =>
    cases h
    rw [textBefore, textAfter, List.nil_append, List.append_nil]
  | cons i more ih =>
    obtain ⟨child, hchild, hf⟩ := at?_cons_eq_some_iff.1 h
    calc e.text
        = e.opening ++ textOfAll e.children ++ e.closing := text_eq_of_child hchild
      _ = e.opening ++ (textOfAll (e.children.take i) ++
            (child.textBefore more ++ f.text ++ child.textAfter more) ++
            textOfAll (e.children.drop (i + 1))) ++ e.closing := by
          rw [textOfAll_eq hchild, ih hf]
      _ = e.textBefore (i :: more) ++ f.text ++ e.textAfter (i :: more) := by
          rw [textBefore_cons hchild, textAfter_cons hchild]
          simp only [List.append_assoc]

/-- What an element holds stands inside of its own text. -/
theorem prefix_text_of_at? {e f : Element} {a : Address} (h : e.at? a = some f) :
    e.textBefore a ++ f.text <+: e.text := by
  rw [text_eq_of_at? h]
  exact List.prefix_append _ _

/-- **Elements do not overlap.**  Where two addresses part, the smaller one goes to a child further
on the left, and all of this child stands in front of the other one. -/
theorem prefix_textBefore {e f g : Element} {a b : Address} (ha : e.at? a = some f)
    (hb : e.at? b = some g) (hlt : a < b) (hout : ¬a <+: b) :
    e.textBefore a ++ f.text <+: e.textBefore b := by
  induction a generalizing e b with
  | nil => exact absurd List.nil_prefix hout
  | cons i more ih =>
    cases b with
    | nil => exact absurd hlt (List.not_lt_nil _)
    | cons j rest =>
      obtain ⟨child, hchild, hf⟩ := at?_cons_eq_some_iff.1 ha
      obtain ⟨other, hother, hg⟩ := at?_cons_eq_some_iff.1 hb
      rw [textBefore_cons hchild, textBefore_cons hother, List.append_assoc]
      rcases List.cons_lt_cons_iff.1 hlt with hij | ⟨rfl, hmore⟩
      · have hsiblings := (List.prefix_append_right_inj (textOfAll (e.children.take i))).2
          (prefix_text_of_at? hf)
        have hrow := hsiblings.trans (prefix_textOfAll_take hchild hij)
        rw [List.append_assoc, List.append_assoc]
        exact (List.prefix_append_right_inj e.opening).2 (hrow.trans (List.prefix_append _ _))
      · cases hchild.symm.trans hother
        have hsame : ¬more <+: rest := fun h => hout (List.cons_prefix_cons.2 ⟨rfl, h⟩)
        exact (List.prefix_append_right_inj _).2 (ih hf hg hmore hsame)

end Element

/-! ## Documents -/

namespace Document

/-- The text of a document on the left of the place that an address leads to. -/
def textBefore (d : Document) (a : Address) : Text := d.root.element.textBefore a

/-- The text of a document on the right of the place that an address leads to. -/
def textAfter (d : Document) (a : Address) : Text := d.root.element.textAfter a

/-- The root has no brackets. -/
theorem text_root (d : Document) : d.root.element.text = d.text := by
  rw [root, Element.text, text]
  exact List.append_nil _

theorem text_eq_of_at? {d : Document} {a : Address} {e : Element} (h : d.at? a = some e) :
    d.text = d.textBefore a ++ e.text ++ d.textAfter a := by
  rw [← text_root]
  exact Element.text_eq_of_at? h

/-- In the listing of a document an element ends where the next one begins or before it, unless it
holds that one. -/
theorem pairwise_passages (d : Document) :
    d.sites.Pairwise fun s t => ¬s.address <+: t.address →
      d.textBefore s.address ++ s.element.text <+: d.textBefore t.address := by
  refine d.pairwise_sites.imp_of_mem fun hs ht hlt hout => ?_
  exact Element.prefix_textBefore (at?_of_mem_sites hs) (at?_of_mem_sites ht) hlt hout

end Document
end JumpLint

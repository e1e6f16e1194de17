import JumpLint.Proofs.Tree.Scope
import Mathlib.Data.List.Nodup
import Mathlib.Logic.Relation

/-!
# Trees without white space

White space, comments and documentation may stand at any place of a tree, and each of them moves
what stands behind it to another address.  A tree is *bare* when there are none of them.  Here the
sites of a document are compared with those of the bare document: what is left is the same, in the
same order, and there is a function from the addresses in the one to those in the other.

## What is here

* `Element.bare`, `Element.bareAll`: a tree without insignificant tokens.
* `Inserts`, `Respaces`, `Document.IsRespaced`: putting insignificant tokens in, and taking them
  out, at any place and any number of times; `respaces_iff`: this is the same as having one bare
  form.
* `bareWay`, `Document.way`: the address in the bare tree; `Site.bare`: the site there.
* `Document.remaining`: the sites of what is left in a bare document, the root in front of them, and
  `Document.map_bare_remaining`: they are the sites of the bare document.
* `Document.injOn_way`: no two of them get the same address.
* `Document.Corresponds`: places of two documents of which as much is left in front.
-/

set_option autoImplicit false
namespace JumpLint

/-! ## Bare trees -/

namespace Element

mutual

/-- An element without insignificant tokens below it. -/
def bare : Element → Element
  | .token kind text location => .token kind text location
  | .node kind children => .node kind (bareAll children)

/-- Elements in a row, without insignificant tokens among them and below them. -/
def bareAll : List Element → List Element
  | [] => []
  | e :: more => if e.isSignificant then e.bare :: bareAll more else bareAll more

end

theorem bareAll_eq (elements : List Element) :
    bareAll elements = (significant elements).map bare := by
  induction elements with
  | nil => rfl
  | cons e more ih =>
    rw [bareAll, significant, List.filter_cons]
    split
    · rw [List.map_cons, ih, significant]
    · exact ih

theorem bareAll_append (before after : List Element) :
    bareAll (before ++ after) = bareAll before ++ bareAll after := by
  rw [bareAll_eq, bareAll_eq, bareAll_eq, significant, List.filter_append, List.map_append]
  rfl

theorem isSignificant_bare (e : Element) : e.bare.isSignificant = e.isSignificant := by
  cases e <;> rfl

theorem isBlock_bare (e : Element) : e.bare.isBlock = e.isBlock := by
  cases e with
  | token => rfl
  | node kind => cases kind <;> rfl

theorem isBreak_bare (e : Element) : e.bare.isBreak = e.isBreak := by
  cases e with
  | token => rfl
  | node kind => cases kind <;> rfl

theorem children_bare (e : Element) : e.bare.children = bareAll e.children := by
  cases e <;> rfl

/-- Nothing insignificant is left. -/
theorem significant_bareAll (elements : List Element) :
    significant (bareAll elements) = bareAll elements := by
  rw [significant, List.filter_eq_self, bareAll_eq]
  intro b hb
  obtain ⟨e, he, rfl⟩ := List.mem_map.1 hb
  rw [isSignificant_bare]
  exact (List.mem_filter.1 he).2

end Element

/-! ## Putting in and taking out -/

/-- An insignificant token is put into a row of elements, or somewhere below one of them. -/
inductive Inserts : List Element → List Element → Prop where
  | here {e : Element} (before after : List Element) (blank : e.isSignificant = false) :
      Inserts (before ++ after) (before ++ e :: after)
  | inside {children children' : List Element} (before after : List Element) (kind : NodeKind)
      (inserts : Inserts children children') :
      Inserts (before ++ .node kind children :: after) (before ++ .node kind children' :: after)

theorem Inserts.bareAll_eq {row row' : List Element} (h : Inserts row row') :
    Element.bareAll row = Element.bareAll row' := by
  induction h with
  | @here e before after blank =>
    rw [Element.bareAll_append, Element.bareAll_append, Element.bareAll, blank]
    rfl
  | @inside children children' before after kind inserts ih =>
    simp only [Element.bareAll_append, Element.bareAll, Element.bare, Element.isSignificant, ih]

/-- Insignificant tokens are put in or taken out, one after the other. -/
def Respaces : List Element → List Element → Prop :=
  Relation.ReflTransGen (Relation.SymmGen Inserts)

theorem Respaces.bareAll_eq {row row' : List Element} (h : Respaces row row') :
    Element.bareAll row = Element.bareAll row' := by
  induction h with
  | refl => rfl
  | tail _ hstep ih => exact ih.trans (hstep.elim (·.bareAll_eq) fun h => h.bareAll_eq.symm)

theorem Respaces.symm {row row' : List Element} (h : Respaces row row') : Respaces row' row :=
  Relation.ReflTransGen.stdSymm.symm _ _ h

/-- What happens to the children of a node happens to a row with the node in it. -/
theorem Respaces.inside {children children' : List Element} (h : Respaces children children')
    (before after : List Element) (kind : NodeKind) :
    Respaces (before ++ .node kind children :: after) (before ++ .node kind children' :: after) :=
  h.lift (fun row => before ++ .node kind row :: after)
    fun _ _ => Or.imp (.inside before after kind) (.inside before after kind)

mutual

/-- All insignificant tokens below an element can be taken out. -/
theorem respaces_bare (before after : List Element) (e : Element) :
    Respaces (before ++ e :: after) (before ++ e.bare :: after) := by
  cases e with
  | token => exact .refl
  | node kind children => exact (respaces_bareAll [] children).inside before after kind

/-- All insignificant tokens of a row can be taken out. -/
theorem respaces_bareAll (before row : List Element) :
    Respaces (before ++ row) (before ++ Element.bareAll row) := by
  cases row with
  | nil => exact .refl
  | cons e more =>
    rw [Element.bareAll]
    split
    · have hmore := respaces_bareAll (before ++ [e.bare]) more
      rw [List.append_assoc, List.append_assoc] at hmore
      exact (respaces_bare before more e).trans hmore
    · rename_i hblank
      exact .head (.inr (.here before more (Bool.eq_false_iff.2 hblank)))
        (respaces_bareAll before more)

end

/-- **Coming and going.**  One row becomes another one when both are the same without insignificant
tokens. -/
theorem respaces_iff {row row' : List Element} :
    Respaces row row' ↔ Element.bareAll row = Element.bareAll row' := by
  constructor
  · exact Respaces.bareAll_eq
  · intro h
    exact (respaces_bareAll [] row).trans (h ▸ (respaces_bareAll [] row').symm)

namespace Document

/-- A document after insignificant tokens have come and gone. -/
structure IsRespaced (d d' : Document) : Prop where
  filename : d.filename = d'.filename
  children : Respaces d.children d'.children

/-- A document without insignificant tokens. -/
def bare (d : Document) : Document := { d with children := Element.bareAll d.children }

/-- **The bare document stays as it is** when insignificant tokens come and go. -/
theorem bare_eq_of_isRespaced {d d' : Document} (h : d.IsRespaced d') : d.bare = d'.bare := by
  rw [bare, bare, h.filename, h.children.bareAll_eq]

end Document

/-! ## Addresses in bare trees -/

/-- The way down a row of elements, and the children of one of them, when the row is bare. -/
def bareWay (elements : List Element) : Address → Address
  | [] => []
  | i :: more =>
    (significant (elements.take i)).length ::
      bareWay ((elements[i]?.map Element.children).getD []) more

theorem bareWay_append_cons (done : List Element) (e : Element) (rest : List Element)
    (more : Address) :
    bareWay (done ++ e :: rest) (done.length :: more) =
      (significant done).length :: bareWay e.children more := by
  rw [bareWay, List.take_left, List.getElem?_append_right (Nat.le_refl _), Nat.sub_self]
  rfl

namespace Site

/-- The site of the bare element, where addresses are changed by a function. -/
def bare (way : Address → Address) (s : Site) : Site :=
  ⟨way s.address, s.scopes.map way, s.element.bare⟩

theorem innerScopes_bare (way : Address → Address) (s : Site) :
    (s.bare way).innerScopes = s.innerScopes.map way := by
  rw [innerScopes, innerScopes, bare, Element.isBlock_bare]
  split <;> rfl

end Site

/-- Insignificant is a token only, which has nothing below it. -/
theorem filter_preorder_of_not_isSignificant {address : Address} {scopes : List Address}
    {e : Element} (h : e.isSignificant = false) :
    (preorder address scopes e).filter (·.element.isSignificant) = [] := by
  cases e with
  | token =>
    rw [preorder, List.filter_cons, if_neg (Bool.eq_false_iff.1 h)]
    rfl
  | node => cases h

mutual

/-- A listing loses what is insignificant, and keeps the rest in order.  The function `way` goes on
below the element as it has to. -/
theorem map_bare_preorder (way : Address → Address) (address : Address) (scopes : List Address)
    (e : Element) (hsignificant : e.isSignificant = true)
    (hway : ∀ more, way (address ++ more) = way address ++ bareWay e.children more) :
    ((preorder address scopes e).filter (·.element.isSignificant)).map (Site.bare way) =
      preorder (way address) (scopes.map way) e.bare := by
  cases e with
  | token kind text location =>
    rw [preorder, List.filter_cons, if_pos hsignificant]
    rfl
  | node kind children =>
    have hinner := Site.innerScopes_bare way ⟨address, scopes, .node kind children⟩
    have hbelow := map_bare_preorderAll way address
      (Site.innerScopes ⟨address, scopes, .node kind children⟩) [] children hway
    rw [preorder, List.filter_cons, if_pos hsignificant, List.map_cons, Element.bare, preorder]
    exact congrArg (List.cons _) (hbelow.trans (by rw [← hinner]; rfl))

/-- The same for elements in a row, of which those in `done` are in front of the others. -/
theorem map_bare_preorderAll (way : Address → Address) (address : Address) (scopes : List Address)
    (done rest : List Element)
    (hway : ∀ more, way (address ++ more) = way address ++ bareWay (done ++ rest) more) :
    ((preorderAll address scopes done.length rest).filter (·.element.isSignificant)).map
        (Site.bare way) =
      preorderAll (way address) (scopes.map way) (significant done).length
        (Element.bareAll rest) := by
  cases rest with
  | nil => rfl
  | cons e more =>
    have hnext := map_bare_preorderAll way address scopes (done ++ [e]) more (by simpa using hway)
    have hat : way (address ++ [done.length]) = way address ++ [(significant done).length] := by
      rw [hway, bareWay_append_cons, bareWay]
    have hbelow : ∀ w, way (address ++ [done.length] ++ w) =
        way (address ++ [done.length]) ++ bareWay e.children w := by
      intro w
      rw [hat, List.append_assoc, List.append_assoc, List.singleton_append, List.singleton_append,
        hway, bareWay_append_cons]
    rw [List.length_append, List.length_singleton, significant, List.filter_append] at hnext
    rw [preorderAll, List.filter_append, List.map_append, hnext, Element.bareAll]
    cases hsignificant : e.isSignificant with
    | true =>
      rw [map_bare_preorder way _ scopes e hsignificant hbelow, hat, if_pos rfl, preorderAll]
      simp [hsignificant, significant]
    | false =>
      rw [filter_preorder_of_not_isSignificant hsignificant]
      simp [hsignificant, significant]

end

/-! ## Documents -/

namespace Document

variable {d d' : Document}

/-- The sites of what is left in the bare document, the root in front of them. -/
def remaining (d : Document) : List Site := d.root :: d.sites.filter (·.element.isSignificant)

/-- The address that a place of a document has in the bare document. -/
def way (d : Document) : Address → Address := bareWay d.children

theorem way_nil (d : Document) : d.way [] = [] := by rw [way, bareWay]

/-- **The bare document has the remaining sites**, in the same order. -/
theorem map_bare_remaining (d : Document) :
    d.remaining.map (Site.bare d.way) = d.bare.root :: d.bare.sites := by
  have hlisting := map_bare_preorder d.way [] [[]] (.node .document d.children) rfl fun more => by
    rw [way_nil, List.nil_append, List.nil_append]
    rfl
  have hroot : preorder [] [[]] (.node .document d.children) = d.root :: d.sites := root_preorder d
  have hbare : preorder [] [[]] (.node .document d.bare.children) = d.bare.root :: d.bare.sites :=
    root_preorder d.bare
  have hsignificant : d.root.element.isSignificant = true := rfl
  rw [hroot, List.filter_cons, if_pos hsignificant, List.map_singleton, way_nil, Element.bare]
    at hlisting
  exact hlisting.trans hbare

theorem sites_bare (d : Document) :
    d.bare.sites = (d.sites.filter (·.element.isSignificant)).map (Site.bare d.way) :=
  (List.cons.inj d.map_bare_remaining).2.symm

theorem map_way_remaining (d : Document) :
    (d.remaining.map Site.address).map d.way = d.bare.root.preorder.map Site.address := by
  rw [root_preorder, ← map_bare_remaining, List.map_map, List.map_map]
  rfl

theorem nodup_preorder_address (s : Site) : (s.preorder.map Site.address).Nodup := by
  have hrising : (s.preorder.map Site.address).Pairwise (· < ·) :=
    List.pairwise_map.2 s.pairwise_preorder
  rw [List.Nodup]
  refine hrising.imp ?_
  rintro a _ hlt rfl
  exact List.lt_irrefl a hlt

/-- No two remaining places have one address in the bare document. -/
theorem injOn_way {a b : Address} (ha : a ∈ d.remaining.map Site.address)
    (hb : b ∈ d.remaining.map Site.address) (h : d.way a = d.way b) : a = b :=
  List.inj_on_of_nodup_map (d.map_way_remaining ▸ nodup_preorder_address _) ha hb h

theorem address_mem_remaining {s : Site} (hs : s ∈ d.sites) (h : s.element.isSignificant = true) :
    s.address ∈ d.remaining.map Site.address :=
  List.mem_map_of_mem (List.mem_cons_of_mem _ (List.mem_filter.2 ⟨hs, h⟩))

/-- Scopes remain. -/
theorem scope_mem_remaining {s : Site} (hs : s ∈ d.sites) {b : Address} (hb : b ∈ s.scopes) :
    b ∈ d.remaining.map Site.address := by
  rcases (mem_scopes_iff (mem_sites_iff.1 hs).2).1 hb with rfl | hblock
  · exact List.mem_cons_self
  · obtain ⟨children, hchildren⟩ := hblock.block
    obtain ⟨t, ht, rfl, helement⟩ := exists_site_of_at? hblock.ne_nil hchildren
    exact address_mem_remaining ht (helement ▸ rfl)

/-! ## Two documents -/

/-- A place of one document, and the place of another one that has the same number when the
remaining places are counted in order. -/
def Corresponds (d d' : Document) (a a' : Address) : Prop :=
  ∃ i : Nat, (d.remaining.map Site.address)[i]? = some a ∧
    (d'.remaining.map Site.address)[i]? = some a'

/-- Documents that are the same when they are bare have places that correspond, and these get the
same address. -/
theorem corresponds_of_way_eq (h : d.bare = d'.bare) {a a' : Address}
    (ha : a ∈ d.remaining.map Site.address) (ha' : a' ∈ d'.remaining.map Site.address)
    (hway : d.way a = d'.way a') : d.Corresponds d' a a' := by
  obtain ⟨i, hi⟩ := List.mem_iff_getElem?.1 ha
  obtain ⟨j, hj⟩ := List.mem_iff_getElem?.1 ha'
  have hbare := nodup_preorder_address d.bare.root
  have hlisted : (d.bare.root.preorder.map Site.address)[i]? =
      (d.bare.root.preorder.map Site.address)[j]? := by
    rw [← map_way_remaining, List.getElem?_map, hi, map_way_remaining, h, ← map_way_remaining,
      List.getElem?_map, hj, Option.map_some, Option.map_some, hway]
  have hlength : i < (d.bare.root.preorder.map Site.address).length := by
    rw [← map_way_remaining, List.length_map]
    exact (List.getElem?_eq_some_iff.1 hi).1
  rw [(List.getElem?_inj hlength hbare).1 hlisted] at hi
  exact ⟨j, hi, hj⟩

end Document
end JumpLint

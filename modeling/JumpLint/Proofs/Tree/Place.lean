import JumpLint.Tree.Walk

/-!
# Places in a tree

An address leads from an element to the elements below it, one child number at a time.  The walk
through a tree does not follow addresses, it takes sites off a stack; what is shown here is that it
passes through the places that addresses lead to, through each of them once, and in the order of the
addresses.

## What is here

* `Element.at?`, `Document.at?`: the element that an address leads to, by recursion on the address
  and with no regard to scopes.
* `Site.at?_map_element`, `Site.address_of_at?`: the site that an address leads to holds that
  element and knows its address.
* `Site.mem_preorder_iff`: the listing of a tree holds what addresses lead to, and nothing else.
* `Site.pairwise_preorder`: in the listing addresses rise.  The order is that of rows of numbers, in
  which an address comes before those that continue it, and siblings come from left to right.
* `Document.mem_sites_iff`, `Document.pairwise_sites`: the same for the sites of a document.
-/

set_option autoImplicit false
namespace JumpLint

namespace Element

/-- The element that an address leads to from here. -/
def at? (e : Element) : Address → Option Element
  | [] => some e
  | i :: more =>
    match e.children[i]? with
    | some child => child.at? more
    | none => none

theorem at?_nil (e : Element) : e.at? [] = some e := rfl

theorem at?_cons (e : Element) (i : Nat) (more : Address) :
    e.at? (i :: more) = e.children[i]?.bind fun child => child.at? more := by
  rw [at?]
  cases e.children[i]? <;> rfl

end Element

/-! ## Sites at addresses -/

theorem getElem?_placed (address : Address) (scopes : List Address) (i j : Nat)
    (elements : List Element) :
    (placed address scopes i elements)[j]? =
      elements[j]?.map fun e => ⟨address ++ [i + j], scopes, e⟩ := by
  induction elements generalizing i j with
  | nil => rfl
  | cons e more ih =>
    cases j with
    | zero => rfl
    | succ j =>
      rw [placed, List.getElem?_cons_succ, List.getElem?_cons_succ, ih (i + 1) j,
        show i + 1 + j = i + (j + 1) by omega]

namespace Site

theorem getElem?_children (s : Site) (i : Nat) :
    s.children[i]? = s.element.children[i]?.map fun e => ⟨s.address ++ [i], s.innerScopes, e⟩ := by
  rw [children, getElem?_placed, Nat.zero_add]

theorem at?_nil (s : Site) : s.at? [] = some s := rfl

theorem at?_cons (s : Site) (i : Nat) (more : Address) :
    s.at? (i :: more) = s.children[i]?.bind fun child => child.at? more := by
  rw [at?]
  cases s.children[i]? <;> rfl

/-- A first step down an address goes to a child. -/
theorem at?_cons_eq_some_iff {s t : Site} {i : Nat} {more : Address} :
    s.at? (i :: more) = some t ↔ ∃ e, s.element.children[i]? = some e ∧
      (⟨s.address ++ [i], s.innerScopes, e⟩ : Site).at? more = some t := by
  rw [at?_cons, getElem?_children, Option.bind_map, Option.bind_eq_some_iff]
  rfl

/-- Sites hold the elements that stand at their addresses. -/
theorem at?_map_element (s : Site) (a : Address) :
    (s.at? a).map (·.element) = s.element.at? a := by
  induction a generalizing s with
  | nil => rfl
  | cons i more ih =>
    rw [at?_cons, Element.at?_cons, getElem?_children, Option.map_bind, Option.bind_map]
    exact Option.bind_congr fun e _ => ih ⟨s.address ++ [i], s.innerScopes, e⟩

/-- Sites know their addresses. -/
theorem address_of_at? {s t : Site} {a : Address} (h : s.at? a = some t) :
    t.address = s.address ++ a := by
  induction a generalizing s with
  | nil =>
    cases h
    rw [List.append_nil]
  | cons i more ih =>
    obtain ⟨e, -, ht⟩ := at?_cons_eq_some_iff.1 h
    rw [ih ht, List.append_assoc, List.singleton_append]

theorem element_of_at? {s t : Site} {a : Address} (h : s.at? a = some t) :
    s.element.at? a = some t.element := by
  rw [← at?_map_element, h, Option.map_some]

/-- Where an address leads to an element there is a site. -/
theorem exists_at?_of_element {s : Site} {a : Address} {e : Element}
    (h : s.element.at? a = some e) : ∃ t, s.at? a = some t ∧ t.element = e := by
  rw [← at?_map_element] at h
  exact Option.map_eq_some_iff.1 h

/-! ## The listing -/

theorem size_le_stackSize {c : Site} {stack : List Site} (h : c ∈ stack) :
    c.element.size ≤ stackSize stack := by
  induction h with
  | head rest => exact Nat.le_add_right _ _
  | tail s _ ih => exact Nat.le_trans ih (Nat.le_add_left _ _)

theorem size_lt_of_mem_children {s c : Site} (h : c ∈ s.children) :
    c.element.size < s.element.size :=
  Nat.lt_of_le_of_lt (size_le_stackSize h) (stackSize_children s)

/-- Induction on a tree: what is inherited from all children of a site holds of every site. -/
theorem induction_children {motive : Site → Prop}
    (step : ∀ s, (∀ c ∈ s.children, motive c) → motive s) (s : Site) : motive s := by
  induction h : s.element.size using Nat.strongRecOn generalizing s with
  | ind n ih => exact step s fun c hc => ih _ (h ▸ size_lt_of_mem_children hc) c rfl

/-- **The listing is complete and invents nothing**: it holds the sites that addresses lead to. -/
theorem mem_preorder_iff {s t : Site} : t ∈ s.preorder ↔ ∃ a, s.at? a = some t := by
  induction s using induction_children with
  | step s ih =>
    rw [preorder_eq, List.mem_cons, List.mem_flatMap]
    constructor
    · rintro (rfl | ⟨c, hc, ht⟩)
      · exact ⟨[], at?_nil t⟩
      · obtain ⟨i, hi⟩ := List.mem_iff_getElem?.1 hc
        obtain ⟨a, ha⟩ := (ih c hc).1 ht
        exact ⟨i :: a, by rw [at?_cons, hi, Option.bind_some, ha]⟩
    · rintro ⟨a, ha⟩
      cases a with
      | nil => exact .inl (Option.some.inj ha).symm
      | cons i more =>
        rw [at?_cons] at ha
        obtain ⟨c, hc, ht⟩ := Option.bind_eq_some_iff.1 ha
        have hmem : c ∈ s.children := List.mem_of_getElem? hc
        exact .inr ⟨c, hmem, (ih c hmem).2 ⟨more, ht⟩⟩

theorem exists_address_of_mem_preorder {s t : Site} (h : t ∈ s.preorder) :
    ∃ a, t.address = s.address ++ a := by
  obtain ⟨a, ha⟩ := mem_preorder_iff.1 h
  exact ⟨a, address_of_at? ha⟩

end Site

theorem pairwise_placed (address : Address) (scopes : List Address) (i : Nat)
    (elements : List Element) :
    (placed address scopes i elements).Pairwise fun a b =>
      ∃ m n, m < n ∧ a.address = address ++ [m] ∧ b.address = address ++ [n] := by
  rw [List.pairwise_iff_getElem]
  intro m n hm hn hmn
  have hplace : ∀ k (hk : k < (placed address scopes i elements).length),
      (placed address scopes i elements)[k].address = address ++ [i + k] := by
    intro k hk
    obtain ⟨e, -, he⟩ := Option.map_eq_some_iff.1
      ((getElem?_placed address scopes i k elements).symm.trans (List.getElem?_eq_getElem hk))
    rw [← he]
  exact ⟨i + m, i + n, by omega, hplace m hm, hplace n hn⟩

namespace Site

/-- **Addresses rise in the listing.** -/
theorem pairwise_preorder (s : Site) :
    s.preorder.Pairwise fun a b => a.address < b.address := by
  induction s using induction_children with
  | step s ih =>
    rw [preorder_eq, List.pairwise_cons, List.pairwise_flatMap]
    refine ⟨fun t ht => ?_, ih, ?_⟩
    · obtain ⟨c, hc, ht⟩ := List.mem_flatMap.1 ht
      obtain ⟨i, hi⟩ := List.mem_iff_getElem?.1 hc
      rw [getElem?_children] at hi
      obtain ⟨e, -, rfl⟩ := Option.map_eq_some_iff.1 hi
      obtain ⟨a, ha⟩ := exists_address_of_mem_preorder ht
      have hlt : s.address ++ [] < s.address ++ ([i] ++ a) :=
        List.append_left_lt (List.nil_lt_cons i a)
      rwa [List.append_nil, ← List.append_assoc, ← ha] at hlt
    · refine (pairwise_placed s.address s.innerScopes 0 s.element.children).imp ?_
      rintro c d ⟨m, n, hmn, hc, hd⟩ x hx y hy
      obtain ⟨a, ha⟩ := exists_address_of_mem_preorder hx
      obtain ⟨b, hb⟩ := exists_address_of_mem_preorder hy
      rw [ha, hb, hc, hd, List.append_assoc, List.append_assoc]
      exact List.append_left_lt (List.cons_lt_cons_iff.2 (.inl hmn))

end Site

/-! ## Documents -/

namespace Document

/-- The element that an address leads to from the root. -/
def at? (d : Document) (a : Address) : Option Element := d.root.element.at? a

theorem root_preorder (d : Document) : d.root.preorder = d.root :: d.sites := by
  rw [Site.preorder_eq, sites, walk_eq_preorder]

/-- The sites of a document are those that addresses other than the empty one lead to. -/
theorem mem_sites_iff {d : Document} {s : Site} :
    s ∈ d.sites ↔ s.address ≠ [] ∧ d.root.at? s.address = some s := by
  have hlisted : s ∈ d.root :: d.sites ↔ ∃ a, d.root.at? a = some s := by
    rw [← root_preorder, Site.mem_preorder_iff]
  have hrises : ∀ t ∈ d.sites, d.root.address < t.address := by
    have h := d.root.pairwise_preorder
    rw [root_preorder, List.pairwise_cons] at h
    exact h.1
  constructor
  · intro hs
    obtain ⟨a, ha⟩ := hlisted.1 (List.mem_cons_of_mem _ hs)
    have haddr : s.address = a := Site.address_of_at? ha
    refine ⟨fun hnil => ?_, by rw [haddr, ha]⟩
    exact List.not_lt_nil _ (hnil ▸ hrises s hs)
  · rintro ⟨hne, hs⟩
    rcases List.mem_cons.1 (hlisted.2 ⟨_, hs⟩) with rfl | hmem
    · exact absurd rfl hne
    · exact hmem

theorem pairwise_sites (d : Document) : d.sites.Pairwise fun a b => a.address < b.address := by
  have h := d.root.pairwise_preorder
  rw [root_preorder, List.pairwise_cons] at h
  exact h.2

/-- The element of a site is the one at its address. -/
theorem at?_of_mem_sites {d : Document} {s : Site} (h : s ∈ d.sites) :
    d.at? s.address = some s.element :=
  Site.element_of_at? (mem_sites_iff.1 h).2

/-- An element below the root has a site. -/
theorem exists_site_of_at? {d : Document} {a : Address} {e : Element} (hne : a ≠ [])
    (h : d.at? a = some e) : ∃ s ∈ d.sites, s.address = a ∧ s.element = e := by
  obtain ⟨s, hs, he⟩ := Site.exists_at?_of_element h
  have haddr : s.address = a := Site.address_of_at? hs
  exact ⟨s, mem_sites_iff.2 ⟨haddr ▸ hne, haddr ▸ hs⟩, haddr, he⟩

end Document
end JumpLint

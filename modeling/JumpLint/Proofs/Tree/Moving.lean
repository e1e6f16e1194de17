import JumpLint.Proofs.Tree.Scope

/-!
# Trees at other places

Elements can be put somewhere else in a tree: behind other elements, or inside another node.  They
are listed there in the same order as before.  Their addresses begin in another way, and the scopes
around them may be more, but these are then outside of those that there were.

## What is here

* `Site.moved`: a site at another place, with a function from the old addresses to the new ones.
* `map_moved_preorder`, `map_moved_preorderAll`: the listing at the other place.
* `preorderAll_append`: the listing of two rows, the one behind the other.
* `Document.sites_eq_preorderAll`: the sites of a document are the listing of its children.
-/

set_option autoImplicit false
namespace JumpLint

namespace Site

/-- A site at another place: `move` changes the addresses, and the scopes `outer` are added outside
of all others. -/
def moved (move : Address → Address) (outer : List Address) (s : Site) : Site :=
  ⟨move s.address, s.scopes.map move ++ outer, s.element⟩

theorem innerScopes_moved (move : Address → Address) (outer : List Address) (s : Site) :
    (s.moved move outer).innerScopes = s.innerScopes.map move ++ outer := by
  by_cases hblock : s.element.isBlock = true
  · simp [innerScopes, moved, hblock]
  · simp [innerScopes, moved, hblock]

theorem scope_moved (move : Address → Address) (outer : List Address) {s : Site}
    (h : s.scopes ≠ []) : (s.moved move outer).scope = move s.scope := by
  obtain ⟨inner, rest, hscopes⟩ := List.exists_cons_of_ne_nil h
  simp [scope, moved, hscopes]

end Site

/-! ## Listings -/

mutual

/-- An element is listed alike at another place.  Below its own address, `move` has to leave
addresses as they are. -/
theorem map_moved_preorder (move : Address → Address) (outer : List Address) (address : Address)
    (scopes : List Address) (e : Element)
    (hmove : ∀ more, move (address ++ more) = move address ++ more) :
    (preorder address scopes e).map (Site.moved move outer) =
      preorder (move address) (scopes.map move ++ outer) e := by
  cases e with
  | token => rfl
  | node kind children =>
    have hinner := Site.innerScopes_moved move outer ⟨address, scopes, .node kind children⟩
    have hbelow := map_moved_preorderAll move outer address (move address)
      (Site.innerScopes ⟨address, scopes, .node kind children⟩) 0 0 children
      fun _ _ => hmove _
    rw [preorder, List.map_cons, hbelow, ← hinner, preorder]
    rfl

/-- The same for elements in a row.  They may get other numbers, as long as these follow one
another as before. -/
theorem map_moved_preorderAll (move : Address → Address) (outer : List Address)
    (address address' : Address) (scopes : List Address) (i i' : Nat) (row : List Element)
    (hmove : ∀ k more, move (address ++ (i + k) :: more) = address' ++ (i' + k) :: more) :
    (preorderAll address scopes i row).map (Site.moved move outer) =
      preorderAll address' (scopes.map move ++ outer) i' row := by
  cases row with
  | nil => rfl
  | cons e more =>
    have hat : ∀ w, move (address ++ [i] ++ w) = address' ++ [i'] ++ w := by
      intro w
      simpa using hmove 0 w
    have hfirst : move (address ++ [i]) = address' ++ [i'] := by simpa using hat []
    have hhead := map_moved_preorder move outer (address ++ [i]) scopes e
      fun w => by rw [hat, hfirst]
    have hnext := map_moved_preorderAll move outer address address' scopes (i + 1) (i' + 1) more
      fun k w => by
        have h := hmove (k + 1) w
        rwa [show i + (k + 1) = i + 1 + k by omega, show i' + (k + 1) = i' + 1 + k by omega] at h
    rw [preorderAll, List.map_append, hhead, hfirst, hnext, preorderAll]

end

theorem preorderAll_append (address : Address) (scopes : List Address) (i : Nat)
    (before after : List Element) :
    preorderAll address scopes i (before ++ after) =
      preorderAll address scopes i before ++
        preorderAll address scopes (i + before.length) after := by
  induction before generalizing i with
  | nil => rfl
  | cons e more ih =>
    rw [List.cons_append, preorderAll, preorderAll, ih, List.append_assoc, List.length_cons,
      show i + 1 + more.length = i + (more.length + 1) by omega]

/-! ## Documents -/

namespace Document

theorem sites_eq_preorderAll (d : Document) : d.sites = preorderAll [] [[]] 0 d.children := by
  have hlisted : d.root :: preorderAll [] [[]] 0 d.children = d.root :: d.sites :=
    root_preorder d
  exact (List.cons.inj hlisted).2.symm

theorem address_ne_nil {d : Document} {s : Site} (h : s ∈ d.sites) : s.address ≠ [] :=
  (mem_sites_iff.1 h).1

/-- A site of a document has the root around it. -/
theorem scopes_ne_nil {d : Document} {s : Site} (h : s ∈ d.sites) : s.scopes ≠ [] :=
  (d.isNested_root.at? (mem_sites_iff.1 h).2).nonempty

end Document
end JumpLint

import JumpLint.Tree.Element

/-!
# Walking a tree

An element by itself does not know where it stands.  A *site* is an element together with its
address, the list of child numbers that leads to it from the root, and with the scopes around it:
the blocks that hold it, innermost first, and the root as the outermost of all.  A scope is named by
its address, so two blocks with the same text are different scopes.

## What is here

* `Site.children`: the sites of a node's children.
* `walk`: all sites at and below a row of sites, found with an explicit stack.
* `preorder`: the same listing by recursion on the tree; `walk_eq_preorder` says that it is the
  same, each site before those below it and siblings from left to right.
* `Document.sites`: the sites of all elements below the root.
* `Site.at?`: the site that an address leads to.
* `Site.location`: the location of a token, and of a node that of its first token.
-/

set_option autoImplicit false
namespace JumpLint

/-- The way from the root to an element, by child numbers. -/
abbrev Address := List Nat

/-- An element in its place. -/
structure Site where
  address : Address
  scopes : List Address
  element : Element
deriving Repr

/-- Sites for elements in a row, the first of which is child number `i`. -/
def placed (address : Address) (scopes : List Address) (i : Nat) : List Element → List Site
  | [] => []
  | e :: more => ⟨address ++ [i], scopes, e⟩ :: placed address scopes (i + 1) more

namespace Site

/-- The scopes around the children of a site: a block is one more. -/
def innerScopes (s : Site) : List Address :=
  if s.element.isBlock then s.address :: s.scopes else s.scopes

/-- The sites of the children. -/
def children (s : Site) : List Site := placed s.address s.innerScopes 0 s.element.children

/-- The innermost scope around a site. -/
def scope (s : Site) : Address := s.scopes.headD []

end Site

/-! ## The walk -/

/-- The number of elements at and below the sites of a stack. -/
def stackSize : List Site → Nat
  | [] => 0
  | s :: rest => s.element.size + stackSize rest

theorem stackSize_placed (address : Address) (scopes : List Address) (i : Nat)
    (elements : List Element) :
    stackSize (placed address scopes i elements) = Element.sizeOfAll elements := by
  induction elements generalizing i with
  | nil => rfl
  | cons e more ih => rw [placed, stackSize, Element.sizeOfAll, ih]

theorem stackSize_children (s : Site) : stackSize s.children < s.element.size := by
  unfold Site.children
  rw [stackSize_placed]
  cases h : s.element <;> simp [Element.children, Element.size, Element.sizeOfAll]

theorem stackSize_append (a b : List Site) : stackSize (a ++ b) = stackSize a + stackSize b := by
  induction a with
  | nil => rw [List.nil_append, stackSize, Nat.zero_add]
  | cons s rest ih => rw [List.cons_append, stackSize, stackSize, ih, Nat.add_assoc]

/-- All sites at and below those of a stack: the top is taken off, and its children are put on. -/
def walk (stack : List Site) : List Site :=
  match stack with
  | [] => []
  | s :: rest => s :: walk (s.children ++ rest)
termination_by stackSize stack
decreasing_by
  have h := stackSize_children s
  rw [stackSize_append, stackSize]
  omega

mutual

/-- A site and all sites below it, by recursion on the element. -/
def preorder (address : Address) (scopes : List Address) : Element → List Site
  | .token kind text location => [⟨address, scopes, .token kind text location⟩]
  | .node kind children =>
    let site : Site := ⟨address, scopes, .node kind children⟩
    site :: preorderAll address site.innerScopes 0 children

/-- The sites at and below elements in a row, the first of which is child number `i`. -/
def preorderAll (address : Address) (scopes : List Address) (i : Nat) : List Element → List Site
  | [] => []
  | e :: more =>
    preorder (address ++ [i]) scopes e ++ preorderAll address scopes (i + 1) more

end

/-- A site and all sites below it. -/
def Site.preorder (s : Site) : List Site := JumpLint.preorder s.address s.scopes s.element

theorem flatMap_preorder_placed (address : Address) (scopes : List Address) (i : Nat)
    (elements : List Element) :
    (placed address scopes i elements).flatMap Site.preorder =
      preorderAll address scopes i elements := by
  induction elements generalizing i with
  | nil => rfl
  | cons e more ih => simp [placed, preorderAll, Site.preorder, ih]

theorem Site.preorder_eq (s : Site) : s.preorder = s :: s.children.flatMap Site.preorder := by
  obtain ⟨address, scopes, element⟩ := s
  cases element with
  | token => simp [Site.preorder, JumpLint.preorder, Site.children, Element.children, placed]
  | node kind children =>
    simp [Site.preorder, JumpLint.preorder, Site.children, Element.children,
      flatMap_preorder_placed]

/-- **The walk is the recursive listing.**  The sites on the stack are listed in order, each with
everything below it. -/
theorem walk_eq_preorder (stack : List Site) : walk stack = stack.flatMap Site.preorder := by
  fun_induction walk stack with
  | case1 => rfl
  | case2 s rest ih => simp [ih, Site.preorder_eq s]

/-! ## Documents -/

/-- The root of a document.  It is no block and has no brackets, and all of the document is in its
scope. -/
def Document.root (d : Document) : Site := ⟨[], [[]], .node .document d.children⟩

/-- The sites of all elements below the root, each before those below it. -/
def Document.sites (d : Document) : List Site := walk d.root.children

namespace Site

/-- The site that an address leads to from here. -/
def at? (s : Site) : Address → Option Site
  | [] => some s
  | i :: more =>
    match s.children[i]? with
    | some child => child.at? more
    | none => none

/-- The location of a token; the location of a node is that of the first token below it. -/
def location (s : Site) : Location :=
  match s.element with
  | .token _ _ location => location
  | .node _ _ =>
    match (walk s.children).find? (·.element.isToken) with
    | some ⟨_, _, .token _ _ location⟩ => location
    | _ => .unknown

end Site
end JumpLint

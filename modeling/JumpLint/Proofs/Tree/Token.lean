import JumpLint.Proofs.Tree.Place
import Mathlib.Data.List.Basic

/-!
# The tokens of a tree

The location of a node is that of the first token that the walk comes to.  Here the tokens of an
element are listed from left to right by recursion on the element, and the location of a site is
read off that listing.

## What is here

* `Element.locations`: the locations of the tokens of an element, from left to right.
* `Site.location_eq`: a site is located where its first token is, known or not, and a site without
  tokens nowhere.
-/

set_option autoImplicit false
namespace JumpLint
namespace Element

mutual

/-- The locations of the tokens of an element, from left to right. -/
def locations : Element → List Location
  | .token _ _ location => [location]
  | .node _ children => locationsOfAll children

/-- The locations of the tokens of elements in a row. -/
def locationsOfAll : List Element → List Location
  | [] => []
  | e :: more => e.locations ++ locationsOfAll more

end

theorem locationsOfAll_eq (elements : List Element) :
    locationsOfAll elements = elements.flatMap locations := by
  induction elements with
  | nil => rfl
  | cons e more ih => rw [locationsOfAll, ih, List.flatMap_cons]

/-- The location of a token. -/
def ownLocation? : Element → Option Location
  | .token _ _ location => some location
  | .node _ _ => none

end Element

theorem map_element_placed (address : Address) (scopes : List Address) (i : Nat)
    (elements : List Element) : (placed address scopes i elements).map Site.element = elements := by
  induction elements generalizing i with
  | nil => rfl
  | cons e more ih => rw [placed, List.map_cons, ih]

namespace Site

theorem map_element_children (s : Site) : s.children.map Site.element = s.element.children := by
  rw [children, map_element_placed]

/-- The tokens in the listing of a site are those of its element, in the same order. -/
theorem filterMap_ownLocation?_preorder (s : Site) :
    s.preorder.filterMap (·.element.ownLocation?) = s.element.locations := by
  induction s using induction_children with
  | step s ih =>
    have hbelow : (s.children.flatMap Site.preorder).filterMap (·.element.ownLocation?) =
        s.element.children.flatMap Element.locations := by
      rw [List.filterMap_flatMap, ← map_element_children, List.flatMap_map]
      exact List.flatMap_congr ih
    rw [preorder_eq, List.filterMap_cons, hbelow]
    cases s.element with
    | token kind text location => rfl
    | node kind children => rw [Element.locations, Element.locationsOfAll_eq]; rfl

theorem find?_isToken_eq (sites : List Site) :
    (match sites.find? (·.element.isToken) with
      | some ⟨_, _, .token _ _ location⟩ => location
      | _ => Location.unknown) =
      (sites.filterMap (·.element.ownLocation?)).head?.getD .unknown := by
  induction sites with
  | nil => rfl
  | cons s more ih =>
    obtain ⟨address, scopes, element⟩ := s
    cases element with
    | token => rfl
    | node => exact ih

/-- **Where a site is.**  Its location is that of its first token, whatever the token is and even if
the token's own location is unknown; without any token it is unknown. -/
theorem location_eq (s : Site) : s.location = s.element.locations.head?.getD .unknown := by
  rw [location]
  split
  · rename_i helement
    rw [helement]
    rfl
  · rename_i kind children helement
    rw [walk_eq_preorder, ← filterMap_ownLocation?_preorder s, preorder_eq, List.filterMap_cons,
      helement]
    exact find?_isToken_eq _

end Site
end JumpLint

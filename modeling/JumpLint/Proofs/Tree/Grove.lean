import JumpLint.Proofs.Tree.Place
import Mathlib.Data.List.Basic
import Mathlib.Logic.Relation

/-!
# Trees in a row

Whatever elements are, each with a row of children, the walk below one of them is the same loop: the
element at the end of a stack is taken off and listed, and its children are put on, the last of them
first.  Nothing in the loop knows about trees.  Here it is compared with a finite tree that is listed
by recursion, and the elements that it lists are found at the addresses of that tree.

## What is here

* `Grove`: finite trees in a row, with the listing by recursion, `Grove.preorder`, and the places
  of what is listed, `Grove.addresses`.
* `Unfolds`: a grove is what stands at the elements of a row and below them.
* `turn?`, `Ends`: the loop with its stack; `Unfolds.run` is one stretch of it, in which a row is
  taken off the stack with everything below it.
* `child?`, `IsPreorder`: a listing is that of the loop and that of the recursion, and it is in the
  order of the addresses.  `Unfolds.isPreorder` says that a finite tree has such a listing.
* `LocatesFirst`: elements are located by the first token of their listing, and
  `Unfolds.locatesFirst` that this is the one in the first child with a token.
* `Site.walk_in_preorder`: the walk through a document gives such a listing.
-/

set_option autoImplicit false
namespace JumpLint

open Relation

variable {α : Type}

/-! ## Groves -/

/-- Finite trees in a row: the root of the first one, the row below that root, and the row behind
it. -/
inductive Grove (α : Type) where
  | nil
  | cons (root : α) (below behind : Grove α)

namespace Grove

/-- The elements of a grove, each before those below it and trees from left to right. -/
def preorder : Grove α → List α
  | .nil => []
  | .cons root below behind => root :: (below.preorder ++ behind.preorder)

/-- The addresses of the elements of a grove, the first root of which is child number `i`. -/
def addresses : Nat → Grove α → List Address
  | _, .nil => []
  | i, .cons _ below behind => [i] :: ((below.addresses 0).map (i :: ·) ++ behind.addresses (i + 1))

/-- Addresses begin with the number of a root. -/
theorem exists_cons_of_mem_addresses {g : Grove α} {i : Nat} {p : Address}
    (h : p ∈ g.addresses i) : ∃ j more, p = j :: more ∧ i ≤ j := by
  induction g generalizing i with
  | nil => cases h
  | cons root below behind _ ih =>
    simp only [addresses, List.mem_cons, List.mem_append, List.mem_map] at h
    rcases h with rfl | ⟨q, -, rfl⟩ | h
    · exact ⟨i, [], rfl, Nat.le_refl i⟩
    · exact ⟨i, q, rfl, Nat.le_refl i⟩
    · obtain ⟨j, more, rfl, hle⟩ := ih h
      exact ⟨j, more, rfl, by omega⟩

/-- **Addresses rise in the listing.** -/
theorem pairwise_addresses (g : Grove α) (i : Nat) : (g.addresses i).Pairwise (· < ·) := by
  induction g generalizing i with
  | nil => exact .nil
  | cons root below behind hbelow hbehind =>
    have hdown : ((below.addresses 0).map (i :: ·)).Pairwise (· < ·) :=
      (hbelow 0).map _ fun p q hpq => List.cons_lt_cons_iff.2 (.inr ⟨rfl, hpq⟩)
    refine List.pairwise_cons.2 ⟨fun q hq => ?_,
      List.pairwise_append.2 ⟨hdown, hbehind (i + 1), fun p hp q hq => ?_⟩⟩
    · rcases List.mem_append.1 hq with hq | hq
      · obtain ⟨p, hp, rfl⟩ := List.mem_map.1 hq
        obtain ⟨j, more, rfl, -⟩ := exists_cons_of_mem_addresses hp
        exact List.cons_lt_cons_iff.2 (.inr ⟨rfl, List.nil_lt_cons j more⟩)
      · obtain ⟨j, more, rfl, hlt⟩ := exists_cons_of_mem_addresses hq
        exact List.cons_lt_cons_iff.2 (.inl hlt)
    · obtain ⟨r, -, rfl⟩ := List.mem_map.1 hp
      obtain ⟨j, more, rfl, hlt⟩ := exists_cons_of_mem_addresses hq
      exact List.cons_lt_cons_iff.2 (.inl hlt)

end Grove

/-! ## What stands below an element -/

/-- What stands at the elements of a row and below them is the grove. -/
inductive Unfolds (children : α → List α) : List α → Grove α → Prop
  | nil : Unfolds children [] .nil
  | cons {root : α} {rest : List α} {below behind : Grove α}
      (hbelow : Unfolds children (children root) below) (hbehind : Unfolds children rest behind) :
      Unfolds children (root :: rest) (.cons root below behind)

variable {children : α → List α} {row : List α} {a : α} {g : Grove α}

theorem exists_unfolds (h : ∀ a ∈ row, ∃ g, Unfolds children (children a) g) :
    ∃ g, Unfolds children row g := by
  induction row with
  | nil => exact ⟨.nil, .nil⟩
  | cons root rest ih =>
    obtain ⟨below, hbelow⟩ := h root List.mem_cons_self
    obtain ⟨behind, hbehind⟩ := ih fun a ha => h a (List.mem_cons_of_mem _ ha)
    exact ⟨_, .cons hbelow hbehind⟩

/-- Where no way down goes on for ever there is a finite tree. -/
theorem exists_unfolds_of_acc (h : Acc (fun c a => c ∈ children a) a) :
    ∃ g, Unfolds children (children a) g := by
  induction h with
  | intro a _ ih => exact exists_unfolds ih

theorem not_transGen_of_acc {r : α → α → Prop} (h : Acc r a) : ¬TransGen r a a := by
  induction h with
  | intro a _ ih =>
    intro hcircle
    obtain ⟨b, hab, hba⟩ := TransGen.tail'_iff.1 hcircle
    exact ih b hba (.head' hba hab)

theorem Unfolds.acc (h : Unfolds children row g) : ∀ a ∈ row, Acc (fun c a => c ∈ children a) a := by
  induction h with
  | nil => exact fun a ha => absurd ha List.not_mem_nil
  | cons _ _ hbelow hbehind => exact List.forall_mem_cons.2 ⟨⟨_, hbelow⟩, hbehind⟩

/-- No element of a finite tree stands below itself. -/
theorem Unfolds.not_transGen (h : Unfolds children (children a) g) :
    ¬TransGen (fun c a => c ∈ children a) a a :=
  not_transGen_of_acc ⟨a, h.acc⟩

/-- The element that an address leads to. -/
def child? (children : α → List α) (a : α) : Address → Option α
  | [] => some a
  | i :: more => (children a)[i]?.bind fun c => child? children c more

theorem child?_cons_of_drop {root : α} {rest : List α} {i : Nat}
    (h : (children a).drop i = root :: rest) (p : Address) :
    child? children a (i :: p) = child? children root p := by
  rw [child?, ← List.head?_drop, h, List.head?_cons, Option.bind_some]

/-! ## The loop -/

/-- One turn of the loop, with what has been listed: the end of the stack is taken off, and its
children are put on.  There is no turn when the stack is empty. -/
def turn? (children : α → List α) : List α × List α → Option (List α × List α)
  | (stack, listed) =>
    stack.getLast?.map fun a => (stack.dropLast ++ (children a).reverse, listed ++ [a])

/-- The loop that begins with the elements of a row ends, and has then listed the listing. -/
def Ends (children : α → List α) (row listing : List α) : Prop :=
  ReflTransGen (fun s t => turn? children s = some t) (row.reverse, []) ([], listing)

theorem turn?_concat (stack listed : List α) (a : α) :
    turn? children (stack ++ [a], listed) =
      some (stack ++ (children a).reverse, listed ++ [a]) := by
  simp [turn?]

namespace Unfolds

/-- **A stretch of the loop.**  Whatever lies further down on the stack, a row at its end is taken
off with everything below it, and that is listed as by recursion. -/
theorem run (h : Unfolds children row g) (stack listed : List α) :
    ReflTransGen (fun s t => turn? children s = some t)
      (stack ++ row.reverse, listed) (stack, listed ++ g.preorder) := by
  induction h generalizing stack listed with
  | nil => simpa [Grove.preorder] using ReflTransGen.refl
  | @cons root rest below behind _ _ hbelow hbehind =>
    have hpop : turn? children (stack ++ (root :: rest).reverse, listed) =
        some (stack ++ rest.reverse ++ (children root).reverse, listed ++ [root]) := by
      rw [List.reverse_cons, ← List.append_assoc, turn?_concat]
    have hrest := hbehind stack (listed ++ [root] ++ below.preorder)
    simp only [List.append_assoc, List.singleton_append] at hrest
    have hdown := hbelow (stack ++ rest.reverse) (listed ++ [root])
    simp only [List.append_assoc, List.singleton_append] at hpop hdown
    exact .head hpop (hdown.trans hrest)

/-- A grove holds the elements of its row and all that is below them. -/
theorem mem_preorder_iff (h : Unfolds children row g) {m : α} :
    m ∈ g.preorder ↔ ∃ a ∈ row, ReflTransGen (fun c a => c ∈ children a) m a := by
  induction h with
  | nil => simp [Grove.preorder]
  | @cons root rest below behind _ _ hbelow hbehind =>
    rw [Grove.preorder, List.mem_cons, List.mem_append, hbelow, hbehind, List.exists_mem_cons_iff,
      ReflTransGen.cases_tail_iff, ← or_assoc]
    simp only [and_comm, eq_comm]

/-! ## Addresses -/

/-- The elements of a grove are those at its addresses. -/
theorem map_child?_addresses (h : Unfolds children row g) {i : Nat}
    (hrow : (children a).drop i = row) :
    (g.addresses i).map (child? children a) = g.preorder.map some := by
  induction h generalizing a i with
  | nil => rfl
  | @cons root rest below behind _ _ hbelow hbehind =>
    have hstep := child?_cons_of_drop hrow
    have hrest : (children a).drop (i + 1) = rest := by
      rw [← List.tail_drop, hrow, List.tail_cons]
    rw [Grove.addresses, Grove.preorder, List.map_cons, List.map_cons, List.map_append,
      List.map_append, List.map_map, hbehind hrest, ← hbelow (List.drop_zero), hstep, child?]
    simp only [Function.comp_def, hstep]

/-- The addresses of a grove are all those that lead anywhere through its roots. -/
theorem mem_addresses_iff (h : Unfolds children row g) {i : Nat}
    (hrow : (children a).drop i = row) {p : Address} :
    p ∈ g.addresses i ↔ ∃ j more, p = j :: more ∧ i ≤ j ∧ (child? children a p).isSome := by
  induction h generalizing a i p with
  | nil =>
    refine iff_of_false List.not_mem_nil ?_
    rintro ⟨j, more, rfl, hle, hsome⟩
    have hend : (children a)[j]? = none :=
      List.getElem?_eq_none (Nat.le_trans (List.drop_eq_nil_iff.1 hrow) hle)
    rw [child?, hend] at hsome
    cases hsome
  | @cons root rest below behind _ _ hbelow hbehind =>
    have hstep := child?_cons_of_drop hrow
    have hrest : (children a).drop (i + 1) = rest := by
      rw [← List.tail_drop, hrow, List.tail_cons]
    simp only [Grove.addresses, List.mem_cons, List.mem_append, List.mem_map, hbehind hrest]
    constructor
    · rintro (rfl | ⟨q, hq, rfl⟩ | ⟨j, more, rfl, hlt, hsome⟩)
      · exact ⟨i, [], rfl, Nat.le_refl i, by rw [hstep]; rfl⟩
      · obtain ⟨-, -, -, -, hsome⟩ := (hbelow List.drop_zero).1 hq
        exact ⟨i, q, rfl, Nat.le_refl i, by rwa [hstep]⟩
      · exact ⟨j, more, rfl, by omega, hsome⟩
    · rintro ⟨j, more, rfl, hle, hsome⟩
      rcases Nat.eq_or_lt_of_le hle with rfl | hlt
      · obtain _ | ⟨k, rest⟩ := more
        · exact .inl rfl
        · rw [hstep] at hsome
          exact .inr (.inl ⟨_, (hbelow List.drop_zero).2 ⟨k, rest, rfl, Nat.zero_le k, hsome⟩, rfl⟩)
      · exact .inr (.inr ⟨j, more, rfl, hlt, hsome⟩)

end Unfolds

/-- The listing holds what is below the element: in the order in which the loop comes to it, in
that of the recursion on the tree, and in that of the addresses, of which it leaves out none. -/
structure IsPreorder (children : α → List α) (a : α) (listing : List α) : Prop where
  ends : Ends children (children a) listing
  recursive : ∃ g, Unfolds children (children a) g ∧ g.preorder = listing
  addressed : ∃ addresses : List Address, addresses.Pairwise (· < ·) ∧
    (∀ p, p ∈ addresses ↔ p ≠ [] ∧ (child? children a p).isSome) ∧
    addresses.map (child? children a) = listing.map some

theorem Unfolds.isPreorder (h : Unfolds children (children a) g) :
    IsPreorder children a g.preorder where
  ends := by simpa [Ends] using h.run [] []
  recursive := ⟨g, h, rfl⟩
  addressed := by
    refine ⟨g.addresses 0, g.pairwise_addresses 0, fun p => ?_, h.map_child?_addresses List.drop_zero⟩
    rw [h.mem_addresses_iff List.drop_zero]
    cases p with
    | nil => simp
    | cons i more => simp

/-! ## Locations -/

/-- An element is located where the first token of its listing is, and nowhere without a token.
That is where its first child with a token is located. -/
structure LocatesFirst (children : α → List α) (isToken : α → Bool) (location : α → Location)
    (a : α) (listing : List α) : Prop where
  first : ∀ before t behind, listing = before ++ t :: behind → (∀ b ∈ before, ¬isToken b) →
    isToken t → location a = location t
  unknown : (∀ t ∈ listing, ¬isToken t) → location a = .unknown
  child : ∀ before c behind, children a = before ++ c :: behind →
    (∀ b ∈ before, ∀ t, ReflTransGen (fun c a => c ∈ children a) t b → ¬isToken t) →
    (∃ t, ReflTransGen (fun c a => c ∈ children a) t c ∧ isToken t) → location a = location c

namespace Unfolds

/-- What is below one element of a row lies in the grove of the row. -/
theorem exists_preorder_append {before behind : List α} {c : α}
    (h : Unfolds children (before ++ c :: behind) g) :
    ∃ (front below : Grove α) (back : List α), Unfolds children before front ∧
      Unfolds children (children c) below ∧
      g.preorder = front.preorder ++ (c :: below.preorder ++ back) := by
  induction before generalizing g with
  | nil =>
    cases h with
    | cons hbelow hbehind => exact ⟨.nil, _, _, .nil, hbelow, rfl⟩
  | cons root before ih =>
    cases h with
    | cons hunder hrest =>
      obtain ⟨front, below, back, hfront, hbelow, hlisting⟩ := ih hrest
      refine ⟨.cons root _ front, below, back, .cons hunder hfront, hbelow, ?_⟩
      simp only [Grove.preorder, hlisting, List.cons_append, List.append_assoc]

/-- **The first token.**  Where every element is located at the first token of its listing, itself
in front, this is the token that comes first in the first child that has any. -/
theorem locatesFirst {isToken : α → Bool} {location : α → Location}
    (hlocation : ∀ a g, Unfolds children (children a) g →
      location a = (((a :: g.preorder).find? isToken).map location).getD .unknown)
    (h : Unfolds children (children a) g) (ha : ¬isToken a) :
    LocatesFirst children isToken location a g.preorder := by
  have hbelow : location a = ((g.preorder.find? isToken).map location).getD .unknown := by
    rw [hlocation a g h, List.find?_cons_of_neg ha]
  refine ⟨fun before t behind hsplit hbefore ht => ?_, fun hnone => ?_,
    fun before c behind hsplit hbefore hc => ?_⟩
  · have hfirst : g.preorder.find? isToken = some t := by
      rw [hsplit, List.find?_append, List.find?_eq_none.2 hbefore, Option.none_or,
        List.find?_cons_of_pos ht]
    rw [hbelow, hfirst, Option.map_some, Option.getD_some]
  · rw [hbelow, List.find?_eq_none.2 hnone, Option.map_none, Option.getD_none]
  · obtain ⟨front, below, back, hfront, hchild, hlisting⟩ :=
      exists_preorder_append (hsplit ▸ h)
    have hnone : front.preorder.find? isToken = none := by
      refine List.find?_eq_none.2 fun t ht => ?_
      obtain ⟨b, hb, hup⟩ := hfront.mem_preorder_iff.1 ht
      exact hbefore b hb t hup
    obtain ⟨t, ht⟩ : ∃ t, (c :: below.preorder).find? isToken = some t := by
      obtain ⟨t, hup, ht⟩ := hc
      have hmem := (Unfolds.cons hchild .nil).mem_preorder_iff.2 ⟨c, List.mem_cons_self, hup⟩
      rw [Grove.preorder, Grove.preorder, List.append_nil] at hmem
      exact Option.isSome_iff_exists.1 (List.find?_isSome.2 ⟨t, hmem, ht⟩)
    rw [hbelow, hlocation c below hchild, hlisting, List.find?_append, hnone, Option.none_or,
      List.find?_append, ht, Option.some_or]

end Unfolds

/-! ## Sites -/

theorem Unfolds.walk_append {row : List Site} {g : Grove Site} (h : Unfolds Site.children row g)
    (rest : List Site) : walk (row ++ rest) = g.preorder ++ walk rest := by
  induction h generalizing rest with
  | nil => rfl
  | cons _ _ hbelow hbehind =>
    rw [List.cons_append, walk, hbelow, hbehind, Grove.preorder, List.cons_append, List.append_assoc]

namespace Site

theorem exists_unfolds (s : Site) : ∃ g, Unfolds Site.children s.children g := by
  induction s using induction_children with
  | step s ih => exact JumpLint.exists_unfolds ih

theorem preorder_eq_walk {s : Site} {g : Grove Site} (h : Unfolds Site.children s.children g) :
    g.preorder = walk s.children := by
  have hwalk := h.walk_append []
  rwa [List.append_nil, walk, List.append_nil, eq_comm] at hwalk

theorem location_eq_find? (s : Site) : s.location =
    (((s :: walk s.children).find? (·.element.isToken)).map Site.location).getD .unknown := by
  obtain ⟨address, scopes, element⟩ := s
  cases element with
  | token => rfl
  | node kind children =>
    rw [List.find?_cons_of_neg (by simp [Element.isToken]), location]
    cases hfirst : (walk _).find? (·.element.isToken) with
    | none => rfl
    | some t =>
      obtain ⟨address, scopes, element⟩ := t
      have htoken := List.find?_some hfirst
      cases element with
      | token => rfl
      | node => cases htoken

/-- **The walk through a document.**  Below any of its elements the walk lists what the recursion on
the element lists, in the order of the addresses, and it finds the first token. -/
theorem walk_in_preorder (s : Site) : IsPreorder Site.children s (walk s.children) ∧
    (¬s.element.isToken →
      LocatesFirst Site.children (·.element.isToken) location s (walk s.children)) := by
  have hlocation : ∀ t g, Unfolds Site.children t.children g → t.location =
      (((t :: g.preorder).find? (·.element.isToken)).map location).getD .unknown := by
    intro t g hg
    rw [preorder_eq_walk hg]
    exact t.location_eq_find?
  obtain ⟨g, hg⟩ := s.exists_unfolds
  rw [← preorder_eq_walk hg]
  exact ⟨hg.isPreorder, hg.locatesFirst hlocation⟩

end Site
end JumpLint

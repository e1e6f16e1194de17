import JumpLint.Proofs.Except
import JumpLint.Workbench
import Mathlib.Data.List.Perm.Subperm
import Mathlib.Logic.Relation

/-!
# Links between elements

Each element on a workbench knows its owner, and each node its children.  Nothing keeps a node from
being put into an element that it holds, and then the way up the owners goes round in a circle.
Where there is no circle the way up ends, every tree has one root, and the walks along the links go
as far as there is anything to be found: the fuel that they take does not show.

## What is here

* `Workbench.HasOwner`, `Workbench.IsAcyclic`: the link from an element to its owner, and that no
  way up comes back to where it began.
* `Workbench.IsLinked`: links to owners and to children say the same.
* `Workbench.Ascends`: the way up from an element, of whatever length.
  `Workbench.isAcyclic_iff_ascends` says that all ways up end exactly if there is no circle, and
  `Workbench.ascends_ancestors` that they are what `ancestors` gives.
* `Workbench.top_eq_top_iff`: elements are in one tree exactly if they have the same root.
* `Workbench.content_eq`: the text of an element by the texts of its children.
-/

set_option autoImplicit false
namespace JumpLint
namespace Workbench

open Relation

variable {w : Workbench} {n m owner child : Nat} {path : List Nat}

/-! ## Elements -/

theorem cell_eq_noCell (h : w.size ≤ n) : w.cell n = noCell := by
  rw [cell, List.getD_eq_getElem?_getD, List.getElem?_eq_none h, Option.getD_none]

theorem lt_size_of_isNode (h : (w.cell n).cls.isNode) : n < w.size := by
  by_contra hout
  rw [cell_eq_noCell (by omega)] at h
  cases h

@[simp] theorem size_update (w : Workbench) (n : Nat) (f : Cell → Cell) :
    (w.update n f).size = w.size := by simp [size, update]

theorem cell_update (f : Cell → Cell) (hn : n < w.size) :
    (w.update n f).cell m = if m = n then f (w.cell m) else w.cell m := by
  by_cases hm : m < w.size
  · have hcell : w.cells[m]? = some w.cells[m] := List.getElem?_eq_getElem hm
    simp only [update, cell, List.getD_eq_getElem?_getD, List.getElem?_modify, hcell]
    by_cases hmn : m = n
    · simp [hmn]
    · simp [hmn, Ne.symm hmn]
  · have hne : m ≠ n := by omega
    rw [cell_eq_noCell (by rw [size_update]; omega), cell_eq_noCell (by omega), if_neg hne]

theorem cell_concat (w : Workbench) (cell : Cell) (m : Nat) :
    (Workbench.mk (w.cells ++ [cell])).cell m = if m = w.size then cell else w.cell m := by
  simp only [Workbench.cell, List.getD_eq_getElem?_getD, List.getElem?_append, size]
  by_cases hlt : m < w.cells.length
  · rw [if_pos hlt, if_neg (by omega)]
  · rw [if_neg hlt]
    by_cases hm : m = w.cells.length
    · simp [hm]
    · have hout : w.cells.length ≤ m := by omega
      have hlast : [cell].length ≤ m - w.cells.length := by
        rw [List.length_singleton]
        omega
      rw [if_neg hm, List.getElem?_eq_none hlast, List.getElem?_eq_none hout]

/-! ## Links -/

/-- The link from an element to its owner. -/
def HasOwner (w : Workbench) (child owner : Nat) : Prop := (w.cell child).parent = some owner

/-- No element is met again on the way up from it. -/
def IsAcyclic (w : Workbench) : Prop := ∀ n, ¬TransGen w.HasOwner n n

/-- The links to owners and those to children say the same, and no child is linked to twice. -/
structure IsLinked (w : Workbench) : Prop where
  mem_children_iff : ∀ n c, c ∈ (w.cell n).children ↔ w.HasOwner c n
  nodup_children : ∀ n, (w.cell n).children.Nodup

/-- An element has one owner. -/
theorem HasOwner.unique {other : Nat} (h : w.HasOwner n owner) (hother : w.HasOwner n other) :
    owner = other :=
  Option.some.inj (h.symm.trans hother)

/-- An owner is on the workbench. -/
theorem IsLinked.owner_lt (hw : w.IsLinked) (h : w.HasOwner n owner) : owner < w.size := by
  by_contra hout
  have hmem : n ∈ (w.cell owner).children := (hw.mem_children_iff owner n).2 h
  rw [cell_eq_noCell (by omega)] at hmem
  exact List.not_mem_nil hmem

/-- A child is on the workbench. -/
theorem IsLinked.child_lt (hw : w.IsLinked) (h : m ∈ (w.cell n).children) : m < w.size := by
  by_contra hout
  have howner : w.HasOwner m n := (hw.mem_children_iff n m).1 h
  rw [HasOwner, cell_eq_noCell (by omega)] at howner
  cases howner

/-! ## The way up -/

/-- The way up from an element: its owner, the owner of that, and so on to an element without an
owner. -/
inductive Ascends (w : Workbench) : Nat → List Nat → Prop
  | root {n : Nat} (h : (w.cell n).parent = none) : Ascends w n []
  | up {n owner : Nat} {path : List Nat} (h : w.HasOwner n owner) (hpath : Ascends w owner path) :
      Ascends w n (owner :: path)

namespace Ascends

theorem unique (h : w.Ascends n path) {other : List Nat} (hother : w.Ascends n other) :
    path = other := by
  induction h generalizing other with
  | root hnone =>
    cases hother with
    | root => rfl
    | up howner => cases hnone.symm.trans howner
  | up howner _ ih =>
    cases hother with
    | root hnone => cases hnone.symm.trans howner
    | up hagain hpath =>
      obtain rfl := howner.unique hagain
      rw [ih hpath]

theorem mem_iff (h : w.Ascends n path) : m ∈ path ↔ TransGen w.HasOwner n m := by
  induction h with
  | root hnone =>
    refine iff_of_false List.not_mem_nil fun hup => ?_
    obtain ⟨owner, howner, -⟩ := TransGen.head'_iff.1 hup
    cases hnone.symm.trans howner
  | @up n owner path howner _ ih =>
    rw [List.mem_cons, ih, ← reflTransGen_iff_eq_or_transGen, TransGen.head'_iff]
    constructor
    · intro h
      exact ⟨owner, howner, h⟩
    · rintro ⟨other, hother, h⟩
      exact howner.unique hother ▸ h

/-- The way up from an element on the way is shorter. -/
theorem exists_of_mem (h : w.Ascends n path) (hm : m ∈ path) :
    ∃ rest, w.Ascends m rest ∧ rest.length < path.length := by
  induction h with
  | root => exact absurd hm List.not_mem_nil
  | @up n owner path _ hpath ih =>
    rw [List.length_cons]
    rcases List.mem_cons.1 hm with rfl | hm
    · exact ⟨path, hpath, Nat.lt_succ_self _⟩
    · obtain ⟨rest, hrest, hlt⟩ := ih hm
      exact ⟨rest, hrest, by omega⟩

/-- The way up ends at an element without an owner. -/
theorem getLastD (h : w.Ascends n path) :
    (w.cell (path.getLastD n)).parent = none ∧
      ReflTransGen w.HasOwner n (path.getLastD n) := by
  induction h with
  | root hnone => exact ⟨hnone, .refl⟩
  | up howner _ ih =>
    rw [List.getLastD_cons]
    exact ⟨ih.1, .head howner ih.2⟩

/-- There is no other element without an owner on the way up. -/
theorem getLastD_eq (h : w.Ascends n path) (hm : m ∈ n :: path)
    (hnone : (w.cell m).parent = none) : path.getLastD n = m := by
  induction h with
  | root => exact (List.mem_singleton.1 hm).symm
  | up howner _ ih =>
    rw [List.getLastD_cons]
    rcases List.mem_cons.1 hm with rfl | hm
    · cases hnone.symm.trans howner
    · exact ih hm

end Ascends

/-- Where all ways up end there is no circle. -/
theorem isAcyclic_of_ascends (h : ∀ n, ∃ path, w.Ascends n path) : w.IsAcyclic := by
  intro n hcircle
  obtain ⟨path, hpath⟩ := h n
  obtain ⟨rest, hrest, hlt⟩ := hpath.exists_of_mem (hpath.mem_iff.2 hcircle)
  rw [hpath.unique hrest] at hlt
  exact Nat.lt_irrefl _ hlt

/-- What is found on the way up is above what was found before. -/
theorem pairwise_ancestorsFrom (w : Workbench) (fuel n : Nat) :
    (n :: w.ancestorsFrom fuel n).Pairwise (TransGen w.HasOwner) := by
  induction fuel generalizing n with
  | zero => exact List.pairwise_singleton _ _
  | succ fuel ih =>
    rw [ancestorsFrom]
    cases howner : (w.cell n).parent with
    | none => exact List.pairwise_singleton _ _
    | some owner =>
      refine List.pairwise_cons.2 ⟨fun m hm => ?_, ih owner⟩
      rcases List.mem_cons.1 hm with rfl | hm
      · exact .single howner
      · exact .head howner (List.rel_of_pairwise_cons (ih owner) hm)

/-- Fuel ends the way up, or an element without an owner does. -/
theorem ascends_or_length_eq (w : Workbench) (fuel n : Nat) :
    w.Ascends n (w.ancestorsFrom fuel n) ∨ (w.ancestorsFrom fuel n).length = fuel := by
  induction fuel generalizing n with
  | zero => exact .inr rfl
  | succ fuel ih =>
    rw [ancestorsFrom]
    cases howner : (w.cell n).parent with
    | none => exact .inl (.root howner)
    | some owner =>
      rcases ih owner with hends | hlength
      · exact .inl (.up howner hends)
      · exact .inr (by rw [List.length_cons, hlength])

/-- Without circles, no way up has more elements than the workbench. -/
theorem length_ancestorsFrom_le (hw : w.IsLinked) (hacyclic : w.IsAcyclic) (fuel n : Nat) :
    (w.ancestorsFrom fuel n).length ≤ w.size := by
  have habove : ∀ m ∈ w.ancestorsFrom fuel n, TransGen w.HasOwner n m :=
    fun m => List.rel_of_pairwise_cons (w.pairwise_ancestorsFrom fuel n)
  have hnodup : (w.ancestorsFrom fuel n).Nodup := by
    refine (List.pairwise_cons.1 (w.pairwise_ancestorsFrom fuel n)).2.imp fun {a b} hup => ?_
    rintro rfl
    exact hacyclic a hup
  have hlt : w.ancestorsFrom fuel n ⊆ List.range w.size := by
    intro m hm
    obtain ⟨child, -, howner⟩ := TransGen.tail'_iff.1 (habove m hm)
    exact List.mem_range.2 (hw.owner_lt howner)
  simpa using (List.subperm_of_subset hnodup hlt).length_le

/-- **The way up ends** where there is no circle, and it is the one that is given. -/
theorem ascends_ancestors (hw : w.IsLinked) (hacyclic : w.IsAcyclic) (n : Nat) :
    w.Ascends n (w.ancestors n) := by
  rcases w.ascends_or_length_eq (w.size + 1) n with hends | hlength
  · exact hends
  · have hle := length_ancestorsFrom_le hw hacyclic (w.size + 1) n
    omega

theorem isAcyclic_iff_ascends (hw : w.IsLinked) :
    w.IsAcyclic ↔ ∀ n, ∃ path, w.Ascends n path :=
  ⟨fun h n => ⟨_, ascends_ancestors hw h n⟩, isAcyclic_of_ascends⟩

theorem ancestors_of_hasOwner (hw : w.IsLinked) (hacyclic : w.IsAcyclic)
    (h : w.HasOwner n owner) : w.ancestors n = owner :: w.ancestors owner :=
  (ascends_ancestors hw hacyclic n).unique (.up h (ascends_ancestors hw hacyclic owner))

/-! ## The root -/

theorem ascends_top (hw : w.IsLinked) (hacyclic : w.IsAcyclic) (n : Nat) :
    (w.cell (w.top n)).parent = none ∧ ReflTransGen w.HasOwner n (w.top n) :=
  (ascends_ancestors hw hacyclic n).getLastD

theorem top_eq_of_hasOwner (hw : w.IsLinked) (hacyclic : w.IsAcyclic)
    (h : w.HasOwner n owner) : w.top n = w.top owner := by
  rw [top, top, ancestors_of_hasOwner hw hacyclic h, List.getLastD_cons]

theorem eqvGen_of_reflTransGen (h : ReflTransGen w.HasOwner n m) : EqvGen w.HasOwner n m := by
  induction h with
  | refl => exact .refl _
  | tail _ howner ih => exact .trans _ _ _ ih (.rel _ _ howner)

/-- **Each tree has one root**: elements that are linked, up and down, are those with the same
root. -/
theorem top_eq_top_iff (hw : w.IsLinked) (hacyclic : w.IsAcyclic) :
    w.top n = w.top m ↔ EqvGen w.HasOwner n m := by
  constructor
  · intro htop
    have hn := eqvGen_of_reflTransGen (ascends_top hw hacyclic n).2
    have hm := eqvGen_of_reflTransGen (ascends_top hw hacyclic m).2
    exact .trans _ _ _ hn (htop ▸ .symm _ _ hm)
  · intro h
    induction h with
    | rel _ _ howner => exact top_eq_of_hasOwner hw hacyclic howner
    | refl => rfl
    | symm _ _ _ ih => exact ih.symm
    | trans _ _ _ _ _ ih ih' => exact ih.trans ih'

/-! ## Texts -/

/-- Fuel does not show in a text when there is as much as could be needed below the element. -/
theorem contentFrom_congr (hw : w.IsLinked) (hacyclic : w.IsAcyclic) {fuel enough : Nat}
    (hfuel : w.size < fuel + (w.ancestors n).length)
    (henough : w.size < enough + (w.ancestors n).length) :
    w.contentFrom fuel n = w.contentFrom enough n := by
  have hle : ∀ n, (w.ancestors n).length ≤ w.size := length_ancestorsFrom_le hw hacyclic _
  induction fuel generalizing n enough with
  | zero => exact absurd (hle n) (by omega)
  | succ fuel ih =>
    obtain _ | enough := enough
    · exact absurd (hle n) (by omega)
    have hchildren : ∀ c ∈ (w.cell n).children,
        w.contentFrom fuel c = w.contentFrom enough c := by
      intro c hc
      have hup := ancestors_of_hasOwner hw hacyclic ((hw.mem_children_iff n c).1 hc)
      exact ih (by rw [hup, List.length_cons]; omega) (by rw [hup, List.length_cons]; omega)
    simp only [contentFrom, mapM_congr hchildren]

/-- **The text of an element** where there is no circle: that of a token is its own, and that of a
node is made of its brackets and the texts of its children. -/
theorem content_eq (hw : w.IsLinked) (hacyclic : w.IsAcyclic) (n : Nat) :
    w.content n =
      if (w.cell n).cls.isToken then .ok (w.cell n).text
      else if (w.cell n).cls.isNode then do
        let parts ← (w.cell n).children.mapM w.content
        .ok (.ofString (w.cell n).cls.brackets.1 ++ Text.join parts ++
          .ofString (w.cell n).cls.brackets.2)
      else .error .noContent := by
  have hchildren : ∀ c ∈ (w.cell n).children, w.contentFrom w.size c = w.content c := by
    intro c hc
    have hup := ancestors_of_hasOwner hw hacyclic ((hw.mem_children_iff n c).1 hc)
    exact contentFrom_congr hw hacyclic (by rw [hup, List.length_cons]; omega) (by omega)
  rw [← mapM_congr hchildren]
  rfl

end Workbench
end JumpLint

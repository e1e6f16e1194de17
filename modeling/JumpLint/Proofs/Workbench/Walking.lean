import JumpLint.Proofs.Tree.Grove
import JumpLint.Proofs.Workbench.Classes
import JumpLint.Proofs.Workbench.Construction
import Mathlib.Data.Finset.Card
import Mathlib.Data.Finset.Range

/-!
# Walking below an element

On a workbench the walk takes numbers off its stack and follows links, and its fuel is the number of
elements.  An element that does not stand below itself is the root of a finite tree, whatever else
is on the workbench.  Each element is met once in that tree, so the fuel is enough, and the walk
gives the listing of the tree.

## What is here

* `Workbench.offspring`: what the walk goes on to from an element.
* `Workbench.IsOrderly.exists_unfolds`: the tree below an element;
  `Workbench.IsOrderly.nodup_preorder`: no element is met twice in it.
* `Workbench.IsOrderly.below_eq`: the walk gives the listing of the tree.
* `Workbench.walks_in_preorder`: what the walks give, in documents and on workbenches.
-/

set_option autoImplicit false
namespace JumpLint
namespace Workbench

open Relation

variable {w : Workbench} {n m a b c : Nat} {row : List Nat} {g : Grove Nat}

/-! ## Below an element -/

theorem not_transGen_of_hasOwner (h : w.HasOwner c n) (hn : ¬TransGen w.HasOwner n n) :
    ¬TransGen w.HasOwner c c := by
  intro hcircle
  obtain ⟨owner, howner, hup⟩ := TransGen.head'_iff.1 hcircle
  obtain rfl := howner.unique h
  exact hn (.tail' hup h)

/-- An element stands below one of the children of a node, not below two of them. -/
theorem eq_of_hasOwner (ha : w.HasOwner a n) (hb : w.HasOwner b n) (hn : ¬TransGen w.HasOwner n n)
    (hma : ReflTransGen w.HasOwner m a) (hmb : ReflTransGen w.HasOwner m b) : a = b := by
  have hnot : ∀ {a b}, w.HasOwner a n → w.HasOwner b n → ReflTransGen w.HasOwner a b → a = b := by
    intro a b ha hb hup
    rcases ReflTransGen.cases_head hup with heq | ⟨owner, howner, hup⟩
    · exact heq
    · obtain rfl := howner.unique ha
      exact absurd (.tail' hup hb) hn
  rcases ReflTransGen.total_of_right_unique (fun _ _ _ h h' => h.unique h') hma hmb with hup | hup
  · exact hnot ha hb hup
  · exact (hnot hb ha hup).symm

/-- Where an element does not stand below itself, no way down from it goes on for ever: fewer
elements stand below a child of it than below itself. -/
theorem IsLinked.acc (hw : w.IsLinked) (hn : ¬TransGen w.HasOwner n n) : Acc w.HasOwner n := by
  classical
  let under (n : Nat) : Finset Nat := (Finset.range w.size).filter fun m => TransGen w.HasOwner m n
  induction hcard : (under n).card using Nat.strong_induction_on generalizing n with
  | h count ih =>
    refine ⟨n, fun c hc => ?_⟩
    have hnot := not_transGen_of_hasOwner hc hn
    have hfewer : under c ⊂ under n := by
      refine Finset.ssubset_iff_of_subset (fun m hm => ?_) |>.2 ⟨c, ?_, ?_⟩
      · obtain ⟨hsize, hup⟩ := Finset.mem_filter.1 hm
        exact Finset.mem_filter.2 ⟨hsize, hup.tail hc⟩
      · have hsize : c < w.size := hw.child_lt ((hw.mem_children_iff n c).2 hc)
        exact Finset.mem_filter.2 ⟨Finset.mem_range.2 hsize, .single hc⟩
      · exact fun hmem => hnot (Finset.mem_filter.1 hmem).2
    exact ih _ (hcard ▸ Finset.card_lt_card hfewer) hnot rfl

/-! ## The tree below an element -/

/-- What the walk goes on to from an element: the children of a node. -/
def offspring (w : Workbench) (n : Nat) : List Nat :=
  if (w.cell n).cls.isNode then (w.cell n).children else []

/-- Whether an element is a token. -/
def isToken (w : Workbench) (n : Nat) : Bool := (w.cell n).cls.isToken

namespace IsOrderly

variable (hw : w.IsOrderly)

include hw

theorem offspring_eq (n : Nat) : w.offspring n = (w.cell n).children := by
  rw [offspring]
  split_ifs with hn
  · rfl
  · exact (hw.children_eq_nil n hn).symm

theorem mem_offspring : (fun c n => c ∈ w.offspring n) = w.HasOwner := by
  funext c n
  rw [hw.offspring_eq, hw.linked.mem_children_iff]

theorem hasOwner_of_mem_offspring (hc : c ∈ w.offspring n) : w.HasOwner c n := by
  rwa [← hw.mem_offspring]

theorem nodup_offspring (n : Nat) : (w.offspring n).Nodup := by
  rw [hw.offspring_eq]
  exact hw.linked.nodup_children n

theorem exists_unfolds (hn : ¬TransGen w.HasOwner n n) :
    ∃ g, Unfolds w.offspring (w.offspring n) g :=
  exists_unfolds_of_acc (hw.mem_offspring ▸ hw.linked.acc hn)

theorem not_transGen (h : Unfolds w.offspring (w.offspring n) g) : ¬TransGen w.HasOwner n n :=
  hw.mem_offspring ▸ h.not_transGen

theorem mem_row_preorder_iff (h : Unfolds w.offspring row g) :
    m ∈ g.preorder ↔ ∃ a ∈ row, ReflTransGen w.HasOwner m a := by
  rw [h.mem_preorder_iff, hw.mem_offspring]

theorem mem_preorder_iff (h : Unfolds w.offspring (w.offspring n) g) :
    m ∈ g.preorder ↔ TransGen w.HasOwner m n := by
  rw [hw.mem_row_preorder_iff h, TransGen.tail'_iff, ← hw.mem_offspring]
  simp only [and_comm]

/-- **Once.**  No element is met twice below the children of a node. -/
theorem nodup_preorder (h : Unfolds w.offspring row g) (hrow : row.Nodup)
    (howner : ∀ a ∈ row, w.HasOwner a n) (hn : ¬TransGen w.HasOwner n n) : g.preorder.Nodup := by
  induction h generalizing n with
  | nil => exact List.nodup_nil
  | @cons root rest below behind hbelow hbehind ihbelow ihbehind =>
    obtain ⟨hnew, hrest⟩ := List.nodup_cons.1 hrow
    have hroot : w.HasOwner root n := howner root List.mem_cons_self
    have hothers : ∀ a ∈ rest, w.HasOwner a n := fun a ha => howner a (List.mem_cons_of_mem _ ha)
    have hnot := not_transGen_of_hasOwner hroot hn
    have hunder : below.preorder.Nodup :=
      ihbelow (hw.nodup_offspring root) (fun _ hc => hw.hasOwner_of_mem_offspring hc) hnot
    -- what is at or below the root is not behind it, for its siblings are other elements
    have hapart : ∀ m, ReflTransGen w.HasOwner m root → m ∉ behind.preorder := by
      intro m hup hmem
      obtain ⟨a, ha, hma⟩ := (hw.mem_row_preorder_iff hbehind).1 hmem
      exact hnew (eq_of_hasOwner hroot (hothers a ha) hn hup hma ▸ ha)
    refine List.nodup_cons.2 ⟨fun hmem => ?_, List.nodup_append.2
      ⟨hunder, ihbehind hrest hothers hn, fun m hm d hd heq => ?_⟩⟩
    · rcases List.mem_append.1 hmem with hmem | hmem
      · exact hnot ((hw.mem_preorder_iff hbelow).1 hmem)
      · exact hapart root .refl hmem
    · exact hapart m ((hw.mem_preorder_iff hbelow).1 hm).to_reflTransGen (heq ▸ hd)

/-! ## The walk -/

/-- With a unit of fuel for each element a row is taken off the stack, with everything below it. -/
theorem walkFrom_append (h : Unfolds w.offspring row g) (fuel : Nat) (rest : List Nat) :
    w.walkFrom (g.preorder.length + fuel) (row ++ rest) = g.preorder ++ w.walkFrom fuel rest := by
  induction h generalizing fuel rest with
  | nil => rw [Grove.preorder, List.length_nil, Nat.zero_add, List.nil_append, List.nil_append]
  | @cons root behindRow below behind _ _ hbelow hbehind =>
    have hfuel : (Grove.cons root below behind).preorder.length + fuel =
        below.preorder.length + (behind.preorder.length + fuel) + 1 := by
      rw [Grove.preorder, List.length_cons, List.length_append]
      omega
    rw [hfuel, List.cons_append, walkFrom, ← hw.offspring_eq, hbelow, hbehind, Grove.preorder,
      List.cons_append, List.append_assoc]

theorem nodup_below (h : Unfolds w.offspring (w.offspring n) g) : g.preorder.Nodup :=
  hw.nodup_preorder h (hw.nodup_offspring n) (fun _ hc => hw.hasOwner_of_mem_offspring hc)
    (hw.not_transGen h)

/-- **The walk gives the listing of the tree**: there are no more elements below one than on the
workbench, so its fuel lasts. -/
theorem below_eq (h : Unfolds w.offspring (w.offspring n) g) : w.below n = g.preorder := by
  have hthere : g.preorder ⊆ List.range w.size := by
    intro m hm
    obtain ⟨owner, howner, -⟩ := TransGen.head'_iff.1 ((hw.mem_preorder_iff h).1 hm)
    exact List.mem_range.2 (hw.linked.child_lt ((hw.linked.mem_children_iff owner m).2 howner))
  have hlength : g.preorder.length ≤ w.size := by
    simpa using (List.subperm_of_subset (hw.nodup_below h) hthere).length_le
  obtain ⟨fuel, hfuel⟩ := Nat.exists_eq_add_of_le hlength
  have hend : w.walkFrom (fuel + 1) [] = [] := rfl
  have hwalk := hw.walkFrom_append h (fuel + 1) []
  rwa [List.append_nil, hend, List.append_nil, ← Nat.add_assoc, ← hfuel, hw.offspring_eq] at hwalk

/-- The location of an element is that of the first token at or below it. -/
theorem location_eq (h : Unfolds w.offspring (w.offspring n) g) :
    w.location n = (((n :: g.preorder).find? w.isToken).map w.location).getD .unknown := by
  by_cases htoken : w.isToken n
  · rw [List.find?_cons_of_pos htoken, Option.map_some, Option.getD_some]
  · rw [List.find?_cons_of_neg htoken, ← hw.below_eq h]
    rw [isToken] at htoken
    unfold isToken
    rw [location, if_neg htoken]
    cases hm : (w.below n).find? fun m => (w.cell m).cls.isToken with
    | none => rfl
    | some m => exact (if_pos (List.find?_some hm)).symm

end IsOrderly

/-- **Walks are in pre-order.**  In a document, the walk below an element ends and lists what is
below it: each element before those below it, siblings from left to right, as the recursion on the
tree does, in the order of the addresses and with no address left out.  The same is true on a
workbench of every node that does not stand below itself: the walk meets every element below the
node once.  Those of a class that are found are the elements of the class, or of a special case of
it, in the same order.  A node is located at the first token of the listing, so that it is where its
first child with a token is, and nowhere when there is no token. -/
theorem walks_in_preorder :
    (∀ s : Site, IsPreorder Site.children s (walk s.children) ∧
      (¬s.element.isToken →
        LocatesFirst Site.children (·.element.isToken) Site.location s (walk s.children))) ∧
    ∀ (w : Workbench) (n : Nat), w.Reachable → (w.cell n).cls.isNode →
      ¬TransGen w.HasOwner n n →
      ∃ listing, w.elements n = .ok listing ∧ IsPreorder w.offspring n listing ∧
        listing.Nodup ∧ (∀ m, m ∈ listing ↔ TransGen w.HasOwner m n) ∧
        (∀ cls, ∃ found, w.find n cls = .ok found ∧ found.Sublist listing ∧
          ∀ m, m ∈ found ↔ m ∈ listing ∧ (w.cell m).cls.IsA cls) ∧
        (∀ kind : Kind, w.findKind n (.ofString kind.name) = w.find n (.kind kind)) ∧
        LocatesFirst w.offspring w.isToken w.location n listing := by
  refine ⟨Site.walk_in_preorder, fun w n hreachable hn hfinite => ?_⟩
  have hw := hreachable.isOrderly
  obtain ⟨g, hg⟩ := hw.exists_unfolds hfinite
  have hneed : ∀ member, w.needNode n member = .ok () := fun member => if_pos hn
  have hbelow : w.elements n = .ok g.preorder := by
    rw [Workbench.elements, hneed, hw.below_eq hg]
    rfl
  have hfind : ∀ cls, w.find n cls =
      .ok (g.preorder.filter fun m => cls.covers (w.cell m).cls) := by
    intro cls
    rw [Workbench.find, hneed, hw.below_eq hg]
    rfl
  have hnodup : g.preorder.Nodup := hw.nodup_below hg
  have hnode : ¬w.isToken n := Class.not_isToken_of_isNode hn
  refine ⟨g.preorder, hbelow, hg.isPreorder, hnodup, fun m => hw.mem_preorder_iff hg,
    fun cls => ⟨_, hfind cls, List.filter_sublist, fun m => ?_⟩, fun kind => ?_,
    hg.locatesFirst (fun a g hg => hw.location_eq hg) hnode⟩
  · rw [List.mem_filter, Class.covers_iff]
  · rw [Workbench.findKind, hneed, Kind.ofName?_name]
    rfl

/-- A document with a block, in which there are an empty statement and one with a space of unknown
location and a word. -/
def blockDocument : Workbench :=
  let w := (empty.make { noCell with cls := .kind (.token .whitespace) } []).1
  let w := (w.make { noCell with cls := .kind (.token .word), location := ⟨some 3, some 2⟩ } []).1
  let w := (w.make { noCell with cls := .kind (.node .breakStatement) } [0, 1]).1
  let w := (w.make { noCell with cls := .kind (.node .statement) } []).1
  let w := (w.make { noCell with cls := .kind (.node .block) } [3, 2]).1
  (w.make { noCell with cls := .kind (.node .document) } [4]).1

theorem reachable_blockDocument : blockDocument.Reachable := by
  refine .make _ (.make _ (.make _ (.make _ (.make _ (.make _ .empty ?_) ?_) ?_) ?_) ?_) ?_
  all_goals decide +kernel

theorem walks_in_preorder_blockDocument :
    blockDocument.Reachable ∧ ¬TransGen blockDocument.HasOwner 5 5 ∧
    blockDocument.elements 5 = .ok [4, 3, 2, 0, 1] ∧ TransGen blockDocument.HasOwner 1 5 ∧
    blockDocument.find 5 (.kind (.node .statement)) = .ok [3, 2] ∧
    (blockDocument.cell 2).cls.IsA (.kind (.node .statement)) ∧
    blockDocument.location 5 = .unknown := by
  have hfinite : ¬TransGen blockDocument.HasOwner 5 5 := by
    intro hcircle
    obtain ⟨owner, howner, -⟩ := TransGen.head'_iff.1 hcircle
    cases howner
  obtain ⟨listing, helements, -, -, hmem, hfind, -, hlocates⟩ :=
    walks_in_preorder.2 blockDocument 5 reachable_blockDocument (by decide +kernel) hfinite
  have hlisting : blockDocument.elements 5 = .ok [4, 3, 2, 0, 1] := by decide +kernel
  have hstatements : blockDocument.find 5 (.kind (.node .statement)) = .ok [3, 2] := by
    decide +kernel
  obtain rfl := Except.ok.inj (hlisting.symm.trans helements)
  obtain ⟨found, hfound, -, hisA⟩ := hfind (.kind (.node .statement))
  obtain rfl := Except.ok.inj (hstatements.symm.trans hfound)
  refine ⟨reachable_blockDocument, hfinite, hlisting, (hmem 1).1 (by decide), hstatements,
    ((hisA 2).1 (by decide)).2, ?_⟩
  rw [hlocates.first [4, 3, 2] 0 [1] rfl (by decide +kernel) (by decide +kernel)]
  decide +kernel

end Workbench
end JumpLint

import JumpLint.Proofs.Workbench.Links
import Mathlib.Data.List.Nodup

/-!
# Ownership on a workbench

Elements are made without children and then put into nodes, one after the other and in any order.
An element that has an owner cannot be put into another node, and an attempt to do so leaves
everything as it was.  So the links up and down say the same at all times; but a node may be put
into an element that it holds, which closes a circle.

## What is here

* `Workbench.addInPlace`: putting a child into a node, link by link; `Workbench.run_addInPlace` says
  that it comes to what `attach` gives, or to nothing at all.
* `Workbench.IsAdded`: what a workbench is like after that; `Workbench.IsAdded.isLinked`,
  `Workbench.IsAdded.isAcyclic_iff` and `Workbench.IsAdded.content_eq` say what follows for links,
  circles and texts.
* `Workbench.Action`, `Workbench.perform`: what can be done on a workbench;
  `Workbench.performAll_keeps_ownership` holds whatever was done.
-/

set_option autoImplicit false
namespace JumpLint
namespace Workbench

open Relation

variable {w v : Workbench} {n m c : Nat} {path : List Nat}

/-! ## Putting a child into a node -/

/-- Putting a child into a node in place: a child without an owner gets it, and then the node gets
the child.  Links that are set stay set when what comes after them fails. -/
def addInPlace (n c : Nat) : EStateM WorkbenchError Workbench Unit := do
  let w ← get
  match (w.cell c).parent with
  | some owner =>
    let child ← liftExcept (w.shown c)
    let other ← liftExcept (w.shown owner)
    throw (.alreadyOwned child other)
  | none =>
    modify fun w => w.update c fun cell => { cell with parent := some n }
    modify fun w => w.update n fun cell => { cell with children := cell.children ++ [c] }

/-- **In place.**  Putting a child into a node leaves what is given, or the workbench as it was. -/
theorem run_addInPlace (w : Workbench) (n c : Nat) :
    (addInPlace n c).run w =
      match w.attach n c with
      | .error e => .error e w
      | .ok v => .ok () v := by
  simp only [addInPlace, EStateM.run_bind, EStateM.run_get, attach]
  cases (w.cell c).parent with
  | none => rfl
  | some owner =>
    cases w.shown c with
    | error => rfl
    | ok => cases hother : w.shown owner <;> (simp only [hother]; rfl)

/-- Only a child with an owner cannot be put into a node. -/
theorem exists_attach_eq_error_iff :
    (∃ e, w.attach n c = .error e) ↔ (w.cell c).parent ≠ none := by
  rw [attach]
  cases (w.cell c).parent with
  | none => simp
  | some owner =>
    refine iff_of_true ?_ (Option.some_ne_none owner)
    dsimp only
    cases w.shown c with
    | error e => exact ⟨e, rfl⟩
    | ok child =>
      cases w.shown owner with
      | error e => exact ⟨e, rfl⟩
      | ok other => exact ⟨_, rfl⟩

/-- A workbench `v` is `w` with a child put into a node: nothing is different but the owner of the
child and the end of the children of the node. -/
structure IsAdded (v w : Workbench) (n c : Nat) : Prop where
  size_eq : v.size = w.size
  parent_eq_none : (w.cell c).parent = none
  cell_eq : ∀ m, v.cell m = { w.cell m with
    parent := if m = c then some n else (w.cell m).parent
    children := if m = n then (w.cell m).children ++ [c] else (w.cell m).children }

theorem isAdded_of_attach (h : w.attach n c = .ok v) (hn : n < w.size) (hc : c < w.size) :
    v.IsAdded w n c := by
  have hnone : (w.cell c).parent = none := by
    by_contra howner
    obtain ⟨e, he⟩ := exists_attach_eq_error_iff.2 howner
    cases h.symm.trans he
  rw [attach, hnone, Except.ok.injEq] at h
  subst h
  refine ⟨by simp, hnone, fun m => ?_⟩
  rw [cell_update _ (by simpa using hn), cell_update _ hc]
  split_ifs <;> rfl

namespace IsAdded

variable (h : v.IsAdded w n c)

include h

theorem hasOwner_iff {owner : Nat} :
    v.HasOwner m owner ↔ (m = c ∧ owner = n) ∨ w.HasOwner m owner := by
  rw [HasOwner, HasOwner, h.cell_eq]
  by_cases hmc : m = c
  · simp [hmc, h.parent_eq_none, eq_comm]
  · simp [hmc]

theorem mem_children_iff {child : Nat} :
    child ∈ (v.cell m).children ↔ (m = n ∧ child = c) ∨ child ∈ (w.cell m).children := by
  rw [h.cell_eq]
  by_cases hmn : m = n
  · simp [hmn, or_comm]
  · simp [hmn]

/-- Links up and down still say the same. -/
theorem isLinked (hw : w.IsLinked) : v.IsLinked where
  mem_children_iff m child := by
    rw [h.mem_children_iff, h.hasOwner_iff, hw.mem_children_iff]
    simp only [and_comm]
  nodup_children m := by
    have hnot : c ∉ (w.cell m).children := by
      rw [hw.mem_children_iff, HasOwner, h.parent_eq_none]
      simp
    rw [h.cell_eq]
    by_cases hmn : m = n
    · rw [if_pos hmn]
      refine List.nodup_append.2 ⟨hw.nodup_children m, by simp, ?_⟩
      rintro child hchild _ hc rfl
      exact hnot (List.mem_singleton.1 hc ▸ hchild)
    · rw [if_neg hmn]
      exact hw.nodup_children m

/-- A way up that does not meet the child is as it was. -/
theorem ascends (hpath : w.Ascends m path) (hnot : c ∉ m :: path) : v.Ascends m path := by
  induction hpath with
  | @root m hnone =>
    have hne : m ≠ c := fun heq => hnot (heq ▸ List.mem_cons_self)
    exact .root (by rw [h.cell_eq, if_neg hne]; exact hnone)
  | up howner _ ih =>
    exact .up (h.hasOwner_iff.2 (.inr howner)) (ih fun hmem => hnot (List.mem_cons_of_mem _ hmem))

/-- A way up is as it was, or it goes on from the child. -/
theorem exists_ascends {rest : List Nat} (hchild : v.Ascends c rest) (hpath : w.Ascends m path) :
    ∃ path, v.Ascends m path := by
  induction hpath with
  | @root m hnone =>
    by_cases hmc : m = c
    · exact ⟨rest, hmc ▸ hchild⟩
    · exact ⟨[], .root (by rw [h.cell_eq, if_neg hmc]; exact hnone)⟩
  | up howner _ ih =>
    obtain ⟨path, hpath⟩ := ih
    exact ⟨_, .up (h.hasOwner_iff.2 (.inr howner)) hpath⟩

/-- **Circles.**  Putting a child into a node closes a circle exactly if the child is the root of
the tree of the node. -/
theorem isAcyclic_iff (hw : w.IsLinked) (hacyclic : w.IsAcyclic) :
    v.IsAcyclic ↔ c ≠ w.top n := by
  have hlink : v.HasOwner c n := h.hasOwner_iff.2 (.inl ⟨rfl, rfl⟩)
  constructor
  · intro hstill htop
    have hup : ReflTransGen w.HasOwner n c := htop ▸ (ascends_top hw hacyclic n).2
    have hback : ReflTransGen v.HasOwner n c :=
      ReflTransGen.mono (fun _ _ howner => h.hasOwner_iff.2 (.inr howner)) _ _ hup
    exact hstill c (.head' hlink hback)
  · intro htop
    have hpath := ascends_ancestors hw hacyclic n
    have hnot : c ∉ n :: w.ancestors n := fun hmem =>
      htop (hpath.getLastD_eq hmem h.parent_eq_none).symm
    have hchild : v.Ascends c (n :: w.ancestors n) := .up hlink (h.ascends hpath hnot)
    exact isAcyclic_of_ascends fun m => h.exists_ascends hchild (ascends_ancestors hw hacyclic m)

theorem contentFrom_eq (hw : w.IsLinked) (fuel : Nat) (hm : ¬ReflTransGen w.HasOwner n m) :
    v.contentFrom fuel m = w.contentFrom fuel m := by
  induction fuel generalizing m with
  | zero => rfl
  | succ fuel ih =>
    have hmn : m ≠ n := fun heq => hm (heq ▸ .refl)
    have hchildren : ∀ child ∈ (w.cell m).children,
        v.contentFrom fuel child = w.contentFrom fuel child := by
      intro child hchild
      have howner := (hw.mem_children_iff m child).1 hchild
      exact ih fun hup => hm (hup.tail howner)
    simp only [contentFrom, h.cell_eq m, if_neg hmn, mapM_congr hchildren]

/-- **Texts.**  Only the node, and what holds it, can have another text. -/
theorem content_eq (hw : w.IsLinked) (hacyclic : w.IsAcyclic) (hmn : m ≠ n)
    (hm : m ∉ w.ancestors n) : v.content m = w.content m := by
  rw [content, content, h.size_eq]
  refine h.contentFrom_eq hw _ fun hup => ?_
  rcases reflTransGen_iff_eq_or_transGen.1 hup with heq | hup
  · exact hmn heq
  · exact hm ((ascends_ancestors hw hacyclic n).mem_iff.2 hup)

end IsAdded

/-! ## What is done on a workbench -/

/-- What is done on a workbench: an element of a kind is made, or a child is put into a node. -/
inductive Action where
  | create (kind : Kind) (cell : Cell)
  | add (n c : Nat)

/-- What a workbench is like after an action.  Elements are made without an owner and without
children.  Only nodes can be asked to take a child, and only elements that are there can be put into
them. -/
def perform (w : Workbench) : Action → Workbench
  | .create kind cell => (w.make { cell with cls := .kind kind } []).1
  | .add n c =>
    if (w.cell n).cls.isNode ∧ c < w.size then
      match (addInPlace n c).run w with
      | .ok _ v | .error _ v => v
    else w

/-- What a workbench is like after some actions. -/
def performAll (w : Workbench) (actions : List Action) : Workbench := actions.foldl perform w

/-- A workbench with elements of the kinds, linked up and down. -/
structure IsSound (w : Workbench) : Prop where
  linked : w.IsLinked
  kind : ∀ n < w.size, ∃ kind, (w.cell n).cls = .kind kind

theorem isSound_empty : empty.IsSound where
  linked := {
    mem_children_iff n c := by simp [HasOwner, cell, empty, noCell]
    nodup_children n := by simp [cell, empty, noCell] }
  kind n hn := absurd hn (by simp [empty, size])

theorem perform_create (w : Workbench) (kind : Kind) (cell : Cell) :
    w.perform (.create kind cell) =
      (Workbench.mk (w.cells ++
        [{ cell with name := none, filename := none, cls := .kind kind, parent := none,
                     children := [] }])).update
        w.size fun c => { c with name := cell.name, filename := cell.filename } := by
  simp only [perform, make, attachAll, ite_self]

theorem size_perform_create (w : Workbench) (kind : Kind) (cell : Cell) :
    (w.perform (.create kind cell)).size = w.size + 1 := by
  rw [perform_create, size_update]
  simp [size]

theorem cell_perform_create (w : Workbench) (kind : Kind) (cell : Cell) (m : Nat) :
    (w.perform (.create kind cell)).cell m =
      if m = w.size then { cell with cls := .kind kind, parent := none, children := [] }
      else w.cell m := by
  rw [perform_create, cell_update _ (by simp [size]), cell_concat]
  split_ifs <;> rfl

/-- An element that is made has no links, as what was there before it. -/
theorem links_perform_create (w : Workbench) (kind : Kind) (cell : Cell) (m : Nat) :
    ((w.perform (.create kind cell)).cell m).parent = (w.cell m).parent ∧
      ((w.perform (.create kind cell)).cell m).children = (w.cell m).children := by
  rw [cell_perform_create]
  split_ifs with hm
  · rw [hm, cell_eq_noCell Nat.le.refl]
    exact ⟨rfl, rfl⟩
  · exact ⟨rfl, rfl⟩

theorem IsSound.perform (hw : w.IsSound) (action : Action) : (w.perform action).IsSound := by
  cases action with
  | create kind cell =>
    have hlinks := w.links_perform_create kind cell
    refine ⟨⟨fun m child => ?_, fun m => ?_⟩, fun m hm => ?_⟩
    · rw [(hlinks m).2, HasOwner, (hlinks child).1]
      exact hw.linked.mem_children_iff m child
    · rw [(hlinks m).2]
      exact hw.linked.nodup_children m
    · rw [size_perform_create] at hm
      rw [cell_perform_create]
      split_ifs with hlast
      · exact ⟨kind, rfl⟩
      · exact hw.kind m (by omega)
  | add n c =>
    rw [Workbench.perform, run_addInPlace]
    split_ifs with hcan
    · cases hadd : w.attach n c with
      | error e => exact hw
      | ok v =>
        have hadded := isAdded_of_attach hadd (lt_size_of_isNode hcan.1) hcan.2
        refine ⟨hadded.isLinked hw.linked, fun m hm => ?_⟩
        rw [hadded.cell_eq]
        exact hw.kind m (hadded.size_eq ▸ hm)
    · exact hw

theorem IsSound.performAll (hw : w.IsSound) (actions : List Action) :
    (w.performAll actions).IsSound := by
  induction actions generalizing w with
  | nil => exact hw
  | cons action rest ih => exact ih (hw.perform action)

theorem IsSound.exists_contentFrom (hw : w.IsSound) (fuel : Nat) (hn : n < w.size) :
    ∃ text, w.contentFrom fuel n = .ok text := by
  induction fuel generalizing n with
  | zero => exact ⟨[], rfl⟩
  | succ fuel ih =>
    obtain ⟨kind, hkind⟩ := hw.kind n hn
    rw [contentFrom, hkind]
    cases kind with
    | token => exact ⟨_, rfl⟩
    | node =>
      cases hparts : (w.cell n).children.mapM (w.contentFrom fuel) with
      | ok => exact ⟨_, rfl⟩
      | error e =>
        obtain ⟨child, hchild, e, he⟩ := exists_mapM_eq_error_iff.1 ⟨e, hparts⟩
        obtain ⟨text, htext⟩ := ih (hw.linked.child_lt hchild)
        cases htext.symm.trans he

theorem IsSound.exists_shown (hw : w.IsSound) (hn : n < w.size) : ∃ text, w.shown n = .ok text := by
  obtain ⟨text, htext⟩ := hw.exists_contentFrom (w.size + 1) hn
  rw [shown, content, htext]
  exact ⟨_, rfl⟩

/-- The message of a refusal shows the child and its owner. -/
theorem IsSound.attach_eq_error (hw : w.IsSound) (hc : c < w.size) {e : WorkbenchError}
    (h : w.attach n c = .error e) :
    ∃ owner child other, w.HasOwner c owner ∧ w.shown c = .ok child ∧ w.shown owner = .ok other ∧
      e = .alreadyOwned child other := by
  obtain ⟨owner, howner⟩ := Option.ne_none_iff_exists'.1 (exists_attach_eq_error_iff.1 ⟨e, h⟩)
  obtain ⟨child, hchild⟩ := hw.exists_shown hc
  obtain ⟨other, hother⟩ := hw.exists_shown (hw.linked.owner_lt howner)
  rw [attach, howner] at h
  simp only [hchild, hother] at h
  exact ⟨owner, child, other, howner, hchild, hother, (Except.error.inj h).symm⟩

/-- **Ownership.**  Whatever was done on a workbench, a child is among the children of a node
exactly if the node is its owner, and then it is there once and in no other node.  A child cannot be
put into a node exactly if it has an owner, and then nothing is changed; where there is no circle
the message shows the child and its owner.  If it can be put there, nothing is changed but its owner
and the end of the children of the node.  That closes a circle exactly if the child is the root of
the tree of the node; otherwise all elements but the node and its ancestors keep their texts.  There
is no circle exactly if all ways up end, and then those of linked elements end at one root. -/
theorem performAll_keeps_ownership (actions : List Action) :
    let w := empty.performAll actions
    (∀ n c, c ∈ (w.cell n).children ↔ (w.cell c).parent = some n) ∧
    (∀ n c, c ∈ (w.cell n).children →
      (w.cell n).children.count c = 1 ∧ ∀ m, c ∈ (w.cell m).children → m = n) ∧
    (∀ n c, (w.cell n).cls.isNode → c < w.size →
      ((∃ e, w.add n c = .error e) ↔ (w.cell c).parent ≠ none) ∧
      (∀ e, w.add n c = .error e → w.perform (.add n c) = w ∧
        (w.IsAcyclic → ∃ owner child other, (w.cell c).parent = some owner ∧
          w.shown c = .ok child ∧ w.shown owner = .ok other ∧ e = .alreadyOwned child other)) ∧
      ∀ v, w.add n c = .ok v → w.perform (.add n c) = v ∧ v.IsAdded w n c ∧
        (w.IsAcyclic → (v.IsAcyclic ↔ c ≠ w.top n) ∧
          (v.IsAcyclic → ∀ m < w.size, m ≠ n → m ∉ w.ancestors n →
            ∃ text, w.content m = .ok text ∧ v.content m = .ok text))) ∧
    (w.IsAcyclic ↔ ∀ n, ∃ path, w.Ascends n path) ∧
    (w.IsAcyclic → ∀ n, w.Ascends n (w.ancestors n) ∧
      (w.cell (w.top n)).parent = none ∧ ReflTransGen w.HasOwner n (w.top n) ∧
      ∀ m, w.top m = w.top n ↔ EqvGen w.HasOwner m n) := by
  intro w
  have hw : w.IsSound := isSound_empty.performAll actions
  have hlinked := hw.linked
  refine ⟨hlinked.mem_children_iff, fun n c hc => ⟨?_, fun m hm => ?_⟩, fun n c hn hc => ?_,
    isAcyclic_iff_ascends hlinked, fun hacyclic n => ?_⟩
  · exact List.count_eq_one_of_mem (hlinked.nodup_children n) hc
  · have howner := (hlinked.mem_children_iff n c).1 hc
    exact ((hlinked.mem_children_iff m c).1 hm).unique howner
  · have hadd : w.add n c = w.attach n c := if_pos hn
    have hperform : w.perform (.add n c) =
        match (addInPlace n c).run w with
        | .ok _ v | .error _ v => v := if_pos ⟨hn, hc⟩
    rw [hadd, hperform, run_addInPlace]
    refine ⟨exists_attach_eq_error_iff, fun e he => ?_, fun v hv => ?_⟩
    · rw [he]
      exact ⟨rfl, fun _ => hw.attach_eq_error hc he⟩
    · have hadded := isAdded_of_attach hv (lt_size_of_isNode hn) hc
      rw [hv]
      refine ⟨rfl, hadded, fun hacyclic => ⟨hadded.isAcyclic_iff hlinked hacyclic, ?_⟩⟩
      intro _ m hsize hmn hm
      obtain ⟨text, htext⟩ := hw.exists_contentFrom (w.size + 1) hsize
      exact ⟨text, htext, (hadded.content_eq hlinked hacyclic hmn hm).trans htext⟩
  · have hends := ascends_ancestors hlinked hacyclic n
    have htop := ascends_top hlinked hacyclic n
    exact ⟨hends, htop.1, htop.2, fun m => top_eq_top_iff hlinked hacyclic⟩

/-- A word that is made. -/
def word (text : String) : Action :=
  .create (.token .word) { noCell with text := .ofString text }

/-- A block with a statement with a word, and another word beside it. -/
def oneWordBlock : List Action := [
  .create (.node .block) noCell,
  .create (.node .statement) noCell,
  word "x", word "y", .add 1 2, .add 0 1]

theorem performAll_keeps_ownership_oneWordBlock :
    let w := empty.performAll oneWordBlock
    w.IsAcyclic ∧ w.top 2 = 0 ∧
      w.add 0 2 = .error (.alreadyOwned "<Word 'x'>" "<Statement 'x'>") ∧
      w.perform (.add 0 2) = w ∧
      (∃ v, w.add 1 0 = .ok v ∧ ¬v.IsAcyclic) ∧
      ∃ v, w.add 1 3 = .ok v ∧ v.IsAcyclic ∧ v.content 0 = .ok (.ofString "\x7bxy\x7d") ∧
        v.content 2 = .ok (.ofString "x") := by
  intro w
  obtain ⟨-, -, hadd, hends, -⟩ := performAll_keeps_ownership oneWordBlock
  have hsize : (empty.performAll oneWordBlock).size = 4 := rfl
  have hacyclic : w.IsAcyclic := by
    refine hends.2 fun n => ?_
    match n with
    | 0 => exact ⟨[], .root rfl⟩
    | 1 => exact ⟨[0], .up rfl (.root rfl)⟩
    | 2 => exact ⟨[1, 0], .up rfl (.up rfl (.root rfl))⟩
    | 3 => exact ⟨[], .root rfl⟩
    | n + 4 => exact ⟨[], .root (by rw [cell_eq_noCell (by omega), noCell])⟩
  have hrefused : w.add 0 2 = .error (.alreadyOwned "<Word 'x'>" "<Statement 'x'>") := by
    decide +kernel
  obtain ⟨-, hkept, -⟩ := hadd 0 2 rfl (by omega)
  obtain ⟨-, -, hcircle⟩ := hadd 1 0 rfl (by omega)
  obtain ⟨-, -, hput⟩ := hadd 1 3 rfl (by omega)
  obtain ⟨hclosed, -⟩ := (hcircle _ rfl).2.2 hacyclic
  obtain ⟨hopen, htexts⟩ := (hput _ rfl).2.2 hacyclic
  have hstill := hopen.2 (by decide +kernel)
  obtain ⟨text, htext, hkeeps⟩ := htexts hstill 2 (by omega) (by decide) (by decide +kernel)
  have hx : w.content 2 = .ok (.ofString "x") := by decide +kernel
  refine ⟨hacyclic, rfl, hrefused, (hkept _ hrefused).1, ⟨_, rfl, fun h => hclosed.1 h rfl⟩,
    _, rfl, hstill, by decide +kernel, ?_⟩
  rw [hkeeps, ← htext, hx]

end Workbench
end JumpLint

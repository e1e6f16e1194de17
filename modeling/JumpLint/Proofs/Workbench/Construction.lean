import JumpLint.Proofs.Workbench.Ownership

/-!
# Elements made with their children

An element that is made with children takes them one by one, in the order in which they are given.
A child that has an owner is refused, and so is one that is given for the second time: by then it
belongs to the new element.  What stands behind it is not looked at.  But the children in front of
it have been taken, and they stay where they are, in an element that was never finished and that
nothing can refer to.

## What is here

* `Workbench.IsFree`: children that a new node can take, all of them.
* `Workbench.IsMade`: a workbench with one more element, which holds some of those before it.
  `Workbench.IsMade.attach` says that the element can take one more child,
  `Workbench.IsMade.attachAll` how far it comes with a row of them, and `Workbench.exists_isMade`
  that making an element never does anything else.
* `Workbench.Reachable`: the workbenches that come about by making elements and putting them
  together; `Workbench.Reachable.isOrderly` says that their links agree, failures or not.
* `Workbench.make_takes_until_refused`: what is there after an element was made, or was not.
* `Workbench.make_keeps_taken_word`: an element that was not made may have changed another one.
-/

set_option autoImplicit false
namespace JumpLint

/-- An element as it is until its children are in it. -/
def Cell.unfinished (cell : Cell) : Cell := { cell with name := none, filename := none }

namespace Workbench

variable {w v : Workbench} {cell : Cell} {children before rest : List Nat} {n c m : Nat}

/-! ## Children that can be taken -/

/-- Elements that are all different, and that have no owners. -/
structure IsFree (w : Workbench) (children : List Nat) : Prop where
  nodup : children.Nodup
  parent_eq_none : ∀ c ∈ children, (w.cell c).parent = none

theorem isFree_nil : w.IsFree [] := ⟨List.nodup_nil, fun _ hc => absurd hc List.not_mem_nil⟩

theorem IsFree.of_append (h : w.IsFree (before ++ rest)) : w.IsFree before :=
  ⟨(List.nodup_append.1 h.nodup).1, fun c hc => h.parent_eq_none c (List.mem_append_left _ hc)⟩

theorem isFree_concat_iff :
    w.IsFree (before ++ [c]) ↔ w.IsFree before ∧ (w.cell c).parent = none ∧ c ∉ before := by
  constructor
  · intro h
    refine ⟨h.of_append, h.parent_eq_none c (List.mem_append_right _ List.mem_cons_self), ?_⟩
    exact fun hc => (List.nodup_append.1 h.nodup).2.2 c hc c List.mem_cons_self rfl
  · rintro ⟨hbefore, hnone, hnot⟩
    refine ⟨List.nodup_append.2 ⟨hbefore.nodup, List.nodup_singleton c, ?_⟩, fun d hd => ?_⟩
    · rintro d hd _ hc rfl
      exact hnot (List.mem_singleton.1 hc ▸ hd)
    · rcases List.mem_append.1 hd with hd | hd
      · exact hbefore.parent_eq_none d hd
      · exact List.mem_singleton.1 hd ▸ hnone

theorem exists_attach_eq_ok_iff : (∃ u, w.attach n c = .ok u) ↔ (w.cell c).parent = none := by
  rw [← not_iff_not, ← Ne, ← exists_attach_eq_error_iff]
  cases w.attach n c <;> simp

/-! ## One more element -/

/-- A workbench `v` is `w` with one more element, which holds the children and is their owner:
nothing else is different. -/
structure IsMade (v w : Workbench) (cell : Cell) (children : List Nat) : Prop where
  size_eq : v.size = w.size + 1
  cell_eq : ∀ m, v.cell m =
    if m = w.size then { cell with parent := none, children := children }
    else { w.cell m with
      parent := if m ∈ children then some w.size else (w.cell m).parent }

theorem isMade_concat (w : Workbench) (cell : Cell) :
    (Workbench.mk (w.cells ++ [{ cell with parent := none, children := [] }])).IsMade w cell [] where
  size_eq := by simp [size]
  cell_eq m := by
    rw [cell_concat]
    simp

namespace IsMade

variable (h : v.IsMade w cell children)

include h

theorem cell_old (hm : m < w.size) : v.cell m = { w.cell m with
    parent := if m ∈ children then some w.size else (w.cell m).parent } := by
  rw [h.cell_eq, if_neg (Nat.ne_of_lt hm)]

theorem parent_eq_none_iff (hc : c < w.size) :
    (v.cell c).parent = none ↔ (w.cell c).parent = none ∧ c ∉ children := by
  rw [h.cell_old hc]
  by_cases hmem : c ∈ children <;> simp [hmem]

/-- The new element takes one more child. -/
theorem attach {u : Workbench} (hc : c < w.size) (hu : v.attach w.size c = .ok u) :
    u.IsMade w cell (children ++ [c]) := by
  have hadded : u.IsAdded v w.size c :=
    isAdded_of_attach hu (by rw [h.size_eq]; omega) (by rw [h.size_eq]; omega)
  refine ⟨hadded.size_eq.trans h.size_eq, fun m => ?_⟩
  rw [hadded.cell_eq, h.cell_eq]
  by_cases hm : m = w.size
  · have hmc : m ≠ c := by omega
    simp only [hm, hm ▸ hmc, if_true, if_false]
  · simp only [hm, if_false, List.mem_append, List.mem_singleton]
    by_cases hmc : m = c <;> simp only [hmc, if_true, if_false, or_true, or_false]

/-- The new element takes the children of a row as long as they can be taken; the first one that
cannot be taken is refused, and what was taken stays with the element. -/
theorem attachAll (hfree : w.IsFree children) (hrest : ∀ c ∈ rest, c < w.size) :
    (∃ u, v.attachAll w.size rest = (u, none) ∧ w.IsFree (children ++ rest) ∧
      u.IsMade w cell (children ++ rest)) ∨
    ∃ taken c behind u e, rest = taken ++ c :: behind ∧
      v.attachAll w.size rest = (u, some e) ∧ u.attach w.size c = .error e ∧
      w.IsFree (children ++ taken) ∧ ((w.cell c).parent ≠ none ∨ c ∈ children ++ taken) ∧
      u.IsMade w cell (children ++ taken) := by
  induction rest generalizing v children with
  | nil => exact .inl ⟨v, rfl, by rwa [List.append_nil], by rwa [List.append_nil]⟩
  | cons c rest ih =>
    have hc : c < w.size := hrest c List.mem_cons_self
    rw [Workbench.attachAll]
    cases htake : v.attach w.size c with
    | error e =>
      refine .inr ⟨[], c, rest, v, e, rfl, rfl, htake, ?_, ?_, ?_⟩
      · rwa [List.append_nil]
      · have howned := exists_attach_eq_error_iff.1 ⟨e, htake⟩
        rw [Ne, h.parent_eq_none_iff hc] at howned
        rw [List.append_nil]
        tauto
      · rwa [List.append_nil]
    | ok u =>
      have hnone : (v.cell c).parent = none := exists_attach_eq_ok_iff.1 ⟨u, htake⟩
      have hnext : w.IsFree (children ++ [c]) :=
        isFree_concat_iff.2 ⟨hfree, (h.parent_eq_none_iff hc).1 hnone⟩
      have hmore : ∀ c ∈ rest, c < w.size := fun c hc => hrest c (List.mem_cons_of_mem _ hc)
      have hstep := ih (h.attach hc htake) hnext hmore
      simp only [List.append_assoc, List.singleton_append] at hstep
      rcases hstep with hall | ⟨taken, d, behind, u, e, hrow, hgives⟩
      · exact .inl hall
      · exact .inr ⟨c :: taken, d, behind, u, e, by rw [hrow, List.cons_append], hgives⟩

/-- The new element gets its name in the end. -/
theorem finish (name : Option String) (filename : Option Text) :
    (v.update w.size fun c => { c with name := name, filename := filename }).IsMade w
      { cell with name := name, filename := filename } children := by
  refine ⟨by rw [size_update, h.size_eq], fun m => ?_⟩
  rw [cell_update _ (by rw [h.size_eq]; omega), h.cell_eq]
  by_cases hm : m = w.size <;> simp only [hm, if_true, if_false]

/-- Links up and down still say the same. -/
theorem isLinked (hw : w.IsLinked) (hfree : w.IsFree children) (hlt : ∀ c ∈ children, c < w.size) :
    v.IsLinked where
  mem_children_iff n c := by
    rw [HasOwner, h.cell_eq, h.cell_eq]
    by_cases hn : n = w.size <;> by_cases hc : c = w.size
    · have hnot : w.size ∉ children := fun hmem => Nat.lt_irrefl _ (hlt _ hmem)
      simp [hn, hc, hnot]
    · have hnot : ¬w.HasOwner c w.size := fun howner => Nat.lt_irrefl _ (hw.owner_lt howner)
      rw [HasOwner] at hnot
      by_cases hmem : c ∈ children <;> simp [hn, hc, hmem, hnot]
    · have hnot : w.size ∉ (w.cell n).children := fun hmem => Nat.lt_irrefl _ (hw.child_lt hmem)
      simp [hn, hc, hnot]
    · simp only [hn, hc, if_false]
      rw [hw.mem_children_iff, HasOwner]
      by_cases hmem : c ∈ children
      · simp [hmem, hfree.parent_eq_none c hmem, Ne.symm hn]
      · simp [hmem]
  nodup_children n := by
    rw [h.cell_eq]
    by_cases hn : n = w.size
    · simpa [hn] using hfree.nodup
    · simpa [hn] using hw.nodup_children n

end IsMade

/-! ## Making an element -/

/-- An element is made if it can take all of its children.  Otherwise it has taken those in front of
the first one that it cannot take, and is left unfinished. -/
theorem make_cases (hcls : cell.cls.isNode) (hchildren : ∀ c ∈ children, c < w.size) :
    (∃ u, w.make cell children = (u, none) ∧ w.IsFree children ∧ u.IsMade w cell children) ∨
    ∃ taken c behind u e, children = taken ++ c :: behind ∧ w.make cell children = (u, some e) ∧
      u.attach w.size c = .error e ∧ w.IsFree taken ∧ ((w.cell c).parent ≠ none ∨ c ∈ taken) ∧
      u.IsMade w cell.unfinished taken := by
  have hstart := isMade_concat w cell.unfinished
  rcases hstart.attachAll isFree_nil hchildren with
    ⟨u, hrow, hfree, hmade⟩ | ⟨taken, c, behind, u, e, hsplit, hrow, hgives⟩
  · refine .inl ⟨u.update w.size fun c => { c with name := cell.name, filename := cell.filename },
      ?_, hfree, hmade.finish cell.name cell.filename⟩
    rw [Cell.unfinished] at hrow
    simp only [make, hcls, if_true, hrow]
  · refine .inr ⟨taken, c, behind, u, e, hsplit, ?_, hgives⟩
    rw [Cell.unfinished] at hrow
    simp only [make, hcls, if_true, hrow]

/-- Whether an element is made or not, there is one more element, which holds children only if it is
a node. -/
theorem exists_isMade (cell : Cell) (hchildren : ∀ c ∈ children, c < w.size) :
    ∃ made taken, (w.make cell children).1.IsMade w made taken ∧ w.IsFree taken ∧
      (∀ c ∈ taken, c < w.size) ∧ (¬made.cls.isNode → taken = []) := by
  by_cases hcls : cell.cls.isNode
  · rcases make_cases hcls hchildren with
      ⟨u, hmake, hfree, hmade⟩ | ⟨taken, c, behind, u, e, hsplit, hmake, -, hfree, -, hmade⟩
    · rw [hmake]
      exact ⟨cell, children, hmade, hfree, hchildren, fun hnot => absurd hcls hnot⟩
    · rw [hmake]
      refine ⟨cell.unfinished, taken, hmade, hfree, fun d hd => hchildren d ?_,
        fun hnot => absurd hcls hnot⟩
      rw [hsplit]
      exact List.mem_append_left _ hd
  · refine ⟨cell, [], ?_, isFree_nil, fun c hc => absurd hc List.not_mem_nil, fun _ => rfl⟩
    have hmade := (isMade_concat w cell.unfinished).finish cell.name cell.filename
    rw [Cell.unfinished] at hmade
    simpa only [make, if_neg hcls] using hmade

/-! ## All that can be there -/

/-- A workbench on which elements were made, with or without success, and put together. -/
inductive Reachable : Workbench → Prop
  | empty : Reachable empty
  | make {w : Workbench} (cell : Cell) {children : List Nat} (hw : Reachable w)
      (hchildren : ∀ c ∈ children, c < w.size) : Reachable (w.make cell children).1
  | add {w v : Workbench} {n c : Nat} (hw : Reachable w) (hc : c < w.size)
      (hadd : w.add n c = .ok v) : Reachable v

/-- The links say the same up and down, and only nodes have children. -/
structure IsOrderly (w : Workbench) : Prop where
  linked : w.IsLinked
  children_eq_nil : ∀ n, ¬(w.cell n).cls.isNode → (w.cell n).children = []

theorem Reachable.isOrderly (hw : w.Reachable) : w.IsOrderly := by
  induction hw with
  | empty => exact ⟨isSound_empty.linked, fun n _ => by rw [cell_eq_noCell (Nat.zero_le n), noCell]⟩
  | @make w cell children _ hchildren ih =>
    obtain ⟨made, taken, hmade, hfree, hlt, hnode⟩ := exists_isMade cell hchildren
    refine ⟨hmade.isLinked ih.linked hfree hlt, fun n hn => ?_⟩
    rw [hmade.cell_eq] at hn ⊢
    by_cases hlast : n = w.size
    · rw [if_pos hlast] at hn ⊢
      exact hnode hn
    · rw [if_neg hlast] at hn ⊢
      exact ih.children_eq_nil n hn
  | @add w v n c _ hc hadd ih =>
    rw [Workbench.add] at hadd
    split_ifs at hadd with hn
    have hadded := isAdded_of_attach hadd (lt_size_of_isNode hn) hc
    refine ⟨hadded.isLinked ih.linked, fun m hm => ?_⟩
    rw [hadded.cell_eq] at hm ⊢
    have hmn : m ≠ n := by
      rintro rfl
      exact hm hn
    simpa only [hmn, if_false] using ih.children_eq_nil m hm

/-! ## Success and failure -/

theorem exists_add_eq_ok_iff (hn : (w.cell n).cls.isNode) :
    (∃ u, w.add n c = .ok u) ↔ (w.cell c).parent = none := by
  rw [add, if_pos hn, exists_attach_eq_ok_iff]

/-- **Making an element is not all or nothing.**  It succeeds exactly if the children are all
different and have no owners, and then the element holds them.  Otherwise it takes the children in
front of the first one that has an owner or was given before, and fails with a message about that
one.  The element is left without a name, as the owner of what it has taken: these children are
changed and can be put nowhere else, and nothing but these children is changed. -/
theorem make_takes_until_refused (w : Workbench) (cell : Cell) (children : List Nat)
    (hcls : cell.cls.isNode) (hchildren : ∀ c ∈ children, c < w.size) :
    ((∃ v, w.make cell children = (v, none)) ↔ w.IsFree children) ∧
    (∀ v, w.make cell children = (v, none) → v.IsMade w cell children) ∧
    ∀ v e, w.make cell children = (v, some e) →
      ∃ taken c behind, children = taken ++ c :: behind ∧ w.IsFree taken ∧
        ((w.cell c).parent ≠ none ∨ c ∈ taken) ∧ v.IsMade w cell.unfinished taken ∧
        (w.IsAcyclic → ∃ owner, v.HasOwner c owner ∧ ∀ child other,
          v.shown c = .ok child → v.shown owner = .ok other → e = .alreadyOwned child other) ∧
        (∀ m < w.size, v.cell m = w.cell m ↔ m ∉ taken) ∧
        ∀ n b, (w.cell n).cls.isNode → b < w.size →
          ((∃ u, v.add n b = .ok u) ↔ (∃ u, w.add n b = .ok u) ∧ b ∉ taken) := by
  rcases make_cases hcls hchildren with
    ⟨u, hmake, hfree, hmade⟩ | ⟨taken, c, behind, u, e, hsplit, hmake, he, hfree, hrefused, hmade⟩
  · rw [hmake]
    refine ⟨iff_of_true ⟨u, rfl⟩ hfree, ?_, ?_⟩
    · rintro _ ⟨⟩
      exact hmade
    · rintro _ _ ⟨⟩
  · have hnot : ¬w.IsFree children := by
      rw [hsplit, List.append_cons]
      intro hall
      obtain ⟨-, hnone, hnew⟩ := isFree_concat_iff.1 hall.of_append
      exact hrefused.elim (fun howned => howned hnone) hnew
    rw [hmake]
    refine ⟨iff_of_false (by rintro ⟨v, ⟨⟩⟩) hnot, by rintro _ ⟨⟩, ?_⟩
    rintro _ _ ⟨⟩
    refine ⟨taken, c, behind, hsplit, hfree, hrefused, hmade, fun _ => ?_, fun m hm => ?_, ?_⟩
    · obtain ⟨owner, howner⟩ := Option.ne_none_iff_exists'.1 (exists_attach_eq_error_iff.1 ⟨e, he⟩)
      refine ⟨owner, howner, fun child other hchild hother => ?_⟩
      rw [attach, howner] at he
      simp only [hchild, hother] at he
      exact (Except.error.inj he).symm
    · constructor
      · intro hsame hmem
        have howner := congrArg Cell.parent hsame
        rw [hmade.cell_old hm, if_pos hmem, hfree.parent_eq_none m hmem] at howner
        cases howner
      · intro hmem
        rw [hmade.cell_old hm, if_neg hmem]
    · intro n b hn hb
      have hn' : (u.cell n).cls.isNode := by rwa [hmade.cell_old (lt_size_of_isNode hn)]
      rw [exists_add_eq_ok_iff hn', exists_add_eq_ok_iff hn, hmade.parent_eq_none_iff hb]

/-- Three words, and a statement that holds the second one. -/
def takenWord : Workbench :=
  empty.performAll [word "x", word "y", word "z", .create (.node .statement) noCell, .add 3 1]

/-- A statement that is not there yet. -/
def newStatement : Cell := { noCell with name := some "new", cls := .kind (.node .statement) }

theorem make_takes_until_refused_takenWord :
    (takenWord.make newStatement [0, 1, 2]).2 =
      some (.alreadyOwned "<Word 'y'>" "<Statement 'y'>") ∧
    let v := (takenWord.make newStatement [0, 1, 2]).1
    v.HasOwner 0 4 ∧ (v.cell 4).children = [0] ∧ v.cell 2 = takenWord.cell 2 ∧
      (∃ u, v.add 3 2 = .ok u) ∧ ¬∃ u, v.add 3 0 = .ok u := by
  have hmake : (takenWord.make newStatement [0, 1, 2]).2 =
      some (.alreadyOwned "<Word 'y'>" "<Statement 'y'>") := by decide +kernel
  have hsize : takenWord.size = 4 := by decide +kernel
  obtain ⟨-, -, hfails⟩ :=
    make_takes_until_refused takenWord newStatement [0, 1, 2] rfl (by rw [hsize]; decide)
  obtain ⟨taken, c, behind, hsplit, hfree, hrefused, hmade, -, hsame, hadd⟩ :=
    hfails (takenWord.make newStatement [0, 1, 2]).1 _ (by rw [← hmake])
  have htaken : taken = [0] := by
    match taken with
    | [] =>
      obtain ⟨rfl, -⟩ := List.cons.inj hsplit
      exact absurd hrefused (by decide +kernel)
    | [d] =>
      obtain ⟨rfl, -⟩ := List.cons.inj hsplit
      rfl
    | d :: f :: more =>
      obtain ⟨-, htail⟩ := List.cons.inj hsplit
      obtain ⟨rfl, -⟩ := List.cons.inj htail
      cases hfree.parent_eq_none 1 (List.mem_cons_of_mem _ List.mem_cons_self)
  subst htaken
  refine ⟨hmake, ?_, ?_, (hsame 2 (by omega)).2 (by decide), ?_, ?_⟩
  · rw [HasOwner, hmade.cell_old (by omega), if_pos (by decide), hsize]
  · rw [hmade.cell_eq, hsize, if_pos rfl]
  · exact (hadd 3 2 rfl (by omega)).2 ⟨⟨_, rfl⟩, by decide⟩
  · rw [hadd 3 0 rfl (by omega)]
    exact fun h => h.2 List.mem_cons_self

/-- The word in front of the one that is refused is no longer free, though nothing was made. -/
theorem make_keeps_taken_word :
    let v := (takenWord.make newStatement [0, 1, 2]).1
    (takenWord.make newStatement [0, 1, 2]).2 =
      some (.alreadyOwned "<Word 'y'>" "<Statement 'y'>") ∧
    ¬(∀ m < takenWord.size, (v.cell m).parent = (takenWord.cell m).parent ∧
      (v.cell m).children = (takenWord.cell m).children) ∧
    (∃ u, takenWord.add 3 0 = .ok u) ∧
    v.add 3 0 = .error (.alreadyOwned "<Word 'x'>" "<Statement 'x'>") := by
  refine ⟨by decide +kernel, fun h => ?_, ⟨_, rfl⟩, by decide +kernel⟩
  exact absurd (h 0 (by decide)).1 (by decide +kernel)

end Workbench
end JumpLint

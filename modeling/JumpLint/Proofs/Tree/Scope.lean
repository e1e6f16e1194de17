import JumpLint.Proofs.Tree.Place

/-!
# Scopes and the blocks around a place

A site carries the scopes around it, collected on the way down from the root.  Here they are
compared with what can be read off the tree and the address alone: the blocks that stand at the
beginnings of the address.

## What is here

* `Document.IsBlockAround`: a block with the place somewhere inside it.
* `Document.mem_scopes_iff`: the scopes of a site are these blocks and the root.
* `Site.IsNested`: the scopes of a site lie inside one another, the innermost first.
* `Document.scope_not_mem_iff`: the one comparison of the goto rule.  The innermost scope of one
  place is not around another place exactly when some block is around the first place and not around
  the second.
-/

set_option autoImplicit false
namespace JumpLint

/-- The block at the address `b` is around the place at the address `a`. -/
structure Document.IsBlockAround (d : Document) (b a : Address) : Prop where
  block : ∃ children, d.at? b = some (.node .block children)
  above : b <+: a
  ne : b ≠ a

theorem Element.isBlock_iff {e : Element} :
    e.isBlock = true ↔ ∃ children, e = .node .block children := by
  cases e with
  | token => simp [isBlock]
  | node kind children => cases kind <;> simp [isBlock]

namespace Site

theorem mem_innerScopes_iff {s : Site} {b : Address} :
    b ∈ s.innerScopes ↔ (b = s.address ∧ s.element.isBlock = true) ∨ b ∈ s.scopes := by
  rw [innerScopes]
  split
  · rename_i hblock
    rw [List.mem_cons, and_iff_left hblock]
  · rename_i hblock
    simp [hblock]

/-- What the way down an address adds to the scopes: the blocks that it passes, the last place not
among them. -/
theorem mem_scopes_at?_iff {s t : Site} {a : Address} (h : s.at? a = some t) {b : Address} :
    b ∈ t.scopes ↔ b ∈ s.scopes ∨ ∃ p, p <+: a ∧ p ≠ a ∧ s.address ++ p = b ∧
      ∃ children, s.element.at? p = some (.node .block children) := by
  induction a generalizing s with
  | nil =>
    cases h
    refine ⟨.inl, ?_⟩
    rintro (hb | ⟨p, hp, hne, -⟩)
    · exact hb
    · exact absurd (List.prefix_nil.1 hp) hne
  | cons i more ih =>
    obtain ⟨e, he, ht⟩ := at?_cons_eq_some_iff.1 h
    have hstep : ∀ p, s.element.at? (i :: p) = e.at? p := by
      intro p
      rw [Element.at?_cons, he, Option.bind_some]
    rw [ih ht, mem_innerScopes_iff]
    constructor
    · rintro ((⟨rfl, hblock⟩ | hb) | ⟨p, hp, hne, rfl, hblock⟩)
      · obtain ⟨children, hchildren⟩ := Element.isBlock_iff.1 hblock
        refine .inr ⟨[], List.nil_prefix, (List.cons_ne_nil i more).symm, List.append_nil _, ?_⟩
        exact ⟨children, by rw [Element.at?_nil, hchildren]⟩
      · exact .inl hb
      · refine .inr ⟨i :: p, List.cons_prefix_cons.2 ⟨rfl, hp⟩, ?_, ?_, by rwa [hstep]⟩
        · exact fun heq => hne (List.cons.inj heq).2
        · rw [List.append_assoc, List.singleton_append]
    · rintro (hb | ⟨p, hp, hne, rfl, hblock⟩)
      · exact .inl (.inr hb)
      · rcases List.prefix_cons_iff.1 hp with rfl | ⟨q, rfl, hq⟩
        · obtain ⟨children, hchildren⟩ := hblock
          refine .inl (.inl ⟨List.append_nil _, Element.isBlock_iff.2 ⟨children, ?_⟩⟩)
          exact Option.some.inj hchildren
        · refine .inr ⟨q, hq, fun heq => hne (heq ▸ rfl), ?_, by rwa [hstep] at hblock⟩
          rw [List.append_assoc, List.singleton_append]

/-! ## Nesting -/

/-- The scopes of a site lie inside one another, the innermost first, and the site in all of them.
-/
structure IsNested (s : Site) : Prop where
  nonempty : s.scopes ≠ []
  around : ∀ b ∈ s.scopes, b <+: s.address
  nested : s.scopes.Pairwise fun inner outer => outer <+: inner

/-- A step down a tree keeps the nesting. -/
theorem IsNested.child {s : Site} (h : s.IsNested) (i : Nat) (e : Element) :
    IsNested ⟨s.address ++ [i], s.innerScopes, e⟩ := by
  have hdown : ∀ b, b <+: s.address → b <+: s.address ++ [i] :=
    fun b hb => hb.trans (List.prefix_append _ _)
  refine ⟨?_, ?_, ?_⟩
  · simp only [innerScopes]
    split
    · exact List.cons_ne_nil _ _
    · exact h.nonempty
  · intro b hb
    rcases mem_innerScopes_iff.1 hb with ⟨rfl, -⟩ | hb
    · exact hdown _ (List.prefix_refl _)
    · exact hdown _ (h.around b hb)
  · simp only [innerScopes]
    split
    · exact List.pairwise_cons.2 ⟨h.around, h.nested⟩
    · exact h.nested

/-- All sites below a nested site are nested. -/
theorem IsNested.at? {s t : Site} (h : s.IsNested) {a : Address} (ht : s.at? a = some t) :
    t.IsNested := by
  induction a generalizing s with
  | nil =>
    cases ht
    exact h
  | cons i more ih =>
    obtain ⟨e, -, ht⟩ := at?_cons_eq_some_iff.1 ht
    exact ih (h.child i e) ht

theorem IsNested.scope_mem {s : Site} (h : s.IsNested) : s.scope ∈ s.scopes := by
  obtain ⟨inner, outer, hscopes⟩ := List.exists_cons_of_ne_nil h.nonempty
  rw [scope, hscopes]
  exact List.mem_cons_self

/-- The innermost scope lies in all scopes. -/
theorem IsNested.prefix_scope {s : Site} (h : s.IsNested) {b : Address} (hb : b ∈ s.scopes) :
    b <+: s.scope := by
  obtain ⟨inner, outer, hscopes⟩ := List.exists_cons_of_ne_nil h.nonempty
  have hnested := h.nested
  rw [hscopes, List.pairwise_cons] at hnested
  rw [hscopes] at hb
  rw [scope, hscopes, List.headD_cons]
  rcases List.mem_cons.1 hb with rfl | hb
  · exact List.prefix_refl _
  · exact hnested.1 b hb

end Site

/-! ## Documents -/

namespace Document

theorem isNested_root (d : Document) : d.root.IsNested where
  nonempty := List.cons_ne_nil _ _
  around := fun _ hb => List.mem_singleton.1 hb ▸ List.nil_prefix
  nested := List.pairwise_singleton _ _

/-- The root is no block. -/
theorem IsBlockAround.ne_nil {d : Document} {b a : Address} (h : d.IsBlockAround b a) : b ≠ [] := by
  rintro rfl
  obtain ⟨children, hchildren⟩ := h.block
  cases hchildren

/-- **The scopes around a place** are the root and the blocks around the place. -/
theorem mem_scopes_iff {d : Document} {s : Site} {a : Address} (h : d.root.at? a = some s)
    {b : Address} : b ∈ s.scopes ↔ b = [] ∨ d.IsBlockAround b a := by
  rw [Site.mem_scopes_at?_iff h]
  constructor
  · rintro (hb | ⟨p, hp, hne, rfl, hblock⟩)
    · exact .inl (List.mem_singleton.1 hb)
    · exact .inr ⟨hblock, hp, hne⟩
  · rintro (rfl | hb)
    · exact .inl (List.mem_singleton_self _)
    · exact .inr ⟨b, hb.above, hb.ne, rfl, hb.block⟩

/-- **Comparing the innermost scope is enough.**  Blocks around a place that are also around another
place are around it together with everything outside of them, so only the innermost one counts; and
where there is none, the root takes its place, which is around everything. -/
theorem scope_not_mem_iff {d : Document} {t s : Site} {l a : Address}
    (ht : d.root.at? l = some t) (hs : d.root.at? a = some s) :
    t.scope ∉ s.scopes ↔ ∃ b, d.IsBlockAround b l ∧ ¬d.IsBlockAround b a := by
  have hnested : t.IsNested := d.isNested_root.at? ht
  rw [mem_scopes_iff hs, not_or]
  constructor
  · rintro ⟨hne, hnot⟩
    have hscope : t.scope = [] ∨ d.IsBlockAround t.scope l :=
      (mem_scopes_iff ht).1 hnested.scope_mem
    exact ⟨t.scope, hscope.resolve_left hne, hnot⟩
  · rintro ⟨b, hbl, hba⟩
    -- the innermost scope lies in `b`, so wherever it is around, `b` is too
    have hin : b <+: t.scope := hnested.prefix_scope ((mem_scopes_iff ht).2 (.inr hbl))
    refine ⟨fun hnil => ?_, fun hscope => ?_⟩
    · exact hbl.ne_nil (List.prefix_nil.1 (hnil ▸ hin))
    · refine hba ⟨hbl.block, hin.trans hscope.above, ?_⟩
      rintro rfl
      exact hscope.ne (hscope.above.eq_of_length_le hin.length_le)

end Document
end JumpLint

import JumpLint.Proofs.Goto.Findings
import JumpLint.Proofs.Tree.Bare

/-!
# White space, comments and documentation do not matter

What the goto rule finds in a document is what it finds in the bare document, at the addresses
there: the tokens that are left out are no labels and no jumps, the first two words of a statement
are the same without them, and blocks that were different stay different.  So the findings of a
document stay the same when such tokens are put in or taken out.

## What is here

* `gotoTarget?_bare`, `Site.definition?_bare`: an element is read alike when it is bare.
* `Document.labels_bare`, `Document.findings_bare`: the label table and the findings of the bare
  document.
* `Document.findings_of_isRespaced`: the findings and the label tables of two documents that are the
  same but for insignificant tokens.
-/

set_option autoImplicit false
namespace JumpLint

/-! ## Elements -/

theorem Element.word?_bare (e : Element) : e.bare.word? = e.word? := by
  cases e <;> rfl

theorem Element.label?_bare (e : Element) : e.bare.label? = e.label? := by
  cases e <;> rfl

theorem targetOf?_bareAll (children : List Element) :
    targetOf? (Element.bareAll children) = targetOf? children := by
  rw [targetOf?, targetOf?, Element.significant_bareAll, Element.bareAll_eq]
  rcases significant children with _ | ⟨keyword, _ | ⟨target, rest⟩⟩
  · rfl
  · rfl
  · simp only [List.map_cons, Element.word?_bare]

theorem gotoTarget?_bare (e : Element) : gotoTarget? e.bare = gotoTarget? e := by
  rw [gotoTarget?, gotoTarget?, Element.children_bare, targetOf?_bareAll]

theorem Element.isSignificant_of_isBreak {e : Element} (h : e.isBreak = true) :
    e.isSignificant = true := by
  cases e with
  | token => cases h
  | node => rfl

theorem Element.label?_of_not_isSignificant {e : Element} (h : e.isSignificant = false) :
    e.label? = none := by
  cases e with
  | token kind => cases kind <;> first | rfl | cases h
  | node => rfl

/-! ## The bare document -/

theorem Site.definition?_bare {way : Address → Address} (hroot : way [] = []) (s : Site) :
    (s.bare way).definition? = s.definition?.map (Prod.map id way) := by
  have hscope : (s.bare way).scope = way s.scope := by
    rw [scope, scope, bare]
    cases s.scopes with
    | nil => exact hroot.symm
    | cons => rfl
  rw [definition?, definition?, hscope, bare, Element.label?_bare, Option.map_map]
  rfl

namespace Document

/-- Insignificant elements are no definitions. -/
theorem filterMap_definition?_remaining (d : Document) :
    (d.sites.filter (·.element.isSignificant)).filterMap Site.definition? =
      d.sites.filterMap Site.definition? := by
  rw [List.filterMap_filter]
  congr 1
  funext s
  split
  · rfl
  · rename_i h
    rw [Site.definition?, Element.label?_of_not_isSignificant (Bool.eq_false_iff.2 h)]
    rfl

theorem definitions_bare (d : Document) :
    d.bare.sites.filterMap Site.definition? =
      (d.sites.filterMap Site.definition?).map (Prod.map id d.way) := by
  rw [sites_bare, List.filterMap_map, ← filterMap_definition?_remaining, List.map_filterMap]
  exact congrFun (congrArg _ (funext (Site.definition?_bare d.way_nil))) _

/-- **The label table** of the bare document. -/
theorem labels_bare (d : Document) : d.bare.labels = LabelTable.mapScopes d.way d.labels := by
  rw [labels, labels, definitions_bare, LabelTable.ofLabels_map]

/-- The scopes of definitions remain. -/
theorem definition_mem_remaining {d : Document} {definition : Text × Address}
    (h : definition ∈ d.sites.filterMap Site.definition?) :
    definition.2 ∈ d.remaining.map Site.address := by
  obtain ⟨l, t, hdef, ht, hscope⟩ := mem_definitions_iff.1 h
  have hsite : t ∈ d.sites := by
    have haddr : t.address = l := Site.address_of_at? ht
    exact mem_sites_iff.2 ⟨haddr ▸ hdef.ne_nil, haddr ▸ ht⟩
  exact hscope ▸ scope_mem_remaining hsite (d.isNested_root.at? ht).scope_mem

/-- A remaining element is judged alike when it is bare. -/
theorem enters_bare {d : Document} {s : Site} (hs : s ∈ d.sites) :
    (s.bare d.way).enters d.bare.labels = s.enters d.labels := by
  have hinj : ∀ definition ∈ d.sites.filterMap Site.definition?, ∀ b ∈ s.scopes,
      d.way definition.2 = d.way b → definition.2 = b := fun _ hdef _ hb =>
    injOn_way (definition_mem_remaining hdef) (scope_mem_remaining hs hb)
  rw [Site.enters, Site.enters, labels, labels, definitions_bare, Site.bare, gotoTarget?_bare,
    LabelTable.isEntered_ofLabels_map hinj]

/-- **The findings** of the bare document. -/
theorem findings_bare (d : Document) : d.bare.findings = d.findings.map (Site.bare d.way) := by
  have hjudged : ∀ s ∈ d.sites.filter (·.element.isSignificant),
      ((s.bare d.way).element.isBreak && (s.bare d.way).enters d.bare.labels) =
        (s.element.isBreak && s.enters d.labels) := by
    intro s hs
    rw [enters_bare (List.mem_filter.1 hs).1, Site.bare, Element.isBreak_bare]
  have hkept : ∀ s : Site, ((s.element.isBreak && s.enters d.labels) && s.element.isSignificant) =
      (s.element.isBreak && s.enters d.labels) := by
    intro s
    cases hbreak : s.element.isBreak with
    | false => rfl
    | true => rw [Element.isSignificant_of_isBreak hbreak, Bool.and_true]
  rw [findings, findings, sites_bare, List.filter_map]
  refine congrArg (List.map _) ((List.filter_congr hjudged).trans ?_)
  rw [List.filter_filter]
  exact List.filter_congr fun s _ => hkept s

/-! ## Two documents -/

/-- Rows that are the same after something was done to their items. -/
theorem forall₂_of_map_eq {α β γ : Type} {f : α → γ} {g : β → γ} {R : α → β → Prop} {xs : List α}
    {ys : List β} (h : xs.map f = ys.map g) (hR : ∀ x ∈ xs, ∀ y ∈ ys, f x = g y → R x y) :
    List.Forall₂ R xs ys := by
  induction xs generalizing ys with
  | nil =>
    cases List.map_eq_nil_iff.1 h.symm
    exact .nil
  | cons x more ih =>
    cases ys with
    | nil => cases h
    | cons y rest =>
      obtain ⟨hfirst, hrest⟩ := List.cons.inj h
      refine .cons (hR x List.mem_cons_self y List.mem_cons_self hfirst) (ih hrest ?_)
      exact fun a ha b hb => hR a (List.mem_cons_of_mem _ ha) b (List.mem_cons_of_mem _ hb)

variable {d d' : Document}

theorem address_mem_remaining_of_mem_findings {s : Site} (h : s ∈ d.findings) :
    s.address ∈ d.remaining.map Site.address := by
  obtain ⟨hs, hjudged⟩ := List.mem_filter.1 h
  exact address_mem_remaining hs
    (Element.isSignificant_of_isBreak (Bool.and_eq_true_iff.1 hjudged).1)

theorem scope_mem_remaining_of_mem_labels {entry : Text × List Address} (h : entry ∈ d.labels)
    {scope : Address} (hscope : scope ∈ entry.2) : scope ∈ d.remaining.map Site.address :=
  definition_mem_remaining (LabelTable.mem_of_mem_ofLabels h hscope)

/-- **White space, comments and documentation do not matter.**  When such tokens have been put into
a document, or taken out, at any places and depths, the elements that remain are the same, one after
the other.  The findings are the same statements, at the corresponding places and in the same order;
and the label table is empty for both documents, or has the same labels in the same order, each with
the corresponding blocks. -/
theorem findings_of_isRespaced (h : d.IsRespaced d') :
    d.remaining.map (·.element.bare) = d'.remaining.map (·.element.bare) ∧
      List.Forall₂ (fun s s' => d.Corresponds d' s.address s'.address ∧
        s.element.bare = s'.element.bare) d.findings d'.findings ∧
      (d.labels = [] ↔ d'.labels = []) ∧
      List.Forall₂ (fun entry entry' => entry.1 = entry'.1 ∧
        List.Forall₂ (d.Corresponds d') entry.2 entry'.2) d.labels d'.labels := by
  have hbare : d.bare = d'.bare := bare_eq_of_isRespaced h
  have hsites : d.remaining.map (Site.bare d.way) = d'.remaining.map (Site.bare d'.way) := by
    rw [map_bare_remaining, map_bare_remaining, hbare]
  have hfindings : d.findings.map (Site.bare d.way) = d'.findings.map (Site.bare d'.way) := by
    rw [← findings_bare, ← findings_bare, hbare]
  have hlabels : LabelTable.mapScopes d.way d.labels = LabelTable.mapScopes d'.way d'.labels := by
    rw [← labels_bare, ← labels_bare, hbare]
  refine ⟨?_, forall₂_of_map_eq hfindings fun s hs s' hs' heq => ?_, ?_,
    forall₂_of_map_eq hlabels fun entry hentry entry' hentry' heq => ?_⟩
  · have helements := congrArg (List.map Site.element) hsites
    rwa [List.map_map, List.map_map] at helements
  · obtain ⟨hway, -, helement⟩ := Site.mk.inj heq
    exact ⟨corresponds_of_way_eq hbare (address_mem_remaining_of_mem_findings hs)
      (address_mem_remaining_of_mem_findings hs') hway, helement⟩
  · rw [← List.map_eq_nil_iff (f := Prod.map id (List.map d.way)), ← LabelTable.mapScopes, hlabels,
      LabelTable.mapScopes, List.map_eq_nil_iff]
  · obtain ⟨hlabel, hscopes⟩ := Prod.mk.inj heq
    refine ⟨hlabel, forall₂_of_map_eq hscopes fun scope hscope scope' hscope' hway => ?_⟩
    exact corresponds_of_way_eq hbare (scope_mem_remaining_of_mem_labels hentry hscope)
      (scope_mem_remaining_of_mem_labels hentry' hscope') hway

/-- The source `{ FOO: } goto FOO;` with other white space, a comment and documentation. -/
def respacedJump : Document where
  filename := some (.ofString "lib/Foo.pm")
  children := [
    .token .pod (.ofString "=pod") .unknown,
    .node .block [
      .token .comment (.ofString "# FOO:") .unknown,
      .token .label (.ofString "FOO:") ⟨some 1, some 3⟩],
    .node .breakStatement [
      .token .word (.ofString "goto") ⟨some 1, some 10⟩,
      .token .word (.ofString "FOO") .unknown,
      .token .whitespace (.ofString "\n") .unknown,
      .token .punctuation (.ofString ";") .unknown]]

theorem findings_of_isRespaced_jump :
    IsRespaced enteringJump respacedJump ∧
      enteringJump.findings.map Site.address = [[2]] ∧
      respacedJump.findings.map Site.address = [[2]] ∧
      enteringJump.labels = [(.ofString "FOO:", [[0]])] ∧
      respacedJump.labels = [(.ofString "FOO:", [[1]])] ∧
      List.Forall₂ (fun s s' => enteringJump.Corresponds respacedJump s.address s'.address ∧
        s.element.bare = s'.element.bare) enteringJump.findings respacedJump.findings ∧
      List.Forall₂ (fun entry entry' => entry.1 = entry'.1 ∧
        List.Forall₂ (enteringJump.Corresponds respacedJump) entry.2 entry'.2)
        enteringJump.labels respacedJump.labels := by
  have hrespaced : IsRespaced enteringJump respacedJump := ⟨rfl, respaces_iff.2 rfl⟩
  obtain ⟨-, hfindings, -, hlabels⟩ := findings_of_isRespaced hrespaced
  exact ⟨hrespaced, by decide +kernel, by decide +kernel, by decide +kernel, by decide +kernel,
    hfindings, hlabels⟩

end Document
end JumpLint

import JumpLint.Goto.Rule
import JumpLint.Proofs.Goto.Table
import JumpLint.Proofs.Tree.Scope

/-!
# What the goto rule finds

The rule looks at the innermost scope around each definition of a label and at the scopes around the
jump.  Here it is compared with what it is about, said of the tree alone: which elements are jumps,
where their labels are defined, and which blocks are around the one place and not the other.

## What is here

* `Element.IsGotoTo`: the shape of a jump to a label.
* `Document.Defines`, `Document.EntersBlock`: where a label is defined, and that every way to it
  leads into a block.
* `gotoTarget?_eq_some_iff`, `Document.labels_eq_nil_iff`: how the rule reads a jump, and when it
  has no labels to look for.
* `Document.isEntered_labels_iff`: how the rule judges an element of the document that the labels
  are from, and `Document.isEntered_labels_nil_iff` how it judges an element of another.
* `Document.rising_and_mem_findings_iff`: the findings are the jumps into blocks, in the order of
  their places.
-/

set_option autoImplicit false
namespace JumpLint

/-! ## Jumps and labels -/

/-- An element has the shape of a jump to the label `name`: its first two significant children are
the word `goto` and the word `name`. -/
def Element.IsGotoTo (e : Element) (name : Text) : Prop :=
  ∃ here there rest, significant e.children =
    .token .word (.ofString "goto") here :: .token .word name there :: rest

theorem Element.word?_eq_some_iff {e : Element} {text : Text} :
    e.word? = some text ↔ ∃ location, e = .token .word text location := by
  cases e with
  | token kind t location => cases kind <;> simp [word?]
  | node => simp [word?]

theorem Element.label?_eq_some_iff {e : Element} {text : Text} :
    e.label? = some text ↔ ∃ location, e = .token .label text location := by
  cases e with
  | token kind t location => cases kind <;> simp [label?]
  | node => simp [label?]

/-- **How a jump is read.**  The rule looks for the name with the end of a label behind it. -/
theorem gotoTarget?_eq_some_iff {e : Element} {label : Text} :
    gotoTarget? e = some label ↔ ∃ name, e.IsGotoTo name ∧ label = name ++ labelEnd := by
  rw [gotoTarget?, targetOf?]
  constructor
  · intro h
    split at h
    · rename_i keyword target rest hchildren
      split at h
      · rename_i hkeyword
        obtain ⟨here, rfl⟩ := Element.word?_eq_some_iff.1 (beq_iff_eq.1 hkeyword)
        obtain ⟨name, hname, rfl⟩ := Option.map_eq_some_iff.1 h
        obtain ⟨there, rfl⟩ := Element.word?_eq_some_iff.1 hname
        exact ⟨name, ⟨here, there, rest, hchildren⟩, rfl⟩
      · exact absurd h.symm (Option.some_ne_none _)
    · exact absurd h.symm (Option.some_ne_none _)
  · rintro ⟨name, ⟨here, there, rest, hchildren⟩, rfl⟩
    rw [hchildren]
    exact if_pos (beq_self_eq_true _)

namespace Document

/-- The label `label`, with its colon, is defined at the address `l`. -/
def Defines (d : Document) (label : Text) (l : Address) : Prop :=
  ∃ location, d.at? l = some (.token .label label location)

/-- A jump from the address `a` to `label` enters a block: the label is defined, and around each of
its definitions there is a block that is not around the jump. -/
def EntersBlock (d : Document) (label : Text) (a : Address) : Prop :=
  (∃ l, d.Defines label l) ∧
    ∀ l, d.Defines label l → ∃ b, d.IsBlockAround b l ∧ ¬d.IsBlockAround b a

/-- Labels are not the root. -/
theorem Defines.ne_nil {d : Document} {label : Text} {l : Address} (h : d.Defines label l) :
    l ≠ [] := by
  rintro rfl
  obtain ⟨location, hlocation⟩ := h
  cases hlocation

/-- The recorded definitions are the labels below the root, each with its innermost scope. -/
theorem mem_definitions_iff {d : Document} {label : Text} {scope : Address} :
    (label, scope) ∈ d.sites.filterMap Site.definition? ↔
      ∃ l t, d.Defines label l ∧ d.root.at? l = some t ∧ t.scope = scope := by
  rw [List.mem_filterMap]
  constructor
  · rintro ⟨t, ht, hdef⟩
    obtain ⟨text, hlabel, hpair⟩ := Option.map_eq_some_iff.1 hdef
    obtain ⟨rfl, rfl⟩ := Prod.mk.inj hpair
    obtain ⟨location, helement⟩ := Element.label?_eq_some_iff.1 hlabel
    refine ⟨t.address, t, ⟨location, ?_⟩, (mem_sites_iff.1 ht).2, rfl⟩
    rw [at?_of_mem_sites ht, helement]
  · rintro ⟨l, t, hdef, ht, rfl⟩
    obtain ⟨location, hlocation⟩ := hdef
    have helement : t.element = .token .label label location :=
      Option.some.inj ((Site.element_of_at? ht).symm.trans hlocation)
    have haddr : t.address = l := Site.address_of_at? ht
    refine ⟨t, mem_sites_iff.2 ⟨?_, haddr ▸ ht⟩, ?_⟩
    · rw [haddr]
      exact Defines.ne_nil ⟨location, hlocation⟩
    · rw [Site.definition?, helement]
      rfl

/-- A label has a recorded definition when it is defined. -/
theorem exists_definition_iff {d : Document} {label : Text} :
    (∃ scope, (label, scope) ∈ d.sites.filterMap Site.definition?) ↔ ∃ l, d.Defines label l := by
  constructor
  · rintro ⟨scope, hmem⟩
    obtain ⟨l, t, hdef, -⟩ := mem_definitions_iff.1 hmem
    exact ⟨l, hdef⟩
  · rintro ⟨l, hdef⟩
    obtain ⟨t, ht, -⟩ := Site.exists_at?_of_element hdef.choose_spec
    exact ⟨t.scope, mem_definitions_iff.2 ⟨l, t, hdef, ht, rfl⟩⟩

/-- There is nothing to look for in a document without labels. -/
theorem labels_eq_nil_iff {d : Document} : d.labels = [] ↔ ∀ label l, ¬d.Defines label l := by
  rw [labels, LabelTable.ofLabels_eq_nil_iff, List.eq_nil_iff_forall_not_mem]
  constructor
  · intro h label l hdef
    obtain ⟨scope, hmem⟩ := exists_definition_iff.2 ⟨l, hdef⟩
    exact h _ hmem
  · rintro h ⟨label, scope⟩ hmem
    obtain ⟨l, hdef⟩ := exists_definition_iff.1 ⟨scope, hmem⟩
    exact h label l hdef

/-! ## The judgment -/

/-- **How an element is judged by the labels of its own document.** -/
theorem isEntered_labels_iff {d : Document} {s : Site} {a : Address} (hs : d.root.at? a = some s) :
    d.labels.isEntered (gotoTarget? s.element) s.scopes = true ↔
      ∃ name, s.element.IsGotoTo name ∧ d.EntersBlock (name ++ labelEnd) a := by
  have hscopes : ∀ label, (∀ scope, (label, scope) ∈ d.sites.filterMap Site.definition? →
      scope ∉ s.scopes) ↔
      ∀ l, d.Defines label l → ∃ b, d.IsBlockAround b l ∧ ¬d.IsBlockAround b a := by
    intro label
    constructor
    · intro h l hdef
      obtain ⟨t, ht, -⟩ := Site.exists_at?_of_element hdef.choose_spec
      exact (scope_not_mem_iff ht hs).1 (h _ (mem_definitions_iff.2 ⟨l, t, hdef, ht, rfl⟩))
    · intro h scope hmem
      obtain ⟨l, t, hdef, ht, rfl⟩ := mem_definitions_iff.1 hmem
      exact (scope_not_mem_iff ht hs).2 (h l hdef)
  rw [labels, LabelTable.isEntered_ofLabels_iff]
  simp only [gotoTarget?_eq_some_iff, exists_definition_iff, hscopes]
  constructor
  · rintro ⟨label, ⟨name, hgoto, rfl⟩, henters⟩
    exact ⟨name, hgoto, henters⟩
  · rintro ⟨name, hgoto, henters⟩
    exact ⟨_, ⟨name, hgoto, rfl⟩, henters⟩

/-- **How an element is judged by the labels of another document**, whose scopes are not around it:
every definition counts as entered. -/
theorem isEntered_labels_nil_iff {d : Document} {e : Element} :
    d.labels.isEntered (gotoTarget? e) [] = true ↔
      ∃ name, e.IsGotoTo name ∧ ∃ l, d.Defines (name ++ labelEnd) l := by
  rw [labels, LabelTable.isEntered_ofLabels_iff]
  simp only [gotoTarget?_eq_some_iff, exists_definition_iff]
  constructor
  · rintro ⟨label, ⟨name, hgoto, rfl⟩, hdefined, -⟩
    exact ⟨name, hgoto, hdefined⟩
  · rintro ⟨name, hgoto, hdefined⟩
    exact ⟨_, ⟨name, hgoto, rfl⟩, hdefined, fun _ _ => List.not_mem_nil⟩

/-! ## The findings -/

/-- The element `e` at the address `a` is a break statement that jumps into a block. -/
structure JumpsIntoBlock (d : Document) (a : Address) (e : Element) : Prop where
  below : a ≠ []
  place : d.at? a = some e
  isBreak : ∃ children, e = .node .breakStatement children
  enters : ∃ name, e.IsGotoTo name ∧ d.EntersBlock (name ++ .ofString ":") a

end Document

theorem Element.isBreak_iff {e : Element} :
    e.isBreak = true ↔ ∃ children, e = .node .breakStatement children := by
  cases e with
  | token => simp [isBreak]
  | node kind children => cases kind <;> simp [isBreak]

namespace Document

theorem mem_findings_iff {d : Document} {s : Site} :
    s ∈ d.findings ↔ s ∈ d.sites ∧ d.JumpsIntoBlock s.address s.element := by
  rw [findings, List.mem_filter]
  refine and_congr_right fun hs => ?_
  have hplace := mem_sites_iff.1 hs
  rw [Bool.and_eq_true, Element.isBreak_iff, Site.enters, isEntered_labels_iff hplace.2]
  constructor
  · rintro ⟨hbreak, henters⟩
    exact ⟨hplace.1, at?_of_mem_sites hs, hbreak, henters⟩
  · intro h
    exact ⟨h.isBreak, h.enters⟩

/-- **The rule is exact.**  The places of the findings rise, so that none comes twice, and a finding
is the same as a break statement that jumps into a block. -/
theorem rising_and_mem_findings_iff (d : Document) :
    d.findings.Pairwise (fun s t => s.address < t.address) ∧
      ∀ a e, (∃ s ∈ d.findings, s.address = a ∧ s.element = e) ↔ d.JumpsIntoBlock a e := by
  refine ⟨d.pairwise_sites.filter _, fun a e => ⟨?_, fun h => ?_⟩⟩
  · rintro ⟨s, hs, rfl, rfl⟩
    exact (mem_findings_iff.1 hs).2
  · obtain ⟨s, hs, rfl, rfl⟩ := exists_site_of_at? h.below h.place
    exact ⟨s, mem_findings_iff.2 ⟨hs, h⟩, rfl, rfl⟩

/-- The source `{ FOO: } goto FOO;`. -/
def enteringJump : Document where
  filename := some (.ofString "lib/Foo.pm")
  children := [
    .node .block [.token .label (.ofString "FOO:") ⟨some 1, some 3⟩],
    .token .whitespace (.ofString " ") .unknown,
    .node .breakStatement [
      .token .word (.ofString "goto") ⟨some 1, some 10⟩,
      .token .whitespace (.ofString " ") .unknown,
      .token .word (.ofString "FOO") .unknown,
      .token .punctuation (.ofString ";") .unknown]]

example : enteringJump.findings.map Site.address = [[2]] := by decide +kernel

end Document
end JumpLint

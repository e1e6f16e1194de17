import JumpLint.Policy
import JumpLint.Proofs.Goto.Findings
import Mathlib.Data.Set.Card

/-!
# Where the labels of a document are

The label table of a document has the scopes of definitions, but not the places of these.  To see
that the scopes in an entry are in order, the table is compared with one that holds the sites of
labels themselves, of which the scopes are taken afterwards.  The sites come in the order of the
walk, and each of them knows its place and its innermost scope.

## What is here

* `IsListing`: places in a row, all of a kind and in order.
* `Document.IsScopeOf`: the innermost block around a place, or the root; `Site.scope` is that.
* `Document.labels_eq_mapScopes`: the label table by way of the sites of labels.
* `Document.IsIndexedBy`: a table that tells where each label of a document is defined.
* `Policy.prepare_indexes`: the label table of a document, and the number of labels in the log.
-/

set_option autoImplicit false
namespace JumpLint

/-! ## Places of labels -/

/-- Places in order: those that `P` holds of, each once, from the first to the last in the tree. -/
structure IsListing (P : Address → Prop) (places : List Address) : Prop where
  rising : places.Pairwise (· < ·)
  mem_iff : ∀ a, a ∈ places ↔ P a

/-- A label with the site where it is defined. -/
def Site.labelled? (s : Site) : Option (Text × Site) :=
  s.element.label?.map fun label => (label, s)

namespace Document

variable {d : Document}

/-- The scope of a place is the innermost block around it, or the root if there is none. -/
inductive IsScopeOf (d : Document) (a : Address) : Address → Prop where
  | block {b : Address} (around : d.IsBlockAround b a)
      (innermost : ∀ c, d.IsBlockAround c a → c <+: b) : IsScopeOf d a b
  | root (none : ∀ c, ¬d.IsBlockAround c a) : IsScopeOf d a []

/-- **The innermost scope of a site** is the nearest block around it. -/
theorem isScopeOf_scope {s : Site} {a : Address} (h : d.root.at? a = some s) :
    d.IsScopeOf a s.scope := by
  have hnested : s.IsNested := d.isNested_root.at? h
  have hinside : ∀ c, d.IsBlockAround c a → c <+: s.scope := fun c hc =>
    hnested.prefix_scope ((mem_scopes_iff h).2 (.inr hc))
  rcases (mem_scopes_iff h).1 hnested.scope_mem with hroot | hblock
  · rw [hroot] at hinside ⊢
    exact .root fun c hc => hc.ne_nil (List.prefix_nil.1 (hinside c hc))
  · exact .block hblock hinside

theorem mem_filterMap_labelled?_iff {label : Text} {s : Site} :
    (label, s) ∈ d.sites.filterMap Site.labelled? ↔
      s ∈ d.sites ∧ s.element.label? = some label := by
  rw [List.mem_filterMap]
  constructor
  · rintro ⟨t, ht, hlabelled⟩
    obtain ⟨text, htext, hpair⟩ := Option.map_eq_some_iff.1 hlabelled
    obtain ⟨rfl, rfl⟩ := Prod.mk.inj hpair
    exact ⟨ht, htext⟩
  · rintro ⟨hs, hlabel⟩
    exact ⟨s, hs, by rw [Site.labelled?, hlabel, Option.map_some]⟩

/-- A label is defined where a site of it is. -/
theorem defines_iff {label : Text} {l : Address} :
    d.Defines label l ↔ ∃ s, (label, s) ∈ d.sites.filterMap Site.labelled? ∧ s.address = l := by
  simp only [mem_filterMap_labelled?_iff]
  constructor
  · rintro ⟨location, hlocation⟩
    obtain ⟨s, hs, rfl, helement⟩ :=
      exists_site_of_at? (Defines.ne_nil ⟨location, hlocation⟩) hlocation
    exact ⟨s, ⟨hs, by rw [helement]; rfl⟩, rfl⟩
  · rintro ⟨s, ⟨hs, hlabel⟩, rfl⟩
    obtain ⟨location, helement⟩ := Element.label?_eq_some_iff.1 hlabel
    exact ⟨location, helement ▸ at?_of_mem_sites hs⟩

theorem pairwise_filterMap_labelled? (d : Document) :
    (d.sites.filterMap Site.labelled?).Pairwise fun a b => a.2.address < b.2.address := by
  refine d.pairwise_sites.filterMap _ fun s t hlt a ha b hb => ?_
  obtain ⟨-, -, rfl⟩ := Option.map_eq_some_iff.1 ha
  obtain ⟨-, -, rfl⟩ := Option.map_eq_some_iff.1 hb
  exact hlt

theorem filterMap_definition?_eq (d : Document) :
    d.sites.filterMap Site.definition? =
      (d.sites.filterMap Site.labelled?).map (Prod.map id Site.scope) := by
  rw [List.map_filterMap]
  congr 1
  funext s
  rw [Site.labelled?, Option.map_map]
  rfl

/-- **The label table by way of sites**: the sites of labels are gathered, and then their scopes are
taken. -/
theorem labels_eq_mapScopes (d : Document) :
    d.labels = .mapScopes Site.scope (.ofLabels (d.sites.filterMap Site.labelled?)) := by
  rw [labels, filterMap_definition?_eq, LabelTable.ofLabels_map]

/-- The sites of one label are where it is defined. -/
theorem isListing_defines (d : Document) (label : Text) :
    IsListing (d.Defines label)
      ((LabelTable.scopesOf (d.sites.filterMap Site.labelled?) label).map Site.address) where
  rising := by
    rw [LabelTable.scopesOf, List.map_map, List.pairwise_map]
    exact d.pairwise_filterMap_labelled?.filter _
  mem_iff l := by
    rw [List.mem_map, defines_iff]
    simp only [LabelTable.mem_scopesOf_iff]

/-- The sites of all labels are where labels are defined. -/
theorem isListing_exists_defines (d : Document) :
    IsListing (fun l => ∃ label, d.Defines label l)
      ((d.sites.filterMap Site.labelled?).map fun definition => definition.2.address) where
  rising := List.pairwise_map.2 d.pairwise_filterMap_labelled?
  mem_iff l := by
    simp only [List.mem_map, defines_iff, Prod.exists]

/-! ## The table of a document -/

/-- A table that tells where each label of a document is defined. -/
structure IsIndexedBy (d : Document) (table : LabelTable Address) : Prop where
  /-- No label comes twice. -/
  distinct : table.keys.Nodup
  /-- The labels are those that have a definition. -/
  complete : ∀ label, label ∈ table.keys ↔ ∃ l, d.Defines label l
  /-- A label is defined in front of all definitions of the labels that come later. -/
  inOrder : table.keys.Pairwise fun label later =>
    ∃ l, d.Defines label l ∧ ∀ l', d.Defines later l' → l < l'
  /-- The entry of a label has the scope of each definition, in order and with repetitions. -/
  entries : ∀ entry ∈ table, ∃ places, IsListing (d.Defines entry.1) places ∧
    List.Forall₂ d.IsScopeOf places entry.2

theorem mem_keys_labels_iff {label : Text} : label ∈ d.labels.keys ↔ ∃ l, d.Defines label l :=
  LabelTable.mem_keys_ofLabels_iff.trans exists_definition_iff

/-- An entry has the scopes of all definitions of its label. -/
theorem forall₂_isScopeOf {entry : Text × List Address} (h : entry ∈ d.labels) :
    List.Forall₂ d.IsScopeOf
      ((LabelTable.scopesOf (d.sites.filterMap Site.labelled?) entry.1).map Site.address)
      entry.2 := by
  rw [labels_eq_mapScopes] at h
  obtain ⟨⟨label, sites⟩, hsites, rfl⟩ := List.mem_map.1 h
  have hall : sites = LabelTable.scopesOf (d.sites.filterMap Site.labelled?) label :=
    LabelTable.snd_eq_of_mem_ofLabels hsites
  subst hall
  refine List.forall₂_map_left_iff.2 (List.forall₂_map_right_iff.2 (List.forall₂_same.2 ?_))
  intro s hs
  have hmem : s ∈ d.sites :=
    (mem_filterMap_labelled?_iff.1 (LabelTable.mem_scopesOf_iff.1 hs)).1
  exact isScopeOf_scope (mem_sites_iff.1 hmem).2

theorem isIndexedBy_labels (d : Document) : d.IsIndexedBy d.labels where
  distinct := LabelTable.nodup_keys_ofLabels _
  complete _ := mem_keys_labels_iff
  inOrder := by
    have hkeys := LabelTable.pairwise_keys_ofLabels (R := fun s t : Site => s.address < t.address)
      d.pairwise_filterMap_labelled?
    rw [labels_eq_mapScopes, LabelTable.keys_mapScopes]
    refine hkeys.imp ?_
    rintro label later ⟨s, hs, hfirst⟩
    refine ⟨s.address, defines_iff.2 ⟨s, hs, rfl⟩, fun l' hl' => ?_⟩
    obtain ⟨t, ht, rfl⟩ := defines_iff.1 hl'
    exact hfirst t ht
  entries entry hentry := ⟨_, d.isListing_defines entry.1, forall₂_isScopeOf hentry⟩

theorem sum_length_labels (d : Document) :
    (d.labels.map fun entry => entry.2.length).sum =
      (d.sites.filterMap Site.labelled?).length := by
  rw [labels, LabelTable.sum_length_ofLabels, filterMap_definition?_eq, List.length_map]

/-- The table has as many entries as there are different labels. -/
theorem length_labels (d : Document) :
    d.labels.length = {label | ∃ l, d.Defines label l}.ncard := by
  have hset : {label | ∃ l, d.Defines label l} = (d.labels.keys.toFinset : Set Text) := by
    ext label
    simp [mem_keys_labels_iff]
  rw [hset, Set.ncard_coe_finset, List.toFinset_card_of_nodup d.isIndexedBy_labels.distinct,
    LabelTable.keys, List.length_map]

end Document

namespace Policy

/-- **The label table loses nothing and invents nothing.**  It is empty for a document without
labels.  Otherwise each label is in it once, in the order of first definitions, with the innermost
scope of each of its definitions; so there are as many scopes in the table as there are label tokens
in the document.  The number that a policy writes to the log when it is prepared is that of the
different labels. -/
theorem prepare_indexes {p : Policy} (hrule : p.rule = .gotoIntoBlock) (number : Nat)
    (d : Document) :
    (d.labels = [] ↔ ¬∃ label l, d.Defines label l) ∧ d.IsIndexedBy d.labels ∧
      (∃ places, IsListing (fun l => ∃ label, d.Defines label l) places ∧
        (d.labels.map fun entry => entry.2.length).sum = places.length) ∧
      (p.prepare number d).log = [⟨gotoLogger, .ofString (p.name ++ ": " ++
        toString {label | ∃ l, d.Defines label l}.ncard ++ " distinct labels in ") ++
          d.shownName⟩] := by
  refine ⟨?_, d.isIndexedBy_labels, ⟨_, d.isListing_exists_defines, ?_⟩, ?_⟩
  · rw [Document.labels_eq_nil_iff]
    simp only [not_exists]
  · rw [d.sum_length_labels, List.length_map]
  · rw [prepare, hrule, ← d.length_labels]

/-- A document with a label that is defined three times, one without a colon and one without any
text. -/
def manyLabels : Document where
  filename := none
  children := [
    .token .label (.ofString "B:") .unknown,
    .node .block [
      .token .label (.ofString "A:") .unknown,
      .node .block [.token .label (.ofString "A:") .unknown],
      .token .label [] .unknown],
    .token .label (.ofString "A:") .unknown,
    .token .label (.ofString "B") .unknown]

theorem prepare_indexes_many :
    (ofRule .gotoIntoBlock).rule = .gotoIntoBlock ∧
      manyLabels.IsIndexedBy manyLabels.labels ∧
      (∃ places, IsListing (fun l => ∃ label, manyLabels.Defines label l) places ∧
        (manyLabels.labels.map fun entry => entry.2.length).sum = places.length) ∧
      manyLabels.labels = [(Text.ofString "B:", [[]]), (Text.ofString "A:", [[1], [1, 1], []]),
        (Text.ofString "", [[1]]), (Text.ofString "B", [[]])] ∧
      ((ofRule .gotoIntoBlock).prepare 0 manyLabels).log = [⟨gotoLogger, .ofString
        "ControlStructures::ProhibitGotoIntoBlock: 4 distinct labels in <document>"⟩] := by
  obtain ⟨-, hindexed, hcount, -⟩ := prepare_indexes (p := ofRule .gotoIntoBlock) rfl 0 manyLabels
  exact ⟨rfl, hindexed, hcount, by decide +kernel, by decide +kernel⟩

end Policy
end JumpLint

import JumpLint.Proofs.Goto.Findings
import JumpLint.Proofs.Tree.Moving
import Mathlib.Data.List.Basic

/-!
# Documents put together

Two ways to make a larger document out of smaller ones leave what the goto rule finds in them as it
is.  A document may be put inside nodes: the innermost of the new blocks takes over what the root was
before, since it is around everything that the root was around, and so are all scopes outside of it.
And two documents may be put one behind the other: the table then has the labels of both, but a jump
is judged by the definitions of its own label only, so nothing changes if no jump in one of them goes
to a label of the other.

In either case the elements are listed as before, at other addresses, and the judgment is the same
because different scopes keep different addresses.

## What is here

* `Site.enters_moved`: a jump at another place is judged alike, by definitions at other places.
* `nestedIn`, `Document.sites_of_node`, `Document.findings_of_node`: elements inside nodes of given
  kinds, each the only child of the one around it; one such node does not change the findings.
* `Document.findings_nestedIn`: nor do all of them.
* `Document.Misses`: no jump in a document goes to a label of another one.
* `Document.findings_join`: the findings of two documents, one behind the other.
-/

set_option autoImplicit false
namespace JumpLint

/-! ## Findings at other places -/

namespace Site

/-- Where a finding is, and what. -/
def spot (s : Site) : Address × Element := (s.address, s.element)

theorem definition?_moved (move : Address → Address) (outer : List Address) {s : Site}
    (h : s.scopes ≠ []) :
    (s.moved move outer).definition? = s.definition?.map (Prod.map id move) := by
  rw [definition?, definition?, scope_moved move outer h, Option.map_map]
  rfl

/-- **A jump at another place** is judged alike, if no two scopes get the same address and none gets
that of a scope further out. -/
theorem enters_moved {move : Address → Address} {outer : List Address}
    (hinj : Function.Injective move) (houter : ∀ a, move a ∉ outer)
    (definitions : List (Text × Address)) (s : Site) :
    (s.moved move outer).enters (.ofLabels (definitions.map (Prod.map id move))) =
      s.enters (.ofLabels definitions) := by
  have hout : ∀ definition ∈ definitions.map (Prod.map id move), definition.2 ∉ outer := by
    intro definition hdefinition
    obtain ⟨old, -, rfl⟩ := List.mem_map.1 hdefinition
    exact houter old.2
  rw [enters, enters, moved, LabelTable.isEntered_ofLabels_append hout,
    LabelTable.isEntered_ofLabels_map fun _ _ _ _ heq => hinj heq]

end Site

namespace Document

/-- The definitions of a document at other places. -/
theorem filterMap_definition?_moved (d : Document) (move : Address → Address)
    (outer : List Address) :
    (d.sites.map (Site.moved move outer)).filterMap Site.definition? =
      (d.sites.filterMap Site.definition?).map (Prod.map id move) := by
  rw [List.filterMap_map, List.map_filterMap]
  refine List.filterMap_congr fun s hs => ?_
  exact Site.definition?_moved move outer (scopes_ne_nil hs)

/-- The sites of a document at other places are found there if they are judged as they were. -/
theorem filter_moved (d : Document) {move : Address → Address} {outer : List Address}
    {labels : LabelTable Address}
    (hjudged : ∀ s ∈ d.sites, s.element.isBreak = true →
      (s.moved move outer).enters labels = s.enters d.labels) :
    (d.sites.map (Site.moved move outer)).filter (fun s => s.element.isBreak && s.enters labels) =
      d.findings.map (Site.moved move outer) := by
  rw [List.filter_map, findings]
  refine congrArg _ (List.filter_congr fun s hs => ?_)
  have hsame : (s.moved move outer).element.isBreak = s.element.isBreak := rfl
  by_cases hbreak : s.element.isBreak = true
  · simp [hsame, hbreak, hjudged s hs hbreak]
  · simp [hsame, hbreak]

theorem findings_congr {d e : Document} (h : d.children = e.children) :
    d.findings = e.findings := by
  rw [findings, findings, labels, labels, sites_eq_preorderAll, sites_eq_preorderAll, h]

end Document

/-! ## Inside nodes -/

/-- Elements in a row inside nodes of the given kinds, from the outermost to the innermost. -/
def nestedIn : List NodeKind → List Element → List Element
  | [], row => row
  | kind :: kinds, row => [.node kind (nestedIn kinds row)]

/-- The address that a place of a document gets inside a node.  What was in the scope of the root is
now in that of the node, if this is a block. -/
def inward (kind : NodeKind) : Address → Address
  | [] => if kind = .block then [0] else []
  | i :: more => 0 :: i :: more

/-- The scopes that there are outside of those that a document had. -/
def outward (kind : NodeKind) : List Address := if kind = .block then [[]] else []

theorem inward_of_ne_nil (kind : NodeKind) {a : Address} (h : a ≠ []) : inward kind a = 0 :: a := by
  cases a with
  | nil => exact absurd rfl h
  | cons => rfl

theorem inward_injective (kind : NodeKind) : Function.Injective (inward kind) := by
  intro a b h
  by_cases hblock : kind = .block
  · have hcons : ∀ c, inward kind c = 0 :: c := by
      intro c
      cases c <;> simp [inward, hblock]
    rw [hcons, hcons] at h
    exact (List.cons.inj h).2
  · -- the root stays, and no other place becomes the root
    cases a <;> cases b <;> simp_all [inward]

theorem inward_not_mem_outward (kind : NodeKind) (a : Address) : inward kind a ∉ outward kind := by
  cases a <;> by_cases hblock : kind = .block <;> simp [inward, outward, hblock]

/-- The scopes around what is in a node below the root. -/
theorem innerScopes_node (kind : NodeKind) (children : List Element) :
    Site.innerScopes ⟨[0], [[]], .node kind children⟩ = [[]].map (inward kind) ++ outward kind := by
  cases kind <;> rfl

namespace Document

variable {d outside : Document} {kind : NodeKind}

/-- The sites of a document inside a node. -/
theorem sites_of_node (h : outside.children = [.node kind d.children]) :
    outside.sites = ⟨[0], [[]], .node kind d.children⟩ ::
      d.sites.map (Site.moved (inward kind) (outward kind)) := by
  have hbelow := map_moved_preorderAll (inward kind) (outward kind) [] [0] [[]] 0 0 d.children
    fun _ _ => rfl
  rw [sites_eq_preorderAll, h, preorderAll, preorderAll, List.append_nil, preorder,
    sites_eq_preorderAll d, hbelow, ← innerScopes_node kind d.children]
  rfl

theorem definitions_of_node (h : outside.children = [.node kind d.children]) :
    outside.sites.filterMap Site.definition? =
      (d.sites.filterMap Site.definition?).map (Prod.map id (inward kind)) := by
  rw [sites_of_node h, ← filterMap_definition?_moved d (inward kind) (outward kind)]
  rfl

/-- **A node around a document** changes nothing, unless it is a break statement and so could be a
finding itself. -/
theorem findings_of_node (hkind : kind ≠ .breakStatement)
    (h : outside.children = [.node kind d.children]) :
    outside.findings = d.findings.map (Site.moved (inward kind) (outward kind)) := by
  have hbreak : (Element.node kind d.children).isBreak = false := by
    cases kind <;> first | rfl | exact absurd rfl hkind
  rw [findings, labels, definitions_of_node h, sites_of_node h, List.filter_cons, hbreak]
  exact filter_moved d fun s _ _ =>
    Site.enters_moved (inward_injective kind) (inward_not_mem_outward kind) _ s

theorem address_ne_nil_of_mem_findings {s : Site} (h : s ∈ d.findings) : s.address ≠ [] :=
  address_ne_nil (List.mem_filter.1 h).1

/-- **The root is just the outermost block.**  When all of a document is put inside nodes, of which
none is a break statement, and any of them may be blocks, then the findings are the same elements in
the same order, with as many zeros in front of their addresses as there are nodes. -/
theorem findings_nestedIn {kinds : List NodeKind} (hkinds : .breakStatement ∉ kinds)
    {d outside : Document} (h : outside.children = nestedIn kinds d.children) :
    outside.findings.map Site.spot =
      d.findings.map fun s => (List.replicate kinds.length 0 ++ s.address, s.element) := by
  induction kinds generalizing outside with
  | nil =>
    rw [findings_congr h]
    rfl
  | cons kind kinds ih =>
    obtain ⟨hkind, hkinds⟩ := not_or.1 (mt List.mem_cons.2 hkinds)
    obtain ⟨inside, hinside⟩ : ∃ inside : Document, inside.children = nestedIn kinds d.children :=
      ⟨⟨none, _⟩, rfl⟩
    have hstep : outside.findings = inside.findings.map (Site.moved (inward kind) (outward kind)) :=
      findings_of_node (Ne.symm hkind) (by rw [h, nestedIn, hinside])
    have hspots : outside.findings.map Site.spot =
        (inside.findings.map Site.spot).map (Prod.map (0 :: ·) id) := by
      rw [hstep, List.map_map, List.map_map]
      refine List.map_congr_left fun s hs => ?_
      exact Prod.ext (inward_of_ne_nil kind (address_ne_nil_of_mem_findings hs)) rfl
    rw [hspots, ih hkinds hinside, List.map_map]
    rfl

/-- `enteringJump` as the body of a statement, with one more block around that. -/
def enclosedJump : Document where
  filename := none
  children := nestedIn [.block, .compoundStatement, .block] enteringJump.children

theorem findings_nestedIn_enclosed :
    NodeKind.breakStatement ∉ [NodeKind.block, .compoundStatement, .block] ∧
      enclosedJump.findings.map Site.spot =
        enteringJump.findings.map (fun s => ([0, 0, 0] ++ s.address, s.element)) ∧
      enclosedJump.findings.map Site.address = [[0, 0, 0, 2]] := by
  have hkinds : NodeKind.breakStatement ∉ [NodeKind.block, .compoundStatement, .block] := by decide
  exact ⟨hkinds, findings_nestedIn hkinds rfl, by decide +kernel⟩

/-! ## One behind the other -/

/-- No jump in the document `d` goes to a label that is defined in the document `e`. -/
def Misses (d e : Document) : Prop :=
  ∀ a children name, d.at? a = some (.node .breakStatement children) →
    (Element.node .breakStatement children).IsGotoTo name → ∀ l, ¬e.Defines (name ++ labelEnd) l

theorem misses_iff {d e : Document} :
    d.Misses e ↔ ∀ s ∈ d.sites, s.element.isBreak = true →
      ∀ definition ∈ e.sites.filterMap Site.definition?,
        gotoTarget? s.element ≠ some definition.1 := by
  constructor
  · intro h s hs hbreak definition hdefinition htarget
    obtain ⟨children, hchildren⟩ := Element.isBreak_iff.1 hbreak
    obtain ⟨name, hgoto, hlabel⟩ := gotoTarget?_eq_some_iff.1 htarget
    obtain ⟨l, hl⟩ := exists_definition_iff.1 ⟨definition.2, hdefinition⟩
    exact h s.address children name (hchildren ▸ at?_of_mem_sites hs) (hchildren ▸ hgoto) l
      (hlabel ▸ hl)
  · intro h a children name ha hgoto l hl
    have hne : a ≠ [] := by
      rintro rfl
      cases ha
    obtain ⟨s, hs, -, helement⟩ := exists_site_of_at? hne ha
    obtain ⟨scope, hdefinition⟩ := exists_definition_iff.2 ⟨l, hl⟩
    refine h s hs (helement ▸ rfl) _ hdefinition (gotoTarget?_eq_some_iff.2 ⟨name, ?_, rfl⟩)
    exact helement ▸ hgoto

instance (d e : Document) : Decidable (d.Misses e) := decidable_of_iff' _ misses_iff

variable {e whole : Document}

/-- The address that a place of a document gets behind `n` elements. -/
def behind (n : Nat) (a : Address) : Address := a.modifyHead (n + ·)

theorem behind_injective (n : Nat) : Function.Injective (behind n) := by
  intro a b h
  cases a <;> cases b <;> simp_all [behind]

/-- The sites of two documents, one behind the other. -/
theorem sites_join (h : whole.children = d.children ++ e.children) :
    whole.sites = d.sites ++ e.sites.map (Site.moved (behind d.children.length) []) := by
  have hbehind := map_moved_preorderAll (behind d.children.length) [] [] [] [[]] 0
    d.children.length e.children fun k more => by simp [behind]
  rw [sites_eq_preorderAll, h, preorderAll_append, sites_eq_preorderAll d, sites_eq_preorderAll e,
    hbehind, Nat.zero_add]
  rfl

theorem definitions_join (h : whole.children = d.children ++ e.children) :
    whole.sites.filterMap Site.definition? = d.sites.filterMap Site.definition? ++
      (e.sites.filterMap Site.definition?).map (Prod.map id (behind d.children.length)) := by
  rw [sites_join h, List.filterMap_append, filterMap_definition?_moved]

/-- A jump in the document in front is judged as in that document alone. -/
theorem enters_front (h : whole.children = d.children ++ e.children) (hmisses : d.Misses e)
    {s : Site} (hs : s ∈ d.sites) (hbreak : s.element.isBreak = true) :
    s.enters whole.labels = s.enters d.labels := by
  rw [Site.enters, Site.enters, labels, labels, definitions_join h]
  refine LabelTable.isEntered_ofLabels_congr fun label htarget scope => ?_
  rw [List.mem_append, or_iff_left]
  intro hmem
  obtain ⟨definition, hdefinition, heq⟩ := List.mem_map.1 hmem
  obtain ⟨rfl, -⟩ := Prod.mk.inj heq
  exact misses_iff.1 hmisses s hs hbreak definition hdefinition htarget

/-- A jump in the document behind is judged as in that document alone. -/
theorem enters_behind (h : whole.children = d.children ++ e.children) (hmisses : e.Misses d)
    {s : Site} (hs : s ∈ e.sites) (hbreak : s.element.isBreak = true) :
    (s.moved (behind d.children.length) []).enters whole.labels = s.enters e.labels := by
  have hmoved := Site.enters_moved (behind_injective d.children.length)
    (fun _ => List.not_mem_nil) (e.sites.filterMap Site.definition?) s
  rw [labels, definitions_join h, labels, ← hmoved]
  refine LabelTable.isEntered_ofLabels_congr fun label htarget scope => ?_
  rw [List.mem_append, or_iff_right]
  intro hmem
  exact misses_iff.1 hmisses s hs hbreak (label, scope) hmem htarget

/-- **Findings add up.**  When no jump in one of two documents goes to a label of the other, the
findings of both, one behind the other, are those of the first and then those of the second, whose
first child numbers are larger by as many children as the first one has.  Labels that both define
do no harm, and one of them may have no labels at all. -/
theorem findings_join (h : whole.children = d.children ++ e.children) (hfront : d.Misses e)
    (hbehind : e.Misses d) :
    whole.findings.map Site.spot = d.findings.map Site.spot ++
      e.findings.map fun s => (s.address.modifyHead (d.children.length + ·), s.element) := by
  have hfound : whole.findings =
      d.findings ++ e.findings.map (Site.moved (behind d.children.length) []) := by
    rw [findings, sites_join h, List.filter_append,
      filter_moved e fun s hs hbreak => enters_behind h hbehind hs hbreak, findings]
    refine congrArg (· ++ _) (List.filter_congr fun s hs => ?_)
    by_cases hbreak : s.element.isBreak = true
    · rw [enters_front h hfront hs hbreak]
    · simp [hbreak]
  rw [hfound, List.map_append, List.map_map]
  rfl

/-- The source `{ FOO: } BAR: goto FOO;`. -/
def frontHalf : Document where
  filename := none
  children := [
    .node .block [.token .label (.ofString "FOO:") .unknown],
    .token .label (.ofString "BAR:") .unknown,
    .node .breakStatement [
      .token .word (.ofString "goto") .unknown,
      .token .word (.ofString "FOO") .unknown]]

/-- The source `{ BAR: BAZ: } goto BAZ;`. -/
def backHalf : Document where
  filename := none
  children := [
    .node .block [
      .token .label (.ofString "BAR:") .unknown,
      .token .label (.ofString "BAZ:") .unknown],
    .node .breakStatement [
      .token .word (.ofString "goto") .unknown,
      .token .word (.ofString "BAZ") .unknown]]

/-- The two sources in one. -/
def bothHalves : Document where
  filename := none
  children := frontHalf.children ++ backHalf.children

theorem findings_join_halves :
    frontHalf.Misses backHalf ∧ backHalf.Misses frontHalf ∧
      bothHalves.findings.map Site.spot = frontHalf.findings.map Site.spot ++
        backHalf.findings.map (fun s => (s.address.modifyHead (3 + ·), s.element)) ∧
      frontHalf.findings.map Site.address = [[2]] ∧ backHalf.findings.map Site.address = [[1]] ∧
      bothHalves.findings.map Site.address = [[2], [4]] := by
  have hfront : frontHalf.Misses backHalf := by decide +kernel
  have hbehind : backHalf.Misses frontHalf := by decide +kernel
  exact ⟨hfront, hbehind, findings_join rfl hfront hbehind, by decide +kernel, by decide +kernel,
    by decide +kernel⟩

end Document
end JumpLint

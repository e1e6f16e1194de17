import JumpLint.Proofs.Critic.Failure
import JumpLint.Proofs.Profile.Filtering
import JumpLint.Proofs.Tree.Passage

/-!
# Where the source of a violation stands

A violation shows the text of the statement that it is about.  Whatever critic reports it, that
statement is a finding, so its text stands in its place in the text of the document; and of two
findings the one that is listed first stands first.

## What is here

* `Critic.exists_finding_of_mem`: each violation in a report is by a finding.
* `Document.passages_in_order`: the text of an element is the part of the text of the document in
  its place, parts of elements that do not hold each other do not overlap, and what this means for
  the violations in a report.
-/

set_option autoImplicit false
namespace JumpLint

/-- Each violation in a report is one of a policy of the critic by a finding.  A bare policy reports
nothing when it does not fail. -/
theorem Critic.exists_finding_of_mem {c : Critic} {number : Nat} {d : Document}
    {report : List Violation} (h : (c.critique number d).result = .ok report) {v : Violation}
    (hv : v ∈ report) : ∃ p ∈ c.policies, ∃ s ∈ d.findings, p.gotoViolation d.filename s = v := by
  rw [critique, result_applyAll_eq_mapM] at h
  obtain ⟨_, hfound, rfl⟩ := map_eq_ok_iff.1 h
  obtain ⟨parts, hparts, rfl⟩ := map_eq_ok_iff.1 hfound
  obtain ⟨part, hpart, hv⟩ := List.mem_flatten.1 ((perm_sortViolations _).mem_iff.1 hv)
  obtain ⟨p, hp, hresult⟩ := exists_of_mem_mapM hparts hpart
  cases hrule : p.rule with
  | unspecified =>
    rw [Policy.result_apply_of_unspecified hrule] at hresult
    split at hresult
    · cases hresult
      exact absurd hv List.not_mem_nil
    · cases hresult
  | gotoIntoBlock =>
    rw [← Policy.reported_of_result hresult] at hv
    exact ⟨p, hp, List.mem_map.1 ((Policy.reported_sublist hrule number d).subset hv)⟩

namespace Document

/-- **Texts stand in their places.**  On the way down to an element of a document some text is
passed over on the left and some is left on the right, and the text of the element is what is
between them.  Of two elements that do not hold each other the one that comes first, by its address
or in the listing, ends where the other one begins or before it.  So the source of a violation, of
whatever critic, is the part of the document in the place of a finding; and findings that do not
hold each other stand one after the other in the order in which they are found. -/
theorem passages_in_order (d : Document) :
    (∀ a e, d.at? a = some e → d.text = d.textBefore a ++ e.text ++ d.textAfter a) ∧
    (∀ a b e f, d.at? a = some e → d.at? b = some f → a < b → ¬a <+: b →
      d.textBefore a ++ e.text <+: d.textBefore b) ∧
    (d.sites.Pairwise fun s t => ¬s.address <+: t.address →
      d.textBefore s.address ++ s.element.text <+: d.textBefore t.address) ∧
    (∀ (c : Critic) number report, (c.critique number d).result = .ok report →
      ∀ v ∈ report, ∃ s ∈ d.findings, v.source = s.element.text ∧
        d.text = d.textBefore s.address ++ v.source ++ d.textAfter s.address) ∧
    d.findings.Pairwise fun s t => ¬s.address <+: t.address →
      (d.textBefore s.address).length + s.element.text.length ≤
        (d.textBefore t.address).length ∧
      ∃ between, d.text = d.textBefore s.address ++ s.element.text ++ between ++
        t.element.text ++ d.textAfter t.address := by
  refine ⟨fun a e => text_eq_of_at?,
    fun a b e f ha hb => Element.prefix_textBefore ha hb, d.pairwise_passages,
    fun c number report hreport v hv => ?_,
    (d.pairwise_passages.filter _).imp_of_mem fun {s t} hs ht hapart hout => ?_⟩
  · obtain ⟨p, -, s, hs, rfl⟩ := Critic.exists_finding_of_mem hreport hv
    exact ⟨s, hs, rfl, text_eq_of_at? (at?_of_mem_sites (mem_findings_iff.1 hs).1)⟩
  · obtain ⟨between, hbetween⟩ := hapart hout
    refine ⟨?_, between, ?_⟩
    · rw [← hbetween, List.length_append, List.length_append]
      exact Nat.le_add_right _ _
    · rw [hbetween]
      exact text_eq_of_at? (at?_of_mem_sites (List.mem_filter.1 ht).1)

/-- The words of a jump. -/
def jump : List Element := [
  .token .word gotoWord .unknown,
  .token .whitespace (.ofString " ") .unknown,
  .token .word (.ofString "FOO") .unknown]

/-- The source `{FOO:} goto FOO (goto FOO); goto FOO`, in which a jump holds another one. -/
def nestedJumps : Document where
  filename := none
  children := [
    .node .block [.token .label (.ofString "FOO:") .unknown],
    .token .whitespace (.ofString " ") .unknown,
    .node .breakStatement (jump ++ [
      .token .whitespace (.ofString " ") .unknown,
      .node .listStructure [.node .breakStatement jump],
      .token .punctuation (.ofString ";") .unknown]),
    .token .whitespace (.ofString " ") .unknown,
    .node .breakStatement jump]

theorem passages_in_order_nestedJumps :
    nestedJumps.findings.map Site.address = [[2], [2, 4, 0], [4]] ∧
      nestedJumps.at? [2, 4, 0] = some (.node .breakStatement jump) ∧
      nestedJumps.at? [4] = some (.node .breakStatement jump) ∧
      nestedJumps.textBefore [2, 4, 0] = .ofString "\x7bFOO:\x7d goto FOO (" ∧
      nestedJumps.textAfter [2, 4, 0] = .ofString "); goto FOO" ∧
      nestedJumps.text =
        nestedJumps.textBefore [2, 4, 0] ++ .ofString "goto FOO" ++
          nestedJumps.textAfter [2, 4, 0] ∧
      nestedJumps.textBefore [2, 4, 0] ++ .ofString "goto FOO" <+: nestedJumps.textBefore [4] ∧
      ∃ report, ((Critic.mk [.ofRule .gotoIntoBlock]).critique 0 nestedJumps).result = .ok report ∧
        ∀ v ∈ report, ∃ s ∈ nestedJumps.findings, v.source = s.element.text := by
  have hinner : nestedJumps.at? [2, 4, 0] = some (.node .breakStatement jump) := rfl
  have hlast : nestedJumps.at? [4] = some (.node .breakStatement jump) := rfl
  obtain ⟨hplace, hapart, -, hsources, -⟩ := passages_in_order nestedJumps
  have hreport := Critic.result_critique_eq (c := ⟨[.ofRule .gotoIntoBlock]⟩) (by decide) 0
    nestedJumps
  refine ⟨by decide +kernel, hinner, hlast, by decide +kernel, by decide +kernel,
    hplace _ _ hinner, hapart _ _ _ _ hinner hlast (by decide) (by decide), _, hreport, ?_⟩
  intro v hv
  obtain ⟨s, hs, hsource, -⟩ := hsources _ 0 _ hreport v hv
  exact ⟨s, hs, hsource⟩

end Document
end JumpLint

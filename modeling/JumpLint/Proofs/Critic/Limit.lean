import JumpLint.Proofs.Critic.Listing

/-!
# The limit of a policy

A policy may be told how many violations of one document to report.  The limit is looked at after
each element, so it is reached behind the element that fills it up, even if that is the last one;
and a limit that leaves room for nothing is reached behind the first element, whatever that is.

## What is here

* `upTo_eq_take`: cutting off, said with one number for limits of either sign.
* `Policy.Fills`: when elements in a row reach a limit.
* `Policy.collect_eq_of_limit`: elements in a row with a limit, by what they give without it.
* `Policy.result_apply_of_limit`: the violations of a policy with a limit.
* `Policy.stopRecord`, `Policy.log_apply`: the line of the log that tells of a stop, and when it is
  written.
* `Policy.apply_stops_at_limit`: what a policy with a limit reports on a document, and when it tells
  that it stopped.
-/

set_option autoImplicit false
namespace JumpLint

/-- A limit below zero counts from the end, but at that time there is at most one violation. -/
theorem upTo_eq_take {α : Type} {limit : Int} {xs : List α} (h : 0 ≤ limit ∨ xs.length ≤ 1) :
    upTo limit xs = xs.take limit.toNat := by
  rw [upTo]
  split
  · rfl
  · rename_i hneg
    have hlength : xs.length - limit.natAbs = limit.toNat := by omega
    rw [hlength]

namespace Policy

variable {p : Policy}

/-! ## Elements in a row -/

/-- Elements in a row that give the violations `all` reach the limit `k`: there are enough
violations, or none is wanted and there is an element. -/
def Fills (k : Int) (sites : List Site) (all : List Violation) : Prop :=
  (1 ≤ k ∧ k ≤ all.length) ∨ (k ≤ 0 ∧ sites ≠ [])

instance (k : Int) (sites : List Site) (all : List Violation) : Decidable (Fills k sites all) := by
  unfold Fills
  infer_instance

/-- While there is room for more, the violations are those without a limit, cut off. -/
theorem collect_eq_of_lt {number : Nat} {filename : Option Text} {f : Site → List Violation}
    {k : Int} (hlimit : p.limit = some k)
    (hviolates : ∀ s, p.violates number filename s = .ok (f s))
    (hone : ∀ s, (f s).length ≤ 1) (sites : List Site) {found : List Violation}
    (hroom : found.length < k) :
    p.collect number filename found sites =
      .ok ((found ++ sites.flatMap f).take k.toNat,
        decide (k ≤ (found ++ sites.flatMap f).length)) := by
  induction sites generalizing found with
  | nil =>
    rw [collect, List.flatMap_nil, List.append_nil, List.take_of_length_le (by omega),
      decide_eq_false (by omega)]
  | cons s rest ih =>
    have hlength : (found ++ f s).length = found.length + (f s).length := List.length_append
    have hgrown : found ++ (s :: rest).flatMap f = (found ++ f s) ++ rest.flatMap f := by
      rw [List.flatMap_cons, List.append_assoc]
    rw [collect, hviolates s, hlimit, hgrown]
    by_cases hfull : k ≤ (found ++ f s).length
    · -- one element fills up at most one place, so nothing is cut off here
      have hexact : (found ++ f s).length = k.toNat := by
        have := hone s
        omega
      have hmore : k ≤ ((found ++ f s) ++ rest.flatMap f).length := by
        rw [List.length_append]
        omega
      simp only [if_pos hfull, upTo_eq_take (.inl (show 0 ≤ k by omega)), ← hexact,
        List.take_left', List.take_length, decide_eq_true hmore]
    · simp only [if_neg hfull]
      exact ih (by omega)

/-- **Elements in a row with a limit.**  What is collected is what would be collected without it,
cut off, and the limit is reached when the elements fill it. -/
theorem collect_eq_of_limit {number : Nat} {filename : Option Text} {f : Site → List Violation}
    {k : Int} (hlimit : p.limit = some k)
    (hviolates : ∀ s, p.violates number filename s = .ok (f s)) (hone : ∀ s, (f s).length ≤ 1)
    (sites : List Site) :
    p.collect number filename [] sites =
      .ok ((sites.flatMap f).take k.toNat, decide (Fills k sites (sites.flatMap f))) := by
  by_cases hk : 1 ≤ k
  · have hfills : Fills k sites (sites.flatMap f) ↔ k ≤ (sites.flatMap f).length := by
      unfold Fills
      omega
    have hroom : ([] : List Violation).length < k := by
      rw [List.length_nil]
      omega
    rw [collect_eq_of_lt hlimit hviolates hone sites hroom, List.nil_append,
      decide_eq_decide.2 hfills]
  · have hzero : k.toNat = 0 := by omega
    have hfills : Fills k sites (sites.flatMap f) ↔ sites ≠ [] := by
      simp only [Fills, show k ≤ 0 by omega, true_and, or_iff_right_iff_imp]
      omega
    rw [hzero, List.take_zero, decide_eq_decide.2 hfills]
    cases sites with
    | nil => rfl
    | cons s rest =>
      have hfull : k ≤ (f s).length := by omega
      rw [collect, hviolates s, hlimit]
      simp only [List.nil_append, if_pos hfull, upTo_eq_take (.inr (hone s)), hzero, List.take_zero]
      rfl

end Policy

/-! ## Documents -/

namespace Document

/-- The break statements of a document, in order. -/
def breaks (d : Document) : List Site := d.sites.filter (·.element.isBreak)

theorem breaks_ne_nil_iff {d : Document} :
    d.breaks ≠ [] ↔ ∃ a children, d.at? a = some (.node .breakStatement children) := by
  constructor
  · intro h
    obtain ⟨s, hs⟩ := List.exists_mem_of_ne_nil _ h
    obtain ⟨hs, hbreak⟩ := List.mem_filter.1 hs
    obtain ⟨children, hchildren⟩ := Element.isBreak_iff.1 hbreak
    exact ⟨s.address, children, hchildren ▸ at?_of_mem_sites hs⟩
  · rintro ⟨a, children, hplace⟩
    have hne : a ≠ [] := by
      rintro rfl
      cases hplace
    obtain ⟨s, hs, -, helement⟩ := exists_site_of_at? hne hplace
    exact List.ne_nil_of_mem (List.mem_filter.2 ⟨hs, Element.isBreak_iff.2 ⟨children, helement⟩⟩)

end Document

namespace Policy

variable {p : Policy}

/-- A policy without its limit. -/
def unlimited (p : Policy) : Policy := { p with limit := none }

/-- The line of the log that tells of a stop at the limit `k`. -/
def stopRecord (p : Policy) (k : Int) (d : Document) : Record :=
  ⟨criticLogger,
    .ofString (p.name ++ ": stopped at " ++ toString k ++ " violations in ") ++ d.shownName⟩

/-- The line of the log that tells of a document without labels. -/
def idleRecord (p : Policy) (d : Document) : Record :=
  ⟨criticLogger, .ofString (p.name ++ ": nothing to check in ") ++ d.shownName⟩

theorem stopRecord_ne_idleRecord (p : Policy) (k : Int) (d e : Document) :
    p.stopRecord k d ≠ p.idleRecord e := by
  intro h
  have hmessage := congrArg Record.message h
  simp only [stopRecord, idleRecord, Text.ofString, Text.ofChars, String.toList_append,
    List.map_append, List.append_assoc, List.append_cancel_left_eq] at hmessage
  -- the words behind the name differ in their first letter
  exact absurd (congrArg (·[2]?) hmessage) (by simp)

/-- Preparing writes under another name than the critic does. -/
theorem stopRecord_not_mem_log_prepare (hrule : p.rule = .gotoIntoBlock) (k : Int) (number : Nat)
    (d : Document) : p.stopRecord k d ∉ (p.prepare number d).log := by
  have hsource : criticLogger ≠ gotoLogger := by decide
  rw [prepare, hrule, List.mem_singleton]
  exact fun h => hsource (congrArg Record.source h)

/-- The violations of one application, by the break statements alone. -/
theorem collect_breaks (hrule : p.rule = .gotoIntoBlock) {k : Int} (hlimit : p.limit = some k)
    (number : Nat) (d : Document) :
    (p.preparedFor number d).collect number d.filename [] d.breaks =
      .ok ((d.findings.map (p.gotoViolation d.filename)).take k.toNat,
        decide (Fills k d.breaks (d.findings.map (p.gotoViolation d.filename)))) := by
  have hone : ∀ s, (if (p.preparedFor number d).faults number s then
      [p.gotoViolation d.filename s] else []).length ≤ 1 := by
    intro s
    split <;> simp
  rw [collect_eq_of_limit (p := p.preparedFor number d) hlimit
    (violates_preparedFor hrule number number d d.filename) hone, Document.breaks,
    flatMap_faults_eq_map_findings]

/-- **The limit cuts off.**  The violations are those without a limit, up to it. -/
theorem result_apply_of_limit (hrule : p.rule = .gotoIntoBlock) {k : Int}
    (hlimit : p.limit = some k) (number : Nat) (d : Document) :
    (p.apply number d).result =
      .ok ((d.findings.map (p.gotoViolation d.filename)).take k.toNat) := by
  have hbreaks : (d.sites.filter fun s => p.rule.appliesTo s.element) = d.breaks := by
    rw [hrule]
    rfl
  rw [result_apply, hbreaks, policy_prepare hrule, collect_breaks hrule hlimit]
  cases hwork : (p.prepare number d).hasWork with
  | false =>
    rw [findings_eq_nil_of_not_hasWork hrule hwork, List.map_nil, List.take_nil]
    rfl
  | true => rfl

/-- What an application writes to the log. -/
theorem log_apply (hrule : p.rule = .gotoIntoBlock) {k : Int} (hlimit : p.limit = some k)
    (number : Nat) (d : Document) :
    (p.apply number d).log = (p.prepare number d).log ++
      if (p.prepare number d).hasWork then
        if Fills k d.breaks (d.findings.map (p.gotoViolation d.filename)) then [p.stopRecord k d]
        else []
      else [p.idleRecord d] := by
  have hbreaks : (d.sites.filter fun s => (p.preparedFor number d).rule.appliesTo s.element) =
      d.breaks := by
    rw [show (p.preparedFor number d).rule = .gotoIntoBlock from hrule]
    rfl
  simp only [apply, policy_prepare hrule, hbreaks, collect_breaks hrule hlimit]
  cases (p.prepare number d).hasWork with
  | false => rfl
  | true =>
    simp only [decide_eq_true_eq, show (p.preparedFor number d).limit = some k from hlimit]
    rfl

/-- **What a policy with a limit reports.**  It reports the first `k` of the violations that it
would report without the limit, in the order of their places, and none if `k` is zero or less.  It
tells of the stop once if there are `k` of them at least, even when there are no more, or if none is
wanted and the document has a label and a break statement; and else not at all. -/
theorem apply_stops_at_limit (hrule : p.rule = .gotoIntoBlock) {k : Int} (hlimit : p.limit = some k)
    (number : Nat) (d : Document) :
    ∃ all, (p.unlimited.apply number d).result = .ok all ∧
      all = d.findings.map (p.gotoViolation d.filename) ∧
      (p.apply number d).result = .ok (all.take (max k 0).toNat) ∧
      (p.apply number d).log.count (p.stopRecord k d) ≤ 1 ∧
      (p.stopRecord k d ∈ (p.apply number d).log ↔
        (1 ≤ k ∧ k ≤ all.length) ∨
          (k ≤ 0 ∧ (∃ label l, d.Defines label l) ∧
            ∃ a children, d.at? a = some (.node .breakStatement children))) := by
  have hlog := log_apply hrule hlimit number d
  have hmax : (max k 0).toNat = k.toNat := by omega
  have hprepare := stopRecord_not_mem_log_prepare hrule k number d
  have hidle : p.stopRecord k d ≠ p.idleRecord d := stopRecord_ne_idleRecord p k d d
  have hunlimited : (p.unlimited.apply number d).result =
      .ok (d.findings.map (p.gotoViolation d.filename)) :=
    result_apply_eq_map_findings (p := p.unlimited) hrule rfl number d
  refine ⟨_, hunlimited, rfl, ?_, ?_, ?_⟩
  · rw [hmax, result_apply_of_limit hrule hlimit]
  · rw [hlog, List.count_append, List.count_eq_zero_of_not_mem hprepare, Nat.zero_add]
    split
    · split <;> simp
    · rw [List.count_singleton]
      split <;> simp
  · have hworks : (p.prepare number d).hasWork = true ↔ ∃ label l, d.Defines label l :=
      hasWork_prepare_iff hrule
    rw [hlog, List.mem_append, or_iff_right hprepare, ← Document.breaks_ne_nil_iff, ← hworks]
    cases hwork : (p.prepare number d).hasWork with
    | false =>
      rw [findings_eq_nil_of_not_hasWork hrule hwork]
      simp only [Bool.false_eq_true, if_false, List.mem_singleton, hidle, List.map_nil,
        List.length_nil, false_and, and_false, or_false, false_iff]
      omega
    | true =>
      simp only [if_true, true_and]
      split
      · rename_i hfills
        exact iff_of_true List.mem_cons_self hfills
      · rename_i hfills
        exact iff_of_false List.not_mem_nil hfills

/-- A policy that is to report nothing. -/
def silent : Policy := { Policy.ofRule .gotoIntoBlock with limit := some (-2) }

theorem apply_stops_at_limit_silent :
    silent.rule = .gotoIntoBlock ∧ silent.limit = some (-2) ∧
      (∃ all, (silent.unlimited.apply 0 .enteringJump).result = .ok all ∧
        (silent.apply 0 .enteringJump).result = .ok (all.take (max (-2) 0 : Int).toNat)) ∧
      Document.enteringJump.findings.length = 1 ∧
      (silent.apply 0 .enteringJump).log.map (·.message.toString) =
        ["ControlStructures::ProhibitGotoIntoBlock: 1 distinct labels in lib/Foo.pm",
          "ControlStructures::ProhibitGotoIntoBlock: stopped at -2 violations in lib/Foo.pm"] := by
  obtain ⟨all, hall, -, hfirst, -⟩ :=
    apply_stops_at_limit (p := silent) rfl rfl 0 .enteringJump
  exact ⟨rfl, rfl, ⟨all, hall, hfirst⟩, by decide +kernel, by decide +kernel⟩

end Policy
end JumpLint

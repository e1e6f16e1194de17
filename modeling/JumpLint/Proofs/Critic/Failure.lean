import JumpLint.Proofs.Critic.Listing
import JumpLint.Proofs.Dump.RoundTrip
import JumpLint.Proofs.Profile.Selection

/-!
# What can go wrong when a critic looks at a document

A policy reads the children of a statement by their numbers and the definitions of a label by its
name, and it puts a violation together out of what it finds.  Here each of these steps may fail, and
it is shown that none ever does: there are as many children as are asked for, the label is in the
table, and the parts of a violation are of the expected shape.  What is left is the bare policy,
which fails at the first element that it is asked about.

## What is here

* `Mishap`: what can go wrong.
* `Element.readTarget`, `LabelTable.readEntered`, `Violation.ofDatum_fields`: the three steps, and
  that they do not fail.
* `Policy.attempt`, `Critic.attempt`: applying policies with steps that may fail;
  `Critic.attempt_eq` says that this comes to the same.
* `Policy.result_apply_of_unspecified`: what a bare policy comes to.
* `Critic.critique_fails_iff`: when a critic fails, and how.
-/

set_option autoImplicit false
namespace JumpLint

/-- What can go wrong when a document is looked at: a bare policy is asked about an element, a list
has no item with a number, a table has no entry for a label, or a violation is not of the expected
shape. -/
inductive Mishap where
  | unspecified
  | noItem (i : Nat)
  | noEntry (label : Text)
  | unfit (issues : List Issue)
deriving Repr, DecidableEq

/-! ## Steps that may fail -/

/-- The item of a row with a number. -/
def itemAt (elements : List Element) (i : Nat) : Except Mishap Element :=
  match elements[i]? with
  | some e => .ok e
  | none => .error (.noItem i)

/-- The label that an element jumps to, read by the numbers of its children. -/
def Element.readTarget (e : Element) : Except Mishap (Option Text) :=
  let children := significant e.children
  if children.length < 2 then .ok none
  else do
    let keyword ← itemAt children 0
    let target ← itemAt children 1
    .ok (if keyword.word? == some gotoWord then target.word?.map (· ++ labelEnd) else none)

theorem Element.readTarget_eq (e : Element) : e.readTarget = .ok (gotoTarget? e) := by
  rw [readTarget, gotoTarget?, targetOf?.eq_def]
  cases significant e.children with
  | nil => rfl
  | cons keyword rest =>
    cases rest with
    | nil => rfl
    | cons target more => rfl

namespace LabelTable

/-- The scopes in which a label is defined. -/
def entry (labels : LabelTable Address) (label : Text) : Except Mishap (List Address) :=
  match labels.lookup label with
  | some scopes => .ok scopes
  | none => .error (.noEntry label)

/-- Whether a jump enters a block, with the definitions of its label read from the table. -/
def readEntered (labels : LabelTable Address) (target : Option Text) (scopes : List Address) :
    Except Mishap Bool :=
  match target with
  | none => .ok false
  | some label =>
    if label ∈ labels.map Prod.fst then do
      let definitions ← labels.entry label
      .ok (!definitions.any scopes.contains)
    else .ok false

theorem readEntered_eq (labels : LabelTable Address) (target : Option Text)
    (scopes : List Address) :
    labels.readEntered target scopes = .ok (labels.isEntered target scopes) := by
  cases target with
  | none => rfl
  | some label =>
    rw [readEntered, isEntered, Option.bind_some, entry]
    split
    · rename_i hmem
      cases hlookup : labels.lookup label with
      | none => exact absurd hmem (lookup_eq_none_iff_not_mem.1 hlookup)
      | some definitions => rfl
    · rename_i hmem
      rw [lookup_eq_none_iff_not_mem.2 hmem]

end LabelTable

namespace Violation

/-- A violation field by field. -/
def fields (v : Violation) : List (Datum × Datum) :=
  [Datum.entry "policy" (.text v.policy), Datum.entry "description" (.text v.description),
    Datum.entry "explanation" (.text v.explanation),
    Datum.entry "severity" (.int v.severity.level),
    Datum.entry "filename" ((v.filename.map Datum.text).getD .null),
    Datum.entry "line" (.ofInt? v.line), Datum.entry "column" (.ofInt? v.column),
    Datum.entry "source" (.text v.source)]

theorem asSeverity_level (severity : Severity) :
    (Datum.int severity.level).asSeverity = .ok severity := by
  cases severity <;> rfl

/-- **Every violation is of the expected shape.** -/
theorem ofDatum_fields (v : Violation) : ofDatum (.mapping v.fields) = .ok v := by
  have htext : ∀ (name : String) (t : Text), Datum.lookup? name v.fields = some (.text t) →
      required name Datum.asText v.fields = .ok t :=
    fun name t h => required_eq_ok_iff.2 ⟨_, h, rfl⟩
  have hint : ∀ (name : String) (n : Option Int),
      Datum.lookup? name v.fields = some (.ofInt? n) →
        optional name none (Datum.nullable Datum.asInteger) v.fields = .ok n :=
    fun name n h => optional_eq_ok_iff.2 (.inr ⟨_, h, Dump.Node.nullable_asInteger_ofInt? n⟩)
  have hseverity : required "severity" Datum.asSeverity v.fields = .ok v.severity :=
    required_eq_ok_iff.2 ⟨_, rfl, asSeverity_level v.severity⟩
  have hfilename : optional "filename" none (Datum.nullable Datum.asText) v.fields =
      .ok v.filename :=
    optional_eq_ok_iff.2 (.inr ⟨_, rfl, Dump.Node.nullable_asText_map v.filename⟩)
  have hsource : optional "source" [] Datum.asText v.fields = .ok v.source :=
    optional_eq_ok_iff.2 (.inr ⟨_, rfl, rfl⟩)
  change Checked.ap _ _ = _
  rw [htext "policy" _ rfl, htext "description" _ rfl, htext "explanation" _ rfl, hseverity,
    hfilename, hint "line" _ rfl, hint "column" _ rfl, hsource]
  rfl

end Violation

/-! ## One policy -/

namespace Policy

variable {p : Policy}

/-- The violations of a policy by an element, with steps that may fail. -/
def check (p : Policy) (number : Nat) (filename : Option Text) (s : Site) :
    Except Mishap (List Violation) :=
  match p.rule with
  | .unspecified => .error .unspecified
  | .gotoIntoBlock => do
    let target ← s.element.readTarget
    let isEntered ← p.labels.readEntered target (p.knownScopes number s)
    if isEntered then
      let fields := (p.gotoViolation filename s).fields
      let violation ← (Violation.ofDatum (.mapping fields)).mapError .unfit
      .ok [violation]
    else .ok []

theorem check_eq (p : Policy) (number : Nat) (filename : Option Text) (s : Site) :
    p.check number filename s =
      (p.violates number filename s).mapError fun _ => .unspecified := by
  rw [check, violates]
  cases p.rule with
  | unspecified => rfl
  | gotoIntoBlock =>
    simp only [Element.readTarget_eq, LabelTable.readEntered_eq, Violation.ofDatum_fields]
    change (if _ then _ else _) = _
    split <;> rfl

/-- The violations by elements in a row up to the limit, with steps that may fail. -/
def checkAll (p : Policy) (number : Nat) (filename : Option Text) (found : List Violation) :
    List Site → Except Mishap (List Violation)
  | [] => .ok found
  | s :: rest => do
    let more ← p.check number filename s
    let found := found ++ more
    match p.limit with
    | some limit =>
      if limit ≤ found.length then .ok (upTo limit found)
      else p.checkAll number filename found rest
    | none => p.checkAll number filename found rest

theorem checkAll_eq (p : Policy) (number : Nat) (filename : Option Text) (found : List Violation)
    (sites : List Site) :
    p.checkAll number filename found sites =
      ((p.collect number filename found sites).map Prod.fst).mapError fun _ => .unspecified := by
  induction sites generalizing found with
  | nil => rfl
  | cons s rest ih =>
    rw [checkAll, collect, check_eq]
    cases p.violates number filename s with
    | error e => rfl
    | ok more =>
      change (match p.limit with | some limit => _ | none => _) = _
      cases p.limit with
      | none => exact ih (found ++ more)
      | some limit =>
        simp only
        split
        · rfl
        · exact ih (found ++ more)

/-- Applies a policy to a document, with steps that may fail. -/
def attempt (p : Policy) (number : Nat) (d : Document) : Except Mishap (List Violation) :=
  let preparation := p.prepare number d
  if preparation.hasWork then
    preparation.policy.checkAll number d.filename []
      (d.sites.filter fun s => p.rule.appliesTo s.element)
  else .ok []

theorem attempt_eq (p : Policy) (number : Nat) (d : Document) :
    p.attempt number d = (p.apply number d).result.mapError fun _ => .unspecified := by
  rw [attempt, result_apply]
  simp only [checkAll_eq]
  split <;> rfl

/-- **A bare policy** fails at the first element of a document, whatever its limit is; only a
document without elements gives it nothing to fail at. -/
theorem result_apply_of_unspecified (hrule : p.rule = .unspecified) (number : Nat) (d : Document) :
    (p.apply number d).result = if d.children.isEmpty then .ok [] else .error .unspecified := by
  have hprepare : p.prepare number d = ⟨p, true, []⟩ := by rw [prepare, hrule]
  have hall : (d.sites.filter fun s => p.rule.appliesTo s.element) = d.sites := by
    rw [hrule]
    exact List.filter_true d.sites
  rw [result_apply, hprepare, if_pos rfl, hall, Document.sites, Document.root, Site.children,
    Element.children]
  cases d.children with
  | nil =>
    rw [placed, walk]
    rfl
  | cons e more =>
    rw [placed, walk, collect, violates, hrule]
    rfl

/-- A policy either is a bare one that has something to fail at, or does not fail. -/
theorem result_apply_eq_error_iff {number : Nat} {d : Document} :
    (p.apply number d).result = .error .unspecified ↔
      p.rule = .unspecified ∧ d.children ≠ [] := by
  cases hrule : p.rule with
  | unspecified =>
    rw [result_apply_of_unspecified hrule]
    cases d.children <;> simp
  | gotoIntoBlock =>
    rw [result_apply_eq_reported hrule]
    exact iff_of_false nofun nofun

end Policy

/-! ## All policies of a critic -/

namespace Critic

/-- Applying policies in a row gives what all of them find, or the first failure. -/
theorem result_applyAll_eq_mapM (number : Nat) (d : Document) (ps : List Policy) :
    (applyAll number d ps).result =
      (ps.mapM fun p : Policy => (p.apply number d).result).map List.flatten := by
  induction ps with
  | nil => rfl
  | cons p rest ih =>
    rw [applyAll, List.mapM_cons]
    cases (p.apply number d).result with
    | error e => rfl
    | ok found =>
      simp only [ih]
      cases rest.mapM fun p : Policy => (p.apply number d).result <;> rfl

/-- The violations in a document, by position, with steps that may fail. -/
def attempt (c : Critic) (number : Nat) (d : Document) : Except Mishap (List Violation) :=
  (c.policies.mapM fun p : Policy => p.attempt number d).map fun found =>
    sortViolations found.flatten

/-- **No step fails** but that of a bare policy. -/
theorem attempt_eq (c : Critic) (number : Nat) (d : Document) :
    c.attempt number d = (c.critique number d).result.mapError fun _ => .unspecified := by
  rw [attempt, critique, result_applyAll_eq_mapM]
  simp only [Policy.attempt_eq, mapM_mapError]
  cases c.policies.mapM fun p : Policy => (p.apply number d).result <;> rfl

theorem result_critique_eq_error_iff {c : Critic} {number : Nat} {d : Document} :
    (c.critique number d).result = .error .unspecified ↔
      (∃ p ∈ c.policies, p.rule = .unspecified) ∧ d.children ≠ [] := by
  -- there is one failure only
  have hany : ∀ {α : Type} {x : Except Unspecified α},
      x = .error .unspecified ↔ ∃ e, x = .error e :=
    ⟨fun h => ⟨_, h⟩, fun ⟨⟨⟩, h⟩ => h⟩
  rw [critique, map_eq_error_iff, result_applyAll_eq_mapM, map_eq_error_iff, hany,
    exists_mapM_eq_error_iff]
  simp only [← hany, Policy.result_apply_eq_error_iff]
  constructor
  · rintro ⟨p, hp, hrule, hchildren⟩
    exact ⟨⟨p, hp, hrule⟩, hchildren⟩
  · rintro ⟨⟨p, hp, hrule⟩, hchildren⟩
    exact ⟨p, hp, hrule, hchildren⟩

/-- **When looking at a document fails, and how.**  It fails exactly if a bare policy is among the
policies, whatever stands before it, and the document has an element; and even if each step may fail
in its own way, it fails as a bare policy does.  It makes no difference whether a policy stands in
several places.  The policies of a profile never fail. -/
theorem critique_fails_iff (c : Critic) (number : Nat) (d : Document) :
    ((c.critique number d).result = .error .unspecified ↔
      (∃ p ∈ c.policies, p.rule = .unspecified) ∧ d.children ≠ []) ∧
    (∀ mishap, c.attempt number d = .error mishap ↔
      mishap = .unspecified ∧ (∃ p ∈ c.policies, p.rule = .unspecified) ∧ d.children ≠ []) ∧
    (∀ report, c.attempt number d = .ok report ↔ (c.critique number d).result = .ok report) ∧
    (∀ s : Shelf, s.critic = c →
      (Shelf.applyAll number d s.policies s.order).1.map sortViolations =
        (c.critique number d).result) ∧
    ∀ profile : Profile, profile.critic = .ok c →
      ∃ report, (c.critique number d).result = .ok report := by
  refine ⟨result_critique_eq_error_iff, fun mishap => ?_, fun report => ?_, fun s hs => ?_,
    fun profile hprofile => ?_⟩
  · rw [attempt_eq, mapError_eq_error_iff]
    constructor
    · rintro ⟨⟨⟩, hresult, rfl⟩
      exact ⟨rfl, result_critique_eq_error_iff.1 hresult⟩
    · rintro ⟨rfl, hfails⟩
      exact ⟨_, result_critique_eq_error_iff.2 hfails, rfl⟩
  · rw [attempt_eq, mapError_eq_ok_iff]
  · subst hs
    rw [Shelf.applyAll_eq (Shelf.map_unprepared_of_fresh rfl) number number d]
    rfl
  · exact ⟨_, result_critique_eq (Profile.rule_of_mem_critic hprofile) number d⟩

/-- Statements that are no proper jumps: an empty one, the word alone, and one to a label of which
the colon is missing where it stands.  No token has a location. -/
def ragged : Document where
  filename := none
  children := [
    .node .breakStatement [],
    .node .breakStatement [.token .word gotoWord .unknown],
    .node .breakStatement
      [.token .word gotoWord .unknown, .token .word (.ofString "FOO") .unknown],
    .node .block [.token .label (.ofString "FOO") .unknown]]

/-- A bare policy behind one of the goto rule. -/
def mixed : Critic := ⟨[.ofRule .gotoIntoBlock, .ofRule .unspecified]⟩

theorem critique_fails_iff_ragged :
    (mixed.critique 0 ragged).result = .error .unspecified ∧
      (mixed.critique 0 { ragged with children := [] }).result ≠ .error .unspecified ∧
      mixed.attempt 0 ragged = .error .unspecified ∧
      ∃ report, ((Critic.mk [.ofRule .gotoIntoBlock]).critique 0 ragged).result = .ok report := by
  have hbare : ∃ p ∈ mixed.policies, p.rule = .unspecified :=
    ⟨_, List.mem_cons_of_mem _ List.mem_cons_self, rfl⟩
  have hchildren : ragged.children ≠ [] := List.cons_ne_nil _ _
  obtain ⟨hfails, hattempt, -⟩ := critique_fails_iff mixed 0 ragged
  obtain ⟨hempty, -⟩ := critique_fails_iff mixed 0 { ragged with children := [] }
  obtain ⟨-, -, -, -, hprofile⟩ := critique_fails_iff ⟨[.ofRule .gotoIntoBlock]⟩ 0 ragged
  exact ⟨hfails.2 ⟨hbare, hchildren⟩, fun h => (hempty.1 h).2 rfl,
    (hattempt _).2 ⟨rfl, hbare, hchildren⟩, hprofile .default rfl⟩

end Critic

end JumpLint

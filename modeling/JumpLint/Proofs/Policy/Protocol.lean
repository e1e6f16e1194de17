import JumpLint.Proofs.Policy.Judgment

/-!
# Calls of a policy in any order

A policy is meant to be prepared for a document and then asked about its elements, but nothing holds
its callers to that: elements of one document may be judged by the labels of another, or before any
preparation.  Here it is said what a policy answers then.

## What is here

* `Document.Place`: an element of a document, the root not excepted.
* `Policy.Call`, `Policy.Answer`, `Policy.step`, `Policy.answers`: calls in a row and what they
  answer.
* `Policy.latest`: the document that was prepared last, and `Policy.remembering` the policy as it is
  then; `Policy.step_remembering` says that no call leaves it in any other state.
* `Policy.IsAnswer`: what a call is to answer, said of the documents alone.
* `Policy.answers_follow_latest`: every call in every row of calls is answered so.
-/

set_option autoImplicit false
namespace JumpLint

/-- An element of a document, or the root, in its place. -/
structure Document.Place (d : Document) where
  site : Site
  at?_eq : d.root.at? site.address = some site

namespace Policy

variable {n : Nat}

/-- A call of a policy.  Documents are told apart by their numbers in a row, however alike they are.
With an element of the document `i` a document `given` is handed over, which need not be its own. -/
inductive Call (docs : Fin n → Document) where
  | prepare (k : Fin n)
  | violates (i : Fin n) (e : (docs i).Place) (given : Fin n)

/-- What a call answers. -/
inductive Answer where
  | hasWork (b : Bool)
  | violations (result : Except Unspecified (List Violation))

variable {docs : Fin n → Document}

/-- One call: the policy as it is afterwards, and the answer. -/
def step (p : Policy) : Call docs → Policy × Answer
  | .prepare k => ((p.prepare k (docs k)).policy, .hasWork (p.prepare k (docs k)).hasWork)
  | .violates i e _ => (p, .violations (p.violates i (docs i).filename e.site))

/-- The answers to calls in a row. -/
def answers (p : Policy) : List (Call docs) → List Answer
  | [] => []
  | call :: rest => (p.step call).2 :: (p.step call).1.answers rest

/-! ## What a policy remembers -/

/-- The document that was prepared last, given the one that was before these calls. -/
def latest (last : Option (Fin n)) : List (Call docs) → Option (Fin n)
  | [] => last
  | .prepare k :: rest => latest (some k) rest
  | .violates _ _ _ :: rest => latest last rest

/-- A policy that was prepared for a document of the row, or not at all. -/
def remembering (p : Policy) (docs : Fin n → Document) : Option (Fin n) → Policy
  | none => p
  | some k => p.preparedFor k (docs k)

theorem rule_remembering (p : Policy) (last : Option (Fin n)) :
    (p.remembering docs last).rule = p.rule := by
  cases last <;> rfl

theorem preparedFor_remembering (p : Policy) (last : Option (Fin n)) (number : Nat) (d : Document) :
    (p.remembering docs last).preparedFor number d = p.preparedFor number d := by
  cases last <;> rfl

theorem gotoViolation_remembering (p : Policy) (last : Option (Fin n)) (filename : Option Text)
    (s : Site) :
    (p.remembering docs last).gotoViolation filename s = p.gotoViolation filename s := by
  cases last <;> rfl

/-- **A step.**  The policy keeps the label table of the document that was prepared last, and
nothing else of the calls. -/
theorem step_remembering {p : Policy} (hrule : p.rule = .gotoIntoBlock) (last : Option (Fin n))
    (call : Call docs) :
    ((p.remembering docs last).step call).1 = p.remembering docs (latest last [call]) := by
  cases call with
  | prepare k =>
    rw [step, policy_prepare ((rule_remembering p last).trans hrule), preparedFor_remembering]
    rfl
  | violates i e given => rfl

/-- **A run.**  What a call in a row answers is what it answers with the document in mind that was
prepared last. -/
theorem getElem?_answers {p : Policy} (hrule : p.rule = .gotoIntoBlock) (last : Option (Fin n))
    (before after : List (Call docs)) (call : Call docs) :
    ((p.remembering docs last).answers (before ++ call :: after))[before.length]? =
      some ((p.remembering docs (latest last before)).step call).2 := by
  induction before generalizing last with
  | nil => rfl
  | cons first rest ih =>
    rw [List.cons_append, answers, List.length_cons, List.getElem?_cons_succ,
      step_remembering hrule, ih]
    cases first <;> rfl

/-! ## What a policy answers -/

/-- An element of the document `i` is at fault when the document `last` was prepared last: it is a
jump, and enters a block of its own document or goes to a label of the other one. -/
def IsAtFault (last : Option (Fin n)) (i : Fin n) (e : (docs i).Place) : Prop :=
  ∃ k, last = some k ∧ ∃ name, e.site.element.IsGotoTo name ∧
    if k = i then (docs i).EntersBlock (name ++ .ofString ":") e.site.address
    else ∃ l, (docs k).Defines (name ++ .ofString ":") l

/-- What a call is to answer when the document `last` was prepared last. -/
def IsAnswer (p : Policy) (last : Option (Fin n)) : Call docs → Answer → Prop
  | .prepare k, answer =>
    ∃ b, answer = .hasWork b ∧ (b = true ↔ ∃ label l, (docs k).Defines label l)
  | .violates i e _, answer =>
    (IsAtFault last i e → answer = .violations (.ok [p.gotoViolation (docs i).filename e.site])) ∧
      (¬IsAtFault last i e → answer = .violations (.ok []))

theorem faults_remembering_iff {p : Policy} (hfresh : p.prepared = none) (last : Option (Fin n))
    (i : Fin n) (e : (docs i).Place) :
    (p.remembering docs last).faults i e.site = true ↔ IsAtFault last i e := by
  cases last with
  | none =>
    rw [remembering, faults_of_prepared_eq_none hfresh]
    refine ⟨fun h => absurd h Bool.false_ne_true, ?_⟩
    rintro ⟨k, hk, -⟩
    exact absurd hk.symm (Option.some_ne_none k)
  | some k =>
    have hfault : IsAtFault (some k) i e ↔ ∃ name, e.site.element.IsGotoTo name ∧
        if k = i then (docs i).EntersBlock (name ++ labelEnd) e.site.address
        else ∃ l, (docs k).Defines (name ++ labelEnd) l := by
      constructor
      · rintro ⟨j, hj, h⟩
        obtain rfl := Option.some.inj hj
        exact h
      · exact fun h => ⟨k, rfl, h⟩
    rw [hfault, remembering]
    by_cases hki : k = i
    · subst hki
      simp only [reduceIte]
      exact faults_preparedFor_iff e.at?_eq
    · simp only [if_neg hki]
      exact faults_preparedFor_of_ne_iff fun h => hki (Fin.ext h)

theorem isAnswer_step {p : Policy} (hrule : p.rule = .gotoIntoBlock) (hfresh : p.prepared = none)
    (last : Option (Fin n)) (call : Call docs) :
    p.IsAnswer last call ((p.remembering docs last).step call).2 := by
  have hrule' : (p.remembering docs last).rule = .gotoIntoBlock :=
    (rule_remembering p last).trans hrule
  cases call with
  | prepare k => exact ⟨_, rfl, hasWork_prepare_iff hrule'⟩
  | violates i e given =>
    rw [IsAnswer, ← faults_remembering_iff hfresh, step, violates_eq hrule',
      gotoViolation_remembering]
    refine ⟨fun h => ?_, fun h => ?_⟩
    · rw [if_pos h]
    · rw [if_neg h]

/-- **The answers follow the last preparation.**  In every row of calls of a new policy, each call
is answered by the document that was prepared last before it; an element gives the same answer in
two rows when that document is the same, whatever else was prepared before and whatever document is
handed over with the element. -/
theorem answers_follow_latest {p : Policy} (hrule : p.rule = .gotoIntoBlock)
    (hfresh : p.prepared = none) (docs : Fin n → Document) :
    (∀ (before after : List (Call docs)) (call : Call docs), ∃ answer,
      (p.answers (before ++ call :: after))[before.length]? = some answer ∧
        p.IsAnswer (latest none before) call answer) ∧
      ∀ (before after before' after' : List (Call docs)) (i : Fin n) (e : (docs i).Place)
        (given given' : Fin n), latest none before = latest none before' →
        (p.answers (before ++ .violates i e given :: after))[before.length]? =
          (p.answers (before' ++ .violates i e given' :: after'))[before'.length]? := by
  have hanswers : ∀ (before after : List (Call docs)) (call : Call docs),
      (p.answers (before ++ call :: after))[before.length]? =
        some ((p.remembering docs (latest none before)).step call).2 :=
    getElem?_answers hrule none
  refine ⟨fun before after call => ?_, fun before after before' after' i e given given' h => ?_⟩
  · exact ⟨_, hanswers before after call, isAnswer_step hrule hfresh _ call⟩
  · rw [hanswers, hanswers, h]
    rfl

/-- The jump in its place. -/
def placedJump : Document.enteringJump.Place where
  site := ⟨[2], [[]], .node .breakStatement [
    .token .word (.ofString "goto") ⟨some 1, some 10⟩,
    .token .whitespace (.ofString " ") .unknown,
    .token .word (.ofString "FOO") .unknown,
    .token .punctuation (.ofString ";") .unknown]⟩
  at?_eq := rfl

/-- Two documents with the same text are two documents: the label stands in the one, and the jump in
the other goes into no block of its own. -/
theorem answers_follow_latest_twins :
    (ofRule .gotoIntoBlock).rule = .gotoIntoBlock ∧ (ofRule .gotoIntoBlock).prepared = none ∧
      let docs : Fin 2 → Document := fun _ => .enteringJump
      ((ofRule .gotoIntoBlock).answers [.prepare 0, (.violates 1 placedJump 1 : Call docs)])[1]? =
        some (.violations (.ok [{
          policy := .ofString "ControlStructures::ProhibitGotoIntoBlock"
          description := .ofString gotoDescription
          explanation := .ofString gotoExplanation
          severity := .high
          filename := some (.ofString "lib/Foo.pm")
          line := some 1
          column := some 10
          source := .ofString "goto FOO;" }])) := by
  have hfault : @IsAtFault 2 (fun _ => .enteringJump) (some 0) 1 placedJump :=
    (faults_remembering_iff (p := ofRule .gotoIntoBlock) rfl _ _ _).1 (by decide +kernel)
  obtain ⟨answer, hanswer, hviolations, -⟩ :=
    (answers_follow_latest (p := ofRule .gotoIntoBlock) rfl rfl
      fun _ : Fin 2 => Document.enteringJump).1 [.prepare 0] [] (.violates 1 placedJump 1)
  refine ⟨rfl, rfl, hanswer.trans (congrArg some ((hviolations hfault).trans ?_))⟩
  exact congrArg (fun v => Answer.violations (.ok [v])) (by decide +kernel)

end Policy
end JumpLint

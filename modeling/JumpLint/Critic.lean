import JumpLint.Policy

/-!
# The critic

A critic applies its policies to documents, one document at a time, and lists what they find by
position.

## What is here

* `found[:limit]` in words, `upTo`: the first violations up to a limit, where a limit below zero
  counts from the end.
* `Policy.collect`: the violations among elements in a row, up to the limit.
* `Policy.apply`: the violations of one policy in one document.
* `Critic.critique`: the violations of all policies in a document, sorted; `Critic.critiqueAll`:
  those of documents in a row.

An application ends with violations or with the failure of a bare policy, and in either case leaves
the policies prepared for the document, and lines in the log.
-/

set_option autoImplicit false
namespace JumpLint

/-- The first elements of a list up to a limit; a limit below zero counts from the end. -/
def upTo {α : Type} (limit : Int) (xs : List α) : List α :=
  if 0 ≤ limit then xs.take limit.toNat else xs.take (xs.length - limit.natAbs)

namespace Policy

/-- Adds the violations by elements in a row to those that have been found, until the limit is
reached; tells whether it was. -/
def collect (p : Policy) (number : Nat) (filename : Option Text) (found : List Violation) :
    List Site → Except Unspecified (List Violation × Bool)
  | [] => .ok (found, false)
  | s :: rest =>
    match p.violates number filename s with
    | .error e => .error e
    | .ok more =>
      let found := found ++ more
      match p.limit with
      | some limit =>
        if limit ≤ found.length then .ok (upTo limit found, true)
        else p.collect number filename found rest
      | none => p.collect number filename found rest

/-- What came of applying a policy: the violations or a failure, the policy as it is now, and the
lines of the log. -/
structure Application where
  result : Except Unspecified (List Violation)
  policy : Policy
  log : List Record

/-- Applies a policy to the document with a number. -/
def apply (p : Policy) (number : Nat) (d : Document) : Application :=
  let preparation := p.prepare number d
  let p := preparation.policy
  if !preparation.hasWork then
    let message := .ofString (p.name ++ ": nothing to check in ") ++ d.shownName
    ⟨.ok [], p, preparation.log ++ [⟨criticLogger, message⟩]⟩
  else
    let sites := d.sites.filter fun s => p.rule.appliesTo s.element
    match p.collect number d.filename [] sites with
    | .error e => ⟨.error e, p, preparation.log⟩
    | .ok (found, isLimited) =>
      let stopped := p.name ++ ": stopped at " ++ toString (p.limit.getD 0) ++ " violations in "
      let message := .ofString stopped ++ d.shownName
      ⟨.ok found, p, preparation.log ++ if isLimited then [⟨criticLogger, message⟩] else []⟩

end Policy

/-- Policies that are applied together. -/
structure Critic where
  policies : List Policy
deriving Repr

namespace Critic

/-- What came of looking at a document: the violations or a failure, the critic as it is now, and
the lines of the log. -/
structure Critique where
  result : Except Unspecified (List Violation)
  critic : Critic
  log : List Record

/-- Applies policies in a row until one fails. -/
def applyAll (number : Nat) (d : Document) : List Policy → Critique
  | [] => ⟨.ok [], ⟨[]⟩, []⟩
  | p :: rest =>
    let application := p.apply number d
    match application.result with
    | .error e => ⟨.error e, ⟨application.policy :: rest⟩, application.log⟩
    | .ok found =>
      let others := applyAll number d rest
      ⟨others.result.map (found ++ ·), ⟨application.policy :: others.critic.policies⟩,
        application.log ++ others.log⟩

/-- The violations in a document, by position. -/
def critique (c : Critic) (number : Nat) (d : Document) : Critique :=
  let all := applyAll number d c.policies
  { all with result := all.result.map sortViolations }

/-- The violations in documents in a row, those of each document by position. -/
def critiqueAll (c : Critic) (number : Nat) : List Document → Except Unspecified (List Violation)
  | [] => .ok []
  | d :: rest => do
    let critique := c.critique number d
    let found ← critique.result
    let more ← critique.critic.critiqueAll (number + 1) rest
    .ok (found ++ more)

end Critic
end JumpLint

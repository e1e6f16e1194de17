import JumpLint.Workbench
import Mathlib.Logic.Relation

/-!
# Classes of elements

The kinds of elements are special cases of wider classes: a block is a bracketed structure, that is
a node, and that is an element.  Whoever looks for the elements of a class finds those of its special
cases too.

## What is here

* `Class.base?`: the class that a class is a special case of, one step up.
* `Class.IsA`: a class is another one, or a special case of it in any number of steps.
* `Class.covers_iff`: this is what it means for a class to cover the elements of another one.
-/

set_option autoImplicit false
namespace JumpLint
namespace Class

open Relation

/-- The class that a class is a special case of. -/
def base? : Class → Option Class
  | .element => none
  | .token | .node => some .element
  | .bracketed => some .node
  | .kind (.token _) => some .token
  | .kind (.node .document) | .kind (.node .statement) => some .node
  | .kind (.node k) => if k.isBracketed then some .bracketed else some (.kind (.node .statement))

/-- A class is another one, or a special case of it. -/
def IsA (c cls : Class) : Prop := ReflTransGen (fun c d => c.base? = some d) c cls

variable {cls c d : Class} {k : NodeKind}

theorem not_isToken_of_isNode (h : c.isNode) : ¬c.isToken := by
  cases c with
  | kind kind =>
    cases kind with
    | token => cases h
    | node => exact nofun
  | element | token => cases h
  | node | bracketed => exact nofun

theorem isA_token (h : c.isToken) : c.IsA .token := by
  cases c with
  | token => exact .refl
  | kind kind =>
    cases kind with
    | token => exact .single rfl
    | node => cases h
  | element | node | bracketed => cases h

theorem isA_bracketed (h : k.isBracketed) : (kind (.node k)).IsA .bracketed := by
  cases k <;> first | exact .single rfl | cases h

theorem isA_statement (h : k.isStatement) : (kind (.node k)).IsA (.kind (.node .statement)) := by
  cases k <;> first | exact .refl | exact .single rfl | cases h

theorem isA_node (h : c.isNode) : c.IsA .node := by
  cases c with
  | node => exact .refl
  | bracketed => exact .single rfl
  | kind kind =>
    cases kind with
    | token => cases h
    | node k =>
      by_cases hbracketed : k.isBracketed
      · exact (isA_bracketed hbracketed).tail rfl
      · by_cases hstatement : k.isStatement
        · exact (isA_statement hstatement).tail rfl
        · cases k <;> first | exact .single rfl | contradiction
  | element | token => cases h

theorem isA_element (c : Class) : c.IsA .element := by
  by_cases htoken : c.isToken
  · exact (isA_token htoken).tail rfl
  · by_cases hnode : c.isNode
    · exact (isA_node hnode).tail rfl
    · cases c with
      | element => exact .refl
      | kind kind => cases kind <;> contradiction
      | token | node | bracketed => contradiction

theorem isA_of_covers : cls.covers c → c.IsA cls := by
  fun_cases covers cls c with
  | case1 => exact fun _ => isA_element c
  | case2 => exact isA_token
  | case3 => exact isA_node
  | case4 => exact fun _ => .refl
  | case5 => exact isA_bracketed
  | case6 => exact isA_statement
  | case7 a b => exact fun h => beq_iff_eq.1 h ▸ .refl
  | case8 => exact nofun

theorem covers_self (c : Class) : c.covers c := by
  cases c with
  | kind kind => rcases kind with k | k <;> cases k <;> rfl
  | element | token | node | bracketed => rfl

/-- What covers the base of a class covers the class. -/
theorem covers_of_base? (hbase : c.base? = some d) (h : cls.covers d) : cls.covers c := by
  cases c with
  | element => cases hbase
  | token | node | bracketed =>
    cases hbase
    rcases cls with _ | _ | _ | _ | k | k <;> first | rfl | cases h | (cases k <;> cases h)
  | kind kind =>
    rcases kind with k | k
    · cases hbase
      rcases cls with _ | _ | _ | _ | k | k <;> first | rfl | cases h | (cases k <;> cases h)
    · cases k <;> cases hbase <;> rcases cls with _ | _ | _ | _ | k | k <;>
        first | rfl | cases h | (cases k <;> first | rfl | cases h)

/-- **Special cases.**  A class covers itself and all its special cases. -/
theorem covers_iff : cls.covers c ↔ c.IsA cls := by
  refine ⟨isA_of_covers, fun h => ?_⟩
  induction h using ReflTransGen.head_induction_on with
  | refl => exact covers_self cls
  | head hbase _ ih => exact covers_of_base? hbase ih

end Class
end JumpLint

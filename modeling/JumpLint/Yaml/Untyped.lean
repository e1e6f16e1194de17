import JumpLint.Datum
import JumpLint.Yaml.Graph

/-!
# YAML in which every scalar is a text

Tags and forms are passed over: `no`, `1` and an empty value are the texts that stand there.  A node
that is used twice is there twice.  A node inside itself has no finite form, and lists and mappings
are no keys, so both are errors.

## What is here

* `Graph.untyped`: the data below a node.
* `readUntyped`: the data of a text, `null` for a text without a document.
-/

set_option autoImplicit false
namespace JumpLint
namespace Yaml

/-- Whether a datum can be the key of a mapping. -/
def isKey : Datum → Bool
  | .list _ | .mapping _ | .set _ => false
  | _ => true

/-- The data below a node, to a given depth.  A path without repetition is no longer than the graph,
so in a graph that holds no node inside itself the depth of its size is enough. -/
def Graph.untyped (g : Graph) : Nat → Nat → Except Error Datum
  | 0, _ => .error .malformed
  | depth + 1, node =>
    match g[node]? with
    | none => .error .malformed
    | some ⟨_, .scalar text⟩ => .ok (.text text)
    | some ⟨_, .sequence items⟩ => do
      .ok (.list (← items.mapM (Graph.untyped g depth)))
    | some ⟨_, .mapping entries⟩ => do
      let entries ← entries.mapM fun (k, v) => do
        let key ← Graph.untyped g depth k
        if isKey key then
          let value ← Graph.untyped g depth v
          .ok (key, value)
        else .error .malformed
      .ok (.ofEntries entries)

/-- The data of a text, read with room for so many collections inside each other.  The way through
the graph below goes no deeper than the text. -/
def readUntyped (room : Nat) (text : String) : Except Error Datum := do
  match ← Graph.read room (.ofText text.toList) with
  | none => .ok .null
  | some (g, root) => g.untyped (g.size + 1) root

end Yaml
end JumpLint

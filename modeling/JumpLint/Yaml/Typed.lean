import JumpLint.Yaml.Scalar
import JumpLint.Yaml.Untyped

/-!
# YAML with types

Every node has a type, by its tag or by its form.  A key `<<` in a mapping stands for the entries of
other mappings; entries of the mapping itself count more.  A key `=` names the text of a mapping
that is used as a scalar, until the mapping is looked at as one: then it is a text like any other.

## What is here

* `Graph.tagName`: the tag of a node.
* `Graph.takeOver`: the graph in which a mapping has the entries that it takes over in front of its
  own.
* `Graph.scalarText`: the text of a scalar, or of a mapping that is used as one.
* `Given`: what is known of a node once it has been looked at: a scalar's value, or the shape of a
  collection whose parts are still to come.
* `Typing.run`: looks at all nodes, the parts of an outer collection before those of an inner one,
  so that of two errors the outer one is reported.
* `readTyped`: the data of a text down to a given depth, `null` for a text without a document.
-/

set_option autoImplicit false
namespace JumpLint
namespace Yaml

open Scalar (coreTag)

namespace Graph

/-- The tag of a node. -/
def tagName (node : Node) : String :=
  match node.tag, node.content with
  | .named name, _ => name
  | .quoted, _ => coreTag "str"
  | .byForm, .scalar text => Scalar.tagOfForm text
  | .byForm, .sequence _ => coreTag "seq"
  | .byForm, .mapping _ => coreTag "map"

/-- Whether the node with this number has a tag of the standard's own. -/
def hasTag (g : Graph) (node : Nat) (name : String) : Bool :=
  match g[node]? with
  | some n => tagName n == coreTag name
  | none => false

/-- The entries of a mapping. -/
def entries? (g : Graph) (node : Nat) : Option (List (Nat × Nat)) :=
  match g[node]? with
  | some ⟨_, .mapping entries⟩ => some entries
  | _ => none

/-- Gives a mapping other entries. -/
def setEntries (g : Graph) (node : Nat) (entries : List (Nat × Nat)) : Graph :=
  g.modify node fun n => { n with content := .mapping entries }

/-- Makes the keys `=` among entries texts. -/
def nameKeys (g : Graph) (entries : List (Nat × Nat)) : Graph :=
  entries.foldl (fun g (k, _) =>
    if g.hasTag k "value" then g.modify k fun n => { n with tag := .named (coreTag "str") }
    else g) g

/-- The entries of a mapping that stand for those of other mappings. -/
def merges (g : Graph) (node : Node) : List (Nat × Nat) :=
  match node.content with
  | .mapping entries => entries.filter fun (k, _) => g.hasTag k "merge"
  | _ => []

/-- How many entries stand for those of other mappings. -/
def mergeCount (g : Graph) : Nat := g.foldl (fun n node => n + (g.merges node).length) 0

/-- What is done inside something else, with one level less of room. -/
def inside {α : Type} (room : Nat) (step : Nat → Except Error α) : Except Error α :=
  match room with
  | 0 => .error .tooDeep
  | room + 1 => step room

/-- Puts the entries that a mapping takes over in front of its own.  One by one the keys `<<` are
taken out, and the mappings behind them are treated in the same way first, which takes one level of
room; the entries found so far are `taken`.  Each step takes out a key, so the fuel is the number of
keys `<<` and one more. -/
def takeOver (g : Graph) (node : Nat) (taken : List (Nat × Nat)) : Nat → Nat → Except Error Graph
  | 0, _ => .error .malformed
  | fuel + 1, room =>
    match g.entries? node with
    | none => .error .malformed
    | some entries =>
      match entries.find? fun (k, _) => g.hasTag k "merge" with
      | none => .ok ((g.nameKeys entries).setEntries node (taken ++ entries))
      | some (key, source) => do
        let g := g.setEntries node (entries.erase (key, source))
        match g[source]? with
        | some ⟨_, .mapping _⟩ =>
          let g ← inside room (takeOver g source [] fuel)
          takeOver g node (taken ++ (g.entries? source).getD []) fuel room
        | some ⟨_, .sequence sources⟩ =>
          let (g, parts) ← sources.foldlM (fun (g, parts) source => do
            let g ← inside room (takeOver g source [] fuel)
            .ok (g, (g.entries? source).getD [] :: parts)) (g, [])
          takeOver g node (taken ++ parts.flatten) fuel room
        | _ => .error .malformed

/-- The node that has the text of a mapping: the value of the first key `=`. -/
def textNode? (g : Graph) (entries : List (Nat × Nat)) : Option Nat :=
  (entries.find? fun (k, _) => g.hasTag k "value").map (·.2)

/-- The text of a scalar; a mapping with a key `=` has the text of that entry, and looking there
takes one level of room.  A mapping may be its own entry, and then no room is enough. -/
def scalarText (g : Graph) (room node : Nat) : Except Error Text :=
  match g[node]? with
  | some ⟨_, .scalar text⟩ => .ok text
  | some ⟨_, .mapping entries⟩ =>
    match g.textNode? entries, room with
    | none, _ => .error .malformed
    | some _, 0 => .error .tooDeep
    | some n, room + 1 => scalarText g room n
  | _ => .error .malformed

end Graph

/-! ## Looking at nodes -/

/-- The shape of a collection. -/
inductive Shape where
  | list
  | mapping
  | set
  | pairs
deriving Repr, DecidableEq

/-- What is known of a node: its value, or that it is the one value `.nan`, or its shape. -/
inductive Given where
  | value (datum : Datum)
  | nan
  | collection (shape : Shape)

/-- The value or shape of a node with a given tag.  A date is read only from a scalar itself. -/
def givenOf (g : Graph) (room node : Nat) (tag : String) : Except Error Given := do
  if tag == coreTag "seq" then .ok (.collection .list)
  else if tag == coreTag "map" then .ok (.collection .mapping)
  else if tag == coreTag "set" then .ok (.collection .set)
  else if tag == coreTag "omap" || tag == coreTag "pairs" then .ok (.collection .pairs)
  else
    let isKnown := ["null", "bool", "int", "float", "binary", "timestamp", "str"].any fun name =>
      tag == coreTag name
    if !isKnown then .error .malformed
    else
      let text ← g.scalarText room node
      if tag == coreTag "null" then .ok (.value .null)
      else if tag == coreTag "bool" then .ok (.value (.bool (← Scalar.boolOf text)))
      else if tag == coreTag "int" then .ok (.value (.int (← Scalar.intOf text)))
      else if tag == coreTag "float" then
        let x ← Scalar.floatOf text
        .ok (if Scalar.isNanWord text then .nan else .value (.float x))
      else if tag == coreTag "binary" then .ok (.value (.bytes (← Scalar.bytesOf text)))
      else if tag == coreTag "timestamp" then
        if (g.entries? node).isSome then .error .momentOfMapping
        else .ok (.value (.moment (← Scalar.momentOf text)))
      else .ok (.value (.text text))

/-- What is known of each node by its number, and the collections whose parts have not been looked
at.  `merges` is the number of keys `<<` at the beginning, and `room` how many levels there is room
for; collections take none, since they wait for their turn outside each other. -/
structure Typing where
  graph : Graph
  merges : Nat
  room : Nat
  given : Array (Option Given)
  waiting : List Nat

namespace Typing

/-- What is known of a node. -/
def given? (t : Typing) (node : Nat) : Option Given := t.given.getD node none

/-- Looks at a node, once. -/
def look (t : Typing) (node : Nat) : Except Error (Typing × Given) :=
  match t.given? node, t.graph[node]? with
  | some given, _ => .ok (t, given)
  | none, none => .error .malformed
  | none, some n => do
    let given ← givenOf t.graph t.room node (Graph.tagName n)
    let waiting := match given with
      | .collection _ => t.waiting ++ [node]
      | _ => t.waiting
    .ok ({ t with given := t.given.setIfInBounds node (some given), waiting := waiting }, given)

/-- Looks at the parts of a list. -/
def lookAll (t : Typing) (nodes : List Nat) : Except Error Typing :=
  nodes.foldlM (fun t node => (·.1) <$> t.look node) t

/-- Looks at keys and values; a collection is no key. -/
def lookEntries (t : Typing) (entries : List (Nat × Nat)) : Except Error Typing :=
  entries.foldlM (fun t (k, v) => do
    let (t, key) ← t.look k
    match key with
    | .collection _ => .error .malformed
    | _ => (·.1) <$> t.look v) t

/-- The key and value of a mapping that has one entry. -/
def pairOf (g : Graph) (node : Nat) : Except Error (Nat × Nat) :=
  match g.entries? node with
  | some [entry] => .ok entry
  | _ => .error .malformed

/-- Looks at the parts of a collection. -/
def lookInside (t : Typing) (node : Nat) : Except Error Typing :=
  match t.given? node, t.graph[node]? with
  | some (.collection .list), some ⟨_, .sequence items⟩ => t.lookAll items
  | some (.collection .mapping), some ⟨_, .mapping _⟩
  | some (.collection .set), some ⟨_, .mapping _⟩ => do
    let graph ← t.graph.takeOver node [] (t.merges + 1) t.room
    { t with graph := graph }.lookEntries ((graph.entries? node).getD [])
  | some (.collection .pairs), some ⟨_, .sequence items⟩ =>
    items.foldlM (fun t item => do
      let (k, v) ← pairOf t.graph item
      t.lookAll [k, v]) t
  | _, _ => .error .malformed

/-- Looks at the parts of all waiting collections, in the order in which they were found. -/
def finish : Nat → Typing → Except Error Typing
  | 0, t => .ok t
  | fuel + 1, t =>
    match t.waiting with
    | [] => .ok t
    | node :: waiting => do
      let t ← { t with waiting := waiting }.lookInside node
      finish fuel t

/-- Looks at every node below the root; no collection waits twice. -/
def run (g : Graph) (room root : Nat) : Except Error Typing := do
  let (t, _) ← (Typing.mk g g.mergeCount room (Array.replicate g.size none) []).look root
  finish (g.size + 1) t

/-! ## Data -/

/-- Whether two nodes are the same key: one node is, and so are nodes with the same value.  What is
not a number is a value of its own each time, except for the one that is written `.nan`. -/
def isSameKey (t : Typing) (a b : Nat) : Bool :=
  a == b ||
    match t.given? a, t.given? b with
    | some .nan, some .nan => true
    | some (.value x), some (.value y) => x.sameKey y
    | _, _ => false

/-- Gives a key its value: in its place if the key is known, else at the end. -/
def insert (t : Typing) (key value : Nat) : List (Nat × Nat) → List (Nat × Nat)
  | [] => [(key, value)]
  | (k, v) :: rest =>
    if t.isSameKey k key then (k, value) :: rest else (k, v) :: t.insert key value rest

/-- The entries of a mapping with repeated keys resolved. -/
def entries (t : Typing) (node : Nat) : List (Nat × Nat) :=
  ((t.graph.entries? node).getD []).foldl (fun m (k, v) => t.insert k v m) []

/-- The data below a node down to a depth, below which collections are shown empty. -/
def datum (t : Typing) : Nat → Nat → Datum
  | 0, node =>
    match t.given? node with
    | some (.value d) => d
    | some .nan => .float .nan
    | some (.collection .mapping) => .mapping []
    | some (.collection .set) => .set []
    | _ => .list []
  | depth + 1, node =>
    match t.given? node, t.graph[node]? with
    | some (.value d), _ => d
    | some .nan, _ => .float .nan
    | some (.collection .list), some ⟨_, .sequence items⟩ => .list (items.map (datum t depth))
    | some (.collection .pairs), some ⟨_, .sequence items⟩ =>
      .list (items.map fun item =>
        match pairOf t.graph item with
        | .ok (k, v) => .pair (datum t depth k) (datum t depth v)
        | .error _ => .null)
    | some (.collection .set), some _ => .set ((t.entries node).map fun (k, _) => datum t depth k)
    | some (.collection _), some _ =>
      .mapping ((t.entries node).map fun (k, v) => (datum t depth k, datum t depth v))
    | _, _ => .null

end Typing

/-- The data of a text down to a depth, read with room for so many levels. -/
def readTyped (depth room : Nat) (supply : Supply) : Except Error Datum := do
  match ← Graph.read room supply with
  | none => .ok .null
  | some (g, root) =>
    let t ← Typing.run g room root
    .ok (t.datum depth root)

end Yaml
end JumpLint

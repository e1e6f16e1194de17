import JumpLint.Tree.Walk
import JumpLint.Validation

/-!
# Tree dumps

A parser of the source language writes the tree that it found as structured data: a mapping with
`filename` and `children`, where each child has a `kind` and either the `content` of a token,
perhaps with `line` and `column`, or `children` of its own.

## What is here

* `Dump.Node`, `Dump`: the data as a record, whatever the kinds.
* `Dump.ofDatum`: checks the shape of the data.
* `Dump.Fault`, `Dump.Error`: why a dump is no tree, and where; `Error.message`.
* `Dump.Node.toElement`, `Dump.toDocument`: the tree.  Of several faults the first one in the order
  of the tree is reported.
* `Document.ofDump`: both steps.
* `Document.toDatum`: a document written as a dump.
-/

set_option autoImplicit false
namespace JumpLint
namespace Dump

/-- A child in a dump. -/
inductive Node where
  | mk (kind : Text) (content : Option Text) (line column : Option Int) (children : List Node)
deriving Repr

/-- Children below this depth are not looked at. -/
def maxDepth : Nat := 255

/-- Checks a child.  `depth` is how much deeper children may be. -/
def Node.ofDatum : Nat → Datum → Checked Node
  | 0, _ => .fail .tooDeep
  | depth + 1, d => do
    let fields ← d.asRecord "NodeSpec"
    Checked.ap
      (Checked.ap
        (Checked.ap
          (Checked.ap
            ((required "kind" Datum.asText fields).map Node.mk)
            (optional "content" none (Datum.nullable Datum.asText) fields))
          (optional "line" none (Datum.nullable Datum.asInteger) fields))
        (optional "column" none (Datum.nullable Datum.asInteger) fields))
      (optional "children" [] (Datum.asList (Node.ofDatum depth)) fields)

end Dump

/-- The data of a tree dump. -/
structure Dump where
  filename : Option Text
  children : List Dump.Node
deriving Repr

namespace Dump

/-- Checks the shape of a dump; fields that it does not know are passed over. -/
def ofDatum (d : Datum) : Checked Dump := do
  let fields ← d.asRecord "DocumentSpec"
  Checked.ap
    ((optional "filename" none (Datum.nullable Datum.asText) fields).map Dump.mk)
    (optional "children" [] (Datum.asList (Node.ofDatum (maxDepth - 1))) fields)

/-! ## Kinds -/

/-- Why a child is no element. -/
inductive Fault where
  | unknownKind (kind : Text)
  | innerDocument
  | tokenWithoutContent (kind : TokenKind)
  | tokenWithChildren (kind : TokenKind)
  | nodeWithContent (kind : NodeKind)
deriving Repr, DecidableEq

/-- The sentence for a fault. -/
def Fault.message : Fault → String
  | .unknownKind kind => "unknown element kind: " ++ Text.quoted kind
  | .innerDocument => "Document may only appear at the root"
  | .tokenWithoutContent kind => kind.name ++ " token needs content"
  | .tokenWithChildren kind => kind.name ++ " token cannot have children"
  | .nodeWithContent kind => kind.name ++ " node cannot have content"

/-- The way to a child, by child numbers, as messages write it. -/
def wayText (address : Address) : String :=
  ".".intercalate (address.map fun i => "children[" ++ toString i ++ "]")

/-- What is wrong with a child by itself: the kind, or what stands beside it. -/
def Node.fault? : Node → Option Fault
  | .mk kind content _ _ children =>
    match Kind.ofName? kind with
    | none => some (.unknownKind kind)
    | some (.node .document) => some .innerDocument
    | some (.token kind) =>
      if content.isNone then some (.tokenWithoutContent kind)
      else if !children.isEmpty then some (.tokenWithChildren kind)
      else none
    | some (.node kind) => if content.isSome then some (.nodeWithContent kind) else none

mutual

/-- The element that a child stands for, or the first fault with its way. -/
def Node.toElement (address : Address) : Node → Except (Address × Fault) Element
  | .mk kind content line column children =>
    match Node.fault? (.mk kind content line column children) with
    | some f => .error (address, f)
    | none =>
      match Kind.ofName? kind with
      | some (.token tokenKind) => .ok (.token tokenKind (content.getD []) ⟨line, column⟩)
      | some (.node nodeKind) => (Node.toElements address 0 children).map (.node nodeKind)
      | _ => .error (address, .unknownKind kind)

/-- The elements that children in a row stand for, the first of which is child number `i`. -/
def Node.toElements (address : Address) (i : Nat) :
    List Node → Except (Address × Fault) (List Element)
  | [] => .ok []
  | n :: more =>
    match Node.toElement (address ++ [i]) n with
    | .error e => .error e
    | .ok element => (Node.toElements address (i + 1) more).map (element :: ·)

end

/-- Why data is no dump of a tree. -/
inductive Error where
  | invalid (issues : List Issue)
  | fault (address : Address) (fault : Fault)
deriving Repr, DecidableEq

/-- The text of an error.  Issues of the shape are listed beside it. -/
def Error.message : Error → String
  | .invalid _ => "invalid tree dump: <validation>"
  | .fault address f => wayText address ++ ": " ++ f.message

/-- The issues of an error. -/
def Error.issues : Error → List Issue
  | .invalid issues => issues
  | .fault _ _ => []

/-- The document of a dump.  Without a name in the dump it has the name that is given. -/
def toDocument (dump : Dump) (filename : Option Text) : Except Error Document :=
  match Node.toElements [] 0 dump.children with
  | .error (address, fault) => .error (.fault address fault)
  | .ok children =>
    let own := dump.filename.filter fun name => !name.isEmpty
    .ok ⟨own <|> filename, children⟩

end Dump

/-- The document that data describes. -/
def Document.ofDump (d : Datum) (filename : Option Text) : Except Dump.Error Document :=
  match Dump.ofDatum d with
  | .error issues => .error (.invalid issues)
  | .ok dump => dump.toDocument filename

/-! ## Writing dumps -/

/-- A whole number, or null. -/
def Datum.ofInt? : Option Int → Datum
  | some n => .int n
  | none => .null

/-- An entry of a mapping, by its name. -/
def Datum.entry (name : String) (value : Datum) : Datum × Datum := (.text (.ofString name), value)

mutual

/-- An element as a child of a dump. -/
def Element.toDatum : Element → Datum
  | .token kind text location =>
    .mapping
      [Datum.entry "kind" (.text (.ofString kind.name)), Datum.entry "content" (.text text),
        Datum.entry "line" (.ofInt? location.line), Datum.entry "column" (.ofInt? location.column)]
  | .node kind children =>
    .mapping
      [Datum.entry "kind" (.text (.ofString kind.name)),
        Datum.entry "children" (.list (Element.toData children))]

/-- Elements in a row as children of a dump. -/
def Element.toData : List Element → List Datum
  | [] => []
  | e :: more => e.toDatum :: Element.toData more

end

/-- A document as a dump. -/
def Document.toDatum (d : Document) : Datum :=
  .mapping
    [Datum.entry "filename" ((d.filename.map Datum.text).getD .null),
      Datum.entry "children" (.list (Element.toData d.children))]

end JumpLint

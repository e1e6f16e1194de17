import JumpLint.Critic

/-!
# Trees built by hand

On a workbench elements are made one by one and put together afterwards.  Each element has a number;
an element has at most one owner, and knows it.  A tree that is put together in this way may be
looked at from any of its elements, so the questions about trees are answered here from the links
alone.

## What is here

* `Class`: what elements can be made of, the kinds and four classes of kinds; `Class.covers` tells
  which elements belong to a class.
* `Cell`, `Workbench`: the elements with their links.
* `Workbench.add`, `Workbench.make`: putting a child into a node, and making an element with its
  children.  When a child has an owner already, making the element fails; the children before it
  then belong to an element without a name.
* `content`, `shown`, `ancestors`, `top`, `elements`, `find`, `location`: questions about elements.
* `labels`, `target?`, `enters`, `findings`, `critique`: the goto rule.

Walks along the links take as fuel the number of elements; without cycles that is always enough.
-/

set_option autoImplicit false
namespace JumpLint

/-- What an element can be made of. -/
inductive Class where
  | element
  | token
  | node
  | bracketed
  | kind (kind : Kind)
deriving Repr, DecidableEq

namespace Class

/-- The name of a class. -/
def name : Class → String
  | .element => "Element"
  | .token => "Token"
  | .node => "Node"
  | .bracketed => "Structure"
  | .kind k => k.name

/-- The class with a name. -/
def ofName? (name : String) : Option Class :=
  ([.element, .token, .node, .bracketed] ++ Kind.all.map Class.kind : List Class).find?
    (·.name == name)

/-- Whether elements of a class are tokens. -/
def isToken : Class → Bool
  | .token | .kind (.token _) => true
  | _ => false

/-- Whether elements of a class have children. -/
def isNode : Class → Bool
  | .node | .bracketed | .kind (.node _) => true
  | _ => false

/-- Whether the elements of the second class belong to the first. -/
def covers : Class → Class → Bool
  | .element, _ => true
  | .token, c => c.isToken
  | .node, c => c.isNode
  | .bracketed, .bracketed => true
  | .bracketed, .kind (.node k) => k.isBracketed
  | .kind (.node .statement), .kind (.node k) => k.isStatement
  | .kind a, .kind b => a == b
  | _, _ => false

/-- Whether elements of a class mean something to the program. -/
def isSignificant : Class → Bool
  | .kind (.token k) => k.isSignificant
  | _ => true

/-- The brackets of elements of a class. -/
def brackets : Class → String × String
  | .kind (.node k) => (k.opening, k.closing)
  | _ => ("", "")

end Class

/-- An element on the workbench.  One without a name was never finished. -/
structure Cell where
  name : Option String
  cls : Class
  text : Text
  location : Location
  filename : Option Text
  parent : Option Nat
  children : List Nat
deriving Repr, DecidableEq

/-- The elements by number. -/
structure Workbench where
  cells : List Cell
deriving Repr, DecidableEq

/-- Why a question has no answer. -/
inductive WorkbenchError where
  | noContent
  | alreadyOwned (child owner : String)
  | noMember (cls : Class) (member : String)
  | unknownKind (name : Text)
deriving Repr, DecidableEq

/-- The text of an error. -/
def WorkbenchError.message : WorkbenchError → String
  | .noContent => ""
  | .alreadyOwned child owner => child ++ " already belongs to " ++ owner
  | .noMember cls member => "'" ++ cls.name ++ "' object has no attribute '" ++ member ++ "'"
  | .unknownKind name => "unknown element kind: " ++ Text.quoted name

namespace Workbench

/-- A workbench with nothing on it. -/
def empty : Workbench := ⟨[]⟩

/-- The number of elements, which bounds every walk along links. -/
def size (w : Workbench) : Nat := w.cells.length

/-- What an element outside the workbench would be. -/
def noCell : Cell := ⟨none, .element, [], .unknown, none, none, []⟩

/-- The element with a number. -/
def cell (w : Workbench) (n : Nat) : Cell := w.cells.getD n noCell

/-- The number of the element with a name; the latest one counts. -/
def number? (w : Workbench) (name : String) : Option Nat :=
  (w.cells.reverse.findIdx? (·.name == some name)).map fun i => w.size - 1 - i

/-- Changes an element. -/
def update (w : Workbench) (n : Nat) (f : Cell → Cell) : Workbench := ⟨w.cells.modify n f⟩

/-! ## Content -/

/-- The source text of an element; a bare element has none, and neither has what holds one.  This is
meant for links without circles, in which the way down is never longer than there are elements.  An
element on a circle has no text, and what is given for it when the fuel runs out means nothing. -/
def contentFrom (w : Workbench) : Nat → Nat → Except WorkbenchError Text
  | 0, _ => .ok []
  | fuel + 1, n =>
    let c := w.cell n
    if c.cls.isToken then .ok c.text
    else if c.cls.isNode then do
      let parts ← c.children.mapM (contentFrom w fuel)
      .ok (.ofString c.cls.brackets.1 ++ Text.join parts ++ .ofString c.cls.brackets.2)
    else .error .noContent

/-- The source text of an element that is not on a circle and holds none that is. -/
def content (w : Workbench) (n : Nat) : Except WorkbenchError Text := w.contentFrom (w.size + 1) n

/-- At most forty code points of a text. -/
def shorten (t : Text) : Text := if 40 < t.length then t.take 37 ++ .ofString "..." else t

/-- An element as messages show it. -/
def shown (w : Workbench) (n : Nat) : Except WorkbenchError String := do
  let text ← w.content n
  .ok ("<" ++ (w.cell n).cls.name ++ " " ++ Text.quoted (shorten text) ++ ">")

/-! ## Putting elements together -/

/-- Puts a child into a node, unless it has an owner. -/
def attach (w : Workbench) (owner child : Nat) : Except WorkbenchError Workbench :=
  match (w.cell child).parent with
  | some other => do
    let child ← w.shown child
    let other ← w.shown other
    .error (.alreadyOwned child other)
  | none =>
    .ok ((w.update child fun c => { c with parent := some owner }).update owner fun c =>
      { c with children := c.children ++ [child] })

/-- Puts a child into an element, which must be a node. -/
def add (w : Workbench) (owner child : Nat) : Except WorkbenchError Workbench :=
  if (w.cell owner).cls.isNode then w.attach owner child
  else .error (.noMember (w.cell owner).cls "add")

/-- Puts children into a node until one of them has an owner. -/
def attachAll (w : Workbench) (owner : Nat) : List Nat → Workbench × Option WorkbenchError
  | [] => (w, none)
  | child :: rest =>
    match w.attach owner child with
    | .ok w => w.attachAll owner rest
    | .error e => (w, some e)

/-- Makes an element with its children.  It gets its name when all children are in it. -/
def make (w : Workbench) (cell : Cell) (children : List Nat) :
    Workbench × Option WorkbenchError :=
  let bare := { cell with name := none, filename := none, parent := none, children := [] }
  let n := w.size
  let w : Workbench := ⟨w.cells ++ [bare]⟩
  let (w, error) := if cell.cls.isNode then w.attachAll n children else (w, none)
  match error with
  | some e => (w, some e)
  | none =>
    (w.update n fun c => { c with name := cell.name, filename := cell.filename }, none)

/-! ## Walking -/

/-- The nodes around an element, innermost first. -/
def ancestorsFrom (w : Workbench) : Nat → Nat → List Nat
  | 0, _ => []
  | fuel + 1, n =>
    match (w.cell n).parent with
    | some owner => owner :: ancestorsFrom w fuel owner
    | none => []

/-- The nodes around an element, innermost first. -/
def ancestors (w : Workbench) (n : Nat) : List Nat := w.ancestorsFrom (w.size + 1) n

/-- The root of the tree that holds an element. -/
def top (w : Workbench) (n : Nat) : Nat := (w.ancestors n).getLastD n

/-- All elements below those of a stack, and these, each before those below it. -/
def walkFrom (w : Workbench) : Nat → List Nat → List Nat
  | 0, _ => []
  | _, [] => []
  | fuel + 1, n :: rest => n :: walkFrom w fuel ((w.cell n).children ++ rest)

/-- The number of an element that has a member which only nodes have. -/
def needNode (w : Workbench) (n : Nat) (member : String) : Except WorkbenchError Unit :=
  if (w.cell n).cls.isNode then .ok () else .error (.noMember (w.cell n).cls member)

/-- The children of a node. -/
def children (w : Workbench) (n : Nat) : Except WorkbenchError (List Nat) := do
  w.needNode n "children"
  .ok (w.cell n).children

/-- The children of a node that mean something to the program. -/
def significantChildren (w : Workbench) (n : Nat) : Except WorkbenchError (List Nat) := do
  w.needNode n "schildren"
  .ok ((w.cell n).children.filter fun c => (w.cell c).cls.isSignificant)

/-- All elements below an element, each before those below it. -/
def below (w : Workbench) (n : Nat) : List Nat := w.walkFrom (w.size + 1) (w.cell n).children

/-- All elements below a node. -/
def elements (w : Workbench) (n : Nat) : Except WorkbenchError (List Nat) := do
  w.needNode n "elements"
  .ok (w.below n)

/-- The elements of a class below a node. -/
def find (w : Workbench) (n : Nat) (cls : Class) : Except WorkbenchError (List Nat) := do
  w.needNode n "find"
  .ok ((w.below n).filter fun m => cls.covers (w.cell m).cls)

/-- The elements of a kind below a node, by the name of the kind. -/
def findKind (w : Workbench) (n : Nat) (name : Text) : Except WorkbenchError (List Nat) := do
  w.needNode n "find"
  match Kind.ofName? name with
  | some kind => w.find n (.kind kind)
  | none => .error (.unknownKind name)

/-- The location of an element: that of the first token in it. -/
def location (w : Workbench) (n : Nat) : Location :=
  let c := w.cell n
  if c.cls.isToken then c.location
  else
    match (w.below n).find? fun m => (w.cell m).cls.isToken with
    | some m => (w.cell m).location
    | none => .unknown

/-! ## The goto rule -/

/-- The scopes around an element: the blocks, innermost first, and the root. -/
def scopes (w : Workbench) (n : Nat) : List Nat :=
  ((w.ancestors n).filter fun m => (w.cell m).cls == .kind (.node .block)) ++ [w.top n]

/-- The innermost scope around an element. -/
def scope (w : Workbench) (n : Nat) : Nat := (w.scopes n).headD n

/-- An element by itself, as far as the goto rule looks at it: tokens of no kind mean no more than
symbols, and nodes no more than statements. -/
def alone (w : Workbench) (n : Nat) : Element :=
  let c := w.cell n
  match c.cls with
  | .kind (.token kind) => .token kind c.text c.location
  | .token => .token .symbol c.text c.location
  | _ => .node .statement []

/-- The label, with its colon, that an element jumps to. -/
def target? (w : Workbench) (n : Nat) : Option Text := targetOf? ((w.cell n).children.map w.alone)

/-- The labels below a node, with the scopes of their definitions. -/
def labels (w : Workbench) (n : Nat) : Except WorkbenchError (LabelTable Nat) := do
  let found ← w.find n (.kind (.token .label))
  .ok (.ofLabels (found.map fun m => ((w.cell m).text, w.scope m)))

/-- Whether an element enters a block, by the labels below a node. -/
def enters (w : Workbench) (n root : Nat) : Except WorkbenchError Bool := do
  let labels ← w.labels root
  .ok (labels.isEntered (w.target? n) (w.scopes n))

/-- The break statements below a node that enter a block. -/
def findings (w : Workbench) (n : Nat) : Except WorkbenchError (List Nat) := do
  let labels ← w.labels n
  if labels.isEmpty then .ok []
  else
    let found ← w.find n (.kind (.node .breakStatement))
    .ok (found.filter fun m => labels.isEntered (w.target? m) (w.scopes m))

/-- The name of the file that an element is from: that of the document at the top of its tree, which
must be finished. -/
def filename (w : Workbench) (n : Nat) : Except WorkbenchError (Option Text) :=
  let root := w.cell (w.top n)
  if root.cls != .kind (.node .document) then .ok none
  else if root.name.isNone then .error (.noMember root.cls "filename")
  else .ok root.filename

/-- The violations in a document, by position. -/
def critique (w : Workbench) (n : Nat) : Except WorkbenchError (List Violation) := do
  if (w.cell n).cls != .kind (.node .document) then .error (.noMember (w.cell n).cls "filename")
  else
    let policy := Policy.ofRule .gotoIntoBlock
    let found ← w.findings n
    let violations ← found.mapM fun m => do
      let filename ← w.filename m
      let source ← w.content m
      pure ({
        policy := .ofString policy.name
        description := .ofString gotoDescription
        explanation := .ofString gotoExplanation
        severity := policy.severity
        filename := filename
        line := (w.location m).line
        column := (w.location m).column
        source := source } : Violation)
    .ok (sortViolations violations)

end Workbench
end JumpLint

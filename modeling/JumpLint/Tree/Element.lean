import JumpLint.Tree.Kind

/-!
# Elements and documents

## What is here

* `Location`: line and column of a token, as far as they are known.
* `Element`: a token with its text, or a node with its children.
* `Element.text`: the source text of an element; a node's brackets stand around its children.
* `Element.isSignificant`, `significant`: elements that mean something to the program.
* `Document`: the children of the root, and the name of the file if it has one.
-/

set_option autoImplicit false
namespace JumpLint

/-- Line and column, as far as they are known. -/
structure Location where
  line : Option Int
  column : Option Int
deriving Repr, DecidableEq

/-- The location of what has none. -/
def Location.unknown : Location := ⟨none, none⟩

/-- An element of a source tree. -/
inductive Element where
  | token (kind : TokenKind) (text : Text) (location : Location)
  | node (kind : NodeKind) (children : List Element)
deriving Repr

namespace Element

/-- The kind of an element. -/
def kind : Element → Kind
  | .token kind _ _ => .token kind
  | .node kind _ => .node kind

/-- Whether an element means something to the program.  Nodes do. -/
def isSignificant : Element → Bool
  | .token kind _ _ => kind.isSignificant
  | .node _ _ => true

/-- The children of an element; a token has none. -/
def children : Element → List Element
  | .token _ _ _ => []
  | .node _ children => children

/-- Whether an element is a token. -/
def isToken : Element → Bool
  | .token _ _ _ => true
  | .node _ _ => false

/-- Whether an element is a block, that is, a lexical scope. -/
def isBlock : Element → Bool
  | .node .block _ => true
  | _ => false

/-- Whether an element is a break statement. -/
def isBreak : Element → Bool
  | .node .breakStatement _ => true
  | _ => false

mutual

/-- The source text of an element. -/
def text : Element → Text
  | .token _ text _ => text
  | .node kind children =>
    .ofString kind.opening ++ textOfAll children ++ .ofString kind.closing

/-- The source text of elements in a row. -/
def textOfAll : List Element → Text
  | [] => []
  | e :: more => e.text ++ textOfAll more

end

mutual

/-- The number of elements in a tree. -/
def size : Element → Nat
  | .token _ _ _ => 1
  | .node _ children => sizeOfAll children + 1

/-- The number of elements in a row of trees. -/
def sizeOfAll : List Element → Nat
  | [] => 0
  | e :: more => e.size + sizeOfAll more

end

/-- A tree has at least one element. -/
theorem size_pos (e : Element) : 0 < e.size := by
  cases e <;> simp [size]

end Element

/-- The elements of a row that mean something to the program. -/
def significant (elements : List Element) : List Element := elements.filter Element.isSignificant

/-- The source of one file.  The root is a scope around all others. -/
structure Document where
  filename : Option Text
  children : List Element
deriving Repr

/-- The source text of a document. -/
def Document.text (d : Document) : Text := Element.textOfAll d.children

/-- The name of a document in messages. -/
def Document.shownName (d : Document) : Text :=
  match d.filename with
  | some name => if name.isEmpty then .ofString "<document>" else name
  | none => .ofString "<document>"

end JumpLint

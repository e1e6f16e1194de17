import JumpLint.Text.CodePoint

/-!
# Kinds of elements

Source code is a tree.  Its leaves are *tokens* with the literal text, its inner elements are
*nodes*: statements, and bracketed structures whose brackets are part of the node.  The whole source
is a *document*, a node of its own kind.

## What is here

* `TokenKind`, `NodeKind`, `Kind`: the kinds, with their names.
* `TokenKind.isSignificant`: white space, comments and documentation are not significant.
* `NodeKind.opening`, `NodeKind.closing`: the brackets of a node.
* `Kind.ofName?`: the kind with a name.
-/

set_option autoImplicit false
namespace JumpLint

/-- The kinds of leaves. -/
inductive TokenKind where
  | whitespace
  | comment
  | pod
  | word
  | label
  | symbol
  | cast
  | operator
  | number
  | quote
  | punctuation
deriving Repr, DecidableEq

namespace TokenKind

/-- The name of a kind. -/
def name : TokenKind → String
  | .whitespace => "Whitespace"
  | .comment => "Comment"
  | .pod => "Pod"
  | .word => "Word"
  | .label => "Label"
  | .symbol => "Symbol"
  | .cast => "Cast"
  | .operator => "Operator"
  | .number => "Number"
  | .quote => "Quote"
  | .punctuation => "Punctuation"

/-- All kinds of leaves. -/
def all : List TokenKind :=
  [.whitespace, .comment, .pod, .word, .label, .symbol, .cast, .operator, .number, .quote,
    .punctuation]

/-- Whether tokens of a kind mean anything to the program. -/
def isSignificant : TokenKind → Bool
  | .whitespace | .comment | .pod => false
  | _ => true

end TokenKind

/-- The kinds of inner elements, the root among them.  A break statement is a jump such as `goto`,
`last` or `return`; a block is a lexical scope. -/
inductive NodeKind where
  | document
  | statement
  | breakStatement
  | compoundStatement
  | subStatement
  | includeStatement
  | variableStatement
  | block
  | constructor
  | listStructure
  | condition
  | subscript
deriving Repr, DecidableEq

namespace NodeKind

/-- The name of a kind. -/
def name : NodeKind → String
  | .document => "Document"
  | .statement => "Statement"
  | .breakStatement => "BreakStatement"
  | .compoundStatement => "CompoundStatement"
  | .subStatement => "SubStatement"
  | .includeStatement => "IncludeStatement"
  | .variableStatement => "VariableStatement"
  | .block => "Block"
  | .constructor => "Constructor"
  | .listStructure => "ListStructure"
  | .condition => "Condition"
  | .subscript => "Subscript"

/-- All kinds of inner elements. -/
def all : List NodeKind :=
  [.document, .statement, .breakStatement, .compoundStatement, .subStatement, .includeStatement,
    .variableStatement, .block, .constructor, .listStructure, .condition, .subscript]

/-- Whether a kind is one of statements. -/
def isStatement : NodeKind → Bool
  | .statement | .breakStatement | .compoundStatement | .subStatement | .includeStatement
  | .variableStatement => true
  | _ => false

/-- Whether a kind is one of bracketed structures. -/
def isBracketed : NodeKind → Bool
  | .block | .constructor | .listStructure | .condition | .subscript => true
  | _ => false

/-- The bracket in front of the children. -/
def opening : NodeKind → String
  | .block | .constructor => "\x7b"
  | .listStructure | .condition => "("
  | .subscript => "["
  | _ => ""

/-- The bracket behind the children. -/
def closing : NodeKind → String
  | .block | .constructor => "\x7d"
  | .listStructure | .condition => ")"
  | .subscript => "]"
  | _ => ""

end NodeKind

/-- The kinds of elements. -/
inductive Kind where
  | token (kind : TokenKind)
  | node (kind : NodeKind)
deriving Repr, DecidableEq

namespace Kind

/-- The name of a kind. -/
def name : Kind → String
  | .token kind => kind.name
  | .node kind => kind.name

/-- All kinds. -/
def all : List Kind := TokenKind.all.map .token ++ NodeKind.all.map .node

/-- The kind with a name. -/
def ofName? (name : Text) : Option Kind := all.find? fun kind => name == .ofString kind.name

/-- No two kinds share a name, and no kind is missing from the list. -/
theorem ofName?_name (kind : Kind) : ofName? (.ofString kind.name) = some kind := by
  rcases kind with k | k <;> cases k <;> decide +kernel

end Kind
end JumpLint

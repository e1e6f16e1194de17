import JumpLint.Goto.LabelTable
import JumpLint.Tree.Walk

/-!
# Jumps into blocks

A `goto` with a label may leave the blocks around it, but not enter one.  The first two significant
children of the statement are the word `goto` and the word that names the label; a jump to a symbol
or to the value of an expression is not looked at.  A jump is at fault when its label is defined and
every definition stands in a block that is not around the jump.

## What is here

* `gotoTarget?`: the label that a statement jumps to, with its colon.
* `Document.labels`: the label table of a document, empty when there are no labels.
* `Site.enters`: whether a jump enters a block, by a label table.
* `Document.findings`: the break statements of a document that enter a block.
-/

set_option autoImplicit false
namespace JumpLint

/-- The word that a jump with a label begins with. -/
def gotoWord : Text := .ofString "goto"

/-- What stands behind the name of a label where it is defined. -/
def labelEnd : Text := .ofString ":"

/-- The text of a word. -/
def Element.word? : Element → Option Text
  | .token .word text _ => some text
  | _ => none

/-- The label, with its colon, that elements in a row jump to when they are a statement. -/
def targetOf? (children : List Element) : Option Text :=
  match significant children with
  | keyword :: target :: _ =>
    if keyword.word? == some gotoWord then target.word?.map (· ++ labelEnd) else none
  | _ => none

/-- The label, with its colon, that an element jumps to. -/
def gotoTarget? (e : Element) : Option Text := targetOf? e.children

/-- The text of a label's definition. -/
def Element.label? : Element → Option Text
  | .token .label text _ => some text
  | _ => none

/-- A label's definition with the innermost scope around it. -/
def Site.definition? (s : Site) : Option (Text × Address) :=
  s.element.label?.map fun label => (label, s.scope)

/-- The label table of a document. -/
def Document.labels (d : Document) : LabelTable Address :=
  .ofLabels (d.sites.filterMap Site.definition?)

/-- Whether a site is a jump that enters a block. -/
def Site.enters (s : Site) (labels : LabelTable Address) : Bool :=
  labels.isEntered (gotoTarget? s.element) s.scopes

/-- The break statements of a document that enter a block, in order. -/
def Document.findings (d : Document) : List Site :=
  let labels := d.labels
  d.sites.filter fun s => s.element.isBreak && s.enters labels

end JumpLint

import JumpLint.Text.CodePoint

/-!
# The tokens of YAML

Indentation is made explicit: a block collection begins and ends with tokens of its own, and a key
is announced by `key` whether a question mark stood there or not.
-/

set_option autoImplicit false
namespace JumpLint
namespace Yaml

/-- A token.  A scalar is `plain` when it stood without quotes and not in a block of its own. -/
inductive Token where
  | streamEnd
  | version (major : Nat)
  | tagHandle (handle expansion : String)
  | otherDirective
  | documentStart
  | documentEnd
  | blockSequenceStart
  | blockMappingStart
  | blockEnd
  | flowSequenceStart
  | flowSequenceEnd
  | flowMappingStart
  | flowMappingEnd
  | blockEntry
  | flowEntry
  | key
  | value
  | alias (name : String)
  | anchor (name : String)
  | tag (handle : Option String) (suffix : String)
  | scalar (text : Text) (plain : Bool)
deriving Repr, DecidableEq

end Yaml
end JumpLint

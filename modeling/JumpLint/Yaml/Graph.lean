import JumpLint.Yaml.Lexer

/-!
# The graph of a YAML document

A document is a graph of nodes: a node that carries an anchor may be used again through aliases,
even inside itself.  Nodes are numbered, and collections hold the numbers of their parts.

## What is here

* `Tag`, `Content`, `Node`, `Graph`: the graph.
* `Grammar`: reading tokens into a growing graph, with the anchors and tag handles known so far;
  `Grammar.inside` is what is read inside a collection, which takes room.
* `Graph.read`: the graph of a text and its root; none for a text without a document.
-/

set_option autoImplicit false
namespace JumpLint
namespace Yaml

/-- How the type of a node is given: by its form, by its quotes as text, or by name. -/
inductive Tag where
  | byForm
  | quoted
  | named (name : String)
deriving Repr, DecidableEq

/-- What a node holds. -/
inductive Content where
  | scalar (text : Text)
  | sequence (items : List Nat)
  | mapping (entries : List (Nat × Nat))
deriving Repr, DecidableEq

/-- A node of the graph. -/
structure Node where
  tag : Tag
  content : Content
deriving Repr, DecidableEq

/-- The nodes of a document by number. -/
abbrev Graph := Array Node

/-! ## Reading tokens -/

/-- What is left to read and what has been read.  `onEnd` is the error when no tokens are left. -/
structure Composing where
  tokens : List Token
  onEnd : Error
  graph : Graph
  anchors : List (String × Nat)
  handles : List (String × String)

/-- A step of reading. -/
abbrev Grammar (α : Type) := StateT Composing (Except Error) α

namespace Grammar

/-- A failure of the grammar. -/
def fail {α : Type} : Grammar α := throw .malformed

/-- The next token. -/
def next : Grammar Token := do
  let s ← get
  match s.tokens with
  | t :: _ => pure t
  | [] => throw s.onEnd

/-- Passes over the next token. -/
def skip : Grammar Unit := modify fun s => { s with tokens := s.tokens.tail }

/-- Adds a node. -/
def add (node : Node) : Grammar Nat :=
  modifyGet fun s => (s.graph.size, { s with graph := s.graph.push node })

/-- Adds an empty scalar. -/
def addEmpty : Grammar Nat := add ⟨.byForm, .scalar []⟩

/-- Names a node. -/
def addAnchor (anchor : Option String) (node : Nat) : Grammar Unit :=
  match anchor with
  | some name => modify fun s => { s with anchors := (name, node) :: s.anchors }
  | none => pure ()

/-- Adds a node, names it, and then gives it the content that is read; so the content may hold the
node itself. -/
def addAround (anchor : Option String) (tag : Tag) (content : Grammar Content) : Grammar Nat := do
  let node ← add ⟨tag, .sequence []⟩
  addAnchor anchor node
  let content ← content
  modify fun s => { s with graph := s.graph.setIfInBounds node ⟨tag, content⟩ }
  pure node

/-- What is read inside a collection, with one level less of room. -/
def inside {α : Type} (room : Nat) (read : Nat → Grammar α) : Grammar α :=
  match room with
  | 0 => throw .tooDeep
  | room + 1 => read room

/-- The full name of a tag. -/
def tagName (handle : Option String) (suffix : String) : Grammar String := do
  match handle with
  | none => pure suffix
  | some h =>
    match (← get).handles.lookup h with
    | some expansion => pure (expansion ++ suffix)
    | none => fail

/-- The anchor and the tag in front of a node, in either order. -/
def properties : Grammar (Option String × Option String) := do
  match ← next with
  | .anchor name =>
    skip
    match ← next with
    | .tag handle suffix => skip; pure (some name, some (← tagName handle suffix))
    | _ => pure (some name, none)
  | .tag handle suffix =>
    skip
    match ← next with
    | .anchor name => skip; pure (some name, some (← tagName handle suffix))
    | _ => pure (none, some (← tagName handle suffix))
  | _ => pure (none, none)

/-- The tag of a node that names `name`; an exclamation mark alone leaves it to the form. -/
def tagOf (name : Option String) : Tag :=
  match name with
  | none => .byForm
  | some name => if name == "!" then .byForm else .named name

/-- Whether a token ends an item of a block sequence that is empty. -/
def endsItem : Token → Bool
  | .blockEntry | .blockEnd => true
  | _ => false

/-- Whether a token ends a key or value of a block mapping that is empty. -/
def endsBlockPart : Token → Bool
  | .key | .value | .blockEnd => true
  | _ => false

/-- Whether a token ends a key or value between brackets that is empty. -/
def endsFlowPart (close : Token) (t : Token) : Bool := t == .flowEntry || t == close

/-- Whether a token ends a key between brackets that is empty. -/
def endsFlowKey (close : Token) (t : Token) : Bool := t == .value || endsFlowPart close t

/-- A node, or an empty scalar if the next token ends what is read. -/
def orEmpty (ends : Token → Bool) (node : Grammar Nat) : Grammar Nat := do
  if ends (← next) then addEmpty else node

/-- The value of an entry.  Without its mark it is empty. -/
def value (ends : Token → Bool) (node : Grammar Nat) : Grammar Nat := do
  match ← next with
  | .value => skip; orEmpty ends node
  | _ => addEmpty

/-- What stands in front of all but the first item between brackets. -/
def comma (isFirst : Bool) : Grammar Unit := do
  if !isFirst then
    if (← next) == .flowEntry then skip else fail

mutual

/-- A node.  In a block it may be a block collection; as part of a mapping it may be a sequence that
is not indented further.  The fuel bounds the number of nodes and of items, the room how many
collections are inside each other. -/
def node : Nat → Nat → Bool → Bool → Grammar Nat
  | 0, _, _, _ => fail
  | fuel + 1, room, inBlock, inMapping => do
    match ← next with
    | .alias name =>
      skip
      match (← get).anchors.lookup name with
      | some target => pure target
      | none => fail
    | _ =>
      let (anchor, name) ← properties
      let known := (← get).anchors
      if anchor.any fun a => (known.lookup a).isSome then fail
      else
        let tag := tagOf name
        match ← next, inBlock, inMapping with
        | .scalar text plain, _, _ =>
          skip
          let tag := if !plain && name.isNone then .quoted else tag
          let n ← add ⟨tag, .scalar text⟩
          addAnchor anchor n
          pure n
        | .flowSequenceStart, _, _ =>
          skip
          addAround anchor tag (inside room fun room => .sequence <$> flowItems fuel room true)
        | .flowMappingStart, _, _ =>
          skip
          addAround anchor tag (inside room fun room => .mapping <$> flowEntries fuel room true)
        | .blockEntry, _, true =>
          addAround anchor tag (inside room fun room => .sequence <$> openItems fuel room)
        | .blockSequenceStart, true, _ =>
          skip
          addAround anchor tag (inside room fun room => .sequence <$> blockItems fuel room)
        | .blockMappingStart, true, _ =>
          skip
          addAround anchor tag (inside room fun room => .mapping <$> blockEntries fuel room)
        | _, _, _ =>
          if anchor.isSome || name.isSome then
            let n ← add ⟨tag, .scalar []⟩
            addAnchor anchor n
            pure n
          else fail

/-- The items of a block sequence, and its end. -/
def blockItems : Nat → Nat → Grammar (List Nat)
  | 0, _ => fail
  | fuel + 1, room => do
    match ← next with
    | .blockEntry =>
      skip
      let item ← orEmpty endsItem (node fuel room true false)
      let more ← blockItems fuel room
      pure (item :: more)
    | .blockEnd => skip; pure []
    | _ => fail

/-- The items of a sequence that is not indented further than the mapping around it. -/
def openItems : Nat → Nat → Grammar (List Nat)
  | 0, _ => fail
  | fuel + 1, room => do
    match ← next with
    | .blockEntry =>
      skip
      let item ← orEmpty (fun t => endsItem t || endsBlockPart t) (node fuel room true false)
      let more ← openItems fuel room
      pure (item :: more)
    | _ => pure []

/-- The entries of a block mapping, and its end. -/
def blockEntries : Nat → Nat → Grammar (List (Nat × Nat))
  | 0, _ => fail
  | fuel + 1, room => do
    match ← next with
    | .key =>
      skip
      let key ← orEmpty endsBlockPart (node fuel room true true)
      let value ← value endsBlockPart (node fuel room true true)
      let more ← blockEntries fuel room
      pure ((key, value) :: more)
    | .blockEnd => skip; pure []
    | _ => fail

/-- The items of a sequence in brackets, and its end.  An item that is a key with a value is a
mapping of one entry. -/
def flowItems : Nat → Nat → Bool → Grammar (List Nat)
  | 0, _, _ => fail
  | fuel + 1, room, isFirst => do
    if (← next) == .flowSequenceEnd then skip; pure []
    else
      comma isFirst
      match ← next with
      | .flowSequenceEnd => skip; pure []
      | .key =>
        skip
        let item ← addAround none .byForm (inside room fun room => do
          let key ← orEmpty (endsFlowKey .flowSequenceEnd) (node fuel room false false)
          let value ← value (endsFlowPart .flowSequenceEnd) (node fuel room false false)
          pure (.mapping [(key, value)]))
        let more ← flowItems fuel room false
        pure (item :: more)
      | _ =>
        let item ← node fuel room false false
        let more ← flowItems fuel room false
        pure (item :: more)

/-- The entries of a mapping in braces, and its end.  A node without a key mark is a key without a
value. -/
def flowEntries : Nat → Nat → Bool → Grammar (List (Nat × Nat))
  | 0, _, _ => fail
  | fuel + 1, room, isFirst => do
    if (← next) == .flowMappingEnd then skip; pure []
    else
      comma isFirst
      match ← next with
      | .flowMappingEnd => skip; pure []
      | .key =>
        skip
        let key ← orEmpty (endsFlowKey .flowMappingEnd) (node fuel room false false)
        let value ← value (endsFlowPart .flowMappingEnd) (node fuel room false false)
        let more ← flowEntries fuel room false
        pure ((key, value) :: more)
      | _ =>
        let key ← node fuel room false false
        let value ← addEmpty
        let more ← flowEntries fuel room false
        pure ((key, value) :: more)

end

/-! ## Documents -/

/-- The handles that every document knows. -/
def commonHandles : List (String × String) := [("!", "!"), ("!!", "tag:yaml.org,2002:")]

/-- The directives in front of a document, and its start mark: the handles that they define. -/
def directives : Nat → Bool → List (String × String) → Grammar (List (String × String))
  | 0, _, _ => fail
  | fuel + 1, hasVersion, handles => do
    match ← next with
    | .version major =>
      skip
      if hasVersion || major != 1 then fail else directives fuel true handles
    | .tagHandle handle expansion =>
      skip
      if (handles.lookup handle).isSome then fail
      else directives fuel hasVersion ((handle, expansion) :: handles)
    | .otherDirective => skip; directives fuel hasVersion handles
    | .documentStart => skip; pure handles
    | _ => fail

/-- Whether a token stands in front of a document or behind all of them. -/
def isOutside : Token → Bool
  | .version _ | .tagHandle .. | .otherDirective | .documentStart | .streamEnd => true
  | _ => false

/-- The root of the document, if there is one. -/
def document (fuel room : Nat) : Grammar (Option Nat) := do
  match ← next with
  | .streamEnd => pure none
  | t =>
    if isOutside t then
      let handles ← directives fuel false []
      modify fun s => { s with handles := handles ++ commonHandles }
      let t ← next
      if isOutside t || t == .documentEnd then some <$> addEmpty
      else some <$> node fuel room true false
    else some <$> node fuel room true false

/-- The end of the only document. -/
def ending : Nat → Grammar Unit
  | 0 => fail
  | fuel + 1 => do
    match ← next with
    | .documentEnd => skip; ending fuel
    | .streamEnd => pure ()
    | _ => fail

/-- The root of the only document, and the end behind it. -/
def whole (fuel room : Nat) : Grammar (Option Nat) := do
  let root ← document fuel room
  ending fuel
  pure root

end Grammar

/-- The graph of a text and the number of its root; none for a text without a document. -/
def Graph.read (room : Nat) (supply : Supply) : Except Error (Option (Graph × Nat)) := do
  let scan := scan supply
  let fuel := 2 * scan.tokens.length + 4
  let (root, state) ← (Grammar.whole fuel room).run
    ⟨scan.tokens, scan.error?.getD .malformed, #[], [], Grammar.commonHandles⟩
  pure (root.map fun r => (state.graph, r))

end Yaml
end JumpLint

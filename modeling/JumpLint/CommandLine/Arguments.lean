import JumpLint.Files.Path
import JumpLint.Severity

/-!
# Arguments

The command takes options that begin with two dashes, and the paths of tree dumps.  An option may be
shortened as long as it is the only one that begins like that, and its value is the next word or
follows an equals sign.  All paths stand in one row; two dashes alone say that no options follow.

## What is here

* `Flag`, `spellings`: the options.
* `Word`, `Word.ofText`: what a word is by its form.
* `ArgumentError`, `Stop`: why the arguments ask for nothing, or for help only.
* `usage`, `help`: the texts about the command.
* `Request.ofArguments`: what the arguments ask for.
-/

set_option autoImplicit false
namespace JumpLint
namespace CommandLine

/-- The options. -/
inductive Flag where
  | help
  | profile
  | severity
  | theme
  | verbose
  | statistics
  | debug
deriving Repr, DecidableEq

/-- The spellings of options, in the order in which they are listed. -/
def spellings : List (String × Flag) :=
  [("-h", .help), ("--help", .help), ("--profile", .profile), ("--severity", .severity),
    ("--theme", .theme), ("--verbose", .verbose), ("--statistics", .statistics),
    ("--debug", .debug)]

/-- All spellings of an option, as messages name it. -/
def Flag.shown (flag : Flag) : String :=
  "/".intercalate ((spellings.filter (·.2 == flag)).map (·.1))

/-- Whether an option has a value. -/
def Flag.hasValue : Flag → Bool
  | .profile | .severity | .theme | .verbose => true
  | .help | .statistics | .debug => false

/-! ## Words -/

/-- A word by its form: something to check, an option, perhaps with a value in the same word, two
dashes alone, or what looks like an option and is none. -/
inductive Word where
  | plain (text : Text)
  | option (flag : Flag) (value : Option Text) (isShort : Bool)
  | dashes
  | unknown (text : Text)
deriving Repr, DecidableEq

/-- Two dashes alone. -/
def twoDashes : Text := .ofString "--"

/-- Why arguments cannot be understood. -/
inductive ArgumentError where
  | ambiguous (word : Text) (candidates : List String)
  | noValue (flag : Flag)
  | extraValue (flag : Flag) (value : Text)
  | severity (error : SeverityError)
  | noTrees
  | unrecognized (words : List Text)
deriving Repr, DecidableEq

/-- The text of an error. -/
def ArgumentError.message : ArgumentError → Text
  | .ambiguous word candidates =>
    .ofString "ambiguous option: " ++ word ++
      .ofString (" could match " ++ ", ".intercalate candidates)
  | .noValue flag => .ofString ("argument " ++ flag.shown ++ ": expected one argument")
  | .extraValue flag value =>
    .ofString
      ("argument " ++ flag.shown ++ ": ignored explicit argument " ++ Text.quoted value)
  | .severity error => .ofString ("argument " ++ Flag.severity.shown ++ ": " ++ error.message)
  | .noTrees => .ofString "the following arguments are required: trees"
  | .unrecognized words =>
    .ofString "unrecognized arguments: " ++ (Text.ofString " ").intercalate words

/-- Whether a word is a negative number, which is not taken for an option. -/
def isNegativeNumber (t : Text) : Bool :=
  let t := match t.reverse with
    | .char '\n' :: rest => rest.reverse
    | _ => t
  let isDigit := CodePoint.isIn fun c => (Text.decimalValue? c).isSome
  match t with
  | .char '-' :: body =>
    let fraction := body.dropWhile isDigit
    match fraction with
    | [] => !body.isEmpty
    | .char '.' :: digits => !digits.isEmpty && digits.all isDigit
    | _ => false
  | _ => false

/-- A word in front of an equals sign, and what follows it. -/
def splitEquals (t : Text) : Text × Option Text :=
  match t.dropWhile (· != .char '=') with
  | [] => (t, none)
  | _ :: value => (t.takeWhile (· != .char '='), some value)

/-- The option with this spelling. -/
def flagOf? (t : Text) : Option Flag :=
  (spellings.find? fun (spelling, _) => t == .ofString spelling).map (·.2)

/-- The options that a shortened spelling may mean. -/
def candidates (start : Text) : List (String × Flag) :=
  spellings.filter fun (spelling, _) => start.isPrefixOf (Text.ofString spelling)

/-- A word that looks like an option and is not spelled out: a shortened option, a short one with
something glued to it, a number, a word with a space, or none of these. -/
def Word.ofShortened (text : Text) : Except ArgumentError Word :=
  let other : Word :=
    if isNegativeNumber text || text.contains (.char ' ') then .plain text else .unknown text
  match text with
  | .char '-' :: .char '-' :: _ =>
    let (start, value) := splitEquals text
    match candidates start with
    | [] => .ok other
    | [(_, flag)] => .ok (.option flag value false)
    | several => .error (.ambiguous text (several.map (·.1)))
  | .char '-' :: c :: rest =>
    match flagOf? [.char '-', c] with
    | some flag => .ok (.option flag (some rest) true)
    | none => .ok other
  | _ => .ok other

/-- What a word is by its form. -/
def Word.ofText (text : Text) : Except ArgumentError Word :=
  let isShort := !twoDashes.isPrefixOf text
  match text with
  | .char '-' :: _ :: _ =>
    match flagOf? text, splitEquals text with
    | some flag, _ => .ok (.option flag none isShort)
    | none, (spelling, some value) =>
      match flagOf? spelling with
      | some flag => .ok (.option flag (some value) isShort)
      | none => Word.ofShortened text
    | none, (_, none) => Word.ofShortened text
  | _ => .ok (.plain text)

/-- What words are by their form; behind two dashes alone all are plain. -/
def Word.ofTexts : List Text → Except ArgumentError (List Word)
  | [] => .ok []
  | text :: rest =>
    if text == twoDashes then .ok (.dashes :: rest.map .plain)
    else do
      let word ← Word.ofText text
      let more ← Word.ofTexts rest
      .ok (word :: more)

/-- A plain word, or two dashes, as they were written. -/
def Word.text : Word → Text
  | .plain text | .unknown text => text
  | .dashes => twoDashes
  | .option flag .. => .ofString flag.shown

/-! ## Requests -/

/-- What is asked for. -/
structure Request where
  profile : Option Path
  severity : Option Severity
  themes : Option (List Text)
  verbose : Option Text
  statistics : Bool
  debug : Bool
  trees : List Path
deriving Repr, DecidableEq

/-- The request while it is being read: whether a row of paths has been seen, and the words that
mean nothing. -/
structure Reading where
  request : Request
  hasTrees : Bool
  extras : List Text

/-- Nothing has been read. -/
def Reading.start : Reading := ⟨⟨none, none, none, none, false, false, []⟩, false, []⟩

/-- Why there is nothing to do: help is asked for, or the arguments cannot be understood. -/
inductive Stop where
  | help
  | error (error : ArgumentError)
deriving Repr, DecidableEq

/-- Ends a row of plain words: the first row with a path in it is the row of paths.  Two dashes in
it are left out once. -/
def Reading.endRow (r : Reading) (row : List Word) : Reading :=
  let isPath : Word → Bool
    | .plain _ => true
    | _ => false
  if !r.hasTrees && row.any isPath then
    let paths := (row.erase .dashes).map fun w => Path.ofText w.text
    { r with request := { r.request with trees := paths }, hasTrees := true }
  else { r with extras := r.extras ++ row.map Word.text }

/-- An option with its value. -/
def Reading.setValue (r : Reading) (flag : Flag) (value : Text) : Except Stop Reading :=
  let q := r.request
  match flag with
  | .profile => .ok { r with request := { q with profile := some (Path.ofText value) } }
  | .severity =>
    match Severity.parse value with
    | .ok severity => .ok { r with request := { q with severity := some severity } }
    | .error e => .error (.error (.severity e))
  | .theme => .ok { r with request := { q with themes := some (q.themes.getD [] ++ [value]) } }
  | .verbose => .ok { r with request := { q with verbose := some value } }
  | .help | .statistics | .debug => .error (.error (.extraValue flag value))

/-- An option without a value. -/
def Reading.set (r : Reading) (flag : Flag) : Except Stop Reading :=
  match flag with
  | .help => .error .help
  | .statistics => .ok { r with request := { r.request with statistics := true } }
  | .debug => .ok { r with request := { r.request with debug := true } }
  | flag => .error (.error (.noValue flag))

/-- What stands behind the short option for help in the same word: its own letter may be repeated,
and anything else would be a value, which help does not have. -/
def gluedHelp (rest : Text) : Stop :=
  match rest.dropWhile (· == .char 'h') with
  | [] => if rest.isEmpty then .error (.extraValue .help []) else .help
  | value => .error (.extraValue .help value)

/-- Reads words from left to right; `row` holds the plain words since the last option. -/
def Reading.read (r : Reading) (row : List Word) : List Word → Except Stop Reading
  | [] => .ok (r.endRow row)
  | .plain text :: rest => r.read (row ++ [.plain text]) rest
  | .dashes :: rest => r.read (row ++ [.dashes]) rest
  | .unknown text :: rest =>
    let r := if row.isEmpty then r else r.endRow row
    { r with extras := r.extras ++ [text] }.read [] rest
  | .option flag (some value) isShort :: rest =>
    if isShort then .error (gluedHelp value)
    else do
      let r ← (if row.isEmpty then r else r.endRow row).setValue flag value
      r.read [] rest
  | .option flag none _ :: rest =>
    let r := if row.isEmpty then r else r.endRow row
    if !flag.hasValue then do
      let r ← r.set flag
      r.read [] rest
    else
      match rest with
      | .plain value :: rest => do
        let r ← r.setValue flag value
        r.read [] rest
      | _ => .error (.error (.noValue flag))

/-- What the arguments ask for. -/
def Request.ofArguments (arguments : List Text) : Except Stop Request := do
  let words ← (Word.ofTexts arguments).mapError .error
  let r ← Reading.start.read [] words
  if !r.hasTrees then .error (.error .noTrees)
  else if !r.extras.isEmpty then .error (.error (.unrecognized r.extras))
  else .ok r.request

/-! ## Texts -/

/-- How the command is used. -/
def usage : String :=
  "usage: goto-critic [-h] [--profile PROFILE] [--severity SEVERITY]\n" ++
  "                   [--theme THEME] [--verbose VERBOSE] [--statistics]\n" ++
  "                   [--debug]\n" ++
  "                   trees [trees ...]\n"

/-- What the command does and what its options mean. -/
def help : String :=
  usage ++
  "\n" ++
  "Report Perl goto statements that jump into a block\n" ++
  "\n" ++
  "positional arguments:\n" ++
  "  trees                JSON or YAML tree dumps\n" ++
  "\n" ++
  "options:\n" ++
  "  -h, --help           show this help message and exit\n" ++
  "  --profile PROFILE    YAML profile\n" ++
  "  --severity SEVERITY  Minimum severity to report, 1-5 or\n" ++
  "                       gentle|stern|harsh|cruel|brutal\n" ++
  "  --theme THEME        Only run policies carrying this theme (repeatable)\n" ++
  "  --verbose VERBOSE    Verbosity level (1-5, 8) or a custom format such as\n" ++
  "                       '%f:%l:%m\\n'\n" ++
  "  --statistics         Print a summary\n" ++
  "  --debug\n"

/-- The text for arguments that cannot be understood. -/
def errorText (error : ArgumentError) : Text :=
  .ofString (usage ++ "goto-critic: error: ") ++ error.message ++ .ofString "\n"

end CommandLine
end JumpLint

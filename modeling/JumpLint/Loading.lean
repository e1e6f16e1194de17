import JumpLint.Dump
import JumpLint.Files.Folder
import JumpLint.Json
import JumpLint.Profile
import JumpLint.Text.Decoding
import JumpLint.Yaml.Typed

/-!
# Loading documents and profiles

A document is a tree dump in JSON, if its file has the suffix `.json`, or else in YAML without
types.  A profile is YAML with types.  Most errors are reported with the path of the file; a few are
about no file in particular, come from a scalar, or are met where the stack ends, and stand alone.

## What is here

* `Lapse`: the errors that stand alone.
* `LoadError`, with `message` and `issues`.
* `readFile`: the bytes of a file.
* `loadDocument`, `loadProfile`.
-/

set_option autoImplicit false
namespace JumpLint

/-- Errors that are reported without a path: a path that is none in bytes or has a zero character,
a file that is not UTF-8 or too deeply nested, a reason that cannot be written, a number or another
scalar that has no value. -/
inductive Lapse where
  | notEncodable
  | zeroCharacter
  | notUtf8
  | tooDeep
  | unwritable
  | number (error : Number.IntegerError)
  | scalar (error : Yaml.Error)
deriving Repr, DecidableEq

/-- The text of a lapse. -/
def Lapse.message : Lapse → Text
  | .zeroCharacter => .ofString "embedded null byte"
  | .notEncodable | .notUtf8 | .unwritable => .ofString "<unicode>"
  | .tooDeep => .ofString "maximum recursion depth exceeded"
  | .number error => .ofString error.message
  | .scalar error => error.message

/-- Whether a lapse is about a value that is out of place, as opposed to a fault in looking one up
or the end of the stack. -/
def Lapse.isAboutValue : Lapse → Bool
  | .tooDeep => false
  | .scalar .noDigits | .scalar (.truthValue _) | .scalar .noMoment | .scalar .momentOfMapping
  | .scalar .tooLarge => false
  | .scalar (.codePoint code) => decide (code < Nat.pow 2 31)
  | _ => true

/-- What is wrong with a file that can be named. -/
inductive FileFault where
  | unreadable (fault : ReadFault)
  | json (error : Json.Error)
  | yaml
  | notMapping
  | dump (error : Dump.Error)
  | profile (issues : List Issue)
deriving Repr, DecidableEq

/-- The text of a fault. -/
def FileFault.message : FileFault → String
  | .unreadable fault => fault.message
  | .json error => error.message
  | .yaml => "<yaml>"
  | .notMapping => "expected a mapping at the top level"
  | .dump error => error.message
  | .profile _ => "<validation>"

/-- Why a file gives no document or profile. -/
inductive LoadError where
  | file (path : Path) (fault : FileFault)
  | lapse (lapse : Lapse)
deriving Repr, DecidableEq

/-- The text of an error. -/
def LoadError.message : LoadError → Text
  | .file path fault => path.text ++ .ofString (": " ++ fault.message)
  | .lapse l => l.message

/-- The issues of an error, when data does not have the expected shape. -/
def LoadError.issues : LoadError → List Issue
  | .file _ (.dump error) => error.issues
  | .file _ (.profile issues) => issues
  | _ => []

/-- What is wrong with a path that no file can have. -/
def Path.lapse? (path : Path) : Option Lapse :=
  if !path.isEncodable then some .notEncodable
  else if path.hasZero then some .zeroCharacter
  else none

/-- The bytes of a file. -/
def readFile (host : Host) (path : Path) : Except LoadError ByteArray :=
  match path.lapse? with
  | some l => .error (.lapse l)
  | none => (host.files path).mapError fun fault => .file path (.unreadable fault)

/-- What an error of a YAML text is in a file. -/
def yamlError (path : Path) : Yaml.Error → LoadError
  | .malformed => .file path .yaml
  | .notUtf8 => .lapse .notUtf8
  | .tooDeep => .lapse .tooDeep
  | error => .lapse (.scalar error)

/-! ## Documents -/

/-- What an error of a JSON text is in a file. -/
def jsonError (path : Path) : Json.Error → LoadError
  | .number error => .lapse (.number error)
  | .tooDeep => .lapse .tooDeep
  | error => .file path (.json error)

/-- The data in the text of a dump. -/
def dumpData (room : Nat) (path : Path) (text : String) : Except LoadError Datum :=
  if path.suffix == .ofString ".json" then (Json.read room text).mapError (jsonError path)
  else (Yaml.readUntyped room text).mapError (yamlError path)

/-- The document in a file.  Without a name of its own it has that of the file. -/
def loadDocument (host : Host) (path : Path) : Except LoadError Document := do
  let bytes ← readFile host path
  match Text.decode? bytes with
  | none => .error (.lapse .notUtf8)
  | some text =>
    match ← dumpData (host.treeRoom path) path text with
    | .mapping entries =>
      (Document.ofDump (.mapping entries) (some path.text)).mapError fun e => .file path (.dump e)
    | _ => .error (.file path .notMapping)

/-! ## Profiles -/

/-- No reader of a profile looks deeper into it than this.  Parameters of policies, which nobody
reads, are kept as far down. -/
def profileDepth : Nat := 6

/-- The profile in a file; an empty file has the default one. -/
def loadProfile (host : Host) (path : Path) : Except LoadError Profile := do
  let bytes ← readFile host path
  let data := Yaml.readTyped profileDepth (host.profileRoom path) (.ofFile bytes)
  match ← data.mapError (yamlError path) with
  | .null => .ok .default
  | .mapping entries =>
    (Profile.ofDatum (.mapping entries)).mapError fun issues =>
      if hasUnwritable issues then .lapse .unwritable else .file path (.profile issues)
  | _ => .error (.file path .notMapping)

end JumpLint

import JumpLint.Violation

/-!
# Templates for violations

A violation is shown by a template: literal text with escapes, a percent sign and one character.
Eight characters stand for the fields of a violation and the percent sign for itself; other escapes
are kept as they are, and so is a percent sign in front of a line feed or at the end.  Templates are
filled in one pass, so what a field holds is never taken for an escape.  All fields are made into
texts before that, even those that no escape names, and a number with too many digits has no text.

## What is here

* `Piece` and `pieces`: a template in pieces.
* `Fields`, `Violation.shownFields`: the fields of a violation as texts; `Fields.text?` is the text
  that a character stands for.
* `Violation.format`: a violation shown by a template.
* `Verbosity` and `Verbosity.resolve`: a numbered template, or one of one's own in which `\n` and
  `\t` stand for a line feed and a tab.
* `formatAll`: violations in a row.
-/

set_option autoImplicit false
namespace JumpLint

/-- A part of a template. -/
inductive Piece where
  | literal (p : CodePoint)
  | escape (p : CodePoint)
deriving Repr, DecidableEq

/-- The sign that begins an escape. -/
def percent : CodePoint := .char '%'

/-- The pieces of a template. -/
def pieces : Text → List Piece
  | [] => []
  | .char '%' :: p :: rest =>
    if p == .char '\n' then .literal percent :: .literal p :: pieces rest
    else .escape p :: pieces rest
  | p :: rest => .literal p :: pieces rest

/-- A piece as it is written. -/
def Piece.written : Piece → Text
  | .literal p => [p]
  | .escape p => [percent, p]

/-- The pieces of a template are the whole template. -/
theorem flatMap_written_pieces (t : Text) : (pieces t).flatMap Piece.written = t := by
  fun_induction pieces t with
  | case1 => rfl
  | case2 p rest h ih => simp_all [Piece.written, percent]
  | case3 p rest h ih => simp_all [Piece.written, percent]
  | case4 p rest h ih => simp_all [Piece.written]

/-! ## Fields -/

/-- What a template can name: the fields of a violation as texts. -/
structure Fields where
  filename : Text
  line : Text
  column : Text
  description : Text
  explanation : Text
  severity : Text
  policy : Text
  source : Text
deriving Repr, DecidableEq

/-- A number if it is known; one of too many digits cannot be written. -/
def shownNumber : Option Int → Except Number.IntegerError Text
  | some n => (Number.shown n).map .ofString
  | none => .ok []

/-- The fields of a violation.  Both numbers are written, whatever a template names. -/
def Violation.shownFields (v : Violation) : Except Number.IntegerError Fields := do
  let line ← shownNumber v.line
  let column ← shownNumber v.column
  .ok {
    filename := v.filename.getD []
    line := line
    column := column
    description := v.description
    explanation := v.explanation
    severity := .ofString (toString v.severity.level)
    policy := v.policy
    source := v.source }

namespace Fields

/-- The text that a character of an escape stands for. -/
def text? (fields : Fields) : CodePoint → Option Text
  | .char 'f' => some fields.filename
  | .char 'l' => some fields.line
  | .char 'c' => some fields.column
  | .char 'm' => some fields.description
  | .char 'e' => some fields.explanation
  | .char 's' => some fields.severity
  | .char 'p' => some fields.policy
  | .char 'r' => some fields.source
  | .char '%' => some [percent]
  | _ => none

/-- A piece of a template, filled in. -/
def fill (fields : Fields) (piece : Piece) : Text :=
  match piece with
  | .literal p => [p]
  | .escape p => (fields.text? p).getD piece.written

/-- A template, filled in. -/
def fillIn (fields : Fields) (template : Text) : Text := (pieces template).flatMap fields.fill

end Fields

/-- A violation shown by a template. -/
def Violation.format (v : Violation) (template : Text) : Except Number.IntegerError Text :=
  v.shownFields.map fun fields => fields.fillIn template

/-! ## Verbosity -/

/-- The numbered templates. -/
def templates : List (Int × String) :=
  [(1, "%f:%l:%c:%m\n"), (2, "%f: (%l:%c) %m\n"), (3, "%m at %f line %l\n"),
    (4, "%m at line %l, column %c.  %e.  (Severity: %s)\n"),
    (5, "%f: %m at line %l, column %c.  %e.  (Severity: %s)\n"),
    (8, "[%p] %m at line %l, column %c.  (Severity: %s)\n")]

/-- The number of the template that is used if none is asked for. -/
def defaultLevel : Int := 4

/-- What template is asked for. -/
inductive Verbosity where
  | default
  | level (n : Int)
  | text (t : Text)
deriving Repr, DecidableEq

/-- Why there is no report: no template has the number that is asked for, or a number cannot be read
or written. -/
inductive ReportError where
  | unknown (level : Int)
  | number (error : Number.IntegerError)
deriving Repr, DecidableEq

/-- The text of an error. -/
def ReportError.message : ReportError → String
  | .unknown n =>
    match Number.shown n with
    | .ok level => "unknown verbosity level: " ++ level
    | .error e => e.message
  | .number e => e.message

/-- The template with a number. -/
def templateOf (n : Int) : Except ReportError Text :=
  match templates.lookup n with
  | some template => .ok (.ofString template)
  | none => .error (.unknown n)

/-- What begins an escape for a line feed or a tab. -/
def backslash : CodePoint := .char '\\'

/-- Writes one character for a backslash and a letter, given whether a backslash came before. -/
def unescapeFrom (letter c : Char) : Bool → Text → Text
  | false, [] => []
  | true, [] => [backslash]
  | false, p :: rest =>
    if p == backslash then unescapeFrom letter c true rest
    else p :: unescapeFrom letter c false rest
  | true, p :: rest =>
    if p == .char letter then .char c :: unescapeFrom letter c false rest
    else if p == backslash then backslash :: unescapeFrom letter c true rest
    else backslash :: p :: unescapeFrom letter c false rest

/-- Writes the character `c` for each backslash with a letter behind it. -/
def unescape (letter c : Char) (t : Text) : Text := unescapeFrom letter c false t

/-- The template that is asked for.  A text of digits is a number. -/
def Verbosity.resolve : Verbosity → Except ReportError Text
  | .default => templateOf defaultLevel
  | .level n => templateOf n
  | .text t =>
    if Text.isNumeral t then
      match Number.ofNumeral 10 t with
      | .ok n => templateOf n
      | .error e => .error (.number e)
    else .ok (unescape 't' '\t' (unescape 'n' '\n' t))

/-- Violations in a row, shown by a template. -/
def formatAll (violations : List Violation) (verbosity : Verbosity) : Except ReportError Text := do
  let template ← verbosity.resolve
  let shown ← (violations.mapM fun v : Violation => v.format template).mapError .number
  .ok (Text.join shown)

end JumpLint

import JumpLint.CommandLine.Arguments
import JumpLint.Loading
import JumpLint.Report.Tally
import JumpLint.Report.Template

/-!
# Running the command

The profile is read and the critic set up; then each tree is loaded, criticised and reported before
the next one.  A tree that cannot be loaded is named on the error output and does not stop the
others.

## What is here

* `Outcome`: what is written to the two outputs, and how the run ends: with an exit code, or early.
* `setUp`: the critic and the template that a request asks for.
* `Progress`, `checkTree`, `checkTrees`: the trees, one after the other.
* `run`: the whole command.
-/

set_option autoImplicit false
namespace JumpLint
namespace CommandLine

/-- Why a run ends before its end. -/
inductive Failure where
  | lapse (lapse : Lapse)
  | report (error : ReportError)
deriving Repr, DecidableEq

/-- How a run ends. -/
inductive Ending where
  | exit (code : Nat)
  | failure (failure : Failure)
deriving Repr, DecidableEq

/-- What comes of a run. -/
structure Outcome where
  stdout : Text
  stderr : Text
  ending : Ending
deriving Repr, DecidableEq

/-- The line that reports an error. -/
def errorLine (reason : Text) : Text := .ofString "Error: " ++ reason ++ .ofString "\n"

/-- A run that cannot begin, with the reason. -/
def Outcome.refusal (reason : Text) : Outcome := ⟨[], errorLine reason, .exit 2⟩

/-! ## Setting up -/

/-- What a run works with. -/
structure Setup where
  template : Text
  critic : Critic

/-- The profile that a request asks for, with the options that count more than it. -/
def Request.adjust (request : Request) (profile : Profile) : Profile :=
  { profile with
    severity := request.severity.getD profile.severity
    themes := request.themes.getD profile.themes }

/-- The profile of a request before its options: that of a file, or the default one. -/
def Request.baseProfile (request : Request) (host : Host) : Except LoadError Profile :=
  match request.profile with
  | some path => loadProfile host path
  | none => .ok .default

/-- The template that a request asks for. -/
def Request.template (request : Request) : Except ReportError Text :=
  match request.verbose with
  | some text => (Verbosity.text text).resolve
  | none => Verbosity.default.resolve

/-- The critic and the template of a request, or the outcome of a run that has none. -/
def setUp (host : Host) (request : Request) : Except Outcome Setup :=
  match request.template with
  | .error e => .error (.refusal (.ofString e.message))
  | .ok template =>
    match request.baseProfile host with
    | .error (.file path fault) => .error (.refusal (LoadError.file path fault).message)
    | .error (.lapse l) =>
      if l.isAboutValue then .error (.refusal l.message)
      else .error ⟨[], [], .failure (.lapse l)⟩
    | .ok profile =>
      match (request.adjust profile).critic with
      | .error e => .error (.refusal (.ofString e.message))
      | .ok critic => .ok ⟨template, critic⟩

/-! ## Trees -/

/-- Where a run stands: what has been written and counted, and the critic as it is. -/
structure Progress where
  stdout : Text
  stderr : Text
  tally : Tally
  hasFailed : Bool
  hasFound : Bool
  critic : Critic
  documents : Nat

/-- The beginning of a run. -/
def Progress.start (critic : Critic) : Progress := ⟨[], [], .empty, false, false, critic, 0⟩

/-- The log as it is written. -/
def logText (log : List Record) : Text := log.flatMap fun r => r.shown ++ Text.ofString "\n"

/-- What is written for the violations of a tree. -/
def reportText (template : Text) (path : Path) (violations : List Violation) :
    Except ReportError Text :=
  if violations.isEmpty then .ok (path.text ++ .ofString " source OK\n")
  else formatAll violations (.text template)

/-- Loads, criticises and reports a tree.  A failure ends the run where it stands. -/
def checkTree (host : Host) (template : Text) (debug : Bool) (p : Progress) (path : Path) :
    Progress × Option Failure :=
  match loadDocument host path with
  | .error (.file path fault) =>
    let message := (LoadError.file path fault).message
    ({ p with stderr := p.stderr ++ errorLine message, hasFailed := true }, none)
  | .error (.lapse l) => (p, some (.lapse l))
  | .ok d =>
    let critique := p.critic.critique p.documents d
    let violations := critique.result.toOption.getD []
    let p := { p with
      stderr := p.stderr ++ (if debug then logText critique.log else [])
      tally := p.tally.add violations
      hasFound := p.hasFound || !violations.isEmpty
      critic := critique.critic
      documents := p.documents + 1 }
    match reportText template path violations with
    | .ok text => ({ p with stdout := p.stdout ++ text }, none)
    | .error e => (p, some (.report e))

/-- The trees of a run. -/
def checkTrees (host : Host) (template : Text) (debug : Bool) (p : Progress) :
    List Path → Progress × Option Failure
  | [] => (p, none)
  | path :: rest =>
    match checkTree host template debug p path with
    | (p, some failure) => (p, some failure)
    | (p, none) => checkTrees host template debug p rest

/-- The exit code at the end of a run: two if a tree could not be loaded, else one if there are
violations. -/
def Progress.code (p : Progress) : Nat := if p.hasFailed then 2 else if p.hasFound then 1 else 0

/-- The outcome of a request. -/
def Request.run (request : Request) (host : Host) : Outcome :=
  match setUp host request with
  | .error outcome => outcome
  | .ok setup =>
    match checkTrees host setup.template request.debug (.start setup.critic) request.trees with
    | (p, some failure) => ⟨p.stdout, p.stderr, .failure failure⟩
    | (p, none) =>
      let summary := if request.statistics then .ofString "\n" ++ p.tally.summary else []
      ⟨p.stdout ++ summary, p.stderr, .exit p.code⟩

/-- The outcome of the command with these arguments. -/
def run (host : Host) (arguments : List Text) : Outcome :=
  match Request.ofArguments arguments with
  | .ok request => request.run host
  | .error .help => ⟨.ofString help, [], .exit 0⟩
  | .error (.error e) => ⟨[], errorText e, .exit 2⟩

end CommandLine
end JumpLint

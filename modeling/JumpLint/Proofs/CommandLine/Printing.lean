import JumpLint.Proofs.CommandLine.Lapse

/-!
# What a run prints

The template is looked up twice, when a run is set up and again for every report.  Since a template
that was found stands for itself, each violation is shown by the template that was asked for, and
the reports are these violations one after the other.

## What is here

* `Setup.printed`: what is to be printed about a tree, given the template that was asked for.
* `Setup.stdout_eq`: that this is what the trees of a run call for.
* `run_prints_as_asked`: the same for whole runs, however they end.
-/

set_option autoImplicit false
namespace JumpLint
namespace CommandLine

/-- What is to be printed about a tree: its violations one after the other, each shown by the
template; that there are none; or nothing if it cannot be loaded. -/
def Setup.printed (s : Setup) (template : Text) (host : Host) (path : Path) : Text :=
  match loadDocument host path with
  | .ok d =>
    if s.found d = [] then path.text ++ .ofString " source OK\n"
    else (s.found d).flatMap fun v => v.shownBy template
  | .error _ => []

variable {host : Host} {request : Request} {s : Setup} {template : Text}

/-- The setup has the template that was asked for. -/
theorem template_of_setUp (hsetup : setUp host request = .ok s)
    (h : request.verbosity.resolve = .ok template) : s.template = template := by
  have hfound := (setUp_eq_ok_iff.1 hsetup).1
  rw [request.template_eq, h] at hfound
  exact (Except.ok.inj hfound).symm

/-- **What trees call for** is shown by the template that was asked for. -/
theorem Setup.stdout_eq (hsetup : setUp host request = .ok s)
    (h : request.verbosity.resolve = .ok template) (trees : List Path) :
    s.stdout host trees = trees.flatMap (s.printed template host) := by
  have hready := Setup.isReady_of_setUp hsetup
  rw [Setup.stdout, ← template_of_setUp hsetup h]
  refine List.flatMap_congr fun path _ => ?_
  rw [Setup.share, Setup.printed]
  cases hload : loadDocument host path with
  | error e => rfl
  | ok d =>
    simp only [reportText_eq hready.template path (hready.isPrintable_of_mem_found hload)]
    rfl

/-- **Violations are printed by the template that was asked for.**  A template that was found, be it
by a number or from a text with escapes, is found again when it is asked for as a text: it is the
same template, and it is never taken for a number.  So a report is its violations one after the
other, each shown by this template, unless one of them cannot be shown.  What a run finds in its
trees can, and that is what it prints about them, in whatever order they stand and with or without
debugging; if a tree ends the run early, then about those in front of it. -/
theorem run_prints_as_asked {v : Verbosity} (h : v.resolve = .ok template) :
    (Verbosity.text template).resolve = .ok template ∧
      Text.isNumeral template = false ∧
      (∀ violations, formatAll violations (.text template) =
        ((violations.mapM fun w : Violation => w.format template).mapError .number).map
          Text.join) ∧
      ∀ (host : Host) (request : Request) (s : Setup), request.verbosity = v →
        setUp host request = .ok s →
          (∀ d, (s.critic.critique 0 d).result = .ok (s.found d)) ∧
          (∀ path d, loadDocument host path = .ok d →
            ∀ w ∈ s.found d, w.format template = .ok (w.shownBy template)) ∧
          (∀ trees arguments, Request.ofArguments arguments = .ok (request.on trees) →
            (∀ path ∈ trees, ∀ l, loadDocument host path ≠ .error (.lapse l)) →
              (run host arguments).stdout = trees.flatMap (s.printed template host) ++
                footer request.statistics (s.tally host trees)) ∧
          ∀ before path after l arguments,
            Request.ofArguments arguments = .ok (request.on (before ++ path :: after)) →
            (∀ earlier ∈ before, ∀ l, loadDocument host earlier ≠ .error (.lapse l)) →
            loadDocument host path = .error (.lapse l) →
              (run host arguments).stdout = before.flatMap (s.printed template host) := by
  have hagain := Verbosity.resolve_of_resolve h
  refine ⟨hagain, (Verbosity.isFinal_of_resolve h).not_isNumeral, formatAll_eq_of_resolve hagain,
    ?_⟩
  rintro host request s rfl hsetup
  have hready := Setup.isReady_of_setUp hsetup
  refine ⟨hready.result_critique_eq rfl 0, ?_, ?_, ?_⟩
  · intro path d hload w hw
    exact Violation.format_eq_shownBy (hready.isPrintable_of_mem_found hload w hw) template
  · intro trees arguments hasked htrees
    obtain ⟨stderr, -, hrun⟩ := run_on_of_forall hsetup htrees
    rw [run, hasked, ← Setup.stdout_eq hsetup h]
    exact congrArg Outcome.stdout hrun
  · intro before path after l arguments hasked hbefore hpath
    obtain ⟨stderr, -, hrun⟩ := @run_on_of_lapse _ _ _ hsetup before after path hbefore l hpath
    rw [run, hasked, ← Setup.stdout_eq hsetup h]
    exact congrArg Outcome.stdout hrun

/-- A template with a backslash in front of each escape, and a number behind them. -/
def crowded : Text := .ofString "%l\\\\n\\\\t1"

/-- What it asks for. -/
def crowdedFound : Text := .ofString "%l\\\n\\\t1"

/-- A violation in line 7. -/
def seventhLine : Violation := ⟨[], [], [], .high, none, some 7, none, []⟩

/-- A request for this template. -/
def crowdedRequest : Request := { Reading.start.request with verbose := some crowded }

/-- The arguments of that request. -/
def crowdedArguments : List Text := [.ofString "--verbose", crowded, .ofString "empty.json"]

theorem run_prints_as_asked_crowded :
    (Verbosity.text crowded).resolve = .ok crowdedFound ∧
      (Verbosity.text crowdedFound).resolve = .ok crowdedFound ∧
      formatAll [seventhLine] (.text crowdedFound) = .ok (.ofString "7\\\n\\\t1") ∧
      Request.ofArguments crowdedArguments = .ok (crowdedRequest.on [.ofString "empty.json"]) ∧
      (run sparse crowdedArguments).stdout = .ofString "empty.json source OK\n" := by
  have hfound : (Verbosity.text crowded).resolve = .ok crowdedFound := by decide +kernel
  have hasked : Request.ofArguments crowdedArguments =
      .ok (crowdedRequest.on [.ofString "empty.json"]) := by decide +kernel
  obtain ⟨hagain, -, hformat, hruns⟩ := run_prints_as_asked hfound
  have hsetup : setUp sparse crowdedRequest = .ok { plainSetup with template := crowdedFound } :=
    setUp_eq_ok_iff.2 ⟨hfound, .default, rfl, rfl⟩
  obtain ⟨-, -, hprints, -⟩ := hruns sparse crowdedRequest _ rfl hsetup
  have hstdout := hprints _ _ hasked fun path hpath l hlapse => by
    rw [List.mem_singleton.1 hpath] at hlapse
    cases loadDocument_sparse.symm.trans hlapse
  refine ⟨hfound, hagain, (hformat _).trans (by decide +kernel), hasked, hstdout.trans ?_⟩
  decide +kernel

end CommandLine
end JumpLint

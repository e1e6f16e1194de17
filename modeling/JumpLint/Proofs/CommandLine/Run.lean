import JumpLint.CommandLine.Run
import JumpLint.Proofs.CommandLine.Arguments
import JumpLint.Proofs.Critic.Listing
import JumpLint.Proofs.Loading.Positions
import JumpLint.Proofs.Profile.Selection
import JumpLint.Proofs.Report.Tally
import JumpLint.Proofs.Report.Template

/-!
# Runs, tree by tree

A run goes through its trees with one critic, which remembers, and with flags and counts that go on
from tree to tree.  Here it is shown that a tree is treated as if it were the only one: what a run
writes is what its trees call for one by one, and so is its exit code, except that the greatest
counts.

## What is here

* `setUp_eq_ok_iff`: what a run is set up with; `Setup.IsReady` is what holds of it in every run.
* `Share`, `Setup.share`: what a tree by itself calls for.
* `Setup.stdout`, `stderr`, `tally`, `code`: what trees in a row call for, put together from what
  each of them does.
* `Progress.IsAfter`: a run has come to what the trees so far call for; `Progress.IsAfter.checkTree`
  is the step, `Progress.IsAfter.checkTrees` the run, `run_eq` the whole command.
* `IsExitCode`: which exit code trees call for; `Setup.isExitCode_code` says that it is the one of
  the run.
* `run_append`: runs on two rows of trees, and on both.
-/

set_option autoImplicit false
namespace JumpLint
namespace CommandLine

/-! ## Setting up -/

/-- What holds of everything that a run is set up with: the template is found again by the reports,
and the critic has policies of the goto rule, which do not fail. -/
structure Setup.IsReady (s : Setup) : Prop where
  template : (Verbosity.text s.template).resolve = .ok s.template
  policies : ∀ p ∈ s.critic.policies, p.rule = .gotoIntoBlock

/-- **What a run is set up with**: the template that is asked for, and the critic of the profile. -/
theorem setUp_eq_ok_iff {host : Host} {request : Request} {s : Setup} :
    setUp host request = .ok s ↔
      request.template = .ok s.template ∧ ∃ profile, request.baseProfile host = .ok profile ∧
        (request.adjust profile).critic = .ok s.critic := by
  obtain ⟨template, critic⟩ := s
  rw [setUp]
  split
  · rename_i htemplate
    simp [htemplate]
  · rename_i htemplate
    split
    · rename_i hprofile
      simp [hprofile]
    · rename_i hprofile
      split <;> simp [hprofile]
    · rename_i profile hprofile
      split
      · rename_i hcritic
        simp [hprofile, hcritic]
      · rename_i hcritic
        simp [htemplate, hprofile, hcritic]

/-- What template a request asks for: the one that is named, or else the default one. -/
def Request.verbosity (request : Request) : Verbosity :=
  match request.verbose with
  | some text => .text text
  | none => .default

theorem Request.template_eq (request : Request) : request.template = request.verbosity.resolve := by
  rw [template, verbosity]
  cases request.verbose <;> rfl

theorem Setup.isReady_of_setUp {host : Host} {request : Request} {s : Setup}
    (h : setUp host request = .ok s) : s.IsReady := by
  obtain ⟨htemplate, profile, -, hcritic⟩ := setUp_eq_ok_iff.1 h
  rw [request.template_eq] at htemplate
  exact ⟨Verbosity.resolve_of_resolve htemplate, Profile.rule_of_mem_critic hcritic⟩

/-! ## One tree -/

/-- A report by a template that stands for itself, on violations that can be shown. -/
theorem reportText_eq {template : Text} (h : (Verbosity.text template).resolve = .ok template)
    (path : Path) {violations : List Violation} (hviolations : ∀ v ∈ violations, v.IsPrintable) :
    reportText template path violations =
      .ok (if violations = [] then path.text ++ .ofString " source OK\n"
        else violations.flatMap fun v => v.shownBy template) := by
  rw [reportText, formatAll_eq_of_resolve h, Violation.mapM_format_eq hviolations]
  cases violations <;> rfl

/-- What a tree by itself calls for: what is written to the two outputs, and the violations if it
can be loaded. -/
structure Share where
  stdout : Text
  stderr : Text
  found : Option (List Violation)

namespace Share

/-- Whether a tree cannot be loaded. -/
def hasFailed (share : Share) : Bool := share.found.isNone

/-- Whether there are violations in a tree. -/
def hasFound (share : Share) : Bool := share.found.any fun violations => !violations.isEmpty

end Share

namespace Setup

/-- The violations that a critic which has looked at nothing else reports on a document. -/
def found (s : Setup) (d : Document) : List Violation :=
  (s.critic.critique 0 d).result.toOption.getD []

/-- The share of a tree. -/
def share (s : Setup) (host : Host) (path : Path) : Share :=
  match loadDocument host path with
  | .error e => ⟨[], errorLine e.message, none⟩
  | .ok d => ⟨(reportText s.template path (s.found d)).toOption.getD [], [], some (s.found d)⟩

variable {s : Setup}

/-- Whatever the critic has looked at before, it reports the same. -/
theorem IsReady.result_critique_eq (hs : s.IsReady) {c : Critic}
    (hc : c.fresh = s.critic.fresh) (number : Nat) (d : Document) :
    (c.critique number d).result = .ok (s.found d) := by
  rw [Critic.result_critique_congr hc number 0, found, Critic.result_critique_eq hs.policies]
  rfl

/-- Violations in a document that was loaded can be shown. -/
theorem IsReady.isPrintable_of_mem_found (hs : s.IsReady) {host : Host} {path : Path} {d : Document}
    (h : loadDocument host path = .ok d) : ∀ v ∈ s.found d, v.IsPrintable :=
  isPrintable_of_loadDocument h (hs.result_critique_eq rfl 0 d)

end Setup

/-! ## Trees in a row -/

/-- The documents of the trees that can be loaded. -/
def loaded (host : Host) (trees : List Path) : List Document :=
  trees.filterMap fun path => (loadDocument host path).toOption

/-- The exit code by the two flags of a run. -/
def exitCode (hasFailed hasFound : Bool) : Nat := if hasFailed then 2 else if hasFound then 1 else 0

namespace Setup

/-- The reports on trees. -/
def stdout (s : Setup) (host : Host) (trees : List Path) : Text :=
  trees.flatMap fun path => (s.share host path).stdout

/-- The errors about trees. -/
def stderr (s : Setup) (host : Host) (trees : List Path) : Text :=
  trees.flatMap fun path => (s.share host path).stderr

/-- Whether one of the trees cannot be loaded. -/
def hasFailed (s : Setup) (host : Host) (trees : List Path) : Bool :=
  trees.any fun path => (s.share host path).hasFailed

/-- Whether there are violations in one of the trees. -/
def hasFound (s : Setup) (host : Host) (trees : List Path) : Bool :=
  trees.any fun path => (s.share host path).hasFound

/-- The counts of a run over trees. -/
def tally (s : Setup) (host : Host) (trees : List Path) : Tally :=
  Tally.ofFiles ((loaded host trees).map s.found)

/-- The exit code of a run over trees. -/
def code (s : Setup) (host : Host) (trees : List Path) : Nat :=
  exitCode (s.hasFailed host trees) (s.hasFound host trees)

theorem stdout_append (s : Setup) (host : Host) (A B : List Path) :
    s.stdout host (A ++ B) = s.stdout host A ++ s.stdout host B := List.flatMap_append

theorem stderr_append (s : Setup) (host : Host) (A B : List Path) :
    s.stderr host (A ++ B) = s.stderr host A ++ s.stderr host B := List.flatMap_append

theorem hasFailed_append (s : Setup) (host : Host) (A B : List Path) :
    s.hasFailed host (A ++ B) = (s.hasFailed host A || s.hasFailed host B) := List.any_append

theorem hasFound_append (s : Setup) (host : Host) (A B : List Path) :
    s.hasFound host (A ++ B) = (s.hasFound host A || s.hasFound host B) := List.any_append

/-- The greatest exit code counts. -/
theorem code_append (s : Setup) (host : Host) (A B : List Path) :
    s.code host (A ++ B) = max (s.code host A) (s.code host B) := by
  rw [code, code, code, hasFailed_append, hasFound_append]
  cases s.hasFailed host A <;> cases s.hasFailed host B <;> cases s.hasFound host A <;>
    cases s.hasFound host B <;> rfl

/-! What one more tree adds. -/

theorem stdout_concat (s : Setup) (host : Host) (trees : List Path) (path : Path) :
    s.stdout host (trees ++ [path]) = s.stdout host trees ++ (s.share host path).stdout := by
  simp [stdout]

theorem stderr_concat (s : Setup) (host : Host) (trees : List Path) (path : Path) :
    s.stderr host (trees ++ [path]) = s.stderr host trees ++ (s.share host path).stderr := by
  simp [stderr]

theorem hasFailed_concat (s : Setup) (host : Host) (trees : List Path) (path : Path) :
    s.hasFailed host (trees ++ [path]) =
      (s.hasFailed host trees || (s.share host path).hasFailed) := by
  simp [hasFailed]

theorem hasFound_concat (s : Setup) (host : Host) (trees : List Path) (path : Path) :
    s.hasFound host (trees ++ [path]) =
      (s.hasFound host trees || (s.share host path).hasFound) := by
  simp [hasFound]

theorem tally_concat_of_error (s : Setup) {host : Host} {path : Path} {e : LoadError}
    (h : loadDocument host path = .error e) (trees : List Path) :
    s.tally host (trees ++ [path]) = s.tally host trees := by
  simp [tally, loaded, h, Except.toOption]

theorem tally_concat_of_ok (s : Setup) {host : Host} {path : Path} {d : Document}
    (h : loadDocument host path = .ok d) (trees : List Path) :
    s.tally host (trees ++ [path]) = (s.tally host trees).add (s.found d) := by
  simp [tally, loaded, h, Except.toOption, Tally.ofFiles_concat]

end Setup

/-- Where a run stands after trees in a row: it has come to what they call for.  Of the critic
nothing counts but its settings. -/
structure Progress.IsAfter (s : Setup) (host : Host) (p : Progress) (trees : List Path) :
    Prop where
  stdout : p.stdout = s.stdout host trees
  stderr : p.stderr = s.stderr host trees
  tally : p.tally = s.tally host trees
  hasFailed : p.hasFailed = s.hasFailed host trees
  hasFound : p.hasFound = s.hasFound host trees
  critic : p.critic.fresh = s.critic.fresh

namespace Progress

variable {host : Host} {s : Setup} {p : Progress} {before trees : List Path}

theorem isAfter_start (s : Setup) (host : Host) :
    (Progress.start s.critic).IsAfter s host [] :=
  ⟨rfl, rfl, rfl, rfl, rfl, rfl⟩

/-- **One more tree** is treated as if nothing had come before it. -/
theorem IsAfter.checkTree (hs : s.IsReady) (h : p.IsAfter s host before) {path : Path}
    (hpath : ∀ l, loadDocument host path ≠ .error (.lapse l)) :
    ∃ q, CommandLine.checkTree host s.template false p path = (q, none) ∧
      q.IsAfter s host (before ++ [path]) := by
  rw [CommandLine.checkTree]
  cases hload : loadDocument host path with
  | error e =>
    have hshare : s.share host path = ⟨[], errorLine e.message, none⟩ := by
      rw [Setup.share, hload]
    cases e with
    | lapse l => exact absurd hload (hpath l)
    | file other fault =>
      refine ⟨_, rfl, ?_⟩
      constructor
      · rw [Setup.stdout_concat, hshare, ← h.stdout, List.append_nil]
      · rw [Setup.stderr_concat, hshare, ← h.stderr]
      · rw [s.tally_concat_of_error hload, ← h.tally]
      · rw [Setup.hasFailed_concat, hshare]
        exact (Bool.or_true _).symm
      · rw [Setup.hasFound_concat, hshare, ← h.hasFound]
        exact (Bool.or_false _).symm
      · exact h.critic
  | ok d =>
    have hresult := hs.result_critique_eq h.critic p.documents d
    obtain ⟨text, htext⟩ : ∃ text, reportText s.template path (s.found d) = .ok text :=
      ⟨_, reportText_eq hs.template path (hs.isPrintable_of_mem_found hload)⟩
    have hshare : s.share host path = ⟨text, [], some (s.found d)⟩ := by
      rw [Setup.share, hload]
      simp only [htext, Except.toOption, Option.getD_some]
    simp only [hresult, Except.toOption, Option.getD_some, htext]
    refine ⟨_, rfl, ?_⟩
    constructor
    · rw [Setup.stdout_concat, hshare, ← h.stdout]
    · rw [Setup.stderr_concat, hshare, ← h.stderr]
      rfl
    · rw [s.tally_concat_of_ok hload, ← h.tally]
    · rw [Setup.hasFailed_concat, hshare, ← h.hasFailed]
      exact (Bool.or_false _).symm
    · rw [Setup.hasFound_concat, hshare, ← h.hasFound]
      rfl
    · exact (Critic.fresh_critique _ _ _).trans h.critic

/-- **A run over trees** comes to what they call for one by one. -/
theorem IsAfter.checkTrees (hs : s.IsReady) (h : p.IsAfter s host before)
    (htrees : ∀ path ∈ trees, ∀ l, loadDocument host path ≠ .error (.lapse l)) :
    ∃ q, CommandLine.checkTrees host s.template false p trees = (q, none) ∧
      q.IsAfter s host (before ++ trees) := by
  induction trees generalizing p before with
  | nil => exact ⟨p, rfl, by rwa [List.append_nil]⟩
  | cons path rest ih =>
    obtain ⟨q, hstep, hq⟩ := h.checkTree hs (htrees path List.mem_cons_self)
    obtain ⟨r, hrun, hr⟩ := ih hq fun other hother =>
      htrees other (List.mem_cons_of_mem path hother)
    refine ⟨r, ?_, by rwa [List.append_assoc, List.singleton_append] at hr⟩
    rw [CommandLine.checkTrees, hstep]
    exact hrun

end Progress

/-! ## Whole runs -/

/-- A request with a summary or without one. -/
def Request.withSummary (request : Request) (statistics : Bool) : Request :=
  { request with statistics := statistics }

/-- What stands below the reports: a line feed and the summary, if it is asked for. -/
def footer (statistics : Bool) (tally : Tally) : Text :=
  if statistics then .ofString "\n" ++ tally.summary else []

/-- **A run is what its trees call for.** -/
theorem run_eq {host : Host} {request : Request} {s : Setup} {trees : List Path}
    (hsetup : setUp host request = .ok s) (hdebug : request.debug = false)
    (htrees : ∀ path ∈ trees, ∀ l, loadDocument host path ≠ .error (.lapse l))
    {statistics : Bool} {arguments : List Text}
    (h : Request.ofArguments arguments = .ok ((request.withSummary statistics).on trees)) :
    run host arguments =
      ⟨s.stdout host trees ++ footer statistics (s.tally host trees), s.stderr host trees,
        .exit (s.code host trees)⟩ := by
  -- neither the trees nor the summary have a part in setting up
  have hsame : setUp host ((request.withSummary statistics).on trees) = .ok s := hsetup
  have hquiet : ((request.withSummary statistics).on trees).debug = false := hdebug
  obtain ⟨p, hrun, hp⟩ := (Progress.isAfter_start s host).checkTrees
    (Setup.isReady_of_setUp hsetup) htrees
  rw [List.nil_append] at hp
  rw [run, h]
  simp only [Request.run, hsame, hquiet]
  rw [show ((request.withSummary statistics).on trees).trees = trees from rfl, hrun]
  simp only [hp.stdout, hp.stderr, hp.tally, Progress.code, hp.hasFailed, hp.hasFound]
  rfl

/-- The numbers in a summary are those of the trees that can be loaded, and of their violations. -/
theorem footer_true_tally (s : Setup) (host : Host) (trees : List Path) :
    ∃ lines, footer true (s.tally host trees) =
      .ofString "\n" ++
        .ofString (toString (loaded host trees).length ++ " files.\n" ++
          toString ((loaded host trees).flatMap s.found).length ++ " violations.\n") ++
        lines := by
  have hfiles : (s.tally host trees).files = (loaded host trees).length := by
    rw [Setup.tally, Tally.files_ofFiles, List.length_map]
  have hviolations :
      (s.tally host trees).violations = ((loaded host trees).flatMap s.found).length := by
    rw [Setup.tally, Tally.violations_ofFiles, List.flatMap]
  refine ⟨Text.join (s.tally host trees).severityLines ++
    Text.join (s.tally host trees).policyLines, ?_⟩
  rw [← hfiles, ← hviolations, footer, if_pos rfl, Tally.summary, List.append_assoc,
    List.append_assoc]

/-! ## Exit codes -/

/-- The exit code that trees call for: two if one of them cannot be loaded, else one if there are
violations in one of their documents. -/
structure IsExitCode (s : Setup) (host : Host) (trees : List Path) (n : Nat) : Prop where
  two : n = 2 ↔ ∃ path ∈ trees, ∃ e, loadDocument host path = .error e
  one : n = 1 ↔ (∀ path ∈ trees, ∃ d, loadDocument host path = .ok d) ∧
    ∃ path ∈ trees, ∃ d, loadDocument host path = .ok d ∧ s.found d ≠ []
  zero : n = 0 ↔ ∀ path ∈ trees, ∃ d, loadDocument host path = .ok d ∧ s.found d = []

theorem exitCode_eq_two_iff {failed found : Bool} : exitCode failed found = 2 ↔ failed = true := by
  cases failed <;> cases found <;> simp [exitCode]

theorem exitCode_eq_one_iff {failed found : Bool} :
    exitCode failed found = 1 ↔ ¬failed = true ∧ found = true := by
  cases failed <;> cases found <;> simp [exitCode]

theorem exitCode_eq_zero_iff {failed found : Bool} :
    exitCode failed found = 0 ↔ ¬failed = true ∧ ¬found = true := by
  cases failed <;> cases found <;> simp [exitCode]

namespace Setup

variable {s : Setup} {host : Host} {trees : List Path}

theorem hasFailed_iff :
    s.hasFailed host trees = true ↔ ∃ path ∈ trees, ∃ e, loadDocument host path = .error e := by
  rw [hasFailed, List.any_eq_true]
  refine exists_congr fun path => and_congr_right fun _ => ?_
  rw [share]
  cases loadDocument host path <;> simp [Share.hasFailed]

theorem hasFound_iff :
    s.hasFound host trees = true ↔
      ∃ path ∈ trees, ∃ d, loadDocument host path = .ok d ∧ s.found d ≠ [] := by
  rw [hasFound, List.any_eq_true]
  refine exists_congr fun path => and_congr_right fun _ => ?_
  rw [share]
  cases loadDocument host path <;> simp [Share.hasFound]

theorem not_hasFailed_iff :
    ¬s.hasFailed host trees = true ↔ ∀ path ∈ trees, ∃ d, loadDocument host path = .ok d := by
  rw [hasFailed_iff]
  simp only [not_exists, not_and]
  refine forall₂_congr fun path _ => ?_
  cases loadDocument host path <;> simp

/-- **The exit code of a run** is the one that its trees call for. -/
theorem isExitCode_code (s : Setup) (host : Host) (trees : List Path) :
    IsExitCode s host trees (s.code host trees) := by
  constructor
  · rw [code, exitCode_eq_two_iff, hasFailed_iff]
  · rw [code, exitCode_eq_one_iff, not_hasFailed_iff, hasFound_iff]
  · rw [code, exitCode_eq_zero_iff, not_hasFailed_iff, hasFound_iff]
    simp only [not_exists, not_and, ← forall₂_and]
    refine forall₂_congr fun path _ => ?_
    cases loadDocument host path <;> simp

end Setup

/-- **Runs compose.**  Let a request be one that a run can be set up for, and take two rows of trees
of which none ends a run early.  What a run on both writes is what runs on each of them write, one
after the other, and the greater exit code counts; it tells whether a tree could not be loaded, and
else whether there are violations.  If a summary is asked for it stands below all that, with the
numbers of the trees that could be loaded and of their violations.  The critic fails on no document,
and options that ask for the request do so in front of any trees. -/
theorem run_append {host : Host} {request : Request} {s : Setup}
    (hsetup : setUp host request = .ok s) (hdebug : request.debug = false) {A B : List Path}
    (htrees : ∀ path ∈ A ++ B, ∀ l, loadDocument host path ≠ .error (.lapse l)) :
    (∃ (outA outB errA errB : Text) (m n : Nat),
      IsExitCode s host A m ∧ IsExitCode s host B n ∧ IsExitCode s host (A ++ B) (max m n) ∧
        ∀ (statistics : Bool) (a b ab : List Text),
          Request.ofArguments a = .ok ((request.withSummary statistics).on A) →
          Request.ofArguments b = .ok ((request.withSummary statistics).on B) →
          Request.ofArguments ab = .ok ((request.withSummary statistics).on (A ++ B)) →
            run host a = ⟨outA ++ footer statistics (s.tally host A), errA, .exit m⟩ ∧
            run host b = ⟨outB ++ footer statistics (s.tally host B), errB, .exit n⟩ ∧
            run host ab = ⟨outA ++ outB ++ footer statistics (s.tally host (A ++ B)),
              errA ++ errB, .exit (max m n)⟩) ∧
      (∀ tally, footer false tally = []) ∧
      (∀ trees, ∃ lines, footer true (s.tally host trees) =
        .ofString "\n" ++
          .ofString (toString (loaded host trees).length ++ " files.\n" ++
            toString ((loaded host trees).flatMap s.found).length ++ " violations.\n") ++
          lines) ∧
      (∀ d, (s.critic.critique 0 d).result = .ok (s.found d)) ∧
      ∀ (statistics : Bool) (flags words : List Text) (trees : List Path),
        (request.withSummary statistics).IsAskedBy flags → IsPathRow words trees → trees ≠ [] →
          Request.ofArguments (flags ++ words) =
            .ok ((request.withSummary statistics).on trees) := by
  have hA : ∀ path ∈ A, ∀ l, loadDocument host path ≠ .error (.lapse l) := fun path hpath =>
    htrees path (List.mem_append_left B hpath)
  have hB : ∀ path ∈ B, ∀ l, loadDocument host path ≠ .error (.lapse l) := fun path hpath =>
    htrees path (List.mem_append_right A hpath)
  have hboth := s.isExitCode_code host (A ++ B)
  rw [Setup.code_append] at hboth
  refine ⟨⟨s.stdout host A, s.stdout host B, s.stderr host A, s.stderr host B,
    s.code host A, s.code host B, s.isExitCode_code host A, s.isExitCode_code host B, hboth,
    fun statistics a b ab ha hb hab =>
      ⟨run_eq hsetup hdebug hA ha, run_eq hsetup hdebug hB hb, ?_⟩⟩,
    fun _ => rfl, footer_true_tally s host, fun d => ?_, fun statistics flags words trees => ?_⟩
  · rw [run_eq hsetup hdebug htrees hab, Setup.stdout_append, Setup.stderr_append,
      Setup.code_append]
  · exact (Setup.isReady_of_setUp hsetup).result_critique_eq rfl 0 d
  · exact Request.ofArguments_append

/-- A directory with one tree in it, and nothing in the tree. -/
def sparse : Host := .ofFiles fun path =>
  if path = .ofString "empty.json" then .ok "{}".toUTF8 else .error .missing

/-- A tree with nothing in it has the name of its file. -/
theorem loadDocument_of_nothing {host : Host} {path : Path} (h : host.Holds path "{}")
    (hdata : dumpData (host.treeRoom path) path "{}" = .ok (.mapping [])) :
    loadDocument host path = .ok ⟨some path.text, []⟩ := by
  rw [loadDocument_eq h, hdata]
  rfl

theorem loadDocument_sparse : loadDocument sparse (.ofString "empty.json") =
    .ok ⟨some (.ofString "empty.json"), []⟩ :=
  loadDocument_of_nothing ⟨_, rfl, by decide +kernel⟩ (by decide +kernel)

/-- What a run without options is set up with. -/
def plainSetup : Setup where
  template := .ofString "%m at line %l, column %c.  %e.  (Severity: %s)\n"
  critic := ⟨[.ofRule .gotoIntoBlock]⟩

/-- Strings as arguments. -/
def argumentsOf (words : List String) : List Text := words.map .ofString

theorem run_append_sparse :
    setUp sparse Reading.start.request = .ok plainSetup ∧
      (∃ (outA outB errA errB : Text) (m n : Nat),
        run sparse (argumentsOf ["--statistics", "empty.json"]) =
          ⟨outA ++ footer true (plainSetup.tally sparse [.ofString "empty.json"]), errA,
            .exit m⟩ ∧
        run sparse (argumentsOf ["--statistics", "--", "gone.json"]) =
          ⟨outB ++ footer true (plainSetup.tally sparse [.ofString "gone.json"]), errB, .exit n⟩ ∧
        run sparse (argumentsOf ["--statistics", "empty.json", "gone.json"]) =
          ⟨outA ++ outB ++ footer true
            (plainSetup.tally sparse [.ofString "empty.json", .ofString "gone.json"]),
            errA ++ errB, .exit (max m n)⟩) ∧
      run sparse (argumentsOf ["--statistics", "empty.json", "gone.json"]) =
        ⟨.ofString "empty.json source OK\n\n1 files.\n0 violations.\n",
          .ofString "Error: gone.json: No such file or directory\n", .exit 2⟩ := by
  have hsetup : setUp sparse Reading.start.request = .ok plainSetup := rfl
  have hgone : loadDocument sparse (.ofString "gone.json") =
      .error (.file (.ofString "gone.json") (.unreadable .missing)) := rfl
  have htrees : ∀ path ∈ [Path.ofString "empty.json"] ++ [Path.ofString "gone.json"],
      ∀ l, loadDocument sparse path ≠ .error (.lapse l) := by
    intro path hpath l hlapse
    rcases List.mem_cons.1 hpath with rfl | hpath
    · cases loadDocument_sparse.symm.trans hlapse
    · obtain rfl := List.mem_singleton.1 hpath
      cases hgone.symm.trans hlapse
  obtain ⟨⟨outA, outB, errA, errB, m, n, -, -, -, hrun⟩, -, -, -, hasked⟩ :=
    run_append hsetup rfl htrees
  have hflags : (Reading.start.request.withSummary true).IsAskedBy
      (argumentsOf ["--statistics"]) :=
    ⟨[.option .statistics none false], by decide +kernel, rfl⟩
  have hone : ∀ w ∈ argumentsOf ["empty.json"], w ≠ twoDashes ∧ Word.ofText w = .ok (.plain w) := by
    decide +kernel
  have htwo : ∀ w ∈ argumentsOf ["empty.json", "gone.json"],
      w ≠ twoDashes ∧ Word.ofText w = .ok (.plain w) := by
    decide +kernel
  refine ⟨hsetup, ⟨outA, outB, errA, errB, m, n, hrun true _ _ _ ?_ ?_ ?_⟩, by decide +kernel⟩
  · exact hasked true _ _ _ hflags (.plain _ hone) (by simp)
  · exact hasked true _ _ _ hflags (.dashed (argumentsOf ["gone.json"])) (by simp)
  · exact hasked true _ _ _ hflags (.plain _ htwo) (by simp)

end CommandLine
end JumpLint

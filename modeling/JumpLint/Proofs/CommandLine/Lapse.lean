import JumpLint.Proofs.CommandLine.Run
import JumpLint.Proofs.Loading.Trees

/-!
# Trees that stop a run

A run names a tree that cannot be loaded and goes on to the next one.  But an error that names no
file ends the run where it stands, and the trees behind it are not looked at.  Here both are shown,
and also that debugging changes nothing but the error output.

## What is here

* `Progress.silenced`, `checkTrees_silenced`: what a run is apart from its error output, and that
  debugging does not change it.
* `checkTrees_append`: the trees behind those that did not end the run.
* `run_on_of_forall`, `run_on_of_lapse`: runs over trees of which none ends the run, and over trees
  of which one does.
* `run_contains_errors`: which errors about trees are contained.
-/

set_option autoImplicit false
namespace JumpLint
namespace CommandLine

/-! ## Debugging -/

/-- Where a run stands, apart from its error output. -/
def Progress.silenced (p : Progress) : Progress := { p with stderr := [] }

/-- Debugging, and what has been written about errors, has no part in what is done with a tree. -/
theorem checkTree_silenced (host : Host) (template : Text) (debug : Bool) {p q : Progress}
    (h : p.silenced = q.silenced) (path : Path) :
    (checkTree host template debug p path).map Progress.silenced id =
      (checkTree host template false q path).map Progress.silenced id := by
  obtain ⟨stdout, stderr, tally, hasFailed, hasFound, critic, documents⟩ := p
  obtain ⟨stdout', stderr', tally', hasFailed', hasFound', critic', documents'⟩ := q
  cases h
  rw [checkTree, checkTree]
  split
  · rfl
  · rfl
  · dsimp only
    split <;> rfl

theorem checkTrees_silenced (host : Host) (template : Text) (debug : Bool) {p q : Progress}
    (h : p.silenced = q.silenced) (trees : List Path) :
    (checkTrees host template debug p trees).map Progress.silenced id =
      (checkTrees host template false q trees).map Progress.silenced id := by
  induction trees generalizing p q with
  | nil => exact congrArg (·, none) h
  | cons path rest ih =>
    have hstep := checkTree_silenced host template debug h path
    rw [checkTrees, checkTrees]
    generalize checkTree host template debug p path = one at hstep ⊢
    generalize checkTree host template false q path = other at hstep ⊢
    obtain ⟨p, failure⟩ := one
    obtain ⟨q, failure'⟩ := other
    obtain ⟨hsame, hfailure⟩ := Prod.mk.inj hstep
    cases show failure = failure' from hfailure
    cases failure with
    | none => exact ih hsame
    | some failure => exact congrArg (·, some failure) hsame

/-! ## Trees that go on, and one that does not -/

/-- The trees behind those that did not end the run are looked at in turn. -/
theorem checkTrees_append {host : Host} {template : Text} {debug : Bool} {p q : Progress}
    {before : List Path} (h : checkTrees host template debug p before = (q, none))
    (rest : List Path) :
    checkTrees host template debug p (before ++ rest) =
      checkTrees host template debug q rest := by
  induction before generalizing p with
  | nil =>
    cases h
    rfl
  | cons path more ih =>
    rw [checkTrees] at h
    rw [List.cons_append, checkTrees]
    split at h
    · cases h
    · exact ih h

variable {host : Host} {request : Request} {s : Setup}

/-- Where a run stands after trees of which none ended it, with debugging or without it. -/
theorem exists_checkTrees (hsetup : setUp host request = .ok s) {trees : List Path}
    (htrees : ∀ path ∈ trees, ∀ l, loadDocument host path ≠ .error (.lapse l)) (debug : Bool) :
    ∃ p q, checkTrees host s.template debug (.start s.critic) trees = (p, none) ∧
      q.IsAfter s host trees ∧ p.silenced = q.silenced ∧ (debug = false → p = q) := by
  obtain ⟨q, hrun, hq⟩ := (Progress.isAfter_start s host).checkTrees
    (Setup.isReady_of_setUp hsetup) htrees
  rw [List.nil_append] at hq
  have hsame := checkTrees_silenced host s.template debug
    (show (Progress.start s.critic).silenced = (Progress.start s.critic).silenced from rfl) trees
  rw [hrun] at hsame
  generalize hp : checkTrees host s.template debug (.start s.critic) trees = run at hsame
  obtain ⟨p, failure⟩ := run
  obtain ⟨hsilenced, hnone⟩ := Prod.mk.inj hsame
  cases show failure = none from hnone
  refine ⟨p, q, rfl, hq, hsilenced, ?_⟩
  rintro rfl
  rw [hrun] at hp
  cases hp
  rfl

/-- **A run goes on.**  Trees that cannot be loaded are named and the others are reported, as long
as none ends the run. -/
theorem run_on_of_forall (hsetup : setUp host request = .ok s) {trees : List Path}
    (htrees : ∀ path ∈ trees, ∀ l, loadDocument host path ≠ .error (.lapse l)) :
    ∃ stderr, (request.debug = false → stderr = s.stderr host trees) ∧
      (request.on trees).run host =
        ⟨s.stdout host trees ++ footer request.statistics (s.tally host trees), stderr,
          .exit (s.code host trees)⟩ := by
  have hsame : setUp host (request.on trees) = .ok s := hsetup
  obtain ⟨p, q, hrun, hq, hsilenced, hquiet⟩ := exists_checkTrees hsetup htrees request.debug
  obtain ⟨hstdout, -, htally, hfailed, hfound, -⟩ := Progress.mk.inj hsilenced
  refine ⟨p.stderr, fun hdebug => by rw [hquiet hdebug, hq.stderr], ?_⟩
  have hstdout : p.stdout = s.stdout host trees := hstdout.trans hq.stdout
  have htally : p.tally = s.tally host trees := htally.trans hq.tally
  have hcode : p.code = s.code host trees := by
    rw [Progress.code, show p.hasFailed = q.hasFailed from hfailed,
      show p.hasFound = q.hasFound from hfound, hq.hasFailed, hq.hasFound]
    rfl
  simp only [Request.run, hsame]
  rw [show (request.on trees).trees = trees from rfl,
    show (request.on trees).debug = request.debug from rfl, hrun]
  simp only [hstdout, htally, hcode]
  rfl

/-- **A run ends early.**  A tree with an error that stands alone ends the run: the trees in front
of it have been reported, and those behind it are not. -/
theorem run_on_of_lapse (hsetup : setUp host request = .ok s) {before after : List Path}
    {path : Path} (hbefore : ∀ path ∈ before, ∀ l, loadDocument host path ≠ .error (.lapse l))
    {l : Lapse} (hpath : loadDocument host path = .error (.lapse l)) :
    ∃ stderr, (request.debug = false → stderr = s.stderr host before) ∧
      (request.on (before ++ path :: after)).run host =
        ⟨s.stdout host before, stderr, .failure (.lapse l)⟩ := by
  have hsame : setUp host (request.on (before ++ path :: after)) = .ok s := hsetup
  obtain ⟨p, q, hrun, hq, hsilenced, hquiet⟩ := exists_checkTrees hsetup hbefore request.debug
  obtain ⟨hstdout, -⟩ := Progress.mk.inj hsilenced
  have hstdout : p.stdout = s.stdout host before := hstdout.trans hq.stdout
  have hstop : checkTrees host s.template request.debug p (path :: after) =
      (p, some (.lapse l)) := by
    rw [checkTrees, checkTree, hpath]
  refine ⟨p.stderr, fun hdebug => by rw [hquiet hdebug, hq.stderr], ?_⟩
  simp only [Request.run, hsame]
  rw [show (request.on (before ++ path :: after)).trees = before ++ path :: after from rfl,
    show (request.on (before ++ path :: after)).debug = request.debug from rfl,
    checkTrees_append hrun, hstop]
  simp only [hstdout]

/-- **Which errors about trees are contained.**  A tree gives a document, an error that begins with
its path, or an error that stands alone, which has one of seven causes.  A run names trees that
cannot be loaded and reports all others, in whatever order they stand, as long as no error stands
alone; the first such error ends it, and the trees behind are neither reported nor named. -/
theorem run_contains_errors (hsetup : setUp host request = .ok s) :
    (∀ path, (∃ d, loadDocument host path = .ok d) ∨
      (∃ fault, loadDocument host path = .error (.file path fault) ∧
        (LoadError.file path fault).message =
          path.text ++ .ofString (": " ++ fault.message)) ∨
      ∃ l, loadDocument host path = .error (.lapse l) ∧ l.IsOfTree host path) ∧
    (∀ trees, (∀ path ∈ trees, ∀ l, loadDocument host path ≠ .error (.lapse l)) →
      ∃ stderr, (request.debug = false → stderr = s.stderr host trees) ∧
        (request.on trees).run host =
          ⟨s.stdout host trees ++ footer request.statistics (s.tally host trees), stderr,
            .exit (s.code host trees)⟩) ∧
    ∀ before path after l,
      (∀ earlier ∈ before, ∀ l, loadDocument host earlier ≠ .error (.lapse l)) →
      loadDocument host path = .error (.lapse l) →
      ∃ stderr, (request.debug = false → stderr = s.stderr host before) ∧
        (request.on (before ++ path :: after)).run host =
          ⟨s.stdout host before, stderr, .failure (.lapse l)⟩ := by
  refine ⟨fun path => ?_, fun trees htrees => run_on_of_forall hsetup htrees,
    fun before path after l hbefore hpath => run_on_of_lapse hsetup hbefore hpath⟩
  cases hload : loadDocument host path with
  | ok d => exact .inl ⟨d, rfl⟩
  | error e =>
    cases failsOnly_loadDocument host path e hload with
    | file fault => exact .inr (.inl ⟨fault, rfl, rfl⟩)
    | lapse h => exact .inr (.inr ⟨_, rfl, h⟩)

/-- A directory with a tree whose only byte is no text, and with a tree that is in order. -/
def spoiled : Host := .ofFiles fun path =>
  if path = .ofString "bad.json" then .ok ⟨#[0xFF]⟩
  else if path = .ofString "good.json" then .ok "{}".toUTF8
  else .error .missing

theorem loadDocument_spoiled :
    loadDocument spoiled (.ofString "bad.json") = .error (.lapse .notUtf8) :=
  loadDocument_eq_notUtf8_iff.2 ⟨⟨#[0xFF]⟩, rfl, by decide +kernel⟩

theorem run_contains_errors_spoiled :
    setUp spoiled Reading.start.request = .ok plainSetup ∧
      (∃ fault, loadDocument spoiled (.ofString "gone.json") =
        .error (.file (.ofString "gone.json") fault)) ∧
      loadDocument spoiled (.ofString "bad.json") = .error (.lapse .notUtf8) ∧
      (∃ stderr,
        (Reading.start.request.on [.ofString "gone.json", .ofString "good.json"]).run spoiled =
          ⟨.ofString "good.json source OK\n", stderr, .exit 2⟩) ∧
      ∃ stderr, (Reading.start.request.on
        ([.ofString "good.json"] ++ .ofString "bad.json" :: [.ofString "good.json"])).run spoiled =
          ⟨.ofString "good.json source OK\n", stderr, .failure (.lapse .notUtf8)⟩ := by
  have hsetup : setUp spoiled Reading.start.request = .ok plainSetup := rfl
  have hgood : loadDocument spoiled (.ofString "good.json") =
      .ok ⟨some (.ofString "good.json"), []⟩ :=
    loadDocument_of_nothing ⟨_, rfl, by decide +kernel⟩ (by decide +kernel)
  have hgone : loadDocument spoiled (.ofString "gone.json") =
      .error (.file (.ofString "gone.json") (.unreadable .missing)) := rfl
  have hahead : ∀ path ∈ [Path.ofString "gone.json", .ofString "good.json"],
      ∀ l, loadDocument spoiled path ≠ .error (.lapse l) := by
    intro path hpath l hlapse
    rcases List.mem_cons.1 hpath with rfl | hpath
    · cases hgone.symm.trans hlapse
    · obtain rfl := List.mem_singleton.1 hpath
      cases hgood.symm.trans hlapse
  obtain ⟨-, hgoes, hends⟩ := run_contains_errors hsetup
  obtain ⟨stderr, -, hrun⟩ := hgoes _ hahead
  obtain ⟨stderr', -, hstop⟩ := hends [.ofString "good.json"] _ [.ofString "good.json"] _
    (fun path hpath => hahead path (List.mem_cons_of_mem _ hpath)) loadDocument_spoiled
  have hstdout : plainSetup.stdout spoiled [.ofString "gone.json", .ofString "good.json"] =
      .ofString "good.json source OK\n" := by decide +kernel
  have hstdout' : plainSetup.stdout spoiled [.ofString "good.json"] =
      .ofString "good.json source OK\n" := by decide +kernel
  have hcode : plainSetup.code spoiled [.ofString "gone.json", .ofString "good.json"] = 2 := by
    decide +kernel
  refine ⟨hsetup, ⟨_, hgone⟩, loadDocument_spoiled, ⟨stderr, ?_⟩, stderr', ?_⟩
  · rw [hrun, hstdout, hcode]
    rfl
  · rw [hstop, hstdout']

/-- The byte that is no text is met by nobody, and the tree behind it is not looked at. -/
theorem spoiled_stops_run :
    (¬∃ d, loadDocument spoiled (.ofString "bad.json") = .ok d) ∧
      (¬∃ path fault, loadDocument spoiled (.ofString "bad.json") = .error (.file path fault)) ∧
      run spoiled (argumentsOf ["bad.json", "good.json"]) = ⟨[], [], .failure (.lapse .notUtf8)⟩ ∧
      run spoiled (argumentsOf ["good.json"]) =
        ⟨.ofString "good.json source OK\n", [], .exit 0⟩ := by
  refine ⟨?_, ?_, by decide +kernel, by decide +kernel⟩
  · rintro ⟨d, hd⟩
    cases loadDocument_spoiled.symm.trans hd
  · rintro ⟨path, fault, hfault⟩
    cases loadDocument_spoiled.symm.trans hfault

end CommandLine
end JumpLint

import JumpLint.Proofs.CommandLine.Run
import JumpLint.Proofs.Profile.Choice
import JumpLint.Proofs.Profile.Reading
import JumpLint.Proofs.Text.Trim

/-!
# Options that count more than the profile

A least severity and themes can be given as options, and then they count more than those of the
profile.  Options take their values from words and change a profile that has been read; entries of a
profile are checked as data before there is a profile.  Here it is shown that both ways lead to the
same: a run with such options is the run with a profile in which the entries are set accordingly.

## What is here

* `SeverityWord`, `Overrides`: what the options name, which is in order.
* `Overrides.edit`, `Overrides.adjust`: entries of a profile, and a profile, with the overrides set;
  `Overrides.isReadFrom_edit` says that the one is read from the other.
* `HoldsProfile`: a file whose content is read as given entries.
* `setUp_overridden`, `checkTrees_congr`, `Request.run_edited`: runs are set up the same, find the
  same trees and come to the same.
* `Overrides.words`: the overrides as arguments; `Overrides.ofTexts_words` and
  `Overrides.read_forms` say what is read from them.
* `run_overridden`: the two ways compared.
-/

set_option autoImplicit false
namespace JumpLint
namespace CommandLine

/-! ## Overrides -/

/-- A word that names a severity. -/
structure SeverityWord where
  text : Text
  severity : Severity
  parse_eq : Severity.parse text = .ok severity

/-- What counts more than a profile: a word for a severity, and themes.  If there are themes there
is at least one, and none of them begins with a dash. -/
structure Overrides where
  severity : Option SeverityWord
  themes : Option (List Text)
  themes_ne_nil : themes ≠ some []
  head_themes_ne : ∀ names, themes = some names → ∀ t ∈ names, t.head? ≠ some (.char '-')

namespace Overrides

variable (o : Overrides)

/-- The entry for the severity, set to the word. -/
def editSeverity (entries : List (Datum × Datum)) : List (Datum × Datum) :=
  match o.severity with
  | some word => Datum.insert (.text (.ofString "severity")) (.text word.text) entries
  | none => entries

/-- The entry for the themes, set to the list of them. -/
def editThemes (entries : List (Datum × Datum)) : List (Datum × Datum) :=
  match o.themes with
  | some names =>
    Datum.insert (.text (.ofString "theme")) (.list (names.map .text)) entries
  | none => entries

/-- The entries of a profile with the overrides among them. -/
def edit (entries : List (Datum × Datum)) : List (Datum × Datum) :=
  o.editThemes (o.editSeverity entries)

/-- A profile in which the overrides count. -/
def adjust (profile : Profile) : Profile :=
  { profile with
    severity := (o.severity.map (·.severity)).getD profile.severity
    themes := o.themes.getD profile.themes }

end Overrides
/-- Names in a list are the themes. -/
theorem asThemes_names (names : List Text) :
    (Datum.list (names.map .text)).asThemes = .ok names := by
  change Checked.each Datum.asText _ = _
  rw [Checked.each_eq_ok_iff, List.forall₂_map_left_iff, List.forall₂_same]
  exact fun _ _ => rfl

theorem SeverityWord.asSetSeverity_eq (word : SeverityWord) :
    (Datum.text word.text).asSetSeverity = .ok word.severity := by
  rw [Datum.asSetSeverity]
  simp only [word.parse_eq]

/-- **Entries with the overrides among them** are those of the profile in which the overrides
count. -/
theorem Overrides.isReadFrom_edit (o : Overrides) {profile : Profile}
    {entries : List (Datum × Datum)} (h : profile.IsReadFrom entries) :
    (o.adjust profile).IsReadFrom (o.edit entries) := by
  obtain ⟨severity, themes, -, -⟩ := o
  cases severity with
  | none =>
    cases themes with
    | none => exact h
    | some names => exact h.insert_theme (asThemes_names names)
  | some word =>
    have hset := h.insert_severity word.asSetSeverity_eq
    cases themes with
    | none => exact hset
    | some names => exact hset.insert_theme (asThemes_names names)

/-! ## Files -/

/-- A file that is read as a mapping with these entries. -/
def HoldsProfile (host : Host) (path : Path) (entries : List (Datum × Datum)) : Prop :=
  ∃ bytes, readFile host path = .ok bytes ∧
    Yaml.readTyped profileDepth (host.profileRoom path) (.ofFile bytes) = .ok (.mapping entries)

theorem HoldsProfile.loadProfile_eq {host : Host} {path : Path} {entries : List (Datum × Datum)}
    (h : HoldsProfile host path entries) {profile : Profile} (hread : profile.IsReadFrom entries) :
    loadProfile host path = .ok profile := by
  obtain ⟨bytes, hbytes, hparsed⟩ := h
  have hprofile := Profile.ofDatum_mapping_eq_ok_iff.2 hread
  rw [loadProfile, hbytes]
  refine bind_eq_ok_iff.2 ⟨bytes, rfl, ?_⟩
  rw [hparsed]
  refine bind_eq_ok_iff.2 ⟨_, rfl, ?_⟩
  simp only [hprofile]
  rfl

/-! ## Requests -/

/-- A request with this profile. -/
def Request.withProfile (request : Request) (path : Path) : Request :=
  { request with profile := some path }

/-- A request with the overrides in place of a severity and themes of its own. -/
def Request.overridden (request : Request) (o : Overrides) : Request :=
  { request with severity := o.severity.map (·.severity), themes := o.themes }

/-- A request in which nothing counts more than the profile. -/
structure Request.IsUnadjusted (request : Request) : Prop where
  severity : request.severity = none
  themes : request.themes = none

theorem Request.adjust_overridden (request : Request) (o : Overrides) (profile : Profile) :
    (request.overridden o).adjust profile = o.adjust profile := rfl

theorem Request.IsUnadjusted.adjust_eq {request : Request} (h : request.IsUnadjusted)
    (profile : Profile) : request.adjust profile = profile := by
  rw [Request.adjust, h.severity, h.themes]
  rfl

variable {host host' : Host} {path path' : Path} {entries : List (Datum × Datum)}
  {profile : Profile} {request : Request} {trees : List Path}

/-- **Runs are set up the same** with overrides as with the edited profile. -/
theorem setUp_overridden (o : Overrides) (hprofile : HoldsProfile host path entries)
    (hedited : HoldsProfile host' path' (o.edit entries)) (hread : profile.IsReadFrom entries)
    (hrequest : request.IsUnadjusted) :
    setUp host ((request.withProfile path).overridden o) =
      setUp host' (request.withProfile path') := by
  have hbase : ((request.withProfile path).overridden o).baseProfile host = .ok profile :=
    hprofile.loadProfile_eq hread
  have hbase' : (request.withProfile path').baseProfile host' = .ok (o.adjust profile) :=
    hedited.loadProfile_eq (o.isReadFrom_edit hread)
  have hadjust : (request.withProfile path').adjust (o.adjust profile) = o.adjust profile :=
    Request.IsUnadjusted.adjust_eq ⟨hrequest.severity, hrequest.themes⟩ _
  rw [setUp, setUp, hbase, hbase']
  simp only [Request.adjust_overridden, hadjust]
  rfl

/-- Runs find the same trees, so they come to the same. -/
theorem checkTrees_congr
    (htrees : ∀ tree ∈ trees, loadDocument host tree = loadDocument host' tree)
    (template : Text) (debug : Bool) (p : Progress) :
    checkTrees host template debug p trees = checkTrees host' template debug p trees := by
  induction trees generalizing p with
  | nil => rfl
  | cons tree rest ih =>
    have hstep : checkTree host template debug p tree =
        checkTree host' template debug p tree := by
      rw [checkTree, checkTree, htrees tree List.mem_cons_self]
    rw [checkTrees, checkTrees, hstep]
    split
    · rfl
    · exact ih (fun other hother => htrees other (List.mem_cons_of_mem tree hother)) _

/-- **Runs come to the same** with overrides as with the edited profile. -/
theorem Request.run_edited (o : Overrides) (hprofile : HoldsProfile host path entries)
    (hedited : HoldsProfile host' path' (o.edit entries)) (hread : profile.IsReadFrom entries)
    (hrequest : request.IsUnadjusted)
    (htrees : ∀ tree ∈ trees, loadDocument host tree = loadDocument host' tree) :
    (((request.withProfile path).overridden o).on trees).run host =
      ((request.withProfile path').on trees).run host' := by
  -- trees have no part in setting up
  have hunadjusted : (request.on trees).IsUnadjusted := ⟨hrequest.severity, hrequest.themes⟩
  have hready := setUp_overridden o hprofile hedited hread hunadjusted
  have hsetup : setUp host (((request.withProfile path).overridden o).on trees) =
      setUp host' ((request.withProfile path').on trees) := hready
  rw [Request.run, Request.run, hsetup]
  split
  · rfl
  · rename_i setup _
    have hrun := checkTrees_congr htrees setup.template request.debug (.start setup.critic)
    simp only [show (((request.withProfile path).overridden o).on trees).trees = trees from rfl,
      show (((request.withProfile path).overridden o).on trees).debug = request.debug from rfl,
      hrun]
    rfl

/-- Whether the parameters of a profile are known does not depend on what counts more than it. -/
theorem Overrides.critic_adjust_eq_error_iff {o : Overrides} {e : UnknownParameter} :
    (o.adjust profile).critic = .error e ↔ profile.critic = .error e := by
  rw [Profile.critic, Profile.critic, map_eq_error_iff, map_eq_error_iff]
  exact Profile.selectFrom_eq_error_iff.trans
    (@Profile.selectFrom_eq_error_iff profile _ _).symm

/-- A parameter that is unknown is reported with overrides as it is without them. -/
theorem Request.run_overridden_of_error (o : Overrides)
    (hprofile : HoldsProfile host path entries) (hread : profile.IsReadFrom entries)
    {template : Text} (htemplate : request.template = .ok template) {e : UnknownParameter}
    (he : profile.critic = .error e) :
    (((request.withProfile path).overridden o).on trees).run host =
      .refusal (.ofString e.message) := by
  have hbase : (((request.withProfile path).overridden o).on trees).baseProfile host =
      .ok profile := hprofile.loadProfile_eq hread
  have hshown : (((request.withProfile path).overridden o).on trees).template = .ok template :=
    htemplate
  have hcritic : ((((request.withProfile path).overridden o).on trees).adjust profile).critic =
      .error e := Overrides.critic_adjust_eq_error_iff.2 he
  rw [Request.run, setUp, hshown, hbase]
  simp only [hcritic]

/-! ## Words -/

theorem exists_lower_dash (t : Text) :
    ∃ small, Text.lower (.char '-' :: t) = .char '-' :: small :=
  ⟨_, rfl⟩

/-- No word for a severity begins with a dash. -/
theorem ofWord?_dash (t : Text) : Severity.ofWord? (.char '-' :: t) = none := by
  rw [Severity.ofWord?, List.find?_eq_none]
  intro s _ hword
  have hhead : some (CodePoint.char '-') = (Text.ofString s.word).head? :=
    congrArg List.head? (beq_iff_eq.1 hword)
  revert hhead
  cases s <;> decide +kernel

theorem SeverityWord.head_text_ne (word : SeverityWord) : word.text.head? ≠ some (.char '-') := by
  intro hhead
  obtain ⟨rest, hrest⟩ := List.head?_eq_some_iff.1 hhead
  -- a dash in front is neither trimmed nor made small, and then there is no word and no number
  obtain ⟨trimmed, htrim⟩ := Text.exists_trim_cons (p := CodePoint.isIn Text.isBlank)
    (x := .char '-') rfl rest
  obtain ⟨small, hlower⟩ := exists_lower_dash trimmed
  have hname : Text.lower (Text.trimBlanks word.text) = .char '-' :: small := by
    rw [hrest, ← hlower, ← htrim]
    rfl
  have hparse := word.parse_eq
  rw [Severity.parse, hname] at hparse
  simp only [ofWord?_dash] at hparse
  cases hparse

theorem Word.ofText_of_head_ne {text : Text} (h : text.head? ≠ some (.char '-')) :
    Word.ofText text = .ok (.plain text) := by
  rw [Word.ofText]
  rintro c rest rfl
  exact h rfl

/-- The words of an option with values, one after the other. -/
def optionWords (option : Text) (values : List Text) : List Text :=
  values.flatMap fun value => [option, value]

/-- What these words are by their form. -/
def optionForms (flag : Flag) (values : List Text) : List Word :=
  values.flatMap fun value => [.option flag none false, .plain value]

theorem Word.ofTexts_optionWords {option : Text} {flag : Flag}
    (hoption : Word.ofText option = .ok (.option flag none false)) (hdashes : option ≠ twoDashes)
    {values : List Text} (h : ∀ value ∈ values, value.head? ≠ some (.char '-')) :
    Word.ofTexts (optionWords option values) = .ok (optionForms flag values) := by
  induction values with
  | nil => rfl
  | cons value rest ih =>
    obtain ⟨hvalue, hrest⟩ := List.forall_mem_cons.1 h
    have hplain : value ≠ twoDashes := by
      rintro rfl
      exact hvalue rfl
    rw [optionWords, List.flatMap_cons, List.cons_append, List.cons_append, List.nil_append,
      ofTexts, if_neg (by simpa using hdashes), hoption, ofTexts, if_neg (by simpa using hplain),
      ofText_of_head_ne hvalue, ← optionWords, ih hrest]
    rfl

namespace Overrides

/-- The overrides as arguments. -/
def words (o : Overrides) : List Text :=
  optionWords (.ofString "--severity") (o.severity.map (·.text)).toList ++
    optionWords (.ofString "--theme") (o.themes.getD [])

/-- What these arguments are by their form. -/
def forms (o : Overrides) : List Word :=
  optionForms .severity (o.severity.map (·.text)).toList ++ optionForms .theme (o.themes.getD [])

theorem dashes_not_mem_optionForms (flag : Flag) (values : List Text) :
    Word.dashes ∉ optionForms flag values := by
  simp [optionForms]

theorem ofTexts_words (o : Overrides) : Word.ofTexts o.words = .ok o.forms := by
  have hwords : ∀ value ∈ (o.severity.map (·.text)).toList, value.head? ≠ some (.char '-') := by
    intro value hvalue
    obtain ⟨word, -, rfl⟩ := Option.map_eq_some_iff.1 (Option.mem_toList.1 hvalue)
    exact word.head_text_ne
  have hnames : ∀ value ∈ o.themes.getD [], value.head? ≠ some (.char '-') := by
    cases hthemes : o.themes with
    | none => exact nofun
    | some names => exact o.head_themes_ne names hthemes
  have hseverity : Word.ofText (.ofString "--severity") = .ok (.option .severity none false) := by
    decide +kernel
  have htheme : Word.ofText (.ofString "--theme") = .ok (.option .theme none false) := by
    decide +kernel
  have hfirst := Word.ofTexts_optionWords hseverity (by decide) hwords
  rw [words, Word.ofTexts_append hfirst (dashes_not_mem_optionForms _ _),
    Word.ofTexts_optionWords htheme (by decide) hnames]
  rfl

end Overrides

/-! ## Reading the words -/

namespace Reading

/-- A reading where an option begins, which ends the row in front of it. -/
def beforeOption (r : Reading) (row : List Word) : Reading :=
  if row.isEmpty then r else r.endRow row

theorem endRow_eq_beforeOption (r : Reading) (row : List Word) :
    r.endRow row = r.beforeOption row := by
  cases row with
  | nil => simp [endRow, beforeOption]
  | cons => rfl

/-- An option that has a value takes the next word. -/
theorem read_value (r : Reading) {flag : Flag} (hflag : flag.hasValue = true) (row : List Word)
    (isShort : Bool) (value : Text) (rest : List Word) :
    r.read row (.option flag none isShort :: .plain value :: rest) =
      (r.beforeOption row).setValue flag value >>= fun s => s.read [] rest := by
  rw [read.eq_def]
  exact if_neg (by simp [hflag])

/-- A reading of a request with these themes behind its own. -/
def withThemes (r : Reading) (names : List Text) : Reading :=
  if names.isEmpty then r
  else
    { r with
      request := { r.request with themes := some (r.request.themes.getD [] ++ names) } }

/-- **Themes are collected** in the order in which they are given. -/
theorem read_themes (r : Reading) (row : List Word) (names : List Text) :
    r.read row (optionForms .theme names) = .ok ((r.beforeOption row).withThemes names) := by
  -- a row is ended by the first option only, behind it each one follows upon a value
  induction names generalizing r row with
  | nil => exact congrArg Except.ok (r.endRow_eq_beforeOption row)
  | cons name more ih =>
    have hvalue : Flag.theme.hasValue = true := rfl
    have hstep := r.read_value hvalue row false name (optionForms .theme more)
    refine hstep.trans ((ih _ []).trans (congrArg Except.ok ?_))
    cases more <;> simp [withThemes, beforeOption]

/-- Themes that are the first are the themes. -/
theorem withThemes_getD {r : Reading} (hr : r.request.themes = none) {themes : Option (List Text)}
    (hne : themes ≠ some []) :
    r.withThemes (themes.getD []) = { r with request := { r.request with themes := themes } } := by
  cases themes with
  | none =>
    obtain ⟨request, hasTrees, extras⟩ := r
    cases request
    cases hr
    rfl
  | some names =>
    obtain ⟨name, more, rfl⟩ := List.exists_cons_of_ne_nil fun h => hne (congrArg some h)
    simp [withThemes, hr]

end Reading

/-- **What is read from overrides**, whatever row of words they end, if there was no severity and
there were no themes before. -/
theorem Overrides.read_forms (o : Overrides) {r : Reading} {row : List Word}
    (h : (r.beforeOption row).request.IsUnadjusted) :
    r.read row o.forms =
      .ok { r.beforeOption row with request := (r.beforeOption row).request.overridden o } := by
  obtain ⟨severity, themes, hne, -⟩ := o
  cases severity with
  | none =>
    refine (r.read_themes row (themes.getD [])).trans (congrArg Except.ok ?_)
    rw [Reading.withThemes_getD h.themes hne]
    simp [Request.overridden, h.severity]
  | some word =>
    have hvalue : Flag.severity.hasValue = true := rfl
    have hstep := r.read_value hvalue row false word.text (optionForms .theme (themes.getD []))
    refine hstep.trans ?_
    rw [Reading.setValue]
    simp only [word.parse_eq]
    refine (Reading.read_themes _ [] (themes.getD [])).trans (congrArg Except.ok ?_)
    refine Reading.withThemes_getD ?_ hne
    exact h.themes

/-- Overrides behind options. -/
theorem Request.IsAskedBy.overridden {flags : List Text} (h : request.IsAskedBy flags)
    (hrequest : request.IsUnadjusted) (o : Overrides) :
    (request.overridden o).IsAskedBy (flags ++ o.words) := by
  obtain ⟨words, hwords, hread⟩ := h
  obtain ⟨-, hdashes, hall⟩ := Reading.read_append hread ⟨rfl, rfl⟩ o.forms
  refine ⟨words ++ o.forms, ?_, hall.trans (o.read_forms hrequest)⟩
  rw [Word.ofTexts_append hwords hdashes, o.ofTexts_words]
  rfl

theorem Reading.read_plain (r : Reading) (row : List Word) (names : List Text)
    (rest : List Word) :
    r.read row (names.map .plain ++ rest) = r.read (row ++ names.map .plain) rest := by
  induction names generalizing row with
  | nil => rw [List.map_nil, List.nil_append, List.append_nil]
  | cons name more ih =>
    rw [List.map_cons, List.cons_append, read, ih, List.append_assoc, List.singleton_append]

/-- Overrides behind options and paths. -/
theorem Request.ofArguments_append_overrides {flags names : List Text}
    (hflags : request.IsAskedBy flags) (hrequest : request.IsUnadjusted)
    (hnames : ∀ w ∈ names, w ≠ twoDashes ∧ Word.ofText w = .ok (.plain w)) (hne : names ≠ [])
    (o : Overrides) :
    Request.ofArguments (flags ++ names ++ o.words) =
      .ok ((request.overridden o).on (names.map Path.ofText)) := by
  obtain ⟨words, hwords, hread⟩ := hflags
  obtain ⟨-, hdashes, hall⟩ := Reading.read_append hread ⟨rfl, rfl⟩ (names.map .plain ++ o.forms)
  have hrow : Reading.beforeOption ⟨request, false, []⟩ (names.map .plain) =
      ⟨request.on (names.map Path.ofText), true, []⟩ := by
    rw [← Reading.endRow_eq_beforeOption, Reading.endRow_names (.inl rfl) hne]
  have hbefore : (Reading.beforeOption ⟨request, false, []⟩
      (names.map .plain)).request.IsUnadjusted := by
    rw [hrow]
    exact ⟨hrequest.severity, hrequest.themes⟩
  have hset := o.read_forms hbefore
  rw [Reading.read_plain, List.nil_append, hset, hrow] at hall
  rw [List.append_assoc, ofArguments, Word.ofTexts_append hwords hdashes,
    Word.ofTexts_append (Word.ofTexts_plain hnames) (by simp), o.ofTexts_words]
  exact bind_eq_ok_iff.2 ⟨_, rfl, bind_eq_ok_iff.2 ⟨_, hall, rfl⟩⟩

/-! ## Whole runs -/

/-- **Overrides are edits of the profile.**  Take a profile in a file, overrides, and a file with
the same profile in which the entries for the severity and the themes are set to what the overrides
name.  A run with the one profile and the overrides writes the same and ends the same as a run with
the other profile, as long as both find the same trees, however the two are asked for.  In
particular the overrides may stand behind other options, in front of the paths or behind them, and
there may be no paths.  Such a run has the critic of the profile in which the overrides count, and
a parameter that is not supported is reported as it is without them. -/
theorem run_overridden {o : Overrides} (hprofile : HoldsProfile host path entries)
    (hedited : HoldsProfile host' path' (o.edit entries))
    (hvalid : Profile.ofDatum (.mapping entries) = .ok profile) (hrequest : request.IsUnadjusted)
    (htrees : ∀ tree ∈ trees, loadDocument host tree = loadDocument host' tree) :
    (∀ arguments arguments',
      Request.ofArguments arguments = .ok (((request.withProfile path).overridden o).on trees) →
      Request.ofArguments arguments' = .ok ((request.withProfile path').on trees) →
        run host arguments = run host' arguments') ∧
      (∀ flags flags', (request.withProfile path).IsAskedBy flags →
        (request.withProfile path').IsAskedBy flags' →
          (∀ words, IsPathRow words trees →
            run host (flags ++ o.words ++ words) = run host' (flags' ++ words)) ∧
          ∀ words, trees = words.map Path.ofText →
            (∀ w ∈ words, w ≠ twoDashes ∧ Word.ofText w = .ok (.plain w)) →
              run host (flags ++ words ++ o.words) = run host' (flags' ++ words)) ∧
      ∀ template, request.template = .ok template →
        (∀ critic, (o.adjust profile).critic = .ok critic →
          setUp host (((request.withProfile path).overridden o).on trees) =
            .ok ⟨template, critic⟩) ∧
          ∀ e arguments, profile.critic = .error e →
            Request.ofArguments arguments =
              .ok (((request.withProfile path).overridden o).on trees) →
            run host arguments = .refusal (.ofString e.message) := by
  have hread := Profile.ofDatum_mapping_eq_ok_iff.1 hvalid
  have hsame : ∀ arguments arguments',
      Request.ofArguments arguments = .ok (((request.withProfile path).overridden o).on trees) →
      Request.ofArguments arguments' = .ok ((request.withProfile path').on trees) →
        run host arguments = run host' arguments' := by
    intro arguments arguments' hasked hasked'
    rw [run, run, hasked, hasked']
    exact Request.run_edited o hprofile hedited hread hrequest htrees
  have hunadjusted : (request.withProfile path).IsUnadjusted :=
    ⟨hrequest.severity, hrequest.themes⟩
  refine ⟨hsame, fun flags flags' hflags hflags' => ⟨fun words hwords => ?_, ?_⟩,
    fun template htemplate => ⟨fun critic hcritic => ?_, fun e arguments he hasked => ?_⟩⟩
  · have hbehind := hflags.overridden hunadjusted o
    rcases eq_or_ne trees [] with rfl | hne
    · rw [run, run, Request.ofArguments_append_nil hbehind hwords,
        Request.ofArguments_append_nil hflags' hwords]
    · exact hsame _ _ (Request.ofArguments_append hbehind hwords hne)
        (Request.ofArguments_append hflags' hwords hne)
  · rintro words rfl hwords
    rcases eq_or_ne words [] with rfl | hne
    · have hbehind := Request.ofArguments_append_nil (hflags.overridden hunadjusted o)
        (.plain [] hwords)
      rw [List.append_nil] at hbehind ⊢
      rw [run, run, hbehind, Request.ofArguments_append_nil hflags' (.plain [] hwords)]
    · exact hsame _ _ (Request.ofArguments_append_overrides hflags hunadjusted hwords hne o)
        (Request.ofArguments_append hflags' (.plain words hwords) (by simpa using hne))
  · exact setUp_eq_ok_iff.2 ⟨htemplate, profile, hprofile.loadProfile_eq hread, hcritic⟩
  · rw [run, hasked]
    exact Request.run_overridden_of_error o hprofile hread htemplate he

/-- Whether items are texts, and these texts. -/
def areTexts : List Datum → List Text → Bool
  | [], [] => true
  | .text t :: items, s :: texts => t == s && areTexts items texts
  | _, _ => false

theorem eq_of_areTexts {items : List Datum} {texts : List Text}
    (h : areTexts items texts = true) : items = texts.map .text := by
  fun_induction areTexts items texts with
  | case1 => rfl
  | case2 t items s texts ih =>
    obtain ⟨htext, hitems⟩ := Bool.and_eq_true_iff.1 h
    rw [List.map_cons, ← ih hitems, ← beq_iff_eq.1 htext]
  | case3 => cases h

/-- The entries of a profile with a word for the severity and a list of themes. -/
def plainEntries (word : Text) (themes : List Text) : List (Datum × Datum) :=
  [Datum.entry "severity" (.text word), Datum.entry "theme" (.list (themes.map .text))]

/-- Whether data has these entries. -/
def isPlain (word : Text) (themes : List Text) : Except Yaml.Error Datum → Bool
  | .ok (.mapping [(.text first, .text value), (.text second, .list items)]) =>
    first == .ofString "severity" && value == word && second == .ofString "theme" &&
      areTexts items themes
  | _ => false

theorem eq_of_isPlain {word : Text} {themes : List Text} {data : Except Yaml.Error Datum}
    (h : isPlain word themes data = true) : data = .ok (.mapping (plainEntries word themes)) := by
  rw [isPlain.eq_def] at h
  split at h
  · simp only [Bool.and_eq_true, beq_iff_eq] at h
    obtain ⟨⟨⟨rfl, rfl⟩, rfl⟩, hitems⟩ := h
    rw [eq_of_areTexts hitems]
    rfl
  · cases h

/-- A directory with a profile, the same one edited, and a tree with nothing in it. -/
def shelf : Host := .ofFiles fun path =>
  if path = .ofString "gentle.yaml" then .ok "severity: gentle\ntheme: [core]\n".toUTF8
  else if path = .ofString "stern.yaml" then
    .ok "severity: ' Stern '\ntheme: [bugs, '5']\n".toUTF8
  else if path = .ofString "empty.json" then .ok "{}".toUTF8
  else .error .missing

/-- The entries of the profile as it is. -/
def gentleEntries : List (Datum × Datum) :=
  plainEntries (.ofString "gentle") [.ofString "core"]

/-- The overrides that make the one profile the other. -/
def sternOverrides : Overrides where
  severity := some ⟨.ofString " Stern ", .high, by decide +kernel⟩
  themes := some [.ofString "bugs", .ofString "5"]
  themes_ne_nil := by decide
  head_themes_ne := by
    rintro _ ⟨⟩
    decide +kernel

theorem run_overridden_stern :
    HoldsProfile shelf (.ofString "gentle.yaml") gentleEntries ∧
      HoldsProfile shelf (.ofString "stern.yaml") (sternOverrides.edit gentleEntries) ∧
      run shelf (argumentsOf ["--profile", "gentle.yaml", "--severity", " Stern ", "--theme",
          "bugs", "--theme", "5", "empty.json"]) =
        run shelf (argumentsOf ["--profile", "stern.yaml", "empty.json"]) ∧
      run shelf (argumentsOf ["--profile", "gentle.yaml", "empty.json", "--severity", " Stern ",
          "--theme", "bugs", "--theme", "5"]) =
        run shelf (argumentsOf ["--profile", "stern.yaml", "empty.json"]) := by
  have hgentle : HoldsProfile shelf (.ofString "gentle.yaml") gentleEntries :=
    ⟨_, rfl, eq_of_isPlain (by decide +kernel)⟩
  have hstern : HoldsProfile shelf (.ofString "stern.yaml") (sternOverrides.edit gentleEntries) :=
    ⟨_, rfl, eq_of_isPlain (show isPlain (.ofString " Stern ")
      [.ofString "bugs", .ofString "5"] _ = true by decide +kernel)⟩
  have hvalid : Profile.ofDatum (.mapping gentleEntries) =
      .ok ⟨.highest, [.ofString "core"], []⟩ := by decide +kernel
  have hrequest : Reading.start.request.IsUnadjusted := ⟨rfl, rfl⟩
  have htrees : ∀ tree ∈ [Path.ofString "empty.json"],
      loadDocument shelf tree = loadDocument shelf tree := fun _ _ => rfl
  obtain ⟨-, hwords, -⟩ := run_overridden hgentle hstern hvalid hrequest htrees
  have hplain : ∀ w ∈ argumentsOf ["empty.json"],
      w ≠ twoDashes ∧ Word.ofText w = .ok (.plain w) := by
    decide +kernel
  obtain ⟨hfront, hbehind⟩ := hwords (argumentsOf ["--profile", "gentle.yaml"])
    (argumentsOf ["--profile", "stern.yaml"])
    ⟨[.option .profile none false, .plain (.ofString "gentle.yaml")], by decide +kernel, rfl⟩
    ⟨[.option .profile none false, .plain (.ofString "stern.yaml")], by decide +kernel, rfl⟩
  exact ⟨hgentle, hstern, hfront _ (.plain _ hplain), hbehind _ rfl hplain⟩

end CommandLine
end JumpLint

import JumpLint.Profile
import JumpLint.Proofs.Validation.Shape
import Mathlib.Data.List.Nodup

/-!
# Profiles that have been read

Reading a profile checks more than the types of its entries.  Here it is said what can be relied on
afterwards.

## What is here

* `Profile.IsValid`: what holds of every profile that is read from data.
* `Checked.withKeys_eq_ok_iff`: records whose keys are checked as well.
* `Section.isReadFrom_of_ofDatum`: what a section reads; a limit that is read is positive
  (`Section.one_le_limit_of_ofDatum`), and parameters keep the order of the entries
  (`Section.eq_filterMap_of_extras`).
* `Profile.isValid_of_ofDatum`: profiles that are read are valid.
-/

set_option autoImplicit false
namespace JumpLint

/-- What holds of every profile that is read: limits are positive, all sections are those of
registered policies, and no policy has two of them. -/
structure Profile.IsValid (profile : Profile) : Prop where
  limits : ∀ entry ∈ profile.sections, ∀ k, entry.2.limit = some k → 1 ≤ k
  known : ∀ entry ∈ profile.sections, Registry.isKnown entry.1 = true
  distinct : (profile.sections.map Prod.fst).Nodup

/-! ## One section -/

namespace Datum

theorem one_le_of_asLimit {d : Datum} {k : Int} (h : d.asLimit = .ok k) : 1 ≤ k := by
  rw [asLimit] at h
  split at h
  · split at h
    · cases h
    · cases h
      omega
  · cases h

theorem eq_ok_of_nullable {α : Type} {check : Datum → Checked α} {d : Datum} {a : α}
    (h : d.nullable check = .ok (some a)) : check d = .ok a := by
  rw [nullable.eq_def] at h
  split at h
  · cases h
  · obtain ⟨b, hb, hsome⟩ := map_eq_ok_iff.1 h
    cases hsome
    exact hb

end Datum

theorem Checked.withKeys_eq_ok_iff {α : Type} {entries : List (Datum × Datum)}
    {record : Checked α} {a : α} :
    withKeys entries record = .ok a ↔
      (∀ e ∈ entries, e.1.isBrokenKey = false) ∧ record = .ok a := by
  rw [withKeys]
  split
  · rename_i hbroken
    obtain ⟨e, he, hkey⟩ := List.any_eq_true.1 hbroken
    refine iff_of_false nofun fun h => ?_
    exact absurd (h.1 e he) (by simpa using hkey)
  · rename_i hwhole
    refine (and_iff_right fun e he => ?_).symm
    simpa using fun hkey => hwhole (List.any_eq_true.2 ⟨e, he, hkey⟩)

namespace Section

/-- What a section reads in the fields of a record. -/
structure IsReadFrom (fields : List (Datum × Datum)) (options : Section) : Prop where
  enabled : optional "enabled" true Datum.asBool fields = .ok options.enabled
  severity : optional "severity" none (Datum.nullable Datum.asSetSeverity) fields =
    .ok options.severity
  setThemes : optional "set_themes" none (Datum.nullable (Datum.asList Datum.asText)) fields =
    .ok options.setThemes
  addThemes : optional "add_themes" [] (Datum.asList Datum.asText) fields = .ok options.addThemes
  limit : optional "maximum_violations_per_document" none (Datum.nullable Datum.asLimit) fields =
    .ok options.limit
  parameters : extras fields = .ok options.parameters

theorem isReadFrom_of_ofDatum {d : Datum} {options : Section} (h : ofDatum d = .ok options) :
    ∃ fields, d = .mapping fields ∧ options.IsReadFrom fields := by
  rw [ofDatum] at h
  obtain ⟨fields, hfields, h⟩ := bind_eq_ok_iff.1 h
  obtain ⟨_, parameters, hlimited, hextras, rfl⟩ :=
    Checked.ap_eq_ok_iff.1 (Checked.withKeys_eq_ok_iff.1 h).2
  obtain ⟨_, limit, hadding, hlimit, rfl⟩ := Checked.ap_eq_ok_iff.1 hlimited
  obtain ⟨_, addThemes, hsetting, hadd, rfl⟩ := Checked.ap_eq_ok_iff.1 hadding
  obtain ⟨_, setThemes, hsevere, hset, rfl⟩ := Checked.ap_eq_ok_iff.1 hsetting
  obtain ⟨_, severity, hfirst, hseverity, rfl⟩ := Checked.ap_eq_ok_iff.1 hsevere
  obtain ⟨enabled, henabled, rfl⟩ := map_eq_ok_iff.1 hfirst
  refine ⟨fields, ?_, henabled, hseverity, hset, hadd, hlimit, hextras⟩
  rw [Datum.asRecord.eq_def] at hfields
  split at hfields
  · cases hfields
    rfl
  · cases hfields

theorem one_le_limit_of_ofDatum {d : Datum} {options : Section} {k : Int}
    (h : ofDatum d = .ok options) (hlimit : options.limit = some k) : 1 ≤ k := by
  obtain ⟨fields, -, hread⟩ := isReadFrom_of_ofDatum h
  rcases optional_eq_ok_iff.1 hread.limit with ⟨-, hnone⟩ | ⟨value, -, hvalue⟩
  · exact absurd (hnone.trans hlimit) nofun
  · exact Datum.one_le_of_asLimit (Datum.eq_ok_of_nullable (hlimit ▸ hvalue))

/-- An entry by its name, if it has one and that is not the name of an option. -/
def extra? : Datum × Datum → Option (Text × Datum)
  | (.text name, value) => if isNamed options name then none else some (name, value)
  | _ => none

/-- The parameters are the entries that are no options, in their order. -/
theorem eq_filterMap_of_extras {fields : List (Datum × Datum)} {parameters : List (Text × Datum)}
    (h : extras fields = .ok parameters) : parameters = fields.filterMap extra? := by
  induction fields generalizing parameters with
  | nil =>
    cases h
    rfl
  | cons entry rest ih =>
    obtain ⟨key, value⟩ := entry
    cases key with
    | text name =>
      rw [extras] at h
      rw [List.filterMap_cons, extra?]
      split at h
      · rename_i hoption
        rw [if_pos hoption]
        exact ih h
      · rename_i hextra
        obtain ⟨more, hmore, rfl⟩ := map_eq_ok_iff.1 h
        rw [if_neg hextra, ← ih hmore]
    | _ =>
      rw [extras] at h
      · obtain ⟨_, _, hkey, -⟩ := Checked.ap_eq_ok_iff.1 h
        obtain ⟨_, hkey, -⟩ := map_eq_ok_iff.1 hkey
        cases Checked.within_eq_ok_iff.1 hkey
      · exact nofun

end Section

/-! ## Sections by name -/

namespace Profile

theorem mem_putSection {name : Text} {options : Section} {sections : List (Text × Section)}
    {entry : Text × Section} (h : entry ∈ putSection name options sections) :
    entry = (name, options) ∨ entry ∈ sections := by
  induction sections with
  | nil => exact .inl (List.mem_singleton.1 h)
  | cons first rest ih =>
    obtain ⟨n, o⟩ := first
    rw [putSection] at h
    split at h
    · rename_i hname
      rw [beq_iff_eq.1 hname] at h
      rcases List.mem_cons.1 h with h | h
      · exact .inl h
      · exact .inr (List.mem_cons_of_mem _ h)
    · rcases List.mem_cons.1 h with h | h
      · exact .inr (List.mem_cons.2 (.inl h))
      · exact (ih h).imp_right (List.mem_cons_of_mem _)

/-- The names stay as they are, or there is a new one behind them. -/
theorem map_fst_putSection (name : Text) (options : Section) (sections : List (Text × Section)) :
    (putSection name options sections).map Prod.fst =
      if name ∈ sections.map Prod.fst then sections.map Prod.fst
      else sections.map Prod.fst ++ [name] := by
  induction sections with
  | nil => rfl
  | cons first rest ih =>
    obtain ⟨n, o⟩ := first
    rw [putSection]
    by_cases hname : n = name
    · simp [hname]
    · have hne : ¬name = n := fun h => hname h.symm
      simp only [beq_iff_eq, hname, if_false, List.map_cons, List.mem_cons, hne, false_or, ih]
      split <;> rfl

/-- What is said of all sections in data is said of all that are kept, and no name is kept twice. -/
theorem foldl_putSection {P : Text × Section → Prop} {sections kept : List (Text × Section)}
    (hsections : ∀ entry ∈ sections, P entry) (hkept : ∀ entry ∈ kept, P entry)
    (hdistinct : (kept.map Prod.fst).Nodup) :
    (∀ entry ∈ sections.foldl (fun named (n, o) => putSection n o named) kept, P entry) ∧
      ((sections.foldl (fun named (n, o) => putSection n o named) kept).map Prod.fst).Nodup := by
  induction sections generalizing kept with
  | nil => exact ⟨hkept, hdistinct⟩
  | cons first rest ih =>
    obtain ⟨n, o⟩ := first
    refine ih (fun entry h => hsections entry (List.mem_cons_of_mem _ h)) ?_ ?_
    · intro entry h
      rcases mem_putSection h with rfl | h
      · exact hsections _ List.mem_cons_self
      · exact hkept entry h
    · rw [map_fst_putSection]
      split
      · exact hdistinct
      · rename_i hnew
        exact hdistinct.append (List.nodup_singleton n) (List.disjoint_singleton.2 hnew)

theorem ofDatum_of_mem_sectionsOf {entries : List (Datum × Datum)}
    {sections : List (Text × Section)} (h : sectionsOf entries = .ok sections) :
    ∀ entry ∈ sections, ∃ d, Section.ofDatum d = .ok entry.2 := by
  induction entries generalizing sections with
  | nil =>
    cases h
    exact fun entry hentry => absurd hentry List.not_mem_nil
  | cons first rest ih =>
    obtain ⟨key, value⟩ := first
    rw [sectionsOf.eq_def] at h
    obtain ⟨_, more, hfirst, hmore, rfl⟩ := Checked.ap_eq_ok_iff.1 h
    obtain ⟨_, hpair, rfl⟩ := map_eq_ok_iff.1 hfirst
    obtain ⟨_, options, hname, hoptions, rfl⟩ := Checked.ap_eq_ok_iff.1 hpair
    obtain ⟨name, -, rfl⟩ := map_eq_ok_iff.1 hname
    intro entry hentry
    rcases List.mem_cons.1 hentry with rfl | hentry
    · exact ⟨_, Checked.within_eq_ok_iff.1 hoptions⟩
    · exact ih hmore entry hentry

/-- What is read as sections: positive limits, names of registered policies, no name twice. -/
theorem isValid_of_asSections {d : Datum} {sections : List (Text × Section)}
    (h : asSections d = .ok sections) (severity : Severity) (themes : List Text) :
    IsValid ⟨severity, themes, sections⟩ := by
  rw [asSections.eq_def] at h
  split at h
  · split at h
    · cases h
    · rename_i entries found hfound
      have hread := ofDatum_of_mem_sectionsOf hfound
      obtain ⟨hlimits, hdistinct⟩ := foldl_putSection
        (P := fun entry => ∀ k, entry.2.limit = some k → 1 ≤ k)
        (fun entry hentry k hk =>
          Section.one_le_limit_of_ofDatum (hread entry hentry).choose_spec hk)
        (show ∀ entry ∈ ([] : List (Text × Section)), _ from nofun) List.nodup_nil
      simp only at h
      split at h
      · split at h <;> cases h
      · rename_i hknown
        cases h
        refine ⟨hlimits, fun entry hentry => ?_, hdistinct⟩
        simpa using List.find?_eq_none.1 hknown entry hentry
  · cases h

/-- **Profiles that are read are valid.** -/
theorem isValid_of_ofDatum {d : Datum} {profile : Profile} (h : Profile.ofDatum d = .ok profile) :
    profile.IsValid := by
  rw [Profile.ofDatum] at h
  obtain ⟨fields, -, hread⟩ := bind_eq_ok_iff.1 h
  simp only at hread
  split at hread
  · rename_i whole hwhole
    cases (Checked.withKeys_eq_ok_iff.1 hread).2
    obtain ⟨_, _, hprofile, -, rfl⟩ := Checked.ap_eq_ok_iff.1 hwhole
    obtain ⟨_, hfields, rfl⟩ := map_eq_ok_iff.1 hprofile
    obtain ⟨_, sections, hfirst, hsections, rfl⟩ := Checked.ap_eq_ok_iff.1 hfields
    obtain ⟨_, themes, hseverity, -, rfl⟩ := Checked.ap_eq_ok_iff.1 hfirst
    obtain ⟨severity, -, rfl⟩ := map_eq_ok_iff.1 hseverity
    rcases optional_eq_ok_iff.1 hsections with ⟨-, rfl⟩ | ⟨value, -, hvalue⟩
    · exact ⟨nofun, nofun, List.nodup_nil⟩
    · exact isValid_of_asSections hvalue severity themes
  · split at hread
    · cases hread
    · cases (Checked.withKeys_eq_ok_iff.1 hread).2

end Profile
end JumpLint

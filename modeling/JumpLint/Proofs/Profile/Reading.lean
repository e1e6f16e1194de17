import JumpLint.Proofs.Profile.Selection
import JumpLint.Proofs.Profile.Validity
import JumpLint.Proofs.Validation.Entries

/-!
# Reading profiles, entry by entry

A profile is what is read in three entries of a mapping.  Of other entries only the keys count, for
there must be none.

## What is here

* `Profile.ofEntries`, `Profile.ofDatum_mapping`: a profile from its entries, before it is decided
  which issues are reported.
* `Checked.withKeys_congr`, `Profile.noExtras_congr`: what depends on keys alone.
* `Profile.ofDatum_congr`: when a profile is read the same from other entries.
* `Profile.IsReadFrom`, `Profile.ofDatum_mapping_eq_ok_iff`: which profile is read from entries.
* `Profile.IsReadFrom.insert_severity`, `Profile.IsReadFrom.insert_theme`: which one is read when an
  entry has been set.
-/

set_option autoImplicit false
namespace JumpLint

variable {entries entries' : List (Datum × Datum)}

/-! ## Keys -/

namespace Checked

variable {α : Type}

theorem any_isBrokenKey_eq (entries : List (Datum × Datum)) :
    (entries.any fun (key, _) => key.isBrokenKey) =
      (entries.map Prod.fst).any Datum.isBrokenKey := by
  rw [List.any_map]
  rfl

/-- Which keys are broken is seen from the keys. -/
theorem withKeys_congr (h : entries'.map Prod.fst = entries.map Prod.fst) (record : Checked α) :
    withKeys entries' record = withKeys entries record := by
  rw [withKeys, withKeys, any_isBrokenKey_eq, any_isBrokenKey_eq, h]

end Checked

namespace Profile

theorem noExtras_congr (h : entries'.map Prod.fst = entries.map Prod.fst) :
    noExtras entries' = noExtras entries := by
  induction entries generalizing entries' with
  | nil => rw [List.map_eq_nil_iff.1 h]
  | cons first rest ih =>
    obtain ⟨⟨key, value'⟩, rest', rfl, rfl, hrest⟩ := List.map_eq_cons_iff.1 h
    rw [noExtras.eq_def, noExtras.eq_def (first :: rest)]
    simp only [ih hrest]

/-- A key is the name of an entry that a profile knows. -/
def IsKnownKey (key : Datum) : Prop := ∃ name ∈ Profile.entries, key = .text (.ofString name)

/-- There is nothing else if all keys are known. -/
theorem noExtras_eq_ok_iff : noExtras entries = .ok () ↔ ∀ e ∈ entries, IsKnownKey e.1 := by
  induction entries with
  | nil => exact iff_of_true rfl nofun
  | cons first rest ih =>
    obtain ⟨key, value⟩ := first
    have hboth : ∀ x : Checked Unit, Checked.ap (x.map fun () => id) (noExtras rest) = .ok () ↔
        x = .ok () ∧ ∀ e ∈ rest, IsKnownKey e.1 := by
      intro x
      rw [← ih]
      cases x <;> cases noExtras rest <;> simp [Checked.ap, Except.map]
    rw [List.forall_mem_cons]
    cases key with
    | text t =>
      rw [noExtras, hboth]
      refine and_congr_left fun _ => ?_
      have hname : isNamed Profile.entries t = true ↔ IsKnownKey (.text t) := by
        rw [isNamed_iff, List.mem_map, IsKnownKey]
        simp only [Datum.text.injEq, eq_comm]
      rw [← hname]
      split
      · rename_i hknown
        exact iff_of_true rfl hknown
      · rename_i hextra
        exact iff_of_false nofun hextra
    | _ =>
      rw [noExtras, hboth]
      · refine and_congr_left fun _ => iff_of_false nofun ?_
        rintro ⟨name, -, hkey⟩
        cases hkey
      · exact nofun

theorem isBrokenKey_of_isKnownKey {key : Datum} (h : IsKnownKey key) : key.isBrokenKey = false := by
  obtain ⟨name, -, rfl⟩ := h
  simp [Datum.isBrokenKey, Text.isWhole, Text.ofString, Text.ofChars, CodePoint.isIn]

/-! ## Profiles -/

/-- What is read from the entries of a profile. -/
def ofEntries (entries : List (Datum × Datum)) : Checked Profile :=
  Checked.ap
    ((Checked.ap
      (Checked.ap
        ((optional "severity" .lowest Datum.asSetSeverity entries).map Profile.mk)
        (optional "theme" [] Datum.asThemes entries))
      (optional "policies" [] asSections entries)).map fun p () => p)
    (noExtras entries)

/-- The issues of a profile are those of its entries, unless a key is broken or a reason cannot be
written. -/
theorem ofDatum_mapping (entries : List (Datum × Datum)) :
    ofDatum (.mapping entries) =
      match ofEntries entries with
      | .ok p => Checked.withKeys entries (.ok p)
      | .error issues =>
        if hasUnwritable issues then .error (issues.filter (·.cause == .unwritable))
        else Checked.withKeys entries (.error issues) := rfl

/-- A profile is what is read in three entries, and else the keys count. -/
theorem ofDatum_congr (hkeys : entries'.map Prod.fst = entries.map Prod.fst)
    (hseverity : optional "severity" .lowest Datum.asSetSeverity entries' =
      optional "severity" .lowest Datum.asSetSeverity entries)
    (hthemes : optional "theme" [] Datum.asThemes entries' =
      optional "theme" [] Datum.asThemes entries)
    (hsections : optional "policies" [] asSections entries' =
      optional "policies" [] asSections entries) :
    ofDatum (.mapping entries') = ofDatum (.mapping entries) := by
  have hentries : ofEntries entries' = ofEntries entries := by
    rw [ofEntries, ofEntries, hseverity, hthemes, hsections, noExtras_congr hkeys]
  rw [ofDatum_mapping, ofDatum_mapping, hentries]
  simp only [Checked.withKeys_congr hkeys]

/-- What a profile reads in the entries of a mapping. -/
structure IsReadFrom (entries : List (Datum × Datum)) (profile : Profile) : Prop where
  severity : optional "severity" .lowest Datum.asSetSeverity entries = .ok profile.severity
  themes : optional "theme" [] Datum.asThemes entries = .ok profile.themes
  sections : optional "policies" [] asSections entries = .ok profile.sections
  keys : ∀ e ∈ entries, IsKnownKey e.1

theorem ofEntries_eq_ok_iff {profile : Profile} :
    ofEntries entries = .ok profile ↔ profile.IsReadFrom entries := by
  rw [ofEntries]
  constructor
  · intro h
    obtain ⟨_, ⟨⟩, hfields, hkeys, rfl⟩ := Checked.ap_eq_ok_iff.1 h
    obtain ⟨_, hread, rfl⟩ := map_eq_ok_iff.1 hfields
    obtain ⟨_, sections, htwo, hsections, rfl⟩ := Checked.ap_eq_ok_iff.1 hread
    obtain ⟨_, themes, hone, hthemes, rfl⟩ := Checked.ap_eq_ok_iff.1 htwo
    obtain ⟨severity, hseverity, rfl⟩ := map_eq_ok_iff.1 hone
    exact ⟨hseverity, hthemes, hsections, noExtras_eq_ok_iff.1 hkeys⟩
  · rintro ⟨hseverity, hthemes, hsections, hkeys⟩
    rw [hseverity, hthemes, hsections, noExtras_eq_ok_iff.2 hkeys]
    rfl

/-- **Which profile is read** from the entries of a mapping. -/
theorem ofDatum_mapping_eq_ok_iff {profile : Profile} :
    ofDatum (.mapping entries) = .ok profile ↔ profile.IsReadFrom entries := by
  rw [ofDatum_mapping, ← ofEntries_eq_ok_iff]
  cases hread : ofEntries entries with
  | ok p =>
    refine Checked.withKeys_eq_ok_iff.trans (and_iff_right fun e he => ?_)
    exact isBrokenKey_of_isKnownKey ((ofEntries_eq_ok_iff.1 hread).keys e he)
  | error issues =>
    refine iff_of_false (fun h => ?_) nofun
    dsimp only at h
    split at h
    · cases h
    · cases (Checked.withKeys_eq_ok_iff.1 h).2

/-! ## Setting entries -/

namespace IsReadFrom

variable {profile : Profile} {d : Datum}

theorem keys_insert (h : profile.IsReadFrom entries) {name : String}
    (hname : name ∈ Profile.entries) (d : Datum) :
    ∀ e ∈ Datum.insert (.text (.ofString name)) d entries, IsKnownKey e.1 := by
  intro e he
  rcases Datum.mem_insert he with rfl | he
  · exact ⟨name, hname, rfl⟩
  · exact h.keys e he

/-- **A severity that is set** takes the place of the one that was read. -/
theorem insert_severity (h : profile.IsReadFrom entries) {s : Severity}
    (hd : d.asSetSeverity = .ok s) :
    { profile with severity := s }.IsReadFrom
      (Datum.insert (.text (.ofString "severity")) d entries) where
  severity := optional_insert_self hd
  themes := by rw [optional_insert_of_ne (by decide), h.themes]
  sections := by rw [optional_insert_of_ne (by decide), h.sections]
  keys := h.keys_insert (by decide) d

/-- **Themes that are set** take the place of those that were read. -/
theorem insert_theme (h : profile.IsReadFrom entries) {themes : List Text}
    (hd : d.asThemes = .ok themes) :
    { profile with themes := themes }.IsReadFrom
      (Datum.insert (.text (.ofString "theme")) d entries) where
  severity := by rw [optional_insert_of_ne (by decide), h.severity]
  themes := optional_insert_self hd
  sections := by rw [optional_insert_of_ne (by decide), h.sections]
  keys := h.keys_insert (by decide) d

end IsReadFrom

end Profile
end JumpLint

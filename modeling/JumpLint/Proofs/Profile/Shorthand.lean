import JumpLint.Proofs.Profile.Reading

/-!
# Profiles with their shorthands written out

A profile may say in few words what it could also say at length: a severity by its name, themes as
the words of a text, a section without options by nothing.  Here it is shown that it makes no
difference which way it is said.  Data that gives a profile gives the same one when the shorthands
are written out; and data with faults has the same issues in the same order, so that a shorthand
neither hides a fault nor moves it.

## What is here

* `Datum.lookup?_mapEntry_self`, `Datum.lookup?_mapEntry_of_ne`, `Datum.map_fst_mapEntry`: what is
  found in entries of which one was changed, and that the keys stay.
* `Section.extras_mapEntry`: a changed option leaves the parameters as they are.
* `Datum.asSetSeverity_desugarSeverity`, `Section.ofDatum_mapEntry_severity`,
  `Profile.sectionsOf_map_desugar`: severities, sections and all sections are read the same.
* `Profile.IsWrittenOut`: data in which no shorthand is left.
* `Profile.ofDatum_desugar`: profiles are read the same.
-/

set_option autoImplicit false
namespace JumpLint

/-! ## Entries of which one was changed -/

namespace Datum

variable {name other : String} {f : Datum → Datum} {e : Datum × Datum}

theorem mapEntry_cons_entry (name : String) (f : Datum → Datum) (value : Datum)
    (rest : List (Datum × Datum)) :
    mapEntry name f (entry name value :: rest) = entry name (f value) :: mapEntry name f rest :=
  congrArg (· :: _) (if_pos (beq_self_eq_true _))

theorem mapEntry_cons_of_ne (h : e.1 ≠ .text (.ofString name)) (f : Datum → Datum)
    (rest : List (Datum × Datum)) : mapEntry name f (e :: rest) = e :: mapEntry name f rest := by
  obtain ⟨key, value⟩ := e
  cases key with
  | text t =>
    exact congrArg (· :: _) (if_neg fun ht => h (congrArg Datum.text (beq_iff_eq.1 ht)))
  | _ => rfl

theorem lookup?_mapEntry_self (name : String) (f : Datum → Datum)
    (entries : List (Datum × Datum)) :
    lookup? name (mapEntry name f entries) = (lookup? name entries).map f := by
  induction entries with
  | nil => rfl
  | cons first rest ih =>
    obtain ⟨value, rfl⟩ | hname := entry_cases name first
    · rw [mapEntry_cons_entry, lookup?_cons_entry, lookup?_cons_entry, Option.map_some]
    · rw [mapEntry_cons_of_ne hname, lookup?_cons_of_ne hname, lookup?_cons_of_ne hname, ih]

theorem lookup?_mapEntry_of_ne (h : other ≠ name) (f : Datum → Datum)
    (entries : List (Datum × Datum)) :
    lookup? name (mapEntry other f entries) = lookup? name entries := by
  induction entries with
  | nil => rfl
  | cons first rest ih =>
    obtain ⟨value, rfl⟩ | hother := entry_cases other first
    · rw [mapEntry_cons_entry, lookup?_cons_of_ne (key_entry_ne h _),
        lookup?_cons_of_ne (key_entry_ne h _), ih]
    · rw [mapEntry_cons_of_ne hother]
      obtain ⟨value, rfl⟩ | hname := entry_cases name first
      · rw [lookup?_cons_entry, lookup?_cons_entry]
      · rw [lookup?_cons_of_ne hname, lookup?_cons_of_ne hname, ih]

/-- The keys stay as they are. -/
theorem map_fst_mapEntry (name : String) (f : Datum → Datum) (entries : List (Datum × Datum)) :
    (mapEntry name f entries).map Prod.fst = entries.map Prod.fst := by
  induction entries with
  | nil => rfl
  | cons first rest ih =>
    obtain ⟨value, rfl⟩ | hname := entry_cases name first
    · rw [mapEntry_cons_entry, List.map_cons, ih]
      rfl
    · rw [mapEntry_cons_of_ne hname, List.map_cons, ih, List.map_cons]

/-- A changed entry has a changed value. -/
theorem exists_of_entry_mem_mapEntry {value : Datum} {entries : List (Datum × Datum)}
    (h : entry name value ∈ mapEntry name f entries) : ∃ old, value = f old := by
  induction entries with
  | nil => exact absurd h List.not_mem_nil
  | cons first rest ih =>
    obtain ⟨old, rfl⟩ | hname := entry_cases name first
    · rw [mapEntry_cons_entry] at h
      rcases List.mem_cons.1 h with h | h
      · exact ⟨old, congrArg Prod.snd h⟩
      · exact ih h
    · rw [mapEntry_cons_of_ne hname] at h
      rcases List.mem_cons.1 h with rfl | h
      · exact absurd rfl hname
      · exact ih h

/-- Other entries are those that there were. -/
theorem mem_of_entry_mem_mapEntry (hne : other ≠ name) {value : Datum}
    {entries : List (Datum × Datum)} (h : entry name value ∈ mapEntry other f entries) :
    entry name value ∈ entries := by
  induction entries with
  | nil => exact absurd h List.not_mem_nil
  | cons first rest ih =>
    obtain ⟨old, rfl⟩ | hother := entry_cases other first
    · rw [mapEntry_cons_entry] at h
      rcases List.mem_cons.1 h with h | h
      · exact absurd (congrArg Prod.fst h).symm (key_entry_ne hne _)
      · exact List.mem_cons_of_mem _ (ih h)
    · rw [mapEntry_cons_of_ne hother] at h
      rcases List.mem_cons.1 h with rfl | h
      · exact List.mem_cons_self
      · exact List.mem_cons_of_mem _ (ih h)

theorem mapEntry_eq_self {entries : List (Datum × Datum)}
    (h : ∀ value, entry name value ∈ entries → f value = value) :
    mapEntry name f entries = entries := by
  induction entries with
  | nil => rfl
  | cons first rest ih =>
    have hrest := ih fun value hvalue => h value (List.mem_cons_of_mem first hvalue)
    obtain ⟨value, rfl⟩ | hname := entry_cases name first
    · rw [mapEntry_cons_entry, hrest, h value List.mem_cons_self]
    · rw [mapEntry_cons_of_ne hname, hrest]

/-- A field is read the same when its entry is changed in a way that its check passes over. -/
theorem optional_mapEntry_self {α : Type} {default : α} {check : Datum → Checked α}
    (h : ∀ d, check (f d) = check d) (entries : List (Datum × Datum)) :
    optional name default check (mapEntry name f entries) =
      optional name default check entries := by
  have hfound : Option.Rel (fun d d' => d' = f d) (lookup? name entries)
      (lookup? name (mapEntry name f entries)) := by
    rw [lookup?_mapEntry_self]
    cases lookup? name entries with
    | none => exact .none
    | some d => exact .some rfl
  exact optional_congr hfound fun d _ hd => hd ▸ h d

theorem optional_mapEntry_of_ne (hne : other ≠ name) {α : Type} {default : α}
    {check : Datum → Checked α} (entries : List (Datum × Datum)) :
    optional name default check (mapEntry other f entries) =
      optional name default check entries := by
  rw [optional, lookup?_mapEntry_of_ne hne, optional]

end Datum

/-! ## Single values -/

namespace Datum

/-- **A severity is read the same by its name and by its number.** -/
theorem asSetSeverity_desugarSeverity (d : Datum) :
    d.desugarSeverity.asSetSeverity = d.asSetSeverity := by
  cases d with
  | text t =>
    rw [desugarSeverity]
    split
    · rename_i severity hparse
      simp only [asSetSeverity, hparse, Severity.ofInt, Severity.ofLevel?_level]
    · rfl
  | _ => rfl

theorem nullable_asSetSeverity_desugarSeverity (d : Datum) :
    d.desugarSeverity.nullable asSetSeverity = d.nullable asSetSeverity := by
  have hsame := asSetSeverity_desugarSeverity d
  cases d with
  | text t =>
    rw [desugarSeverity] at hsame ⊢
    split
    · rename_i severity hparse
      simp only [hparse] at hsame
      exact congrArg (Except.map some) hsame
    · rfl
  | _ => rfl

/-- Themes that are given as a text, as a list of its words. -/
def desugarThemes : Datum → Datum
  | .text t => .list ((Text.words t).map .text)
  | d => d

/-- Themes are read the same from a text and from the list of its words. -/
theorem asThemes_desugarThemes (d : Datum) : d.desugarThemes.asThemes = d.asThemes := by
  cases d with
  | text t =>
    have hwords : Checked.each asText ((Text.words t).map .text) = .ok (Text.words t) := by
      rw [Checked.each_eq_ok_iff, List.forall₂_map_left_iff, List.forall₂_same]
      exact fun _ _ => rfl
    exact hwords
  | _ => rfl

end Datum

/-! ## Sections -/

namespace Section

/-- A changed option leaves the parameters as they are. -/
theorem extras_mapEntry {name : String} (h : name ∈ options) (f : Datum → Datum)
    (entries : List (Datum × Datum)) :
    extras (Datum.mapEntry name f entries) = extras entries := by
  have hoption : isNamed options (.ofString name) = true :=
    isNamed_iff.2 (List.mem_map_of_mem h)
  induction entries with
  | nil => rfl
  | cons first rest ih =>
    obtain ⟨value, rfl⟩ | hname := Datum.entry_cases name first
    · rw [Datum.mapEntry_cons_entry, Datum.entry, Datum.entry, extras, extras, if_pos hoption,
        if_pos hoption, ih]
    · rw [Datum.mapEntry_cons_of_ne hname, extras.eq_def, extras.eq_def (first :: rest)]
      simp only [ih]

/-- **A section is read the same** when its severity is written out. -/
theorem ofDatum_mapEntry_severity (entries : List (Datum × Datum)) :
    ofDatum (.mapping (Datum.mapEntry "severity" Datum.desugarSeverity entries)) =
      ofDatum (.mapping entries) := by
  have hkeys := Datum.map_fst_mapEntry "severity" Datum.desugarSeverity entries
  change Checked.withKeys _ _ = Checked.withKeys _ _
  rw [Checked.withKeys_congr hkeys, extras_mapEntry (by decide),
    Datum.optional_mapEntry_self Datum.nullable_asSetSeverity_desugarSeverity,
    Datum.optional_mapEntry_of_ne (by decide), Datum.optional_mapEntry_of_ne (by decide),
    Datum.optional_mapEntry_of_ne (by decide), Datum.optional_mapEntry_of_ne (by decide)]

end Section

namespace Profile

/-- Sections that are written out. -/
def desugarSections : Datum → Datum
  | .mapping sections => .mapping (sections.map fun (k, v) => (k, Section.desugar v))
  | d => d

/-- A section, or an empty one for none. -/
def sectionOrEmpty : Datum → Datum
  | .null => .mapping []
  | d => d

/-- A section without options is read as an empty one, and no other is read in its stead. -/
theorem ofDatum_sectionOrEmpty_desugar (d : Datum) :
    Section.ofDatum (sectionOrEmpty (Section.desugar d)) =
      Section.ofDatum (sectionOrEmpty d) := by
  cases d with
  | mapping entries => exact Section.ofDatum_mapEntry_severity entries
  | _ => rfl

/-- The name that a key gives to a section. -/
def sectionName : Datum → Checked Text
  | .text t => .ok t
  | key => Checked.within key.keyStep (Checked.within (.field "[key]") key.asText)

theorem sectionsOf_cons (key value : Datum) (rest : List (Datum × Datum)) :
    sectionsOf ((key, value) :: rest) =
      Checked.ap
        ((Checked.ap ((sectionName key).map Prod.mk)
          (Checked.within key.keyStep (Section.ofDatum (sectionOrEmpty value)))).map List.cons)
        (sectionsOf rest) := rfl

/-- **Sections are read the same** when they are written out. -/
theorem sectionsOf_map_desugar (sections : List (Datum × Datum)) :
    sectionsOf (sections.map fun (k, v) => (k, Section.desugar v)) = sectionsOf sections := by
  induction sections with
  | nil => rfl
  | cons first rest ih =>
    obtain ⟨key, value⟩ := first
    rw [List.map_cons, sectionsOf_cons, sectionsOf_cons, ofDatum_sectionOrEmpty_desugar, ih]

theorem asSections_desugarSections (d : Datum) :
    asSections (desugarSections d) = asSections d := by
  cases d with
  | mapping sections => rw [desugarSections, asSections, asSections, sectionsOf_map_desugar]
  | _ => rfl

end Profile

/-! ## Data without shorthands -/

/-- Data that is no name of a severity. -/
def Datum.NamesNoSeverity (d : Datum) : Prop :=
  ∀ t severity, d = .text t → Severity.parse t ≠ .ok severity

/-- A section in which no shorthand is left. -/
structure Section.IsWrittenOut (d : Datum) : Prop where
  not_null : d ≠ .null
  severity : ∀ entries, d = .mapping entries →
    ∀ value, Datum.entry "severity" value ∈ entries → value.NamesNoSeverity

/-- Entries of a profile in which no shorthand is left. -/
structure Profile.IsWrittenOut (entries : List (Datum × Datum)) : Prop where
  severity : ∀ value, Datum.entry "severity" value ∈ entries → value.NamesNoSeverity
  theme : ∀ t, Datum.entry "theme" (.text t) ∉ entries
  sections : ∀ sections, Datum.entry "policies" (.mapping sections) ∈ entries →
    ∀ e ∈ sections, Section.IsWrittenOut e.2

namespace Datum

theorem namesNoSeverity_desugarSeverity (d : Datum) : d.desugarSeverity.NamesNoSeverity := by
  intro t severity h
  cases d with
  | text t' =>
    rw [desugarSeverity] at h
    split at h
    · cases h
    · rename_i hparse
      cases h
      simp [hparse]
  | _ => cases h

theorem desugarSeverity_eq_self {d : Datum} (h : d.NamesNoSeverity) : d.desugarSeverity = d := by
  cases d with
  | text t =>
    rw [desugarSeverity]
    split
    · rename_i severity hparse
      exact absurd hparse (h t severity rfl)
    · rfl
  | _ => rfl

theorem desugarThemes_ne_text (d : Datum) (t : Text) : d.desugarThemes ≠ .text t := by
  cases d <;> exact nofun

end Datum

theorem Section.isWrittenOut_desugar (d : Datum) : Section.IsWrittenOut (desugar d) := by
  refine ⟨?_, fun fields hfields value hvalue => ?_⟩
  · cases d <;> exact nofun
  · cases d with
    | null =>
      cases hfields
      exact absurd hvalue List.not_mem_nil
    | mapping entries =>
      cases hfields
      obtain ⟨old, rfl⟩ := Datum.exists_of_entry_mem_mapEntry hvalue
      exact Datum.namesNoSeverity_desugarSeverity old
    | _ => cases hfields

theorem Section.desugar_eq_self {d : Datum} (h : Section.IsWrittenOut d) : desugar d = d := by
  cases d with
  | null => exact absurd rfl h.not_null
  | mapping entries =>
    refine congrArg Datum.mapping (Datum.mapEntry_eq_self fun value hvalue => ?_)
    exact Datum.desugarSeverity_eq_self (h.severity entries rfl value hvalue)
  | _ => rfl

/-! ## Profiles -/

namespace Profile

/-- The entries of a profile with their shorthands written out. -/
def writtenOut (entries : List (Datum × Datum)) : List (Datum × Datum) :=
  Datum.mapEntry "severity" Datum.desugarSeverity
    (Datum.mapEntry "theme" Datum.desugarThemes
      (Datum.mapEntry "policies" desugarSections entries))

theorem desugar_mapping (entries : List (Datum × Datum)) :
    desugar (.mapping entries) = .mapping (writtenOut entries) := rfl

theorem map_fst_writtenOut (entries : List (Datum × Datum)) :
    (writtenOut entries).map Prod.fst = entries.map Prod.fst := by
  rw [writtenOut, Datum.map_fst_mapEntry, Datum.map_fst_mapEntry, Datum.map_fst_mapEntry]

theorem isWrittenOut_writtenOut (entries : List (Datum × Datum)) :
    IsWrittenOut (writtenOut entries) := by
  constructor
  case severity =>
    intro value hvalue
    obtain ⟨old, rfl⟩ := Datum.exists_of_entry_mem_mapEntry hvalue
    exact Datum.namesNoSeverity_desugarSeverity old
  case theme =>
    intro t htheme
    have hmem := Datum.mem_of_entry_mem_mapEntry (by decide) htheme
    obtain ⟨old, hold⟩ := Datum.exists_of_entry_mem_mapEntry hmem
    exact Datum.desugarThemes_ne_text old t hold.symm
  case sections =>
    intro sections hsections e he
    have hmem := Datum.mem_of_entry_mem_mapEntry (by decide)
      (Datum.mem_of_entry_mem_mapEntry (by decide) hsections)
    obtain ⟨old, hold⟩ := Datum.exists_of_entry_mem_mapEntry hmem
    cases old with
    | mapping before =>
      cases hold
      obtain ⟨first, -, rfl⟩ := List.mem_map.1 he
      exact Section.isWrittenOut_desugar first.2
    | _ => cases hold

theorem writtenOut_eq_self {entries : List (Datum × Datum)} (h : IsWrittenOut entries) :
    writtenOut entries = entries := by
  have hsections : ∀ value, Datum.entry "policies" value ∈ entries →
      desugarSections value = value := by
    intro value hvalue
    cases value with
    | mapping sections =>
      have hkept : ∀ e ∈ sections, (e.1, Section.desugar e.2) = id e := fun e he =>
        congrArg (Prod.mk e.1) (Section.desugar_eq_self (h.sections sections hvalue e he))
      exact congrArg Datum.mapping ((List.map_congr_left hkept).trans (List.map_id sections))
    | _ => rfl
  have hthemes : ∀ value, Datum.entry "theme" value ∈ entries → value.desugarThemes = value := by
    intro value hvalue
    cases value with
    | text t => exact absurd hvalue (h.theme t)
    | _ => rfl
  have hseverity : ∀ value, Datum.entry "severity" value ∈ entries →
      value.desugarSeverity = value :=
    fun value hvalue => Datum.desugarSeverity_eq_self (h.severity value hvalue)
  rw [writtenOut, Datum.mapEntry_eq_self hsections, Datum.mapEntry_eq_self hthemes,
    Datum.mapEntry_eq_self hseverity]

/-- **Shorthands mean what they stand for.**  Data of a profile in which they are written out has
the same keys and no shorthand, and data without shorthands is left as it is.  Either both give the
same profile, or both have the same issues in the same order. -/
theorem ofDatum_desugar (entries : List (Datum × Datum)) :
    ∃ written, desugar (.mapping entries) = .mapping written ∧
      written.map Prod.fst = entries.map Prod.fst ∧ IsWrittenOut written ∧
      (IsWrittenOut entries → written = entries) ∧
      ofDatum (.mapping written) = ofDatum (.mapping entries) := by
  have hkeys := map_fst_writtenOut entries
  refine ⟨writtenOut entries, desugar_mapping entries, hkeys, isWrittenOut_writtenOut entries,
    writtenOut_eq_self, ofDatum_congr hkeys ?_ ?_ ?_⟩
  · rw [writtenOut, Datum.optional_mapEntry_self Datum.asSetSeverity_desugarSeverity,
      Datum.optional_mapEntry_of_ne (by decide), Datum.optional_mapEntry_of_ne (by decide)]
  · rw [writtenOut, Datum.optional_mapEntry_of_ne (by decide),
      Datum.optional_mapEntry_self Datum.asThemes_desugarThemes,
      Datum.optional_mapEntry_of_ne (by decide)]
  · rw [writtenOut, Datum.optional_mapEntry_of_ne (by decide),
      Datum.optional_mapEntry_of_ne (by decide),
      Datum.optional_mapEntry_self asSections_desugarSections]

/-- A profile in few words, with a theme that is no text in the list of a section. -/
def terse : List (Datum × Datum) :=
  [Datum.entry "theme" (.text (.ofString " bugs  core ")),
    Datum.entry "policies" (.mapping [
      Datum.entry Rule.gotoIntoBlock.name .null,
      Datum.entry "Other" (.mapping [
        Datum.entry "add_themes" (.list [.int 1]),
        Datum.entry "severity" (.text (.ofString "Gentle"))])]),
    Datum.entry "severity" (.text (.ofString "loud"))]

/-- The same at length.  The severity that is none is left as it is. -/
def lengthy : List (Datum × Datum) :=
  [Datum.entry "theme" (.list [.text (.ofString "bugs"), .text (.ofString "core")]),
    Datum.entry "policies" (.mapping [
      Datum.entry Rule.gotoIntoBlock.name (.mapping []),
      Datum.entry "Other" (.mapping [
        Datum.entry "add_themes" (.list [.int 1]), Datum.entry "severity" (.int 5)])]),
    Datum.entry "severity" (.text (.ofString "loud"))]

theorem ofDatum_desugar_terse :
    desugar (.mapping terse) = .mapping lengthy ∧ desugar (.mapping lengthy) = .mapping lengthy ∧
      ofDatum (.mapping lengthy) = ofDatum (.mapping terse) ∧
      ofDatum (.mapping terse) = .error [
        ⟨[.field "severity"], .rejected "invalid severity: 'loud'"⟩,
        ⟨[.field "policies", .field "Other", .field "add_themes", .item 0], .notText⟩] := by
  obtain ⟨written, hwritten, -, hout, -, hsame⟩ := ofDatum_desugar terse
  obtain ⟨again, hagain, -, -, hleft, -⟩ := ofDatum_desugar lengthy
  have hlengthy : desugar (.mapping terse) = .mapping lengthy := rfl
  obtain rfl : lengthy = written := Datum.mapping.inj (hlengthy.symm.trans hwritten)
  refine ⟨hlengthy, ?_, hsame, ?_⟩
  · rw [hagain, hleft hout]
  · decide +kernel

end Profile
end JumpLint

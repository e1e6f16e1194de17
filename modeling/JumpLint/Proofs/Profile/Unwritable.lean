import JumpLint.Proofs.Profile.Shorthand

/-!
# Reasons that cannot be written

An issue says in words what is wrong.  Only one check of a profile puts data into these words as it
is: the one that looks for policies by the names of their sections.  So a reason that cannot be
written is about such a name, and there is half of a surrogate pair in it.

## What is here

* `Checked.CausesIn`: which causes the issues of a check can have; `Checked.CausesIn.ap` and the
  lemmas around it: those of its parts.
* `Checked.IsWritable`, `Section.isWritable_ofDatum`: nothing in a section is the reason.
* `Profile.exists_isBrokenKey_of_unwritable`: the reason is the name of a section.
-/

set_option autoImplicit false
namespace JumpLint

/-- A text is whole when it has characters. -/
theorem Text.isWhole_eq_isSome_chars? (t : Text) : t.isWhole = t.chars?.isSome := by
  induction t with
  | nil => rfl
  | cons p rest ih =>
    rw [isWhole, chars?] at ih ⊢
    rw [List.all_cons, ih, List.mapM_cons]
    cases p with
    | char c => cases rest.mapM CodePoint.char? <;> rfl
    | half index => rfl

/-! ## Causes -/

namespace Checked

variable {α β : Type} {P : Cause → Prop} {x : Checked α}

/-- The issues of a check have causes that `P` holds of. -/
def CausesIn (P : Cause → Prop) (x : Checked α) : Prop :=
  FailsOnly (fun issues => ∀ issue ∈ issues, P issue.cause) x

namespace CausesIn

theorem ok (a : α) : CausesIn P (.ok a) := FailsOnly.ok a

theorem fail {cause : Cause} (h : P cause) : CausesIn P (fail cause : Checked α) := by
  refine FailsOnly.error fun issue hissue => ?_
  cases List.mem_singleton.1 hissue
  exact h

theorem ite {c : Prop} [Decidable c] {y : Checked α} (hx : CausesIn P x) (hy : CausesIn P y) :
    CausesIn P (if c then x else y) :=
  FailsOnly.ite hx hy

theorem map {f : α → β} (h : CausesIn P x) : CausesIn P (x.map f) := FailsOnly.map h

theorem bind {f : α → Checked β} (hx : CausesIn P x) (hf : ∀ a, CausesIn P (f a)) :
    CausesIn P (x >>= f) :=
  FailsOnly.bind hx hf

/-- The way to an issue is not its cause. -/
theorem within {step : Step} (h : CausesIn P x) : CausesIn P (within step x) := by
  refine FailsOnly.mapError (h.mono fun issues hissues issue hmem => ?_)
  obtain ⟨inner, hinner, rfl⟩ := List.mem_map.1 hmem
  exact hissues inner hinner

theorem ap {f : Checked (α → β)} (hf : CausesIn P f) (hx : CausesIn P x) :
    CausesIn P (ap f x) := by
  cases f with
  | ok f =>
    cases x with
    | ok a => exact .ok (f a)
    | error issues => exact FailsOnly.error (hx issues rfl)
  | error issues =>
    cases x with
    | ok a => exact FailsOnly.error (hf issues rfl)
    | error more =>
      refine FailsOnly.error fun issue hissue => ?_
      rcases List.mem_append.1 hissue with h | h
      · exact hf issues rfl issue h
      · exact hx more rfl issue h

theorem each {check : α → Checked β} (h : ∀ a, CausesIn P (check a)) (items : List α) :
    CausesIn P (each check items) := by
  have hfrom : ∀ i, CausesIn P (eachFrom check i items) := by
    induction items with
    | nil => exact fun i => .ok []
    | cons a more ih =>
      intro i
      rw [eachFrom]
      exact .ap (h a).within.map (ih (i + 1))
  exact hfrom 0

theorem withKeys {entries : List (Datum × Datum)} (hbroken : P .brokenText) (h : CausesIn P x) :
    CausesIn P (withKeys entries x) :=
  .ite (.fail hbroken) h

theorem optional {check : Datum → Checked α} {name : String} {default : α}
    {entries : List (Datum × Datum)}
    (h : ∀ d, Datum.lookup? name entries = some d → CausesIn P (check d)) :
    CausesIn P (optional name default check entries) := by
  rw [JumpLint.optional]
  split
  · rename_i d hd
    exact (h d hd).within
  · exact .ok default

end CausesIn

/-- No issue of a check is a reason that cannot be written. -/
abbrev IsWritable (x : Checked α) : Prop := CausesIn (· ≠ .unwritable) x

theorem IsWritable.causesIn {Q : Prop} (h : IsWritable x) :
    CausesIn (fun cause => cause = .unwritable → Q) x :=
  h.mono fun _ hissues issue hissue hcause => absurd hcause (hissues issue hissue)

end Checked

open Checked

/-! ## Values -/

namespace Datum

theorem isWritable_asText (d : Datum) : IsWritable d.asText := by
  rw [asText.eq_def]
  split
  · exact .ok _
  · split
    · exact .ok _
    · exact .fail (by simp)
  · exact .fail (by simp)

theorem isWritable_integerOfText (t : Text) : IsWritable (integerOfText t) := by
  rw [integerOfText]
  split
  · exact .fail (by simp)
  · split
    · exact .ok _
    · exact .fail (by simp)
    · exact .fail (by simp)

theorem isWritable_integerOfFloat (x : Binary64) : IsWritable (integerOfFloat x) := by
  rw [integerOfFloat]
  split
  · exact .ite (.ok _) (.fail (by simp))
  · split
    · exact .fail (by simp)
    · exact .fail (by simp)

theorem isWritable_asInteger (d : Datum) : IsWritable d.asInteger := by
  rw [asInteger.eq_def]
  split
  · exact .ok _
  · exact .ok _
  · exact isWritable_integerOfFloat _
  · exact isWritable_integerOfText _
  · split
    · exact isWritable_integerOfText _
    · exact .fail (by simp)
  · exact .fail (by simp)

theorem isWritable_boolOfText (t : Text) : IsWritable (boolOfText t) := by
  rw [boolOfText]
  split
  · exact .fail (by simp)
  · split
    · exact .ok _
    · exact .fail (by simp)

theorem isWritable_boolOfInt (n : Int) : IsWritable (boolOfInt n) :=
  .ite (.ok _) (.ite (.ok _) (.fail (by simp)))

theorem isWritable_asBool (d : Datum) : IsWritable d.asBool := by
  rw [asBool.eq_def]
  split
  · exact .ok _
  · exact isWritable_boolOfText _
  · split
    · exact isWritable_boolOfText _
    · exact .fail (by simp)
  · exact .ite (isWritable_boolOfInt _) (.fail (by simp))
  · split
    · exact isWritable_boolOfInt _
    · exact .fail (by simp)
  · exact .fail (by simp)

theorem isWritable_asSeverity (d : Datum) : IsWritable d.asSeverity := by
  rw [asSeverity]
  split
  · split
    · exact .ok _
    · exact .fail (by simp)
  · exact .fail (by simp)

theorem isWritable_asSetSeverity (d : Datum) : IsWritable d.asSetSeverity := by
  rw [asSetSeverity.eq_def]
  split
  · split
    · exact .ok _
    · exact .fail (by simp)
  · split
    · exact .ok _
    · exact .fail (by simp)
  · exact isWritable_asSeverity _

theorem isWritable_asLimit (d : Datum) : IsWritable d.asLimit := by
  have hinteger := d.isWritable_asInteger
  rw [asLimit]
  split
  · exact .ite (.fail (by simp)) (.ok _)
  · rename_i issues hissues
    exact .error (hinteger issues hissues)

section Parts

variable {α : Type} {check : Datum → Checked α}

theorem isWritable_asList (h : ∀ d, IsWritable (check d)) (d : Datum) :
    IsWritable (d.asList check) := by
  rw [asList.eq_def]
  split
  · exact .each h _
  · exact .each h _
  · exact .each h _
  · exact .fail (by simp)

theorem isWritable_nullable (h : ∀ d, IsWritable (check d)) (d : Datum) :
    IsWritable (d.nullable check) := by
  rw [nullable.eq_def]
  split
  · exact .ok _
  · exact (h _).map

end Parts

theorem isWritable_asThemes (d : Datum) : IsWritable d.asThemes := by
  rw [asThemes.eq_def]
  split
  · exact .ok _
  · exact isWritable_asList isWritable_asText _

theorem isWritable_asRecord (name : String) (d : Datum) : IsWritable (d.asRecord name) := by
  rw [asRecord.eq_def]
  split
  · exact .ok _
  · exact .fail (by simp)

end Datum

/-! ## Sections -/

open Datum

namespace Section

theorem isWritable_extras (fields : List (Datum × Datum)) : IsWritable (extras fields) := by
  induction fields with
  | nil => exact .ok []
  | cons entry rest ih =>
    rw [extras.eq_def]
    dsimp only
    split
    · exact .ite ih ih.map
    · exact .ap (.map (.within (.fail (by simp)))) ih

/-- **Nothing in a section** is for a reason that cannot be written. -/
theorem isWritable_ofDatum (d : Datum) : IsWritable (ofDatum d) := by
  refine .bind (isWritable_asRecord _ d) fun fields => .withKeys (by simp) ?_
  refine .ap (.ap (.ap (.ap (.ap (.map ?_) ?_) ?_) ?_) ?_) (isWritable_extras fields)
  · exact .optional fun d _ => isWritable_asBool d
  · exact .optional fun d _ => isWritable_nullable isWritable_asSetSeverity d
  · exact .optional fun d _ => isWritable_nullable (isWritable_asList isWritable_asText) d
  · exact .optional fun d _ => isWritable_asList isWritable_asText d
  · exact .optional fun d _ => isWritable_nullable isWritable_asLimit d

end Section

namespace Profile

theorem isWritable_sectionName (key : Datum) : IsWritable (sectionName key) := by
  rw [sectionName.eq_def]
  split
  · exact .ok _
  · exact .within (.within (isWritable_asText _))

theorem isWritable_sectionsOf (entries : List (Datum × Datum)) :
    IsWritable (sectionsOf entries) := by
  induction entries with
  | nil => exact .ok []
  | cons entry rest ih =>
    rw [sectionsOf_cons]
    refine .ap (.map (.ap (isWritable_sectionName _).map ?_)) ih
    exact .within (Section.isWritable_ofDatum _)

theorem sectionName_of_mem_sectionsOf {entries : List (Datum × Datum)}
    {sections : List (Text × Section)} (h : sectionsOf entries = .ok sections) :
    ∀ entry ∈ sections, ∃ e ∈ entries, sectionName e.1 = .ok entry.1 := by
  induction entries generalizing sections with
  | nil =>
    cases h
    exact nofun
  | cons first rest ih =>
    obtain ⟨key, value⟩ := first
    rw [sectionsOf_cons] at h
    obtain ⟨_, more, hfirst, hmore, rfl⟩ := Checked.ap_eq_ok_iff.1 h
    obtain ⟨_, hpair, rfl⟩ := map_eq_ok_iff.1 hfirst
    obtain ⟨_, options, hname, -, rfl⟩ := Checked.ap_eq_ok_iff.1 hpair
    obtain ⟨name, hkey, rfl⟩ := map_eq_ok_iff.1 hname
    intro entry hentry
    rcases List.mem_cons.1 hentry with rfl | hentry
    · exact ⟨(key, value), List.mem_cons_self, hkey⟩
    · obtain ⟨e, he, hname⟩ := ih hmore entry hentry
      exact ⟨e, List.mem_cons_of_mem _ he, hname⟩

/-- A name with half of a pair in it is given as a text, for bytes are whole. -/
theorem isBrokenKey_of_sectionName {key : Datum} {name : Text} (h : sectionName key = .ok name)
    (hname : name.chars? = none) : key.isBrokenKey = true := by
  cases key with
  | text t =>
    cases h
    simp [isBrokenKey, Text.isWhole_eq_isSome_chars?, hname]
  | bytes octets =>
    have hbytes := within_eq_ok_iff.1 (within_eq_ok_iff.1 h)
    rw [asText] at hbytes
    split at hbytes
    · rename_i t htext
      cases hbytes
      obtain ⟨s, -, rfl⟩ := Option.map_eq_some_iff.1 htext
      simp [Text.ofString, Text.chars?_ofChars] at hname
    · cases hbytes
  | _ => cases within_eq_ok_iff.1 (within_eq_ok_iff.1 h)

/-- Sections one of which has a name with half of a pair in it. -/
def HasBrokenName (d : Datum) : Prop :=
  ∃ entries, d = .mapping entries ∧ ∃ e ∈ entries, e.1.isBrokenKey = true

/-- **A name that is quoted** in a reason is that of a section. -/
theorem causesIn_asSections (d : Datum) :
    CausesIn (fun cause => cause = .unwritable → HasBrokenName d) (asSections d) := by
  rw [asSections.eq_def]
  split
  · rename_i entries
    split
    · rename_i issues hissues
      exact FailsOnly.error ((isWritable_sectionsOf entries).causesIn issues hissues)
    · rename_i found hfound
      have hnames := sectionName_of_mem_sectionsOf hfound
      obtain ⟨hkept, -⟩ := foldl_putSection (P := fun entry : Text × Section =>
        ∃ e ∈ entries, sectionName e.1 = .ok entry.1) hnames
        (fun entry hentry => absurd hentry List.not_mem_nil) List.nodup_nil
      dsimp only
      split
      · rename_i name options hfind
        split
        · exact .fail (by simp)
        · rename_i hchars
          obtain ⟨e, he, hname⟩ := hkept _ (List.mem_of_find?_eq_some hfind)
          exact .fail fun _ => ⟨entries, rfl, e, he, isBrokenKey_of_sectionName hname hchars⟩
      · exact .ok _
  · exact .fail (by simp)

theorem isWritable_noExtras (entries : List (Datum × Datum)) : IsWritable (noExtras entries) := by
  induction entries with
  | nil => exact .ok ()
  | cons entry rest ih =>
    rw [noExtras.eq_def]
    refine .ap (.map ?_) ih
    split
    · exact .ite (.ok ()) (.within (.fail (by simp)))
    · exact .within (.fail (by simp))

theorem causesIn_ofEntries (entries : List (Datum × Datum)) :
    CausesIn (fun cause => cause = .unwritable →
      ∃ d, Datum.lookup? "policies" entries = some d ∧ HasBrokenName d) (ofEntries entries) := by
  refine .ap (.map (.ap (.ap (.map ?_) ?_) ?_)) (isWritable_noExtras entries).causesIn
  · exact .optional fun d _ => (isWritable_asSetSeverity d).causesIn
  · exact .optional fun d _ => (isWritable_asThemes d).causesIn
  · refine .optional fun d hd => (causesIn_asSections d).mono ?_
    exact fun _ hissues issue hissue hcause => ⟨d, hd, hissues issue hissue hcause⟩

/-- **A reason that cannot be written** is the name of a section with half of a pair in it. -/
theorem exists_isBrokenKey_of_unwritable {entries : List (Datum × Datum)} {issues : List Issue}
    (h : ofDatum (.mapping entries) = .error issues) (hun : hasUnwritable issues = true) :
    ∃ sections, Datum.lookup? "policies" entries = some (.mapping sections) ∧
      ∃ e ∈ sections, e.1.isBrokenKey = true := by
  have hcause : CausesIn (fun cause => cause = .unwritable →
      ∃ d, Datum.lookup? "policies" entries = some d ∧ HasBrokenName d)
      (ofDatum (.mapping entries)) := by
    rw [ofDatum_mapping]
    have hentries := causesIn_ofEntries entries
    split
    · exact .withKeys (by simp) (.ok _)
    · rename_i found hfound
      refine .ite ?_ (.withKeys (by simp) ?_)
      · refine FailsOnly.error fun issue hissue => ?_
        exact hentries found hfound issue (List.mem_of_mem_filter hissue)
      · exact FailsOnly.error (hentries found hfound)
  obtain ⟨issue, hissue, hunwritable⟩ := List.any_eq_true.1 hun
  obtain ⟨_, hlookup, sections, rfl, hbroken⟩ :=
    hcause issues h issue hissue (beq_iff_eq.1 hunwritable)
  exact ⟨sections, hlookup, hbroken⟩

end Profile
end JumpLint

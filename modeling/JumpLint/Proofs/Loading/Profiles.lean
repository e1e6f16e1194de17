import JumpLint.Proofs.Loading.Trees
import JumpLint.Proofs.Profile.Unwritable
import JumpLint.Proofs.Text.Pieces
import JumpLint.Proofs.Yaml.Typed

/-!
# Why a file gives no profile

A profile is YAML in which scalars have types, so more can go wrong than with a tree: a scalar may
have the form of a date and be none of the calendar, and a mapping may stand for a text that is the
mapping itself.  Nobody on the way expects errors of this kind, and they stand alone.  Here it is
shown which errors do, each with what in the file is the cause; all others name the file.  What is
read without an error is a valid profile.

## What is here

* `Lapse.IsOfProfile`: the errors about a profile that stand alone, each with its cause.
* `exists_needsRoom_read`: some amount of room is enough for the graph of every file.
* `loadProfile_eq_ok_iff`: the profile that a file gives.
* `failsOnly_loadProfile`: which errors there can be.
* `loadProfile_outcome`: a file gives a valid profile, an error that begins with its path, or an
  error that stands alone.
-/

set_option autoImplicit false
namespace JumpLint

open Yaml (Graph Supply)
open Yaml.Scalar (coreTag)

/-- The errors about a profile that stand alone: its path is none in bytes, or has a zero character;
its bytes are no text; it gives a character by a number that no character has, or a version by a
number of too many digits; a scalar in it has no value of its type; a mapping in it is named a date;
there is no room for so many collections inside each other, for so many keys `=` that lead on, or
for so many keys `<<`; the name of a section has half of a surrogate pair in it. -/
inductive Lapse.IsOfProfile (host : Host) (path : Path) : Lapse → Prop where
  | notEncodable (h : path.isEncodable = false) : IsOfProfile host path .notEncodable
  | zeroCharacter (hpath : path.isEncodable = true) (h : path.hasZero = true) :
      IsOfProfile host path .zeroCharacter
  | notUtf8 {bytes : ByteArray} (h : readFile host path = .ok bytes)
      (hbytes : String.fromUTF8? bytes = none) : IsOfProfile host path .notUtf8
  | codePoint {bytes : ByteArray} {code : Nat} (h : readFile host path = .ok bytes)
      (hread : Graph.read (host.profileRoom path) (.ofFile bytes) = .error (.codePoint code))
      (hcode : 0x10FFFF < code) : IsOfProfile host path (.scalar (.codePoint code))
  | version {bytes : ByteArray} {digits : Nat} (h : readFile host path = .ok bytes)
      (hread : Graph.read (host.profileRoom path) (.ofFile bytes) =
        .error (.integer (.tooLong digits)))
      (hdigits : Number.maxDigits < digits) :
      IsOfProfile host path (.scalar (.integer (.tooLong digits)))
  | scalar {bytes : ByteArray} {g : Graph} {root n : Nat} {node : Yaml.Node} {text : Text}
      {e : Yaml.Error} (h : readFile host path = .ok bytes)
      (hread : Graph.read (host.profileRoom path) (.ofFile bytes) = .ok (some (g, root)))
      (hnode : g[n]? = some node) (htext : g.HasText text n)
      (he : e.IsOfScalar (Graph.tagName node) text) : IsOfProfile host path (.scalar e)
  | momentOfMapping {bytes : ByteArray} {g : Graph} {root n : Nat} {entries : List (Nat × Nat)}
      (h : readFile host path = .ok bytes)
      (hread : Graph.read (host.profileRoom path) (.ofFile bytes) = .ok (some (g, root)))
      (hnode : g[n]? = some ⟨.named (coreTag "timestamp"), .mapping entries⟩) :
      IsOfProfile host path (.scalar .momentOfMapping)
  | nested {bytes : ByteArray} {need : Nat} (h : readFile host path = .ok bytes)
      (hneed : NeedsRoom .tooDeep (fun room => Graph.read room (.ofFile bytes)) need)
      (hroom : host.profileRoom path < need) : IsOfProfile host path .tooDeep
  | chained {bytes : ByteArray} {g : Graph} {root n : Nat} (h : readFile host path = .ok bytes)
      (hread : Graph.read (host.profileRoom path) (.ofFile bytes) = .ok (some (g, root)))
      (hchain : g.HasChain (host.profileRoom path + 1) n) : IsOfProfile host path .tooDeep
  | merged {bytes : ByteArray} {g : Graph} {root : Nat} (h : readFile host path = .ok bytes)
      (hread : Graph.read (host.profileRoom path) (.ofFile bytes) = .ok (some (g, root)))
      (hmerges : host.profileRoom path ≤ g.mergeCount) : IsOfProfile host path .tooDeep
  | unwritable {bytes : ByteArray} {entries sections : List (Datum × Datum)}
      (h : readFile host path = .ok bytes)
      (hread : Yaml.readTyped profileDepth (host.profileRoom path) (.ofFile bytes) =
        .ok (.mapping entries))
      (hsections : Datum.lookup? "policies" entries = some (.mapping sections))
      (hname : ∃ e ∈ sections, e.1.isBrokenKey = true) : IsOfProfile host path .unwritable

/-- The errors about a profile: those that name its file, and those that stand alone. -/
inductive LoadError.IsOfProfile (host : Host) (path : Path) : LoadError → Prop where
  | file (fault : FileFault) : IsOfProfile host path (.file path fault)
  | lapse {l : Lapse} (h : l.IsOfProfile host path) : IsOfProfile host path (.lapse l)

variable {host : Host} {path : Path} {bytes : ByteArray}

/-! ## The data in a file -/

/-- Only bytes that are no text are at fault. -/
theorem fault?_ofFile {e : Yaml.Error} (h : (Supply.ofFile bytes).fault? = some e) :
    e = .malformed ∨ e = .notUtf8 ∧ String.fromUTF8? bytes = none := by
  have hbytes : (Text.readPieces bytes).2 = false → String.fromUTF8? bytes = none := by
    intro hpieces
    rw [String.fromUTF8?]
    refine dif_neg fun hvalid => ?_
    rw [Text.readPieces_of_isValidUTF8 hvalid] at hpieces
    cases hpieces
  rw [Supply.ofFile] at h
  dsimp only at h
  split at h
  · rename_i hall
    cases h
    refine .inr ⟨rfl, hbytes ?_⟩
    simp_all
  · split at h
    · cases h
      exact .inl rfl
    · split at h
      · cases h
      · rename_i hall
        cases h
        exact .inr ⟨rfl, hbytes (Bool.eq_false_iff.2 hall)⟩

/-- The error of a scalar stands alone. -/
theorem yamlError_of_isAboutText (path : Path) {e : Yaml.Error} (h : e.isAboutText = true) :
    yamlError path e = .lapse (.scalar e) := by
  cases e <;> first | rfl | cases h

/-- Some amount of room is enough for the graph of every file. -/
theorem exists_needsRoom_read (bytes : ByteArray) :
    ∃ need, NeedsRoom .tooDeep (fun room => Graph.read room (.ofFile bytes)) need := by
  refine (Yaml.takesRoom_read (.ofFile bytes)).exists_needsRoom ?_
  rintro (huntyped | hfault)
  · cases huntyped
  · rcases fault?_ofFile hfault with h | ⟨h, -⟩ <;> cases h

theorem failsOnly_readTyped_ofFile (hfile : readFile host path = .ok bytes) :
    FailsOnly (LoadError.IsOfProfile host path)
      ((Yaml.readTyped profileDepth (host.profileRoom path) (.ofFile bytes)).mapError
        (yamlError path)) := by
  refine .mapError ((Yaml.failsOnly_readTyped _ _ _).mono ?_)
  rintro e (⟨hread, (huntyped | hfault) | rfl⟩ | ⟨g, root, hread, htyped | ⟨rfl, hmerges⟩⟩)
  · cases huntyped with
    | malformed => exact .file _
    | codePoint h => exact .lapse (.codePoint hfile hread h)
    | tooLong h => exact .lapse (.version hfile hread h)
  · rcases fault?_ofFile hfault with rfl | ⟨rfl, hbytes⟩
    · exact .file _
    · exact .lapse (.notUtf8 hfile hbytes)
  · obtain ⟨need, hneed⟩ := exists_needsRoom_read bytes
    exact .lapse (.nested hfile hneed (hneed.eq_full_iff.1 hread))
  · cases htyped with
    | malformed => exact .file _
    | scalar hnode htext he =>
      rw [yamlError_of_isAboutText path he.isAboutText]
      exact .lapse (.scalar hfile hread hnode htext he)
    | momentOfMapping hnode => exact .lapse (.momentOfMapping hfile hread hnode)
    | chained hchain => exact .lapse (.chained hfile hread hchain)
  · exact .lapse (.merged hfile hread hmerges)

/-! ## Profiles -/

theorem failsOnly_readFile (host : Host) (path : Path) :
    FailsOnly (LoadError.IsOfProfile host path) (readFile host path) := by
  intro e he
  rcases readFile_eq_error he with ⟨h, rfl⟩ | ⟨h, hzero, rfl⟩ | ⟨fault, rfl⟩
  · exact .lapse (.notEncodable h)
  · exact .lapse (.zeroCharacter h hzero)
  · exact .file _

/-- **The profile that a file gives**: the default one without data, else the one that is read from
the entries of a mapping. -/
theorem loadProfile_eq_ok_iff {p : Profile} :
    loadProfile host path = .ok p ↔ ∃ bytes, readFile host path = .ok bytes ∧
      (Yaml.readTyped profileDepth (host.profileRoom path) (.ofFile bytes) = .ok .null ∧
          p = .default ∨
        ∃ entries, Yaml.readTyped profileDepth (host.profileRoom path) (.ofFile bytes) =
            .ok (.mapping entries) ∧
          p.IsReadFrom entries) := by
  rw [loadProfile, bind_eq_ok_iff]
  refine exists_congr fun bytes => and_congr_right fun _ => bind_eq_ok_iff.trans ?_
  constructor
  · rintro ⟨d, hd, h⟩
    have hread := mapError_eq_ok_iff.1 hd
    split at h
    · cases h
      exact .inl ⟨hread, rfl⟩
    · exact .inr ⟨_, hread, Profile.ofDatum_mapping_eq_ok_iff.1 (mapError_eq_ok_iff.1 h)⟩
    · cases h
  · rintro (⟨hread, rfl⟩ | ⟨entries, hread, hentries⟩)
    · exact ⟨.null, mapError_eq_ok_iff.2 hread, rfl⟩
    · refine ⟨.mapping entries, mapError_eq_ok_iff.2 hread, mapError_eq_ok_iff.2 ?_⟩
      exact Profile.ofDatum_mapping_eq_ok_iff.2 hentries

theorem isValid_of_loadProfile {p : Profile} (h : loadProfile host path = .ok p) : p.IsValid := by
  obtain ⟨bytes, -, ⟨-, rfl⟩ | ⟨entries, -, hentries⟩⟩ := loadProfile_eq_ok_iff.1 h
  · exact ⟨nofun, nofun, List.nodup_nil⟩
  · exact Profile.isValid_of_ofDatum (Profile.ofDatum_mapping_eq_ok_iff.2 hentries)

/-- **Why a file gives no profile.**  The error names the file, or it stands alone for one of the
causes that are listed. -/
theorem failsOnly_loadProfile (host : Host) (path : Path) :
    FailsOnly (LoadError.IsOfProfile host path) (loadProfile host path) := by
  intro e he
  rw [loadProfile] at he
  rcases bind_eq_error_iff.1 he with hnone | ⟨bytes, hfile, he⟩
  · exact failsOnly_readFile host path e hnone
  rcases bind_eq_error_iff.1 he with hread | ⟨d, hd, he⟩
  · exact failsOnly_readTyped_ofFile hfile e hread
  have hread := mapError_eq_ok_iff.1 hd
  split at he
  · cases he
  · obtain ⟨issues, hissues, rfl⟩ := mapError_eq_error_iff.1 he
    split
    · rename_i hun
      obtain ⟨sections, hsections, hname⟩ :=
        Profile.exists_isBrokenKey_of_unwritable hissues hun
      exact .lapse (.unwritable hfile hread hsections hname)
    · exact .file _
  · cases he
    exact .file _

/-- **What comes of loading a profile**: a valid profile, an error that begins with the path of the
file, or an error that stands alone for a cause in the path or the file. -/
theorem loadProfile_outcome (host : Host) (path : Path) :
    (∃ p, loadProfile host path = .ok p ∧ p.IsValid) ∨
      (∃ fault, loadProfile host path = .error (.file path fault) ∧
        (LoadError.file path fault).message = path.text ++ .ofString (": " ++ fault.message)) ∨
      ∃ l, loadProfile host path = .error (.lapse l) ∧ l.IsOfProfile host path := by
  cases hload : loadProfile host path with
  | ok p => exact .inl ⟨p, rfl, isValid_of_loadProfile hload⟩
  | error e =>
    cases failsOnly_loadProfile host path e hload with
    | file fault => exact .inr (.inl ⟨fault, rfl, rfl⟩)
    | lapse h => exact .inr (.inr ⟨_, rfl, h⟩)

/-- A mapping whose text is its own is met by nobody either. -/
example : loadProfile (.ofFiles fun _ => .ok "&a !!str {=: *a}".toUTF8) (.ofString "p.yaml") =
    .error (.lapse .tooDeep) := by
  decide +kernel

/-- A directory with a profile whose severity has the form of a date in a thirteenth month. -/
def misdated : Host := .ofFiles fun path =>
  if path = .ofString "p.yaml" then .ok "severity: 2020-13-01\n".toUTF8 else .error .missing

/-- The month that there is not is met by nobody. -/
theorem misdated_stands_alone :
    (¬∃ p, loadProfile misdated (.ofString "p.yaml") = .ok p) ∧
      (¬∃ path fault, loadProfile misdated (.ofString "p.yaml") = .error (.file path fault)) ∧
      loadProfile misdated (.ofString "p.yaml") = .error (.lapse (.scalar .month)) := by
  have hload : loadProfile misdated (.ofString "p.yaml") = .error (.lapse (.scalar .month)) := by
    decide +kernel
  refine ⟨?_, ?_, hload⟩
  · rintro ⟨p, hp⟩
    cases hload.symm.trans hp
  · rintro ⟨path, fault, hfault⟩
    cases hload.symm.trans hfault

end JumpLint

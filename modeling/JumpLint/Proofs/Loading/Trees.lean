import JumpLint.Loading
import JumpLint.Proofs.Json.Errors
import JumpLint.Proofs.Yaml.Untyped

/-!
# Why a tree gives no document

A file that gives no document is named in the error, with what is wrong with it.  Some things that
can be wrong are met by nobody on the way, and then the error stands alone.  Here it is shown which
these are, and that all other errors name the file.

## What is here

* `readFile_eq_error`: why a file cannot be read.
* `Lapse.IsOfTree`: the errors about a tree that stand alone, each with its cause.
* `takesRoom_dumpData`: some amount of room is enough for the data in every text.
* `failsOnly_loadDocument`: a tree gives a document, an error that names the file, or one of the
  errors that stand alone.
* `loadDocument_eq_zeroCharacter_iff`, `loadDocument_eq_notUtf8_iff`: causes that are met before
  anything is read; `loadDocument_eq_tooDeep_iff`: when the end of the stack is met.
-/

set_option autoImplicit false
namespace JumpLint

/-! ## Files -/

/-- The file at a path is there and holds a text. -/
def Host.Holds (host : Host) (path : Path) (text : String) : Prop :=
  ∃ bytes, readFile host path = .ok bytes ∧ Text.decode? bytes = some text

variable {host : Host} {path : Path}

theorem readFile_of_not_encodable (h : path.isEncodable = false) :
    readFile host path = .error (.lapse .notEncodable) := by
  rw [readFile, Path.lapse?, h]
  rfl

theorem readFile_of_zeroCharacter (h : path.isEncodable = true) (hzero : path.hasZero = true) :
    readFile host path = .error (.lapse .zeroCharacter) := by
  rw [readFile, Path.lapse?, h, hzero]
  rfl

theorem readFile_of_possible (h : path.isEncodable = true) (hzero : path.hasZero = false) :
    readFile host path =
      (host.files path).mapError fun fault => .file path (.unreadable fault) := by
  rw [readFile, Path.lapse?, h, hzero]
  rfl

/-- **Why a file cannot be read**: its path is none in bytes or has a zero character, or there is a
fault that the error names with the file. -/
theorem readFile_eq_error {e : LoadError} (h : readFile host path = .error e) :
    (path.isEncodable = false ∧ e = .lapse .notEncodable) ∨
      (path.isEncodable = true ∧ path.hasZero = true ∧ e = .lapse .zeroCharacter) ∨
      ∃ fault, e = .file path (.unreadable fault) := by
  cases hpath : path.isEncodable with
  | false =>
    rw [readFile_of_not_encodable hpath] at h
    cases h
    exact .inl ⟨rfl, rfl⟩
  | true =>
    cases hzero : path.hasZero with
    | true =>
      rw [readFile_of_zeroCharacter hpath hzero] at h
      cases h
      exact .inr (.inl ⟨rfl, rfl, rfl⟩)
    | false =>
      rw [readFile_of_possible hpath hzero] at h
      obtain ⟨fault, -, rfl⟩ := mapError_eq_error_iff.1 h
      exact .inr (.inr ⟨fault, rfl⟩)

/-! ## Causes -/

/-- The errors about a tree that stand alone: its path is none in bytes, or has a zero character;
its bytes are no text; it is JSON with a whole number of too many digits; it is YAML that gives a
character by a number that no character has, or a version by a number of too many digits; it is
nested deeper than there is room for. -/
inductive Lapse.IsOfTree (host : Host) (path : Path) : Lapse → Prop where
  | notEncodable (h : path.isEncodable = false) : IsOfTree host path .notEncodable
  | zeroCharacter (hpath : path.isEncodable = true) (h : path.hasZero = true) :
      IsOfTree host path .zeroCharacter
  | notUtf8 {bytes : ByteArray} (h : readFile host path = .ok bytes)
      (hbytes : String.fromUTF8? bytes = none) : IsOfTree host path .notUtf8
  | number {text : String} {digits : Nat} (htext : host.Holds path text)
      (hsuffix : path.suffix = .ofString ".json")
      (hread : Json.read (host.treeRoom path) text = .error (.number (.tooLong digits)))
      (hdigits : Number.maxDigits < digits) : IsOfTree host path (.number (.tooLong digits))
  | codePoint {text : String} {code : Nat} (htext : host.Holds path text)
      (hsuffix : path.suffix ≠ .ofString ".json")
      (hread : Yaml.readUntyped (host.treeRoom path) text = .error (.codePoint code))
      (hcode : 0x10FFFF < code) : IsOfTree host path (.scalar (.codePoint code))
  | version {text : String} {digits : Nat} (htext : host.Holds path text)
      (hsuffix : path.suffix ≠ .ofString ".json")
      (hread : Yaml.readUntyped (host.treeRoom path) text = .error (.integer (.tooLong digits)))
      (hdigits : Number.maxDigits < digits) :
      IsOfTree host path (.scalar (.integer (.tooLong digits)))
  | tooDeep {text : String} {need : Nat} (htext : host.Holds path text)
      (hneed : NeedsRoom (.lapse .tooDeep) (fun room => dumpData room path text) need)
      (hroom : host.treeRoom path < need) : IsOfTree host path .tooDeep

/-- The errors about a tree: those that name its file, and those that stand alone. -/
inductive LoadError.IsOfTree (host : Host) (path : Path) : LoadError → Prop where
  | file (fault : FileFault) : IsOfTree host path (.file path fault)
  | lapse {l : Lapse} (h : l.IsOfTree host path) : IsOfTree host path (.lapse l)

/-! ## The data in a file -/

/-- Some amount of room is enough for the data in a text. -/
theorem takesRoom_dumpData (path : Path) (text : String) :
    TakesRoom (.lapse .tooDeep) (· ≠ .lapse .tooDeep) fun room => dumpData room path text := by
  simp only [dumpData]
  split
  · refine (Json.takesRoom_read text).mapError rfl fun e he => ?_
    cases he <;> exact nofun
  · refine (Yaml.takesRoom_readUntyped text).mapError rfl fun e he => ?_
    cases he <;> exact nofun

theorem dumpData_of_json (h : path.suffix = .ofString ".json") (room : Nat) (text : String) :
    dumpData room path text = (Json.read room text).mapError (jsonError path) := by
  rw [dumpData, h, beq_self_eq_true, if_pos rfl]

theorem dumpData_of_yaml (h : path.suffix ≠ .ofString ".json") (room : Nat) (text : String) :
    dumpData room path text = (Yaml.readUntyped room text).mapError (yamlError path) := by
  rw [dumpData, beq_false_of_ne h]
  rfl

theorem failsOnly_dumpData {text : String} (htext : host.Holds path text) :
    FailsOnly (LoadError.IsOfTree host path) (dumpData (host.treeRoom path) path text) := by
  intro e he
  by_cases hdeep : e = .lapse .tooDeep
  · obtain ⟨need, hneed⟩ := (takesRoom_dumpData path text).exists_needsRoom (not_not.2 rfl)
    rw [hdeep] at he ⊢
    exact .lapse (.tooDeep htext hneed (hneed.eq_full_iff.1 he))
  by_cases hsuffix : path.suffix = .ofString ".json"
  · rw [dumpData_of_json hsuffix] at he
    obtain ⟨error, hread, rfl⟩ := mapError_eq_error_iff.1 he
    rcases (Json.takesRoom_read text).failsOnly _ error hread with herror | rfl
    · cases herror with
      | malformed => exact .file _
      | tooLong h => exact .lapse (.number htext hsuffix hread h)
    · exact absurd rfl hdeep
  · rw [dumpData_of_yaml hsuffix] at he
    obtain ⟨error, hread, rfl⟩ := mapError_eq_error_iff.1 he
    rcases (Yaml.takesRoom_readUntyped text).failsOnly _ error hread with herror | rfl
    · cases herror with
      | malformed => exact .file _
      | codePoint h => exact .lapse (.codePoint htext hsuffix hread h)
      | tooLong h => exact .lapse (.version htext hsuffix hread h)
    · exact absurd rfl hdeep

/-! ## Documents -/

/-- What is done with the data in a file. -/
def documentOf (path : Path) : Datum → Except LoadError Document
  | .mapping entries =>
    (Document.ofDump (.mapping entries) (some path.text)).mapError fun e => .file path (.dump e)
  | _ => .error (.file path .notMapping)

/-- What is done with the text in a file. -/
theorem loadDocument_eq {text : String} (h : host.Holds path text) :
    loadDocument host path = dumpData (host.treeRoom path) path text >>= documentOf path := by
  obtain ⟨bytes, hbytes, htext⟩ := h
  rw [loadDocument, hbytes]
  simp only [bind, Except.bind, htext]
  rfl

theorem loadDocument_eq_of_error {e : LoadError} (h : readFile host path = .error e) :
    loadDocument host path = .error e := by
  rw [loadDocument, h]
  rfl

theorem decode?_eq_none_iff {bytes : ByteArray} :
    Text.decode? bytes = none ↔ String.fromUTF8? bytes = none := by
  rw [Text.decode?, Option.map_eq_none_iff]

theorem loadDocument_eq_of_not_utf8 {bytes : ByteArray} (h : readFile host path = .ok bytes)
    (hbytes : String.fromUTF8? bytes = none) :
    loadDocument host path = .error (.lapse .notUtf8) := by
  rw [loadDocument, h]
  simp only [bind, Except.bind, decode?_eq_none_iff.2 hbytes]

theorem failsOnly_documentOf (d : Datum) :
    FailsOnly (fun e => ∃ fault, e = .file path fault) (documentOf path d) := by
  rw [documentOf.eq_def]
  split
  · exact .mapError fun e _ => ⟨_, rfl⟩
  · exact .error ⟨_, rfl⟩

/-- **Why a tree gives no document.**  The error names the file, or it stands alone for one of seven
causes. -/
theorem failsOnly_loadDocument (host : Host) (path : Path) :
    FailsOnly (LoadError.IsOfTree host path) (loadDocument host path) := by
  cases hfile : readFile host path with
  | error e =>
    rw [loadDocument_eq_of_error hfile]
    rcases readFile_eq_error hfile with ⟨h, rfl⟩ | ⟨h, hzero, rfl⟩ | ⟨fault, rfl⟩
    · exact .error (.lapse (.notEncodable h))
    · exact .error (.lapse (.zeroCharacter h hzero))
    · exact .error (.file _)
  | ok bytes =>
    cases htext : Text.decode? bytes with
    | none =>
      have hbytes := decode?_eq_none_iff.1 htext
      rw [loadDocument_eq_of_not_utf8 hfile hbytes]
      exact .error (.lapse (.notUtf8 hfile hbytes))
    | some text =>
      have hholds : host.Holds path text := ⟨bytes, hfile, htext⟩
      rw [loadDocument_eq hholds]
      refine .bind (failsOnly_dumpData hholds) fun d => (failsOnly_documentOf d).mono ?_
      rintro _ ⟨fault, rfl⟩
      exact .file fault

/-- A path with a zero character is met before anything else but a path that is none in bytes. -/
theorem loadDocument_eq_zeroCharacter_iff :
    loadDocument host path = .error (.lapse .zeroCharacter) ↔
      path.isEncodable = true ∧ path.hasZero = true := by
  constructor
  · intro h
    cases failsOnly_loadDocument host path _ h with
    | lapse h => cases h with
      | zeroCharacter hpath h => exact ⟨hpath, h⟩
  · exact fun h => loadDocument_eq_of_error (readFile_of_zeroCharacter h.1 h.2)

/-- Bytes that are no text are met before anything is read. -/
theorem loadDocument_eq_notUtf8_iff :
    loadDocument host path = .error (.lapse .notUtf8) ↔
      ∃ bytes, readFile host path = .ok bytes ∧ String.fromUTF8? bytes = none := by
  constructor
  · intro h
    cases failsOnly_loadDocument host path _ h with
    | lapse h => cases h with
      | notUtf8 h hbytes => exact ⟨_, h, hbytes⟩
  · rintro ⟨bytes, h, hbytes⟩
    exact loadDocument_eq_of_not_utf8 h hbytes

/-- The end of the stack is met exactly if the data in the file needs more room than there is. -/
theorem loadDocument_eq_tooDeep_iff :
    loadDocument host path = .error (.lapse .tooDeep) ↔
      ∃ text need, host.Holds path text ∧
        NeedsRoom (.lapse .tooDeep) (fun room => dumpData room path text) need ∧
        host.treeRoom path < need := by
  constructor
  · intro h
    cases failsOnly_loadDocument host path _ h with
    | lapse h => cases h with
      | tooDeep htext hneed hroom => exact ⟨_, _, htext, hneed, hroom⟩
  · rintro ⟨text, need, htext, hneed, hroom⟩
    rw [loadDocument_eq htext, hneed.eq_full _ hroom]
    rfl

/-- A node inside another one, and the lists that they stand in, are four levels. -/
example :
    dumpData 3 (.ofString "jump.json") "\x7b\"children\": [\x7b\"children\": []\x7d]\x7d" =
        .error (.lapse .tooDeep) ∧
      (dumpData 4 (.ofString "jump.json")
        "\x7b\"children\": [\x7b\"children\": []\x7d]\x7d").isOk = true := by
  decide +kernel

end JumpLint

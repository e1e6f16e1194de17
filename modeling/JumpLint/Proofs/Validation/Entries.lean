import JumpLint.Dump
import JumpLint.Proofs.Validation.Shape
import Mathlib.Data.Option.Basic

/-!
# Named entries

What is read from a record are the values of its named entries, and nothing else counts for that.
Here it is said what is found under a name in entries that were changed, and that a field is read
the same from entries which differ in what its check passes over.

## What is here

* `Text.ofString_injective`: names are told apart by their texts.
* `Datum.entry_cases`: an entry has a given name or another key; `Datum.lookup?_cons_entry` and
  `Datum.lookup?_cons_of_ne` look for the name, entry by entry.
* `Datum.lookup?_insert_self`, `Datum.lookup?_insert_of_ne`: what is found in entries of which one
  was set.
* `Datum.rel_lookup?`: what is found in entries that correspond one by one.
* `Checked.each_congr`, `required_congr`, `optional_congr`: when items or a field are read the same
  from other ones.
* `optional_insert_self`, `optional_insert_of_ne`: fields of entries of which one was set.
-/

set_option autoImplicit false
namespace JumpLint

theorem Text.ofString_injective : Function.Injective Text.ofString := by
  intro s t h
  have hchars := (List.map_injective_iff.2 fun _ _ hc => CodePoint.char.inj hc) h
  exact String.toList_injective hchars

namespace Datum

variable {name other : String} {e : Datum × Datum}

theorem entry_cases (name : String) (e : Datum × Datum) :
    (∃ value, e = entry name value) ∨ e.1 ≠ .text (.ofString name) := by
  obtain ⟨key, value⟩ := e
  by_cases hkey : key = .text (.ofString name)
  · exact .inl ⟨value, congrArg (·, value) hkey⟩
  · exact .inr hkey

theorem key_entry_ne (h : other ≠ name) (value : Datum) :
    (entry other value).1 ≠ .text (.ofString name) :=
  fun hkeys => h (Text.ofString_injective (Datum.text.inj hkeys))

theorem lookup?_cons_entry (name : String) (value : Datum) (rest : List (Datum × Datum)) :
    lookup? name (entry name value :: rest) = some value :=
  if_pos (beq_self_eq_true _)

theorem lookup?_cons_of_ne (h : e.1 ≠ .text (.ofString name)) (rest : List (Datum × Datum)) :
    lookup? name (e :: rest) = lookup? name rest := by
  obtain ⟨key, value⟩ := e
  cases key with
  | text t => exact if_neg fun ht => h (congrArg Datum.text (beq_iff_eq.1 ht))
  | _ => rfl

/-! ## Setting an entry -/

/-- A name is the same key as no other key. -/
theorem sameKey_ofString_iff {key : Datum} :
    sameKey key (.text (.ofString name)) = true ↔ key = .text (.ofString name) := by
  cases key with
  | text t => exact beq_iff_eq.trans (text.injEq ..).symm.to_iff
  | float x =>
    have hother : sameKey (.float x) (.text (.ofString name)) = false := by
      rw [sameKey.eq_def]
      cases (float x).asInt? <;> rfl
    exact iff_of_false (by simp [hother]) nofun
  | _ => exact iff_of_false Bool.false_ne_true nofun

theorem insert_cons_entry (name : String) (old value : Datum) (rest : List (Datum × Datum)) :
    insert (.text (.ofString name)) value (entry name old :: rest) = entry name value :: rest :=
  if_pos (sameKey_ofString_iff.2 rfl)

theorem insert_cons_of_ne (h : e.1 ≠ .text (.ofString name)) (value : Datum)
    (rest : List (Datum × Datum)) :
    insert (.text (.ofString name)) value (e :: rest) =
      e :: insert (.text (.ofString name)) value rest :=
  if_neg (mt sameKey_ofString_iff.1 h)

theorem lookup?_insert_self (name : String) (value : Datum) (entries : List (Datum × Datum)) :
    lookup? name (insert (.text (.ofString name)) value entries) = some value := by
  induction entries with
  | nil => exact lookup?_cons_entry name value []
  | cons first rest ih =>
    obtain ⟨old, rfl⟩ | hkey := entry_cases name first
    · rw [insert_cons_entry, lookup?_cons_entry]
    · rw [insert_cons_of_ne hkey, lookup?_cons_of_ne hkey, ih]

theorem lookup?_insert_of_ne (h : other ≠ name) (value : Datum) (entries : List (Datum × Datum)) :
    lookup? name (insert (.text (.ofString other)) value entries) = lookup? name entries := by
  induction entries with
  | nil => exact lookup?_cons_of_ne (key_entry_ne h value) []
  | cons first rest ih =>
    obtain ⟨old, rfl⟩ | hkey := entry_cases other first
    · rw [insert_cons_entry, lookup?_cons_of_ne (key_entry_ne h value),
        lookup?_cons_of_ne (key_entry_ne h old)]
    · rw [insert_cons_of_ne hkey]
      obtain ⟨value', rfl⟩ | hname := entry_cases name first
      · rw [lookup?_cons_entry, lookup?_cons_entry]
      · rw [lookup?_cons_of_ne hname, lookup?_cons_of_ne hname, ih]

/-- Besides the entry that was set there is nothing new. -/
theorem mem_insert {value : Datum} {entries : List (Datum × Datum)}
    (h : e ∈ insert (.text (.ofString name)) value entries) :
    e = entry name value ∨ e ∈ entries := by
  induction entries with
  | nil => exact .inl (List.mem_singleton.1 h)
  | cons first rest ih =>
    obtain ⟨old, rfl⟩ | hkey := entry_cases name first
    · rw [insert_cons_entry] at h
      exact (List.mem_cons.1 h).imp_right (List.mem_cons_of_mem _)
    · rw [insert_cons_of_ne hkey] at h
      rcases List.mem_cons.1 h with rfl | h
      · exact .inr List.mem_cons_self
      · exact (ih h).imp_right (List.mem_cons_of_mem _)

/-! ## Entries that correspond -/

/-- **What is found in entries that correspond** one by one, under the same keys, corresponds. -/
theorem rel_lookup? {R : Datum × Datum → Datum × Datum → Prop}
    (hkey : ∀ e e', R e e' → e'.1 = e.1) {entries entries' : List (Datum × Datum)}
    (h : List.Forall₂ R entries entries') (name : String) :
    Option.Rel (fun v v' => R (entry name v) (entry name v')) (lookup? name entries)
      (lookup? name entries') := by
  induction h with
  | nil => exact .none
  | @cons first first' rest rest' hfirst hrest ih =>
    have hsame := hkey first first' hfirst
    obtain ⟨value, rfl⟩ | hname := entry_cases name first
    · obtain ⟨value', rfl⟩ | hname' := entry_cases name first'
      · rw [lookup?_cons_entry, lookup?_cons_entry]
        exact .some hfirst
      · exact absurd hsame hname'
    · rw [lookup?_cons_of_ne hname, lookup?_cons_of_ne (hsame ▸ hname)]
      exact ih

end Datum

/-! ## Items and fields -/

/-- Items that are checked the same one by one are checked the same in a row. -/
theorem Checked.each_congr {α β : Type} {check : α → Checked β} {items items' : List α}
    (h : List.Forall₂ (fun x x' => check x' = check x) items items') :
    each check items' = each check items := by
  have hfrom : ∀ i, eachFrom check i items' = eachFrom check i items := by
    induction h with
    | nil => exact fun i => rfl
    | cons hfirst hrest ih =>
      intro i
      rw [eachFrom, eachFrom, hfirst, ih]
  exact hfrom 0

section Fields

variable {α : Type} {name : String} {check : Datum → Checked α} {R : Datum → Datum → Prop}
  {entries entries' : List (Datum × Datum)}

theorem required_congr
    (h : Option.Rel R (Datum.lookup? name entries) (Datum.lookup? name entries'))
    (hcheck : ∀ v v', R v v' → check v' = check v) :
    required name check entries' = required name check entries := by
  rw [required, required]
  generalize Datum.lookup? name entries = found at h
  generalize Datum.lookup? name entries' = found' at h
  cases h with
  | some hvalue => simp only [hcheck _ _ hvalue]
  | none => rfl

theorem optional_congr {default : α}
    (h : Option.Rel R (Datum.lookup? name entries) (Datum.lookup? name entries'))
    (hcheck : ∀ v v', R v v' → check v' = check v) :
    optional name default check entries' = optional name default check entries := by
  rw [optional, optional]
  generalize Datum.lookup? name entries = found at h
  generalize Datum.lookup? name entries' = found' at h
  cases h with
  | some hvalue => simp only [hcheck _ _ hvalue]
  | none => rfl

theorem optional_insert_self {default a : α} {value : Datum} (h : check value = .ok a) :
    optional name default check (Datum.insert (.text (.ofString name)) value entries) = .ok a :=
  optional_eq_ok_iff.2 (.inr ⟨value, Datum.lookup?_insert_self name value entries, h⟩)

theorem optional_insert_of_ne {other : String} (h : other ≠ name) (default : α) (value : Datum) :
    optional name default check (Datum.insert (.text (.ofString other)) value entries) =
      optional name default check entries := by
  rw [optional, Datum.lookup?_insert_of_ne h, optional]

end Fields

end JumpLint

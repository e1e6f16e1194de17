import JumpLint.Goto.LabelTable
import Mathlib.Algebra.Ring.Nat
import Mathlib.Data.List.Induction
import Mathlib.Data.List.Nodup

/-!
# What a label table holds

A table is made by recording definitions one after the other.  Here it is compared with the row of
definitions that it was made from: looking up a label gives the scopes of its definitions, in their
order and with repetitions, and nothing when there are none.  A label that comes again is added to
the entry that it has and a new one to the end of the table, so that each label has one entry, and
the entries stay in the order of first definitions.

## What is here

* `lookup_eq_some_of_mem`, `lookup_eq_none_iff_not_mem`: looking up a name that is not repeated, and
  one that is not there.
* `LabelTable.scopesOf`: the scopes of the definitions of a label in a row.
* `LabelTable.lookup_ofLabels`: looking up a label.
* `LabelTable.ofLabels_eq_nil_iff`: the table is empty when there is nothing to record.
* `LabelTable.keys`: the labels of a table; `LabelTable.nodup_keys_ofLabels` and
  `LabelTable.mem_keys_ofLabels_iff`: each label that is defined is there once.
* `LabelTable.StartsBefore`, `LabelTable.pairwise_keys_ofLabels`: the order of the labels.
* `LabelTable.snd_eq_of_mem_ofLabels`, `LabelTable.sum_length_ofLabels`: what is in the entries, and
  how much.
* `LabelTable.isEntered_ofLabels_iff`: a jump enters a block when there is a definition of its label
  and no definition is in a scope around the jump.
* `LabelTable.isEntered_ofLabels_congr`, `LabelTable.isEntered_ofLabels_append`: definitions of
  other labels do not matter to the judgment, and scopes without definitions do not either.
* `LabelTable.ofLabels_map`, `LabelTable.isEntered_ofLabels_map`: what becomes of a table and of its
  judgment when scopes get other names.
-/

set_option autoImplicit false
namespace JumpLint

/-- In a row without repeated names, each entry is the one that is found by its name. -/
theorem lookup_eq_some_of_mem {β : Type} {entries : List (Text × β)}
    (hdistinct : (entries.map Prod.fst).Nodup) {entry : Text × β} (hentry : entry ∈ entries) :
    entries.lookup entry.1 = some entry.2 := by
  obtain ⟨before, after, rfl⟩ := List.append_of_mem hentry
  rw [List.map_append, List.map_cons, List.nodup_append] at hdistinct
  refine List.lookup_eq_some_iff.2 ⟨before, after, rfl, fun other hother => ?_⟩
  rw [bne_iff_ne]
  exact (hdistinct.2.2 _ (List.mem_map_of_mem hother) _ List.mem_cons_self).symm

theorem lookup_eq_none_iff_not_mem {β : Type} {entries : List (Text × β)} {name : Text} :
    entries.lookup name = none ↔ name ∉ entries.map Prod.fst := by
  simp only [List.lookup_eq_none_iff, bne_iff_ne, List.mem_map, not_exists, not_and]
  exact forall₂_congr fun entry _ => ne_comm

namespace LabelTable

variable {Scope : Type}

/-! ## Recording one definition -/

theorem record_ne_nil (label : Text) (scope : Scope) (table : LabelTable Scope) :
    record label scope table ≠ [] := by
  cases table with
  | nil => exact List.cons_ne_nil _ _
  | cons entry rest =>
    rw [record]
    split <;> exact List.cons_ne_nil _ _

theorem lookup_entry (l k : Text) (scopes : List Scope) (rest : LabelTable Scope) :
    List.lookup k ((l, scopes) :: rest) = if k = l then some scopes else rest.lookup k := by
  rw [List.lookup_cons]
  by_cases hk : k = l
  · rw [if_pos hk, beq_iff_eq.2 hk]
  · rw [if_neg hk, beq_eq_false_iff_ne.2 hk]

/-- Recording a definition adds its scope to those of the label, and changes no other label. -/
theorem lookup_record (label k : Text) (scope : Scope) (table : LabelTable Scope) :
    (record label scope table).lookup k =
      if k = label then some ((table.lookup k).getD [] ++ [scope]) else table.lookup k := by
  induction table with
  | nil => rw [record, lookup_entry, List.lookup_nil, Option.getD_none, List.nil_append]
  | cons entry rest ih =>
    obtain ⟨l, scopes⟩ := entry
    rw [record]
    split
    · rename_i hl
      rw [← beq_iff_eq.1 hl, lookup_entry, lookup_entry]
      by_cases hk : k = l
      · rw [if_pos hk, if_pos hk, if_pos hk, Option.getD_some]
      · rw [if_neg hk, if_neg hk, if_neg hk]
    · rename_i hl
      rw [lookup_entry, lookup_entry, ih]
      by_cases hk : k = l
      · have hlabel : k ≠ label := fun h => hl (beq_iff_eq.2 (hk.symm.trans h))
        rw [if_pos hk, if_pos hk, if_neg hlabel]
      · rw [if_neg hk, if_neg hk]

/-! ## Recording all of them -/

/-- The scopes of the definitions of a label, in order. -/
def scopesOf (labels : List (Text × Scope)) (k : Text) : List Scope :=
  (labels.filter fun definition => definition.1 == k).map (·.2)

theorem mem_scopesOf_iff {labels : List (Text × Scope)} {k : Text} {scope : Scope} :
    scope ∈ scopesOf labels k ↔ (k, scope) ∈ labels := by
  rw [scopesOf, List.mem_map]
  constructor
  · rintro ⟨⟨l, s⟩, hmem, rfl⟩
    obtain ⟨hmem, hl⟩ := List.mem_filter.1 hmem
    rw [beq_iff_eq] at hl
    exact hl ▸ hmem
  · intro hmem
    exact ⟨(k, scope), List.mem_filter.2 ⟨hmem, beq_self_eq_true k⟩, rfl⟩

theorem scopesOf_concat (labels : List (Text × Scope)) (label k : Text) (scope : Scope) :
    scopesOf (labels ++ [(label, scope)]) k =
      if k = label then scopesOf labels k ++ [scope] else scopesOf labels k := by
  rw [scopesOf, List.filter_append, List.map_append]
  by_cases hk : k = label
  · subst hk
    simp [scopesOf]
  · simp [scopesOf, hk, Ne.symm hk]

theorem ofLabels_concat (labels : List (Text × Scope)) (label : Text) (scope : Scope) :
    ofLabels (labels ++ [(label, scope)]) = record label scope (ofLabels labels) := by
  rw [ofLabels, List.foldl_append, ofLabels, List.foldl_cons, List.foldl_nil]

/-- **Looking up a label** gives the scopes of all its definitions, and nothing when it has none. -/
theorem lookup_ofLabels (labels : List (Text × Scope)) (k : Text) :
    (ofLabels labels).lookup k =
      if scopesOf labels k = [] then none else some (scopesOf labels k) := by
  induction labels using List.reverseRecOn with
  | nil => rfl
  | append_singleton labels definition ih =>
    obtain ⟨label, scope⟩ := definition
    rw [ofLabels_concat, lookup_record, scopesOf_concat, ih]
    by_cases hk : k = label
    · have hconcat : scopesOf labels k ++ [scope] ≠ [] := List.concat_ne_nil _ _
      rw [if_pos hk, if_pos hk, if_neg hconcat]
      by_cases hnil : scopesOf labels k = []
      · rw [if_pos hnil, hnil, Option.getD_none]
      · rw [if_neg hnil, Option.getD_some]
    · rw [if_neg hk, if_neg hk]

theorem ofLabels_eq_nil_iff {labels : List (Text × Scope)} :
    ofLabels labels = [] ↔ labels = [] := by
  cases labels using List.reverseRecOn with
  | nil => exact ⟨fun _ => rfl, fun _ => rfl⟩
  | append_singleton labels definition =>
    obtain ⟨label, scope⟩ := definition
    rw [ofLabels_concat]
    exact ⟨fun h => absurd h (record_ne_nil _ _ _), fun h => absurd h (List.concat_ne_nil _ _)⟩

/-! ## The entries -/

/-- The labels of a table, in order. -/
def keys (table : LabelTable Scope) : List Text := table.map Prod.fst

/-- A new label comes last. -/
theorem keys_record (label : Text) (scope : Scope) (table : LabelTable Scope) :
    keys (record label scope table) =
      if label ∈ table.keys then table.keys else table.keys ++ [label] := by
  induction table with
  | nil => rfl
  | cons entry rest ih =>
    obtain ⟨l, scopes⟩ := entry
    by_cases hl : l = label
    · simp [record, keys, hl]
    · have hrest : keys (record label scope ((l, scopes) :: rest)) =
          l :: keys (record label scope rest) := by
        simp [record, keys, hl]
      have hkeys : keys ((l, scopes) :: rest) = l :: keys rest := rfl
      rw [hrest, ih, hkeys]
      by_cases hmem : label ∈ keys rest
      · simp [hmem]
      · simp [hmem, Ne.symm hl]

theorem mem_keys_ofLabels_iff {labels : List (Text × Scope)} {k : Text} :
    k ∈ (ofLabels labels).keys ↔ ∃ scope, (k, scope) ∈ labels := by
  induction labels using List.reverseRecOn with
  | nil => simp [ofLabels, keys]
  | append_singleton labels definition ih =>
    obtain ⟨label, scope⟩ := definition
    have hnew : (∃ s, (k, s) ∈ labels ++ [(label, scope)]) ↔
        (∃ s, (k, s) ∈ labels) ∨ k = label := by
      simp [exists_or]
    rw [ofLabels_concat, keys_record, hnew, ← ih]
    split
    · rename_i hmem
      exact ⟨.inl, fun h => h.elim id fun heq => heq ▸ hmem⟩
    · rw [List.mem_append, List.mem_singleton]

theorem nodup_keys_ofLabels (labels : List (Text × Scope)) : (ofLabels labels).keys.Nodup := by
  induction labels using List.reverseRecOn with
  | nil => exact List.nodup_nil
  | append_singleton labels definition ih =>
    rw [ofLabels_concat, keys_record]
    split
    · exact ih
    · rename_i hnew
      exact ih.append (List.nodup_singleton _) (List.disjoint_singleton.2 hnew)

/-- A label has a definition in front of all definitions of a later one, where `R` tells which
definitions are in front of which. -/
def StartsBefore (R : Scope → Scope → Prop) (labels : List (Text × Scope)) (k later : Text) :
    Prop :=
  ∃ scope, (k, scope) ∈ labels ∧ ∀ scope', (later, scope') ∈ labels → R scope scope'

/-- What starts first still does when a definition is added behind all others. -/
theorem StartsBefore.concat {R : Scope → Scope → Prop} {labels : List (Text × Scope)}
    {k later : Text} (h : StartsBefore R labels k later) {added : Text × Scope}
    (hlast : ∀ definition ∈ labels, R definition.2 added.2) :
    StartsBefore R (labels ++ [added]) k later := by
  obtain ⟨scope, hscope, hfirst⟩ := h
  refine ⟨scope, List.mem_append_left _ hscope, fun scope' hscope' => ?_⟩
  rcases List.mem_append.1 hscope' with hold | hadded
  · exact hfirst scope' hold
  · rw [List.mem_singleton] at hadded
    subst hadded
    exact hlast _ hscope

/-- **Labels are in the order of their first definitions.** -/
theorem pairwise_keys_ofLabels {R : Scope → Scope → Prop} {labels : List (Text × Scope)}
    (h : labels.Pairwise fun a b => R a.2 b.2) :
    (ofLabels labels).keys.Pairwise (StartsBefore R labels) := by
  induction labels using List.reverseRecOn with
  | nil => exact .nil
  | append_singleton labels added ih =>
    obtain ⟨hold, -, hbehind⟩ := List.pairwise_append.1 h
    have hlast : ∀ definition ∈ labels, R definition.2 added.2 := fun definition hdefinition =>
      hbehind definition hdefinition added List.mem_cons_self
    have hrow := (ih hold).imp fun hfirst => hfirst.concat hlast
    rw [ofLabels_concat, keys_record]
    split
    · exact hrow
    · rename_i hnew
      refine List.pairwise_append.2 ⟨hrow, List.pairwise_singleton _ _, fun k hk later hlater => ?_⟩
      rw [List.mem_singleton.1 hlater]
      -- a new label had no definition so far, so any label of the table starts before it
      obtain ⟨scope, hscope⟩ := mem_keys_ofLabels_iff.1 hk
      have hfirst : StartsBefore R labels k added.1 := ⟨scope, hscope, fun scope' hscope' =>
        absurd (mem_keys_ofLabels_iff.2 ⟨scope', hscope'⟩) hnew⟩
      exact hfirst.concat hlast

/-- The scopes in an entry are those of all definitions of its label. -/
theorem snd_eq_of_mem_ofLabels {labels : List (Text × Scope)} {entry : Text × List Scope}
    (h : entry ∈ ofLabels labels) : entry.2 = scopesOf labels entry.1 := by
  have hfound := lookup_eq_some_of_mem (nodup_keys_ofLabels labels) h
  rw [lookup_ofLabels] at hfound
  split at hfound
  · cases hfound
  · exact (Option.some.inj hfound).symm

/-- What a table holds has been recorded. -/
theorem mem_of_mem_ofLabels {labels : List (Text × Scope)} {entry : Text × List Scope}
    (hentry : entry ∈ ofLabels labels) {scope : Scope} (hscope : scope ∈ entry.2) :
    (entry.1, scope) ∈ labels :=
  mem_scopesOf_iff.1 (snd_eq_of_mem_ofLabels hentry ▸ hscope)

theorem sum_length_record (label : Text) (scope : Scope) (table : LabelTable Scope) :
    ((record label scope table).map fun entry => entry.2.length).sum =
      (table.map fun entry => entry.2.length).sum + 1 := by
  induction table with
  | nil => rfl
  | cons entry rest ih =>
    obtain ⟨l, scopes⟩ := entry
    rw [record]
    split
    · simp only [List.map_cons, List.sum_cons, List.length_append, List.length_singleton]
      omega
    · simp only [List.map_cons, List.sum_cons, ih]
      omega

/-- There are as many scopes in a table as there were definitions. -/
theorem sum_length_ofLabels (labels : List (Text × Scope)) :
    ((ofLabels labels).map fun entry => entry.2.length).sum = labels.length := by
  induction labels using List.reverseRecOn with
  | nil => rfl
  | append_singleton labels definition ih =>
    rw [ofLabels_concat, sum_length_record, ih, List.length_append, List.length_singleton]

/-! ## The judgment -/

/-- **When a jump enters a block.**  Its label has a definition, and no definition of the label is
in a scope around the jump. -/
theorem isEntered_ofLabels_iff [BEq Scope] [LawfulBEq Scope] {labels : List (Text × Scope)}
    {target : Option Text} {scopes : List Scope} :
    (ofLabels labels).isEntered target scopes = true ↔
      ∃ label, target = some label ∧ (∃ scope, (label, scope) ∈ labels) ∧
        ∀ scope, (label, scope) ∈ labels → scope ∉ scopes := by
  cases target with
  | none => simp [isEntered]
  | some label =>
    simp only [isEntered, Option.bind_some, lookup_ofLabels, Option.some.injEq, exists_eq_left',
      ← mem_scopesOf_iff]
    by_cases hnil : scopesOf labels label = []
    · simp [hnil]
    · have hex : ∃ scope, scope ∈ scopesOf labels label := List.exists_mem_of_ne_nil _ hnil
      rw [if_neg hnil]
      simp [hex]

section Judgment

variable [BEq Scope] [LawfulBEq Scope] {labels labels' : List (Text × Scope)} {target : Option Text}
  {scopes : List Scope}

/-- Only the definitions of the label that is jumped to matter to the judgment. -/
theorem isEntered_ofLabels_congr
    (h : ∀ label, target = some label →
      ∀ scope, (label, scope) ∈ labels ↔ (label, scope) ∈ labels') :
    (ofLabels labels).isEntered target scopes = (ofLabels labels').isEntered target scopes := by
  rw [Bool.eq_iff_iff, isEntered_ofLabels_iff, isEntered_ofLabels_iff]
  refine exists_congr fun label => and_congr_right fun htarget => ?_
  simp only [h label htarget]

/-- Scopes in which nothing is defined do not matter to the judgment. -/
theorem isEntered_ofLabels_append {outer : List Scope}
    (h : ∀ definition ∈ labels, definition.2 ∉ outer) :
    (ofLabels labels).isEntered target (scopes ++ outer) =
      (ofLabels labels).isEntered target scopes := by
  rw [Bool.eq_iff_iff, isEntered_ofLabels_iff, isEntered_ofLabels_iff]
  refine exists_congr fun label => and_congr_right fun _ => and_congr_right fun _ => ?_
  refine forall_congr' fun scope => imp_congr_right fun hscope => ?_
  have hnot := h _ hscope
  simp [hnot]

end Judgment

/-! ## Other names for the scopes -/

variable {Scope' : Type}

/-- A table with other names for its scopes. -/
def mapScopes (f : Scope → Scope') (table : LabelTable Scope) : LabelTable Scope' :=
  table.map (Prod.map id (List.map f))

theorem keys_mapScopes (f : Scope → Scope') (table : LabelTable Scope) :
    (mapScopes f table).keys = table.keys := by
  rw [keys, keys, mapScopes, List.map_map]
  rfl

theorem record_mapScopes (f : Scope → Scope') (label : Text) (scope : Scope)
    (table : LabelTable Scope) :
    record label (f scope) (mapScopes f table) = mapScopes f (record label scope table) := by
  induction table with
  | nil => rfl
  | cons entry rest ih =>
    obtain ⟨l, scopes⟩ := entry
    have hcons : mapScopes f ((l, scopes) :: rest) = (l, scopes.map f) :: mapScopes f rest := rfl
    rw [hcons, record, record]
    by_cases hl : (l == label) = true
    · rw [if_pos hl, if_pos hl]
      simp [mapScopes]
    · rw [if_neg hl, if_neg hl, ih]
      rfl

/-- The table of definitions in which scopes have other names. -/
theorem ofLabels_map (f : Scope → Scope') (labels : List (Text × Scope)) :
    ofLabels (labels.map (Prod.map id f)) = mapScopes f (ofLabels labels) := by
  induction labels using List.reverseRecOn with
  | nil => rfl
  | append_singleton labels definition ih =>
    obtain ⟨label, scope⟩ := definition
    rw [List.map_append, List.map_singleton, Prod.map, id, ofLabels_concat, ih, record_mapScopes,
      ofLabels_concat]

/-- **Names do not matter** to the judgment, as long as different scopes keep different ones. -/
theorem isEntered_ofLabels_map [BEq Scope] [LawfulBEq Scope] [BEq Scope'] [LawfulBEq Scope']
    {f : Scope → Scope'} {labels : List (Text × Scope)} {scopes : List Scope}
    (hinj : ∀ definition ∈ labels, ∀ b ∈ scopes, f definition.2 = f b → definition.2 = b)
    (target : Option Text) :
    (ofLabels (labels.map (Prod.map id f))).isEntered target (scopes.map f) =
      (ofLabels labels).isEntered target scopes := by
  have hmem : ∀ {definition}, definition ∈ labels →
      (f definition.2 ∈ scopes.map f ↔ definition.2 ∈ scopes) := by
    intro definition hdefinition
    constructor
    · intro h
      obtain ⟨b, hb, heq⟩ := List.mem_map.1 h
      exact hinj definition hdefinition b hb heq.symm ▸ hb
    · exact List.mem_map_of_mem
  rw [Bool.eq_iff_iff, isEntered_ofLabels_iff, isEntered_ofLabels_iff]
  refine exists_congr fun label => and_congr_right fun _ => and_congr ?_ ?_
  · simp
  · constructor
    · intro h scope hscope
      exact fun hin => h (f scope) (List.mem_map.2 ⟨_, hscope, rfl⟩) ((hmem hscope).2 hin)
    · intro h scope' hscope'
      obtain ⟨⟨l, scope⟩, hscope, heq⟩ := List.mem_map.1 hscope'
      obtain ⟨rfl, rfl⟩ := Prod.mk.inj heq
      exact fun hin => h scope hscope ((hmem hscope).1 hin)

end LabelTable
end JumpLint

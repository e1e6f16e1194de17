import JumpLint.Proofs.Report.Tally
import JumpLint.Proofs.Violation.Order
import Mathlib.Data.List.Count
import Mathlib.Data.List.Induction
import Mathlib.Data.List.Nodup
import Mathlib.Data.List.Permutation

/-!
# What a summary shows

A tally keeps its counts in the order in which things first came up, and a summary sorts them.  So
nothing of that order is left in a summary: it shows how many files there are, and of the violations
in all files only how many there are of each severity and of each policy.

## What is here

* `Counts.ofKeys`, `Counts.ofKeys_eq`: counting keys one by one gives each key once, with the number
  of times that it occurs.
* `Counts.sorted`: the keys that occur, in order; `Counts.sorted_congr` says that it does not matter
  how they came, `Counts.mergeSort_ofKeys` that sorted counts are those of sorted keys.
* `Tally.bySeverity_ofFiles`, `Tally.byPolicy_ofFiles`: the counts of a tally are those of all
  violations, one after the other.
* `Tally.summary_shows_counts`: what a summary shows.
-/

set_option autoImplicit false
namespace JumpLint

/-! ## Counting keys -/

namespace Counts

variable {Key : Type} [BEq Key]

/-- The counts of keys in a row. -/
def ofKeys (keys : List Key) : Counts Key := keys.foldl (fun counts key => counts.add key) []

theorem ofKeys_append (keys more : List Key) :
    ofKeys (keys ++ more) = more.foldl (fun counts key => counts.add key) (ofKeys keys) :=
  List.foldl_append

theorem ofKeys_concat (keys : List Key) (key : Key) :
    ofKeys (keys ++ [key]) = (ofKeys keys).add key := ofKeys_append keys [key]

theorem total_ofKeys (keys : List Key) : (ofKeys keys).total = keys.length := by
  induction keys using List.reverseRecOn with
  | nil => rfl
  | append_singleton keys key ih =>
    rw [ofKeys_concat, total_add, ih, List.length_append, List.length_singleton]

variable [LawfulBEq Key]

/-- A key that is new comes last. -/
theorem eraseDups_concat (keys : List Key) (key : Key) :
    (keys ++ [key]).eraseDups =
      if key ∈ keys then keys.eraseDups else keys.eraseDups ++ [key] := by
  rw [List.eraseDups_append]
  split
  · rename_i hmem
    simp [List.removeAll, hmem]
  · rename_i hnew
    simp [List.removeAll, hnew, List.eraseDups_cons]

theorem nodup_eraseDups (keys : List Key) : keys.eraseDups.Nodup := by
  induction keys using List.reverseRecOn with
  | nil => exact List.nodup_nil
  | append_singleton keys key ih =>
    rw [eraseDups_concat]
    split
    · exact ih
    · rename_i hnew
      refine ih.append (List.nodup_singleton key) (List.disjoint_singleton.2 ?_)
      rwa [List.mem_eraseDups]

/-- One more occurrence of a key. -/
theorem add_map {keys : List Key} (hdistinct : keys.Nodup) (count : Key → Nat) (key : Key) :
    add key (keys.map fun k => (k, count k)) =
      if key ∈ keys then keys.map fun k => (k, if key == k then count k + 1 else count k)
      else keys.map (fun k => (k, count k)) ++ [(key, 1)] := by
  induction keys with
  | nil => rfl
  | cons k rest ih =>
    obtain ⟨hk, hrest⟩ := List.nodup_cons.1 hdistinct
    rw [List.map_cons, add]
    split
    · rename_i heq
      rw [beq_iff_eq] at heq
      subst heq
      -- the key does not come again, so the rest stays as it is
      have hsame : ∀ j ∈ rest, (j, if k == j then count j + 1 else count j) = (j, count j) := by
        intro j hj
        have hne : (k == j) = false := beq_eq_false_iff_ne.2 fun h => hk (h ▸ hj)
        rw [hne]
        rfl
      rw [if_pos List.mem_cons_self, List.map_cons, List.map_congr_left hsame, beq_self_eq_true]
      rfl
    · rename_i hne
      have hkey : key ≠ k := fun h => hne (beq_iff_eq.2 h.symm)
      have hbeq : (key == k) = false := beq_eq_false_iff_ne.2 hkey
      simp only [ih hrest, List.mem_cons, hkey, false_or, List.map_cons, hbeq]
      split <;> rfl

/-- **Counting keys**: each key that occurs is there once, with the number of times that it
occurs. -/
theorem ofKeys_eq (keys : List Key) :
    ofKeys keys = keys.eraseDups.map fun key => (key, keys.count key) := by
  induction keys using List.reverseRecOn with
  | nil => rfl
  | append_singleton keys key ih =>
    rw [ofKeys_concat, ih, add_map (nodup_eraseDups keys), eraseDups_concat]
    simp only [List.mem_eraseDups, List.count_append, List.count_singleton]
    split
    · refine List.map_congr_left fun k _ => ?_
      split <;> rfl
    · rename_i hnew
      have hzero : keys.count key = 0 := List.count_eq_zero.2 hnew
      rw [List.map_append, List.map_singleton, hzero, beq_self_eq_true]
      refine congrArg (· ++ _) (List.map_congr_left fun k hk => ?_)
      have hne : (key == k) = false :=
        beq_eq_false_iff_ne.2 fun h => hnew (h ▸ List.mem_eraseDups.1 hk)
      rw [hne]
      rfl

/-! ### Sorting -/

variable {le : Key → Key → Bool}

/-- The keys that occur, each once, in order. -/
def sorted (le : Key → Key → Bool) (keys : List Key) : List Key := keys.eraseDups.mergeSort le

theorem mem_sorted {keys : List Key} {key : Key} : key ∈ sorted le keys ↔ key ∈ keys := by
  rw [sorted, List.mem_mergeSort, List.mem_eraseDups]

theorem nodup_sorted (keys : List Key) : (sorted le keys).Nodup :=
  (List.mergeSort_perm _ le).nodup_iff.2 (nodup_eraseDups keys)

/-- Sorting counts by their keys is sorting the keys. -/
theorem mergeSort_ofKeys (le : Key → Key → Bool) (keys : List Key) :
    (ofKeys keys).mergeSort (fun a b => le a.1 b.1) =
      (sorted le keys).map fun key => (key, keys.count key) := by
  rw [ofKeys_eq, sorted, List.map_mergeSort]
  intro a _ b _
  rfl

variable {Rank : Type} [LinearOrder Rank] {rank : Key → Rank}

/-- Keys of different ranks rise in rank. -/
theorem pairwise_sorted (hle : ∀ a b, le a b = true ↔ rank a ≤ rank b)
    (hrank : Function.Injective rank) (keys : List Key) :
    (sorted le keys).Pairwise fun a b => rank a < rank b :=
  ((pairwise_rank_mergeSort hle _).and (nodup_sorted keys)).imp fun h =>
    lt_of_le_of_ne h.1 (hrank.ne h.2)

/-- **It does not matter how the keys came.** -/
theorem sorted_congr (hle : ∀ a b, le a b = true ↔ rank a ≤ rank b)
    (hrank : Function.Injective rank) {keys keys' : List Key} (h : keys.Perm keys') :
    sorted le keys = sorted le keys' := by
  have hperm : (sorted le keys).Perm (sorted le keys') := by
    refine (List.perm_ext_iff_of_nodup (nodup_sorted keys) (nodup_sorted keys')).2 fun key => ?_
    rw [mem_sorted, mem_sorted, h.mem_iff]
  refine hperm.eq_of_pairwise (fun a b _ _ hab hba => hrank (le_antisymm hab hba)) ?_ ?_
  · exact pairwise_rank_mergeSort hle _
  · exact pairwise_rank_mergeSort hle _

end Counts

/-! ## The counts of a tally -/

namespace Tally

theorem bySeverity_addViolations (violations : List Violation) (t : Tally) :
    (violations.foldl addViolation t).bySeverity =
      (violations.map Violation.severity).foldl (fun counts key => counts.add key)
        t.bySeverity := by
  induction violations generalizing t with
  | nil => rfl
  | cons v rest ih => exact ih (t.addViolation v)

theorem byPolicy_addViolations (violations : List Violation) (t : Tally) :
    (violations.foldl addViolation t).byPolicy =
      (violations.map Violation.policy).foldl (fun counts key => counts.add key) t.byPolicy := by
  induction violations generalizing t with
  | nil => rfl
  | cons v rest ih => exact ih (t.addViolation v)

/-- **The counts by severity** are those of all violations, whatever files they are in. -/
theorem bySeverity_ofFiles (files : List (List Violation)) :
    (ofFiles files).bySeverity = .ofKeys (files.flatten.map Violation.severity) := by
  induction files using List.reverseRecOn with
  | nil => rfl
  | append_singleton files violations ih =>
    rw [ofFiles_concat, add, bySeverity_addViolations, List.flatten_concat, List.map_append,
      Counts.ofKeys_append, ih]

/-- **The counts by policy** are those of all violations, whatever files they are in. -/
theorem byPolicy_ofFiles (files : List (List Violation)) :
    (ofFiles files).byPolicy = .ofKeys (files.flatten.map Violation.policy) := by
  induction files using List.reverseRecOn with
  | nil => rfl
  | append_singleton files violations ih =>
    rw [ofFiles_concat, add, byPolicy_addViolations, List.flatten_concat, List.map_append,
      Counts.ofKeys_append, ih]

/-! ## The lines of a summary -/

/-- Severities in the order of a summary, the highest first. -/
def severityLe (a b : Severity) : Bool := decide (b.level ≤ a.level)

theorem severityLe_iff (a b : Severity) :
    severityLe a b = true ↔ OrderDual.toDual a.level ≤ OrderDual.toDual b.level := by
  rw [severityLe, decide_eq_true_iff, OrderDual.toDual_le_toDual]

theorem toDual_level_injective :
    Function.Injective fun s : Severity => OrderDual.toDual s.level := by
  intro a b h
  have hlevel : a.level = b.level := h
  have hsome := Severity.ofLevel?_level a
  rw [hlevel, Severity.ofLevel?_level] at hsome
  exact (Option.some.inj hsome).symm

/-- Names in the order of a summary. -/
def nameLe (a b : Text) : Bool := !decide (b < a)

theorem nameLe_iff (a b : Text) : nameLe a b = true ↔ a ≤ b := by
  rw [nameLe, Bool.not_eq_true', decide_eq_false_iff_not, not_lt]

/-- The severities of violations, the highest first. -/
def severities (violations : List Violation) : List Severity :=
  Counts.sorted severityLe (violations.map Violation.severity)

/-- The names of the policies of violations, in order. -/
def policies (violations : List Violation) : List Text :=
  Counts.sorted nameLe (violations.map Violation.policy)

theorem mem_severities {violations : List Violation} {s : Severity} :
    s ∈ severities violations ↔ ∃ v ∈ violations, v.severity = s :=
  Counts.mem_sorted.trans List.mem_map

theorem mem_policies {violations : List Violation} {name : Text} :
    name ∈ policies violations ↔ ∃ v ∈ violations, v.policy = name :=
  Counts.mem_sorted.trans List.mem_map

theorem pairwise_severities (violations : List Violation) :
    (severities violations).Pairwise fun a b => b.level < a.level :=
  Counts.pairwise_sorted severityLe_iff toDual_level_injective _

theorem pairwise_policies (violations : List Violation) :
    (policies violations).Pairwise (· < ·) :=
  Counts.pairwise_sorted nameLe_iff Function.injective_id _

theorem severities_congr {violations violations' : List Violation}
    (h : violations.Perm violations') : severities violations = severities violations' :=
  Counts.sorted_congr severityLe_iff toDual_level_injective (h.map _)

theorem policies_congr {violations violations' : List Violation}
    (h : violations.Perm violations') : policies violations = policies violations' :=
  Counts.sorted_congr nameLe_iff Function.injective_id (h.map _)

theorem severityLines_ofFiles (files : List (List Violation)) :
    (ofFiles files).severityLines = (severities files.flatten).map fun s =>
      line (files.flatten.countP (·.severity == s))
        (.ofString ("severity " ++ toString s.level)) := by
  have hsorted := Counts.mergeSort_ofKeys severityLe (files.flatten.map Violation.severity)
  rw [severityLines, bySeverity_ofFiles]
  refine (congrArg (List.map _) hsorted).trans ?_
  rw [List.map_map]
  refine List.map_congr_left fun s _ => ?_
  simp only [Function.comp_apply, List.count_eq_countP, List.countP_map]
  rfl

theorem policyLines_ofFiles (files : List (List Violation)) :
    (ofFiles files).policyLines = (policies files.flatten).map fun name =>
      line (files.flatten.countP (·.policy == name)) name := by
  have hsorted := Counts.mergeSort_ofKeys nameLe (files.flatten.map Violation.policy)
  rw [policyLines, byPolicy_ofFiles]
  refine (congrArg (List.map _) hsorted).trans ?_
  rw [List.map_map]
  refine List.map_congr_left fun name _ => ?_
  simp only [Function.comp_apply, List.count_eq_countP, List.countP_map]
  rfl

/-- **A summary in full.** -/
theorem summary_ofFiles (files : List (List Violation)) :
    (ofFiles files).summary =
      .ofString (toString files.length ++ " files.\n" ++ toString files.flatten.length ++
        " violations.\n") ++
      Text.join ((severities files.flatten).map fun s =>
        line (files.flatten.countP (·.severity == s))
          (.ofString ("severity " ++ toString s.level))) ++
      Text.join ((policies files.flatten).map fun name =>
        line (files.flatten.countP (·.policy == name)) name) := by
  rw [summary, files_ofFiles, violations_ofFiles, severityLines_ofFiles, policyLines_ofFiles]

/-- A summary depends on how many files there are, and on the violations in all of them. -/
theorem summary_congr {files files' : List (List Violation)} (hfiles : files.length = files'.length)
    (hviolations : files.flatten.Perm files'.flatten) :
    (ofFiles files).summary = (ofFiles files').summary := by
  rw [summary_ofFiles, summary_ofFiles, hfiles, hviolations.length_eq, severities_congr hviolations,
    policies_congr hviolations]
  simp only [hviolations.countP_eq]

/-- **What a summary shows.**  A tally counts its files, and each violation in them once by its
severity and once by its policy.  A summary gives the number of files and that of violations, and
then a line for each severity that occurs, the highest first, and a line for each policy that
occurs, by name, each with the number of its violations.  So a summary of as many files with the
same violations, however these are ordered and spread over the files, is the same. -/
theorem summary_shows_counts (files : List (List Violation)) :
    (ofFiles files).files = files.length ∧
      (ofFiles files).violations = files.flatten.length ∧
      (ofFiles files).bySeverity.total = files.flatten.length ∧
      (ofFiles files).byPolicy.total = files.flatten.length ∧
      (∃ (severities : List Severity) (policies : List Text),
        severities.Pairwise (fun a b => b.level < a.level) ∧
        (∀ s, s ∈ severities ↔ ∃ v ∈ files.flatten, v.severity = s) ∧
        policies.Pairwise (· < ·) ∧
        (∀ name, name ∈ policies ↔ ∃ v ∈ files.flatten, v.policy = name) ∧
        (ofFiles files).summary =
          .ofString (toString files.length ++ " files.\n" ++ toString files.flatten.length ++
            " violations.\n") ++
          Text.join (severities.map fun s =>
            line (files.flatten.countP (·.severity == s))
              (.ofString ("severity " ++ toString s.level))) ++
          Text.join (policies.map fun name =>
            line (files.flatten.countP (·.policy == name)) name)) ∧
      ∀ other : List (List Violation), other.length = files.length →
        other.flatten.Perm files.flatten → (ofFiles other).summary = (ofFiles files).summary := by
  refine ⟨files_ofFiles files, violations_ofFiles files, violations_ofFiles files, ?_, ?_,
    fun other => summary_congr⟩
  · rw [byPolicy_ofFiles, Counts.total_ofKeys, List.length_map]
  · exact ⟨severities files.flatten, policies files.flatten, pairwise_severities _,
      fun s => mem_severities, pairwise_policies _, fun name => mem_policies,
      summary_ofFiles files⟩

/-- A violation of a policy, with a severity. -/
def sample (policy : String) (severity : Severity) : Violation :=
  ⟨.ofString policy, [], [], severity, none, none, none, []⟩

theorem summary_shows_counts_spread :
    let a := sample "B" .low
    let b := sample "A" .high
    [[a, b, a], []].flatten.Perm [[b, a], [a]].flatten ∧
      (ofFiles [[a, b, a], []]).summary = (ofFiles [[b, a], [a]]).summary ∧
      (ofFiles [[b, a], [a]]).severityLines.map Text.toString =
        ["      1 severity 4\n", "      2 severity 2\n"] := by
  intro a b
  have hperm : [[a, b, a], []].flatten.Perm [[b, a], [a]].flatten := .swap b a [a]
  obtain ⟨-, -, -, -, -, hspread⟩ := summary_shows_counts [[b, a], [a]]
  refine ⟨hperm, hspread [[a, b, a], []] rfl hperm, ?_⟩
  cbv

end Tally
end JumpLint

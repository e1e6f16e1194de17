import JumpLint.Report.Tally

/-!
# What a tally counts

A tally is counted up one file at a time, and in each file one violation at a time.  Here it is
shown that nothing is counted twice or left out, whatever the violations are.

## What is here

* `Counts.total_add`: one more occurrence, of whatever key.
* `Tally.files_add`, `Tally.violations_add`: one more file.
* `Tally.ofFiles`: the tally of files in a row; `Tally.files_ofFiles` and `Tally.violations_ofFiles`
  say what it counts.
-/

set_option autoImplicit false
namespace JumpLint

theorem Counts.total_add {Key : Type} [BEq Key] (key : Key) (counts : Counts Key) :
    (counts.add key).total = counts.total + 1 := by
  induction counts with
  | nil => rfl
  | cons entry rest ih =>
    rw [add]
    split
    · rw [total, total]
      omega
    · rw [total, total, ih]
      omega

namespace Tally

theorem files_addViolations (violations : List Violation) (t : Tally) :
    (violations.foldl addViolation t).files = t.files := by
  induction violations generalizing t with
  | nil => rfl
  | cons v rest ih => exact ih (t.addViolation v)

theorem violations_addViolations (violations : List Violation) (t : Tally) :
    (violations.foldl addViolation t).violations = t.violations + violations.length := by
  induction violations generalizing t with
  | nil => rfl
  | cons v rest ih =>
    have hone : (t.addViolation v).violations = t.violations + 1 := Counts.total_add _ _
    rw [List.foldl_cons, ih, hone, List.length_cons]
    omega

/-- A file is counted once. -/
theorem files_add (t : Tally) (violations : List Violation) :
    (t.add violations).files = t.files + 1 := files_addViolations violations _

/-- The violations of a file are counted one by one. -/
theorem violations_add (t : Tally) (violations : List Violation) :
    (t.add violations).violations = t.violations + violations.length :=
  violations_addViolations violations _

/-- The tally of files in a row, given by their violations. -/
def ofFiles (files : List (List Violation)) : Tally := files.foldl add .empty

theorem counts_foldl_add (files : List (List Violation)) (t : Tally) :
    (files.foldl add t).files = t.files + files.length ∧
      (files.foldl add t).violations = t.violations + files.flatten.length := by
  induction files generalizing t with
  | nil => exact ⟨rfl, rfl⟩
  | cons violations rest ih =>
    obtain ⟨hfiles, hviolations⟩ := ih (t.add violations)
    rw [List.foldl_cons, hfiles, hviolations, files_add, violations_add, List.length_cons,
      List.flatten_cons, List.length_append]
    omega

/-- **All files are counted.** -/
theorem files_ofFiles (files : List (List Violation)) : (ofFiles files).files = files.length := by
  rw [ofFiles, (counts_foldl_add files _).1]
  exact Nat.zero_add _

/-- **All violations are counted.** -/
theorem violations_ofFiles (files : List (List Violation)) :
    (ofFiles files).violations = files.flatten.length := by
  rw [ofFiles, (counts_foldl_add files _).2]
  exact Nat.zero_add _

theorem ofFiles_concat (files : List (List Violation)) (violations : List Violation) :
    ofFiles (files ++ [violations]) = (ofFiles files).add violations := by
  rw [ofFiles, ofFiles, List.foldl_append]
  rfl

end Tally
end JumpLint

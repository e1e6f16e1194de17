import JumpLint.Violation
import Mathlib.Data.List.Lex
import Mathlib.Data.Prod.Lex

/-!
# The order of violations

Violations are listed by comparing four things one after the other, where what is not known counts
as the empty name or as zero.  Here the comparison is shown to be the lexicographic order of rows of
four, so that it is total and transitive, and the listing is shown to be a stable sort by it.

## What is here

* `pairwise_rank_mergeSort`: sorting by a comparison that is one of ranks.
* The order of code points, which is that of their numbers; texts are ordered by it like words in a
  dictionary.
* `Violation.rank`: the four things in a row, and `SortKey.le_iff`: what is compared is this row.
* `perm_sortViolations`, `pairwise_sortViolations`, `filter_sortViolations`: the listing holds the
  same violations, in order, and those of one rank in the order that they had.
* `map_rank_sortViolations_congr`: the ranks in the listing do not show how the violations came.
* `sortViolations_sublist`: a listing of fewer violations, beside that of more.
-/

set_option autoImplicit false
namespace JumpLint

/-! ## Sorting by ranks -/

section Ranks

variable {α Rank : Type} [LinearOrder Rank] {le : α → α → Bool} {rank : α → Rank}

theorem trans_of_rank (hle : ∀ a b, le a b = true ↔ rank a ≤ rank b) (a b c : α)
    (hab : le a b = true) (hbc : le b c = true) : le a c = true :=
  (hle a c).2 (((hle a b).1 hab).trans ((hle b c).1 hbc))

theorem total_of_rank (hle : ∀ a b, le a b = true ↔ rank a ≤ rank b) (a b : α) :
    (le a b || le b a) = true := by
  rw [Bool.or_eq_true, hle, hle]
  exact le_total (rank a) (rank b)

/-- Sorting by a comparison of ranks puts the ranks in order. -/
theorem pairwise_rank_mergeSort (hle : ∀ a b, le a b = true ↔ rank a ≤ rank b) (items : List α) :
    (items.mergeSort le).Pairwise fun a b => rank a ≤ rank b := by
  have hsorted := List.pairwise_mergeSort (trans_of_rank hle) (total_of_rank hle) items
  exact hsorted.imp fun {a b} => (hle a b).1

end Ranks

/-! ## Ranks -/

namespace CodePoint

theorem value_injective : Function.Injective value := by
  intro p q h
  rw [← ofValue_value p, h, ofValue_value]

instance : LinearOrder CodePoint := LinearOrder.lift' value value_injective

end CodePoint

/-- What a key compares, the first thing counting most. -/
def SortKey.rank (k : SortKey) : Text ×ₗ ℤ ×ₗ ℤ ×ₗ Text :=
  toLex (k.filename, toLex (k.line, toLex (k.column, k.policy)))

/-- What violations are ordered by: file, line, column and policy.  Without a file it is the empty
name, and without a line or column the number zero. -/
def Violation.rank (v : Violation) : Text ×ₗ ℤ ×ₗ ℤ ×ₗ Text :=
  toLex (v.filename.getD [], toLex (v.line.getD 0, toLex (v.column.getD 0, v.policy)))

/-- A comparison decides if it tells a difference, and else leaves it to the rest. -/
theorem decides_iff {α : Type} [LinearOrder α] (x y : α) [Decidable (x < y)] [Decidable (y < x)]
    {rest : Bool} {p : Prop} (hrest : rest = true ↔ p) :
    (if x < y then true else if y < x then false else rest) = true ↔ x < y ∨ x = y ∧ p := by
  rcases lt_trichotomy x y with h | rfl | h
  · rw [if_pos h]
    exact iff_of_true rfl (.inl h)
  · rw [if_neg (lt_irrefl x), if_neg (lt_irrefl x), hrest]
    exact ⟨fun hp => .inr ⟨rfl, hp⟩, fun hor => (hor.resolve_left (lt_irrefl x)).2⟩
  · rw [if_neg h.asymm, if_pos h]
    refine iff_of_false Bool.false_ne_true ?_
    rintro (hlt | ⟨heq, -⟩)
    · exact h.asymm hlt
    · exact h.ne' heq

/-- **The comparison of keys is the order of their ranks.** -/
theorem SortKey.le_iff {a b : SortKey} : a.le b = true ↔ a.rank ≤ b.rank := by
  have hpolicy : (!decide (b.policy < a.policy)) = true ↔ a.policy ≤ b.policy := by
    rw [Bool.not_eq_true', decide_eq_false_iff_not, not_lt]
  rw [rank, rank, Prod.Lex.toLex_le_toLex, Prod.Lex.toLex_le_toLex, Prod.Lex.toLex_le_toLex]
  exact decides_iff a.filename b.filename
    (decides_iff a.line b.line (decides_iff a.column b.column hpolicy))

theorem le_sortKey_iff {v w : Violation} :
    v.sortKey.le w.sortKey = true ↔ v.rank ≤ w.rank := SortKey.le_iff

/-! ## The listing -/

theorem perm_sortViolations (found : List Violation) : (sortViolations found).Perm found :=
  List.mergeSort_perm found _

theorem le_sortKey_trans (u v w : Violation) (huv : u.sortKey.le v.sortKey = true)
    (hvw : v.sortKey.le w.sortKey = true) : u.sortKey.le w.sortKey = true :=
  trans_of_rank (fun v w => @le_sortKey_iff v w) u v w huv hvw

theorem le_sortKey_total (v w : Violation) :
    (v.sortKey.le w.sortKey || w.sortKey.le v.sortKey) = true :=
  total_of_rank (fun v w => @le_sortKey_iff v w) v w

/-- The listing is in order. -/
theorem pairwise_sortViolations (found : List Violation) :
    (sortViolations found).Pairwise fun v w => v.rank ≤ w.rank :=
  pairwise_rank_mergeSort (fun v w => @le_sortKey_iff v w) found

/-- **The sort is stable**: violations of one rank stay in the order that they had. -/
theorem filter_sortViolations (found : List Violation) (r : Text ×ₗ ℤ ×ₗ ℤ ×ₗ Text) :
    (sortViolations found).filter (fun v => v.rank = r) =
      found.filter (fun v => v.rank = r) := by
  have htied : (found.filter fun v => v.rank = r).Pairwise
      fun v w => v.sortKey.le w.sortKey = true := by
    refine List.pairwise_of_forall_mem_list fun v hv w hw => le_sortKey_iff.2 (le_of_eq ?_)
    have hv : v.rank = r := of_decide_eq_true (List.mem_filter.1 hv).2
    have hw : w.rank = r := of_decide_eq_true (List.mem_filter.1 hw).2
    exact hv.trans hw.symm
  have hsub : (found.filter (fun v => v.rank = r)).Sublist (sortViolations found) :=
    List.sublist_mergeSort le_sortKey_trans le_sortKey_total htied List.filter_sublist
  -- the tied violations are all there, and no others are among those of their rank
  have hsub' := hsub.filter fun v => v.rank = r
  simp only [List.filter_filter, Bool.and_self] at hsub'
  exact (hsub'.eq_of_length ((perm_sortViolations found).filter _).length_eq.symm).symm

/-- Two listings of the same violations have the same ranks, even where violations tie. -/
theorem map_rank_sortViolations_congr {found found' : List Violation} (h : found.Perm found') :
    (sortViolations found).map Violation.rank = (sortViolations found').map Violation.rank := by
  have hperm : (sortViolations found).Perm (sortViolations found') :=
    (perm_sortViolations found).trans (h.trans (perm_sortViolations found').symm)
  refine (hperm.map Violation.rank).eq_of_pairwise (fun _ _ _ _ => le_antisymm) ?_ ?_
  · exact List.pairwise_map.2 (pairwise_sortViolations found)
  · exact List.pairwise_map.2 (pairwise_sortViolations found')

/-- Where the listing puts one more violation: behind those of lower rank, and in front of all
others. -/
theorem sortViolations_cons (v : Violation) (found : List Violation) :
    ∃ low high, low = (sortViolations found).filter (fun w => w.rank < v.rank) ∧
      high = (sortViolations found).filter (fun w => v.rank ≤ w.rank) ∧
      sortViolations found = low ++ high ∧ sortViolations (v :: found) = low ++ v :: high := by
  obtain ⟨low, high, hcons, hfound, hlow⟩ :=
    List.mergeSort_cons le_sortKey_trans le_sortKey_total v found
  have hsorted := pairwise_sortViolations (v :: found)
  rw [sortViolations, hcons, List.pairwise_append, List.pairwise_cons] at hsorted
  have hhigh : ∀ w ∈ high, v.rank ≤ w.rank := hsorted.2.1.1
  have hlow : ∀ w ∈ low, w.rank < v.rank := by
    intro w hw
    rw [← not_le, ← le_sortKey_iff, Bool.not_eq_true, ← Bool.not_eq_true']
    exact hlow w hw
  refine ⟨low, high, ?_, ?_, hfound, hcons⟩
  · rw [sortViolations, hfound, List.filter_append, List.filter_eq_self.2 (by simpa using hlow),
      List.filter_eq_nil_iff.2 (by simpa using hhigh), List.append_nil]
  · rw [sortViolations, hfound, List.filter_append, List.filter_eq_nil_iff.2 (by simpa using hlow),
      List.filter_eq_self.2 (by simpa using hhigh), List.nil_append]

/-- **Listing fewer violations** leaves out some lines and changes nothing else. -/
theorem sortViolations_sublist {found more : List Violation} (h : found.Sublist more) :
    (sortViolations found).Sublist (sortViolations more) := by
  induction h with
  | slnil => exact List.Sublist.refl _
  | @cons found more v h ih =>
    obtain ⟨low, high, -, -, hmore, hcons⟩ := sortViolations_cons v more
    rw [hcons]
    exact (hmore ▸ ih).trans ((List.sublist_cons_self v high).append_left low)
  | @cons_cons found more v h ih =>
    obtain ⟨low, high, rfl, rfl, -, hcons⟩ := sortViolations_cons v found
    obtain ⟨low', high', rfl, rfl, -, hcons'⟩ := sortViolations_cons v more
    rw [hcons, hcons']
    exact (ih.filter _).append ((ih.filter _).cons_cons v)

end JumpLint

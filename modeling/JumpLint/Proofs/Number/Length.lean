import JumpLint.Proofs.Number.Decimal
import JumpLint.Proofs.Number.Numeral

/-!
# Numbers of few digits

Numbers with too many digits are neither read nor written.  So what has been read from digits can be
written again.

## What is here

* `Number.IsShort`: a number has no more digits than are written; `Number.shown_eq_ok` and
  `Number.shown_eq_error` say that it is written then, and not otherwise.
* `Number.positional_lt`: how large the number is that digits stand for.
* `Number.isShort_of_ofField`: fields give no other numbers.
-/

set_option autoImplicit false
namespace JumpLint
namespace Number

/-- A number has no more digits than can be written. -/
def IsShort (n : Int) : Prop := n.natAbs < 10 ^ maxDigits

variable {n : Int}

theorem shown_eq_ok (h : IsShort n) : shown n = .ok (toString n) := by
  rw [IsShort] at h
  rw [shown, Nat.pow_eq, if_pos h]

theorem shown_eq_error (h : ¬IsShort n) : shown n = .error .unprintable := by
  rw [IsShort] at h
  rw [shown, Nat.pow_eq, if_neg h]

theorem isShort_of_lt {digits : Nat} (hdigits : digits ≤ maxDigits) (h : n.natAbs < 10 ^ digits) :
    IsShort n :=
  h.trans_le (Nat.pow_le_pow_right (by decide) hdigits)

/-! ## Digits -/

/-- **Digits stand for a number** with no more digits. -/
theorem positional_lt {values : List Nat} (h : ∀ v ∈ values, v < 10) :
    positional 10 values < 10 ^ values.length := by
  rw [positional_eq_ofDigits, ← List.length_reverse]
  exact Nat.ofDigits_lt_base_pow_length (by decide) fun v hv => h v (List.mem_reverse.1 hv)

theorem asciiDigit?_lt {c : Char} {v : Nat} (h : asciiDigit? c = some v) : v < 10 := by
  rw [asciiDigit?] at h
  split at h
  · rename_i hc
    have hnine : c.toNat ≤ 57 := hc.2
    have hvalue : c.toNat - 48 = v := Option.some.inj h
    omega
  · cases h

theorem lt_ten_of_mapM_asciiDigit? {digits : List Char} {values : List Nat}
    (h : digits.mapM asciiDigit? = some values) : ∀ v ∈ values, v < 10 := by
  induction digits generalizing values with
  | nil =>
    cases h
    exact nofun
  | cons c rest ih =>
    rw [List.mapM_cons] at h
    obtain ⟨v, hv, h⟩ := Option.bind_eq_some_iff.1 h
    obtain ⟨more, hmore, h⟩ := Option.bind_eq_some_iff.1 h
    cases h
    exact List.forall_mem_cons.2 ⟨asciiDigit?_lt hv, ih hmore⟩

/-! ## Fields -/

/-- The digits of a field's number are few. -/
theorem wholeNumber?_lt {digits : List Char} {m : Nat} (h : wholeNumber? digits = some m) :
    m < 10 ^ maxDigits := by
  obtain ⟨values, hvalues, h⟩ := Option.bind_eq_some_iff.1 h
  have hdigits := lt_ten_of_mapM_asciiDigit? hvalues
  split at h
  · cases h
  · split at h
    · cases h
    · rename_i hlength
      cases h
      simp only [Bool.or_eq_true, not_or, decide_eq_true_eq, Nat.not_lt] at hlength
      exact (positional_lt hdigits).trans_le (Nat.pow_le_pow_right (by decide) hlength.2)

theorem isShort_of_signedValue {sign : Int} (hsign : sign.natAbs = 1) {body : List Char}
    (h : signedValue sign body = some n) : IsShort n := by
  obtain ⟨_, -, h⟩ := Option.bind_eq_some_iff.1 h
  obtain ⟨_, -, h⟩ := Option.bind_eq_some_iff.1 h
  obtain ⟨_, -, h⟩ := Option.bind_eq_some_iff.1 h
  split at h
  · split at h
    · cases h
    · obtain ⟨m, hm, hn⟩ := Option.bind_eq_some_iff.1 h
      cases hn
      rw [IsShort, Int.natAbs_neg, Int.natAbs_natCast]
      exact wholeNumber?_lt hm
  · obtain ⟨m, hm, hn⟩ := Option.bind_eq_some_iff.1 h
    cases hn
    rw [IsShort, Int.natAbs_mul, hsign, Nat.one_mul, Int.natAbs_natCast]
    exact wholeNumber?_lt hm

theorem natAbs_splitSign (s : List Char) : (splitSign s).1.natAbs = 1 := by
  rw [splitSign.eq_def]
  split <;> rfl

/-- **A field gives a number** that can be written. -/
theorem isShort_of_ofField {s : List Char} (h : ofField s = .ok n) : IsShort n := by
  rw [ofField_eq] at h
  split at h
  · cases h
  · split at h
    · rename_i hvalue
      cases h
      exact isShort_of_signedValue (natAbs_splitSign _) hvalue
    · cases h

end Number
end JumpLint

import JumpLint.Number.Integer
import JumpLint.Proofs.Except
import JumpLint.Proofs.Text.Trim

/-!
# Integers written in decimal digits

An integer is written with a minus sign, if it is negative, and digits of which zero is the first
only if it is the only one.  A field reads such a text as the integer, up to the number of digits at
which reading and writing give up.

## What is here

* `Number.IsNumeral`: how the digits of a number look; `Number.isNumeral_toDigits` says that those
  which are written look so.
* `Number.wholeNumber?_eq`: the value of such digits.
* `Number.ofField_of_isNumeral`: what a field reads from a sign and such digits.
* `Number.ofField_of_shown`: an integer is written and read back.
-/

set_option autoImplicit false
namespace JumpLint
namespace Number

/-! ## Digits -/

/-- Digits as a number is written with: zero alone, or digits that do not begin with zero. -/
structure IsNumeral (digits : List Char) : Prop where
  isDigit : ∀ c ∈ digits, c.isDigit = true
  leading : digits = ['0'] ∨ ∃ c rest, digits = c :: rest ∧ isLeading c = true

theorem isLeading_digitChar : ∀ d < 10, 0 < d → isLeading (Nat.digitChar d) = true := by decide

theorem exists_leading_toDigits {n : Nat} (hpos : 0 < n) :
    ∃ c rest, Nat.toDigits 10 n = c :: rest ∧ isLeading c = true := by
  induction n using Nat.strongRecOn with
  | ind n ih =>
    by_cases hn : n < 10
    · exact ⟨_, [], Nat.toDigits_of_lt_base hn, isLeading_digitChar n hn hpos⟩
    · obtain ⟨c, rest, hdigits, hc⟩ := ih (n / 10) (by omega) (by omega)
      refine ⟨c, rest ++ [Nat.digitChar (n % 10)], ?_, hc⟩
      rw [Nat.toDigits_of_base_le (by decide) (by omega), hdigits, List.cons_append]

theorem isNumeral_toDigits (n : Nat) : IsNumeral (Nat.toDigits 10 n) := by
  refine ⟨fun c hc => Nat.isDigit_of_mem_toDigits (by decide) (by decide) hc, ?_⟩
  rcases Nat.eq_zero_or_pos n with rfl | hpos
  · exact .inl rfl
  · exact .inr (exists_leading_toDigits hpos)

theorem length_toDigits_le {n k : Nat} (hk : 0 < k) (h : n < Nat.pow 10 k) :
    (Nat.toDigits 10 n).length ≤ k := by
  rw [Nat.length_toDigits_le_iff (by decide) hk]
  exact h

theorem toNat_of_isDigit {c : Char} (h : c.isDigit = true) : 48 ≤ c.toNat ∧ c.toNat ≤ 57 := by
  simpa [Char.isDigit, UInt32.le_iff_toNat_le] using h

theorem asciiDigit?_of_isDigit {c : Char} (h : c.isDigit = true) :
    asciiDigit? c = some (c.toNat - '0'.toNat) := by
  have hbounds : '0' ≤ c ∧ c ≤ '9' := by
    simpa [Char.le_def, Char.isDigit] using h
  exact if_pos hbounds

theorem isWhiteSpace_of_isDigit {c : Char} (h : c.isDigit = true) :
    Text.isWhiteSpace c = false := by
  have hbounds := toNat_of_isDigit h
  simp [Text.isWhiteSpace]
  omega

/-- Characters that are no digits are not among digits. -/
theorem IsNumeral.ne {digits : List Char} (h : IsNumeral digits) (mark : Char)
    (hmark : mark.isDigit = false) : ∀ c ∈ digits, c ≠ mark := by
  rintro c hc rfl
  exact absurd (h.isDigit c hc) (by simp [hmark])

/-! ## Values -/

theorem positional_eq_ofDigitChars (digits : List Char) :
    positional 10 (digits.map fun c => c.toNat - '0'.toNat) = Nat.ofDigitChars 10 digits 0 := by
  rw [positional, List.foldl_map, Nat.ofDigitChars_eq_foldl]
  simp only [Nat.mul_comm]

theorem mapM_asciiDigit? {digits : List Char} (h : ∀ c ∈ digits, c.isDigit = true) :
    digits.mapM asciiDigit? = some (digits.map fun c => c.toNat - '0'.toNat) := by
  induction digits with
  | nil => rfl
  | cons c rest ih =>
    obtain ⟨hc, hrest⟩ := List.forall_mem_cons.1 h
    rw [List.mapM_cons, asciiDigit?_of_isDigit hc, ih hrest]
    rfl

/-- **The value of digits** that a number is written with. -/
theorem wholeNumber?_eq {digits : List Char} (h : IsNumeral digits)
    (hlength : digits.length ≤ maxDigits) :
    wholeNumber? digits = some (Nat.ofDigitChars 10 digits 0) := by
  rw [wholeNumber?, mapM_asciiDigit? h.isDigit, Option.bind_eq_bind, Option.bind_some,
    ← positional_eq_ofDigitChars]
  rcases h.leading with rfl | ⟨c, rest, rfl, hc⟩
  · rfl
  · have hfirst : ¬c.toNat - 48 = 0 := by
      have hbounds : '1' ≤ c ∧ c ≤ '9' := by simpa [isLeading] using hc
      have hone : 49 ≤ c.toNat := hbounds.1
      omega
    have hshort : ¬maxDigits < rest.length + 1 := Nat.not_lt.2 hlength
    simp [hfirst, hshort]

/-! ## Fields -/

theorem leadingLength_minus_le (s : List Char) : leadingLength ('-' :: s) ≤ s.length := by
  rw [leadingLength]
  split
  · exact (List.takeWhile_prefix _).length_le
  · exact Nat.zero_le _

theorem leadingLength_le (s : List Char) : leadingLength s ≤ s.length := by
  rw [leadingLength.eq_def]
  dsimp only
  split
  · exact (leadingLength_minus_le _).trans (Nat.le_succ _)
  · split
    · exact (List.takeWhile_prefix _).length_le
    · exact Nat.zero_le _

/-- Digits without underscores between them are in order. -/
theorem separatedDigits_eq {digits : List Char} (hne : digits ≠ [])
    (h : ∀ c ∈ digits, c ≠ '_') : separatedDigits digits = some digits := by
  induction digits with
  | nil => exact absurd rfl hne
  | cons c rest ih =>
    obtain ⟨hc, hrest⟩ := List.forall_mem_cons.1 h
    cases rest with
    | nil => simp [separatedDigits, hc]
    | cons d more =>
      have hd : d ≠ '_' := hrest d List.mem_cons_self
      rw [separatedDigits]
      · simp [hc, ih (List.cons_ne_nil d more) hrest]
      · exact List.cons_ne_nil d more
      · rintro _ ⟨⟩
        exact hd rfl

namespace IsNumeral

variable {digits : List Char}

theorem ne_nil (h : IsNumeral digits) : digits ≠ [] := by
  rcases h.leading with rfl | ⟨c, rest, rfl, -⟩ <;> exact List.cons_ne_nil _ _

theorem splitSign_eq (h : IsNumeral digits) : splitSign digits = (1, digits) := by
  have hminus := h.ne '-' rfl
  have hplus := h.ne '+' rfl
  rw [splitSign.eq_def]
  split
  · exact absurd rfl (hminus _ List.mem_cons_self)
  · exact absurd rfl (hplus _ List.mem_cons_self)
  · rfl

theorem withoutZeros_eq (h : IsNumeral digits) : withoutZeros digits = some digits := by
  rcases h.leading with rfl | ⟨c, rest, rfl, hc⟩
  · rfl
  · rw [withoutZeros.eq_def]
    split
    · cases ‹_ :: _ = _›
      exact absurd hc (by decide)
    · cases ‹_ :: _ = _›
      exact if_pos hc
    · cases ‹_ :: _ = _›

theorem withoutFraction_eq (h : IsNumeral digits) : withoutFraction digits = some digits := by
  have hpoint : digits.dropWhile (· != '.') = [] :=
    List.dropWhile_eq_nil_iff.2 fun c hc => by simpa using h.ne '.' rfl c hc
  rw [withoutFraction, hpoint]

end IsNumeral

/-- The value of a field's text behind its sign. -/
def signedValue (sign : Int) (body : List Char) : Option Int := do
  let body ← withoutFraction (← withoutZeros body)
  match ← separatedDigits body with
  | '-' :: digits => if sign < 0 then none else return -(← wholeNumber? digits : Nat)
  | digits => return sign * (← wholeNumber? digits : Nat)

theorem ofField_eq (s : List Char) :
    ofField s =
      if maxDigits < leadingLength s then .error .tooLong
      else
        match signedValue (splitSign (Text.trim Text.isWhiteSpace s)).1
            (splitSign (Text.trim Text.isWhiteSpace s)).2 with
        | some n => .ok n
        | none => .error .unreadable := rfl

theorem IsNumeral.signedValue_eq {digits : List Char} (h : IsNumeral digits)
    (hlength : digits.length ≤ maxDigits) (sign : Int) :
    signedValue sign digits = some (sign * (Nat.ofDigitChars 10 digits 0 : Nat)) := by
  have hminus := h.ne '-' rfl
  have hseparated := separatedDigits_eq h.ne_nil (h.ne '_' rfl)
  rw [signedValue, h.withoutZeros_eq, Option.bind_eq_bind, Option.bind_some, h.withoutFraction_eq,
    Option.bind_eq_bind, Option.bind_some, hseparated, Option.bind_some]
  split
  · exact absurd rfl (hminus _ List.mem_cons_self)
  · rw [wholeNumber?_eq h hlength]
    rfl

/-- **What a field reads** from digits, and from a minus sign and digits. -/
theorem ofField_of_isNumeral {digits : List Char} (h : IsNumeral digits)
    (hlength : digits.length ≤ maxDigits) :
    ofField digits = .ok (Nat.ofDigitChars 10 digits 0 : Nat) ∧
      ofField ('-' :: digits) = .ok (-(Nat.ofDigitChars 10 digits 0 : Nat)) := by
  have hblank : ∀ c ∈ digits, Text.isWhiteSpace c = false :=
    fun c hc => isWhiteSpace_of_isDigit (h.isDigit c hc)
  have hsigned : ∀ c ∈ '-' :: digits, Text.isWhiteSpace c = false :=
    List.forall_mem_cons.2 ⟨rfl, hblank⟩
  constructor
  · rw [ofField_eq, if_neg (Nat.not_lt.2 ((leadingLength_le digits).trans hlength)),
      Text.trim_eq_self hblank, h.splitSign_eq, h.signedValue_eq hlength, Int.one_mul]
  · rw [ofField_eq, if_neg (Nat.not_lt.2 ((leadingLength_minus_le digits).trans hlength)),
      Text.trim_eq_self hsigned, splitSign, h.signedValue_eq hlength, Int.neg_one_mul]

/-- **An integer is written and read back**, if it has not too many digits to be written. -/
theorem ofField_of_shown {n : Int} {s : String} (h : shown n = .ok s) :
    ofField s.toList = .ok n := by
  rw [shown] at h
  split at h
  · rename_i hbound
    cases h
    have hlength := length_toDigits_le (k := maxDigits) (by decide) hbound
    have hread := ofField_of_isNumeral (isNumeral_toDigits n.natAbs) hlength
    rw [Nat.ofDigitChars_ten_toDigits] at hread
    cases n with
    | ofNat m =>
      rw [show (toString (Int.ofNat m)).toList = Nat.toDigits 10 m by
        simp [Int.toString_eq_repr, Int.repr, Nat.repr_eq_ofList_toDigits]]
      exact hread.1
    | negSucc m =>
      rw [show (toString (Int.negSucc m)).toList = '-' :: Nat.toDigits 10 (m + 1) by
        simp [Int.toString_eq_repr, Int.repr, Nat.repr_eq_ofList_toDigits]]
      exact hread.2
  · cases h

end Number
end JumpLint

import JumpLint.Number.Integer
import JumpLint.Proofs.Number.Decimal
import JumpLint.Proofs.Text.Case
import Mathlib.Data.List.Induction
import Mathlib.Data.Nat.Digits.Defs

/-!
# Numbers in digits of any script

A setting may be written with the decimal digits of any script, also of several scripts in one
number, and zeros in front do not count.  Signs that are digits to the eye only are not read, even
when all other digits of a number are decimal.

## What is here

* `CodePoint.decimal?`, `Text.IsDecimal`: texts of decimal digits, with the values of the digits.
* `Number.positional_eq_ofDigits`: the value of digits in a row.
* `Number.ofNumeral_of_decimal`, `Number.ofNumeral_of_not_decimal`: what is read from decimal
  digits, and from digits that are not all decimal.
-/

set_option autoImplicit false
namespace JumpLint

/-! ## Decimal digits -/

/-- The value of a code point that is a decimal digit. -/
def CodePoint.decimal? (p : CodePoint) : Option Nat := p.char?.bind Text.decimalValue?

theorem CodePoint.decimal?_eq_some_iff {p : CodePoint} {d : Nat} :
    p.decimal? = some d ↔ ∃ c, p = .char c ∧ Text.decimalValue? c = some d := by
  cases p <;> simp [decimal?, char?]

namespace Text

/-- A text is made of decimal digits, of whatever scripts, with these values. -/
def IsDecimal (t : Text) (values : List Nat) : Prop := t.map CodePoint.decimal? = values.map some

instance (t : Text) (values : List Nat) : Decidable (t.IsDecimal values) :=
  inferInstanceAs (Decidable (_ = _))

namespace IsDecimal

variable {t : Text} {values : List Nat}

theorem exists_of_mem (h : t.IsDecimal values) {p : CodePoint} (hp : p ∈ t) :
    ∃ c d, p = .char c ∧ decimalValue? c = some d := by
  have hmem : p.decimal? ∈ values.map some := h ▸ List.mem_map_of_mem hp
  obtain ⟨d, -, hd⟩ := List.mem_map.1 hmem
  obtain ⟨c, hc⟩ := CodePoint.decimal?_eq_some_iff.1 hd.symm
  exact ⟨c, d, hc⟩

theorem lt_ten (h : t.IsDecimal values) : ∀ d ∈ values, d < 10 := by
  intro d hd
  have hmem : some d ∈ t.map CodePoint.decimal? := h.symm ▸ List.mem_map_of_mem hd
  obtain ⟨p, -, hp⟩ := List.mem_map.1 hmem
  obtain ⟨c, -, hc⟩ := CodePoint.decimal?_eq_some_iff.1 hp
  exact decimalValue?_lt hc

theorem length_eq (h : t.IsDecimal values) : t.length = values.length := by
  simpa using congrArg List.length h

theorem unique (h : t.IsDecimal values) {others : List Nat} (hothers : t.IsDecimal others) :
    values = others :=
  List.map_injective_iff.2 (Option.some_injective Nat) (h.symm.trans hothers)

theorem append (h : t.IsDecimal values) {s : Text} {others : List Nat}
    (hs : s.IsDecimal others) : (t ++ s).IsDecimal (values ++ others) := by
  rw [IsDecimal, List.map_append, List.map_append, h, hs]

/-- Decimal digits are digits to the eye as well. -/
theorem isNumeral (h : t.IsDecimal values) (hne : values ≠ []) : t.isNumeral = true := by
  rw [Text.isNumeral, Bool.and_eq_true, List.all_eq_true]
  constructor
  · cases t with
    | nil => exact absurd (List.length_eq_zero_iff.1 h.length_eq.symm) hne
    | cons => rfl
  · intro p hp
    obtain ⟨c, d, rfl, hc⟩ := h.exists_of_mem hp
    exact isDigit_of_decimalValue? hc

end IsDecimal

theorem isDecimal_ofChars {s : List Char} (h : ∀ c ∈ s, (decimalValue? c).isSome = true) :
    IsDecimal (ofChars s) (s.filterMap decimalValue?) := by
  induction s with
  | nil => rfl
  | cons c rest ih =>
    obtain ⟨hc, hrest⟩ := List.forall_mem_cons.1 h
    obtain ⟨d, hd⟩ := Option.isSome_iff_exists.1 hc
    rw [List.filterMap_cons_some hd]
    exact congrArg₂ List.cons hd (ih hrest)

/-- What is a number to the eye is made of characters. -/
theorem exists_chars_of_isNumeral {t : Text} (h : t.isNumeral = true) :
    ∃ s, t = ofChars s ∧ s ≠ [] ∧ ∀ c ∈ s, isDigit c = true := by
  rw [isNumeral, Bool.and_eq_true, List.all_eq_true] at h
  obtain ⟨hne, hall⟩ := h
  refine ⟨t.filterMap CodePoint.char?, ?_, ?_, ?_⟩
  · clear hne
    induction t with
    | nil => rfl
    | cons p rest ih =>
      obtain ⟨hp, hrest⟩ := List.forall_mem_cons.1 hall
      cases p with
      | half i => exact absurd hp Bool.false_ne_true
      | char c =>
        rw [List.filterMap_cons_some (char?_char c), ofChars, List.map_cons, ← ofChars,
          ← ih hrest]
  · cases t with
    | nil => exact absurd hne (by decide)
    | cons p rest =>
      cases p with
      | half i => exact absurd (hall _ List.mem_cons_self) Bool.false_ne_true
      | char c => exact List.cons_ne_nil _ _
  · intro c hc
    obtain ⟨p, hp, hchar⟩ := List.mem_filterMap.1 hc
    cases p with
    | half i => cases hchar
    | char d =>
      cases hchar
      exact hall _ hp

end Text

namespace Number

open Text

/-- Among the digits of base ten there are no letters. -/
theorem digitValue?_ten (c : Char) : digitValue? 10 c = decimalValue? c := by
  have hletters : decimalZeros.all (fun z =>
      areApart smallRun (z, z + 9) && areApart (0x41, 0x5A) (z, z + 9)) = true := by decide
  have hnone : ∀ r : Nat × Nat, (r = smallRun ∨ r = (0x41, 0x5A)) → r.1 ≤ c.toNat →
      c.toNat ≤ r.2 → decimalValue? c = none := by
    intro r hr hle hge
    rw [Option.eq_none_iff_forall_ne_some]
    intro v hv
    obtain ⟨z, hz, hrun⟩ := exists_zero_of_decimalValue? hv
    obtain ⟨hsmall, hcapital⟩ := Bool.and_eq_true_iff.1 (List.all_eq_true.1 hletters z hz)
    rcases hr with rfl | rfl
    · exact not_mem_of_areApart hsmall hrun ⟨hle, hge⟩
    · exact not_mem_of_areApart hcapital hrun ⟨hle, hge⟩
  simp only [digitValue?]
  split
  · rename_i h
    rw [hnone smallRun (.inl rfl) h.1 h.2]
    simp
  · split
    · rename_i h
      rw [hnone (0x41, 0x5A) (.inr rfl) h.1 h.2]
      simp
    · cases hc : decimalValue? c with
      | none => rfl
      | some v => simp [Option.filter, decimalValue?_lt hc]

/-- **The value of digits in a row** is that of the library, which has the last digit in front. -/
theorem positional_eq_ofDigits (values : List Nat) :
    positional 10 values = Nat.ofDigits 10 values.reverse := by
  induction values using List.reverseRecOn with
  | nil => rfl
  | append_singleton values v ih =>
    rw [positional, List.foldl_append, ← positional, ih, List.reverse_append,
      List.reverse_singleton, List.singleton_append, Nat.ofDigits_cons]
    simp only [List.foldl_cons, List.foldl_nil]
    omega

/-- The characters of a text of characters are all of it. -/
theorem leadingChars_ofChars (s : List Char) : leadingChars (ofChars s) = (s, false) := by
  have hall : ∀ p ∈ ofChars s, p.isIn (fun _ => true) = true := by
    intro p hp
    obtain ⟨c, -, rfl⟩ := List.mem_map.1 hp
    rfl
  have hchars : (ofChars s).filterMap CodePoint.char? = s := by
    simp [ofChars, List.filterMap_map, CodePoint.char?, Function.comp_def]
  rw [leadingChars, List.takeWhile_eq_self_iff.2 hall, hchars, isWhole, List.all_eq_true.2 hall]
  rfl

/-- What is no digit is not among digits. -/
theorem ne_of_isDigit {c mark : Char} (h : isDigit c = true) (hmark : isDigit mark = false) :
    c ≠ mark := by
  rintro rfl
  exact absurd h (by simp [hmark])

/-- Whether a character may be part of a number. -/
def isDecimalPart (c : Char) : Bool := c == '_' || (decimalValue? c).isSome

/-- Digits are read as they stand: nothing is trimmed off, and there is neither sign nor mark. -/
theorem ofNumeral_eq {s : List Char} (hs : ∀ c ∈ s, isDigit c = true) :
    ofNumeral 10 (ofChars s) =
      match separatedDigits (s.takeWhile isDecimalPart) with
      | none => .error (.unreadable 10 (ofChars s))
      | some digits =>
        if maxDigits < digits.length then .error (.tooLong digits.length)
        else if (s.dropWhile isDecimalPart).isEmpty then
          .ok (positional 10 (digits.filterMap decimalValue?) : Nat)
        else .error (.unreadable 10 (ofChars s)) := by
  have htrim : trimSpace (ofChars s) = ofChars s := by
    refine trim_eq_self fun p hp => ?_
    obtain ⟨c, hc, rfl⟩ := List.mem_map.1 hp
    rw [CodePoint.isIn, Bool.eq_false_iff]
    intro hspace
    exact absurd (isBlank_of_isDigit (hs c hc)) (by simp [isBlank_of_isWhiteSpace hspace])
  have hminus : isDigit '-' = false := by decide +kernel
  have hplus : isDigit '+' = false := by decide +kernel
  have hsign : splitSign s = (1, s) := by
    rw [splitSign.eq_def]
    split
    · exact absurd rfl (ne_of_isDigit (hs _ List.mem_cons_self) hminus)
    · exact absurd rfl (ne_of_isDigit (hs _ List.mem_cons_self) hplus)
    · rfl
  have hmark : dropBaseMark 10 s = s := by
    rw [dropBaseMark.eq_def]
    split <;> simp
  have hlimited : isLimited 10 = true := rfl
  simp only [ofNumeral, htrim, leadingChars_ofChars, hsign, hmark, digitValue?_ten, hlimited,
    Bool.true_and, Bool.not_false, Bool.and_true, decide_eq_true_eq, Int.one_mul]
  rfl

/-- **Decimal digits** are read as the number that they stand for. -/
theorem ofNumeral_of_decimal {s : List Char} (hne : s ≠ [])
    (hs : ∀ c ∈ s, (decimalValue? c).isSome = true) (hshort : s.length ≤ maxDigits) :
    ofNumeral 10 (ofChars s) = .ok (positional 10 (s.filterMap decimalValue?) : Nat) := by
  have hdigits : ∀ c ∈ s, isDigit c = true := fun c hc => by simp [isDigit, hs c hc]
  have hparts : ∀ c ∈ s, isDecimalPart c = true := fun c hc => by simp [isDecimalPart, hs c hc]
  have hbar : ∀ c ∈ s, c ≠ '_' :=
    fun c hc => ne_of_isDigit (hdigits c hc) (by decide +kernel)
  rw [ofNumeral_eq hdigits, List.takeWhile_eq_self_iff.2 hparts,
    List.dropWhile_eq_nil_iff.2 hparts, separatedDigits_eq hne hbar]
  simp [Nat.not_lt.2 hshort]

/-- **A sign that is a digit to the eye only** spoils a number. -/
theorem ofNumeral_of_not_decimal {s : List Char} (hs : ∀ c ∈ s, isDigit c = true)
    (hshort : decimalCount (ofChars s) ≤ maxDigits) {sign : Char} (hsign : sign ∈ s)
    (hnone : decimalValue? sign = none) :
    ofNumeral 10 (ofChars s) = .error (.unreadable 10 (ofChars s)) := by
  have hbar : ∀ c ∈ s, c ≠ '_' := fun c hc => ne_of_isDigit (hs c hc) (by decide +kernel)
  have hfront : ∀ c ∈ s.takeWhile isDecimalPart, isDecimal (.char c) = true := by
    intro c hc
    have hpart : isDecimalPart c = true := List.mem_takeWhile_imp hc
    show (decimalValue? c).isSome = true
    simpa [isDecimalPart, hbar c ((List.takeWhile_prefix _).subset hc)] using hpart
  have hrest : s.dropWhile isDecimalPart ≠ [] := by
    intro hnil
    have hpart := List.dropWhile_eq_nil_iff.1 hnil sign hsign
    simp [isDecimalPart, hbar sign hsign, hnone] at hpart
  have hlength : (s.takeWhile isDecimalPart).length ≤ maxDigits := by
    refine Nat.le_trans ?_ hshort
    rw [decimalCount, ofChars, List.countP_map, ← List.countP_eq_length.2 hfront]
    exact (List.takeWhile_sublist _).countP_le
  rw [ofNumeral_eq hs]
  by_cases hnil : s.takeWhile isDecimalPart = []
  · rw [hnil]
    rfl
  · rw [separatedDigits_eq hnil fun c hc => hbar c ((List.takeWhile_prefix _).subset hc)]
    simp [Nat.not_lt.2 hlength, hrest]

end Number
end JumpLint

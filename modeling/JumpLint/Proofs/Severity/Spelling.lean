import JumpLint.Proofs.Number.Numeral
import JumpLint.Severity

/-!
# How severities are spelled

The text of a setting names a severity when blanks stand around its word, in capitals or small
letters, or around its number in decimal digits of any script.  Every other text is refused, and
for one of three reasons: what stands between the blanks is not made of digits, or some of its
digits are not decimal, or the number is out of range.

## What is here

* `Severity.IsName`, `Severity.IsSpelled`: the words and numbers, and texts with them.
* `Severity.isSpelled_iff`: what counts is the trimmed text in small letters.
* `Severity.IsAnswer`, `Severity.isAnswer_parse`: what comes of reading a text.
* `Severity.parse_of_name`, `Severity.parse_recased`: spellings of the same name.
* `Severity.parse_reads_spellings`: reading a text, altogether.
-/

set_option autoImplicit false
namespace JumpLint

namespace Severity

open Text

/-! ## Names -/

/-- The names of a severity: its word, and its number in decimal digits of any script. -/
inductive IsName : Text → Severity → Prop where
  | word (v : Severity) : IsName (.ofString v.word) v
  | number {t : Text} {values : List Nat} {v : Severity} (hdigits : t.IsDecimal values)
      (hne : values ≠ []) (hlevel : Nat.ofDigits 10 values.reverse = v.level) : IsName t v

/-- A text is the name of a severity, in capitals or small letters, with blanks around it. -/
def IsSpelled (s : Text) (v : Severity) : Prop :=
  ∃ before name after, s = before ++ name ++ after ∧ (∀ p ∈ before, p.isIn isBlank = true) ∧
    (∀ p ∈ after, p.isIn isBlank = true) ∧ IsName (lower name) v

/-- There are no blanks in names. -/
theorem IsName.isBlank {t : Text} {v : Severity} (h : IsName t v) :
    ∀ p ∈ t, p.isIn isBlank = false := by
  cases h with
  | word v => cases v <;> decide +kernel
  | number hdigits =>
    intro p hp
    obtain ⟨c, d, rfl, hc⟩ := hdigits.exists_of_mem hp
    exact isBlank_of_isDigit (isDigit_of_decimalValue? hc)

/-- **What counts is the trimmed text in small letters.** -/
theorem isSpelled_iff {s : Text} {v : Severity} :
    IsSpelled s v ↔ IsName (lower (trimBlanks s)) v := by
  constructor
  · rintro ⟨before, name, after, rfl, hbefore, hafter, hname⟩
    have hblank : ∀ p ∈ name, p.isIn isBlank = false := by
      intro p hp
      cases p with
      | half i => rfl
      | char c =>
        rw [Bool.eq_false_iff]
        intro hc
        have hlower := hname.isBlank _ (mem_lower_of_isBlank hc hp)
        exact absurd (hlower.symm.trans hc) Bool.false_ne_true
    rwa [trimBlanks, trim_append hbefore hafter, trim_eq_self hblank]
  · intro h
    obtain ⟨before, after, hs, hbefore, hafter⟩ := exists_trim (CodePoint.isIn isBlank) s
    exact ⟨before, _, after, hs, hbefore, hafter, h⟩

/-- There are no digits in words. -/
theorem not_isNumeral_word (v : Severity) : isNumeral (.ofString v.word) = false := by
  cases v <;> decide +kernel

theorem ofWord?_eq_some_iff {t : Text} {v : Severity} :
    ofWord? t = some v ↔ t = .ofString v.word := by
  constructor
  · intro h
    have hfound := List.find?_some (p := fun v : Severity => t == .ofString v.word) h
    exact beq_iff_eq.1 hfound
  · rintro rfl
    exact ofWord?_word v

theorem ofLevel?_eq_some_iff {n : Nat} {v : Severity} : ofLevel? n = some v ↔ n = v.level := by
  constructor
  · intro h
    have hfound := List.find?_some (p := fun v : Severity => (v.level : Int) == n) h
    have hlevel := beq_iff_eq.1 hfound
    omega
  · rintro rfl
    exact ofLevel?_level v

theorem ofLevel?_eq_none_iff {n : Nat} : ofLevel? n = none ↔ n = 0 ∨ 5 < n := by
  simp [ofLevel?, all, level]
  omega

/-- A name is that of one severity. -/
theorem IsName.unique {t : Text} {v w : Severity} (hv : IsName t v) (hw : IsName t w) : v = w := by
  have hmixed : ∀ {v w : Severity} {values : List Nat}, (Text.ofString v.word).IsDecimal values →
      values ≠ [] → v = w := fun {v w values} hdigits hne =>
    absurd (hdigits.isNumeral hne) (by simp [not_isNumeral_word])
  cases hv with
  | word v =>
    generalize ht : Text.ofString v.word = t at hw
    cases hw with
    | word w => exact Option.some.inj ((ofWord?_word v).symm.trans (ht ▸ ofWord?_word w))
    | number hdigits hne => exact hmixed (ht ▸ hdigits) hne
  | number hdigits hne hlevel =>
    cases hw with
    | word w => exact (hmixed hdigits hne).symm
    | number hothers _ hsame =>
      cases hdigits.unique hothers
      have hlevels : ofLevel? v.level = ofLevel? w.level := by rw [← hlevel, hsame]
      rw [ofLevel?_level, ofLevel?_level] at hlevels
      exact Option.some.inj hlevels

/-! ## Reading -/

/-- What comes of a text with a name in it, and why. -/
inductive IsAnswer (s name : Text) : Except SeverityError Severity → Prop where
  | ok {v : Severity} (h : IsName name v) : IsAnswer s name (.ok v)
  | unknown (hword : ∀ v : Severity, name ≠ .ofString v.word) (h : isNumeral name = false) :
      IsAnswer s name (.error (.unknown s))
  | unreadable (h : isNumeral name = true) (hsign : ∃ p ∈ name, p.decimal? = none) :
      IsAnswer s name (.error (.number (.unreadable 10 name)))
  | outOfRange {values : List Nat} (hdigits : name.IsDecimal values) (hne : values ≠ [])
      (hout : Nat.ofDigits 10 values.reverse = 0 ∨ 5 < Nat.ofDigits 10 values.reverse) :
      IsAnswer s name (.error (.outOfRange (toString (Nat.ofDigits 10 values.reverse))))

/-- A name that is refused is not one of a severity. -/
theorem IsAnswer.not_isName {s name : Text} {e : SeverityError} (h : IsAnswer s name (.error e))
    (v : Severity) : ¬IsName name v := by
  intro hname
  cases hname with
  | word v =>
    cases h with
    | unknown hword => exact hword v rfl
    | unreadable hnumeral => exact absurd hnumeral (by simp [not_isNumeral_word])
    | outOfRange hdigits hne =>
      exact absurd (hdigits.isNumeral hne) (by simp [not_isNumeral_word])
  | number hdigits hne hlevel =>
    cases h with
    | unknown _ hnumeral => exact absurd (hdigits.isNumeral hne) (by simp [hnumeral])
    | unreadable _ hsign =>
      obtain ⟨p, hp, hnone⟩ := hsign
      obtain ⟨c, d, rfl, hc⟩ := hdigits.exists_of_mem hp
      rw [CodePoint.decimal?_eq_some_iff.2 ⟨c, rfl, hc⟩] at hnone
      cases hnone
    | outOfRange hdigits' _ hout =>
      cases hdigits.unique hdigits'
      have hrange : 1 ≤ v.level ∧ v.level ≤ 5 := by cases v <;> decide
      omega

/-- A number of a severity, or of none. -/
theorem ofInt_eq {n : Nat} (h : n < 10 ^ Number.maxDigits) :
    ofInt n =
      match ofLevel? n with
      | some v => .ok v
      | none => .error (.outOfRange (toString n)) := by
  rw [ofInt, Number.shown, Int.natAbs_natCast, Nat.pow_eq, if_pos h]
  rfl

/-- What comes of a number in decimal digits. -/
theorem isAnswer_ofInt {s name : Text} {values : List Nat} (hdigits : name.IsDecimal values)
    (hne : values ≠ []) (hshort : values.length ≤ Number.maxDigits) :
    IsAnswer s name (ofInt (Nat.ofDigits 10 values.reverse : Nat)) := by
  have hten : ∀ d ∈ values.reverse, d < 10 :=
    fun d hd => hdigits.lt_ten d (List.mem_reverse.1 hd)
  have hbound : Nat.ofDigits 10 values.reverse < 10 ^ Number.maxDigits := by
    calc Nat.ofDigits 10 values.reverse
        < 10 ^ values.reverse.length := Nat.ofDigits_lt_base_pow_length (by decide) hten
      _ ≤ 10 ^ Number.maxDigits :=
        Nat.pow_le_pow_right (by decide) (by rwa [List.length_reverse])
  rw [ofInt_eq hbound]
  split
  · rename_i v hv
    exact .ok (.number hdigits hne (ofLevel?_eq_some_iff.1 hv))
  · rename_i hnone
    exact .outOfRange hdigits hne (ofLevel?_eq_none_iff.1 hnone)

/-- **What comes of a name** in which there are not too many digits. -/
theorem isAnswer_parse {s : Text}
    (hshort : decimalCount (lower (trimBlanks s)) ≤ Number.maxDigits) :
    IsAnswer s (lower (trimBlanks s)) (parse s) := by
  rw [parse]
  generalize lower (trimBlanks s) = name at hshort ⊢
  split
  · rename_i v hword
    cases ofWord?_eq_some_iff.1 hword
    exact .ok (.word v)
  · rename_i hnone
    have hword : ∀ v : Severity, name ≠ .ofString v.word := by
      rintro v rfl
      exact absurd hnone (by simp [ofWord?_word])
    by_cases hnumeral : isNumeral name = true
    · obtain ⟨digits, rfl, hne, hdigits⟩ := exists_chars_of_isNumeral hnumeral
      rw [hnumeral, Bool.not_true, if_neg Bool.false_ne_true]
      by_cases hdecimal : ∀ c ∈ digits, (decimalValue? c).isSome = true
      · have hvalues := isDecimal_ofChars hdecimal
        have hcount : digits.length ≤ Number.maxDigits := by
          rw [decimalCount, ofChars, List.countP_map] at hshort
          rwa [← List.countP_eq_length.2 hdecimal]
        have hlength : digits.length = (digits.filterMap decimalValue?).length := by
          rw [← hvalues.length_eq, ofChars, List.length_map]
        have hpositive := List.length_pos_iff.2 hne
        rw [Number.ofNumeral_of_decimal hne hdecimal hcount, Number.positional_eq_ofDigits]
        exact isAnswer_ofInt hvalues (List.length_pos_iff.1 (by omega)) (by omega)
      · obtain ⟨sign, hsign, hnot⟩ : ∃ c ∈ digits, decimalValue? c = none := by
          simpa using hdecimal
        rw [Number.ofNumeral_of_not_decimal hdigits hshort hsign hnot]
        exact .unreadable hnumeral ⟨_, List.mem_map_of_mem hsign, hnot⟩
    · rw [Bool.not_eq_true] at hnumeral
      rw [hnumeral]
      exact .unknown hword hnumeral

/-- Trimming a text and writing it in small letters makes no digits. -/
theorem decimalCount_name_le (s : Text) : decimalCount (lower (trimBlanks s)) ≤ decimalCount s := by
  refine (decimalCount_lower_le _).trans ?_
  obtain ⟨before, after, hs, -⟩ := exists_trim (CodePoint.isIn isBlank) s
  calc decimalCount (trimBlanks s)
      ≤ decimalCount (before ++ trimBlanks s ++ after) := by
        rw [decimalCount_append, decimalCount_append]
        omega
    _ = decimalCount s := by rw [trimBlanks, ← hs]

/-- **Reading is exact.** -/
theorem parse_eq_ok_iff {s : Text} (hshort : decimalCount s ≤ Number.maxDigits) {v : Severity} :
    parse s = .ok v ↔ IsSpelled s v := by
  rw [isSpelled_iff]
  have hanswer := isAnswer_parse ((decimalCount_name_le s).trans hshort)
  cases hparse : parse s with
  | error e =>
    rw [hparse] at hanswer
    exact iff_of_false nofun (hanswer.not_isName v)
  | ok w =>
    rw [hparse] at hanswer
    cases hanswer with
    | ok hw =>
      constructor
      · rintro ⟨⟩
        exact hw
      · intro hv
        rw [hv.unique hw]

/-! ## Spellings of the same name -/

/-- A text is read as its name is; only in the reason for a refusal the text itself shows. -/
theorem toOption_parse_congr {s t : Text}
    (h : lower (trimBlanks s) = lower (trimBlanks t)) :
    (parse s).toOption = (parse t).toOption := by
  rw [parse, parse, h]
  split
  · rfl
  · split <;> rfl

/-- **Blanks around a text** do not matter. -/
theorem toOption_parse_surrounded {before after : Text}
    (hbefore : ∀ p ∈ before, p.isIn isBlank = true) (hafter : ∀ p ∈ after, p.isIn isBlank = true)
    (s : Text) : (parse (before ++ s ++ after)).toOption = (parse s).toOption := by
  refine toOption_parse_congr ?_
  rw [trimBlanks, trimBlanks, trim_append hbefore hafter]

/-- **Capitals** do not matter. -/
theorem toOption_parse_map_small (s : Text) :
    (parse (s.map .small)).toOption = (parse s).toOption := by
  refine toOption_parse_congr ?_
  have hblank : CodePoint.isIn isBlank ∘ CodePoint.small = CodePoint.isIn isBlank := by
    funext p
    cases p with
    | char c => exact isBlank_toLower c
    | half i => rfl
  have htrim : trimBlanks (s.map .small) = (trimBlanks s).map .small := by
    rw [trimBlanks, trimBlanks, trim, trim, List.dropWhile_map, hblank, ← List.map_reverse,
      List.dropWhile_map, hblank, ← List.map_reverse]
  rw [htrim, lower_map_small]

/-- Decimal digits name a severity when they stand for its number. -/
theorem isSpelled_digits_iff {digits : Text} {values : List Nat} {v : Severity}
    (hdigits : digits.IsDecimal values) (hne : values ≠ []) :
    IsSpelled digits v ↔ Nat.ofDigits 10 values.reverse = v.level := by
  obtain ⟨s, rfl, -, hs⟩ := exists_chars_of_isNumeral (hdigits.isNumeral hne)
  have hblank : ∀ p ∈ ofChars s, p.isIn isBlank = false := by
    intro p hp
    obtain ⟨c, hc, rfl⟩ := List.mem_map.1 hp
    exact isBlank_of_isDigit (hs c hc)
  rw [isSpelled_iff, trimBlanks, trim_eq_self hblank, lower_of_isDigit hs]
  constructor
  · intro h
    generalize ht : ofChars s = t at h hdigits
    cases h with
    | word v => exact absurd (hdigits.isNumeral hne) (by simp [not_isNumeral_word])
    | number hothers _ hlevel =>
      rw [hdigits.unique hothers]
      exact hlevel
  · exact .number hdigits hne

/-- **Zeros in front** of decimal digits do not matter, as long as there are not too many digits. -/
theorem toOption_parse_zeros {zeros digits : Text} {n : Nat} {values : List Nat}
    (hzeros : zeros.IsDecimal (List.replicate n 0)) (hdigits : digits.IsDecimal values)
    (hne : values ≠ []) (hshort : decimalCount (zeros ++ digits) ≤ Number.maxDigits) :
    (parse (zeros ++ digits)).toOption = (parse digits).toOption := by
  have hshort' : decimalCount digits ≤ Number.maxDigits := by
    rw [decimalCount_append] at hshort
    omega
  have hok : ∀ (x : Except SeverityError Severity) v, x.toOption = some v ↔ x = .ok v := by
    intro x v
    cases x <;> simp [Except.toOption]
  ext v
  rw [hok, hok, parse_eq_ok_iff hshort, parse_eq_ok_iff hshort', isSpelled_digits_iff hdigits hne,
    isSpelled_digits_iff (hzeros.append hdigits) (List.append_ne_nil_of_right_ne_nil _ hne),
    List.reverse_append, List.reverse_replicate, Nat.ofDigits_append_replicate_zero]

/-- **How a severity is spelled.**  A text with no more digits than a number may have gives a
severity exactly when it is the name of that severity, in capitals or small letters, with blanks
around it.  Every other text is refused for one of three reasons.  So neither blanks around a text
nor the case of its letters change what it gives, nor do zeros in front of its digits, as long as
there are not too many of them. -/
theorem parse_reads_spellings {s : Text} (hshort : decimalCount s ≤ Number.maxDigits) :
    (∀ v, parse s = .ok v ↔ IsSpelled s v) ∧
    ((∀ v, ¬IsSpelled s v) → ∃ e, parse s = .error e ∧
      IsAnswer s (lower (trimBlanks s)) (.error e)) ∧
    (∀ before after, (∀ p ∈ before, p.isIn isBlank = true) → (∀ p ∈ after, p.isIn isBlank = true) →
      (parse (before ++ s ++ after)).toOption = (parse s).toOption) ∧
    (∀ t : Text, t.map CodePoint.small = s.map CodePoint.small →
      (parse t).toOption = (parse s).toOption) ∧
    ∀ before zeros digits after n values, s = before ++ (zeros ++ digits) ++ after →
      (∀ p ∈ before, p.isIn isBlank = true) → (∀ p ∈ after, p.isIn isBlank = true) →
      zeros.IsDecimal (List.replicate n 0) → digits.IsDecimal values → values ≠ [] →
      (parse s).toOption = (parse (before ++ digits ++ after)).toOption := by
  refine ⟨fun v => parse_eq_ok_iff hshort, fun hnone => ?_, fun before after hbefore hafter =>
    toOption_parse_surrounded hbefore hafter s, fun t ht => ?_, ?_⟩
  · have hanswer := isAnswer_parse ((decimalCount_name_le s).trans hshort)
    cases hparse : parse s with
    | ok v => exact absurd ((parse_eq_ok_iff hshort).1 hparse) (hnone v)
    | error e => exact ⟨e, rfl, hparse ▸ hanswer⟩
  · rw [← toOption_parse_map_small t, ht, toOption_parse_map_small]
  · rintro before zeros digits after n values rfl hbefore hafter hzeros hdigits hne
    have hshort' : decimalCount (zeros ++ digits) ≤ Number.maxDigits := by
      rw [decimalCount_append, decimalCount_append] at hshort
      omega
    rw [toOption_parse_surrounded hbefore hafter, toOption_parse_surrounded hbefore hafter,
      toOption_parse_zeros hzeros hdigits hne hshort']

/-- Three in Arabic digits, with a zero in front and blanks around it. -/
def arabicThree : Text := .ofString "\u3000\u0660\u0663\x1F"

theorem parse_reads_spellings_arabicThree :
    decimalCount arabicThree ≤ Number.maxDigits ∧ IsSpelled arabicThree .medium ∧
      (parse (.ofString "\u3000\u0663\x1F")).toOption = some .medium ∧
      (∀ v, ¬IsSpelled (.ofString "1\u00B2") v) ∧
      ∃ e, parse (.ofString "1\u00B2") = .error e ∧
        IsAnswer (.ofString "1\u00B2") (.ofString "1\u00B2") (.error e) := by
  have hshort : decimalCount arabicThree ≤ Number.maxDigits := by decide +kernel
  have hread : parse arabicThree = .ok .medium := by decide +kernel
  obtain ⟨hexact, -, -, -, hzeros⟩ := parse_reads_spellings hshort
  have hsquared : parse (.ofString "1\u00B2") =
      .error (.number (.unreadable 10 (.ofString "1\u00B2"))) := by
    decide +kernel
  obtain ⟨hexact', hrefused, -⟩ :=
    parse_reads_spellings (s := .ofString "1\u00B2") (by decide +kernel)
  have hnone : ∀ v, ¬IsSpelled (.ofString "1\u00B2") v := by
    intro v hv
    cases hsquared.symm.trans ((hexact' v).2 hv)
  refine ⟨hshort, (hexact _).1 hread, ?_, hnone, hrefused hnone⟩
  have hsame := hzeros (.ofString "\u3000") (.ofString "\u0660") (.ofString "\u0663")
    (.ofString "\x1F") 1 [3] rfl (by decide +kernel) (by decide +kernel) (by decide +kernel)
    (by decide +kernel) (by decide)
  rw [hread] at hsame
  exact hsame.symm

end Severity
end JumpLint

import JumpLint.Text.Blank
import JumpLint.Text.Digit
import JumpLint.Text.Lower

/-!
# What small letters leave alone

Blanks and digits are no capitals, so writing a text in small letters leaves them where they are,
and no capital has a decimal digit for a small letter.  Nor does it matter which of the ASCII
letters are capitals to begin with: they count as letters in either form where the end of a word is
looked for.

All of this is read off the tables, run by run.

## What is here

* `digitRuns`, `blankRuns`, `areApart_capital`: the runs of the classes, which have nothing in
  common with those of the capitals.
* `lowerChar_of_isDigit`, `mem_lower_of_isBlank`: digits and blanks stay.
* `decimalCount`, `decimalCount_lower_le`: there are no more decimal digits than before.
* `CodePoint.small`, `lower_map_small`: the case of ASCII letters does not matter.
-/

set_option autoImplicit false
namespace JumpLint

/-- A code point, as a small letter if it is an ASCII letter. -/
def CodePoint.small : CodePoint → CodePoint
  | .char c => .char c.toLower
  | .half i => .half i

namespace Text

/-! ## Runs -/

/-- Whether two runs have no number in common. -/
def areApart (r s : Nat × Nat) : Bool := r.2 < s.1 || s.2 < r.1

/-- First and last of each run of digits. -/
def digitRuns : List (Nat × Nat) := decimalZeros.map (fun z => (z, z + 9)) ++ digitSigns

/-- First and last of each run of blanks. -/
def blankRuns : List (Nat × Nat) :=
  [
    (0x09, 0x0D), (0x1C, 0x20), (0x85, 0x85), (0xA0, 0xA0), (0x1680, 0x1680), (0x2000, 0x200A),
    (0x2028, 0x2029), (0x202F, 0x202F), (0x205F, 0x205F), (0x3000, 0x3000)
  ]

/-- First and last of the small letters of ASCII. -/
def smallRun : Nat × Nat := (0x61, 0x7A)

theorem exists_zero_of_decimalValue? {c : Char} {v : Nat} (h : decimalValue? c = some v) :
    ∃ z ∈ decimalZeros, z ≤ c.toNat ∧ c.toNat ≤ z + 9 := by
  obtain ⟨z, hz, -⟩ := Option.map_eq_some_iff.1 h
  have hrun := List.find?_some hz
  simp only [Bool.and_eq_true, decide_eq_true_eq] at hrun
  exact ⟨z, List.mem_of_find?_eq_some hz, by omega, by omega⟩

theorem exists_run_of_isDigit {c : Char} (h : isDigit c = true) :
    ∃ r ∈ digitRuns, r.1 ≤ c.toNat ∧ c.toNat ≤ r.2 := by
  rw [isDigit, Bool.or_eq_true, List.any_eq_true] at h
  rcases h with hdecimal | ⟨r, hr, hrun⟩
  · obtain ⟨v, hv⟩ := Option.isSome_iff_exists.1 hdecimal
    obtain ⟨z, hz, hrun⟩ := exists_zero_of_decimalValue? hv
    exact ⟨(z, z + 9), List.mem_append_left _ (List.mem_map.2 ⟨z, hz, rfl⟩), hrun⟩
  · exact ⟨r, List.mem_append_right _ hr, by simpa using hrun⟩

theorem exists_run_of_isBlank {c : Char} (h : isBlank c = true) :
    ∃ r ∈ blankRuns, r.1 ≤ c.toNat ∧ c.toNat ≤ r.2 := by
  simp only [isBlank, isWhiteSpace, Bool.or_eq_true, Bool.and_eq_true, decide_eq_true_eq,
    beq_iff_eq] at h
  simp only [blankRuns, List.mem_cons, List.not_mem_nil, or_false, exists_eq_or_imp,
    exists_eq_left]
  omega

/-- A number in one of two runs that are apart is not in the other one. -/
theorem not_mem_of_areApart {r s : Nat × Nat} (h : areApart r s = true) {n : Nat}
    (hn : s.1 ≤ n ∧ n ≤ s.2) : ¬(r.1 ≤ n ∧ n ≤ r.2) := by
  simp only [areApart, Bool.or_eq_true, decide_eq_true_eq] at h
  omega

theorem areApart_blank_digit :
    blankRuns.all (fun r => digitRuns.all fun s => areApart r s) = true := by
  decide +kernel

/-- No capital is among digits, blanks and the small letters of ASCII. -/
theorem areApart_capital : (digitRuns ++ blankRuns ++ [smallRun]).all (fun s =>
    areApart (0x130, 0x130) s && capitals.all fun r => areApart (r.1, r.2.1) s) = true := by
  decide +kernel

/-- No small letter of a capital is a decimal digit. -/
theorem areApart_small : decimalZeros.all (fun z => 0 < z && capitals.all fun r =>
    areApart ((r.1 + r.2.2.2).toNat, (r.2.1 + r.2.2.2).toNat) (z, z + 9)) = true := by
  decide +kernel

theorem isBlank_of_isDigit {c : Char} (h : isDigit c = true) : isBlank c = false := by
  obtain ⟨s, hs, hrun⟩ := exists_run_of_isDigit h
  rw [Bool.eq_false_iff]
  intro hblank
  obtain ⟨r, hr, hin⟩ := exists_run_of_isBlank hblank
  have hapart := List.all_eq_true.1 (List.all_eq_true.1 areApart_blank_digit r hr) s hs
  exact not_mem_of_areApart hapart hrun hin

/-! ## One character -/

/-- What is in a run without capitals is its own small letter. -/
theorem lowerChar_of_run {c : Char} {s : Nat × Nat} (hs : s ∈ digitRuns ++ blankRuns ++ [smallRun])
    (hrun : s.1 ≤ c.toNat ∧ c.toNat ≤ s.2) : lowerChar c = [c] := by
  obtain ⟨hdotted, hcapitals⟩ := Bool.and_eq_true_iff.1 (List.all_eq_true.1 areApart_capital s hs)
  have hne : ¬c.toNat = 0x130 := fun h => not_mem_of_areApart hdotted hrun (by simp [h])
  simp only [lowerChar, beq_iff_eq, hne, if_false]
  split
  · rename_i a b step distance hfind
    have hin := List.find?_some hfind
    simp only [Bool.and_eq_true, decide_eq_true_eq] at hin
    have hapart := List.all_eq_true.1 hcapitals _ (List.mem_of_find?_eq_some hfind)
    exact absurd hin.1 (not_mem_of_areApart hapart hrun)
  · rfl

theorem lowerChar_of_isDigit {c : Char} (h : isDigit c = true) : lowerChar c = [c] := by
  obtain ⟨s, hs, hrun⟩ := exists_run_of_isDigit h
  exact lowerChar_of_run (by simp [hs]) hrun

theorem lowerChar_of_isBlank {c : Char} (h : isBlank c = true) : lowerChar c = [c] := by
  obtain ⟨s, hs, hrun⟩ := exists_run_of_isBlank h
  exact lowerChar_of_run (by simp [hs]) hrun

/-- The sigma is neither digit nor blank. -/
theorem ne_sigma_of_isDigit {c : Char} (h : isDigit c = true) : c ≠ sigma := by
  rintro rfl
  exact absurd h (by decide)

theorem ne_sigma_of_isBlank {c : Char} (h : isBlank c = true) : c ≠ sigma := by
  rintro rfl
  exact absurd h (by decide)

/-! ## Blanks and digits in a text -/

/-- A text of digits is in small letters. -/
theorem lower_of_isDigit {s : List Char} (h : ∀ c ∈ s, isDigit c = true) :
    lower (ofChars s) = ofChars s := by
  have hfrom : ∀ before, lowerFrom before (ofChars s) = ofChars s := by
    induction s with
    | nil => exact fun _ => rfl
    | cons c rest ih =>
      obtain ⟨hc, hrest⟩ := List.forall_mem_cons.1 h
      intro before
      rw [ofChars, List.map_cons, lowerFrom, ← ofChars, ih hrest]
      simp [ne_sigma_of_isDigit hc, lowerChar_of_isDigit hc, ofChars]
  exact hfrom []

/-- Blanks stay where small letters are written. -/
theorem mem_lower_of_isBlank {t : Text} {c : Char} (hc : isBlank c = true) (h : .char c ∈ t) :
    .char c ∈ lower t := by
  have hfrom : ∀ before, .char c ∈ lowerFrom before t := by
    induction t with
    | nil => exact absurd h List.not_mem_nil
    | cons p rest ih =>
      intro before
      rcases List.mem_cons.1 h with rfl | hrest
      · rw [lowerFrom]
        simp [ne_sigma_of_isBlank hc, lowerChar_of_isBlank hc, ofChars]
      · cases p with
        | half i => exact List.mem_cons_of_mem _ (ih hrest _)
        | char d => exact List.mem_append_right _ (ih hrest _)
  exact hfrom []

/-- Whether a code point is a decimal digit of any script. -/
def isDecimal (p : CodePoint) : Bool := p.isIn fun c => (decimalValue? c).isSome

/-- The number of decimal digits in a text. -/
def decimalCount (t : Text) : Nat := t.countP isDecimal

theorem decimalCount_append (s t : Text) :
    decimalCount (s ++ t) = decimalCount s + decimalCount t :=
  List.countP_append

/-- A character that has no number of its own is the one with number zero. -/
theorem toNat_ofNat (n : Nat) : (Char.ofNat n).toNat = n ∨ (Char.ofNat n).toNat = 0 := by
  by_cases h : n.isValidChar
  · rw [Char.ofNat, dif_pos h]
    exact .inl rfl
  · rw [Char.ofNat, dif_neg h]
    exact .inr rfl

theorem decimalCount_lowerChar_le (c : Char) :
    decimalCount (ofChars (lowerChar c)) ≤ decimalCount [.char c] := by
  simp only [lowerChar]
  split
  · exact Nat.zero_le _
  · split
    · rename_i a b step distance hfind
      have hrun := List.find?_some hfind
      simp only [Bool.and_eq_true, decide_eq_true_eq] at hrun
      have hmem := List.mem_of_find?_eq_some hfind
      -- the small letter lies in the run of the small letters of the capitals around it
      have hnone : decimalValue? (Char.ofNat (c.toNat + distance).toNat) = none := by
        rw [Option.eq_none_iff_forall_ne_some]
        intro v hv
        obtain ⟨z, hz, hin⟩ := exists_zero_of_decimalValue? hv
        obtain ⟨hpos, hsmall⟩ := Bool.and_eq_true_iff.1 (List.all_eq_true.1 areApart_small z hz)
        have hout := not_mem_of_areApart (List.all_eq_true.1 hsmall _ hmem) hin
        rcases toNat_ofNat (c.toNat + distance).toNat with hn | hn
        · rw [hn] at hout
          dsimp only at hout
          omega
        · have : 0 < z := by simpa using hpos
          omega
      simp [decimalCount, ofChars, isDecimal, CodePoint.isIn, hnone]
    · exact Nat.le_refl _

/-- **No capital has a decimal digit for a small letter.** -/
theorem decimalCount_lower_le (t : Text) : decimalCount (lower t) ≤ decimalCount t := by
  have hfrom : ∀ before, decimalCount (lowerFrom before t) ≤ decimalCount t := by
    induction t with
    | nil => exact fun _ => Nat.le_refl _
    | cons p rest ih =>
      intro before
      cases p with
      | half i => simpa [lowerFrom, decimalCount, isDecimal, CodePoint.isIn] using ih _
      | char c =>
        have hone : decimalCount (ofChars
            (if c == sigma && isFinal before rest then [finalSigma] else lowerChar c)) ≤
            decimalCount [.char c] := by
          split
          · exact Nat.le_trans (Nat.le_of_eq (by decide)) (Nat.zero_le _)
          · exact decimalCount_lowerChar_le c
        rw [lowerFrom, decimalCount_append, show .char c :: rest = [.char c] ++ rest from rfl,
          decimalCount_append]
        exact Nat.add_le_add hone (ih _)
  exact hfrom []

/-! ## ASCII letters -/

/-- A character either is its own small letter, or it is an ASCII capital. -/
theorem toLower_cases (c : Char) :
    c.toLower = c ∨ (0x41 ≤ c.toNat ∧ c.toNat ≤ 0x5A ∧ c.toLower.toNat = c.toNat + 32) := by
  by_cases h : 'A'.toNat ≤ c.toNat ∧ c.toNat ≤ 'Z'.toNat
  · refine .inr ⟨h.1, h.2, ?_⟩
    have hchars : ∀ n < 0x5B, 0x41 ≤ n → (Char.ofNat n).toLower.toNat = n + 32 := by decide
    have hsmall := hchars c.toNat (Nat.lt_succ_of_le h.2) h.1
    rwa [Char.ofNat_toNat] at hsmall
  · exact .inl (dif_neg h)

theorem isBlank_toLower (c : Char) : isBlank c.toLower = isBlank c := by
  rcases toLower_cases c with h | h
  · rw [h]
  · simp only [isBlank, isWhiteSpace, h.2.2]
    grind

theorem beq_sigma_toLower (c : Char) : (c.toLower == sigma) = (c == sigma) := by
  rcases toLower_cases c with h | h
  · rw [h]
  · have hne : ∀ d : Char, d.toNat < 0x100 → (d == sigma) = false := by
      intro d hd
      rw [beq_eq_false_iff_ne]
      rintro rfl
      exact absurd hd (by decide)
    rw [hne c (by omega), hne c.toLower (by omega)]

/-- The small letter of an ASCII capital is in the first run of the table, and is no capital
itself. -/
theorem lowerChar_toLower (c : Char) : lowerChar c.toLower = lowerChar c := by
  rcases toLower_cases c with h | ⟨hle, hge, hsmall⟩
  · rw [h]
  · have hcapital : ∀ n < 0x5B, 0x41 ≤ n → lowerChar (Char.ofNat n) = [(Char.ofNat n).toLower] := by
      decide +kernel
    have hc := hcapital c.toNat (Nat.lt_succ_of_le hge) hle
    rw [Char.ofNat_toNat] at hc
    rw [hc]
    exact lowerChar_of_run (s := smallRun) (by simp) (by simp [smallRun, hsmall]; omega)

/-- In either form an ASCII letter is a letter where the end of a word is looked for. -/
theorem isInRuns_of_ascii {n : Nat} (h : (0x41 ≤ n ∧ n ≤ 0x5A) ∨ (0x61 ≤ n ∧ n ≤ 0x7A)) :
    isInRuns caseIgnorable n = false ∧ isInRuns cased n = true := by
  have hignored : caseIgnorable.all
      (fun r => areApart r (0x41, 0x5A) && areApart r smallRun) = true := by decide +kernel
  constructor
  · rw [isInRuns, List.any_eq_false]
    rintro ⟨a, b⟩ hr hin
    obtain ⟨hcapital, hsmall⟩ := Bool.and_eq_true_iff.1 (List.all_eq_true.1 hignored _ hr)
    simp only [Bool.and_eq_true, decide_eq_true_eq] at hin
    rcases h with h | h
    · exact not_mem_of_areApart hcapital h hin
    · exact not_mem_of_areApart hsmall h hin
  · rw [isInRuns, List.any_eq_true]
    rcases h with h | h
    · exact ⟨(0x41, 0x5A), List.mem_cons_self, by simpa using h⟩
    · exact ⟨(0x61, 0x7A), List.mem_cons_of_mem _ List.mem_cons_self, by simpa using h⟩

theorem meetsLetter_map_small (t : Text) : meetsLetter (t.map .small) = meetsLetter t := by
  have hsame : ∀ p : CodePoint, isInRuns caseIgnorable p.small.value =
      isInRuns caseIgnorable p.value ∧ isInRuns cased p.small.value = isInRuns cased p.value := by
    intro p
    cases p with
    | half i => exact ⟨rfl, rfl⟩
    | char c =>
      rcases toLower_cases c with h | ⟨hle, hge, hsmall⟩
      · rw [CodePoint.small, h]
        exact ⟨rfl, rfl⟩
      · have hc := isInRuns_of_ascii (.inl ⟨hle, hge⟩)
        have hlower := isInRuns_of_ascii (n := c.toLower.toNat) (.inr (by omega))
        exact ⟨hlower.1.trans hc.1.symm, hlower.2.trans hc.2.symm⟩
  induction t with
  | nil => rfl
  | cons p rest ih =>
    obtain ⟨hignored, hcased⟩ := hsame p
    simp only [meetsLetter, List.map_cons] at ih ⊢
    rw [List.dropWhile_cons, List.dropWhile_cons, hignored]
    by_cases hp : isInRuns caseIgnorable p.value = true
    · simpa [hp] using ih
    · simp [hp, hcased]

/-- **The case of ASCII letters does not matter** to a text in small letters. -/
theorem lower_map_small (t : Text) : lower (t.map .small) = lower t := by
  have hfrom : ∀ before, lowerFrom (before.map .small) (t.map .small) = lowerFrom before t := by
    induction t with
    | nil => exact fun _ => rfl
    | cons p rest ih =>
      intro before
      have hrest := ih (p :: before)
      rw [List.map_cons] at hrest
      cases p with
      | half i => exact congrArg (List.cons _) hrest
      | char c =>
        rw [List.map_cons, CodePoint.small, lowerFrom, lowerFrom, beq_sigma_toLower,
          lowerChar_toLower, isFinal, isFinal, meetsLetter_map_small, meetsLetter_map_small]
        exact congrArg _ hrest
  exact hfrom []

end Text
end JumpLint

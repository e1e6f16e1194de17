import JumpLint.Proofs.Number.Length
import JumpLint.Report.Template

/-!
# Templates as they are written

Whoever writes a template thinks of it in parts: text that is to stay as it is, in which each
percent sign has to be written twice, names of fields, and perhaps escapes that name nothing.  The
reader does not know these parts.  It goes from one percent sign to the next, and takes none for the
beginning of an escape if a line feed comes behind it.  The parts are filled in all the same: each
of them ends behind a whole escape or behind a character that is no percent sign, so what is read as
an escape never begins in one part and ends in the next.  Only a violation with a line or column of
too many digits is shown by no template, not even by one that does not name them.

## What is here

* `Field`, with `letter` and `textOf`: the fields that a template can name.
* `Part`, with `written` and `shown`: a part of a template as it is written and as it is filled in.
* `Violation.IsPrintable`: the numbers of a violation can be written;
  `Violation.exists_shownFields`, `Violation.shownFields_eq_error`: then all its fields have texts,
  and else there are none.
* `Fields.fillIn_percent`: how a percent sign is filled in with the character behind it, even if
  that is a line feed.
* `Fields.fillIn_written_append`: a part is filled in by itself, whatever comes after it.
* `exists_parts`: every template is made of parts, but for a percent sign at the end.
* `Violation.shownBy`: what a template shows of a violation.
* `Violation.format_parts`: a violation shown by a template in parts.
-/

set_option autoImplicit false
namespace JumpLint

open Number (IsShort)

/-! ## Fields -/

/-- The fields of a violation that a template can name. -/
inductive Field where
  | filename
  | line
  | column
  | description
  | explanation
  | severity
  | policy
  | source
deriving Repr, DecidableEq

namespace Field

/-- The letter behind the percent sign. -/
def letter : Field → CodePoint
  | .filename => .char 'f'
  | .line => .char 'l'
  | .column => .char 'c'
  | .description => .char 'm'
  | .explanation => .char 'e'
  | .severity => .char 's'
  | .policy => .char 'p'
  | .source => .char 'r'

/-- The digits of a number, and nothing if the number is absent. -/
def numberText : Option Int → Text
  | some n => .ofString (toString n)
  | none => []

/-- What a violation has in a field. -/
def textOf (v : Violation) : Field → Text
  | .filename => v.filename.getD []
  | .line => numberText v.line
  | .column => numberText v.column
  | .description => v.description
  | .explanation => v.explanation
  | .severity => .ofString (toString v.severity.level)
  | .policy => v.policy
  | .source => v.source

end Field

theorem shownNumber_eq_ok {n : Option Int} (h : ∀ k, n = some k → IsShort k) :
    shownNumber n = .ok (Field.numberText n) := by
  cases n with
  | none => rfl
  | some k =>
    have hk : IsShort k := h k rfl
    rw [shownNumber, Number.shown_eq_ok hk]
    rfl

theorem shownNumber_eq_error {n : Option Int} (h : ¬∀ k, n = some k → IsShort k) :
    shownNumber n = .error .unprintable := by
  cases n with
  | none => exact absurd nofun h
  | some k =>
    have hk : ¬IsShort k := fun hk => h fun _ heq => Option.some.inj heq ▸ hk
    rw [shownNumber, Number.shown_eq_error hk]
    rfl

namespace Violation

/-- The line and the column of a violation can be written, if they are known. -/
structure IsPrintable (v : Violation) : Prop where
  line : ∀ n, v.line = some n → IsShort n
  column : ∀ n, v.column = some n → IsShort n

/-- The fields of a violation are what it has in them. -/
theorem exists_shownFields {v : Violation} (h : v.IsPrintable) :
    ∃ fields, v.shownFields = .ok fields ∧
      ∀ field : Field, fields.text? field.letter = some (field.textOf v) := by
  rw [shownFields, shownNumber_eq_ok h.line, shownNumber_eq_ok h.column]
  refine ⟨_, rfl, fun field => ?_⟩
  cases field <;> rfl

/-- **A number that cannot be written** leaves a violation without fields. -/
theorem shownFields_eq_error {v : Violation} (h : ¬v.IsPrintable) :
    v.shownFields = .error .unprintable := by
  rw [shownFields]
  by_cases hline : ∀ n, v.line = some n → IsShort n
  · rw [shownNumber_eq_ok hline, shownNumber_eq_error fun hcolumn => h ⟨hline, hcolumn⟩]
    rfl
  · rw [shownNumber_eq_error hline]
    rfl

end Violation

/-- Other characters name nothing. -/
theorem Fields.text?_eq_none (fields : Fields) {p : CodePoint} (hpercent : p ≠ percent)
    (hletter : ∀ field : Field, p ≠ field.letter) : fields.text? p = none := by
  rw [Fields.text?]
  · exact hletter .filename
  · exact hletter .line
  · exact hletter .column
  · exact hletter .description
  · exact hletter .explanation
  · exact hletter .severity
  · exact hletter .policy
  · exact hletter .source
  · exact hpercent

/-! ## Parts -/

/-- A part of a template: any text, the name of a field, or an escape that names nothing. -/
inductive Part where
  | literal (text : Text)
  | named (field : Field)
  | unknown (p : CodePoint) (ne_percent : p ≠ percent)
      (ne_letter : ∀ field : Field, p ≠ field.letter)

namespace Part

/-- A character of a text as it is written in a template. -/
def doubled (p : CodePoint) : Text := if p = percent then [percent, percent] else [p]

/-- A part as it is written. -/
def written : Part → Text
  | .literal text => text.flatMap doubled
  | .named field => [percent, field.letter]
  | .unknown p _ _ => [percent, p]

/-- A part as it is filled in for a violation. -/
def shown (v : Violation) : Part → Text
  | .literal text => text
  | .named field => field.textOf v
  | .unknown p _ _ => [percent, p]

/-- A percent sign with any character behind it is a part. -/
theorem exists_written_eq (p : CodePoint) : ∃ part : Part, part.written = [percent, p] := by
  by_cases hpercent : p = percent
  · exact ⟨.literal [percent], by rw [hpercent]; rfl⟩
  · by_cases hletter : ∃ field : Field, p = field.letter
    · obtain ⟨field, rfl⟩ := hletter
      exact ⟨.named field, rfl⟩
    · exact ⟨.unknown p hpercent (not_exists.1 hletter), rfl⟩

end Part

/-- **Every template is made of parts**, but for a percent sign at the end. -/
theorem exists_parts (template : Text) :
    ∃ (parts : List Part) (ending : Text), (ending = [] ∨ ending = [percent]) ∧
      template = parts.flatMap Part.written ++ ending := by
  fun_induction pieces template with
  | case1 => exact ⟨[], [], .inl rfl, rfl⟩
  | case2 p rest _ ih | case3 p rest _ ih =>
    obtain ⟨part, hpart⟩ := Part.exists_written_eq p
    obtain ⟨parts, ending, hending, rfl⟩ := ih
    exact ⟨part :: parts, ending, hending, by simp [hpart, percent]⟩
  | case4 p rest hescape ih =>
    by_cases hpercent : p = percent
    · cases rest with
      | nil => exact ⟨[], [percent], .inr rfl, by rw [hpercent]; rfl⟩
      | cons next more => exact absurd rfl (hescape next more hpercent)
    · obtain ⟨parts, ending, hending, rfl⟩ := ih
      refine ⟨.literal [p] :: parts, ending, hending, ?_⟩
      simp [Part.written, Part.doubled, hpercent]

/-! ## Filling in -/

namespace Fields

variable (fields : Fields)

theorem fillIn_cons {p : CodePoint} (h : p ≠ percent) (rest : Text) :
    fields.fillIn (p :: rest) = p :: fields.fillIn rest := by
  have hpieces : pieces (p :: rest) = .literal p :: pieces rest := by
    rw [pieces]
    exact fun _ _ hp _ => h hp
  rw [fillIn, hpieces, List.flatMap_cons]
  rfl

/-- **A percent sign and the character behind it** are filled in together.  A line feed there is not
taken for part of an escape, but as it names nothing this makes no difference. -/
theorem fillIn_percent (p : CodePoint) (rest : Text) :
    fields.fillIn (percent :: p :: rest) =
      (fields.text? p).getD [percent, p] ++ fields.fillIn rest := by
  rw [fillIn, percent, pieces]
  split
  · rename_i hfeed
    rw [beq_iff_eq.1 hfeed]
    rfl
  · rfl

theorem fillIn_doubled (p : CodePoint) (rest : Text) :
    fields.fillIn (Part.doubled p ++ rest) = p :: fields.fillIn rest := by
  by_cases hpercent : p = percent
  · rw [hpercent]
    exact fields.fillIn_percent percent rest
  · rw [Part.doubled, if_neg hpercent]
    exact fields.fillIn_cons hpercent rest

theorem fillIn_literal (text rest : Text) :
    fields.fillIn (text.flatMap Part.doubled ++ rest) = text ++ fields.fillIn rest := by
  induction text with
  | nil => rfl
  | cons p more ih =>
    rw [List.flatMap_cons, List.append_assoc, fillIn_doubled, ih]
    rfl

variable {fields} {v : Violation}

/-- **A part is filled in by itself**, whatever comes after it. -/
theorem fillIn_written_append
    (h : ∀ field : Field, fields.text? field.letter = some (field.textOf v)) (part : Part)
    (rest : Text) :
    fields.fillIn (part.written ++ rest) = part.shown v ++ fields.fillIn rest := by
  cases part with
  | literal text => exact fields.fillIn_literal text rest
  | named field =>
    have hfilled := fields.fillIn_percent field.letter rest
    rwa [h, Option.getD_some] at hfilled
  | unknown p hpercent hletter =>
    have hfilled := fields.fillIn_percent p rest
    rwa [fields.text?_eq_none hpercent hletter, Option.getD_none] at hfilled

theorem fillIn_parts_append
    (h : ∀ field : Field, fields.text? field.letter = some (field.textOf v)) (parts : List Part)
    (rest : Text) :
    fields.fillIn (parts.flatMap Part.written ++ rest) =
      parts.flatMap (Part.shown v) ++ fields.fillIn rest := by
  induction parts with
  | nil => rfl
  | cons part more ih =>
    rw [List.flatMap_cons, List.flatMap_cons, List.append_assoc, fillIn_written_append h, ih,
      List.append_assoc]

end Fields

namespace Violation

variable {v : Violation}

theorem format_parts_append (h : v.IsPrintable) (parts : List Part) {ending : Text}
    (hending : ending = [] ∨ ending = [percent]) :
    v.format (parts.flatMap Part.written ++ ending) =
      .ok (parts.flatMap (Part.shown v) ++ ending) := by
  obtain ⟨fields, hfields, htext⟩ := exists_shownFields h
  rw [format, hfields]
  change Except.ok (fields.fillIn (parts.flatMap Part.written ++ ending)) = _
  rw [Fields.fillIn_parts_append htext]
  rcases hending with rfl | rfl <;> rfl

/-- What a template shows of a violation with numbers that can be written. -/
def shownBy (v : Violation) (template : Text) : Text := (v.format template).toOption.getD []

/-- Violations with numbers that can be written are shown by every template. -/
theorem format_eq_shownBy (h : v.IsPrintable) (template : Text) :
    v.format template = .ok (v.shownBy template) := by
  obtain ⟨fields, hfields, -⟩ := exists_shownFields h
  rw [shownBy, format, hfields]
  rfl

theorem mapM_format_eq {violations : List Violation} (h : ∀ v ∈ violations, v.IsPrintable)
    (template : Text) :
    (violations.mapM fun v : Violation => v.format template) =
      .ok (violations.map fun v : Violation => v.shownBy template) := by
  rw [mapM_congr fun v hv => format_eq_shownBy (h v hv) template]
  exact List.mapM_pure

theorem format_eq_error (h : ¬v.IsPrintable) (template : Text) :
    v.format template = .error .unprintable := by
  rw [format, shownFields_eq_error h]
  rfl

/-- **Templates are filled in once.**  Each part of a template is shown as it should be, whatever
the fields of the violation hold, and a percent sign at the end is kept, if the line and the column
of the violation can be written; if not, no template shows it.  And there are no other templates
than parts in a row, with or without such a percent sign. -/
theorem format_parts (v : Violation) :
    (v.IsPrintable →
      (∀ parts : List Part, v.format (parts.flatMap Part.written) =
        .ok (parts.flatMap (Part.shown v))) ∧
      ∀ parts : List Part, v.format (parts.flatMap Part.written ++ [percent]) =
        .ok (parts.flatMap (Part.shown v) ++ [percent])) ∧
    (¬v.IsPrintable → ∀ template, v.format template = .error .unprintable) ∧
    ∀ template : Text, ∃ parts : List Part,
      template = parts.flatMap Part.written ∨
        template = parts.flatMap Part.written ++ [percent] := by
  refine ⟨fun h => ⟨fun parts => ?_, fun parts => format_parts_append h parts (.inr rfl)⟩,
    fun h => format_eq_error h, fun template => ?_⟩
  · have hformat := format_parts_append h parts (.inl rfl)
    rwa [List.append_nil, List.append_nil] at hformat
  · obtain ⟨parts, ending, rfl | rfl, htemplate⟩ := exists_parts template
    · exact ⟨parts, .inl (htemplate.trans (List.append_nil _))⟩
    · exact ⟨parts, .inr htemplate⟩

/-- A violation in a line, with what looks like an escape in its description. -/
def inLine (n : Int) : Violation where
  policy := .ofString "ControlStructures::ProhibitGotoIntoBlock"
  description := .ofString "100%f"
  explanation := []
  severity := .high
  filename := none
  line := some n
  column := none
  source := []

/-- The parts of the template `%l: %m`. -/
def lineParts : List Part := [.named .line, .literal (.ofString ": "), .named .description]

theorem isPrintable_inLine_iff {n : Int} : (inLine n).IsPrintable ↔ IsShort n := by
  constructor
  · exact fun h => h.line n rfl
  · rintro h
    exact ⟨by rintro _ ⟨⟩; exact h, nofun⟩

theorem not_isShort_pow : ¬IsShort (10 ^ Number.maxDigits) := by
  have hten : Int.natAbs 10 = 10 := rfl
  rw [IsShort, Int.natAbs_pow, hten]
  exact Nat.lt_irrefl _

/-- Ten lines down the template is filled in; in a line of too many digits it is not. -/
theorem format_parts_inLine :
    (inLine 10).format (.ofString "%l: %m") = .ok (.ofString "10: 100%f") ∧
      (inLine (10 ^ Number.maxDigits)).format (.ofString "%l: %m") = .error .unprintable := by
  have hshort : IsShort 10 := Nat.lt_of_lt_of_le (show 10 < 10 ^ 2 by decide)
    (Nat.pow_le_pow_right (by decide) (by decide))
  constructor
  · exact ((format_parts (inLine 10)).1 (isPrintable_inLine_iff.2 hshort)).1 lineParts
  · exact (format_parts (inLine (10 ^ Number.maxDigits))).2.1
      (mt isPrintable_inLine_iff.1 not_isShort_pow) _

/-- In a line of too many digits the parts are not filled in. -/
theorem format_inLine_ne :
    (inLine (10 ^ Number.maxDigits)).format (lineParts.flatMap Part.written) ≠
      .ok (lineParts.flatMap (Part.shown (inLine (10 ^ Number.maxDigits)))) := by
  rw [format_eq_error (mt isPrintable_inLine_iff.1 not_isShort_pow)]
  exact nofun

end Violation
end JumpLint

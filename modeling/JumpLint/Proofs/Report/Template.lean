import JumpLint.Report.Template
import Mathlib.Data.List.Chain

/-!
# Templates found twice

A run finds its template before it looks at trees, and a report takes what was found for a template
that is asked for, and looks it up again.  The second time it finds the same: no numbered template
is a number itself or has a backslash in it, writing line feeds and tabs does not make a number of
anything else, and it makes no escapes of what stands around them.  A backslash is kept only if
neither letter stands behind it, and a line feed or tab that comes to stand there is no letter.

## What is here

* `unescape_eq_of_all`: characters for escapes stay in sight.
* `Escapeless`: no backslash stands in front of a letter; `Escapeless.unescape_eq` says that nothing
  is changed then, `escapeless_unescape` that it is so when the escapes have been written, and
  `Escapeless.unescape` that it stays so when others are.
* `IsFinal`: a text that stands for itself as a template; `Verbosity.isFinal_of_resolve`: every
  template that was found is such a text.
* `formatAll_eq_of_resolve`: violations in a row, given their template.
-/

set_option autoImplicit false
namespace JumpLint

section Unescape

variable {P : CodePoint → Bool} {letter c : Char}

/-- A backslash that has been read is written, or else the character that stands for the escape. -/
theorem exists_unescapeFrom_true (letter c : Char) (t : Text) :
    ∃ first more, unescapeFrom letter c true t = first :: more ∧
      (first = backslash ∨ first = .char c) := by
  cases t with
  | nil => exact ⟨_, _, rfl, .inl rfl⟩
  | cons d rest =>
    rw [unescapeFrom]
    split
    · exact ⟨_, _, rfl, .inr rfl⟩
    · split <;> exact ⟨_, _, rfl, .inl rfl⟩

theorem not_all_unescapeFrom_true (hslash : P backslash = false) (hc : P (.char c) = false)
    (t : Text) : (unescapeFrom letter c true t).all P = false := by
  obtain ⟨first, more, ht, rfl | rfl⟩ := exists_unescapeFrom_true letter c t
  · rw [ht, List.all_cons, hslash, Bool.false_and]
  · rw [ht, List.all_cons, hc, Bool.false_and]

/-- **Nothing is changed in secret**: if neither backslashes nor the character for the escape are of
a class, then characters of that class are all that there was. -/
theorem unescape_eq_of_all (hslash : P backslash = false) (hc : P (.char c) = false) {t : Text}
    (h : (unescape letter c t).all P = true) : unescape letter c t = t := by
  rw [unescape] at h ⊢
  induction t with
  | nil => rfl
  | cons d rest ih =>
    rw [unescapeFrom] at h ⊢
    split at h
    · rw [not_all_unescapeFrom_true hslash hc] at h
      exact absurd h Bool.false_ne_true
    · rename_i hd
      rw [List.all_cons, Bool.and_eq_true] at h
      rw [if_neg hd, ih h.2]

end Unescape

/-! ## Escapes that are left -/

/-- No backslash stands in front of the letter. -/
def Escapeless (letter : Char) (t : Text) : Prop :=
  t.IsChain fun a b => ¬(a = backslash ∧ b = .char letter)

/-- The backslash that has been read and not been written. -/
def heldSlash (isHeld : Bool) : Text := if isHeld then [backslash] else []

namespace Escapeless

variable {letter other c : Char} {d : CodePoint} {t : Text}

theorem of_forall_ne (h : ∀ d ∈ t, d ≠ backslash) : Escapeless letter t := by
  induction t with
  | nil => exact .nil
  | cons d rest ih =>
    refine .cons (ih fun e he => h e (List.mem_cons_of_mem d he)) fun _ _ hslash => ?_
    exact h d List.mem_cons_self hslash.1

theorem cons_of_ne (hd : d ≠ backslash) (h : Escapeless letter t) : Escapeless letter (d :: t) :=
  List.IsChain.cons h fun _ _ hslash => hd hslash.1

theorem tail (h : Escapeless letter (d :: t)) : Escapeless letter t := List.IsChain.tail h

theorem ne_of_slash (h : Escapeless letter (backslash :: d :: t)) : d ≠ .char letter :=
  fun hd => (List.isChain_cons_cons.1 h).1 ⟨rfl, hd⟩

theorem unescapeFrom_eq (isHeld : Bool) (h : Escapeless letter (heldSlash isHeld ++ t)) :
    unescapeFrom letter c isHeld t = heldSlash isHeld ++ t := by
  induction t generalizing isHeld with
  | nil => cases isHeld <;> rfl
  | cons d rest ih =>
    by_cases hd : d = backslash
    · subst hd
      cases isHeld with
      | false => exact ih true h
      | true =>
        rw [unescapeFrom, if_neg (mt beq_iff_eq.1 h.ne_of_slash), if_pos (beq_self_eq_true _)]
        exact congrArg (backslash :: ·) (ih true h.tail)
    · cases isHeld with
      | false =>
        rw [unescapeFrom, if_neg (mt beq_iff_eq.1 hd)]
        exact congrArg (d :: ·) (ih false h.tail)
      | true =>
        rw [unescapeFrom, if_neg (mt beq_iff_eq.1 h.ne_of_slash), if_neg (mt beq_iff_eq.1 hd)]
        exact congrArg (backslash :: d :: ·) (ih false h.tail.tail)

/-- **Without escapes nothing is changed.** -/
theorem unescape_eq (h : Escapeless letter t) : JumpLint.unescape letter c t = t :=
  unescapeFrom_eq false h

/-- What is written has no backslash in front of `other`, if all such places were escapes, or if
there were none. -/
theorem unescapeFrom (hslash : other ≠ '\\') (hc : c ≠ '\\') (hne : c ≠ other) (isHeld : Bool)
    (h : other = letter ∨ Escapeless other (heldSlash isHeld ++ t)) :
    Escapeless other (JumpLint.unescapeFrom letter c isHeld t) := by
  have hc : CodePoint.char c ≠ backslash := mt CodePoint.char.inj hc
  induction t generalizing isHeld with
  | nil =>
    cases isHeld with
    | false => exact .nil
    | true => exact .singleton _
  | cons d rest ih =>
    by_cases hd : d = backslash
    · subst hd
      cases isHeld with
      | false => exact ih true h
      | true =>
        rw [JumpLint.unescapeFrom]
        split
        · exact cons_of_ne hc (ih false (h.imp_right fun h => h.tail.tail))
        · obtain ⟨first, more, hmore, hfirst⟩ := exists_unescapeFrom_true letter c rest
          have hrest := ih true (h.imp_right tail)
          rw [hmore] at hrest
          rw [if_pos (beq_self_eq_true _), hmore]
          refine List.isChain_cons_cons.2 ⟨fun hescape => ?_, hrest⟩
          rcases hfirst with rfl | rfl
          · exact hslash (CodePoint.char.inj hescape.2).symm
          · exact hne (CodePoint.char.inj hescape.2)
    · cases isHeld with
      | false =>
        rw [JumpLint.unescapeFrom, if_neg (mt beq_iff_eq.1 hd)]
        exact cons_of_ne hd (ih false (h.imp_right tail))
      | true =>
        have hrest := ih false (h.imp_right fun h => h.tail.tail)
        rw [JumpLint.unescapeFrom]
        split
        · exact cons_of_ne hc hrest
        · rename_i hletter
          rw [if_neg (mt beq_iff_eq.1 hd)]
          refine List.isChain_cons_cons.2 ⟨fun hescape => ?_, cons_of_ne hd hrest⟩
          rcases h with rfl | h
          · exact hletter (beq_iff_eq.2 hescape.2)
          · exact h.ne_of_slash hescape.2

/-- Writing a character for other escapes makes no new ones. -/
theorem unescape (hslash : other ≠ '\\') (hc : c ≠ '\\') (hne : c ≠ other)
    (h : Escapeless other t) : Escapeless other (JumpLint.unescape letter c t) :=
  unescapeFrom hslash hc hne false (.inr h)

end Escapeless

/-- **All escapes are written**, and what stands around them does not become one. -/
theorem escapeless_unescape {letter c : Char} (hslash : letter ≠ '\\') (hc : c ≠ '\\')
    (hne : c ≠ letter) (t : Text) : Escapeless letter (unescape letter c t) :=
  Escapeless.unescapeFrom hslash hc hne false (.inl rfl)

/-! ## Looking up a template -/

/-- A text that stands for itself as a template: it is no number, and has no escapes for line feeds
and tabs. -/
structure IsFinal (template : Text) : Prop where
  not_isNumeral : Text.isNumeral template = false
  feeds : Escapeless 'n' template
  tabs : Escapeless 't' template

namespace Verbosity

variable {v : Verbosity} {template : Text}

/-- A text that is no number is a template. -/
theorem resolve_of_not_isNumeral {t : Text} (h : Text.isNumeral t = false) :
    (Verbosity.text t).resolve = .ok (unescape 't' '\t' (unescape 'n' '\n' t)) := by
  rw [resolve, h]
  rfl

theorem resolve_of_isFinal (h : IsFinal template) :
    (Verbosity.text template).resolve = .ok template := by
  rw [resolve_of_not_isNumeral h.not_isNumeral, h.feeds.unescape_eq, h.tabs.unescape_eq]

/-- What comes of a text that is no number is no number. -/
theorem isNumeral_unescape {t : Text} (h : Text.isNumeral t = false) :
    Text.isNumeral (unescape 't' '\t' (unescape 'n' '\n' t)) = false := by
  refine Bool.eq_false_iff.2 fun hnumeral => ?_
  have hall : (unescape 't' '\t' (unescape 'n' '\n' t)).all _ = true :=
    (Bool.and_eq_true_iff.1 hnumeral).2
  have htabs : unescape 't' '\t' (unescape 'n' '\n' t) = unescape 'n' '\n' t :=
    unescape_eq_of_all (by decide) (by decide) hall
  rw [htabs] at hall hnumeral
  have hfeeds : unescape 'n' '\n' t = t := unescape_eq_of_all (by decide) (by decide) hall
  rw [hfeeds, h] at hnumeral
  exact absurd hnumeral Bool.false_ne_true

theorem isFinal_unescape {t : Text} (h : Text.isNumeral t = false) :
    IsFinal (unescape 't' '\t' (unescape 'n' '\n' t)) where
  not_isNumeral := isNumeral_unescape h
  feeds := (escapeless_unescape (by decide) (by decide) (by decide) t).unescape (by decide)
    (by decide) (by decide)
  tabs := escapeless_unescape (by decide) (by decide) (by decide) _

/-- No numbered template is a number itself, and none has a backslash in it. -/
theorem isFinal_of_mem_templates {entry : Int × String} (h : entry ∈ templates) :
    IsFinal (.ofString entry.2) := by
  have hnumeral : ∀ entry ∈ templates, Text.isNumeral (.ofString entry.2) = false := by
    decide +kernel
  have hslash : ∀ entry ∈ templates, (Text.ofString entry.2).all (· != backslash) = true := by
    decide +kernel
  have hplain : ∀ d ∈ Text.ofString entry.2, d ≠ backslash :=
    fun d hd => bne_iff_ne.1 (List.all_eq_true.1 (hslash entry h) d hd)
  constructor
  · exact hnumeral entry h
  · exact .of_forall_ne hplain
  · exact .of_forall_ne hplain

theorem isFinal_templateOf {n : Int} (h : templateOf n = .ok template) : IsFinal template := by
  rw [templateOf] at h
  split at h
  · rename_i found hfound
    cases h
    obtain ⟨l, r, hl, -⟩ := List.lookup_eq_some_iff.1 hfound
    have hmem : (n, found) ∈ templates := by rw [hl]; simp
    exact isFinal_of_mem_templates hmem
  · cases h

/-- **Every template that was found stands for itself.** -/
theorem isFinal_of_resolve (h : v.resolve = .ok template) : IsFinal template := by
  cases v with
  | default =>
    rw [resolve] at h
    exact isFinal_templateOf h
  | level n => exact isFinal_templateOf h
  | text t =>
    rw [resolve] at h
    split at h
    · split at h
      · exact isFinal_templateOf h
      · cases h
    · rename_i ht
      cases h
      exact isFinal_unescape (Bool.eq_false_iff.2 ht)

/-- **A template that was found is found again** when it is asked for as a text. -/
theorem resolve_of_resolve (h : v.resolve = .ok template) :
    (Verbosity.text template).resolve = .ok template :=
  resolve_of_isFinal (isFinal_of_resolve h)

end Verbosity

/-- Violations in a row are shown by the template that is found, unless one of them cannot be. -/
theorem formatAll_eq_of_resolve {v : Verbosity} {template : Text} (h : v.resolve = .ok template)
    (violations : List Violation) :
    formatAll violations v =
      ((violations.mapM fun w : Violation => w.format template).mapError .number).map
        Text.join := by
  rw [formatAll, h]
  change (do
    let shown ← (violations.mapM fun w : Violation => w.format template).mapError _
    Except.ok (Text.join shown)) = _
  cases violations.mapM fun w : Violation => w.format template <;> rfl

end JumpLint

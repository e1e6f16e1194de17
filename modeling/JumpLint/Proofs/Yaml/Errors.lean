import JumpLint.Proofs.Except
import JumpLint.Yaml.Lexer

/-!
# What can be wrong with the tokens of a YAML text

A text is cut into tokens before any scalar has a type.  The lexer finds most faults malformed, but
there are two things that it says in other words: an escape with the number of no character, and a
version number with more digits than are read at all.  Here it is shown that there is nothing else.

## What is here

* `Error.IsUntyped`: the errors of texts in which no scalar has a type.
* `FailsUntyped`, and that each reader of scalars, names and tokens fails in this way.
* `Lexer.failsUntyped_step`, `scan_error`: the same for a step of the lexer and for the tokens of a
  text, which may also end with the fault that is met in the text.
-/

set_option autoImplicit false
namespace JumpLint
namespace Yaml

/-- The errors of texts in which no scalar has a type. -/
inductive Error.IsUntyped : Error → Prop where
  | malformed : IsUntyped .malformed
  | codePoint {code : Nat} (h : 0x10FFFF < code) : IsUntyped (.codePoint code)
  | tooLong {digits : Nat} (h : Number.maxDigits < digits) :
      IsUntyped (.integer (.tooLong digits))

/-- A reader that fails in no other way. -/
abbrev FailsUntyped {α : Type} (x : Except Failure α) : Prop :=
  FailsOnly (fun failure => failure.error.IsUntyped) x

namespace Cursor

variable {α : Type}

theorem failsUntyped_fail (c : Cursor) {error : Error} (h : error.IsUntyped) (n : Nat) :
    FailsUntyped (c.fail error n : Except Failure α) :=
  .error h

theorem failsUntyped_malformedAt (c : Cursor) (k : Nat) :
    FailsUntyped (c.malformedAt k : Except Failure α) :=
  c.failsUntyped_fail .malformed _

theorem failsUntyped_malformed (c : Cursor) : FailsUntyped (c.malformed : Except Failure α) :=
  c.failsUntyped_malformedAt 0

end Cursor

open Cursor

/-! ## Scalars -/

namespace ScalarText

theorem failsUntyped_quotedBreaks (fuel : Nat) (breaks : List Char) (c : Cursor) :
    FailsUntyped (quotedBreaks fuel breaks c) := by
  induction fuel generalizing breaks c with
  | zero => exact .ok _
  | succ fuel ih =>
    rw [quotedBreaks]
    dsimp only
    split
    · exact failsUntyped_malformed _
    · split
      · exact ih _ _
      · exact .ok _

theorem failsUntyped_quotedEscape (spelled : Text.Spelled) (c : Cursor) :
    FailsUntyped (quotedEscape spelled c) := by
  rw [quotedEscape]
  split
  · exact .ok _
  · dsimp only
    split
    · split
      · exact failsUntyped_malformedAt _ _
      · split
        · rename_i hcode
          exact failsUntyped_fail _ (.codePoint hcode) _
        · exact .ok _
    · exact failsUntyped_malformed _
  · split
    · exact .bind (failsUntyped_quotedBreaks _ _ _) fun _ => .ok _
    · exact failsUntyped_malformed _

theorem failsUntyped_quotedFrom (double : Bool) (fuel : Nat) (spelled : Text.Spelled)
    (c : Cursor) : FailsUntyped (quotedFrom double fuel spelled c) := by
  induction fuel generalizing spelled c with
  | zero => exact failsUntyped_malformed _
  | succ fuel ih =>
    rw [quotedFrom]
    dsimp only
    split
    · split
      · exact ih _ _
      · exact .ok _
    · split
      · exact .ok _
      · split
        · exact .bind (failsUntyped_quotedEscape _ _) fun _ => ih _ _
        · split
          · split
            · exact failsUntyped_malformed _
            · split
              · exact .bind (failsUntyped_quotedBreaks _ _ _) fun _ => ih _ _
              · exact ih _ _
          · exact ih _ _

theorem failsUntyped_quoted (double : Bool) (c : Cursor) : FailsUntyped (quoted double c) :=
  failsUntyped_quotedFrom _ _ _ _

theorem failsUntyped_increment? (c : Cursor) : FailsUntyped (increment? c) := by
  rw [increment?]
  split
  · exact failsUntyped_malformed _
  · split <;> exact .ok _

theorem failsUntyped_blockHeader (c : Cursor) : FailsUntyped (blockHeader c) := by
  have hend : ∀ header : Chomping × Option Nat × Cursor, FailsUntyped
      (if isSpaceOrEnd header.2.2.current then .ok (header.1, header.2.1, header.2.2)
      else header.2.2.malformed : Except Failure (Chomping × Option Nat × Cursor)) := by
    intro header
    split
    · exact .ok _
    · exact failsUntyped_malformed _
  rw [blockHeader]
  split
  · refine .bind (failsUntyped_increment? _) fun increment => ?_
    split <;> exact .bind (.ok _) hend
  · refine .bind (failsUntyped_increment? _) fun increment => ?_
    split
    · dsimp only
      split <;> exact .bind (.ok _) hend
    · exact .bind (.ok _) hend

theorem failsUntyped_ignoredLine (c : Cursor) : FailsUntyped (ignoredLine c) := by
  unfold ignoredLine
  extract_lets c c
  split
  · exact .ok _
  · exact failsUntyped_malformed _

theorem failsUntyped_block (folds : Bool) (parent : Int) (c : Cursor) :
    FailsUntyped (block folds parent c) := by
  rw [block]
  refine .bind (failsUntyped_blockHeader _) fun header => ?_
  refine .bind (failsUntyped_ignoredLine _) fun c => ?_
  extract_lets least fuel
  split
  split
  · exact .ok _
  · split <;> exact .ok _

end ScalarText

/-! ## Names, tags and directives -/

namespace Lexer

theorem failsUntyped_escapedBytes (fuel : Nat) (c : Cursor) :
    FailsUntyped (escapedBytes fuel c) := by
  induction fuel generalizing c with
  | zero => exact .ok _
  | succ fuel ih =>
    rw [escapedBytes]
    split
    · split
      · exact .bind (ih _) fun _ => .ok _
      · exact failsUntyped_malformedAt _ _
      · exact failsUntyped_malformedAt _ _
    · exact .ok _

theorem failsUntyped_tagFrom (fuel : Nat) (text : List Char) (c : Cursor) :
    FailsUntyped (tagFrom fuel text c) := by
  induction fuel generalizing text c with
  | zero => exact .ok _
  | succ fuel ih =>
    rw [tagFrom]
    split
    · refine .bind (failsUntyped_escapedBytes _ _) ?_
      rintro ⟨bytes, c⟩
      dsimp only
      split
      · exact ih _ _
      · exact failsUntyped_malformed _
    · split
      · exact ih _ _
      · exact .ok _

theorem failsUntyped_tagText (c : Cursor) : FailsUntyped (tagText c) := by
  rw [tagText]
  refine .bind (failsUntyped_tagFrom _ _ _) fun text => ?_
  dsimp only
  split
  · exact failsUntyped_malformed _
  · exact .ok _

theorem failsUntyped_tagHandle (c : Cursor) : FailsUntyped (tagHandle c) := by
  rw [tagHandle]
  split
  · exact failsUntyped_malformed _
  · split
    · exact .ok _
    · dsimp only
      split
      · exact .ok _
      · exact failsUntyped_malformed _

theorem failsUntyped_versionNumber (c : Cursor) : FailsUntyped (versionNumber c) := by
  rw [versionNumber]
  dsimp only
  split
  · exact failsUntyped_malformed _
  · split
    · rename_i hlong
      exact failsUntyped_fail _ (.tooLong hlong) _
    · exact .ok _

theorem failsUntyped_directive (c : Cursor) : FailsUntyped (directive c) := by
  have hend : ∀ read : Token × Cursor, FailsUntyped (do
      let c ← ScalarText.ignoredLine read.2
      .ok (read.1, c)) :=
    fun read => .bind (ScalarText.failsUntyped_ignoredLine _) fun _ => .ok _
  rw [directive]
  dsimp only
  split
  · exact failsUntyped_malformed _
  · split
    · refine .bind (failsUntyped_versionNumber _) fun major => ?_
      split
      · exact .bind (failsUntyped_malformed _) hend
      · refine .bind (failsUntyped_versionNumber _) fun minor => ?_
        split
        · exact .bind (.ok _) hend
        · exact .bind (failsUntyped_malformed _) hend
    · split
      · refine .bind (failsUntyped_tagHandle _) fun handle => ?_
        split
        · exact .bind (failsUntyped_malformed _) hend
        · refine .bind (failsUntyped_tagText _) fun expansion => ?_
          split
          · exact .bind (.ok _) hend
          · exact .bind (failsUntyped_malformed _) hend
      · exact .bind (.ok _) hend

theorem failsUntyped_anchorName (c : Cursor) : FailsUntyped (anchorName c) := by
  rw [anchorName]
  dsimp only
  split
  · exact failsUntyped_malformed _
  · exact .ok _

theorem failsUntyped_tag (c : Cursor) : FailsUntyped (tag c) := by
  have hend : ∀ read : Token × Cursor, FailsUntyped
      (if isSpaceOrEnd read.2.current then .ok (read.1, read.2) else read.2.malformed :
        Except Failure (Token × Cursor)) := by
    intro read
    split
    · exact .ok _
    · exact failsUntyped_malformed _
  rw [tag]
  split
  · refine .bind (failsUntyped_tagText _) fun suffix => ?_
    dsimp only
    split
    · exact .bind (failsUntyped_malformed _) hend
    · exact .bind (.ok _) hend
  · split
    · exact .bind (.ok _) hend
    · dsimp only
      split
      · exact .bind (failsUntyped_tagHandle _) fun _ =>
          .bind (failsUntyped_tagText _) fun _ => .bind (.ok _) hend
      · exact .bind (failsUntyped_tagText _) fun _ => .bind (.ok _) hend

/-! ## Tokens -/

theorem failsUntyped_dropPlace (l : Lexer) : FailsUntyped l.dropPlace := by
  rw [dropPlace]
  split
  · split
    · exact failsUntyped_malformed _
    · exact .ok _
  · exact .ok _

theorem failsUntyped_dropStale (l : Lexer) : FailsUntyped l.dropStale := by
  rw [dropStale]
  split
  · exact failsUntyped_malformed _
  · exact .ok _

theorem failsUntyped_markPlace (l : Lexer) : FailsUntyped l.markPlace := by
  rw [markPlace]
  split
  · exact .bind (failsUntyped_dropPlace _) fun _ => .ok _
  · exact .ok _

theorem failsUntyped_closeText (l : Lexer) : FailsUntyped l.closeText :=
  .bind (failsUntyped_dropPlace _) fun _ => .ok _

theorem failsUntyped_addDirective (l : Lexer) : FailsUntyped l.addDirective :=
  .bind (failsUntyped_dropPlace _) fun _ => .bind (failsUntyped_directive _) fun _ => .ok _

theorem failsUntyped_addMark (l : Lexer) (token : Token) : FailsUntyped (l.addMark token) :=
  .bind (failsUntyped_dropPlace _) fun _ => .ok _

theorem failsUntyped_openFlow (l : Lexer) (token : Token) : FailsUntyped (l.openFlow token) :=
  .bind (failsUntyped_markPlace _) fun _ => .ok _

theorem failsUntyped_closeFlow (l : Lexer) (token : Token) : FailsUntyped (l.closeFlow token) :=
  .bind (failsUntyped_dropPlace _) fun _ => .ok _

theorem failsUntyped_addFlowEntry (l : Lexer) : FailsUntyped l.addFlowEntry :=
  .bind (failsUntyped_dropPlace _) fun _ => .ok _

theorem failsUntyped_addBlockEntry (l : Lexer) : FailsUntyped l.addBlockEntry := by
  have hend : ∀ l : Lexer, FailsUntyped (do
      let l ← { l with keyAllowed := true }.dropPlace
      .ok (l.emitOver .blockEntry 1)) :=
    fun l => .bind (failsUntyped_dropPlace _) fun _ => .ok _
  rw [addBlockEntry]
  split
  · exact .bind (.ok _) hend
  · split
    · exact .bind (failsUntyped_malformed _) hend
    · exact .bind (.ok _) hend

theorem failsUntyped_addKey (l : Lexer) : FailsUntyped l.addKey := by
  have hend : ∀ l : Lexer, FailsUntyped (do
      let l ← { l with keyAllowed := !l.inFlow }.dropPlace
      .ok (l.emitOver .key 1)) :=
    fun l => .bind (failsUntyped_dropPlace _) fun _ => .ok _
  rw [addKey]
  split
  · exact .bind (.ok _) hend
  · split
    · exact .bind (failsUntyped_malformed _) hend
    · exact .bind (.ok _) hend

theorem failsUntyped_addValue (l : Lexer) : FailsUntyped l.addValue := by
  rw [addValue]
  split
  · exact .ok _
  · split
    · exact failsUntyped_malformed _
    · exact .bind (failsUntyped_dropPlace _) fun _ => .ok _

theorem failsUntyped_addProperty (l : Lexer) {read : Cursor → Except Failure (Token × Cursor)}
    (h : ∀ c, FailsUntyped (read c)) : FailsUntyped (l.addProperty read) :=
  .bind (failsUntyped_markPlace _) fun _ => .bind (h _) fun _ => .ok _

theorem failsUntyped_addBlock (l : Lexer) (folds : Bool) : FailsUntyped (l.addBlock folds) :=
  .bind (failsUntyped_dropPlace _) fun _ =>
    .bind (ScalarText.failsUntyped_block _ _ _) fun _ => .ok _

theorem failsUntyped_addQuoted (l : Lexer) (double : Bool) : FailsUntyped (l.addQuoted double) :=
  .bind (failsUntyped_markPlace _) fun _ =>
    .bind (ScalarText.failsUntyped_quoted _ _) fun _ => .ok _

theorem failsUntyped_addPlain (l : Lexer) : FailsUntyped l.addPlain :=
  .bind (failsUntyped_markPlace _) fun _ => .ok _

/-- **One step** of the lexer, whatever it reads. -/
theorem failsUntyped_step (l : Lexer) : FailsUntyped l.step := by
  have hname : ∀ (token : String → Token) (c : Cursor), FailsUntyped (do
      let read ← anchorName c
      .ok (token read.1, read.2)) :=
    fun token c => .bind (failsUntyped_anchorName _) fun _ => .ok _
  refine .bind (failsUntyped_dropStale _) fun l => .bind (failsUntyped_dropStale _) fun l => ?_
  refine .ite (failsUntyped_closeText _) ?_
  refine .ite (failsUntyped_addDirective _) ?_
  refine .ite (failsUntyped_addMark _ _) (.ite (failsUntyped_addMark _ _) ?_)
  refine .ite (failsUntyped_openFlow _ _) (.ite (failsUntyped_openFlow _ _) ?_)
  refine .ite (failsUntyped_closeFlow _ _) (.ite (failsUntyped_closeFlow _ _) ?_)
  refine .ite (failsUntyped_addFlowEntry _) ?_
  refine .ite (failsUntyped_addBlockEntry _) ?_
  refine .ite (failsUntyped_addKey _) ?_
  refine .ite (failsUntyped_addValue _) ?_
  refine .ite (failsUntyped_addProperty _ (hname .alias)) ?_
  refine .ite (failsUntyped_addProperty _ (hname .anchor)) ?_
  refine .ite (failsUntyped_addProperty _ failsUntyped_tag) ?_
  refine .ite (failsUntyped_addBlock _ _) (.ite (failsUntyped_addBlock _ _) ?_)
  refine .ite (failsUntyped_addQuoted _ _) (.ite (failsUntyped_addQuoted _ _) ?_)
  exact .ite (failsUntyped_addPlain _) (failsUntyped_malformedAt _ _)

end Lexer

/-! ## Texts -/

/-- The lexer stops with an error of its own or with the fault of the text. -/
theorem scanFrom_error {fault? : Option Error} (fuel : Nat) (l : Lexer) {e : Error}
    (h : (scanFrom fault? fuel l).error? = some e) : e.IsUntyped ∨ fault? = some e := by
  induction fuel generalizing l with
  | zero =>
    cases h
    exact .inl .malformed
  | succ fuel ih =>
    rw [scanFrom.eq_def] at h
    dsimp only at h
    split at h
    · rename_i failure hstep
      cases h
      exact .inl (l.failsUntyped_step _ hstep)
    · rename_i failure fault hstep
      cases h
      split
      · exact .inr rfl
      · exact .inl (l.failsUntyped_step _ hstep)
    · split at h
      · exact .inr h
      · exact ih _ h
    · split at h
      · cases h
      · exact ih _ h

/-- **The tokens of a text** end with an error of the lexer or the fault of the text, if they do. -/
theorem scan_error {supply : Supply} {e : Error} (h : (scan supply).error? = some e) :
    e.IsUntyped ∨ supply.fault? = some e :=
  scanFrom_error _ _ h

/-- A text that is looked through at once is malformed if there is a fault in it. -/
theorem isUntyped_of_ofText {s : List Char} {e : Error}
    (h : (Supply.ofText s).fault? = some e) : e.IsUntyped := by
  rw [Supply.ofText] at h
  split at h
  · cases h
  · cases h
    exact .malformed

end Yaml
end JumpLint

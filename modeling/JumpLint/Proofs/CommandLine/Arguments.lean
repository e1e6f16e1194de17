import JumpLint.CommandLine.Arguments
import JumpLint.Proofs.Except
import Mathlib.Data.List.Basic

/-!
# Options in front of paths

Arguments are read from left to right, and what stands in a row without an option between is taken
for paths.  Here it is shown that options which can be read by themselves mean the same in front of
any paths, so that a command may be given more paths without a change to what is done with each.

## What is here

* `Request.IsAskedBy`: options that ask for a request and name no paths; `IsPathRow`: words that are
  taken for paths.
* `Reading.read_append`: reading options, and then other words.
* `Request.ofArguments_append`: what options and paths ask for.  `Request.ofArguments_append_nil`:
  options without paths ask for nothing.
-/

set_option autoImplicit false
namespace JumpLint
namespace CommandLine

/-! ## Reading -/

/-- A word that may stand in a row of paths. -/
def Word.IsInRow : Word → Prop
  | .plain _ | .dashes => True
  | .option .. | .unknown _ => False

namespace Reading

/-- Nothing but options has been read so far. -/
structure IsBare (r : Reading) : Prop where
  hasTrees : r.hasTrees = false
  extras : r.extras = []

/-- A row leaves a trace, so if there is none there was no row. -/
theorem IsBare.of_endRow {r : Reading} {row : List Word} (h : (r.endRow row).IsBare) :
    row = [] ∧ r.IsBare ∧ r.endRow row = r := by
  obtain ⟨htrees, hextras⟩ := h
  rw [endRow] at htrees hextras ⊢
  split at htrees
  · cases htrees
  · rename_i hrow
    rw [if_neg hrow] at hextras ⊢
    obtain ⟨hbefore, hwords⟩ := List.append_eq_nil_iff.1 hextras
    obtain rfl := List.map_eq_nil_iff.1 hwords
    exact ⟨rfl, ⟨htrees, hbefore⟩, by simp⟩

theorem IsBare.of_setValue {r s : Reading} {flag : Flag} {value : Text}
    (hs : r.setValue flag value = .ok s) (h : s.IsBare) : r.IsBare := by
  obtain ⟨htrees, hextras⟩ := h
  cases flag with
  | severity =>
    rw [setValue] at hs
    cases hparse : Severity.parse value with
    | error => simp [hparse] at hs
    | ok severity =>
      simp only [hparse, Except.ok.injEq] at hs
      subst hs
      exact ⟨htrees, hextras⟩
  | profile | theme | verbose =>
    cases hs
    exact ⟨htrees, hextras⟩
  | help | statistics | debug => cases hs

theorem IsBare.of_set {r s : Reading} {flag : Flag} (hs : r.set flag = .ok s) (h : s.IsBare) :
    r.IsBare := by
  obtain ⟨htrees, hextras⟩ := h
  cases flag with
  | statistics | debug =>
    cases hs
    exact ⟨htrees, hextras⟩
  | help | profile | severity | theme | verbose => cases hs

/-- A row of words is read as one. -/
theorem read_row (r : Reading) (row : List Word) {more : List Word}
    (h : ∀ w ∈ more, w.IsInRow) : r.read row more = .ok (r.endRow (row ++ more)) := by
  induction more generalizing row with
  | nil => rw [read, List.append_nil]
  | cons w rest ih =>
    have hrest := ih (row ++ [w]) fun x hx => h x (List.mem_cons_of_mem w hx)
    rw [List.append_assoc, List.singleton_append] at hrest
    cases w with
    | plain text => rw [read, hrest]
    | dashes => rw [read, hrest]
    | option | unknown => exact (h _ List.mem_cons_self).elim

theorem IsBare.of_beforeOption {r : Reading} {row : List Word}
    (h : (if row.isEmpty then r else r.endRow row).IsBare) : row = [] ∧ r.IsBare := by
  cases row with
  | nil => exact ⟨rfl, h⟩
  | cons w rest => exact ⟨h.of_endRow.1, h.of_endRow.2.1⟩

/-- An option that has no value is read whatever stands behind it. -/
theorem read_flag {r : Reading} {row : List Word} {flag : Flag} {isShort : Bool}
    (h : (!flag.hasValue) = true) (rest : List Word) :
    r.read row (.option flag none isShort :: rest) =
      (if row.isEmpty then r else r.endRow row).set flag >>= fun s => s.read [] rest := by
  rw [read.eq_def]
  exact if_pos h

/-- **Options and then other words**: what is read of the options by themselves is where the others
begin.  Among the options there is no row and no word without a meaning, since either leaves a
trace. -/
theorem read_append {r s : Reading} {row words : List Word} (h : r.read row words = .ok s)
    (hs : s.IsBare) (more : List Word) :
    (row = [] ∧ r.IsBare) ∧ .dashes ∉ words ∧ r.read row (words ++ more) = s.read [] more := by
  fun_induction Reading.read r row words with
  | case1 r row =>
    cases h
    obtain ⟨rfl, hr, hend⟩ := hs.of_endRow
    rw [hend, List.nil_append]
    exact ⟨⟨rfl, hr⟩, List.not_mem_nil, rfl⟩
  | case2 r row text rest ih =>
    obtain ⟨⟨hrow, -⟩, -⟩ := ih h
    exact absurd hrow (List.concat_ne_nil _ _)
  | case3 r row rest ih =>
    obtain ⟨⟨hrow, -⟩, -⟩ := ih h
    exact absurd hrow (List.concat_ne_nil _ _)
  | case4 r row text rest before ih =>
    obtain ⟨⟨-, hbare⟩, -⟩ := ih h
    exact absurd hbare.extras (List.concat_ne_nil _ _)
  | case5 => cases h
  | case6 r row flag value isShort rest hshort ih =>
    obtain ⟨t, hset, hrest⟩ := bind_eq_ok_iff.1 h
    obtain ⟨⟨-, ht⟩, hdashes, hread⟩ := ih t hrest
    refine ⟨(ht.of_setValue hset).of_beforeOption, by simpa using hdashes, ?_⟩
    rw [List.cons_append, read, if_neg hshort, hset]
    exact hread
  | case7 r row flag isShort rest before hvalue ih =>
    obtain ⟨t, hset, hrest⟩ := bind_eq_ok_iff.1 h
    obtain ⟨⟨-, ht⟩, hdashes, hread⟩ := ih t hrest
    refine ⟨(ht.of_set hset).of_beforeOption, by simpa using hdashes, ?_⟩
    rw [List.cons_append, read_flag hvalue, hset]
    exact hread
  | case8 r row flag isShort before hvalue value rest ih =>
    obtain ⟨t, hset, hrest⟩ := bind_eq_ok_iff.1 h
    obtain ⟨⟨-, ht⟩, hdashes, hread⟩ := ih t hrest
    refine ⟨(ht.of_setValue hset).of_beforeOption, by simpa using hdashes, ?_⟩
    rw [List.cons_append, List.cons_append, read, if_neg hvalue, hset]
    exact hread
  | case9 => cases h

end Reading

/-! ## Words -/

theorem Word.ofTexts_append {flags : List Text} {words : List Word}
    (h : Word.ofTexts flags = .ok words) (hdashes : .dashes ∉ words) (more : List Text) :
    Word.ofTexts (flags ++ more) = (Word.ofTexts more).map (words ++ ·) := by
  induction flags generalizing words with
  | nil =>
    cases h
    cases hmore : Word.ofTexts more <;> simp [Except.map, hmore]
  | cons text rest ih =>
    rw [ofTexts] at h
    split at h
    · cases h
      exact absurd List.mem_cons_self hdashes
    · rename_i htext
      obtain ⟨word, hword, hothers⟩ := bind_eq_ok_iff.1 h
      obtain ⟨others, hrest, hwords⟩ := bind_eq_ok_iff.1 hothers
      cases hwords
      rw [List.cons_append, ofTexts, if_neg htext, hword,
        ih hrest fun hmem => hdashes (List.mem_cons_of_mem word hmem)]
      cases Word.ofTexts more <;> rfl

theorem Word.ofTexts_plain {words : List Text}
    (h : ∀ w ∈ words, w ≠ twoDashes ∧ Word.ofText w = .ok (.plain w)) :
    Word.ofTexts words = .ok (words.map .plain) := by
  induction words with
  | nil => rfl
  | cons w rest ih =>
    obtain ⟨hdashes, hplain⟩ := h w List.mem_cons_self
    rw [ofTexts, if_neg (by simpa using hdashes), hplain,
      ih fun x hx => h x (List.mem_cons_of_mem w hx)]
    rfl

/-- Words that are taken for paths: words that do not look like options, or two dashes and any words
behind them. -/
inductive IsPathRow : List Text → List Path → Prop
  | plain (words : List Text) (h : ∀ w ∈ words, w ≠ twoDashes ∧ Word.ofText w = .ok (.plain w)) :
    IsPathRow words (words.map Path.ofText)
  | dashed (words : List Text) : IsPathRow (twoDashes :: words) (words.map Path.ofText)

theorem IsPathRow.exists_row {words : List Text} {trees : List Path} (h : IsPathRow words trees) :
    ∃ (names : List Text) (row : List Word), trees = names.map Path.ofText ∧
      Word.ofTexts words = .ok row ∧
        (row = names.map .plain ∨ row = .dashes :: names.map .plain) := by
  cases h with
  | plain _ hplain => exact ⟨words, _, rfl, Word.ofTexts_plain hplain, .inl rfl⟩
  | dashed names => exact ⟨names, _, rfl, rfl, .inr rfl⟩

/-! ## Requests -/

/-- A request with paths in place of its own. -/
def Request.on (request : Request) (trees : List Path) : Request := { request with trees := trees }

/-- Options that ask for a request and name no paths. -/
def Request.IsAskedBy (request : Request) (flags : List Text) : Prop :=
  ∃ words, Word.ofTexts flags = .ok words ∧
    Reading.start.read [] words = .ok ⟨request, false, []⟩

/-- The first row is the row of paths. -/
theorem Reading.endRow_names {request : Request} {names : List Text} {row : List Word}
    (hrow : row = names.map .plain ∨ row = .dashes :: names.map .plain) (hne : names ≠ []) :
    Reading.endRow ⟨request, false, []⟩ row =
      ⟨request.on (names.map Path.ofText), true, []⟩ := by
  obtain ⟨name, more, rfl⟩ := List.exists_cons_of_ne_nil hne
  have herase : row.erase .dashes = (name :: more).map .plain := by
    rcases hrow with rfl | rfl
    · refine List.erase_of_not_mem fun hmem => ?_
      obtain ⟨_, -, hplain⟩ := List.mem_map.1 hmem
      cases hplain
    · exact List.erase_cons_head _ _
  have hpaths : (row.erase .dashes).map (fun w => Path.ofText w.text) =
      (name :: more).map Path.ofText := by
    rw [herase, List.map_map]
    rfl
  rw [endRow]
  simp only [hpaths]
  rcases hrow with rfl | rfl <;> rfl

/-- **Options ask for the same in front of any paths.** -/
theorem Request.ofArguments_append {request : Request} {flags words : List Text}
    {trees : List Path} (hflags : request.IsAskedBy flags) (hrow : IsPathRow words trees)
    (hne : trees ≠ []) : Request.ofArguments (flags ++ words) = .ok (request.on trees) := by
  obtain ⟨before, hbefore, hread⟩ := hflags
  obtain ⟨names, row, rfl, hwords, hnames⟩ := hrow.exists_row
  have hin : ∀ w ∈ row, w.IsInRow := by
    rcases hnames with rfl | rfl <;> simp [Word.IsInRow]
  obtain ⟨-, hdashes, hall⟩ := Reading.read_append hread ⟨rfl, rfl⟩ row
  rw [Reading.read_row _ [] hin, List.nil_append] at hall
  rw [ofArguments, Word.ofTexts_append hbefore hdashes, hwords]
  refine bind_eq_ok_iff.2 ⟨_, rfl, bind_eq_ok_iff.2 ⟨_, hall, ?_⟩⟩
  rw [Reading.endRow_names hnames fun h => hne (congrArg _ h)]
  rfl

/-- Without paths they are refused. -/
theorem Request.ofArguments_append_nil {request : Request} {flags words : List Text}
    (hflags : request.IsAskedBy flags) (hrow : IsPathRow words []) :
    Request.ofArguments (flags ++ words) = .error (.error .noTrees) := by
  obtain ⟨before, hbefore, hread⟩ := hflags
  obtain ⟨names, row, hnil, hwords, hnames⟩ := hrow.exists_row
  obtain rfl := List.map_eq_nil_iff.1 hnil.symm
  obtain ⟨-, hdashes, hall⟩ := Reading.read_append hread ⟨rfl, rfl⟩ row
  rw [ofArguments, Word.ofTexts_append hbefore hdashes, hwords]
  refine bind_eq_error_iff.2 (.inr ⟨_, rfl, bind_eq_error_iff.2 (.inr ?_)⟩)
  rcases hnames with rfl | rfl
  · exact ⟨_, hall, rfl⟩
  · exact ⟨_, hall, rfl⟩

end CommandLine
end JumpLint

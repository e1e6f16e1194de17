import JumpLint.Proofs.Critic.Passage
import JumpLint.Proofs.Dump.RoundTrip
import JumpLint.Proofs.Loading.Trees
import JumpLint.Proofs.Number.Length
import JumpLint.Proofs.Report.Parts
import JumpLint.Proofs.Tree.Token

/-!
# Positions in trees that were loaded

A violation whose line or column has too many digits cannot be shown.  A tree that is built by hand
may hold such a position, but no tree that was loaded does: whole numbers in JSON are refused if
they have too many digits, YAML without types has no numbers, and neither texts nor floating-point
values stand for larger ones.

## What is here

* `Datum.Mentions`, `Datum.IsShort`: the whole numbers in data, and data in which all are short.
* `Json.isShort_read`, `Yaml.isShort_readUntyped`: what is read is such data.
* `Datum.isShort_asInteger`: a field of such data is a short number.
* `Location.IsShort`, `Dump.Node.isShort_toElement`: the positions in elements that are built of it.
* `isPrintable_of_loadDocument`: violations in a document that was loaded can be shown.
-/

set_option autoImplicit false
namespace JumpLint

/-! ## Numbers in data -/

namespace Datum

/-- A whole number stands in data. -/
inductive Mentions (n : Int) : Datum → Prop
  | int : Mentions n (.int n)
  | item {items : List Datum} {d : Datum} (hd : d ∈ items) (h : Mentions n d) :
      Mentions n (.list items)
  | member {items : List Datum} {d : Datum} (hd : d ∈ items) (h : Mentions n d) :
      Mentions n (.set items)
  | first {a b : Datum} (h : Mentions n a) : Mentions n (.pair a b)
  | second {a b : Datum} (h : Mentions n b) : Mentions n (.pair a b)
  | key {entries : List (Datum × Datum)} {e : Datum × Datum} (he : e ∈ entries)
      (h : Mentions n e.1) : Mentions n (.mapping entries)
  | value {entries : List (Datum × Datum)} {e : Datum × Datum} (he : e ∈ entries)
      (h : Mentions n e.2) : Mentions n (.mapping entries)

/-- All whole numbers in data are short. -/
def IsShort (d : Datum) : Prop := ∀ n, d.Mentions n → Number.IsShort n

theorem isShort_null : IsShort .null := fun _ h => nomatch h

theorem isShort_bool (b : Bool) : IsShort (.bool b) := fun _ h => nomatch h

theorem isShort_float (x : Binary64) : IsShort (.float x) := fun _ h => nomatch h

theorem isShort_text (t : Text) : IsShort (.text t) := fun _ h => nomatch h

theorem isShort_int {n : Int} (h : Number.IsShort n) : IsShort (.int n) := by
  rintro _ ⟨⟩
  exact h

theorem isShort_list {items : List Datum} (h : ∀ d ∈ items, d.IsShort) : IsShort (.list items) := by
  intro n hn
  cases hn with
  | item hd hn => exact h _ hd n hn

theorem isShort_mapping {entries : List (Datum × Datum)}
    (h : ∀ e ∈ entries, e.1.IsShort ∧ e.2.IsShort) : IsShort (.mapping entries) := by
  intro n hn
  cases hn with
  | key he hn => exact (h _ he).1 n hn
  | value he hn => exact (h _ he).2 n hn

/-- An entry that is set is the only new one. -/
theorem forall_mem_insert {P : Datum → Prop} {key value : Datum} {entries : List (Datum × Datum)}
    (hkey : P key) (hvalue : P value) (h : ∀ e ∈ entries, P e.1 ∧ P e.2) :
    ∀ e ∈ insert key value entries, P e.1 ∧ P e.2 := by
  induction entries with
  | nil => exact List.forall_mem_singleton.2 ⟨hkey, hvalue⟩
  | cons first rest ih =>
    obtain ⟨hfirst, hrest⟩ := List.forall_mem_cons.1 h
    rw [insert]
    split
    · exact List.forall_mem_cons.2 ⟨⟨hfirst.1, hvalue⟩, hrest⟩
    · exact List.forall_mem_cons.2 ⟨hfirst, ih hrest⟩

theorem isShort_ofEntries {entries : List (Datum × Datum)}
    (h : ∀ e ∈ entries, e.1.IsShort ∧ e.2.IsShort) : IsShort (.ofEntries entries) := by
  have hfold : ∀ found : List (Datum × Datum), (∀ e ∈ found, e.1.IsShort ∧ e.2.IsShort) →
      ∀ e ∈ entries.foldl (fun m e => insert e.1 e.2 m) found, e.1.IsShort ∧ e.2.IsShort := by
    induction entries with
    | nil => exact fun _ => id
    | cons first rest ih =>
      obtain ⟨hfirst, hrest⟩ := List.forall_mem_cons.1 h
      exact fun found hfound => ih hrest _ (forall_mem_insert hfirst.1 hfirst.2 hfound)
  exact isShort_mapping (hfold [] nofun)

end Datum

/-! ## Data that is read -/

namespace Json

/-- A reader of JSON gives data in which all numbers are short. -/
abbrev ReadsShort (x : Except Failure (Read Datum)) : Prop :=
  Gives (fun _ => True) (fun r => r.value.IsShort) x

theorem gives_any {α : Type} (x : Except Failure α) : Gives (fun _ => True) (fun _ => True) x :=
  ⟨fun _ _ => trivial, fun _ _ => trivial⟩

theorem readsShort_readNumber (offset : Nat) (s : List Char) :
    ReadsShort (readNumber offset s) := by
  rw [readNumber.eq_def]
  extract_lets body negative whole afterWhole fraction afterFraction values
  split
  · exact .error trivial
  · split
    · exact .ok (Datum.isShort_float _)
    · split
      · split
        · exact .error trivial
        · rename_i hlength
          refine .ok (Datum.isShort_int ?_)
          have hdigits : ∀ v ∈ values whole, v < 10 := by
            intro v hv
            obtain ⟨c, -, hc⟩ := List.mem_filterMap.1 hv
            exact Number.asciiDigit?_lt hc
          have hcount : (values whole).length ≤ Number.maxDigits :=
            (List.length_filterMap_le _ _).trans (Nat.not_lt.1 hlength)
          have hshort := Number.positional_lt hdigits
          refine Number.isShort_of_lt hcount ?_
          split
          · rwa [Int.natAbs_neg, Int.natAbs_natCast]
          · rwa [Int.natAbs_natCast]
      · exact .ok (Datum.isShort_float _)

theorem readsShort_readAtom (offset : Nat) (s : List Char) : ReadsShort (readAtom offset s) := by
  have hconstants : ∀ entry ∈ constants, entry.2.IsShort := by
    simp [constants, Datum.isShort_null, Datum.isShort_bool, Datum.isShort_float]
  rw [readAtom]
  split
  · rename_i hfind
    exact .ok (hconstants _ (List.mem_of_find?_eq_some hfind))
  · exact readsShort_readNumber offset s

mutual

theorem readsShort_readValue (fuel room offset : Nat) (s : List Char) :
    ReadsShort (readValue fuel room offset s) := by
  cases fuel with
  | zero =>
    rw [readValue]
    exact .error trivial
  | succ fuel =>
    rw [readValue.eq_def]
    dsimp only
    split
    · exact (gives_any _).bind fun text _ => .ok (Datum.isShort_text _)
    · refine (gives_any _).bind fun room _ => ?_
      split
      · exact .ok (Datum.isShort_list nofun)
      · exact (readsShort_readItems fuel room _ _).bind fun items h => .ok (Datum.isShort_list h)
    · refine (gives_any _).bind fun room _ => ?_
      split
      · exact .ok (Datum.isShort_mapping nofun)
      · exact (readsShort_readEntries fuel room _ _).bind fun entries h =>
          .ok (Datum.isShort_ofEntries h)
    · exact readsShort_readAtom _ _

theorem readsShort_readItems (fuel room offset : Nat) (s : List Char) :
    Gives (fun _ => True) (fun r => ∀ d ∈ r.value, d.IsShort) (readItems fuel room offset s) := by
  cases fuel with
  | zero =>
    rw [readItems]
    exact .error trivial
  | succ fuel =>
    rw [readItems]
    refine (readsShort_readValue fuel room _ _).bind fun item hitem => ?_
    dsimp only
    split
    · exact .ok (List.forall_mem_singleton.2 hitem)
    · exact (readsShort_readItems fuel room _ _).bind fun rest hrest =>
        .ok (List.forall_mem_cons.2 ⟨hitem, hrest⟩)
    · exact .error trivial

theorem readsShort_readEntries (fuel room offset : Nat) (s : List Char) :
    Gives (fun _ => True) (fun r => ∀ e ∈ r.value, e.1.IsShort ∧ e.2.IsShort)
      (readEntries fuel room offset s) := by
  cases fuel with
  | zero =>
    rw [readEntries]
    exact .error trivial
  | succ fuel =>
    rw [readEntries.eq_def]
    dsimp only
    split
    · refine (gives_any _).bind fun name _ => ?_
      have hname := Datum.isShort_text name.value
      split
      · refine (readsShort_readValue fuel room _ _).bind fun value hvalue => ?_
        split
        · exact .ok (List.forall_mem_singleton.2 ⟨hname, hvalue⟩)
        · exact (readsShort_readEntries fuel room _ _).bind fun rest hrest =>
            .ok (List.forall_mem_cons.2 ⟨⟨hname, hvalue⟩, hrest⟩)
        · exact .error trivial
      · exact .error trivial
    · exact .error trivial

end

/-- **Numbers in JSON are short.** -/
theorem isShort_read {room : Nat} {text : String} {d : Datum} (h : read room text = .ok d) :
    d.IsShort := by
  have hwhole : Gives (fun _ => True) Datum.IsShort (readWhole room text.toList) := by
    rw [readWhole.eq_def]
    split
    · exact .error trivial
    · refine (readsShort_readValue _ room _ _).bind fun value hvalue => ?_
      dsimp only
      split
      · exact .ok hvalue
      · exact .error trivial
  exact hwhole.value d (mapError_eq_ok_iff.1 h)

end Json

namespace Yaml

theorem isShort_untyped {g : Graph} {depth node : Nat} {d : Datum}
    (h : g.untyped depth node = .ok d) : d.IsShort := by
  induction depth generalizing node d with
  | zero => cases h
  | succ depth ih =>
    rw [Graph.untyped] at h
    split at h
    · cases h
    · cases h
      exact Datum.isShort_text _
    · obtain ⟨items, hitems, h⟩ := bind_eq_ok_iff.1 h
      cases h
      refine Datum.isShort_list fun d hd => ?_
      obtain ⟨n, -, hn⟩ := exists_of_mem_mapM hitems hd
      exact ih hn
    · obtain ⟨entries, hentries, h⟩ := bind_eq_ok_iff.1 h
      cases h
      refine Datum.isShort_ofEntries fun e he => ?_
      obtain ⟨⟨k, v⟩, -, hentry⟩ := exists_of_mem_mapM hentries he
      obtain ⟨key, hkey, hentry⟩ := bind_eq_ok_iff.1 hentry
      split at hentry
      · obtain ⟨value, hvalue, hentry⟩ := bind_eq_ok_iff.1 hentry
        cases hentry
        exact ⟨ih hkey, ih hvalue⟩
      · cases hentry

/-- **YAML without types has no numbers.** -/
theorem isShort_readUntyped {room : Nat} {text : String} {d : Datum}
    (h : readUntyped room text = .ok d) : d.IsShort := by
  obtain ⟨found, -, h⟩ := bind_eq_ok_iff.1 h
  split at h
  · cases h
    exact Datum.isShort_null
  · exact isShort_untyped h

end Yaml

theorem isShort_dumpData {room : Nat} {path : Path} {text : String} {d : Datum}
    (h : dumpData room path text = .ok d) : d.IsShort := by
  rw [dumpData] at h
  split at h
  · exact Json.isShort_read (mapError_eq_ok_iff.1 h)
  · exact Yaml.isShort_readUntyped (mapError_eq_ok_iff.1 h)

/-! ## Fields -/

namespace Datum

theorem isShort_integerOfText {t : Text} {n : Int} (h : integerOfText t = .ok n) :
    Number.IsShort n := by
  rw [integerOfText] at h
  split at h
  · cases h
  · split at h
    · rename_i hread
      cases h
      exact Number.isShort_of_ofField hread
    · cases h
    · cases h

theorem isShort_integerOfFloat {x : Binary64} {n : Int} (h : integerOfFloat x = .ok n) :
    Number.IsShort n := by
  rw [integerOfFloat] at h
  split at h
  · split at h
    · rename_i hbound
      cases h
      have hsize : Nat.pow 2 63 ≤ 10 ^ 19 := by decide
      exact Number.isShort_of_lt (by decide) (hbound.trans_le hsize)
    · cases h
  · cases h

/-- **An integer** in data with short numbers is short, whatever stands for it. -/
theorem isShort_asInteger {d : Datum} (hd : d.IsShort) {n : Int} (h : d.asInteger = .ok n) :
    Number.IsShort n := by
  have hsmall : ∀ b : Bool, Number.IsShort (if b then 1 else 0) := by
    rintro (_ | _) <;> exact Number.isShort_of_lt (show 1 ≤ Number.maxDigits by decide) (by decide)
  rw [asInteger.eq_def] at h
  split at h
  · cases h
    exact hd n .int
  · cases h
    exact hsmall _
  · exact isShort_integerOfFloat h
  · exact isShort_integerOfText h
  · split at h
    · exact isShort_integerOfText h
    · cases h
  · cases h

theorem isShort_nullable_asInteger {d : Datum} (hd : d.IsShort) {n : Option Int}
    (h : d.nullable asInteger = .ok n) : ∀ k, n = some k → Number.IsShort k := by
  rw [nullable.eq_def] at h
  split at h
  · cases h
    rintro _ ⟨⟩
  · obtain ⟨m, hm, rfl⟩ := map_eq_ok_iff.1 h
    rintro _ ⟨⟩
    exact isShort_asInteger hd hm

theorem mem_of_lookup? {name : String} {entries : List (Datum × Datum)} {d : Datum}
    (h : lookup? name entries = some d) : ∃ e ∈ entries, e.2 = d := by
  induction entries with
  | nil => cases h
  | cons first rest ih =>
    rw [lookup?.eq_def] at h
    split at h
    · cases h
    · rename_i hfirst
      obtain ⟨rfl, rfl⟩ := List.cons.inj hfirst
      split at h
      · cases h
        exact ⟨_, List.mem_cons_self, rfl⟩
      · obtain ⟨e, he, rfl⟩ := ih h
        exact ⟨e, List.mem_cons_of_mem _ he, rfl⟩
    · rename_i hfirst
      obtain ⟨rfl, rfl⟩ := List.cons.inj hfirst
      obtain ⟨e, he, rfl⟩ := ih h
      exact ⟨e, List.mem_cons_of_mem _ he, rfl⟩

/-- A field that is an integer is short. -/
theorem isShort_optional_asInteger {name : String} {entries : List (Datum × Datum)}
    (hentries : IsShort (.mapping entries)) {n : Option Int}
    (h : optional name none (nullable asInteger) entries = .ok n) :
    ∀ k, n = some k → Number.IsShort k := by
  rcases optional_eq_ok_iff.1 h with ⟨-, rfl⟩ | ⟨d, hd, hn⟩
  · exact nofun
  · obtain ⟨e, he, rfl⟩ := mem_of_lookup? hd
    exact isShort_nullable_asInteger (fun m hm => hentries m (.value he hm)) hn

/-- Each child in a field is made of data with short numbers. -/
theorem exists_isShort_of_mem_children {α : Type} {check : Datum → Checked α}
    {entries : List (Datum × Datum)} (hentries : IsShort (.mapping entries)) {children : List α}
    (h : optional "children" [] (asList check) entries = .ok children) {a : α}
    (ha : a ∈ children) : ∃ d : Datum, d.IsShort ∧ check d = .ok a := by
  have heach : ∀ items : List Datum, (∀ d ∈ items, d.IsShort) →
      Checked.each check items = .ok children → ∃ d : Datum, d.IsShort ∧ check d = .ok a := by
    intro items hitems hrow
    obtain ⟨i, hi, rfl⟩ := List.mem_iff_getElem.1 ha
    have hshape := Checked.each_eq_ok_iff.1 hrow
    have hi' : i < items.length := by rwa [hshape.length_eq]
    exact ⟨items[i], hitems _ (List.getElem_mem hi'), hshape.get hi' hi⟩
  rcases optional_eq_ok_iff.1 h with ⟨-, rfl⟩ | ⟨d, hd, hrow⟩
  · exact absurd ha List.not_mem_nil
  · obtain ⟨e, he, rfl⟩ := mem_of_lookup? hd
    have hshort : e.2.IsShort := fun m hm => hentries m (.value he hm)
    generalize e.2 = d at hshort hrow
    cases d with
    | list items => exact heach items (fun d hd m hm => hshort m (.item hd hm)) hrow
    | set items => exact heach items (fun d hd m hm => hshort m (.member hd hm)) hrow
    | pair x y =>
      refine heach [x, y] (List.forall_mem_cons.2 ⟨fun m hm => hshort m (.first hm), ?_⟩) hrow
      exact List.forall_mem_singleton.2 fun m hm => hshort m (.second hm)
    | _ => cases hrow

end Datum

/-! ## Elements -/

/-- The line and the column of a location are short, if they are known. -/
structure Location.IsShort (l : Location) : Prop where
  line : ∀ n, l.line = some n → Number.IsShort n
  column : ∀ n, l.column = some n → Number.IsShort n

theorem Location.isShort_unknown : Location.IsShort .unknown := ⟨nofun, nofun⟩

/-- What stands below an element is somewhere in it. -/
theorem Element.mem_locations_of_at? {e x : Element} {a : Address} (h : e.at? a = some x)
    {l : Location} (hl : l ∈ x.locations) : l ∈ e.locations := by
  induction a generalizing e with
  | nil =>
    cases h
    exact hl
  | cons i more ih =>
    rw [at?_cons] at h
    obtain ⟨c, hc, hbelow⟩ := Option.bind_eq_some_iff.1 h
    cases e with
    | token => cases hc
    | node kind children =>
      rw [locations, locationsOfAll_eq]
      exact List.mem_flatMap.2 ⟨c, List.mem_of_getElem? hc, ih hbelow⟩

namespace Dump

/-- **The positions in an element** that is built of data with short numbers are short. -/
theorem Node.isShort_toElement {depth : Nat} {d : Datum} {n : Node} {address : Address}
    {e : Element} (hd : d.IsShort) (hn : Node.ofDatum depth d = .ok n)
    (he : n.toElement address = .ok e) : ∀ l ∈ e.locations, l.IsShort := by
  induction depth generalizing d n address e with
  | zero => cases hn
  | succ depth ih =>
    obtain ⟨entries, hentries, -, -, hline, hcolumn, hchildren⟩ :=
      Node.ofDatum_succ_eq_ok_iff.1 hn
    obtain rfl : d = .mapping entries := by
      cases d <;> cases hentries
      rfl
    rcases n.toElement_cases address with ⟨f, -, hbuilt⟩ | ⟨k, text, -, -, hbuilt⟩ |
      ⟨k, -, -, hbuilt⟩
    · cases hbuilt.symm.trans he
    · cases hbuilt.symm.trans he
      exact List.forall_mem_singleton.2 ⟨Datum.isShort_optional_asInteger hd hline,
        Datum.isShort_optional_asInteger hd hcolumn⟩
    · obtain ⟨elements, helements, rfl⟩ := map_eq_ok_iff.1 (hbuilt.symm.trans he)
      intro l hl
      rw [Element.locations, Element.locationsOfAll_eq] at hl
      obtain ⟨c, hc, hl⟩ := List.mem_flatMap.1 hl
      obtain ⟨j, hj⟩ := List.mem_iff_getElem?.1 hc
      obtain ⟨m, hm, hbuilt⟩ := getElem?_toElements helements hj
      obtain ⟨x, hx, hmx⟩ :=
        Datum.exists_isShort_of_mem_children hd hchildren (List.mem_of_getElem? hm)
      exact ih hx hmx hbuilt l hl

end Dump

/-! ## Documents -/

theorem Document.isShort_of_ofDump {data : Datum} (hdata : data.IsShort) {filename : Option Text}
    {d : Document} (h : Document.ofDump data filename = .ok d) :
    ∀ l ∈ d.root.element.locations, l.IsShort := by
  obtain ⟨dump, hdump, hd⟩ := ofDump_eq_ok_iff.1 h
  obtain ⟨entries, hentries, -, hchildren⟩ := Dump.ofDatum_eq_ok_iff.1 hdump
  obtain rfl : data = .mapping entries := by
    cases data <;> cases hentries
    rfl
  intro l hl
  have hl : l ∈ Element.locationsOfAll d.children := hl
  rw [Element.locationsOfAll_eq] at hl
  obtain ⟨c, hc, hl⟩ := List.mem_flatMap.1 hl
  obtain ⟨j, hj⟩ := List.mem_iff_getElem?.1 hc
  obtain ⟨m, hm, hbuilt⟩ := Dump.Node.getElem?_toElements (toDocument_eq_ok_iff.1 hd).1 hj
  obtain ⟨x, hx, hmx⟩ :=
    Datum.exists_isShort_of_mem_children hdata hchildren (List.mem_of_getElem? hm)
  exact Dump.Node.isShort_toElement hx hmx hbuilt l hl

/-- The positions in a document that was loaded are short. -/
theorem isShort_of_loadDocument {host : Host} {path : Path} {d : Document}
    (h : loadDocument host path = .ok d) : ∀ l ∈ d.root.element.locations, l.IsShort := by
  obtain ⟨bytes, -, h⟩ := bind_eq_ok_iff.1 h
  split at h
  · cases h
  · obtain ⟨data, hdata, h⟩ := bind_eq_ok_iff.1 h
    split at h
    · exact Document.isShort_of_ofDump (isShort_dumpData hdata) (mapError_eq_ok_iff.1 h)
    · cases h

/-- **Violations in a document that was loaded can be shown.** -/
theorem isPrintable_of_loadDocument {host : Host} {path : Path} {d : Document}
    (h : loadDocument host path = .ok d) {c : Critic} {number : Nat} {report : List Violation}
    (hreport : (c.critique number d).result = .ok report) : ∀ v ∈ report, v.IsPrintable := by
  intro v hv
  obtain ⟨p, -, s, hs, rfl⟩ := Critic.exists_finding_of_mem hreport hv
  have hat := Document.at?_of_mem_sites (List.mem_filter.1 hs).1
  have hshort : s.location.IsShort := by
    rw [Site.location_eq]
    cases hlocations : s.element.locations with
    | nil => exact Location.isShort_unknown
    | cons l more =>
      have hl : l ∈ s.element.locations := hlocations ▸ List.mem_cons_self
      exact isShort_of_loadDocument h l (Element.mem_locations_of_at? hat hl)
  exact ⟨hshort.line, hshort.column⟩

end JumpLint

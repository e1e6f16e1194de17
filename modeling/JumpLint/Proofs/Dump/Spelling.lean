import JumpLint.Proofs.Dump.RoundTrip
import JumpLint.Proofs.Number.Decimal
import JumpLint.Proofs.Validation.Entries

/-!
# Positions as numbers and as texts

One format delivers the lines and columns of a dump as numbers, the other one as texts, since there
every scalar is a text.  Here it is shown that this makes no difference to the document: positions
may be spelled either way, each of them for itself and at any depth.  Contents are no positions, and
however much the text of a token may look like a number it is the text that was given.

## What is here

* `Datum.Spells`: a number, and the text that it is written as.
* `Dump.SpelledAlike`: two dumps that differ in nothing but how positions are spelled.
* `Dump.Node.ofDatum_spelledAlike`, `Dump.ofDatum_spelledAlike`: the same record is read from both.
* `Datum.childAt?`: the child that an address leads to in the data.
  `Dump.Node.exists_at?_of_childAt?` and `Dump.Node.exists_at?_of_toElement` follow the address into
  the record and into the tree.
* `Dump.Node.eq_token_of_fields`: the token that a child with a content is.
* `Document.ofDump_spelledAlike`: both dumps give the same document, with the positions and the
  contents that they spell.
-/

set_option autoImplicit false
namespace JumpLint

/-! ## Spelling -/

/-- Data spells an integer: it is the integer, or the text that the integer is written as, which is
one of at most 4300 digits. -/
inductive Datum.Spells (n : Int) : Datum → Prop
  | number : Spells n (.int n)
  | text {s : String} (h : Number.shown n = .ok s) : Spells n (.text (.ofString s))

/-- **An integer is read from both of its spellings.** -/
theorem Datum.Spells.asInteger_eq {n : Int} {d : Datum} (h : d.Spells n) : d.asInteger = .ok n := by
  cases h with
  | number => rfl
  | text hshown =>
    rw [asInteger, integerOfText, Text.ofString, Text.chars?_ofChars]
    simp only [Number.ofField_of_shown hshown]

theorem Datum.Spells.nullable_asInteger_eq {n : Int} {d : Datum} (h : d.Spells n) :
    d.nullable asInteger = .ok (some n) := by
  have hread := h.asInteger_eq
  cases h with
  | number => rfl
  | text => exact congrArg (Except.map some) hread

/-- The items of a value that is a row of them. -/
def Datum.row? : Datum → Option (List Datum)
  | .list items | .set items => some items
  | .pair first second => some [first, second]
  | _ => none

theorem Datum.asList_of_row? {α : Type} {d : Datum} {items : List Datum} (h : d.row? = some items)
    (check : Datum → Checked α) : d.asList check = Checked.each check items := by
  cases d <;> cases h <;> rfl

namespace Dump

mutual

/-- Data of a dump that differs in nothing but how positions are spelled. -/
inductive SpelledAlike : Datum → Datum → Prop
  | same (d : Datum) : SpelledAlike d d
  | mapping {entries entries' : List (Datum × Datum)}
    (h : List.Forall₂ EntrySpelledAlike entries entries') :
    SpelledAlike (.mapping entries) (.mapping entries')

/-- The same for an entry: a line or a column that spells the same integer, or children that differ
in nothing but that. -/
inductive EntrySpelledAlike : Datum × Datum → Datum × Datum → Prop
  | same (e : Datum × Datum) : EntrySpelledAlike e e
  | position {name : String} (hname : name = "line" ∨ name = "column") {n : Int} {d d' : Datum}
    (h : d.Spells n) (h' : d'.Spells n) :
    EntrySpelledAlike (Datum.entry name d) (Datum.entry name d')
  | children {d d' : Datum} {items items' : List Datum} (hd : d.row? = some items)
    (hd' : d'.row? = some items') (h : List.Forall₂ SpelledAlike items items') :
    EntrySpelledAlike (Datum.entry "children" d) (Datum.entry "children" d')

end

theorem EntrySpelledAlike.key_eq {e e' : Datum × Datum} (h : EntrySpelledAlike e e') :
    e'.1 = e.1 := by
  cases h <;> rfl

/-- What is found under a name differs in nothing, in the spelling of a position, or in children
that differ in nothing but that. -/
inductive ValueSpelledAlike (name : String) (d d' : Datum) : Prop
  | same (h : d' = d)
  | position (hname : name = "line" ∨ name = "column") (n : Int) (h : d.Spells n) (h' : d'.Spells n)
  | children (hname : name = "children") (items items' : List Datum) (hd : d.row? = some items)
    (hd' : d'.row? = some items') (h : List.Forall₂ SpelledAlike items items')

theorem EntrySpelledAlike.value {name : String} {d d' : Datum}
    (h : EntrySpelledAlike (Datum.entry name d) (Datum.entry name d')) :
    ValueSpelledAlike name d d' := by
  have hname : ∀ {other : String} {v : Datum}, Datum.entry name d = Datum.entry other v →
      name = other ∧ d = v := fun heq =>
    ⟨Text.ofString_injective (Datum.text.inj (congrArg Prod.fst heq)), congrArg Prod.snd heq⟩
  generalize he : Datum.entry name d = e at h
  generalize he' : Datum.entry name d' = e' at h
  cases h with
  | same => exact .same (congrArg Prod.snd (he'.trans he.symm))
  | position hposition hv hv' =>
    obtain ⟨rfl, rfl⟩ := hname he
    obtain rfl := congrArg Prod.snd he'
    exact .position hposition _ hv hv'
  | children hd hd' hitems =>
    obtain ⟨rfl, rfl⟩ := hname he
    obtain rfl := congrArg Prod.snd he'
    exact .children rfl _ _ hd hd' hitems

/-- What is found under one name on both sides. -/
theorem lookup?_spelledAlike {entries entries' : List (Datum × Datum)}
    (h : List.Forall₂ EntrySpelledAlike entries entries') (name : String) :
    Option.Rel (ValueSpelledAlike name) (Datum.lookup? name entries)
      (Datum.lookup? name entries') := by
  have hfound := Datum.rel_lookup? (fun _ _ he => EntrySpelledAlike.key_eq he) h name
  generalize Datum.lookup? name entries = found at hfound
  generalize Datum.lookup? name entries' = found' at hfound
  cases hfound with
  | some hvalue => exact .some hvalue.value
  | none => exact .none

/-! ## Both spellings give one record -/

/-- Texts are left as they are. -/
theorem ValueSpelledAlike.eq_of_text {name : String} {d d' : Datum}
    (h : ValueSpelledAlike name d d') (hname : name ∉ ["line", "column", "children"]) :
    d' = d := by
  cases h with
  | same h => exact h
  | position hposition => exact absurd hname (by rcases hposition with rfl | rfl <;> decide)
  | children hchildren => exact absurd hname (by rw [hchildren]; decide)

/-- Positions are read the same. -/
theorem ValueSpelledAlike.asInteger_eq {name : String} {d d' : Datum}
    (h : ValueSpelledAlike name d d') (hchildren : name ≠ "children") :
    d'.nullable Datum.asInteger = d.nullable Datum.asInteger := by
  cases h with
  | same h => rw [h]
  | position hname n h h' => rw [h.nullable_asInteger_eq, h'.nullable_asInteger_eq]
  | children hname => exact absurd hname hchildren

/-- Children are read the same when data spelled alike is. -/
theorem ValueSpelledAlike.asList_eq {α : Type} {check : Datum → Checked α}
    (hcheck : ∀ d d', SpelledAlike d d' → check d' = check d) {d d' : Datum}
    (h : ValueSpelledAlike "children" d d') : d'.asList check = d.asList check := by
  cases h with
  | same h => rw [h]
  | position hname => exact absurd hname (by decide)
  | children _ items items' hd hd' h =>
    rw [Datum.asList_of_row? hd, Datum.asList_of_row? hd']
    exact Checked.each_congr (h.imp hcheck)

/-- **A child is read the same** from data that is spelled alike. -/
theorem Node.ofDatum_spelledAlike (depth : Nat) (d d' : Datum) (h : SpelledAlike d d') :
    Node.ofDatum depth d' = Node.ofDatum depth d := by
  -- the relation nests through rows of children, the depth goes down by one with each of them
  induction depth generalizing d d' with
  | zero => rfl
  | succ depth ih =>
    cases h with
    | same => rfl
    | @mapping entries entries' hentries =>
      have hfound := lookup?_spelledAlike hentries
      have hkind : required "kind" Datum.asText entries' = required "kind" Datum.asText entries :=
        required_congr (hfound "kind") fun _ _ hv => by rw [hv.eq_of_text (by decide)]
      have hcontent : optional "content" none (Datum.nullable Datum.asText) entries' =
          optional "content" none (Datum.nullable Datum.asText) entries :=
        optional_congr (hfound "content") fun _ _ hv => by rw [hv.eq_of_text (by decide)]
      have hposition : ∀ name, name ≠ "children" →
          optional name none (Datum.nullable Datum.asInteger) entries' =
            optional name none (Datum.nullable Datum.asInteger) entries :=
        fun name hname => optional_congr (hfound name) fun _ _ hv => hv.asInteger_eq hname
      have hchildren : optional "children" [] (Datum.asList (Node.ofDatum depth)) entries' =
          optional "children" [] (Datum.asList (Node.ofDatum depth)) entries :=
        optional_congr (hfound "children") fun _ _ hv => hv.asList_eq ih
      change Checked.ap _ _ = Checked.ap _ _
      rw [hkind, hcontent, hposition "line" (by decide), hposition "column" (by decide), hchildren]

theorem ofDatum_spelledAlike {d d' : Datum} (h : SpelledAlike d d') :
    Dump.ofDatum d' = Dump.ofDatum d := by
  cases h with
  | same => rfl
  | @mapping entries entries' hentries =>
    have hfound := lookup?_spelledAlike hentries
    have hfilename : optional "filename" none (Datum.nullable Datum.asText) entries' =
        optional "filename" none (Datum.nullable Datum.asText) entries :=
      optional_congr (hfound "filename") fun _ _ hv => by rw [hv.eq_of_text (by decide)]
    have hchildren : optional "children" [] (Datum.asList (Node.ofDatum (maxDepth - 1))) entries' =
        optional "children" [] (Datum.asList (Node.ofDatum (maxDepth - 1))) entries :=
      optional_congr (hfound "children") fun _ _ hv =>
        hv.asList_eq (Node.ofDatum_spelledAlike (maxDepth - 1))
    change Checked.ap _ _ = Checked.ap _ _
    rw [hfilename, hchildren]

end Dump

/-! ## Children in the data and in the tree -/

/-- The child that an address leads to, by the children that the data has. -/
def Datum.childAt? : Datum → Address → Option Datum
  | d, [] => some d
  | .mapping entries, i :: more => do
    let child ← (← (← lookup? "children" entries).row?)[i]?
    child.childAt? more
  | _, _ :: _ => none

namespace Dump

/-- A child in the data is a child of the record. -/
theorem exists_getElem?_of_childAt? {depth : Nat} {entries : List (Datum × Datum)} {row : List Node}
    (h : optional "children" [] (Datum.asList (Node.ofDatum depth)) entries = .ok row)
    {i : Nat} {more : Address} {x : Datum}
    (hx : (Datum.mapping entries).childAt? (i :: more) = some x) :
    ∃ child n, row[i]? = some n ∧ Node.ofDatum depth child = .ok n ∧
      child.childAt? more = some x := by
  rw [Datum.childAt?] at hx
  obtain ⟨d, hd, hx⟩ := Option.bind_eq_some_iff.1 hx
  obtain ⟨items, hitems, hx⟩ := Option.bind_eq_some_iff.1 hx
  obtain ⟨child, hchild, hx⟩ := Option.bind_eq_some_iff.1 hx
  rcases optional_eq_ok_iff.1 h with ⟨hnone, -⟩ | ⟨d', hd', heach⟩
  · cases hd.symm.trans hnone
  · cases hd.symm.trans hd'
    rw [Datum.asList_of_row? hitems, Checked.each_eq_ok_iff] at heach
    obtain ⟨hi, rfl⟩ := List.getElem?_eq_some_iff.1 hchild
    have hrow : i < row.length := heach.length_eq ▸ hi
    exact ⟨_, row[i], List.getElem?_eq_getElem hrow, heach.get hi hrow, hx⟩

/-- **Addresses lead to the same child** in the data and in the record. -/
theorem Node.exists_at?_of_childAt? {depth : Nat} {d : Datum} {n : Node}
    (h : Node.ofDatum depth d = .ok n) {a : Address} {x : Datum} (hx : d.childAt? a = some x) :
    ∃ below m, n.at? a = some m ∧ Node.ofDatum below x = .ok m := by
  induction a generalizing depth d n with
  | nil =>
    cases hx
    exact ⟨depth, n, rfl, h⟩
  | cons i more ih =>
    cases depth with
    | zero => cases h
    | succ depth =>
      obtain ⟨entries, hentries, -, -, -, -, hchildren⟩ := ofDatum_succ_eq_ok_iff.1 h
      cases d with
      | mapping =>
        cases hentries
        obtain ⟨child, c, hc, hchild, hx⟩ := exists_getElem?_of_childAt? hchildren hx
        obtain ⟨below, m, hm, hbelow⟩ := ih hchild hx
        exact ⟨below, m, by rw [at?_cons, rowAt?, hc, Option.bind_some, hm], hbelow⟩
      | _ => cases hentries

theorem Node.length_toElements {address : Address} {i : Nat} {row : List Node}
    {elements : List Element} (h : toElements address i row = .ok elements) :
    elements.length = row.length := by
  induction row generalizing i elements with
  | nil =>
    cases h
    rfl
  | cons n more ih =>
    rw [toElements] at h
    split at h
    · cases h
    · obtain ⟨others, hothers, rfl⟩ := map_eq_ok_iff.1 h
      rw [List.length_cons, List.length_cons, ih hothers]

/-- Children in a row are built into elements in a row. -/
theorem Node.exists_getElem?_toElements {address : Address} {i : Nat} {row : List Node}
    {elements : List Element} (h : toElements address i row = .ok elements) {j : Nat} {n : Node}
    (hn : row[j]? = some n) :
    ∃ e, elements[j]? = some e ∧ n.toElement (address ++ [i + j]) = .ok e := by
  obtain ⟨hj, -⟩ := List.getElem?_eq_some_iff.1 hn
  have he := List.getElem?_eq_getElem (length_toElements h ▸ hj)
  obtain ⟨m, hm, hbuilt⟩ := getElem?_toElements h he
  cases hn.symm.trans hm
  exact ⟨_, he, hbuilt⟩

/-- **Addresses lead to the same child** in the record and in the tree. -/
theorem Node.exists_at?_of_toElement {address : Address} {n : Node} {e : Element}
    (h : n.toElement address = .ok e) {a : Address} {m : Node} (hm : n.at? a = some m) :
    ∃ place x, e.at? a = some x ∧ m.toElement place = .ok x := by
  induction a generalizing n e address with
  | nil =>
    cases hm
    exact ⟨address, e, rfl, h⟩
  | cons i more ih =>
    rw [at?_cons] at hm
    obtain ⟨c, hc, hbelow⟩ := Option.bind_eq_some_iff.1 hm
    rcases n.toElement_cases address with ⟨f, -, hbuilt⟩ | ⟨k, text, -, hnil, -⟩ |
      ⟨k, -, -, hbuilt⟩
    · cases hbuilt.symm.trans h
    · rw [hnil] at hc
      cases hc
    · obtain ⟨elements, helements, rfl⟩ := map_eq_ok_iff.1 (hbuilt.symm.trans h)
      obtain ⟨child, hchild, hbuilt⟩ := exists_getElem?_toElements helements hc
      obtain ⟨place, x, hx, hplace⟩ := ih hbuilt hbelow
      exact ⟨place, x, by rw [Element.at?_cons, Element.children, hchild, Option.bind_some, hx],
        hplace⟩

/-- What has content is built into a token with that content. -/
theorem Node.eq_token_of_content {address : Address} {n : Node} {e : Element} {t : Text}
    (h : n.toElement address = .ok e) (ht : n.content = some t) :
    ∃ kind, e = .token kind t n.location := by
  rw [toElement_eq] at h
  split at h
  · cases h
  · rename_i hfault
    split at h
    · rename_i k hkind
      rw [ht] at h
      cases h
      exact ⟨k, rfl⟩
    · rename_i k hkind
      have hcontent : n.HasFault (.nodeWithContent k) :=
        (hasFault_node_iff hkind).2 (.inr ⟨rfl, by simp [ht]⟩)
      exact absurd hcontent (fault?_eq_none_iff.1 hfault _)
    · cases h

/-- A field for a position is not there, or it spells an integer. -/
inductive SpellsField (name : String) (entries : List (Datum × Datum)) : Option Int → Prop
  | absent (h : Datum.lookup? name entries = none) : SpellsField name entries none
  | given (d : Datum) (h : Datum.lookup? name entries = some d) (n : Int) (hn : d.Spells n) :
    SpellsField name entries (some n)

theorem SpellsField.eq {name : String} {entries : List (Datum × Datum)} {p q : Option Int}
    (h : SpellsField name entries p)
    (hq : optional name none (Datum.nullable Datum.asInteger) entries = .ok q) : q = p := by
  rcases optional_eq_ok_iff.1 hq with ⟨hnone, rfl⟩ | ⟨d, hd, hread⟩
  · cases h with
    | absent => rfl
    | given d hd => cases hd.symm.trans hnone
  · cases h with
    | absent hnone => cases hd.symm.trans hnone
    | given d' hd' n hn =>
      cases hd.symm.trans hd'
      exact (Except.ok.inj (hread.symm.trans hn.nullable_asInteger_eq))

/-- **A child with a text as its content** is a token with that text, wherever it stands. -/
theorem Node.eq_token_of_fields {depth : Nat} {fields : List (Datum × Datum)} {n : Node}
    (hn : Node.ofDatum depth (.mapping fields) = .ok n) {address : Address} {e : Element}
    (he : n.toElement address = .ok e) {t : Text}
    (ht : Datum.lookup? "content" fields = some (.text t)) :
    ∃ kind location, e = .token kind t location ∧
      (∀ p, SpellsField "line" fields p → location.line = p) ∧
        ∀ p, SpellsField "column" fields p → location.column = p := by
  cases depth with
  | zero => cases hn
  | succ depth =>
    obtain ⟨_, hfields, -, hcontent, hline, hcolumn, -⟩ := ofDatum_succ_eq_ok_iff.1 hn
    cases hfields
    rcases optional_eq_ok_iff.1 hcontent with ⟨hnone, -⟩ | ⟨d, hd, hread⟩
    · cases ht.symm.trans hnone
    · cases ht.symm.trans hd
      obtain ⟨kind, rfl⟩ := eq_token_of_content he (Except.ok.inj hread).symm
      exact ⟨kind, n.location, rfl, fun p hp => hp.eq hline, fun p hp => hp.eq hcolumn⟩

end Dump

/-- **Positions as numbers and as texts make no difference.**  When some positions of a dump are
spelled as texts instead of numbers, whichever they are and however deep they stand, the dump gives
the same document as before.  In that document each child that has a text as its content is a token
with exactly that text, at the line and column which it spells, or without those that it has not. -/
theorem Document.ofDump_spelledAlike {data data' : Datum} (h : Dump.SpelledAlike data data')
    (filename : Option Text) :
    Document.ofDump data' filename = Document.ofDump data filename ∧
      ∀ d, Document.ofDump data' filename = .ok d →
        ∀ a fields t, a ≠ [] → data'.childAt? a = some (.mapping fields) →
          Datum.lookup? "content" fields = some (.text t) →
          ∃ kind location, d.at? a = some (.token kind t location) ∧
            (∀ p, Dump.SpellsField "line" fields p → location.line = p) ∧
              ∀ p, Dump.SpellsField "column" fields p → location.column = p := by
  refine ⟨by rw [ofDump, ofDump, Dump.ofDatum_spelledAlike h], ?_⟩
  intro d hd a fields t hne hx ht
  obtain ⟨dump, hdump, hbuilt⟩ := ofDump_eq_ok_iff.1 hd
  obtain ⟨entries, hentries, -, hchildren⟩ := Dump.ofDatum_eq_ok_iff.1 hdump
  have helements := (toDocument_eq_ok_iff.1 hbuilt).1
  cases data' with
  | mapping =>
    cases hentries
    obtain ⟨i, more, rfl⟩ := List.exists_cons_of_ne_nil hne
    -- the address is followed in the data, then in the record, then in the tree
    obtain ⟨child, n, hn, hchild, hx⟩ := Dump.exists_getElem?_of_childAt? hchildren hx
    obtain ⟨below, m, hm, hfields⟩ := Dump.Node.exists_at?_of_childAt? hchild hx
    obtain ⟨e, he, hbuilt⟩ := Dump.Node.exists_getElem?_toElements helements hn
    obtain ⟨place, x, hx, hplace⟩ := Dump.Node.exists_at?_of_toElement hbuilt hm
    obtain ⟨kind, location, rfl, hposition⟩ := Dump.Node.eq_token_of_fields hfields hplace ht
    exact ⟨kind, location, by rw [at?_cons, he, Option.bind_some, hx], hposition⟩
  | _ => cases hentries

/-- A block with two tokens, the texts of which look like a number and like null. -/
def Datum.numbered (line column : Datum) : Datum :=
  .mapping [Datum.entry "children" (.list [
    .mapping [
      Datum.entry "kind" (.text (.ofString "Block")),
      Datum.entry "children" (.list [
        .mapping [
          Datum.entry "kind" (.text (.ofString "Number")),
          Datum.entry "content" (.text (.ofString "007")), Datum.entry "line" line,
          Datum.entry "column" column],
        .mapping [
          Datum.entry "kind" (.text (.ofString "Word")),
          Datum.entry "content" (.text (.ofString "null"))]])]])]

/-- The document of that dump. -/
def Document.numbered (line column : Int) : Document where
  filename := none
  children := [.node .block [
    .token .number (.ofString "007") ⟨some line, some column⟩,
    .token .word (.ofString "null") .unknown]]

theorem Dump.spelledAlike_numbered {line column : Int} {d d' : Datum} (hd : d.Spells line)
    (hd' : d'.Spells column) :
    SpelledAlike (.numbered (.int line) (.int column)) (.numbered d d') :=
  have htoken := SpelledAlike.mapping (.cons (.same _) (.cons (.same _)
    (.cons (.position (.inl rfl) .number hd) (.cons (.position (.inr rfl) .number hd') .nil))))
  have hblock := SpelledAlike.mapping (.cons (.same _)
    (.cons (.children rfl rfl (.cons htoken (.cons (.same _) .nil))) .nil))
  .mapping (.cons (.children rfl rfl (.cons hblock .nil)) .nil)

theorem Document.ofDump_spelledAlike_numbered :
    Dump.SpelledAlike (.numbered (.int (-1180591620717411303424)) (.int 12))
        (.numbered (.text (.ofString "-1180591620717411303424")) (.int 12)) ∧
      Document.ofDump (.numbered (.text (.ofString "-1180591620717411303424")) (.int 12)) none =
        .ok (.numbered (-1180591620717411303424) 12) ∧
      ∃ kind location, (Document.numbered (-1180591620717411303424) 12).at? [0, 0] =
        some (.token kind (.ofString "007") location) ∧
        location.line = some (-1180591620717411303424) ∧ location.column = some 12 := by
  have hshown : Number.shown (-1180591620717411303424) = .ok "-1180591620717411303424" :=
    if_pos (by decide +kernel)
  have halike := Dump.spelledAlike_numbered (.text hshown) (.number (n := 12))
  have hread := (ofDump_spelledAlike halike none).1.trans
    (show Document.ofDump (.numbered (.int (-1180591620717411303424)) (.int 12)) none =
      .ok (.numbered (-1180591620717411303424) 12) from rfl)
  obtain ⟨kind, location, hat, hline, hcolumn⟩ :=
    (ofDump_spelledAlike halike none).2 _ hread [0, 0] _ (.ofString "007") (by decide) rfl rfl
  exact ⟨halike, hread, kind, location, hat, hline _ (.given _ rfl _ (.text hshown)),
    hcolumn _ (.given _ rfl _ .number)⟩

end JumpLint

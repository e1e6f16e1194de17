import JumpLint.Proofs.Dump.Faults
import JumpLint.Proofs.Tree.Place
import JumpLint.Proofs.Validation.Shape

/-!
# Dumps of documents

A document can be written as a dump.  Here it is shown that reading the dump gives the document
back, and that this holds of all documents that come from dumps, however those were written.

## What is here

* `Document.FitsDump`: a document that a dump can hold; its elements are not too deep, and the root
  is its only document.
* `Element.toNode`: an element as a record of a dump.
* `Dump.Node.ofDatum_toDatum`, `Dump.Node.toElement_toNode`: the two steps back from data to the
  element.
* `Dump.nameFor`: the name of a document from a dump.
* `Document.ofDump_toDatum`: a document that fits into a dump is written and read back.
* `Document.fitsDump_of_ofDump`: documents from dumps fit into dumps.
* `Document.ofDump_round_trip`: there and back, from either side.
-/

set_option autoImplicit false
namespace JumpLint

/-! ## What fits into a dump -/

/-- An element fits into a dump below which `depth` levels are looked at: there is nothing deeper in
it, and no document. -/
structure Element.Fits (e : Element) (depth : Nat) : Prop where
  shallow : ∀ a x, e.at? a = some x → a.length < depth
  inner : ∀ a x, e.at? a = some x → x.kind ≠ .node .document

/-- A document fits into a dump: no element is 255 levels deep or deeper, where the children of the
root are one level deep, and no element is a document. -/
structure Document.FitsDump (d : Document) : Prop where
  shallow : ∀ a e, d.at? a = some e → a.length < 255
  inner : ∀ a e, d.at? a = some e → a ≠ [] → e.kind ≠ .node .document

theorem Element.Fits.child {kind : NodeKind} {children : List Element} {depth : Nat}
    (h : (Element.node kind children).Fits (depth + 1)) {c : Element} (hc : c ∈ children) :
    c.Fits depth := by
  obtain ⟨i, hi⟩ := List.mem_iff_getElem?.1 hc
  have hat : ∀ a, (Element.node kind children).at? (i :: a) = c.at? a := by
    intro a
    rw [Element.at?_cons, Element.children, hi, Option.bind_some]
  refine ⟨fun a x hx => ?_, fun a x hx => h.inner (i :: a) x ((hat a).trans hx)⟩
  exact Nat.lt_of_succ_lt_succ (h.shallow (i :: a) x ((hat a).trans hx))

theorem Document.at?_cons (d : Document) (i : Nat) (more : Address) :
    d.at? (i :: more) = d.children[i]?.bind fun child => child.at? more :=
  Element.at?_cons _ i more

theorem Document.fitsDump_iff {d : Document} :
    d.FitsDump ↔ ∀ e ∈ d.children, e.Fits (Dump.maxDepth - 1) := by
  constructor
  · intro h e he
    obtain ⟨i, hi⟩ := List.mem_iff_getElem?.1 he
    have hat : ∀ a, d.at? (i :: a) = e.at? a := by
      intro a
      rw [at?_cons, hi, Option.bind_some]
    refine ⟨fun a x hx => ?_, fun a x hx => ?_⟩
    · exact Nat.lt_of_succ_lt_succ (h.shallow (i :: a) x ((hat a).trans hx))
    · exact h.inner (i :: a) x ((hat a).trans hx) (List.cons_ne_nil i a)
  · intro h
    refine ⟨fun a x hx => ?_, fun a x hx hne => ?_⟩
    · cases a with
      | nil => decide
      | cons i more =>
        rw [at?_cons] at hx
        obtain ⟨e, he, hx⟩ := Option.bind_eq_some_iff.1 hx
        exact Nat.succ_lt_succ ((h e (List.mem_of_getElem? he)).shallow more x hx)
    · cases a with
      | nil => exact absurd rfl hne
      | cons i more =>
        rw [at?_cons] at hx
        obtain ⟨e, he, hx⟩ := Option.bind_eq_some_iff.1 hx
        exact (h e (List.mem_of_getElem? he)).inner more x hx

/-! ## Records of elements -/

namespace Element

mutual

/-- An element as a child of a dump, in the form of a record. -/
def toNode : Element → Dump.Node
  | .token kind text location =>
    .mk (.ofString kind.name) (some text) location.line location.column []
  | .node kind children => .mk (.ofString kind.name) none none none (toNodes children)

/-- Elements in a row as children of a dump. -/
def toNodes : List Element → List Dump.Node
  | [] => []
  | e :: more => e.toNode :: toNodes more

end

theorem toNodes_eq_map (elements : List Element) : toNodes elements = elements.map toNode := by
  induction elements with
  | nil => rfl
  | cons e more ih => rw [toNodes, ih, List.map_cons]

theorem toData_eq_map (elements : List Element) : toData elements = elements.map toDatum := by
  induction elements with
  | nil => rfl
  | cons e more ih => rw [toData, ih, List.map_cons]

end Element

namespace Dump

/-! ## From data to records -/

/-- The children in a field are each of the expected shape. -/
theorem exists_of_mem_children {check : Datum → Checked Node} {entries : List (Datum × Datum)}
    {children : List Node}
    (h : optional "children" [] (Datum.asList check) entries = .ok children) {n : Node}
    (hn : n ∈ children) : ∃ d, check d = .ok n := by
  have heach : ∀ items, Checked.each check items = .ok children → ∃ d, check d = .ok n := by
    intro items hitems
    obtain ⟨i, hi, rfl⟩ := List.mem_iff_getElem.1 hn
    have hshape := Checked.each_eq_ok_iff.1 hitems
    exact ⟨_, hshape.get (by rw [hshape.length_eq]; exact hi) hi⟩
  rcases optional_eq_ok_iff.1 h with ⟨-, rfl⟩ | ⟨d, -, hd⟩
  · exact absurd hn List.not_mem_nil
  · cases d with
    | list items => exact heach items hd
    | set items => exact heach items hd
    | pair x y => exact heach [x, y] hd
    | _ => cases hd

namespace Node

theorem ofDatum_succ_eq_ok_iff {depth : Nat} {d : Datum} {n : Node} :
    Node.ofDatum (depth + 1) d = .ok n ↔ ∃ entries, d.asRecord "NodeSpec" = .ok entries ∧
      required "kind" Datum.asText entries = .ok n.kind ∧
      optional "content" none (Datum.nullable Datum.asText) entries = .ok n.content ∧
      optional "line" none (Datum.nullable Datum.asInteger) entries = .ok n.location.line ∧
      optional "column" none (Datum.nullable Datum.asInteger) entries = .ok n.location.column ∧
      optional "children" [] (Datum.asList (Node.ofDatum depth)) entries = .ok n.children := by
  rw [Node.ofDatum]
  cases d.asRecord "NodeSpec" with
  | error => exact iff_of_false nofun nofun
  | ok entries =>
    constructor
    · intro hfive
      obtain ⟨_, children, hfour, hchildren, rfl⟩ := Checked.ap_eq_ok_iff.1 hfive
      obtain ⟨_, column, hthree, hcolumn, rfl⟩ := Checked.ap_eq_ok_iff.1 hfour
      obtain ⟨_, line, htwo, hline, rfl⟩ := Checked.ap_eq_ok_iff.1 hthree
      obtain ⟨_, content, hone, hcontent, rfl⟩ := Checked.ap_eq_ok_iff.1 htwo
      obtain ⟨kind, hkind, rfl⟩ := map_eq_ok_iff.1 hone
      exact ⟨entries, rfl, hkind, hcontent, hline, hcolumn, hchildren⟩
    · rintro ⟨_, hentries, hkind, hcontent, hline, hcolumn, hchildren⟩
      cases hentries
      obtain ⟨kind, content, line, column, children⟩ := n
      change Checked.ap _ _ = _
      rw [hkind, hcontent, hline, hcolumn, hchildren]
      rfl

/-- No child is deeper than what is looked at. -/
theorem length_lt_of_ofDatum {depth : Nat} {d : Datum} {n m : Node} {a : Address}
    (h : Node.ofDatum depth d = .ok n) (hm : n.at? a = some m) : a.length < depth := by
  induction depth generalizing d n a with
  | zero => cases h
  | succ depth ih =>
    cases a with
    | nil => exact Nat.succ_pos depth
    | cons i more =>
      obtain ⟨entries, -, -, -, -, -, hchildren⟩ := ofDatum_succ_eq_ok_iff.1 h
      rw [at?_cons] at hm
      obtain ⟨child, hchild, hm⟩ := Option.bind_eq_some_iff.1 hm
      obtain ⟨x, hx⟩ := exists_of_mem_children hchildren (List.mem_of_getElem? hchild)
      exact Nat.succ_lt_succ (ih hx hm)

theorem nullable_asInteger_ofInt? (n : Option Int) :
    Datum.nullable Datum.asInteger (.ofInt? n) = .ok n := by
  cases n <;> rfl

theorem nullable_asText_map (t : Option Text) :
    Datum.nullable Datum.asText ((t.map Datum.text).getD .null) = .ok t := by
  cases t <;> rfl

/-- Elements in a row are read back when each of them is. -/
theorem each_ofDatum_toData {depth : Nat} {elements : List Element}
    (h : ∀ e ∈ elements, Node.ofDatum depth e.toDatum = .ok e.toNode) :
    Checked.each (Node.ofDatum depth) (Element.toData elements) =
      .ok (Element.toNodes elements) := by
  rw [Checked.each_eq_ok_iff, Element.toData_eq_map, Element.toNodes_eq_map,
    List.forall₂_map_left_iff, List.forall₂_map_right_iff, List.forall₂_same]
  exact h

/-- **An element is written and read back as a record.** -/
theorem ofDatum_toDatum {depth : Nat} {e : Element} (h : e.Fits depth) :
    Node.ofDatum depth e.toDatum = .ok e.toNode := by
  induction depth generalizing e with
  | zero => exact absurd (h.shallow [] e rfl) (Nat.not_lt_zero _)
  | succ depth ih =>
    cases e with
    | token kind text location =>
      rw [Element.toDatum, ofDatum_succ_eq_ok_iff]
      exact ⟨_, rfl, required_eq_ok_iff.2 ⟨_, rfl, rfl⟩,
        optional_eq_ok_iff.2 (.inr ⟨_, rfl, rfl⟩),
        optional_eq_ok_iff.2 (.inr ⟨_, rfl, nullable_asInteger_ofInt? _⟩),
        optional_eq_ok_iff.2 (.inr ⟨_, rfl, nullable_asInteger_ofInt? _⟩),
        optional_eq_ok_iff.2 (.inl ⟨rfl, rfl⟩)⟩
    | node kind children =>
      have heach := each_ofDatum_toData fun c hc => ih (h.child hc)
      rw [Element.toDatum, ofDatum_succ_eq_ok_iff]
      exact ⟨_, rfl, required_eq_ok_iff.2 ⟨_, rfl, rfl⟩, optional_eq_ok_iff.2 (.inl ⟨rfl, rfl⟩),
        optional_eq_ok_iff.2 (.inl ⟨rfl, rfl⟩), optional_eq_ok_iff.2 (.inl ⟨rfl, rfl⟩),
        optional_eq_ok_iff.2 (.inr ⟨_, rfl, heach⟩)⟩

/-! ## From records to elements -/

mutual

/-- **An element is built from its record.** -/
theorem toElement_toNode (address : Address) : (e : Element) →
    (∀ a x, e.at? a = some x → x.kind ≠ .node .document) → e.toNode.toElement address = .ok e
  | .token kind text location, _ => by
    have hkind : Kind.ofName? (.ofString kind.name) = some (.token kind) :=
      Kind.ofName?_name (.token kind)
    simp [toElement_eq, fault?_eq, Element.toNode, Node.kind, content, children, Node.location,
      hkind]
  | .node kind children, h => by
    have hkind : Kind.ofName? (.ofString kind.name) = some (.node kind) :=
      Kind.ofName?_name (.node kind)
    have hdocument : kind ≠ .document := fun heq => h [] _ rfl (heq ▸ rfl)
    have hchildren := toElements_toNodes address 0 children fun c hc a x hx => by
      obtain ⟨i, hi⟩ := List.mem_iff_getElem?.1 hc
      exact h (i :: a) x (by rw [Element.at?_cons, Element.children, hi, Option.bind_some, hx])
    simp [toElement_eq, fault?_eq, Element.toNode, Node.kind, content, Node.children, hkind,
      hchildren, Except.map]

/-- The same for elements in a row. -/
theorem toElements_toNodes (address : Address) (i : Nat) : (elements : List Element) →
    (∀ e ∈ elements, ∀ a x, e.at? a = some x → x.kind ≠ .node .document) →
    toElements address i (Element.toNodes elements) = .ok elements
  | [], _ => rfl
  | e :: more, h => by
    rw [Element.toNodes, toElements, toElement_toNode (address ++ [i]) e (h e List.mem_cons_self),
      toElements_toNodes address (i + 1) more fun x hx => h x (List.mem_cons_of_mem e hx)]
    rfl

end

/-- Elements in a row are built from children in a row. -/
theorem getElem?_toElements {address : Address} {i : Nat} {row : List Node}
    {elements : List Element} (h : toElements address i row = .ok elements) {j : Nat} {e : Element}
    (he : elements[j]? = some e) :
    ∃ n, row[j]? = some n ∧ n.toElement (address ++ [i + j]) = .ok e := by
  induction row generalizing i j elements with
  | nil =>
    cases h
    cases he
  | cons n more ih =>
    rw [toElements] at h
    cases hn : n.toElement (address ++ [i]) with
    | error => simp [hn] at h
    | ok first =>
      rw [hn] at h
      obtain ⟨others, hothers, rfl⟩ := map_eq_ok_iff.1 h
      cases j with
      | zero =>
        cases he
        exact ⟨n, rfl, hn⟩
      | succ j =>
        obtain ⟨m, hm, hbuilt⟩ := ih hothers he
        exact ⟨m, hm, by rwa [show i + (j + 1) = i + 1 + j by omega]⟩

/-- An element that was built has no document in it, and no place that its record has not. -/
theorem at?_of_toElement {address : Address} {n : Node} {e : Element}
    (h : n.toElement address = .ok e) {a : Address} {x : Element} (hx : e.at? a = some x) :
    x.kind ≠ .node .document ∧ ∃ m, n.at? a = some m := by
  induction a generalizing n e address with
  | nil =>
    cases hx
    refine ⟨?_, n, rfl⟩
    rcases n.toElement_cases address with ⟨f, -, hbuilt⟩ | ⟨k, text, -, -, hbuilt⟩ |
      ⟨k, -, hne, hbuilt⟩
    · cases hbuilt.symm.trans h
    · cases hbuilt.symm.trans h
      exact nofun
    · obtain ⟨elements, -, rfl⟩ := map_eq_ok_iff.1 (hbuilt.symm.trans h)
      exact fun hkind => hne (Kind.node.inj hkind)
  | cons i more ih =>
    rw [Element.at?_cons] at hx
    obtain ⟨c, hc, hbelow⟩ := Option.bind_eq_some_iff.1 hx
    rcases n.toElement_cases address with ⟨f, -, hbuilt⟩ | ⟨k, text, -, -, hbuilt⟩ |
      ⟨k, -, -, hbuilt⟩
    · cases hbuilt.symm.trans h
    · cases hbuilt.symm.trans h
      cases hc
    · obtain ⟨elements, helements, rfl⟩ := map_eq_ok_iff.1 (hbuilt.symm.trans h)
      obtain ⟨child, hchild, hbuilt⟩ := getElem?_toElements helements hc
      obtain ⟨hkind, m, hm⟩ := ih hbuilt hbelow
      exact ⟨hkind, m, by rw [Node.at?_cons, rowAt?, hchild, Option.bind_some, hm]⟩

end Node

/-! ## Documents -/

/-- The name of a document from a dump with the name `own`, if it is read under the name `given`:
its own, unless there is none or an empty one. -/
def nameFor (own given : Option Text) : Option Text :=
  (own.filter fun name => !name.isEmpty) <|> given

theorem nameFor_some {name : Text} (h : name ≠ []) (given : Option Text) :
    nameFor (some name) given = some name := by
  have hkept : (!name.isEmpty) = true := by simpa using h
  rw [nameFor, Option.filter_some, if_pos hkept]
  rfl

theorem nameFor_eq_given {own : Option Text} (h : own = none ∨ own = some [])
    (given : Option Text) : nameFor own given = given := by
  rcases h with rfl | rfl <;> rfl

theorem nameFor_self (given : Option Text) : nameFor given given = given := by
  cases given with
  | none => rfl
  | some name => cases name <;> rfl

/-- Names that have been given stay. -/
theorem nameFor_nameFor (own given : Option Text) :
    nameFor (nameFor own given) given = nameFor own given := by
  by_cases h : own = none ∨ own = some []
  · rw [nameFor_eq_given h, nameFor_self]
  · obtain ⟨name, rfl⟩ := Option.ne_none_iff_exists'.1 fun hnone => h (.inl hnone)
    have hne : name ≠ [] := fun hnil => h (.inr (congrArg some hnil))
    rw [nameFor_some hne, nameFor_some hne]

theorem ofDatum_eq_ok_iff {data : Datum} {dump : Dump} :
    Dump.ofDatum data = .ok dump ↔ ∃ entries, data.asRecord "DocumentSpec" = .ok entries ∧
      optional "filename" none (Datum.nullable Datum.asText) entries = .ok dump.filename ∧
      optional "children" [] (Datum.asList (Node.ofDatum (maxDepth - 1))) entries =
        .ok dump.children := by
  rw [Dump.ofDatum]
  cases data.asRecord "DocumentSpec" with
  | error => exact iff_of_false nofun nofun
  | ok entries =>
    constructor
    · intro htwo
      obtain ⟨_, children, hone, hchildren, rfl⟩ := Checked.ap_eq_ok_iff.1 htwo
      obtain ⟨filename, hfilename, rfl⟩ := map_eq_ok_iff.1 hone
      exact ⟨entries, rfl, hfilename, hchildren⟩
    · rintro ⟨_, hentries, hfilename, hchildren⟩
      cases hentries
      change Checked.ap _ _ = _
      rw [hfilename, hchildren]
      rfl

end Dump

namespace Document

theorem ofDatum_toDatum {d : Document} (h : d.FitsDump) :
    Dump.ofDatum d.toDatum = .ok ⟨d.filename, Element.toNodes d.children⟩ := by
  have heach := Dump.Node.each_ofDatum_toData fun e he =>
    Dump.Node.ofDatum_toDatum (fitsDump_iff.1 h e he)
  rw [toDatum, Dump.ofDatum_eq_ok_iff]
  exact ⟨_, rfl, optional_eq_ok_iff.2 (.inr ⟨_, rfl, Dump.Node.nullable_asText_map d.filename⟩),
    optional_eq_ok_iff.2 (.inr ⟨_, rfl, heach⟩)⟩

/-- What a document is built of. -/
theorem toDocument_eq_ok_iff {dump : Dump} {filename : Option Text} {d : Document} :
    dump.toDocument filename = .ok d ↔
      Dump.Node.toElements [] 0 dump.children = .ok d.children ∧
        Dump.nameFor dump.filename filename = d.filename := by
  obtain ⟨name, children⟩ := d
  rw [Dump.toDocument]
  cases Dump.Node.toElements [] 0 dump.children with
  | error =>
    constructor
    · intro h
      cases h
    · rintro ⟨h, -⟩
      cases h
  | ok elements =>
    constructor
    · intro h
      cases h
      exact ⟨rfl, rfl⟩
    · rintro ⟨helements, rfl⟩
      cases helements
      rfl

theorem ofDump_eq_ok_iff {data : Datum} {filename : Option Text} {d : Document} :
    Document.ofDump data filename = .ok d ↔
      ∃ dump, Dump.ofDatum data = .ok dump ∧ dump.toDocument filename = .ok d := by
  rw [ofDump]
  cases Dump.ofDatum data with
  | error =>
    constructor
    · intro h
      cases h
    · rintro ⟨_, h, -⟩
      cases h
  | ok dump =>
    constructor
    · exact fun h => ⟨dump, rfl, h⟩
    · rintro ⟨_, hdump, h⟩
      cases hdump
      exact h

/-- **A document is written and read back.** -/
theorem ofDump_toDatum {d : Document} (h : d.FitsDump) (filename : Option Text) :
    Document.ofDump d.toDatum filename =
      .ok ⟨Dump.nameFor d.filename filename, d.children⟩ := by
  have helements := Dump.Node.toElements_toNodes [] 0 d.children
    fun e he => (fitsDump_iff.1 h e he).inner
  exact ofDump_eq_ok_iff.2 ⟨_, ofDatum_toDatum h, toDocument_eq_ok_iff.2 ⟨helements, rfl⟩⟩

/-- **Documents from dumps fit into dumps.** -/
theorem fitsDump_of_ofDump {data : Datum} {filename : Option Text} {d : Document}
    (h : Document.ofDump data filename = .ok d) : d.FitsDump := by
  obtain ⟨dump, hdump, hd⟩ := ofDump_eq_ok_iff.1 h
  obtain ⟨entries, -, -, hchildren⟩ := Dump.ofDatum_eq_ok_iff.1 hdump
  refine fitsDump_iff.2 fun e he => ?_
  obtain ⟨i, hi⟩ := List.mem_iff_getElem?.1 he
  obtain ⟨n, hn, hbuilt⟩ := Dump.Node.getElem?_toElements (toDocument_eq_ok_iff.1 hd).1 hi
  obtain ⟨x, hx⟩ := Dump.exists_of_mem_children hchildren (List.mem_of_getElem? hn)
  refine ⟨fun a y hy => ?_, fun a y hy => (Dump.Node.at?_of_toElement hbuilt hy).1⟩
  obtain ⟨-, m, hm⟩ := Dump.Node.at?_of_toElement hbuilt hy
  exact Dump.Node.length_lt_of_ofDatum hx hm

/-- **There and back.**  A document that fits into a dump is written as a dump that gives the same
elements.  A document from any dump gives the same document when it is written and read again under
the same name, and its name is that of the dump unless there is none or an empty one. -/
theorem ofDump_round_trip :
    (∀ (d : Document) (filename : Option Text), d.FitsDump →
      Document.ofDump d.toDatum filename =
        .ok ⟨Dump.nameFor d.filename filename, d.children⟩) ∧
      ∀ (data : Datum) (filename : Option Text) (d : Document),
        Document.ofDump data filename = .ok d →
          Document.ofDump d.toDatum filename = .ok d ∧
            ∃ dump, Dump.ofDatum data = .ok dump ∧
              (∀ name, dump.filename = some name → name ≠ [] → d.filename = some name) ∧
              (dump.filename = none ∨ dump.filename = some [] → d.filename = filename) := by
  refine ⟨fun d filename h => ofDump_toDatum h filename, fun data filename d h => ?_⟩
  obtain ⟨dump, hdump, hd⟩ := ofDump_eq_ok_iff.1 h
  have hname := (toDocument_eq_ok_iff.1 hd).2
  refine ⟨?_, dump, hdump, fun name hown hne => ?_, fun hnone => ?_⟩
  · rw [ofDump_toDatum (fitsDump_of_ofDump h), ← hname, Dump.nameFor_nameFor, hname]
  · rw [← hname, hown, Dump.nameFor_some hne]
  · rw [← hname, Dump.nameFor_eq_given hnone]

/-- A dump with more and with less in it than a document needs: an entry that nothing asks for, a
token with a line as text and with no children, and a place for a node. -/
def looseDump : Datum :=
  .mapping [
    Datum.entry "filename" (.text []),
    Datum.entry "parser" (.text (.ofString "ppi")),
    Datum.entry "children" (.list [
      .mapping [
        Datum.entry "kind" (.text (.ofString "Block")), Datum.entry "line" (.int 1),
        Datum.entry "children" (.list [
          .mapping [
            Datum.entry "children" (.list []), Datum.entry "line" (.text (.ofString " 2 ")),
            Datum.entry "content" (.text (.ofString "FOO:")),
            Datum.entry "kind" (.text (.ofString "Label"))]])]])]

/-- The document of that dump. -/
def ofLooseDump : Document where
  filename := some (.ofString "loose.json")
  children := [.node .block [.token .label (.ofString "FOO:") ⟨some 2, none⟩]]

theorem ofDump_round_trip_loose :
    Document.ofDump looseDump (some (.ofString "loose.json")) = .ok ofLooseDump ∧
      Document.ofDump ofLooseDump.toDatum (some (.ofString "loose.json")) = .ok ofLooseDump ∧
      ofLooseDump.FitsDump ∧ Document.ofDump ofLooseDump.toDatum none = .ok ofLooseDump := by
  have hbuilt : Document.ofDump looseDump (some (.ofString "loose.json")) = .ok ofLooseDump := rfl
  have hfits : ofLooseDump.FitsDump := fitsDump_of_ofDump hbuilt
  exact ⟨hbuilt, (ofDump_round_trip.2 _ _ _ hbuilt).1, hfits, ofDump_round_trip.1 _ none hfits⟩

end Document
end JumpLint

import JumpLint.Proofs.Dump.Place

/-!
# The faults of a dump

A dump of the right shape is a tree unless one of its children is at fault.  Building the tree stops
at a fault that it comes to; here it is shown that this is the first one, in the order in which a
tree is listed, and that none is passed over.

## What is here

* `Dump.Node.HasFault`: what is wrong with a child, said without any order of checks, and
  `Dump.Fault.rank`, the order in which the faults of one child count.
* `Dump.Node.judges_fault?`: the checks of one child find its first fault.
* `Dump.Node.toElement_cases`: what a child is built into.
* `Dump.IsSound`, `Dump.IsFirstFault`: no fault, and the first fault, among all that addresses lead
  to.
* `Dump.IsVerdict`: a result that tells the one from the other; `Dump.Node.toElement_verdict` and
  `toElements_verdict` say that building a tree gives such a result.
* `Document.ofDump_names_first_fault`: the same for a whole dump, with the text of the error.
-/

set_option autoImplicit false
namespace JumpLint

theorem Kind.ofName?_eq_some_iff {name : Text} {kind : Kind} :
    Kind.ofName? name = some kind ↔ name = .ofString kind.name := by
  constructor
  · intro h
    have hfound := List.find?_some (p := fun kind : Kind => name == .ofString kind.name) h
    exact beq_iff_eq.1 hfound
  · rintro rfl
    exact ofName?_name kind

namespace Dump

/-! ## One child -/

/-- A child has a fault: its kind is unknown or that of the root, it is a token without content or
with children, or a node with content. -/
inductive Node.HasFault (n : Node) : Fault → Prop
  | unknownKind (h : ∀ kind : Kind, n.kind ≠ .ofString kind.name) :
    n.HasFault (.unknownKind n.kind)
  | innerDocument (h : n.kind = .ofString NodeKind.document.name) : n.HasFault .innerDocument
  | tokenWithoutContent (kind : TokenKind) (hkind : n.kind = .ofString kind.name)
    (h : n.content = none) : n.HasFault (.tokenWithoutContent kind)
  | tokenWithChildren (kind : TokenKind) (hkind : n.kind = .ofString kind.name)
    (h : n.children ≠ []) : n.HasFault (.tokenWithChildren kind)
  | nodeWithContent (kind : NodeKind) (hkind : n.kind = .ofString kind.name)
    (h : n.content ≠ none) : n.HasFault (.nodeWithContent kind)

/-- The order in which the faults of one child count. -/
def Fault.rank : Fault → Nat
  | .unknownKind _ => 0
  | .innerDocument => 1
  | .tokenWithoutContent _ => 2
  | .tokenWithChildren _ => 3
  | .nodeWithContent _ => 4

namespace Node

variable {n : Node} {f : Fault}

/-- The kind of a child is known by its name. -/
theorem kind_unique {kind : Kind} (hkind : Kind.ofName? n.kind = some kind) (other : Kind)
    (hother : n.kind = .ofString other.name) : kind = other := by
  rw [Kind.ofName?_eq_some_iff.2 hother] at hkind
  exact (Option.some.inj hkind).symm

theorem hasFault_unknownKind (h : Kind.ofName? n.kind = none) :
    n.HasFault (.unknownKind n.kind) := by
  refine .unknownKind fun kind hkind => ?_
  exact Option.some_ne_none kind ((Kind.ofName?_eq_some_iff.2 hkind).symm.trans h)

/-- A token can have two faults. -/
theorem hasFault_token_iff {k : TokenKind} (hkind : Kind.ofName? n.kind = some (.token k)) :
    n.HasFault f ↔ (f = .tokenWithoutContent k ∧ n.content = none) ∨
      (f = .tokenWithChildren k ∧ n.children ≠ []) := by
  have hname : n.kind = .ofString k.name := Kind.ofName?_eq_some_iff.1 hkind
  constructor
  · intro h
    cases h with
    | unknownKind h => exact absurd hname (h (.token k))
    | innerDocument h => cases kind_unique hkind (.node .document) h
    | tokenWithoutContent k' hk' h =>
      cases kind_unique hkind (.token k') hk'
      exact .inl ⟨rfl, h⟩
    | tokenWithChildren k' hk' h =>
      cases kind_unique hkind (.token k') hk'
      exact .inr ⟨rfl, h⟩
    | nodeWithContent k' hk' h => cases kind_unique hkind (.node k') hk'
  · rintro (⟨rfl, h⟩ | ⟨rfl, h⟩)
    · exact .tokenWithoutContent k hname h
    · exact .tokenWithChildren k hname h

/-- A node has a fault if it is the root or has content. -/
theorem hasFault_node_iff {k : NodeKind} (hkind : Kind.ofName? n.kind = some (.node k)) :
    n.HasFault f ↔ (f = .innerDocument ∧ k = .document) ∨
      (f = .nodeWithContent k ∧ n.content ≠ none) := by
  have hname : n.kind = .ofString k.name := Kind.ofName?_eq_some_iff.1 hkind
  constructor
  · intro h
    cases h with
    | unknownKind h => exact absurd hname (h (.node k))
    | innerDocument h =>
      cases kind_unique hkind (.node .document) h
      exact .inl ⟨rfl, rfl⟩
    | tokenWithoutContent k' hk' h => cases kind_unique hkind (.token k') hk'
    | tokenWithChildren k' hk' h => cases kind_unique hkind (.token k') hk'
    | nodeWithContent k' hk' h =>
      cases kind_unique hkind (.node k') hk'
      exact .inr ⟨rfl, h⟩
  · rintro (⟨rfl, rfl⟩ | ⟨rfl, h⟩)
    · exact .innerDocument hname
    · exact .nodeWithContent k hname h

/-- What the checks of one child are to find: no fault, or the one that counts first. -/
def IsJudgment (n : Node) : Option Fault → Prop
  | none => ∀ f, ¬n.HasFault f
  | some f => n.HasFault f ∧ ∀ g, n.HasFault g → f.rank ≤ g.rank

theorem fault?_eq (n : Node) :
    n.fault? = match Kind.ofName? n.kind with
      | none => some (.unknownKind n.kind)
      | some (.node .document) => some .innerDocument
      | some (.token k) =>
        if n.content.isNone then some (.tokenWithoutContent k)
        else if !n.children.isEmpty then some (.tokenWithChildren k)
        else none
      | some (.node k) => if n.content.isSome then some (.nodeWithContent k) else none := by
  cases n
  rfl

/-- The checks of a token find its first fault. -/
theorem isJudgment_token {k : TokenKind} (hkind : Kind.ofName? n.kind = some (.token k)) :
    n.IsJudgment (if n.content.isNone then some (.tokenWithoutContent k)
      else if !n.children.isEmpty then some (.tokenWithChildren k)
      else none) := by
  split
  · rename_i hcontent
    have hnone : n.content = none := Option.isNone_iff_eq_none.1 hcontent
    refine ⟨(hasFault_token_iff hkind).2 (.inl ⟨rfl, hnone⟩), fun g hg => ?_⟩
    rcases (hasFault_token_iff hkind).1 hg with ⟨rfl, -⟩ | ⟨rfl, -⟩ <;> simp [Fault.rank]
  · rename_i hcontent
    rw [Option.isNone_iff_eq_none] at hcontent
    split
    · rename_i hchildren
      have hne : n.children ≠ [] := by simpa using hchildren
      refine ⟨(hasFault_token_iff hkind).2 (.inr ⟨rfl, hne⟩), fun g hg => ?_⟩
      rcases (hasFault_token_iff hkind).1 hg with ⟨-, h⟩ | ⟨rfl, -⟩
      · exact absurd h hcontent
      · exact Nat.le_refl _
    · rename_i hchildren
      intro g hg
      rcases (hasFault_token_iff hkind).1 hg with ⟨-, h⟩ | ⟨-, h⟩
      · exact hcontent h
      · exact hchildren (by simpa using h)

/-- The check of a node that is not the root finds its only fault. -/
theorem isJudgment_node {k : NodeKind} (hkind : Kind.ofName? n.kind = some (.node k))
    (hne : k ≠ .document) :
    n.IsJudgment (if n.content.isSome then some (.nodeWithContent k) else none) := by
  have hfault : ∀ g, n.HasFault g ↔ g = .nodeWithContent k ∧ n.content ≠ none := by
    intro g
    rw [hasFault_node_iff hkind, or_iff_right fun h => hne h.2]
  split
  · rename_i hcontent
    refine ⟨(hfault _).2 ⟨rfl, Option.isSome_iff_ne_none.1 hcontent⟩, fun g hg => ?_⟩
    obtain ⟨rfl, -⟩ := (hfault g).1 hg
    exact Nat.le_refl _
  · rename_i hcontent
    exact fun g hg => hcontent (Option.isSome_iff_ne_none.2 ((hfault g).1 hg).2)

/-- **The checks of one child** find its first fault. -/
theorem judges_fault? (n : Node) : n.IsJudgment n.fault? := by
  rw [fault?_eq]
  split
  · rename_i hkind
    exact ⟨hasFault_unknownKind hkind, fun g _ => Nat.zero_le _⟩
  · rename_i hkind
    refine ⟨(hasFault_node_iff hkind).2 (.inl ⟨rfl, rfl⟩), fun g hg => ?_⟩
    rcases (hasFault_node_iff hkind).1 hg with ⟨rfl, -⟩ | ⟨rfl, -⟩ <;> simp [Fault.rank]
  · rename_i k hkind
    exact isJudgment_token hkind
  · rename_i k hdocument hkind
    exact isJudgment_node hkind hdocument

theorem hasFault_of_fault? (h : n.fault? = some f) :
    n.HasFault f ∧ ∀ g, n.HasFault g → f.rank ≤ g.rank := by
  have hjudges := judges_fault? n
  rwa [h] at hjudges

theorem fault?_eq_none_iff : n.fault? = none ↔ ∀ f, ¬n.HasFault f := by
  have hjudges := judges_fault? n
  constructor
  · intro h
    rwa [h] at hjudges
  · intro h
    rw [Option.eq_none_iff_forall_ne_some]
    intro f hf
    exact h f (hasFault_of_fault? hf).1

/-! ## Building one child -/

theorem toElement_eq (address : Address) (n : Node) :
    n.toElement address = match n.fault? with
      | some f => .error (address, f)
      | none =>
        match Kind.ofName? n.kind with
        | some (.token k) => .ok (.token k (n.content.getD []) n.location)
        | some (.node k) => (toElements address 0 n.children).map (.node k)
        | _ => .error (address, .unknownKind n.kind) := by
  cases n
  rfl

/-- **What a child is built into**: the error of its first fault, a token, or a node with what its
children are built into. -/
theorem toElement_cases (address : Address) (n : Node) :
    (∃ f, n.fault? = some f ∧ n.toElement address = .error (address, f)) ∨
      (∃ k text, n.fault? = none ∧ n.children = [] ∧
        n.toElement address = .ok (.token k text n.location)) ∨
      ∃ k, n.fault? = none ∧ k ≠ .document ∧
        n.toElement address = (toElements address 0 n.children).map (.node k) := by
  rw [toElement_eq]
  cases hfault : n.fault? with
  | some f => exact .inl ⟨f, rfl, rfl⟩
  | none =>
    have hsound := fault?_eq_none_iff.1 hfault
    cases hkind : Kind.ofName? n.kind with
    | none => exact absurd (hasFault_unknownKind hkind) (hsound _)
    | some kind =>
      cases kind with
      | token k =>
        refine .inr (.inl ⟨k, _, rfl, ?_, rfl⟩)
        by_contra hne
        exact hsound _ ((hasFault_token_iff hkind).2 (.inr ⟨rfl, hne⟩))
      | node k =>
        refine .inr (.inr ⟨k, rfl, fun hdocument => ?_, rfl⟩)
        exact hsound _ ((hasFault_node_iff hkind).2 (.inl ⟨rfl, hdocument⟩))

end Node

/-! ## The first fault -/

/-- Nothing that addresses lead to is at fault. -/
def IsSound (look : Address → Option Node) : Prop :=
  ∀ a n f, look a = some n → ¬n.HasFault f

theorem isSound_rowAt?_nil : IsSound (rowAt? []) := by
  intro a n f hn
  cases a <;> cases hn

/-- The fault `f` at the address `a` comes first: no address before it leads to a child that is at
fault, and no fault of the same child counts before it. -/
structure IsFirstFault (look : Address → Option Node) (a : Address) (f : Fault) : Prop where
  fault : ∃ n, look a = some n ∧ n.HasFault f
  first : ∀ b n g, look b = some n → n.HasFault g → a < b ∨ a = b ∧ f.rank ≤ g.rank

variable {n : Node} {row : List Node} {a : Address} {f : Fault}

/-- A child comes before those below it. -/
theorem IsFirstFault.here (h : n.fault? = some f) : IsFirstFault n.at? [] f where
  fault := ⟨n, rfl, (Node.hasFault_of_fault? h).1⟩
  first := by
    intro b m g hm hg
    cases b with
    | nil =>
      cases hm
      exact .inr ⟨rfl, (Node.hasFault_of_fault? h).2 g hg⟩
    | cons i more => exact .inl (List.nil_lt_cons i more)

theorem IsFirstFault.below (hn : ∀ g, ¬n.HasFault g) (h : IsFirstFault (rowAt? n.children) a f) :
    IsFirstFault n.at? a f where
  fault := by
    obtain ⟨m, hm, hf⟩ := h.fault
    cases a with
    | nil => cases hm
    | cons i more => exact ⟨m, by rw [Node.at?_cons, hm], hf⟩
  first := by
    intro b m g hm hg
    cases b with
    | nil =>
      cases hm
      exact absurd hg (hn g)
    | cons i more => exact h.first _ m g (by rw [← Node.at?_cons, hm]) hg

theorem IsFirstFault.head (h : IsFirstFault n.at? a f) :
    IsFirstFault (rowAt? (n :: row)) (0 :: a) f where
  fault := h.fault
  first := by
    intro b m g hm hg
    match b, hm with
    | 0 :: more, hm =>
      rcases h.first more m g hm hg with hlt | ⟨rfl, hle⟩
      · exact .inl (List.cons_lt_cons_iff.2 (.inr ⟨rfl, hlt⟩))
      · exact .inr ⟨rfl, hle⟩
    | (j + 1) :: more, _ => exact .inl (List.cons_lt_cons_iff.2 (.inl (Nat.succ_pos j)))

theorem IsFirstFault.tail {i : Nat} (hn : IsSound n.at?)
    (h : IsFirstFault (rowAt? row) (i :: a) f) :
    IsFirstFault (rowAt? (n :: row)) ((i + 1) :: a) f where
  fault := h.fault
  first := by
    intro b m g hm hg
    match b, hm with
    | 0 :: more, hm => exact absurd hg (hn more m g hm)
    | (j + 1) :: more, hm =>
      rcases h.first (j :: more) m g hm hg with hlt | ⟨heq, hle⟩
      · refine .inl (List.cons_lt_cons_iff.2 ?_)
        exact (List.cons_lt_cons_iff.1 hlt).imp Nat.succ_lt_succ (And.imp_left (congrArg _))
      · obtain ⟨rfl, rfl⟩ := List.cons.inj heq
        exact .inr ⟨rfl, hle⟩

/-! ## Building the tree -/

/-- What building a tree is to come to: something that is built when there is no fault, and else the
first fault, with the address that `place` makes of its own. -/
inductive IsVerdict {α : Type} (look : Address → Option Node) (place : Address → Address) :
    Except (Address × Fault) α → Prop
  | sound (x : α) (h : IsSound look) : IsVerdict look place (.ok x)
  | fault (a : Address) (f : Fault) (h : IsFirstFault look a f) :
    IsVerdict look place (.error (place a, f))

/-- Where children stand of which the first is child number `i` at the address `above`. -/
def rowPlace (above : Address) (i : Nat) : Address → Address
  | [] => above
  | j :: more => above ++ (i + j) :: more

theorem IsVerdict.map {α β : Type} {look : Address → Option Node} {place : Address → Address}
    {result : Except (Address × Fault) α} (g : α → β) (h : IsVerdict look place result) :
    IsVerdict look place (result.map g) := by
  cases h with
  | sound x h => exact .sound (g x) h
  | fault a f h => exact .fault a f h

/-- A child without a fault of its own is judged by its children. -/
theorem IsVerdict.below {α : Type} {above : Address} {result : Except (Address × Fault) α}
    (hn : ∀ g, ¬n.HasFault g) (h : IsVerdict (rowAt? n.children) (rowPlace above 0) result) :
    IsVerdict n.at? (above ++ ·) result := by
  cases h with
  | sound x h =>
    refine .sound x fun a m g hm => ?_
    cases a with
    | nil =>
      cases hm
      exact hn g
    | cons i more => exact h (i :: more) m g (by rw [← Node.at?_cons, hm])
  | fault a f h =>
    cases a with
    | nil =>
      obtain ⟨m, hm, -⟩ := h.fault
      cases hm
    | cons j more =>
      rw [rowPlace, Nat.zero_add]
      exact .fault (j :: more) f (h.below hn)

/-- A row is judged by its first child, and if that is sound by the others. -/
theorem IsVerdict.cons {above : Address} {i : Nat} {first : Except (Address × Fault) Element}
    {others : Except (Address × Fault) (List Element)}
    (hfirst : IsVerdict n.at? (above ++ [i] ++ ·) first)
    (hothers : IsVerdict (rowAt? row) (rowPlace above (i + 1)) others) :
    IsVerdict (rowAt? (n :: row)) (rowPlace above i)
      (match first with
        | .error e => .error e
        | .ok element => others.map (element :: ·)) := by
  cases hfirst with
  | fault a f h =>
    rw [List.append_assoc, List.singleton_append]
    exact .fault (0 :: a) f h.head
  | sound element h =>
    cases hothers with
    | sound elements hs =>
      refine .sound _ fun a m g hm => ?_
      match a, hm with
      | 0 :: more, hm => exact h more m g hm
      | (j + 1) :: more, hm => exact hs (j :: more) m g hm
    | fault a f hs =>
      cases a with
      | nil =>
        obtain ⟨m, hm, -⟩ := hs.fault
        cases hm
      | cons j more =>
        rw [rowPlace, show i + 1 + j = i + (j + 1) by omega]
        exact .fault ((j + 1) :: more) f (hs.tail h)

mutual

/-- **Building an element** succeeds when there is no fault at or below it, and else stops at the
first one. -/
theorem Node.toElement_verdict (address : Address) :
    (n : Node) → IsVerdict n.at? (address ++ ·) (n.toElement address)
  | .mk kind content line column children => by
    have hrow := Node.toElements_verdict address 0 children
    rcases Node.toElement_cases address (.mk kind content line column children) with
      ⟨f, hf, hbuilt⟩ | ⟨k, text, hf, hnil, hbuilt⟩ | ⟨k, hf, -, hbuilt⟩
    · rw [hbuilt]
      have hhere : IsVerdict (Node.at? (.mk kind content line column children)) (address ++ ·)
          (.error (address ++ [], f) : Except (Address × Fault) Element) := .fault [] f (.here hf)
      rwa [List.append_nil] at hhere
    · rw [hbuilt]
      refine IsVerdict.below (Node.fault?_eq_none_iff.1 hf) (.sound _ ?_)
      rw [hnil]
      exact isSound_rowAt?_nil
    · rw [hbuilt]
      exact (hrow.map (Element.node k)).below (Node.fault?_eq_none_iff.1 hf)

/-- The same for elements in a row, the first of which is child number `i`. -/
theorem Node.toElements_verdict (address : Address) (i : Nat) :
    (row : List Node) → IsVerdict (rowAt? row) (rowPlace address i)
      (Node.toElements address i row)
  | [] => .sound [] isSound_rowAt?_nil
  | n :: more => by
    rw [Node.toElements]
    exact (Node.toElement_verdict (address ++ [i]) n).cons
      (Node.toElements_verdict address (i + 1) more)

end

theorem toDocument_cases (dump : Dump) (filename : Option Text) :
    (IsSound dump.at? ∧ ∃ d, dump.toDocument filename = .ok d) ∨
      ∃ a f, IsFirstFault dump.at? a f ∧ dump.toDocument filename = .error (.fault a f) := by
  have hverdict := Node.toElements_verdict [] 0 dump.children
  rw [toDocument]
  cases hbuilt : Node.toElements [] 0 dump.children with
  | ok children =>
    rw [hbuilt] at hverdict
    cases hverdict with
    | sound _ h => exact .inl ⟨h, _, rfl⟩
  | error e =>
    rw [hbuilt] at hverdict
    cases hverdict with
    | fault a f h =>
      refine .inr ⟨a, f, h, ?_⟩
      cases a with
      | nil => rfl
      | cons j more => rw [rowPlace, List.nil_append, Nat.zero_add]

end Dump

/-- **Which dumps are trees, and what is wrong with the others.**  A dump of the right shape gives a
document when none of its children has a fault.  Otherwise the error names the first child in the
order of the tree that has one, and of its faults the one that counts first; no other child is
named in the same way. -/
theorem Document.ofDump_names_first_fault {data : Datum} {dump : Dump}
    (hshape : Dump.ofDatum data = .ok dump) (filename : Option Text) :
    ((∃ d, Document.ofDump data filename = .ok d) ↔
        ∀ a n f, dump.at? a = some n → ¬n.HasFault f) ∧
      ((∃ a n f, dump.at? a = some n ∧ n.HasFault f) →
        ∃ a n f, dump.at? a = some n ∧ n.HasFault f ∧
          (∀ b m g, dump.at? b = some m → m.HasFault g → a < b ∨ a = b ∧ f.rank ≤ g.rank) ∧
          Document.ofDump data filename = .error (.fault a f) ∧
          (Dump.Error.fault a f).message = Dump.wayText a ++ ": " ++ f.message) ∧
      ∀ a b, Dump.wayText a = Dump.wayText b → a = b := by
  have hbuilds : Document.ofDump data filename = dump.toDocument filename := by
    rw [Document.ofDump, hshape]
  rw [hbuilds]
  refine ⟨?_, ?_, fun a b h => Dump.wayText_injective h⟩
  · rcases dump.toDocument_cases filename with ⟨hsound, d, hd⟩ | ⟨a, f, hfirst, herror⟩
    · exact iff_of_true ⟨d, hd⟩ hsound
    · refine iff_of_false ?_ fun hsound => ?_
      · rintro ⟨d, hd⟩
        rw [herror] at hd
        cases hd
      · obtain ⟨n, hn, hf⟩ := hfirst.fault
        exact hsound a n f hn hf
  · rintro ⟨b, m, g, hm, hg⟩
    rcases dump.toDocument_cases filename with ⟨hsound, -⟩ | ⟨a, f, hfirst, herror⟩
    · exact absurd hg (hsound b m g hm)
    · obtain ⟨n, hn, hf⟩ := hfirst.fault
      exact ⟨a, n, f, hn, hf, hfirst.first, herror, rfl⟩

/-- A block that holds a word without content but with a child of no known kind, and behind the
block a document. -/
def Datum.tangled : Datum :=
  .mapping [Datum.entry "children" (.list [
    .mapping [
      Datum.entry "kind" (.text (.ofString "Block")),
      Datum.entry "children" (.list [
        .mapping [
          Datum.entry "kind" (.text (.ofString "Word")),
          Datum.entry "children" (.list [
            .mapping [Datum.entry "kind" (.text (.ofString "Gizmo"))]])]])],
    .mapping [Datum.entry "kind" (.text (.ofString "Document"))]])]

/-- The same data as a record. -/
def Dump.tangled : Dump where
  filename := none
  children := [
    .mk (.ofString "Block") none none none [
      .mk (.ofString "Word") none none none [.mk (.ofString "Gizmo") none none none []]],
    .mk (.ofString "Document") none none none []]

theorem Document.ofDump_names_first_fault_tangled :
    Dump.ofDatum .tangled = .ok .tangled ∧
      (∃ a n f, Dump.tangled.at? a = some n ∧ n.HasFault f) ∧
      ∃ a n f, Dump.tangled.at? a = some n ∧ n.HasFault f ∧
        Document.ofDump .tangled none = .error (.fault a f) ∧
        (Dump.Error.fault a f).message = "children[0].children[0]: Word token needs content" := by
  have hshape : Dump.ofDatum .tangled = .ok .tangled := rfl
  have hfault : ∃ a n f, Dump.tangled.at? a = some n ∧ n.HasFault f :=
    ⟨[1], _, _, rfl, .innerDocument rfl⟩
  have herror : Document.ofDump .tangled none =
      .error (.fault [0, 0] (.tokenWithoutContent .word)) := rfl
  obtain ⟨a, n, f, hn, hf, -, hnamed, -⟩ := (ofDump_names_first_fault hshape none).2.1 hfault
  obtain ⟨rfl, rfl⟩ := Dump.Error.fault.inj (Except.error.inj (herror.symm.trans hnamed))
  exact ⟨hshape, hfault, _, n, _, hn, hf, herror, by decide +kernel⟩

end JumpLint

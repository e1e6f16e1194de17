import JumpLint.Proofs.Yaml.Scalar
import JumpLint.Proofs.Yaml.Untyped
import JumpLint.Yaml.Typed

/-!
# What can be wrong with YAML with types

When scalars have types more things can go wrong: the text of a scalar may not keep the promise of
its type, and keys `<<` and `=` may lead further than there is room for.  While these are looked at
the graph changes, but entries only move from one mapping to another, the texts of scalars stay what
they are, and where a key `=` leads it has led before.  So whatever fails in this way fails because
of what stands in the text.

## What is here

* `Graph.LeadsTo`, `Graph.HasText`, `Graph.HasChain`: where keys `=` lead, to which texts, and how
  often on; `Error.IsTyped`: the errors of graphs with types.
* `Graph.IsFrom`: how graphs change; `Graph.gives_takeOver`: that taking over entries changes them
  in this way.
* `Typing.gives_look`, `Typing.failsOnly_run`: looking at nodes fails as graphs with types do.
* `failsOnly_readTyped`: the errors of texts in which scalars have types.
-/

set_option autoImplicit false
namespace JumpLint
namespace Yaml

open Scalar (coreTag)

/-! ## Errors -/

/-- A mapping has an entry with the key `=`, which leads to its value. -/
def Graph.LeadsTo (g : Graph) (a b : Nat) : Prop :=
  ∃ tag entries k, g[a]? = some ⟨tag, .mapping entries⟩ ∧ (k, b) ∈ entries ∧
    g.hasTag k "value" = true

/-- A node has the text of a scalar: it is the scalar, or leads to a node that has it. -/
inductive Graph.HasText (g : Graph) (text : Text) : Nat → Prop
  | scalar {n : Nat} {tag : Tag} (h : g[n]? = some ⟨tag, .scalar text⟩) : HasText g text n
  | leads {n m : Nat} (h : g.LeadsTo n m) (htext : HasText g text m) : HasText g text n

/-- From a node one is led on so many times. -/
inductive Graph.HasChain (g : Graph) : Nat → Nat → Prop
  | zero (n : Nat) : HasChain g 0 n
  | succ {times n m : Nat} (h : g.LeadsTo n m) (hm : HasChain g times m) :
      HasChain g (times + 1) n

/-- The errors of a graph in which scalars have types: it is no data, a node has a text that is no
value of its type, a mapping is to be a date, or keys `=` lead on more often than there is room
for. -/
inductive Error.IsTyped (g : Graph) (room : Nat) : Error → Prop where
  | malformed : IsTyped g room .malformed
  | scalar {n : Nat} {node : Node} {text : Text} {e : Error} (hnode : g[n]? = some node)
      (htext : g.HasText text n) (he : e.IsOfScalar (Graph.tagName node) text) : IsTyped g room e
  | momentOfMapping {n : Nat} {entries : List (Nat × Nat)}
      (hnode : g[n]? = some ⟨.named (coreTag "timestamp"), .mapping entries⟩) :
      IsTyped g room .momentOfMapping
  | chained {n : Nat} (h : g.HasChain (room + 1) n) : IsTyped g room .tooDeep

/-! ## Graphs that change -/

/-- A node is another one that has become a text, or has got other entries. -/
structure Node.IsFrom (node origin : Node) : Prop where
  tag : node.tag = origin.tag ∨ node.tag = .named (coreTag "str")
  content : node.content = origin.content ∨
    ∃ entries others, origin.content = .mapping entries ∧ node.content = .mapping others

theorem Node.IsFrom.refl (node : Node) : node.IsFrom node := ⟨.inl rfl, .inl rfl⟩

theorem Node.IsFrom.trans {a b c : Node} (hab : a.IsFrom b) (hbc : b.IsFrom c) : a.IsFrom c := by
  constructor
  case tag =>
    rcases hab.tag with h | h
    · rw [h]
      exact hbc.tag
    · exact .inr h
  case content =>
    rcases hab.content with h | ⟨entries, others, hb, ha⟩
    · rw [h]
      exact hbc.content
    · rcases hbc.content with h | ⟨entries, _, hc, _⟩
      · exact .inr ⟨entries, others, h ▸ hb, ha⟩
      · exact .inr ⟨entries, others, hc, ha⟩

/-- A node that has not become a text has the tag that it had. -/
theorem Node.IsFrom.tagName_eq {node origin : Node} (h : node.IsFrom origin)
    (hne : Graph.tagName node ≠ coreTag "str") : Graph.tagName node = Graph.tagName origin := by
  obtain ⟨tag, content⟩ := node
  obtain ⟨tag', content'⟩ := origin
  obtain ⟨rfl | rfl, hcontent⟩ := h
  · rcases hcontent with rfl | ⟨entries, others, rfl, rfl⟩
    · rfl
    · cases tag <;> rfl
  · exact absurd rfl hne

namespace Graph

/-- Each node of a graph is from the one with the same number. -/
def HasNodesFrom (g origin : Graph) : Prop :=
  ∀ (n : Nat) (a : Node), g[n]? = some a → ∃ b, origin[n]? = some b ∧ a.IsFrom b

/-- A graph is another one that has changed: its nodes are from those of the other, and where a key
`=` leads it has led before. -/
structure IsFrom (g origin : Graph) : Prop where
  nodes : g.HasNodesFrom origin
  leads : ∀ a b, g.LeadsTo a b → origin.LeadsTo a b

variable {g h k : Graph} {n : Nat}

theorem IsFrom.refl (g : Graph) : g.IsFrom g :=
  ⟨fun _ a ha => ⟨a, ha, .refl a⟩, fun _ _ => id⟩

theorem IsFrom.trans (hgh : g.IsFrom h) (hhk : h.IsFrom k) : g.IsFrom k := by
  refine ⟨fun n a ha => ?_, fun a b hab => hhk.leads a b (hgh.leads a b hab)⟩
  obtain ⟨b, hb, hab⟩ := hgh.nodes n a ha
  obtain ⟨c, hc, hbc⟩ := hhk.nodes n b hb
  exact ⟨c, hc, hab.trans hbc⟩

theorem hasTag_eq_true_iff {name : String} :
    g.hasTag n name = true ↔ ∃ a, g[n]? = some a ∧ tagName a = coreTag name := by
  rw [hasTag]
  cases g[n]? <;> simp

/-- Tags other than that of a text were there before. -/
theorem HasNodesFrom.hasTag_value (hhg : h.HasNodesFrom g) (htag : h.hasTag n "value" = true) :
    g.hasTag n "value" = true := by
  obtain ⟨a, ha, htag⟩ := hasTag_eq_true_iff.1 htag
  obtain ⟨b, hb, hab⟩ := hhg n a ha
  refine hasTag_eq_true_iff.2 ⟨b, hb, (hab.tagName_eq ?_).symm.trans htag⟩
  rw [htag]
  decide

theorem exists_of_entries? {entries : List (Nat × Nat)} (he : g.entries? n = some entries) :
    ∃ tag, g[n]? = some ⟨tag, .mapping entries⟩ := by
  rw [entries?.eq_def] at he
  split at he
  · rename_i tag found hnode
    cases he
    exact ⟨tag, hnode⟩
  · cases he

/-- A mapping that gets other entries is from the mapping that it was, if the keys `=` among them
are its own. -/
theorem isFrom_setEntries {found : List (Nat × Nat)} (hn : g.entries? n = some found)
    (entries : List (Nat × Nat))
    (hentries : ∀ e ∈ entries, g.hasTag e.1 "value" = true → e ∈ found) :
    (g.setEntries n entries).IsFrom g := by
  obtain ⟨tag, htag⟩ := exists_of_entries? hn
  have hget : ∀ (m : Nat) (a : Node), (g.setEntries n entries)[m]? = some a →
      g[m]? = some a ∨ m = n ∧ a = ⟨tag, .mapping entries⟩ := by
    intro m a ha
    rw [Graph.setEntries, Array.getElem?_modify] at ha
    split at ha
    · rename_i heq
      subst heq
      rw [htag] at ha
      exact .inr ⟨rfl, (Option.some.inj ha).symm⟩
    · exact .inl ha
  have hnodes : (g.setEntries n entries).HasNodesFrom g := by
    intro m a ha
    rcases hget m a ha with ha | ⟨rfl, rfl⟩
    · exact ⟨a, ha, .refl a⟩
    · exact ⟨_, htag, .inl rfl, .inr ⟨found, entries, rfl, rfl⟩⟩
  refine ⟨hnodes, ?_⟩
  rintro a b ⟨tag', others, key, ha, hmem, hkey⟩
  have hbefore := hnodes.hasTag_value hkey
  rcases hget a _ ha with ha | ⟨rfl, heq⟩
  · exact ⟨tag', others, key, ha, hmem, hbefore⟩
  · cases heq
    exact ⟨tag, found, key, htag, hentries _ hmem hbefore, hbefore⟩

/-- The keys of entries are no keys `=`. -/
def AreNamed (g : Graph) (entries : List (Nat × Nat)) : Prop :=
  ∀ e ∈ entries, g.hasTag e.1 "value" = false

theorem areNamed_nil (g : Graph) : g.AreNamed [] := fun _ h => absurd h List.not_mem_nil

/-- Keys that have become texts stay so. -/
theorem AreNamed.of_isFrom {entries : List (Nat × Nat)} (hentries : g.AreNamed entries)
    (hhg : h.IsFrom g) : h.AreNamed entries := by
  intro e he
  refine Bool.eq_false_iff.2 fun htag => ?_
  exact Bool.eq_false_iff.1 (hentries e he) (hhg.nodes.hasTag_value htag)

theorem AreNamed.append {entries others : List (Nat × Nat)} (hentries : g.AreNamed entries)
    (hothers : g.AreNamed others) : g.AreNamed (entries ++ others) :=
  List.forall_mem_append.2 ⟨hentries, hothers⟩

/-- One key that becomes a text. -/
def nameKey (g : Graph) (n : Nat) : Graph :=
  if g.hasTag n "value" then g.modify n fun node => { node with tag := .named (coreTag "str") }
  else g

theorem nameKeys_cons (g : Graph) (entry : Nat × Nat) (more : List (Nat × Nat)) :
    g.nameKeys (entry :: more) = (g.nameKey entry.1).nameKeys more := rfl

/-- What becomes of a node when a key becomes a text. -/
theorem getElem?_nameKey (g : Graph) (n m : Nat) :
    (g.nameKey n)[m]? = if n = m ∧ g.hasTag n "value" = true then
      g[m]?.map fun node => { node with tag := .named (coreTag "str") } else g[m]? := by
  rw [nameKey]
  split
  · rename_i hvalue
    rw [Array.getElem?_modify]
    simp only [hvalue, and_true]
  · rename_i hvalue
    rw [if_neg fun h => hvalue h.2]

theorem entries?_nameKey (g : Graph) (n m : Nat) : (g.nameKey n).entries? m = g.entries? m := by
  rw [entries?, entries?, getElem?_nameKey]
  by_cases h : n = m ∧ g.hasTag n "value" = true
  · rw [if_pos h]
    rcases g[m]? with _ | ⟨tag, content⟩
    · rfl
    · cases content <;> rfl
  · rw [if_neg h]

theorem entries?_nameKeys (g : Graph) (entries : List (Nat × Nat)) (n : Nat) :
    (g.nameKeys entries).entries? n = g.entries? n := by
  induction entries generalizing g with
  | nil => rfl
  | cons entry more ih => rw [nameKeys_cons, ih, entries?_nameKey]

/-- A key that becomes a text is from the key that it was. -/
theorem isFrom_nameKey (g : Graph) (n : Nat) : (g.nameKey n).IsFrom g := by
  have hnodes : (g.nameKey n).HasNodesFrom g := by
    intro m a ha
    rw [getElem?_nameKey] at ha
    split at ha
    · obtain ⟨b, hb, rfl⟩ := Option.map_eq_some_iff.1 ha
      exact ⟨b, hb, .inr rfl, .inl rfl⟩
    · exact ⟨a, ha, .refl a⟩
  refine ⟨hnodes, ?_⟩
  rintro a b ⟨tag, entries, key, ha, hmem, hkey⟩
  have hentries : g.entries? a = some entries := by
    rw [← entries?_nameKey g n, entries?, ha]
  obtain ⟨tag', ha'⟩ := exists_of_entries? hentries
  exact ⟨tag', entries, key, ha', hmem, hnodes.hasTag_value hkey⟩

theorem isFrom_nameKeys (g : Graph) (entries : List (Nat × Nat)) :
    (g.nameKeys entries).IsFrom g := by
  induction entries generalizing g with
  | nil => exact .refl g
  | cons entry more ih =>
    rw [nameKeys_cons]
    exact (ih _).trans (isFrom_nameKey g entry.1)

theorem hasTag_nameKey (g : Graph) (n : Nat) : (g.nameKey n).hasTag n "value" = false := by
  refine Bool.eq_false_iff.2 fun htag => ?_
  have hbefore := (isFrom_nameKey g n).nodes.hasTag_value htag
  obtain ⟨a, ha, htag⟩ := hasTag_eq_true_iff.1 htag
  rw [getElem?_nameKey, if_pos ⟨rfl, hbefore⟩] at ha
  obtain ⟨b, -, rfl⟩ := Option.map_eq_some_iff.1 ha
  have hne : coreTag "str" ≠ coreTag "value" := by decide
  exact hne htag

theorem areNamed_nameKeys (g : Graph) (entries : List (Nat × Nat)) :
    (g.nameKeys entries).AreNamed entries := by
  induction entries generalizing g with
  | nil => exact areNamed_nil _
  | cons entry more ih =>
    rw [nameKeys_cons]
    have hkey : (g.nameKey entry.1).AreNamed [entry] := by
      rintro e he
      rw [List.mem_singleton.1 he]
      exact hasTag_nameKey g entry.1
    exact (hkey.of_isFrom (isFrom_nameKeys _ more)).append (ih _)

theorem entries?_setEntries {found : List (Nat × Nat)} (hn : g.entries? n = some found)
    (entries : List (Nat × Nat)) : (g.setEntries n entries).entries? n = some entries := by
  obtain ⟨tag, htag⟩ := exists_of_entries? hn
  rw [entries?, setEntries, Array.getElem?_modify, if_pos rfl, htag]
  rfl

/-- What taking over entries leaves: a graph that is from the one before, in which no key of the
mapping is `=`. -/
structure IsTaken (h g : Graph) (n : Nat) : Prop where
  isFrom : h.IsFrom g
  areNamed : h.AreNamed ((h.entries? n).getD [])

/-- Other mappings are looked at with one level less of room. -/
theorem gives_inside {Q : Graph → Prop} {fuel room : Nat} {f : Nat → Except Error Graph}
    (hf : ∀ room, Gives (fun e => e = .malformed ∨ e = .tooDeep ∧ room < fuel) Q (f room)) :
    Gives (fun e => e = .malformed ∨ e = .tooDeep ∧ room < fuel + 1) Q (inside room f) := by
  cases room with
  | zero => exact .error (.inr ⟨rfl, Nat.succ_pos fuel⟩)
  | succ room =>
    exact (hf room).mono (fun _ => Or.imp_right (And.imp_right Nat.succ_lt_succ)) fun _ => id

/-- **Taking over entries** fails only for a graph that is no data, or if there are more keys `<<`
than levels of room, and else changes no more than entries and keys. -/
theorem gives_takeOver (g : Graph) (node : Nat) {taken : List (Nat × Nat)}
    (htaken : g.AreNamed taken) (fuel room : Nat) :
    Gives (fun e => e = .malformed ∨ e = .tooDeep ∧ room < fuel) (fun h : Graph => h.IsTaken g node)
      (g.takeOver node taken fuel room) := by
  induction fuel generalizing g node taken room with
  | zero => exact .error (.inl rfl)
  | succ fuel ih =>
    have hweaken : ∀ e, e = Error.malformed ∨ e = .tooDeep ∧ room < fuel →
        e = .malformed ∨ e = .tooDeep ∧ room < fuel + 1 :=
      fun _ => Or.imp_right (And.imp_right Nat.lt_succ_of_lt)
    rw [takeOver]
    split
    · exact .error (.inl rfl)
    · rename_i entries hentries
      split
      · -- No key is left to take out.
        have hnamed := isFrom_nameKeys g entries
        have hall := (htaken.of_isFrom hnamed).append (areNamed_nameKeys g entries)
        have hfound := (entries?_nameKeys g entries node).trans hentries
        have hset := isFrom_setEntries hfound (taken ++ entries) fun e he hvalue =>
          absurd hvalue (Bool.eq_false_iff.1 (hall e he))
        refine .ok ⟨hset.trans hnamed, ?_⟩
        rw [entries?_setEntries hfound]
        exact hall.of_isFrom hset
      · rename_i key source hfind
        have hset := isFrom_setEntries hentries (entries.erase (key, source)) fun e he _ =>
          List.mem_of_mem_erase he
        dsimp only
        generalize g.setEntries node (entries.erase (key, source)) = g' at hset ⊢
        have hdone : ∀ {h : Graph} {more : List (Nat × Nat)}, h.IsFrom g' → h.AreNamed more →
            Gives (fun e => e = .malformed ∨ e = .tooDeep ∧ room < fuel + 1)
              (fun h : Graph => h.IsTaken g node) (h.takeOver node (taken ++ more) fuel room) := by
          intro h more hh hmore
          have hhg := hh.trans hset
          refine (ih h node ((htaken.of_isFrom hhg).append hmore) room).mono hweaken fun k hk => ?_
          exact ⟨hk.isFrom.trans hhg, hk.areNamed⟩
        split
        · refine (gives_inside fun room => ih g' source (areNamed_nil g') room).bind fun h hh => ?_
          exact hdone hh.isFrom hh.areNamed
        · rename_i sources hsource
          refine Gives.bind (Q := fun found : Graph × List (List (Nat × Nat)) =>
              found.1.IsFrom g' ∧ found.1.AreNamed found.2.flatten)
            (Gives.foldlM (fun found source hfound => ?_) ⟨.refl g', areNamed_nil g'⟩ sources)
            fun found hfound => hdone hfound.1 hfound.2
          refine (gives_inside fun room => ih found.1 source (areNamed_nil _) room).bind
            fun h hh => .ok ?_
          exact ⟨hh.isFrom.trans hfound.1, hh.areNamed.append (hfound.2.of_isFrom hh.isFrom)⟩
        · exact .error (.inl rfl)

end Graph

theorem Node.IsFrom.eq_mapping {node origin : Node} (h : node.IsFrom origin)
    {entries : List (Nat × Nat)} (hnode : node.content = .mapping entries) :
    ∃ others, origin.content = .mapping others := by
  rcases h.content with heq | ⟨others, _, horigin, _⟩
  · exact ⟨entries, heq.symm.trans hnode⟩
  · exact ⟨others, horigin⟩

theorem Node.IsFrom.eq_scalar {node origin : Node} (h : node.IsFrom origin) {text : Text}
    (hnode : node.content = .scalar text) : origin.content = .scalar text := by
  rcases h.content with heq | ⟨_, _, _, hmapping⟩
  · exact heq.symm.trans hnode
  · cases hnode.symm.trans hmapping

/-- A text that a node of a changed graph has, it had before. -/
theorem Graph.HasText.of_isFrom {g h : Graph} {n : Nat} {text : Text} (hhg : h.IsFrom g)
    (ht : h.HasText text n) : g.HasText text n := by
  induction ht with
  | scalar hnode =>
    obtain ⟨⟨tag, content⟩, hfirst, hfrom⟩ := hhg.nodes _ _ hnode
    obtain rfl : content = .scalar text := hfrom.eq_scalar rfl
    exact .scalar hfirst
  | leads hleads _ ih => exact .leads (hhg.leads _ _ hleads) ih

theorem Graph.HasChain.of_isFrom {g h : Graph} {times n : Nat} (hhg : h.IsFrom g)
    (hc : h.HasChain times n) : g.HasChain times n := by
  induction hc with
  | zero n => exact .zero n
  | succ hleads _ ih => exact .succ (hhg.leads _ _ hleads) ih

/-- What is wrong with a graph that has changed was wrong with it before. -/
theorem Error.IsTyped.of_isFrom {g h : Graph} {room : Nat} {e : Error} (hhg : h.IsFrom g)
    (he : e.IsTyped h room) : e.IsTyped g room := by
  cases he with
  | malformed => exact .malformed
  | scalar hnode htext he =>
    obtain ⟨first, hfirst, hfrom⟩ := hhg.nodes _ _ hnode
    exact .scalar hfirst (htext.of_isFrom hhg) (hfrom.tagName_eq he.tag_ne ▸ he)
  | momentOfMapping hnode =>
    obtain ⟨⟨tag, content⟩, hfirst, hfrom⟩ := hhg.nodes _ _ hnode
    obtain ⟨others, rfl : content = .mapping others⟩ := hfrom.eq_mapping rfl
    have htag : .named (coreTag "timestamp") = tag := by
      refine hfrom.tag.resolve_right fun h => ?_
      exact absurd (Tag.named.inj h) (by decide)
    subst htag
    exact .momentOfMapping hfirst
  | chained hc => exact .chained (hc.of_isFrom hhg)

/-! ## Looking at nodes -/

namespace Graph

theorem leadsTo_of_textNode? {g : Graph} {a b : Nat} {tag : Tag} {entries : List (Nat × Nat)}
    (ha : g[a]? = some ⟨tag, .mapping entries⟩) (hb : g.textNode? entries = some b) :
    g.LeadsTo a b := by
  obtain ⟨⟨key, value⟩, hfind, rfl⟩ := Option.map_eq_some_iff.1 hb
  have hkey := List.find?_some hfind
  exact ⟨tag, entries, key, ha, List.mem_of_find?_eq_some hfind, hkey⟩

/-- **The text that is read at a node** is one that the node has, and want of room comes from keys
`=` that lead on. -/
theorem gives_scalarText (g : Graph) (room node : Nat) :
    Gives (fun e => e = .malformed ∨ e = .tooDeep ∧ g.HasChain (room + 1) node)
      (fun text => g.HasText text node) (g.scalarText room node) := by
  fun_induction scalarText g room node with
  | case1 room node tag text hnode => exact .ok (.scalar hnode)
  | case2 room node tag entries hnode hnone => exact .error (.inl rfl)
  | case3 node tag entries hnode n hlead =>
    exact .error (.inr ⟨rfl, .succ (leadsTo_of_textNode? hnode hlead) (.zero n)⟩)
  | case4 node tag entries hnode n room hlead ih =>
    have hleads := leadsTo_of_textNode? hnode hlead
    exact ih.mono (fun _ => Or.imp_right (And.imp_right (.succ hleads))) fun _ => .leads hleads
  | case5 room node hother => exact .error (.inl rfl)

/-- A mapping whose key `=` leads back to it has no text, however much room there is. -/
theorem scalarText_of_leads_back {g : Graph} {n : Nat} {tag : Tag} {entries : List (Nat × Nat)}
    (hn : g[n]? = some ⟨tag, .mapping entries⟩) (hback : g.textNode? entries = some n)
    (room : Nat) : g.scalarText room n = .error .tooDeep := by
  induction room with
  | zero =>
    rw [scalarText.eq_def, hn]
    dsimp only
    rw [hback]
  | succ room ih =>
    rw [scalarText.eq_def, hn]
    dsimp only
    rw [hback]
    exact ih

/-- Only a mapping that is named a date has the tag of a date. -/
theorem tag_of_tagName_mapping {tag : Tag} {entries : List (Nat × Nat)}
    (h : tagName ⟨tag, .mapping entries⟩ = coreTag "timestamp") :
    tag = .named (coreTag "timestamp") := by
  cases tag with
  | named name => exact congrArg Tag.named h
  | quoted =>
    have hne : coreTag "str" ≠ coreTag "timestamp" := by decide
    exact absurd h hne
  | byForm =>
    have hne : coreTag "map" ≠ coreTag "timestamp" := by decide
    exact absurd h hne

end Graph

/-- **One node.**  Unless its tag is that of a collection or of nothing known, the node has a text,
and that is read by the tag. -/
theorem failsOnly_givenOf {g : Graph} {room node : Nat} {n : Node} (hn : g[node]? = some n) :
    FailsOnly (Error.IsTyped g room) (givenOf g room node (Graph.tagName n)) := by
  rw [givenOf]
  refine .ite (.ok _) (.ite (.ok _) (.ite (.ok _) (.ite (.ok _) (.ite (.error .malformed) ?_))))
  have htext : Gives (Error.IsTyped g room) (fun text => g.HasText text node)
      (g.scalarText room node) := by
    refine (g.gives_scalarText room node).mono ?_ fun _ => id
    rintro e (rfl | ⟨rfl, hchain⟩)
    · exact .malformed
    · exact .chained hchain
  refine htext.failsOnly_bind fun text htext => ?_
  have hscalar : ∀ {e : Error}, e.IsOfScalar (Graph.tagName n) text → e.IsTyped g room :=
    .scalar hn htext
  generalize htag : Graph.tagName n = tag at hscalar ⊢
  refine .ite (.ok _) ?_
  split
  · rename_i h
    obtain rfl := beq_iff_eq.1 h
    exact .bind (fun e he => hscalar (.bool he)) fun _ => .ok _
  split
  · rename_i h
    obtain rfl := beq_iff_eq.1 h
    exact .bind (fun e he => hscalar (.int he)) fun _ => .ok _
  split
  · rename_i h
    obtain rfl := beq_iff_eq.1 h
    exact .bind (fun e he => hscalar (.float he)) fun _ => .ok _
  split
  · refine .bind ((Scalar.failsOnly_bytesOf text).mono fun e he => ?_) fun _ => .ok _
    exact he ▸ .malformed
  split
  · rename_i h
    obtain rfl := beq_iff_eq.1 h
    split
    · rename_i hentries
      obtain ⟨entries, hentries⟩ := Option.isSome_iff_exists.1 hentries
      obtain ⟨tag, hmapping⟩ := Graph.exists_of_entries? hentries
      obtain rfl := Option.some.inj (hn.symm.trans hmapping)
      obtain rfl := Graph.tag_of_tagName_mapping htag
      exact .error (.momentOfMapping hn)
    · exact .bind (fun e he => hscalar (.moment he)) fun _ => .ok _
  · exact .ok _

namespace Typing

variable {g : Graph} {room : Nat} {t : Typing}

/-- Looking around in a graph with so much room: the graph has changed as graphs do, and nothing
else has. -/
structure IsIn (g : Graph) (room : Nat) (t : Typing) : Prop where
  isFrom : t.graph.IsFrom g
  merges : t.merges = g.mergeCount
  room : t.room = room

/-- The errors that are met while one looks around: those of graphs with types, and want of room for
as many levels as there are keys `<<`. -/
abbrev Fails (g : Graph) (room : Nat) (e : Error) : Prop :=
  e.IsTyped g room ∨ e = .tooDeep ∧ room ≤ g.mergeCount

/-- A step of looking around fails for the graph and the room, and changes neither otherwise. -/
abbrev StaysIn (g : Graph) (room : Nat) (x : Except Error Typing) : Prop :=
  Gives (Fails g room) (IsIn g room) x

theorem gives_look (ht : t.IsIn g room) (node : Nat) :
    Gives (Fails g room) (fun found => found.1.IsIn g room) (t.look node) := by
  rw [look.eq_def]
  split
  · exact .ok ht
  · exact .error (.inl .malformed)
  · rename_i n hgiven hnode
    have hfails : FailsOnly (Fails g room) (givenOf t.graph t.room node (Graph.tagName n)) :=
      (failsOnly_givenOf hnode).mono fun e he => .inl (ht.room ▸ he.of_isFrom ht.isFrom)
    exact Gives.bind ⟨hfails, fun _ _ => trivial⟩ fun given _ => .ok ⟨ht.isFrom, ht.merges, ht.room⟩

theorem gives_lookAll (ht : t.IsIn g room) (nodes : List Nat) :
    StaysIn g room (t.lookAll nodes) :=
  Gives.foldlM (R := IsIn g room) (fun _ node ht => (gives_look ht node).map fun _ => id) ht nodes

theorem gives_lookEntries (ht : t.IsIn g room) (entries : List (Nat × Nat)) :
    StaysIn g room (t.lookEntries entries) := by
  refine Gives.foldlM (fun t entry ht => ?_) ht entries
  refine (gives_look ht entry.1).bind fun found hfound => ?_
  dsimp only
  split
  · exact .error (.inl .malformed)
  · exact (gives_look hfound entry.2).map fun _ => id

theorem failsOnly_pairOf (node : Nat) : FailsOnly (Fails g room) (pairOf t.graph node) := by
  rw [pairOf]
  split
  · exact .ok _
  · exact .error (.inl .malformed)

theorem gives_lookInside (ht : t.IsIn g room) (node : Nat) :
    StaysIn g room (t.lookInside node) := by
  have hentries : StaysIn g room (do
      let graph ← t.graph.takeOver node [] (t.merges + 1) t.room
      { t with graph := graph }.lookEntries ((graph.entries? node).getD [])) := by
    have hover := t.graph.gives_takeOver node t.graph.areNamed_nil (t.merges + 1) t.room
    refine Gives.bind (hover.mono ?_ fun _ => id) fun h hh => ?_
    · rintro e (rfl | ⟨rfl, hroom⟩)
      · exact .inl .malformed
      · rw [ht.merges, ht.room] at hroom
        exact .inr ⟨rfl, Nat.le_of_lt_succ hroom⟩
    · exact gives_lookEntries (t := { t with graph := h })
        ⟨hh.isFrom.trans ht.isFrom, ht.merges, ht.room⟩ _
  rw [lookInside.eq_def]
  split
  · exact gives_lookAll ht _
  · exact hentries
  · exact hentries
  · refine Gives.foldlM (R := IsIn g room) (fun t item ht => ?_) ht _
    exact Gives.bind ⟨failsOnly_pairOf item, fun _ _ => trivial⟩ fun entry _ => gives_lookAll ht _
  · exact .error (.inl .malformed)

theorem gives_finish (fuel : Nat) (ht : t.IsIn g room) : StaysIn g room (finish fuel t) := by
  induction fuel generalizing t with
  | zero => exact .ok ht
  | succ fuel ih =>
    rw [finish]
    split
    · exact .ok ht
    · rename_i node waiting hwaiting
      have hinside : StaysIn g room ({ t with waiting := waiting }.lookInside node) :=
        gives_lookInside (t := { t with waiting := waiting }) ⟨ht.isFrom, ht.merges, ht.room⟩ node
      exact hinside.bind fun _ => ih

/-- **Types for all nodes** of a graph: what fails, fails because of the graph and the room. -/
theorem failsOnly_run (g : Graph) (room root : Nat) :
    FailsOnly (Fails g room) (run g room root) :=
  ((gives_look ⟨.refl g, rfl, rfl⟩ root).bind fun _ hfound => gives_finish _ hfound).failsOnly

end Typing

/-! ## Texts -/

/-- **The errors of texts in which scalars have types**: those that are met while the graph is
read, and what is wrong with the graph. -/
theorem failsOnly_readTyped (depth room : Nat) (supply : Supply) :
    FailsOnly (fun e =>
      (Graph.read room supply = .error e ∧
        ((e.IsUntyped ∨ supply.fault? = some e) ∨ e = .tooDeep)) ∨
      ∃ g root, Graph.read room supply = .ok (some (g, root)) ∧ Typing.Fails g room e)
      (readTyped depth room supply) := by
  rw [readTyped]
  cases hread : Graph.read room supply with
  | error e => exact .error (.inl ⟨rfl, (takesRoom_read supply).failsOnly room e hread⟩)
  | ok found =>
    cases found with
    | none => exact FailsOnly.ok Datum.null
    | some found =>
      obtain ⟨g, root⟩ := found
      change FailsOnly _ (Typing.run g room root >>= fun t => .ok (t.datum depth root))
      refine .bind ((Typing.failsOnly_run g room root).mono fun e he => ?_) fun _ => .ok _
      exact .inr ⟨g, root, rfl, he⟩

end Yaml
end JumpLint

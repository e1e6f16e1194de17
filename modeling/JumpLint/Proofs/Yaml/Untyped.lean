import JumpLint.Proofs.Room
import JumpLint.Proofs.Yaml.Errors
import JumpLint.Yaml.Untyped

/-!
# What can be wrong with YAML without types

The grammar finds texts malformed, or stops where the tokens end and then fails with what is wrong
there, or comes to the end of its room.  When no scalar has a type nothing can go wrong after it but
that a node is inside itself or that a list is a key, which is malformed as well.  Every text needs
only so much room, and more makes no difference.

## What is here

* `Grammar.FailsAtEnd`: a step of reading that fails for the grammar, where the tokens end, or for
  want of room, beside the same step with more room; `Grammar.failsAtEnd_node` and the lemmas around
  it: all steps do.
* `takesRoom_read`: the errors that are met while the graph of a text is read, and that some amount
  of room is enough.
* `takesRoom_readUntyped`: the same for the data of texts in which no scalar has a type.
-/

set_option autoImplicit false
namespace JumpLint
namespace Yaml

/-! ## Steps of reading -/

/-- A step of reading with some room, and the same step with more.  The one fails for the grammar,
with what is wrong where the tokens end, or for want of room; it does not change how they end, and
unless it fails for want of room the other does the same. -/
def Grammar.FailsAtEnd {α : Type} (isEnough : Prop) (g more : Grammar α) : Prop :=
  ∀ s : Composing,
    WithRoom .tooDeep (fun e => e = .malformed ∨ e = s.onEnd) isEnough (g.run s) (more.run s) ∧
      ∀ a t, g.run s = .ok (a, t) → t.onEnd = s.onEnd

namespace Grammar

variable {isEnough : Prop}

namespace FailsAtEnd

variable {α β : Type} {g h : Grammar α}

theorem pure (a : α) : FailsAtEnd isEnough (pure a : Grammar α) (pure a) := by
  intro s
  refine ⟨.ok _, ?_⟩
  rintro _ _ ⟨⟩
  rfl

theorem fail : FailsAtEnd isEnough (fail : Grammar α) fail :=
  fun _ => ⟨.error (.inl rfl), nofun⟩

theorem bind {f k : α → Grammar β} (hg : FailsAtEnd isEnough g h)
    (hf : ∀ a, FailsAtEnd isEnough (f a) (k a)) : FailsAtEnd isEnough (g >>= f) (h >>= k) := by
  intro s
  obtain ⟨hroom, hkeeps⟩ := hg s
  rw [StateT.run_bind, StateT.run_bind]
  cases hrun : g.run s with
  | error e =>
    rw [hrun] at hroom
    refine ⟨⟨?_, ?_⟩, nofun⟩
    · exact .error (hroom.failsOnly e rfl)
    · rcases hroom.same with hfull | hsame
      · exact .inl (congrArg (· >>= _) hfull)
      · exact .inr (congrArg (· >>= _) hsame)
  | ok next =>
    rw [hrun] at hroom
    rw [hroom.same.resolve_left nofun]
    exact hkeeps _ _ hrun ▸ hf next.1 next.2

theorem map {f : α → β} (hg : FailsAtEnd isEnough g h) :
    FailsAtEnd isEnough (f <$> g) (f <$> h) := by
  rw [map_eq_pure_bind, map_eq_pure_bind]
  exact hg.bind fun a => .pure (f a)

/-- An item in front of others. -/
theorem cons {g h : Grammar (List α)} (hg : FailsAtEnd isEnough g h) (a : α) :
    FailsAtEnd isEnough
      (do
        let more ← g
        Pure.pure (a :: more))
      (do
        let more ← h
        Pure.pure (a :: more)) :=
  hg.bind fun more => .pure (a :: more)

theorem ite {c : Prop} [Decidable c] {g' h' : Grammar α} (hg : FailsAtEnd isEnough g h)
    (hg' : FailsAtEnd isEnough g' h') :
    FailsAtEnd isEnough (if c then g else g') (if c then h else h') := by
  split
  · exact hg
  · exact hg'

/-- What was enough for less is so for more. -/
theorem of_imp {other : Prop} (hg : FailsAtEnd isEnough g h) (himp : other → isEnough) :
    FailsAtEnd other g h :=
  fun s => ⟨(hg s).1.of_imp himp, (hg s).2⟩

/-- Inside a collection there is less fuel and less room. -/
theorem inside {fuel room more : Nat} (h : room ≤ more) {f : Nat → Grammar α}
    (hf : ∀ room more, room ≤ more → FailsAtEnd (fuel ≤ room) (f room) (f more)) :
    FailsAtEnd (fuel + 1 ≤ room) (Grammar.inside room f) (Grammar.inside more f) := by
  cases room with
  | zero => exact fun _ => ⟨.noRoom (Nat.not_succ_le_zero fuel), nofun⟩
  | succ room =>
    cases more with
    | zero => exact absurd h (Nat.not_succ_le_zero room)
    | succ more =>
      exact (hf room more (Nat.le_of_succ_le_succ h)).of_imp Nat.le_of_succ_le_succ

end FailsAtEnd

theorem failsAtEnd_get : FailsAtEnd isEnough (get : Grammar Composing) get := by
  intro s
  refine ⟨.ok _, ?_⟩
  rintro _ _ ⟨⟩
  rfl

/-- What is read does not change how the tokens end. -/
theorem failsAtEnd_modifyGet {α : Type} {f : Composing → α × Composing}
    (hf : ∀ s, (f s).2.onEnd = s.onEnd) :
    FailsAtEnd isEnough (modifyGet f : Grammar α) (modifyGet f) := by
  intro s
  refine ⟨.ok _, fun a t h => ?_⟩
  have hstate : f s = (a, t) := Except.ok.inj h
  have hend := hf s
  rwa [hstate] at hend

/-- Behind the last token stands what is wrong there. -/
theorem failsAtEnd_next : FailsAtEnd isEnough next next := by
  rintro ⟨tokens, onEnd, graph, anchors, handles⟩
  cases tokens with
  | nil => exact ⟨.error (.inr rfl), nofun⟩
  | cons t rest =>
    refine ⟨.ok _, ?_⟩
    rintro _ _ ⟨⟩
    rfl

theorem failsAtEnd_skip : FailsAtEnd isEnough skip skip := failsAtEnd_modifyGet fun _ => rfl

theorem failsAtEnd_add (node : Node) : FailsAtEnd isEnough (add node) (add node) :=
  failsAtEnd_modifyGet fun _ => rfl

theorem failsAtEnd_addEmpty : FailsAtEnd isEnough addEmpty addEmpty := failsAtEnd_add _

theorem failsAtEnd_addAnchor (anchor : Option String) (node : Nat) :
    FailsAtEnd isEnough (addAnchor anchor node) (addAnchor anchor node) := by
  rw [addAnchor.eq_def]
  split
  · exact failsAtEnd_modifyGet fun _ => rfl
  · exact .pure _

theorem failsAtEnd_addAround (anchor : Option String) (tag : Tag) {content more : Grammar Content}
    (h : FailsAtEnd isEnough content more) :
    FailsAtEnd isEnough (addAround anchor tag content) (addAround anchor tag more) :=
  .bind (failsAtEnd_add _) fun _ => .bind (failsAtEnd_addAnchor _ _) fun _ => .bind h fun _ =>
    .bind (failsAtEnd_modifyGet fun _ => rfl) fun _ => .pure _

theorem failsAtEnd_tagName (handle : Option String) (suffix : String) :
    FailsAtEnd isEnough (tagName handle suffix) (tagName handle suffix) := by
  rw [tagName.eq_def]
  split
  · exact .pure _
  · refine .bind failsAtEnd_get fun s => ?_
    split
    · exact .pure _
    · exact .fail

theorem failsAtEnd_properties : FailsAtEnd isEnough properties properties := by
  refine .bind failsAtEnd_next fun t => ?_
  split
  · refine .bind failsAtEnd_skip fun _ => .bind failsAtEnd_next fun t => ?_
    split
    · exact .bind failsAtEnd_skip fun _ => .bind (failsAtEnd_tagName _ _) fun _ => .pure _
    · exact .pure _
  · refine .bind failsAtEnd_skip fun _ => .bind failsAtEnd_next fun t => ?_
    split
    · exact .bind failsAtEnd_skip fun _ => .bind (failsAtEnd_tagName _ _) fun _ => .pure _
    · exact .bind (failsAtEnd_tagName _ _) fun _ => .pure _
  · exact .pure _

theorem failsAtEnd_orEmpty (ends : Token → Bool) {g h : Grammar Nat}
    (hg : FailsAtEnd isEnough g h) : FailsAtEnd isEnough (orEmpty ends g) (orEmpty ends h) :=
  .bind failsAtEnd_next fun _ => .ite failsAtEnd_addEmpty hg

theorem failsAtEnd_value (ends : Token → Bool) {g h : Grammar Nat}
    (hg : FailsAtEnd isEnough g h) : FailsAtEnd isEnough (value ends g) (value ends h) := by
  refine .bind failsAtEnd_next fun t => ?_
  split
  · exact .bind failsAtEnd_skip fun _ => failsAtEnd_orEmpty ends hg
  · exact failsAtEnd_addEmpty

theorem failsAtEnd_comma (isFirst : Bool) : FailsAtEnd isEnough (comma isFirst) (comma isFirst) :=
  .ite (.bind failsAtEnd_next fun _ => .ite failsAtEnd_skip .fail) (.pure ())

/-! ## Nodes -/

mutual

theorem failsAtEnd_node (fuel : Nat) {room more : Nat} (h : room ≤ more)
    (inBlock inMapping : Bool) :
    FailsAtEnd (fuel ≤ room) (node fuel room inBlock inMapping)
      (node fuel more inBlock inMapping) := by
  cases fuel with
  | zero =>
    rw [node, node]
    exact .fail
  | succ fuel =>
    rw [node, node]
    refine .bind failsAtEnd_next fun t => ?_
    split
    · refine .bind failsAtEnd_skip fun _ => .bind failsAtEnd_get fun s => ?_
      split
      · exact .pure _
      · exact .fail
    · refine .bind failsAtEnd_properties fun found => .bind failsAtEnd_get fun s => ?_
      refine .ite .fail (.bind failsAtEnd_next fun t => ?_)
      split
      · exact .bind failsAtEnd_skip fun _ => .bind (failsAtEnd_add _) fun _ =>
          .bind (failsAtEnd_addAnchor _ _) fun _ => .pure _
      · exact .bind failsAtEnd_skip fun _ => failsAtEnd_addAround _ _ <|
          .inside h fun _ _ h => (failsAtEnd_flowItems fuel h _).map
      · exact .bind failsAtEnd_skip fun _ => failsAtEnd_addAround _ _ <|
          .inside h fun _ _ h => (failsAtEnd_flowEntries fuel h _).map
      · exact failsAtEnd_addAround _ _ <|
          .inside h fun _ _ h => (failsAtEnd_openItems fuel h).map
      · exact .bind failsAtEnd_skip fun _ => failsAtEnd_addAround _ _ <|
          .inside h fun _ _ h => (failsAtEnd_blockItems fuel h).map
      · exact .bind failsAtEnd_skip fun _ => failsAtEnd_addAround _ _ <|
          .inside h fun _ _ h => (failsAtEnd_blockEntries fuel h).map
      · exact .ite (.bind (failsAtEnd_add _) fun _ =>
          .bind (failsAtEnd_addAnchor _ _) fun _ => .pure _) .fail

theorem failsAtEnd_blockItems (fuel : Nat) {room more : Nat} (h : room ≤ more) :
    FailsAtEnd (fuel ≤ room) (blockItems fuel room) (blockItems fuel more) := by
  cases fuel with
  | zero =>
    rw [blockItems, blockItems]
    exact .fail
  | succ fuel =>
    rw [blockItems, blockItems]
    have hnode := (failsAtEnd_node fuel h true false).of_imp Nat.le_of_succ_le
    have hmore := (failsAtEnd_blockItems fuel h).of_imp Nat.le_of_succ_le
    refine .bind failsAtEnd_next fun t => ?_
    split
    · exact .bind failsAtEnd_skip fun _ => .bind (failsAtEnd_orEmpty _ hnode) hmore.cons
    · exact .bind failsAtEnd_skip fun _ => .pure _
    · exact .fail

theorem failsAtEnd_openItems (fuel : Nat) {room more : Nat} (h : room ≤ more) :
    FailsAtEnd (fuel ≤ room) (openItems fuel room) (openItems fuel more) := by
  cases fuel with
  | zero =>
    rw [openItems, openItems]
    exact .fail
  | succ fuel =>
    rw [openItems, openItems]
    have hnode := (failsAtEnd_node fuel h true false).of_imp Nat.le_of_succ_le
    have hmore := (failsAtEnd_openItems fuel h).of_imp Nat.le_of_succ_le
    refine .bind failsAtEnd_next fun t => ?_
    split
    · exact .bind failsAtEnd_skip fun _ => .bind (failsAtEnd_orEmpty _ hnode) hmore.cons
    · exact .pure _

theorem failsAtEnd_blockEntries (fuel : Nat) {room more : Nat} (h : room ≤ more) :
    FailsAtEnd (fuel ≤ room) (blockEntries fuel room) (blockEntries fuel more) := by
  cases fuel with
  | zero =>
    rw [blockEntries, blockEntries]
    exact .fail
  | succ fuel =>
    rw [blockEntries, blockEntries]
    have hnode := (failsAtEnd_node fuel h true true).of_imp Nat.le_of_succ_le
    have hmore := (failsAtEnd_blockEntries fuel h).of_imp Nat.le_of_succ_le
    refine .bind failsAtEnd_next fun t => ?_
    split
    · exact .bind failsAtEnd_skip fun _ => .bind (failsAtEnd_orEmpty _ hnode) fun key =>
        .bind (failsAtEnd_value _ hnode) fun value => hmore.cons (key, value)
    · exact .bind failsAtEnd_skip fun _ => .pure _
    · exact .fail

theorem failsAtEnd_flowItems (fuel : Nat) {room more : Nat} (h : room ≤ more) (isFirst : Bool) :
    FailsAtEnd (fuel ≤ room) (flowItems fuel room isFirst) (flowItems fuel more isFirst) := by
  cases fuel with
  | zero =>
    rw [flowItems, flowItems]
    exact .fail
  | succ fuel =>
    rw [flowItems, flowItems]
    have hnode := (failsAtEnd_node fuel h false false).of_imp Nat.le_of_succ_le
    have hmore := (failsAtEnd_flowItems fuel h false).of_imp Nat.le_of_succ_le
    refine .bind failsAtEnd_next fun t => .ite (.bind failsAtEnd_skip fun _ => .pure _) ?_
    refine .bind (failsAtEnd_comma isFirst) fun _ => .bind failsAtEnd_next fun t => ?_
    split
    · exact .bind failsAtEnd_skip fun _ => .pure _
    · refine .bind failsAtEnd_skip fun _ => .bind (failsAtEnd_addAround _ _ ?_) hmore.cons
      -- the mapping of one entry is one level further inside
      refine .inside h fun _ _ h => ?_
      have hinner := failsAtEnd_node fuel h false false
      exact .bind (failsAtEnd_orEmpty _ hinner) fun _ => .bind (failsAtEnd_value _ hinner) fun _ =>
        .pure _
    · exact .bind hnode hmore.cons

theorem failsAtEnd_flowEntries (fuel : Nat) {room more : Nat} (h : room ≤ more) (isFirst : Bool) :
    FailsAtEnd (fuel ≤ room) (flowEntries fuel room isFirst) (flowEntries fuel more isFirst) := by
  cases fuel with
  | zero =>
    rw [flowEntries, flowEntries]
    exact .fail
  | succ fuel =>
    rw [flowEntries, flowEntries]
    have hnode := (failsAtEnd_node fuel h false false).of_imp Nat.le_of_succ_le
    have hmore := (failsAtEnd_flowEntries fuel h false).of_imp Nat.le_of_succ_le
    refine .bind failsAtEnd_next fun t => .ite (.bind failsAtEnd_skip fun _ => .pure _) ?_
    refine .bind (failsAtEnd_comma isFirst) fun _ => .bind failsAtEnd_next fun t => ?_
    split
    · exact .bind failsAtEnd_skip fun _ => .pure _
    · exact .bind failsAtEnd_skip fun _ => .bind (failsAtEnd_orEmpty _ hnode) fun key =>
        .bind (failsAtEnd_value _ hnode) fun value => hmore.cons (key, value)
    · exact .bind hnode fun key => .bind failsAtEnd_addEmpty fun value => hmore.cons (key, value)

end

/-! ## Documents -/

theorem failsAtEnd_directives (fuel : Nat) (hasVersion : Bool) (handles : List (String × String)) :
    FailsAtEnd isEnough (directives fuel hasVersion handles)
      (directives fuel hasVersion handles) := by
  induction fuel generalizing hasVersion handles with
  | zero => exact .fail
  | succ fuel ih =>
    refine .bind failsAtEnd_next fun t => ?_
    split
    · exact .bind failsAtEnd_skip fun _ => .ite .fail (ih _ _)
    · exact .bind failsAtEnd_skip fun _ => .ite .fail (ih _ _)
    · exact .bind failsAtEnd_skip fun _ => ih _ _
    · exact .bind failsAtEnd_skip fun _ => .pure _
    · exact .fail

theorem failsAtEnd_document (fuel : Nat) {room more : Nat} (h : room ≤ more) :
    FailsAtEnd (fuel ≤ room) (document fuel room) (document fuel more) := by
  have hnode := (failsAtEnd_node fuel h true false).map (f := some)
  refine .bind failsAtEnd_next fun t => ?_
  split
  · exact .pure _
  · refine .ite ?_ hnode
    refine .bind (failsAtEnd_directives _ _ _) fun handles => ?_
    refine .bind (failsAtEnd_modifyGet fun _ => rfl) fun _ => .bind failsAtEnd_next fun t => ?_
    exact .ite failsAtEnd_addEmpty.map hnode

theorem failsAtEnd_ending (fuel : Nat) : FailsAtEnd isEnough (ending fuel) (ending fuel) := by
  induction fuel with
  | zero => exact .fail
  | succ fuel ih =>
    refine .bind failsAtEnd_next fun t => ?_
    split
    · exact .bind failsAtEnd_skip fun _ => ih
    · exact .pure _
    · exact .fail

theorem failsAtEnd_whole (fuel : Nat) {room more : Nat} (h : room ≤ more) :
    FailsAtEnd (fuel ≤ room) (whole fuel room) (whole fuel more) :=
  .bind (failsAtEnd_document fuel h) fun _ => .bind (failsAtEnd_ending fuel) fun _ => .pure _

end Grammar

/-- Behind the last token stands a fault of the lexer or of the text. -/
theorem onEnd_scan (supply : Supply) :
    ((scan supply).error?.getD .malformed).IsUntyped ∨
      supply.fault? = some ((scan supply).error?.getD .malformed) := by
  cases herror : (scan supply).error? with
  | none => exact .inl .malformed
  | some e => exact scan_error herror

/-- **The graph of a text** is read, or the text fails as texts without types do, or with the fault
that is met in it, or for want of room; and there is an amount of room that is enough. -/
theorem takesRoom_read (supply : Supply) :
    TakesRoom .tooDeep (fun e => e.IsUntyped ∨ supply.fault? = some e) fun room =>
      Graph.read room supply := by
  refine ⟨2 * (scan supply).tokens.length + 4, fun room more h => ?_⟩
  have hend := onEnd_scan supply
  beta_reduce
  rw [Graph.read, Graph.read]
  generalize scan supply = tokens at hend ⊢
  have hrun := (Grammar.failsAtEnd_whole (2 * tokens.tokens.length + 4) h
    ⟨tokens.tokens, tokens.error?.getD .malformed, #[], [], Grammar.commonHandles⟩).1
  refine .bind ⟨hrun.failsOnly.mono fun e he => ?_, hrun.same⟩ fun _ => .ok _
  refine he.imp_left ?_
  rintro (rfl | rfl)
  · exact .inl .malformed
  · exact hend

/-! ## Data -/

theorem failsOnly_untyped (g : Graph) (depth node : Nat) :
    FailsOnly Error.IsUntyped (g.untyped depth node) := by
  induction depth generalizing node with
  | zero => exact .error .malformed
  | succ depth ih =>
    rw [Graph.untyped]
    split
    · exact .error .malformed
    · exact .ok _
    · exact .bind (.mapM ih _) fun _ => .ok _
    · refine .bind (.mapM (fun entry => ?_) _) fun _ => .ok _
      refine .bind (ih _) fun key => ?_
      exact .ite (.bind (ih _) fun _ => .ok _) (.error .malformed)

/-- **A text without types** is data, or it is malformed, gives a character by a number that no
character has, or a version by a number that is too long, or there is not room enough; and there is
an amount of room that is enough. -/
theorem takesRoom_readUntyped (text : String) :
    TakesRoom .tooDeep Error.IsUntyped fun room => readUntyped room text := by
  have hread := (takesRoom_read (.ofText text.toList)).mono fun e (he : e.IsUntyped ∨ _) =>
    he.elim id isUntyped_of_ofText
  refine hread.bind fun found => ?_
  split
  · exact .ok _
  · exact failsOnly_untyped _ _ _

end Yaml
end JumpLint

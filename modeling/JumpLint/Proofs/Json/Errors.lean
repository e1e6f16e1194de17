import JumpLint.Json
import JumpLint.Proofs.Room

/-!
# What can be wrong with a JSON text

The readers of JSON say of every text that has no value where the fault is.  Two things are no fault
of this kind: a whole number with more digits than are read at all, and brackets in brackets beyond
the room that there is.  Here it is shown that there is nothing else, and that every text needs only
so much room.

## What is here

* `Json.Failure.Occurs`: the failures that have nothing to do with room;
  `Json.withRoom_readValue` and the lemmas in front of it: each reader fails with these, or for want
  of room, and more room makes no other difference.
* `Json.Error.IsOfText`, `Json.takesRoom_read`: a text is read, or has a fault at a place, or has a
  number that is too long, or there is not room enough; and some amount of room is enough.
-/

set_option autoImplicit false
namespace JumpLint
namespace Json

/-- The failures that have nothing to do with room: faults, and whole numbers with too many
digits. -/
inductive Failure.Occurs : Failure → Prop where
  | fault (fault : Fault) (offset : Nat) : Occurs (.fault fault offset)
  | tooLong {digits : Nat} (h : Number.maxDigits < digits) : Occurs (.number (.tooLong digits))

/-! ## Words and numbers -/

theorem failsOnly_readText (start : Nat) (spelled : Text.Spelled) (offset : Nat) (s : List Char) :
    FailsOnly Failure.Occurs (readText start spelled offset s) := by
  fun_induction readText start spelled offset s <;>
    first | assumption | exact .ok _ | exact .error (.fault _ _)

theorem failsOnly_readNumber (offset : Nat) (s : List Char) :
    FailsOnly Failure.Occurs (readNumber offset s) := by
  rw [readNumber.eq_def]
  extract_lets body negative whole afterWhole fraction afterFraction values
  split
  · exact .error (.fault _ _)
  · split
    · exact .ok _
    · split
      · split
        · rename_i hlong
          exact .error (.tooLong hlong)
        · exact .ok _
      · exact .ok _

theorem failsOnly_readAtom (offset : Nat) (s : List Char) :
    FailsOnly Failure.Occurs (readAtom offset s) := by
  rw [readAtom]
  split
  · exact .ok _
  · exact failsOnly_readNumber offset s

/-! ## Values -/

/-- A reader with some room and with more, where as much room as fuel is enough. -/
abbrev Reads {α : Type} (fuel room : Nat) (x y : Except Failure α) : Prop :=
  WithRoom .tooDeep Failure.Occurs (fuel ≤ room) x y

theorem withRoom_readText (start : Nat) (spelled : Text.Spelled) (offset : Nat) (s : List Char)
    {fuel room : Nat} :
    Reads fuel room (readText start spelled offset s) (readText start spelled offset s) :=
  .of_failsOnly (failsOnly_readText start spelled offset s)

/-- Inside brackets there is less fuel and less room. -/
theorem withRoom_inside {α : Type} {fuel room more : Nat} (h : room ≤ more)
    {f : Nat → Except Failure α}
    (hf : ∀ room more, room ≤ more → Reads fuel room (f room) (f more)) :
    Reads (fuel + 1) room (inside room >>= f) (inside more >>= f) := by
  cases room with
  | zero => exact .noRoom (Nat.not_succ_le_zero fuel)
  | succ room =>
    obtain ⟨more, rfl⟩ := Nat.exists_eq_succ_of_ne_zero (Nat.ne_of_gt (Nat.lt_of_lt_of_le
      (Nat.succ_pos room) h))
    exact (hf room more (Nat.le_of_succ_le_succ h)).of_imp Nat.le_of_succ_le_succ

mutual

theorem withRoom_readValue (fuel : Nat) {room more : Nat} (h : room ≤ more) (offset : Nat)
    (s : List Char) :
    Reads fuel room (readValue fuel room offset s) (readValue fuel more offset s) := by
  cases fuel with
  | zero =>
    rw [readValue, readValue]
    exact .error (.fault _ _)
  | succ fuel =>
    rw [readValue.eq_def, readValue.eq_def (fuel + 1) more]
    dsimp only
    split
    · exact .bind (withRoom_readText _ _ _ _) fun text => .ok _
    · refine withRoom_inside h fun room more h => ?_
      split
      · exact .ok _
      · exact .bind (withRoom_readItems fuel h _ _) fun items => .ok _
    · refine withRoom_inside h fun room more h => ?_
      split
      · exact .ok _
      · exact .bind (withRoom_readEntries fuel h _ _) fun entries => .ok _
    · exact .of_failsOnly (failsOnly_readAtom _ _)

theorem withRoom_readItems (fuel : Nat) {room more : Nat} (h : room ≤ more) (offset : Nat)
    (s : List Char) :
    Reads fuel room (readItems fuel room offset s) (readItems fuel more offset s) := by
  cases fuel with
  | zero =>
    rw [readItems, readItems]
    exact .error (.fault _ _)
  | succ fuel =>
    rw [readItems, readItems]
    refine .bind ((withRoom_readValue fuel h _ _).of_imp Nat.le_of_succ_le) fun item => ?_
    dsimp only
    split
    · exact .ok _
    · exact .bind ((withRoom_readItems fuel h _ _).of_imp Nat.le_of_succ_le) fun rest => .ok _
    · exact .error (Failure.Occurs.fault _ _)

theorem withRoom_readEntries (fuel : Nat) {room more : Nat} (h : room ≤ more) (offset : Nat)
    (s : List Char) :
    Reads fuel room (readEntries fuel room offset s) (readEntries fuel more offset s) := by
  cases fuel with
  | zero =>
    rw [readEntries, readEntries]
    exact .error (.fault _ _)
  | succ fuel =>
    rw [readEntries.eq_def, readEntries.eq_def (fuel + 1) more]
    dsimp only
    split
    · refine .bind (withRoom_readText _ _ _ _) fun name => ?_
      split
      · refine .bind ((withRoom_readValue fuel h _ _).of_imp Nat.le_of_succ_le) fun value => ?_
        split
        · exact .ok _
        · exact .bind ((withRoom_readEntries fuel h _ _).of_imp Nat.le_of_succ_le) fun rest => .ok _
        · exact .error (Failure.Occurs.fault _ _)
      · exact .error (Failure.Occurs.fault _ _)
    · exact .error (Failure.Occurs.fault _ _)

end

/-! ## Texts -/

variable {room more : Nat}

theorem withRoom_readWhole (h : room ≤ more) (s : List Char) :
    Reads (2 * s.length + 2) room (readWhole room s) (readWhole more s) := by
  rw [readWhole.eq_def, readWhole.eq_def more]
  split
  · exact .error (Failure.Occurs.fault _ _)
  · refine .bind (withRoom_readValue _ h _ _) fun value => ?_
    dsimp only
    split
    · exact .ok _
    · exact .error (Failure.Occurs.fault _ _)

/-- What can be wrong with a text: a fault at a place, or a whole number that is too long. -/
inductive Error.IsOfText : Error → Prop where
  | malformed (fault : Fault) (line column offset : Nat) :
      IsOfText (.malformed fault line column offset)
  | tooLong {digits : Nat} (h : Number.maxDigits < digits) : IsOfText (.number (.tooLong digits))

/-- **A text is read**, or something is wrong with it, or there is not room enough; and there is an
amount of room that is enough. -/
theorem takesRoom_read (text : String) :
    TakesRoom .tooDeep Error.IsOfText fun room => read room text := by
  have hwhole : TakesRoom .tooDeep Failure.Occurs fun room => readWhole room text.toList :=
    ⟨_, fun room more h => withRoom_readWhole h text.toList⟩
  refine hwhole.mapError rfl fun e he => ?_
  cases he with
  | fault => exact .malformed _ _ _ _
  | tooLong h => exact .tooLong h

example : read 1 "[[]]" = .error .tooDeep ∧ (read 2 "[[]]").isOk = true := by decide +kernel

end Json
end JumpLint

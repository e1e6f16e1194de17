import JumpLint.Text.Pieces
import Mathlib.Data.List.Induction

/-!
# Files that are read to their end

A chunk of a file may end in the middle of a character.  The bytes that have come of it are kept for
the next chunk, and which bytes these are is seen from the end of the chunk alone: no character ends
like the beginning of another one.  So in a file that is text no chunk is at fault.

## What is here

* `Text.IsSequence`: the bytes of one character; `Text.isSequence_utf8EncodeChar`.
* `Text.openCount_encode_append`: how many bytes at the end of a chunk begin a character.
* `Text.Inflow.IsText`: what has not been decoded is text; all that is taken leaves it so.
* `Text.readPieces_of_isValidUTF8`: a file that is text is read to its end.
-/

set_option autoImplicit false
namespace JumpLint
namespace Text

/-! ## The bytes of a character -/

theorem isContinuation_iff {b : UInt8} :
    isContinuation b = true ↔ 0x80 ≤ b.toNat ∧ b.toNat ≤ 0xBF := by
  simp [isContinuation, UInt8.le_iff_toNat_le]

theorem mayFollow_iff {a b : UInt8} :
    mayFollow a b = true ↔ isContinuation b = true ∧ (a.toNat = 0xE0 → 0xA0 ≤ b.toNat) ∧
      (a.toNat = 0xED → b.toNat ≤ 0x9F) ∧ (a.toNat = 0xF0 → 0x90 ≤ b.toNat) ∧
      (a.toNat = 0xF4 → b.toNat ≤ 0x8F) := by
  simp only [mayFollow, isContinuation, UInt8.le_iff_toNat_le, ← UInt8.toNat_inj, beq_iff_eq,
    UInt8.reduceToNat]
  repeat' split
  all_goals simp only [Bool.and_eq_true, decide_eq_true_eq]; omega

/-- The bytes of one character. -/
inductive IsSequence : List UInt8 → Prop
  | one {a : UInt8} (ha : a.toNat < 0x80) : IsSequence [a]
  | two {a b : UInt8} (ha : 0xC2 ≤ a.toNat ∧ a.toNat ≤ 0xDF) (hb : isContinuation b = true) :
      IsSequence [a, b]
  | three {a b c : UInt8} (ha : 0xE0 ≤ a.toNat ∧ a.toNat ≤ 0xEF) (hb : mayFollow a b = true)
      (hc : isContinuation c = true) : IsSequence [a, b, c]
  | four {a b c d : UInt8} (ha : 0xF0 ≤ a.toNat ∧ a.toNat ≤ 0xF4) (hb : mayFollow a b = true)
      (hc : isContinuation c = true) (hd : isContinuation d = true) : IsSequence [a, b, c, d]

theorem isSequence_utf8EncodeChar (c : Char) : IsSequence (String.utf8EncodeChar c) := by
  have hvalid : c.val.toNat < 0xD800 ∨ 0xDFFF < c.val.toNat ∧ c.val.toNat < 0x110000 := c.valid
  have hsize : UInt8.size = 256 := rfl
  have htail : ∀ n, isContinuation (UInt8.ofNat (n % 0x40 + 0x80)) = true := by
    intro n
    rw [isContinuation_iff, UInt8.toNat_ofNat_of_lt' (by omega)]
    omega
  rw [String.utf8EncodeChar.eq_def]
  dsimp only
  generalize c.val.toNat = v at hvalid
  split
  · exact .one (by rw [UInt8.toNat_ofNat_of_lt'] <;> omega)
  · split
    · exact .two (by rw [UInt8.toNat_ofNat_of_lt'] <;> omega) (htail v)
    · split
      · refine .three (by rw [UInt8.toNat_ofNat_of_lt'] <;> omega)
          (mayFollow_iff.2 ⟨htail _, ?_⟩) (htail v)
        rw [UInt8.toNat_ofNat_of_lt' (by omega), UInt8.toNat_ofNat_of_lt' (by omega)]
        omega
      · refine .four (by rw [UInt8.toNat_ofNat_of_lt'] <;> omega) (mayFollow_iff.2 ⟨htail _, ?_⟩)
          (htail _) (htail v)
        rw [UInt8.toNat_ofNat_of_lt' (by omega), UInt8.toNat_ofNat_of_lt' (by omega)]
        omega

namespace IsSequence

variable {q p : List UInt8}

/-- The first byte is told from all others. -/
theorem exists_cons (h : IsSequence q) : ∃ a tail, q = a :: tail ∧ isContinuation a = false ∧
    ∀ b ∈ tail, isContinuation b = true := by
  have hfirst : ∀ a : UInt8, a.toNat < 0x80 ∨ 0xC2 ≤ a.toNat → isContinuation a = false := by
    intro a ha
    rw [Bool.eq_false_iff, Ne, isContinuation_iff]
    omega
  cases h with
  | @one a ha => exact ⟨a, [], rfl, hfirst a (.inl ha), nofun⟩
  | @two a b ha hb => exact ⟨a, [b], rfl, hfirst a (.inr ha.1), by simpa using hb⟩
  | @three a b c ha hb hc =>
    exact ⟨a, [b, c], rfl, hfirst a (.inr (by omega)), by simp [(mayFollow_iff.1 hb).1, hc]⟩
  | @four a b c d ha hb hc hd =>
    exact ⟨a, [b, c, d], rfl, hfirst a (.inr (by omega)),
      by simp [(mayFollow_iff.1 hb).1, hc, hd]⟩

/-- A whole character is not open. -/
theorem isOpen_reverse (h : IsSequence q) : isOpen q.reverse = false := by
  cases h <;> simp [isOpen, UInt8.le_iff_toNat_le] <;> omega

/-- The beginning of a character is open. -/
theorem isOpen_reverse_take (h : IsSequence q) {n : Nat} (hn : 0 < n) (hlt : n < q.length) :
    isOpen (q.take n).reverse = true := by
  cases h with
  | one => simp at hlt; omega
  | two ha hb =>
    have hone : n = 1 := by simp at hlt; omega
    simp [hone, isOpen, UInt8.le_iff_toNat_le]
    omega
  | three ha hb hc =>
    have hcases : n = 1 ∨ n = 2 := by simp at hlt; omega
    rcases hcases with rfl | rfl <;> simp [isOpen, UInt8.le_iff_toNat_le, hb] <;> omega
  | four ha hb hc hd =>
    have hcases : n = 1 ∨ n = 2 ∨ n = 3 := by simp at hlt; omega
    rcases hcases with rfl | rfl | rfl <;> simp [isOpen, UInt8.le_iff_toNat_le, hb, hc] <;> omega

end IsSequence

/-- In what is open the last byte is the first one of a character, and the others are not. -/
theorem of_isOpen {l : List UInt8} (h : isOpen l = true) :
    (∀ b ∈ l.dropLast, isContinuation b = true) ∧ ∃ lead ∈ l, isContinuation lead = false := by
  have hfirst : ∀ a : UInt8, 0xC2 ≤ a.toNat → isContinuation a = false := by
    intro a ha
    rw [Bool.eq_false_iff, Ne, isContinuation_iff]
    omega
  rw [isOpen.eq_def] at h
  split at h
  · rename_i a
    simp [UInt8.le_iff_toNat_le] at h
    exact ⟨nofun, a, by simp, hfirst a (by omega)⟩
  · rename_i b a
    simp [UInt8.le_iff_toNat_le] at h
    exact ⟨by simp [(mayFollow_iff.1 h.2).1], a, by simp, hfirst a (by omega)⟩
  · rename_i c b a
    simp [UInt8.le_iff_toNat_le] at h
    exact ⟨by simp [(mayFollow_iff.1 h.1.2).1, h.2], a, by simp, hfirst a (by omega)⟩
  · cases h

/-! ## The end of a chunk -/

/-- The bytes of characters. -/
def encode (s : List Char) : List UInt8 := s.flatMap String.utf8EncodeChar

theorem encode_append (s t : List Char) : encode (s ++ t) = encode s ++ encode t :=
  List.flatMap_append

/-- Behind the beginning of a character nothing more is open. -/
theorem isOpen_eq_false_of_cons (before : List UInt8) {a : UInt8} {tail : List UInt8}
    (ha : isContinuation a = false) {n : Nat} (hn : tail.length + 1 < n)
    (hle : n ≤ (before ++ a :: tail).length) :
    isOpen ((before ++ a :: tail).reverse.take n) = false := by
  rw [Bool.eq_false_iff]
  intro hopen
  have hmore : before.reverse.take (n - (a :: tail).reverse.length) ≠ [] := by
    rw [List.length_append, List.length_cons] at hle
    rw [← List.length_pos_iff, List.length_take, List.length_reverse, List.length_reverse,
      List.length_cons]
    omega
  rw [List.reverse_append, List.take_append, List.take_of_length_le (by simp; omega)] at hopen
  have hmem : a ∈ ((a :: tail).reverse ++
      before.reverse.take (n - (a :: tail).reverse.length)).dropLast := by
    rw [List.dropLast_append_of_ne_nil hmore]
    simp
  exact absurd ((of_isOpen hopen).1 a hmem) (by simp [ha])

/-- Behind whole characters nothing is open. -/
theorem isOpen_eq_false_of_encode (s : List Char) {n : Nat} (hn : 0 < n)
    (hle : n ≤ (encode s).length) : isOpen ((encode s).reverse.take n) = false := by
  induction s using List.reverseRecOn with
  | nil => exact absurd hle (by simp [encode]; omega)
  | append_singleton s c _ =>
    have hq := isSequence_utf8EncodeChar c
    have hlast : encode (s ++ [c]) = encode s ++ String.utf8EncodeChar c := by simp [encode]
    rw [hlast] at hle ⊢
    generalize String.utf8EncodeChar c = q at hq hle ⊢
    obtain ⟨a, tail, rfl, ha, htail⟩ := hq.exists_cons
    rcases Nat.lt_trichotomy n (tail.length + 1) with hlt | rfl | hlt
    · -- only bytes that continue the last character
      rw [Bool.eq_false_iff]
      intro hopen
      obtain ⟨lead, hlead, hfirst⟩ := (of_isOpen hopen).2
      rw [List.reverse_append, List.reverse_cons, List.append_assoc,
        List.take_append_of_le_length (by simp; omega)] at hlead
      have hmem := List.mem_reverse.1 (List.mem_of_mem_take hlead)
      exact absurd (htail lead hmem) (by simp [hfirst])
    · rw [List.reverse_append, List.take_left' (by simp)]
      exact hq.isOpen_reverse
    · exact isOpen_eq_false_of_cons _ ha hlt hle

/-- How many bytes are open is the number for which they are, when they are not for greater ones. -/
theorem openCount_eq {bytes : List UInt8} {k : Nat} (hk : k ≤ 3) (hle : k ≤ bytes.length)
    (hopen : 0 < k → isOpen (bytes.reverse.take k) = true)
    (hnot : ∀ n, k < n → n ≤ bytes.length → isOpen (bytes.reverse.take n) = false) :
    openCount bytes = k := by
  have htest : ∀ n ≤ 3, (decide (n ≤ (bytes.reverse.take 3).length) &&
      isOpen ((bytes.reverse.take 3).take n)) =
        (decide (n ≤ bytes.length) && isOpen (bytes.reverse.take n)) := by
    intro n hn
    rw [List.take_take, Nat.min_eq_left hn, List.length_take, List.length_reverse]
    congr 1
    exact decide_eq_decide.2 (by omega)
  have hbeyond : ∀ n, k < n →
      (decide (n ≤ bytes.length) && isOpen (bytes.reverse.take n)) = false := by
    intro n hn
    by_cases hlen : n ≤ bytes.length
    · simp [hnot n hn hlen]
    · simp [hlen]
  have hcases : k = 0 ∨ k = 1 ∨ k = 2 ∨ k = 3 := by omega
  rw [openCount, List.find?_cons, List.find?_cons, List.find?_cons, List.find?_nil,
    htest 3 (by omega), htest 2 (by omega), htest 1 (by omega)]
  rcases hcases with rfl | rfl | rfl | rfl
  · rw [hbeyond 3 (by omega), hbeyond 2 (by omega), hbeyond 1 (by omega)]
    rfl
  · rw [hbeyond 3 (by omega), hbeyond 2 (by omega), hopen (by omega)]
    simp [hle]
  · rw [hbeyond 3 (by omega), hopen (by omega)]
    simp [hle]
  · rw [hopen (by omega)]
    simp [hle]

/-- **The open end of a chunk** is what begins the character that comes next. -/
theorem openCount_encode_append (s : List Char) {q : List UInt8} (hq : IsSequence q) {n : Nat}
    (hn : n < q.length) : openCount (encode s ++ q.take n) = n := by
  have hlength : q.length ≤ 4 := by cases hq <;> simp
  obtain ⟨a, tail, rfl, ha, -⟩ := hq.exists_cons
  rw [List.length_cons] at hn hlength
  refine openCount_eq (by omega) (by simp; omega) (fun hpos => ?_) fun m hm hle => ?_
  · rw [List.reverse_append, List.take_left' (by simp; omega)]
    exact hq.isOpen_reverse_take hpos (by simpa using hn)
  · obtain _ | n := n
    · rw [List.take_zero, List.append_nil] at hle ⊢
      exact isOpen_eq_false_of_encode s hm hle
    · rw [List.take_succ_cons] at hle ⊢
      exact isOpen_eq_false_of_cons _ ha (by simp; omega) hle

/-- The beginning of text is whole characters and the beginning of one more. -/
theorem exists_of_prefix_encode {bytes : List UInt8} {s : List Char} (h : bytes <+: encode s) :
    ∃ before after q n, s = before ++ after ∧ bytes = encode before ++ q.take n ∧
      IsSequence q ∧ n < q.length := by
  induction s generalizing bytes with
  | nil =>
    refine ⟨[], [], [0], 0, rfl, ?_, .one (by simp), by simp⟩
    simpa [encode] using h
  | cons c s ih =>
    have hq := isSequence_utf8EncodeChar c
    have hfirst : encode (c :: s) = String.utf8EncodeChar c ++ encode s := rfl
    rw [hfirst] at h
    have hbegin : String.utf8EncodeChar c <+: String.utf8EncodeChar c ++ encode s :=
      List.prefix_append _ _
    by_cases hlt : bytes.length < (String.utf8EncodeChar c).length
    · have hpart := List.prefix_of_prefix_length_le h hbegin (by omega)
      exact ⟨[], c :: s, _, bytes.length, rfl, List.prefix_iff_eq_take.1 hpart, hq, hlt⟩
    · obtain ⟨more, rfl⟩ := List.prefix_of_prefix_length_le hbegin h (by omega)
      obtain ⟨before, after, q, n, rfl, rfl, hsequence, hn⟩ :=
        ih ((List.prefix_append_right_inj _).1 h)
      refine ⟨c :: before, after, q, n, rfl, ?_, hsequence, hn⟩
      rw [← List.append_assoc]
      rfl

/-! ## Reading -/

theorem exists_fromUTF8?_encode (s : List Char) :
    ∃ text, String.fromUTF8? ⟨(encode s).toArray⟩ = some text := by
  have hvalid : ByteArray.IsValidUTF8 ⟨(encode s).toArray⟩ := by
    refine .intro s (ByteArray.ext ?_)
    simp [List.utf8Encode, encode]
  exact ⟨String.fromUTF8 _ hvalid, dif_pos hvalid⟩

namespace Inflow

/-- What has not been decoded of a file is text. -/
def IsText (f : Inflow) : Prop := ∃ s, f.opened ++ f.bytes = encode s

variable {f : Inflow}

/-- A chunk is taken when its whole characters can be decoded; the others stay open. -/
theorem exists_takeChunk? (f : Inflow) (missing : Nat) {chunk input : List UInt8} {whole : Nat}
    (hchunk : f.bytes.take (f.chunkFor missing) = chunk) (hinput : f.opened ++ chunk = input)
    (hwhole : (if chunk.isEmpty then input.length else input.length - openCount input) = whole)
    {s : List Char} (hs : input.take whole = encode s) :
    ∃ next, f.takeChunk? missing = some next ∧
      next.opened ++ next.bytes = input.drop whole ++ f.bytes.drop chunk.length := by
  obtain ⟨text, htext⟩ := exists_fromUTF8?_encode s
  rw [takeChunk?]
  simp only [hchunk, hinput, hwhole, hs, htext]
  exact ⟨_, rfl, rfl⟩

/-- **A chunk of text** is not at fault, and what is left is text. -/
theorem IsText.takeChunk? (hf : f.IsText) (missing : Nat) :
    ∃ next, f.takeChunk? missing = some next ∧ next.IsText := by
  obtain ⟨s, hs⟩ := hf
  generalize hchunk : f.bytes.take (f.chunkFor missing) = chunk
  have hbytes : chunk ++ f.bytes.drop chunk.length = f.bytes :=
    List.prefix_iff_eq_append.1 (hchunk ▸ List.take_prefix _ _)
  by_cases hend : chunk = []
  · -- the file has ended, and what is open must be whole
    have hsome : f.chunkFor missing ≠ 0 :=
      Nat.ne_of_gt (Nat.lt_of_lt_of_le (by decide) (Nat.le_max_left chunkLength _))
    have hnil : f.bytes = [] := (List.take_eq_nil_iff.1 (hchunk.trans hend)).resolve_left hsome
    obtain ⟨next, hnext, hleft⟩ := f.exists_takeChunk? missing hchunk rfl rfl
      (s := s) (by simpa [hend, hnil] using hs)
    exact ⟨next, hnext, [], by simp [hleft, hend, hnil, encode]⟩
  · have hbegin : f.opened ++ chunk <+: encode s :=
      ⟨f.bytes.drop chunk.length, by rw [List.append_assoc, hbytes, hs]⟩
    obtain ⟨before, after, q, n, rfl, hinput, hq, hn⟩ := exists_of_prefix_encode hbegin
    have hwhole : (if chunk.isEmpty then (f.opened ++ chunk).length
        else (f.opened ++ chunk).length - openCount (f.opened ++ chunk)) =
          (encode before).length := by
      rw [hinput, openCount_encode_append before hq hn, if_neg (by simpa using hend)]
      simp only [List.length_append, List.length_take]
      omega
    obtain ⟨next, hnext, hleft⟩ := f.exists_takeChunk? missing hchunk rfl hwhole
      (s := before) (by rw [hinput, List.take_left])
    refine ⟨next, hnext, after, ?_⟩
    rw [hinput, List.drop_left] at hleft
    rw [hleft]
    have hall : encode before ++ (q.take n ++ f.bytes.drop chunk.length) =
        encode before ++ encode after := by
      rw [← encode_append, ← hs, ← hbytes, ← List.append_assoc, ← List.append_assoc, hinput, hbytes]
    exact List.append_cancel_left hall

theorem IsText.fill (hf : f.IsText) (fuel : Nat) :
    ∃ next, Inflow.fill fuel f = some next ∧ next.IsText := by
  induction fuel generalizing f with
  | zero => exact ⟨f, rfl, hf⟩
  | succ fuel ih =>
    rw [Inflow.fill]
    split
    · exact ⟨f, rfl, hf⟩
    · obtain ⟨next, hnext, htext⟩ := hf.takeChunk? (requestLength - f.ready.length)
      dsimp only
      rw [hnext]
      dsimp only
      split
      · exact ⟨next, rfl, htext⟩
      · exact ih htext

theorem IsText.readFrom (hf : f.IsText) (fuel : Nat) : (Inflow.readFrom fuel f).2 = true := by
  induction fuel generalizing f with
  | zero => rfl
  | succ fuel ih =>
    obtain ⟨next, hnext, htext⟩ := hf.fill (f.bytes.length + 1)
    rw [Inflow.readFrom, hnext]
    dsimp only
    split
    · rfl
    · exact ih htext

end Inflow

theorem toList_loop (bytes : ByteArray) (i : Nat) (before : List UInt8) :
    ByteArray.toList.loop bytes i before = before.reverse ++ bytes.data.toList.drop i := by
  fun_induction ByteArray.toList.loop bytes i before with
  | case1 i before hlt ih =>
    have hlen : i < bytes.data.toList.length := by simpa using hlt
    have hget : bytes.get! i = bytes.data.toList[i] := by
      obtain ⟨data⟩ := bytes
      exact (getElem!_pos data i hlt).trans (by simp)
    rw [ih, List.drop_eq_getElem_cons hlen, hget]
    simp
  | case2 i before hge =>
    have hlen : bytes.data.toList.length ≤ i := by simpa using hge
    rw [List.drop_eq_nil_of_le hlen, List.append_nil]

/-- **Files that are text** are read to their end. -/
theorem readPieces_of_isValidUTF8 {bytes : ByteArray} (h : bytes.IsValidUTF8) :
    (readPieces bytes).2 = true := by
  obtain ⟨s, hs⟩ := h
  have hoctets : bytes.toList = encode s := by
    rw [ByteArray.toList, toList_loop, hs]
    simp [List.utf8Encode, encode]
  refine Inflow.IsText.readFrom ⟨s, ?_⟩ _
  rw [hoctets]
  rfl

end Text
end JumpLint

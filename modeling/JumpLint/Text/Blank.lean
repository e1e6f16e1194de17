import JumpLint.Text.CodePoint

/-!
# Blank characters, trimming and words

Two sets of characters count as space here.  One is the Unicode property `White_Space`; the other,
the *blanks*, adds the four information separators U+001C to U+001F, and is the one that settings
and names are trimmed by.

## What is here

* `isWhiteSpace`, `isBlank`: the two sets, and `isBlank_of_isWhiteSpace` between them.
* `trim p s`: what is left without the members of a set at either end; `trimBlanks`, `trimSpace`.
* `words s`: the blank-separated words of a text.
-/

set_option autoImplicit false
namespace JumpLint
namespace Text

/-- The characters of the Unicode property `White_Space`. -/
def isWhiteSpace (c : Char) : Bool :=
  let n := c.toNat
  (0x09 ≤ n && n ≤ 0x0D) || n == 0x20 || n == 0x85 || n == 0xA0 || n == 0x1680 ||
    (0x2000 ≤ n && n ≤ 0x200A) || n == 0x2028 || n == 0x2029 || n == 0x202F || n == 0x205F ||
    n == 0x3000

/-- A blank is white space or one of the information separators U+001C to U+001F. -/
def isBlank (c : Char) : Bool :=
  isWhiteSpace c || (0x1C ≤ c.toNat && c.toNat ≤ 0x1F)

/-- All white space is blank. -/
theorem isBlank_of_isWhiteSpace {c : Char} (h : isWhiteSpace c = true) : isBlank c = true := by
  simp [isBlank, h]

/-- Removes what has the property `p` from both ends. -/
def trim {α : Type} (p : α → Bool) (s : List α) : List α :=
  ((s.dropWhile p).reverse.dropWhile p).reverse

/-- A text without the blanks at either end. -/
def trimBlanks (t : Text) : Text := trim (CodePoint.isIn isBlank) t

/-- A text without the white space at either end. -/
def trimSpace (t : Text) : Text := trim (CodePoint.isIn isWhiteSpace) t

/-- The words of a text, given the word that is being read, last code point first. -/
def wordsFrom (word : Text) : Text → List Text
  | [] => if word.isEmpty then [] else [word.reverse]
  | c :: rest =>
    if c.isIn isBlank then
      if word.isEmpty then wordsFrom [] rest else word.reverse :: wordsFrom [] rest
    else wordsFrom (c :: word) rest

/-- The maximal runs of code points that are not blank, in order. -/
def words (t : Text) : List Text := wordsFrom [] t

end Text
end JumpLint

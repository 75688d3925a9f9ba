import DartComments.Text.Basic

/-!
# Blanks and words

A blank is a code point that separates words: the Unicode white space together with the four
information separators `U+001C` to `U+001F`. Zero-width code points are not blank.

    strip t        has no blank at either end
    words t        are non-empty and hold no blank
-/

namespace DartComments

namespace CodePoint

/-- Inclusive ranges of the blanks, in ascending order. -/
def blankRanges : List (Nat × Nat) :=
  [(0x09, 0x0D), (0x1C, 0x20), (0x85, 0x85), (0xA0, 0xA0), (0x1680, 0x1680), (0x2000, 0x200A),
    (0x2028, 0x2029), (0x202F, 0x202F), (0x205F, 0x205F), (0x3000, 0x3000)]

def isBlank (c : CodePoint) : Bool :=
  let n := c.toNat
  blankRanges.any fun r => r.1 ≤ n && n ≤ r.2

end CodePoint

namespace Text

/-- The text without the blanks at its ends. -/
def strip (t : Text) : Text :=
  ((t.dropWhile CodePoint.isBlank).reverse.dropWhile CodePoint.isBlank).reverse

/-- The words of a text when `word` has been read already, in reverse. -/
def wordsFrom (word : Text) : Text → List Text
  | [] => if word.isEmpty then [] else [word.reverse]
  | c :: cs =>
    if c.isBlank then
      if word.isEmpty then wordsFrom [] cs else word.reverse :: wordsFrom [] cs
    else wordsFrom (c :: word) cs

/-- The runs of code points between blanks. -/
def words (t : Text) : List Text := wordsFrom [] t

end Text

end DartComments

import TexCensus.Text.Basic
import TexCensus.Unicode.Ranges

/-!
# White space

The Unicode property White_Space, trimming by it and splitting at it.
-/

namespace TexCensus.Unicode

/-- The code points with the property White_Space. -/
def whiteSpaceRanges : List (Nat × Nat) := [
  (0x9, 0xD), (0x20, 0x20), (0x85, 0x85), (0xA0, 0xA0), (0x1680, 0x1680), (0x2000, 0x200A),
  (0x2028, 0x2029), (0x202F, 0x202F), (0x205F, 0x205F), (0x3000, 0x3000)]

/-- Whether a character has the property White_Space. -/
def isWhiteSpace (c : Char) : Bool :=
  inRanges whiteSpaceRanges c.toNat

/-- Drops white space from both ends. -/
def trim (t : Text) : Text :=
  ((t.dropWhile isWhiteSpace).reverse.dropWhile isWhiteSpace).reverse

/-- The maximal runs of characters that are not white space. -/
def fields (t : Text) : List Text :=
  (t.foldr (fun c parts => if isWhiteSpace c then [] :: parts else consFirst c parts) [[]]).filter
    (!·.isEmpty)

end TexCensus.Unicode

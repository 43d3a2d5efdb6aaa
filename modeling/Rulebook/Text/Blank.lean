-- White space between words, in every script, and the four separators of
-- plain text data. The zero width space is not one.
import Rulebook.Text.Ranges

namespace Rulebook.Text

def blankRanges : List (Nat × Nat) :=
  [
    (0x9, 0xd), (0x1c, 0x20), (0x85, 0x85), (0xa0, 0xa0), (0x1680, 0x1680), (0x2000, 0x200a),
    (0x2028, 0x2029), (0x202f, 0x202f), (0x205f, 0x205f), (0x3000, 0x3000) ]

def isBlank (c : Char) : Bool := inRanges c.toNat blankRanges

/-- A text without white space at its end. -/
def trimEnd (cs : List Char) : List Char := (cs.reverse.dropWhile isBlank).reverse

/-- A text without white space at either end. -/
def trimmed (cs : List Char) : List Char := trimEnd (cs.dropWhile isBlank)

end Rulebook.Text

-- Lines of a text on a screen of limited width. A line ends before the word
-- that would not fit; a word wider than the screen is cut.
import Rulebook.Text.Cells
import Rulebook.Text.Split

namespace Rulebook.Text

/-! ## Words with the white space around them -/

/-- The words of what is left, behind a word that has begun, its latest
character first. A word ends where another one begins. -/
def spacedWordsFrom (word : List Char) : List Char → List (List Char)
  | [] => if word.all isBlank then [] else [word.reverse]
  | c :: cs =>
    if !isBlank c && (word.head?.map isBlank).getD false && word.any (fun d => !isBlank d) then
      word.reverse :: spacedWordsFrom [c] cs
    else spacedWordsFrom (c :: word) cs

/-- The words of a text, each with the white space behind it; the first one
also has the white space in front. White space alone is no word. -/
def spacedWords (cs : List Char) : List (List Char) := spacedWordsFrom [] cs

/-! ## Wrapping -/

/-- A word cut so that each piece fits into a width. The piece before the
cut is `piece`, latest character first. -/
def chopped (width : Nat) (piece : List Char) : List Char → List (List Char)
  | [] => [piece.reverse]
  | c :: cs =>
    if width < cells piece + cellsOf c then piece.reverse :: chopped width [c] cs
    else chopped width (c :: piece) cs

/-- Puts words on lines: `line` is the line so far. -/
def wrapWords (width : Nat) (line : List Char) : List (List Char) → List (List Char)
  | [] => [line]
  | word :: words =>
    let needed := cells (trimEnd word)
    if cells line + needed ≤ width then wrapWords width (line ++ word) words
    else if needed ≤ width then line :: wrapWords width word words
    else
      let pieces := chopped width [] word
      (if line.isEmpty then [] else [line]) ++ pieces.dropLast
        ++ wrapWords width (pieces.getLastD []) words

/-! ## Cutting lines -/

/-- A line without as much of the white space at its end as it has characters
beyond the width. -/
def dropExcess (width : Nat) (cs : List Char) : List Char :=
  let blanks := (cs.reverse.takeWhile isBlank).length
  cs.take (cs.length - min blanks (cs.length - width))

/-- The start of a line that fills the width, found by halving the stretch
from `start` to `stop` in which it ends. A wide character across the edge
gives way to a space. -/
def filling (width : Nat) (cs : List Char) : Nat → Nat → Nat → List Char
  | 0, _, _ => cs
  | fuel + 1, start, stop =>
    let middle := (start + stop) / 2
    let before := cs.take (middle + 1)
    let size := cells before
    if size = width + 1 ∧ (before.getLast?.map cellsOf) = some 2 then before.dropLast ++ [' ']
    else if size = width then before
    else if width < size then filling width cs fuel start middle
    else filling width cs fuel middle stop

/-- A line that is no wider than the width. -/
def cut (width : Nat) (cs : List Char) : List Char :=
  let cs := dropExcess width cs
  if cells cs ≤ width then cs else filling width cs cs.length 0 cs.length

/-- One line broken into lines that fit, without white space at their ends. -/
def wrapLine (width : Nat) (cs : List Char) : List (List Char) :=
  (wrapWords width [] (spacedWords cs)).map fun line => trimEnd (cut width line)

/-! ## Texts for a screen -/

/-- Controls that a screen would act on. -/
def isScreenControl (c : Char) : Bool :=
  c == '\x07' || c == '\x08' || c == '\x0b' || c == '\x0c' || c == '\r'

/-- A line with each tab replaced by one space or more, up to the next
multiple of eight cells. -/
def expandTabs (column : Nat) : List Char → List Char
  | [] => []
  | '\t' :: cs =>
    let width := 8 - column % 8
    List.replicate width ' ' ++ expandTabs (column + width) cs
  | c :: cs => c :: expandTabs (column + cellsOf c) cs

/-- The lines that a text takes on a screen. -/
def wrap (width : Nat) (s : String) : List String :=
  let cs := s.toList.filter fun c => !isScreenControl c
  ((splitOn ['\n'] cs).flatMap fun line => wrapLine width (expandTabs 0 line)).map String.ofList

end Rulebook.Text

-- Cutting a text at a separator or at white space, and joining the pieces.
import Rulebook.Text.Blank

namespace Rulebook.Text

/-- Puts a character in front of the first piece. -/
def consFirst (c : Char) : List (List Char) → List (List Char)
  | [] => [[c]]
  | p :: ps => (c :: p) :: ps

/-- The pieces between the separators, which are found from the left and do
not overlap. The first `skip` characters still belong to a separator. -/
def splitFrom (sep : List Char) : Nat → List Char → List (List Char)
  | _, [] => [[]]
  | skip + 1, _ :: cs => splitFrom sep skip cs
  | 0, c :: cs =>
    if sep.isPrefixOf (c :: cs) then [] :: splitFrom sep (sep.length - 1) cs
    else consFirst c (splitFrom sep 0 cs)

/-- The pieces of a text between separators. An empty separator cuts between
any two characters. -/
def splitOn (sep cs : List Char) : List (List Char) :=
  if sep.isEmpty then cs.map fun c => [c] else splitFrom sep 0 cs

/-- The pieces between white space, with empty ones. -/
def splitBlank : List Char → List (List Char)
  | [] => [[]]
  | c :: cs => if isBlank c then [] :: splitBlank cs else consFirst c (splitBlank cs)

/-- The words of a text: its pieces between runs of white space. -/
def words (cs : List Char) : List (List Char) := (splitBlank cs).filter fun p => !p.isEmpty

/-- The pieces with the separator between any two of them. -/
def join (sep : List Char) : List (List Char) → List Char
  | [] => []
  | [p] => p
  | p :: ps => p ++ sep ++ join sep ps

/-- The parts of a dotted name. -/
def dotted (s : String) : List String := (splitOn ['.'] s.toList).map String.ofList

end Rulebook.Text

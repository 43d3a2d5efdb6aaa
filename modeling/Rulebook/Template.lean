-- Texts with placeholders. A placeholder is a dollar sign and a name in
-- braces; the name is not empty and holds no closing brace. Placeholders
-- are found from the left and do not overlap.
import Rulebook.Value.Written

namespace Rulebook.Template

/-- A character that stands for itself, or a placeholder. -/
inductive Piece where
  | char (c : Char)
  | hole (name : List Char)
deriving DecidableEq, Repr

/-- The name of the placeholder that a text starts with. -/
def leadingHole? : List Char → Option (List Char)
  | '$' :: '{' :: rest =>
    let name := rest.takeWhile (· != '}')
    if name.isEmpty || (rest.drop name.length).isEmpty then none else some name
  | _ => none

/-- The pieces of a text whose first `skip` characters belong to the
placeholder before. -/
def piecesFrom : Nat → List Char → List Piece
  | _, [] => []
  | skip + 1, _ :: cs => piecesFrom skip cs
  | 0, c :: cs =>
    match leadingHole? (c :: cs) with
    | some name => .hole name :: piecesFrom (name.length + 2) cs
    | none => .char c :: piecesFrom 0 cs

def pieces (text : String) : List Piece := piecesFrom 0 text.toList

/-- The names of the placeholders, in order of appearance. -/
def holes (text : String) : List String :=
  (pieces text).filterMap fun
    | .hole name => some (String.ofList name)
    | .char _ => none

/-- A placeholder as written. -/
def holeText (name : List Char) : List Char := '$' :: '{' :: name ++ ['}']

/-- What a value puts in the place of a placeholder, if it is not missing. -/
def filling (v : Value) : Except Fault (Option String) :=
  if v.isUndefined then .ok none else v.written.map some

/-- The text with each placeholder replaced by its filling. One without a
filling stays as written. -/
def fill : List Piece → List (Option String) → List Char
  | [], _ => []
  | .char c :: ps, ts => c :: fill ps ts
  | .hole _ :: ps, some t :: ts => t.toList ++ fill ps ts
  | .hole name :: ps, none :: ts => holeText name ++ fill ps ts
  | .hole name :: ps, [] => holeText name ++ fill ps []

end Rulebook.Template

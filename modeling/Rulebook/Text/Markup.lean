-- Tags in square brackets inside a text for a screen. A tag begins with a
-- small letter, a hash sign, a slash or an at sign; a slash closes the tag
-- with the name behind it, or the latest one. Backslashes in front of a tag
-- stand for half as many, and an odd one makes it plain text.
import Rulebook.Text.Split
import Rulebook.Text.Upper

namespace Rulebook.Markup

/-- A character that is shown, or a tag by its place in the text. -/
inductive Piece where
  | char (c : Char)
  | tag (position : Nat) (text : List Char)
deriving DecidableEq, Repr

/-! ## Reading -/

/-- Whether a tag can begin with a character. -/
def beginsTag (c : Char) : Bool := ('a' ≤ c && c ≤ 'z') || c == '#' || c == '/' || c == '@'

/-- The text of the tag that a text begins with. It holds no opening bracket. -/
def leadingTag? : List Char → Option (List Char)
  | '[' :: c :: cs =>
    let more := cs.takeWhile fun d => d != ']' && d != '['
    if beginsTag c && (cs.drop more.length).head? == some ']' then some (c :: more) else none
  | _ => none

/-- The pieces of a text from a position on. The first `skip` characters
belong to the tag before. -/
def piecesFrom (position : Nat) : Nat → List Char → List Piece
  | _, [] => []
  | skip + 1, _ :: cs => piecesFrom (position + 1) skip cs
  | 0, c :: cs =>
    let slashes := ((c :: cs).takeWhile (· == '\\')).length
    match leadingTag? ((c :: cs).drop slashes) with
    | some tag =>
      let kept := slashes / 2
      let last := if slashes % 2 = 1 then ('[' :: tag ++ [']']).map Piece.char
        else [.tag (position + 2 * kept) tag]
      List.replicate kept (.char '\\') ++ last
        ++ piecesFrom (position + 1) (slashes + tag.length + 1) cs
    | none =>
      if c == '\\' && cs.head? == some '[' then .char '[' :: piecesFrom (position + 1) 1 cs
      else .char c :: piecesFrom (position + 1) 0 cs

def pieces (text : String) : List Piece := piecesFrom 0 0 text.toList

/-- The text without its tags. -/
def plain (text : String) : String :=
  String.ofList ((pieces text).filterMap fun
    | .char c => some c
    | .tag .. => none)

/-! ## Open and closed tags -/

/-- Short names of styles. -/
def shortNames : List (String × String) :=
  [("b", "bold"), ("c", "conceal"), ("d", "dim"), ("i", "italic"), ("o", "overline"),
    ("r", "reverse"), ("s", "strike"), ("u", "underline"), ("uu", "underline2")]

/-- The name that a tag is known by: without white space around it, in small
letters, and in full. -/
def styleName (name : List Char) : String :=
  let name := Text.lowerAscii (String.ofList (Text.trimmed name))
  (shortNames.lookup name).getD name

/-- Why the tags of a text do not fit. -/
inductive Trouble where
  | unopened (tag : String) (position : Nat)
  | nothingOpen (position : Nat)
deriving DecidableEq, Repr

def Trouble.message : Trouble → String
  | .unopened tag n =>
    "closing tag '[" ++ tag ++ "]' at position " ++ toString n ++ " doesn't match any open tag"
  | .nothingOpen n => "closing tag '[/]' at position " ++ toString n ++ " has nothing to close"

/-- The open tags, the latest first, behind one more tag. -/
def follow (opened : List String) (position : Nat) (tag : List Char) : Except Trouble (List String) :=
  match tag.takeWhile (· != '=') with
  | '/' :: name =>
    if (Text.trimmed name).isEmpty then
      match opened with
      | [] => .error (.nothingOpen position)
      | _ :: rest => .ok rest
    else if opened.contains (styleName name) then .ok (opened.erase (styleName name))
    else .error (.unopened (String.ofList tag) position)
  | name => .ok (styleName name :: opened)

def followAll (opened : List String) : List Piece → Option Trouble
  | [] => none
  | .char _ :: ps => followAll opened ps
  | .tag position tag :: ps => match follow opened position tag with
    | .ok opened => followAll opened ps
    | .error t => some t

/-- What is wrong with the tags of a text, if anything is. -/
def trouble? (text : String) : Option Trouble := followAll [] (pieces text)

end Rulebook.Markup

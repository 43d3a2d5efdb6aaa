-- JSON text of values: on one line in a chosen style, or indented. The
-- missing value has no JSON; callers replace it. What is not data is
-- written as its text.
import Rulebook.Number.Shortest
import Rulebook.Value.Display

namespace Rulebook.Json

/-! ## Styles -/

/-- How a value is written on one line. -/
structure Style where
  /-- Write every character beyond ASCII as an escape. -/
  ascii : Bool
  comma : List Char
  colon : List Char

/-- No space at all, in ASCII. -/
def compact : Style := ⟨true, [','], [':']⟩

/-- A space after each comma and colon; letters of every script stay. -/
def spaced : Style := ⟨false, [',', ' '], [':', ' ']⟩

/-! ## Scalars -/

/-- A UTF-16 unit as an escape. -/
def unitEscape (n : Nat) : List Char := '\\' :: 'u' :: Text.hexDigits 4 n

/-- A code point as one escape, or as two beyond the first 2^16. -/
def pointEscape (n : Nat) : List Char :=
  if n < 0x10000 then unitEscape n
  else
    let m := n - 0x10000
    unitEscape (0xd800 + m / 0x400) ++ unitEscape (0xdc00 + m % 0x400)

/-- A character inside a JSON string. -/
def charText (ascii : Bool) (c : Char) : List Char :=
  if c = '"' ∨ c = '\\' then ['\\', c]
  else if c = '\n' then ['\\', 'n']
  else if c = '\r' then ['\\', 'r']
  else if c = '\t' then ['\\', 't']
  else if c = '\x0c' then ['\\', 'f']
  else if c = '\x08' then ['\\', 'b']
  else if c.toNat < 0x20 ∨ (ascii ∧ 0x7f ≤ c.toNat) then pointEscape c.toNat
  else [c]

def stringText (ascii : Bool) (s : String) : List Char :=
  '"' :: s.toList.flatMap (charText ascii) ++ ['"']

/-- Infinity and NaN are written by name. -/
def floatText (x : Double) : List Char :=
  if x.isNaN then "NaN".toList
  else if x.isInfinite then (if x.isNegative then "-Infinity" else "Infinity").toList
  else x.text.toList

/-- The text that stands for a key: scalars other than texts are spelled as
their values are. -/
def keyText : Key → String
  | .text s => s
  | .int n => toString n
  | .float x => String.ofList (floatText x)
  | .bool b => if b then "true" else "false"
  | .null => "null"

/-! ## On one line -/

mutual
def write (style : Style) : Value → List Char
  | .undefined | .null => "null".toList
  | .bool b => (if b then "true" else "false").toList
  | .int n => (toString n).toList
  | .float x => floatText x
  | .text s => stringText style.ascii s
  | .list xs => '[' :: writeItems style xs ++ [']']
  | .object fs => '{' :: writeFields style fs ++ ['}']
  | .foreign f => stringText style.ascii f.text
def writeItems (style : Style) : List Value → List Char
  | [] => []
  | [x] => write style x
  | x :: xs => write style x ++ style.comma ++ writeItems style xs
def writeFields (style : Style) : List (Key × Value) → List Char
  | [] => []
  | [(k, v)] => stringText style.ascii (keyText k) ++ style.colon ++ write style v
  | (k, v) :: fs =>
    stringText style.ascii (keyText k) ++ style.colon ++ write style v ++ style.comma
      ++ writeFields style fs
end

def text (style : Style) (v : Value) : String := String.ofList (write style v)

/-! ## Indented by two -/

def indentation (depth : Nat) : String := String.ofList (List.replicate (2 * depth) ' ')

mutual
/-- The lines of a value: `lead` opens the first one and `tail` closes the
last. Empty collections stay on one line. -/
def lines (depth : Nat) (lead tail : String) : Value → List String
  | .list (x :: xs) =>
    (lead ++ "[") :: itemLines (depth + 1) (x :: xs) ++ [indentation depth ++ "]" ++ tail]
  | .object (f :: fs) =>
    (lead ++ "\x7b") :: fieldLines (depth + 1) (f :: fs) ++ [indentation depth ++ "\x7d" ++ tail]
  | v => [lead ++ text spaced v ++ tail]
def itemLines (depth : Nat) : List Value → List String
  | [] => []
  | x :: xs =>
    lines depth (indentation depth) (if xs.isEmpty then "" else ",") x ++ itemLines depth xs
def fieldLines (depth : Nat) : List (Key × Value) → List String
  | [] => []
  | (k, v) :: fs =>
    let lead := indentation depth ++ String.ofList (stringText false (keyText k)) ++ ": "
    lines depth lead (if fs.isEmpty then "" else ",") v ++ fieldLines depth fs
end

/-- A value indented by two spaces a level, line by line. -/
def indented (v : Value) : List String := lines 0 "" "" v

end Rulebook.Json

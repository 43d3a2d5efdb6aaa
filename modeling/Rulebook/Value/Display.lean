-- How values are shown in messages: texts in quotes with their special
-- characters escaped, lists in brackets, mappings in braces. A value that
-- holds an integer of too many digits cannot be shown.
import Rulebook.Number.Limit
import Rulebook.Number.Shortest
import Rulebook.Text.Printable
import Rulebook.Value.Basic

namespace Rulebook

namespace Text

/-- The digits of a code point in base sixteen, at least `width` of them. -/
def hexDigits (width n : Nat) : List Char :=
  let ds := Nat.toDigits 16 n
  List.replicate (width - ds.length) '0' ++ ds

/-- A character as the shortest escape that fits its code point. -/
def escapedChar (c : Char) : List Char :=
  if c.toNat < 0x100 then '\\' :: 'x' :: hexDigits 2 c.toNat
  else if c.toNat < 0x10000 then '\\' :: 'u' :: hexDigits 4 c.toNat
  else '\\' :: 'U' :: hexDigits 8 c.toNat

/-- A character between quotes. What is not printable is escaped. -/
def quotedChar (quote c : Char) : List Char :=
  if c = '\\' ∨ c = quote then ['\\', c]
  else if c = '\n' then ['\\', 'n']
  else if c = '\r' then ['\\', 'r']
  else if c = '\t' then ['\\', 't']
  else if isPrintable c then [c]
  else escapedChar c

/-- A text in single quotes, or in double quotes if it holds a single quote
and no double one. -/
def quoted (s : String) : String :=
  let cs := s.toList
  let quote := if cs.contains '\'' && !cs.contains '"' then '"' else '\''
  String.ofList (quote :: cs.flatMap (quotedChar quote) ++ [quote])

/-- Items between commas. -/
def listed (items : List String) : String := String.intercalate ", " items

end Text

def Key.display : Key → String
  | .text s => Text.quoted s
  | .int n => toString n
  | .float x => x.text
  | .bool b => if b then "True" else "False"
  | .null => "None"

/-- A key as plain text, without quotes. -/
def Key.plain : Key → String
  | .text s => s
  | k => k.display

namespace Value

mutual
def display : Value → String
  | .undefined => "UNDEFINED"
  | .null => "None"
  | .bool b => if b then "True" else "False"
  | .int n => toString n
  | .float x => x.text
  | .text s => Text.quoted s
  | .list xs => "[" ++ Text.listed (displayItems xs) ++ "]"
  | .object fs => "\x7b" ++ Text.listed (displayFields fs) ++ "\x7d"
  | .foreign f => f.text
def displayItems : List Value → List String
  | [] => []
  | x :: xs => x.display :: displayItems xs
def displayFields : List (Key × Value) → List String
  | [] => []
  | (k, v) :: fs => (k.display ++ ": " ++ v.display) :: displayFields fs
end

end Value

/-! ## Values that can be shown -/

/-- Whether a key has a text. -/
def Key.writable : Key → Bool
  | .int n => Number.isWritable n
  | _ => true

namespace Value

mutual
/-- Whether every integer in a value has a text. -/
def writable : Value → Bool
  | .int n => Number.isWritable n
  | .list xs => writableItems xs
  | .object fs => writableFields fs
  | _ => true
def writableItems : List Value → Bool
  | [] => true
  | x :: xs => x.writable && writableItems xs
def writableFields : List (Key × Value) → Bool
  | [] => true
  | (k, v) :: fs => k.writable && v.writable && writableFields fs
end

end Value
end Rulebook

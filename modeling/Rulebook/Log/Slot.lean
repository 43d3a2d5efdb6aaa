-- Slots of a layout, such as `%(levelno)05d`: a part of a record by name,
-- flags, a width, a precision, and the letter of a form.
import Rulebook.Number.Double
import Rulebook.Value.Display

namespace Rulebook.Log

/-! ## Failures -/

/-- Why a slot cannot be filled. -/
inductive SlotFault where
  | unknownPart (name : String)
  | openName
  | incomplete
  /-- A letter that is no form, and its place in the layout. -/
  | unknownForm (letter : Char) (place : Nat)
  | noNumber (letter : Char) (typeName : String)
  | noInteger (letter : Char) (typeName : String)
  | noReal (typeName : String)
  | noCharacter
  | characterRange
  /-- A width that is taken from a part that is no number. -/
  | noWidth
  /-- A slot without a name where there is nothing left for it. -/
  | nothingLeft
deriving DecidableEq, Repr

namespace SlotFault

def message : SlotFault → String
  | .unknownPart name => "Formatting field not found in record: " ++ Text.quoted name
  | .openName => "incomplete format key"
  | .incomplete => "incomplete format"
  | .unknownForm c place =>
    let shown := if 31 ≤ c.toNat ∧ c.toNat < 127 then c else '?'
    "unsupported format character '" ++ shown.toString ++ "' (0x"
      ++ String.ofList (Nat.toDigits 16 c.toNat) ++ ") at index " ++ toString place
  | .noNumber c t => "%" ++ c.toString ++ " format: a real number is required, not " ++ t
  | .noInteger c t => "%" ++ c.toString ++ " format: an integer is required, not " ++ t
  | .noReal t => "must be real number, not " ++ t
  | .noCharacter => "%c requires int or char"
  | .noWidth => "* wants int"
  | .characterRange => "%c arg not in range(0x110000)"
  | .nothingLeft => "not enough arguments for format string"

/-- Whether a part of a record is of the wrong type. -/
def isOfType : SlotFault → Bool
  | .noNumber .. | .noInteger .. | .noReal _ | .noCharacter | .noWidth | .nothingLeft => true
  | _ => false

def isOverflow : SlotFault → Bool
  | .characterRange => true
  | _ => false

end SlotFault

/-! ## Forms -/

/-- How a part is written. -/
structure Form where
  flags : List Char
  width : Nat
  precision : Option Nat
  letter : Char
deriving Repr

namespace Form

def has (f : Form) (flag : Char) : Bool := f.flags.contains flag

/-- A text filled up with spaces. -/
def padded (f : Form) (text : List Char) : List Char :=
  let gap := List.replicate (f.width - text.length) ' '
  if f.has '-' then text ++ gap else gap ++ text

/-- A number with its sign and what is put in front of its digits, filled up
with spaces, or with zeros behind the sign. -/
def paddedNumber (f : Form) (negative : Bool) (lead digits : List Char) : List Char :=
  let sign := if negative then ['-'] else if f.has '+' then ['+'] else if f.has ' ' then [' '] else []
  let size := sign.length + lead.length + digits.length
  if f.has '0' && !f.has '-' then sign ++ lead ++ List.replicate (f.width - size) '0' ++ digits
  else f.padded (sign ++ lead ++ digits)

/-- Digits with zeros in front, up to the precision. -/
def atLeast (f : Form) (digits : List Char) : List Char :=
  List.replicate (f.precision.getD 0 - digits.length) '0' ++ digits

/-- An integer in a base, with the mark of the base if it is asked for. -/
def integer (f : Form) (base : Nat) (mark : List Char) (n : Int) : List Char :=
  f.paddedNumber (n < 0) (if f.has '#' then mark else []) (f.atLeast (Nat.toDigits base n.natAbs))

/-- Decimal places behind a point; without places the point is left out,
unless it is asked for. -/
def pointed (f : Form) (places : List Char) : List Char :=
  if places.isEmpty && !f.has '#' then [] else '.' :: places

/-- The places that count: zeros at the end do not, unless they are asked for. -/
def counting (f : Form) (places : List Char) : List Char :=
  if f.has '#' then places else (places.reverse.dropWhile (· == '0')).reverse

/-- An integer with decimal places, six if nothing else is asked for. -/
def fixed (f : Form) (n : Int) : List Char :=
  let places := List.replicate (f.precision.getD 6) '0'
  f.paddedNumber (n < 0) [] (Nat.toDigits 10 n.natAbs ++ f.pointed places)

/-- A number rounded to so many digits, and the exponent of the first one. -/
def rounded (count n : Nat) : List Char × Nat :=
  let ds := Nat.toDigits 10 n
  if ds.length ≤ count then (ds ++ List.replicate (count - ds.length) '0', ds.length - 1)
  else
    let ds' := Nat.toDigits 10 (Double.roundQuotient n (Nat.pow 10 (ds.length - count)))
    (ds'.take count, ds.length - 1 + (ds'.length - count))

/-- The digits of a number behind the first, and its exponent. -/
def scaled (f : Form) (first places : List Char) (exponent : Nat) : List Char :=
  let ds := Nat.toDigits 10 exponent
  first ++ f.pointed places ++ ['e', '+'] ++ List.replicate (2 - ds.length) '0' ++ ds

/-- An integer with an exponent. -/
def scientific (f : Form) (n : Int) : List Char :=
  let (ds, exponent) := rounded (f.precision.getD 6 + 1) n.natAbs
  f.paddedNumber (n < 0) [] (f.scaled (ds.take 1) (ds.drop 1) exponent)

/-- An integer in the shorter of the two ways. -/
def general (f : Form) (n : Int) : List Char :=
  let count := max 1 (f.precision.getD 6)
  let (ds, exponent) := rounded count n.natAbs
  f.paddedNumber (n < 0) [] (if exponent < count then
      ds.take (exponent + 1) ++ f.pointed (f.counting (ds.drop (exponent + 1)))
    else f.scaled (ds.take 1) (f.counting (ds.drop 1)) exponent)

/-- A text, cut to the precision. -/
def text (f : Form) (s : List Char) : List Char :=
  f.padded (match f.precision with
    | some n => s.take n
    | none => s)

end Form

/-! ## Parts -/

/-- A part of a record. -/
inductive Part where
  | text (s : String)
  | number (n : Int)
deriving DecidableEq, Repr

namespace Part

def value : Part → Value
  | .text s => .text s
  | .number n => .int n

def plain : Part → String
  | .text s => s
  | .number n => toString n

/-- The part as it is shown in ASCII. -/
def asciiShown (p : Part) : List Char :=
  p.value.display.toList.flatMap fun c => if c.toNat < 0x80 then [c] else Text.escapedChar c

/-- The character that a part is or numbers. -/
def character : Part → Except SlotFault Char
  | .text s => match s.toList with
    | [c] => .ok c
    | _ => .error .noCharacter
  | .number n => if n < 0 ∨ 0x10ffff < n then .error .characterRange else .ok (Char.ofNat n.toNat)

/-- The letters of the forms of numbers, by what they take. -/
def integerLetters : List Char := ['d', 'i', 'u']
def baseLetters : List Char := ['o', 'x', 'X']
def realLetters : List Char := ['e', 'E', 'f', 'F', 'g', 'G']

/-- A number in the form of a letter, in small letters. -/
def numberIn (f : Form) (n : Int) : List Char :=
  match f.letter.toLower with
  | 'o' => f.integer 8 ['0', 'o'] n
  | 'x' => f.integer 16 ['0', 'x'] n
  | 'e' => f.scientific n
  | 'f' => f.fixed n
  | 'g' => f.general n
  | _ => f.integer 10 [] n

/-- Why something of another type has no form of numbers. -/
def refusal (letter : Char) (typeName : String) : SlotFault :=
  if integerLetters.contains letter then .noNumber letter typeName
  else if baseLetters.contains letter then .noInteger letter typeName
  else .noReal typeName

def isNumberLetter (c : Char) : Bool :=
  integerLetters.contains c || baseLetters.contains c || realLetters.contains c

/-- A part in a form, at a place in the layout. -/
def inForm (p : Part) (f : Form) (place : Nat) : Except SlotFault (List Char) :=
  if f.letter = 's' then .ok (f.text p.plain.toList)
  else if f.letter = 'r' then .ok (f.text p.value.display.toList)
  else if f.letter = 'a' then .ok (f.text p.asciiShown)
  else if f.letter = 'c' then p.character.map fun c => f.padded [c]
  else if isNumberLetter f.letter then
    match p with
    | .number n =>
      let shown := numberIn f n
      .ok (if f.letter.isUpper then shown.map Char.toUpper else shown)
    | .text _ => .error (refusal f.letter p.value.typeName)
  else .error (.unknownForm f.letter place)

end Part
end Rulebook.Log

-- JSON text read into values. A failure names its cause and the place
-- where reading stopped. Numbers without a fraction and an exponent are
-- integers of any size up to a limit on their digits.
import Rulebook.Number.Limit
import Rulebook.Value.Basic

namespace Rulebook.Json

/-! ## Failures -/

/-- Why a text is not JSON. -/
inductive Trouble where
  | noValue
  | noName
  | noColon
  | noComma
  | openString
  | control
  | escape
  | unicodeEscape
  | extra
  | byteOrderMark
  /-- An integer with more digits than the limit. -/
  | longInteger (digits : Nat)
deriving DecidableEq, Repr

def Trouble.message : Trouble → String
  | .noValue => "Expecting value"
  | .noName => "Expecting property name enclosed in double quotes"
  | .noColon => "Expecting ':' delimiter"
  | .noComma => "Expecting ',' delimiter"
  | .openString => "Unterminated string starting at"
  | .control => "Invalid control character at"
  | .escape => "Invalid \\escape"
  | .unicodeEscape => "Invalid \\uXXXX escape"
  | .extra => "Extra data"
  | .byteOrderMark => "Unexpected UTF-8 BOM (decode using utf-8-sig)"
  | .longInteger n => Number.tooManyDigits n

/-- A failure and the text that was left when it was met. -/
structure Stop where
  trouble : Trouble
  rest : List Char

def stop {α : Type} (t : Trouble) (rest : List Char) : Except Stop α := .error ⟨t, rest⟩

/-! ## Tokens -/

def isSpace (c : Char) : Bool := c == ' ' || c == '\t' || c == '\n' || c == '\r'

def skipSpace (cs : List Char) : List Char := cs.dropWhile isSpace

def isDigit (c : Char) : Bool := '0' ≤ c && c ≤ '9'

/-- The number that ASCII digits spell. -/
def digitsValue (cs : List Char) : Nat :=
  cs.foldl (fun n c => 10 * n + (c.toNat - '0'.toNat)) 0

def hexValue? (c : Char) : Option Nat :=
  if '0' ≤ c ∧ c ≤ '9' then some (c.toNat - '0'.toNat)
  else if 'a' ≤ c ∧ c ≤ 'f' then some (c.toNat - 'a'.toNat + 10)
  else if 'A' ≤ c ∧ c ≤ 'F' then some (c.toNat - 'A'.toNat + 10)
  else none

def hexFour? (a b c d : Char) : Option Nat := do
  return ((← hexValue? a) * 16 + (← hexValue? b)) * 256 + (← hexValue? c) * 16 + (← hexValue? d)

def simpleEscape? : Char → Option Char
  | '"' => some '"'
  | '\\' => some '\\'
  | '/' => some '/'
  | 'b' => some '\x08'
  | 'f' => some '\x0c'
  | 'n' => some '\n'
  | 'r' => some '\r'
  | 't' => some '\t'
  | _ => none

def isHighSurrogate (n : Nat) : Bool := 0xd800 ≤ n && n ≤ 0xdbff
def isLowSurrogate (n : Nat) : Bool := 0xdc00 ≤ n && n ≤ 0xdfff

/-- The character of a unit that stands alone; half a pair gives the
replacement character. -/
def unitChar (n : Nat) : Char :=
  if isHighSurrogate n || isLowSurrogate n then '\ufffd' else Char.ofNat n

def pairChar (high low : Nat) : Char :=
  Char.ofNat (0x10000 + (high - 0xd800) * 0x400 + (low - 0xdc00))

/-- The characters of a string after its opening quote, and the text behind
the closing one. `opening` is the text from the opening quote on. -/
def stringBody (opening : List Char) : List Char → Except Stop (List Char × List Char)
  | [] => stop .openString opening
  | '"' :: rest => .ok ([], rest)
  | '\\' :: 'u' :: a :: b :: c :: d :: e :: rest =>
    match hexFour? a b c d with
    | none => stop .unicodeEscape ('u' :: a :: b :: c :: d :: e :: rest)
    | some n =>
      if isHighSurrogate n then
        match e, rest with
        | '\\', 'u' :: a2 :: b2 :: c2 :: d2 :: e2 :: rest2 =>
          match hexFour? a2 b2 c2 d2 with
          | none => stop .unicodeEscape ('u' :: a2 :: b2 :: c2 :: d2 :: e2 :: rest2)
          | some m =>
            if isLowSurrogate m then
              (stringBody opening (e2 :: rest2)).map fun r => (pairChar n m :: r.1, r.2)
            else
              (stringBody opening ('\\' :: 'u' :: a2 :: b2 :: c2 :: d2 :: e2 :: rest2)).map fun r =>
                (unitChar n :: r.1, r.2)
        | e, rest => (stringBody opening (e :: rest)).map fun r => (unitChar n :: r.1, r.2)
      else (stringBody opening (e :: rest)).map fun r => (unitChar n :: r.1, r.2)
  | '\\' :: 'u' :: rest => stop .unicodeEscape ('u' :: rest)
  | '\\' :: c :: rest =>
    match simpleEscape? c with
    | none => stop .escape ('\\' :: c :: rest)
    | some e => (stringBody opening rest).map fun r => (e :: r.1, r.2)
  | ['\\'] => stop .openString opening
  | c :: rest =>
    if c.toNat < 0x20 then stop .control (c :: rest)
    else (stringBody opening rest).map fun r => (c :: r.1, r.2)

/-! ## Numbers -/

/-- The parts of a number as written. -/
structure Numeral where
  negative : Bool
  whole : List Char
  fraction : Option (List Char)
  exponent : Option (Bool × List Char)

/-- The fraction, if a point and at least one digit follow. -/
def fraction? : List Char → Option (List Char) × List Char
  | '.' :: d :: rest =>
    if isDigit d then (some (d :: rest.takeWhile isDigit), rest.dropWhile isDigit)
    else (none, '.' :: d :: rest)
  | cs => (none, cs)

/-- The digits of an exponent, if there is one. -/
def exponentDigits? (negative : Bool) (cs : List Char) : Option ((Bool × List Char) × List Char) :=
  match cs.takeWhile isDigit with
  | [] => none
  | ds => some ((negative, ds), cs.dropWhile isDigit)

/-- The exponent, if the letter, perhaps a sign, and at least one digit
follow. -/
def exponent? (cs : List Char) : Option (Bool × List Char) × List Char :=
  let found := match cs with
    | c :: rest =>
      if c = 'e' ∨ c = 'E' then
        match rest with
        | '-' :: rest => exponentDigits? true rest
        | '+' :: rest => exponentDigits? false rest
        | _ => exponentDigits? false rest
      else none
    | [] => none
  match found with
  | some (e, rest) => (some e, rest)
  | none => (none, cs)

/-- The whole part: a lone zero, or digits that start with another one. -/
def whole? : List Char → Option (List Char × List Char)
  | '0' :: rest => some (['0'], rest)
  | c :: rest =>
    if isDigit c then some (c :: rest.takeWhile isDigit, rest.dropWhile isDigit) else none
  | [] => none

def numeral? (cs : List Char) : Option (Numeral × List Char) :=
  let (negative, cs) := match cs with
    | '-' :: rest => (true, rest)
    | _ => (false, cs)
  (whole? cs).map fun (whole, cs) =>
    let (fraction, cs) := fraction? cs
    let (exponent, cs) := exponent? cs
    (⟨negative, whole, fraction, exponent⟩, cs)

/-- The value of a numeral: an integer, or the nearest double if it has a
fraction or an exponent. -/
def Numeral.value (n : Numeral) : Except Trouble Value :=
  match n.fraction, n.exponent with
  | none, none =>
    if Number.digitLimit < n.whole.length then .error (.longInteger n.whole.length)
    else
      let m : Int := digitsValue n.whole
      .ok (.int (if n.negative then -m else m : Int))
  | fraction, exponent =>
    let places := fraction.getD []
    let shift : Int := match exponent with
      | none => 0
      | some (negative, ds) => if negative then -(digitsValue ds : Int) else digitsValue ds
    .ok (.float (Double.ofDecimal n.negative (digitsValue (n.whole ++ places))
      (shift - places.length)))

def number (cs : List Char) : Except Stop (Value × List Char) :=
  match numeral? cs with
  | none => stop .noValue cs
  | some (n, rest) => match n.value with
    | .ok v => .ok (v, rest)
    | .error t => stop t cs

/-! ## Values -/

/-- The value behind a name such as `null`. -/
def named? : List Char → Option (Value × List Char)
  | 'n' :: 'u' :: 'l' :: 'l' :: rest => some (.null, rest)
  | 't' :: 'r' :: 'u' :: 'e' :: rest => some (.bool true, rest)
  | 'f' :: 'a' :: 'l' :: 's' :: 'e' :: rest => some (.bool false, rest)
  | 'N' :: 'a' :: 'N' :: rest => some (.float (Double.nan .json), rest)
  | 'I' :: 'n' :: 'f' :: 'i' :: 'n' :: 'i' :: 't' :: 'y' :: rest => some (.float Double.infinity, rest)
  | '-' :: 'I' :: 'n' :: 'f' :: 'i' :: 'n' :: 'i' :: 't' :: 'y' :: rest =>
    some (.float Double.negativeInfinity, rest)
  | _ => none

mutual
/-- A value at the start of the text. Each level of nesting takes two steps
of fuel. -/
def value : Nat → List Char → Except Stop (Value × List Char)
  | 0, cs => stop .noValue cs
  | fuel + 1, cs =>
    match cs with
    | '"' :: rest => (stringBody cs rest).map fun r => (.text (String.ofList r.1), r.2)
    | '[' :: rest =>
      match skipSpace rest with
      | ']' :: rest => .ok (.list [], rest)
      | rest => (items fuel rest).map fun r => (.list r.1, r.2)
    | '{' :: rest =>
      match skipSpace rest with
      | '}' :: rest => .ok (.object [], rest)
      | rest => (members fuel rest).map fun r => (.object (Mapping.ofEntries r.1), r.2)
    | _ => match named? cs with
      | some r => .ok r
      | none => number cs
/-- One item or more, up to the closing bracket. -/
def items : Nat → List Char → Except Stop (List Value × List Char)
  | 0, cs => stop .noValue cs
  | fuel + 1, cs => do
    let (v, rest) ← value fuel cs
    match skipSpace rest with
    | ']' :: rest => return ([v], rest)
    | ',' :: rest =>
      let (vs, rest) ← items fuel (skipSpace rest)
      return (v :: vs, rest)
    | rest => stop .noComma rest
/-- One member or more, up to the closing brace. -/
def members : Nat → List Char → Except Stop (List (Key × Value) × List Char)
  | 0, cs => stop .noValue cs
  | fuel + 1, cs =>
    match cs with
    | '"' :: rest => do
      let (name, rest) ← stringBody cs rest
      match skipSpace rest with
      | ':' :: rest =>
        let (v, rest) ← value fuel (skipSpace rest)
        let entry := (Key.text (String.ofList name), v)
        match skipSpace rest with
        | '}' :: rest => return ([entry], rest)
        | ',' :: rest =>
          let (es, rest) ← members fuel (skipSpace rest)
          return (entry :: es, rest)
        | rest => stop .noComma rest
      | rest => stop .noColon rest
    | cs => stop .noName cs
end

/-! ## Documents -/

/-- Why and where a document is not JSON. -/
structure Fault where
  trouble : Trouble
  /-- Characters before the failure. -/
  position : Nat
  line : Nat
  column : Nat
deriving DecidableEq, Repr

/-- Where reading stopped in a document: lines and columns count from one. -/
def Stop.inDocument (s : Stop) (document : List Char) : Fault :=
  let before := document.take (document.length - s.rest.length)
  ⟨s.trouble, before.length, before.count '\n' + 1,
    (before.reverse.takeWhile (· != '\n')).length + 1⟩

/-- The message of a failure. A number too long to convert has no place. -/
def Fault.message (f : Fault) : String :=
  match f.trouble with
  | .longInteger _ => f.trouble.message
  | t => t.message ++ ": line " ++ toString f.line ++ " column " ++ toString f.column
      ++ " (char " ++ toString f.position ++ ")"

/-- The value that a whole text holds, with space around it. -/
def document (cs : List Char) : Except Stop Value :=
  match cs with
  | '\ufeff' :: _ => stop .byteOrderMark cs
  | _ => do
    let (v, rest) ← value (2 * cs.length + 2) (skipSpace cs)
    match skipSpace rest with
    | [] => return v
    | rest => stop .extra rest

/-- Reads a JSON document. -/
def read (s : String) : Except Fault Value :=
  let cs := s.toList
  (document cs).mapError fun e => e.inDocument cs

end Rulebook.Json

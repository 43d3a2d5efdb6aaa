-- What plain YAML scalars mean: null, booleans, integers in several bases,
-- and numbers with a point. Everything else is text, but for the two signs that
-- mean something in front of a value only, and for dates, which are not read.
import Rulebook.Document.Yaml.Trouble
import Rulebook.Json.Reader

namespace Rulebook.Yaml.Scalar

def nullWords : List String := ["", "~", "null", "Null", "NULL"]

def trueWords : List String := ["yes", "Yes", "YES", "true", "True", "TRUE", "on", "On", "ON"]

def falseWords : List String := ["no", "No", "NO", "false", "False", "FALSE", "off", "Off", "OFF"]

/-! ## Digits -/

def isDigit : Char → Bool := Json.isDigit

def isDigitOrLine (c : Char) : Bool := isDigit c || c == '_'

def isBinary (c : Char) : Bool := c == '0' || c == '1' || c == '_'

def isOctal (c : Char) : Bool := ('0' ≤ c && c ≤ '7') || c == '_'

def isHex (c : Char) : Bool := (Json.hexValue? c).isSome || c == '_'

/-- The number that digits spell in a base; underscores do not count. -/
def inBase (base : Nat) (cs : List Char) : Nat :=
  (cs.filter (· != '_')).foldl (fun n c => base * n + (Json.hexValue? c).getD 0) 0

/-- The sign in front, and what follows it. -/
def signed (cs : List Char) : Bool × List Char :=
  match cs with
  | '-' :: rest => (true, rest)
  | '+' :: rest => (false, rest)
  | _ => (false, cs)

/-! ## Base sixty -/

/-- The parts between colons. -/
def parts : List Char → List (List Char)
  | [] => [[]]
  | c :: cs =>
    if c == ':' then [] :: parts cs
    else match parts cs with
      | p :: ps => (c :: p) :: ps
      | [] => [[c]]

/-- A part below sixty: one digit, or two of which the first is at most 5. -/
def isSixtieth : List Char → Bool
  | [a] => isDigit a
  | [a, b] => '0' ≤ a && a ≤ '5' && isDigit b
  | _ => false

def sixties (ns : List Nat) : Nat := ns.foldl (fun n d => 60 * n + d) 0

/-! ## Integers -/

/-- An integer in base ten, unless it has too many digits. -/
def decimal (cs : List Char) : Except Trouble Nat :=
  let digits := (cs.filter isDigit).length
  if Number.digitLimit < digits then .error (.longInteger digits) else .ok (inBase 10 cs)

/-- An integer in base two or sixteen; there may be underscores alone. -/
def based (base : Nat) (cs : List Char) : Except Trouble Nat :=
  if cs.all (· == '_') then .error (.noDigits base) else .ok (inBase base cs)

/-- An integer without its sign, if it is one. -/
def magnitude? (cs : List Char) : Option (Except Trouble Nat) :=
  match cs with
  | ['0'] => some (.ok 0)
  | '0' :: 'b' :: ds => if !ds.isEmpty && ds.all isBinary then some (based 2 ds) else none
  | '0' :: 'x' :: ds => if !ds.isEmpty && ds.all isHex then some (based 16 ds) else none
  | '0' :: ds => if ds.all isOctal then some (.ok (inBase 8 ds)) else none
  | c :: ds =>
    if !isDigit c then none
    else if ds.all isDigitOrLine then some (decimal cs)
    else match parts cs with
      | first :: rest =>
        if first.all isDigitOrLine && rest.all isSixtieth then
          some ((decimal first).map fun n => sixties (n :: rest.map (inBase 10)))
        else none
      | [] => none
  | [] => none

/-! ## Numbers with a point -/

/-- The exponent behind the digits: a letter, a sign and digits. -/
def exponent? : List Char → Option Int
  | [] => some 0
  | e :: sign :: ds =>
    if (e == 'e' || e == 'E') && (sign == '+' || sign == '-') && !ds.isEmpty && ds.all isDigit then
      let n : Int := Json.digitsValue ds
      some (if sign == '-' then -n else n)
    else none
  | _ => none

/-- The digits before and behind a point, and an exponent. -/
def pointed? (whole rest : List Char) : Option (Bool → Double) :=
  let places := rest.takeWhile isDigitOrLine
  (exponent? (rest.drop places.length)).map fun e => fun negative =>
    let places := places.filter isDigit
    Double.ofDecimal negative (inBase 10 (whole ++ places)) (e - places.length)

/-- Adds a part in base sixty to a sum. The power of sixty that it counts
for has to be a double. -/
def addPart (sum : Double × Nat) (part : Double) : Except Trouble (Double × Nat) :=
  match Double.ofInt? sum.2 with
  | some power => .ok (sum.1.add (part.mul power), sum.2 * 60)
  | none => .error .integerTooLarge

/-- A number in base sixty with decimal places behind its last part. The
parts are added up from the last one, each product and sum rounded. -/
def pointedSixties (negative : Bool) (ns : List Nat) (places : List Char) :
    Except Trouble Double := do
  let last := ns.getLastD 0 * Nat.pow 10 places.length + inBase 10 places
  let doubles := Double.ofDecimal false last (-(places.length : Int))
    :: ns.dropLast.reverse.map fun n => Double.ofDecimal false n 0
  let sum := (← doubles.foldlM addPart (.zero, 1)).1
  return if negative then sum.neg else sum

/-- A number with a point, if it is one. -/
def double? (cs : List Char) : Option (Except Trouble Double) :=
  let (negative, body) := signed cs
  let hasSign := body.length < cs.length
  let plain (whole rest : List Char) : Option (Except Trouble Double) :=
    (pointed? whole rest).map fun f => .ok (f negative)
  if [".inf", ".Inf", ".INF"].contains (String.ofList body) then
    some (.ok (if negative then .negativeInfinity else .infinity))
  else if [".nan", ".NaN", ".NAN"].contains (String.ofList cs) then some (.ok (.nan .yaml))
  else match body with
    | '.' :: d :: rest => if isDigit d && !hasSign then plain [] (d :: rest) else none
    | d :: _ =>
      if !isDigit d then none
      else
        let whole := body.takeWhile isDigitOrLine
        match body.drop whole.length with
        | '.' :: rest => plain whole rest
        | ':' :: _ =>
          let minutes := body.takeWhile (· != '.')
          match parts minutes, body.drop minutes.length with
          | first :: more, '.' :: places =>
            if first.all isDigitOrLine && more.all isSixtieth && places.all isDigitOrLine then
              some (pointedSixties negative ((first :: more).map (inBase 10)) (places.filter isDigit))
            else none
          | _, _ => none
        | _ => none
    | [] => none

/-- A number, if the text spells one. -/
def number? (cs : List Char) : Option (Except Trouble Value) :=
  match double? cs with
  | some x => some (x.map fun x => .float x)
  | none =>
    let (negative, body) := signed cs
    (magnitude? body).map fun m => m.map fun n => .int (if negative then -(n : Int) else n : Int)

/-! ## Dates -/

/-- What is behind so many digits. -/
def behindDigits? (least most : Nat) (cs : List Char) : Option (List Char) :=
  let count := ((cs.take most).takeWhile isDigit).length
  if count < least then none else some (cs.drop count)

/-- What is behind a character, if the character comes first. -/
def behind? (c : Char) : List Char → Option (List Char)
  | d :: cs => if d = c then some cs else none
  | [] => none

def isGap (c : Char) : Bool := c == ' ' || c == '\t'

/-- Whether a text is a distance from universal time, or nothing. -/
def isOffset (cs : List Char) : Bool :=
  cs.isEmpty || match cs.dropWhile isGap with
    | ['Z'] => true
    | sign :: rest => (sign == '+' || sign == '-') && match behindDigits? 1 2 rest with
      | some [] => true
      | some (':' :: minutes) => behindDigits? 2 2 minutes == some []
      | _ => false
    | [] => false

/-- Whether a text is a time of day, with or without such a distance. -/
def isTime (cs : List Char) : Bool :=
  let seconds := do
    let minutes ← behind? ':' (← behindDigits? 1 2 cs)
    behindDigits? 2 2 (← behind? ':' (← behindDigits? 2 2 minutes))
  match seconds with
  | some ('.' :: fraction) => isOffset (fraction.dropWhile isDigit)
  | some rest => isOffset rest
  | none => false

/-- Whether a text is written as a date. Without a time, month and day have
two digits. -/
def isDate (cs : List Char) : Bool :=
  let days := do
    let months ← behind? '-' (← behindDigits? 4 4 cs)
    behindDigits? 1 2 (← behind? '-' (← behindDigits? 1 2 months))
  match days with
  | some [] => cs.length == 10
  | some (c :: rest) =>
    if c = 'T' ∨ c = 't' then isTime rest else isGap c && isTime (rest.dropWhile isGap)
  | none => false

/-! ## Meaning -/

/-- The sign for the value of a mapping. As a key it is text. -/
def valueSign : String := "="

/-- The sign for a mapping that another one takes in. -/
def mergeSign : String := "<<"

/-- The value of a plain scalar. The two signs have none, nor have dates. -/
def value (s : String) : Except Trouble Value :=
  if nullWords.contains s then .ok .null
  else if trueWords.contains s then .ok (.bool true)
  else if falseWords.contains s then .ok (.bool false)
  else if s = valueSign ∨ s = mergeSign then malformed
  else match number? s.toList with
    | some v => v
    | none => if isDate s.toList then malformed else .ok (.text s)

end Rulebook.Yaml.Scalar

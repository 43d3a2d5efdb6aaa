-- A catalogue of operations that hosts add to the standard ones, each
-- under an identifier of its own.
import Rulebook.Operation

namespace Rulebook

/-- What a host offers under a name. -/
inductive Entry where
  | factory (f : Factory) (description : String)
  /-- A complete operation with its own name. -/
  | operation (o : Operation)
  /-- Something that is no operation. -/
  | other (typeName : String)

namespace Extension

/-! ## Functions -/

def upper : Value → Except Fault Value
  | .text s => .ok (.text (Text.upper s))
  | v => .error (.noUpper v.typeName)

/-- The integer that a boolean or an integer counts as. -/
def integer? : Value → Option Int
  | .bool b => some (if b then 1 else 0)
  | .int n => some n
  | _ => none

def negate : Value → Except Fault Value
  | .float x => .ok (.float x.value.neg)
  | v => match integer? v with
    | some n => .ok (.int (-n : Int))
    | none => .error (.noNegative v.typeName)

def asDouble (n : Int) : Except Fault Double :=
  match Double.ofInt? n with
  | some x => .ok x
  | none => .error .integerTooLarge

/-- Integers subtract exactly, with a double both sides become doubles. -/
def subtract (a b : Value) : Except Fault Value :=
  match a, b, integer? a, integer? b with
  | .float x, .float y, _, _ => .ok (.float (x.value.sub y))
  | .float x, _, _, some n => do return .float (x.value.sub (← asDouble n))
  | _, .float y, some m, _ => do return .float ((← asDouble m).sub y)
  | _, _, some m, some n => .ok (.int (m - n : Int))
  | _, _, _, _ => .error (.noDifference a.typeName b.typeName)

def both (a b : Value) : Except Fault Value := .ok (.list [a, b])

/-- The value, moved to the nearer end of the range if it lies outside. -/
def clamp : List Value → Except Fault Value
  | [value, low, high] => do
    let capped := if ← Function.holds .lt value high then value else high
    return if ← Function.holds .gt capped low then capped else low
  | _ => .ok .undefined

def count (vs : List Value) : Except Fault Value := .ok (.int vs.length)

def first (vs : List Value) : Except Fault Value := .ok (vs.headD .undefined)

/-! ## The catalogue -/

/-- The name of a function that has none. -/
def nameless : String := "<lambda>"

/-- An operation that calculates with numbers. -/
def calculation (plan : Value → Except Fault Blueprint) : Factory :=
  .form fun v => (plan v).map Blueprint.calculated

def upperFactory : Factory := .unary "upper" upper

def catalogue : List (String × Entry) :=
  [ ("upper", .factory upperFactory ""),
    ("negate", .factory (calculation (Blueprint.unary "negate" negate)) ""),
    ("record", .factory (.form (Blueprint.witness "record")) ""),
    ("sub", .factory (calculation (Blueprint.binary "sub" subtract)) ""),
    ("pick", .factory (.binary nameless both) ""),
    ("clamp", .factory (.complex "clamp" (some 3) clamp) ""),
    ("pair", .factory (.pair "pair" both) ""),
    ("count", .factory (.complex "count" none count) ""),
    ("anon", .factory (.complex nameless (some 1) first) ""),
    ("twice", .factory (.form Blueprint.twice) "Compile the operand twice."),
    ("quote", .factory (.form Blueprint.verbatim) ""),
    ("plain_path", .factory (.form (Blueprint.path .plain)) ""),
    ("inherit_up", .factory (.form (Blueprint.path (.inherited "up"))) ""),
    ("debug_sink", .factory (.debug (some (.named "own"))) ""),
    ("spec_upper", .operation ⟨"upper", true, .string, upperFactory, "Upper-case"⟩),
    ("not_callable", .other "int") ]

/-- The entry with an identifier. -/
def find? (id : String) : Option Entry := Mapping.get? id catalogue

end Extension
end Rulebook

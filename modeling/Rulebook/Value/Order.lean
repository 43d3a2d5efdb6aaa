-- Equality and order of values. Numbers compare by their exact value, with
-- the booleans as one and zero; `eq` alone keeps booleans apart.
import Rulebook.Value.Basic

namespace Rulebook

/-! ## Numbers on one line -/

/-- A place on the number line: tier zero holds the finite numbers in units
of 2^-1074, the tiers beside it the two infinities. -/
structure Rank where
  tier : Int
  units : Int
deriving DecidableEq, Repr

namespace Rank

def ofInt (n : Int) : Rank := ⟨0, n * Double.unitsPerOne⟩

def ofDouble (x : Double) : Rank :=
  if x.isInfinite then ⟨if x.isNegative then -1 else 1, 0⟩ else ⟨0, x.units⟩

def compare (a b : Rank) : Ordering :=
  (Ord.compare a.tier b.tier).then (Ord.compare a.units b.units)

end Rank

namespace Value

def isNaN : Value → Bool
  | .float x => x.value.isNaN
  | _ => false

/-- The place of a number; other values and NaN have none. -/
def rank? : Value → Option Rank
  | .bool b => some (.ofInt (if b then 1 else 0))
  | .int n => some (.ofInt n)
  | .float x => if x.value.isNaN then none else some (.ofDouble x)
  | _ => none

def isNumber : Value → Bool
  | .bool _ | .int _ | .float _ => true
  | _ => false

/-! ## Equality -/

/-- Whether two values are one and the same NaN: those of different sources
are not. -/
def sameNaN : Value → Value → Bool
  | .float x, .float y => x.value.isNaN && x.value == y.value
  | _, _ => false

/-- Equality of two values that are not both a text, a list or a mapping. A
NaN agrees with itself here. -/
def sameNumber (a b : Value) : Bool :=
  match a.rank?, b.rank? with
  | some r, some s => r == s
  | none, none => sameNaN a b
  | _, _ => false

mutual
/-- Whether two parts of larger values agree: lists item by item, mappings
key by key whatever their order. -/
def same : Value → Value → Bool
  | .undefined, .undefined => true
  | .null, .null => true
  | .text a, .text b => a == b
  | .foreign a, .foreign b => a == b
  | .list xs, .list ys => sameItems xs ys
  | .object fs, .object gs => fs.length == gs.length && sameFields fs gs
  | a, b => sameNumber a b
def sameItems : List Value → List Value → Bool
  | [], [] => true
  | x :: xs, y :: ys => same x y && sameItems xs ys
  | _, _ => false
def sameFields : List (Key × Value) → List (Key × Value) → Bool
  | [], _ => true
  | (k, v) :: fs, gs =>
    (match Mapping.get? k gs with
     | some w => same v w
     | none => false) && sameFields fs gs
end

/-- Equality of two whole values: a NaN equals nothing, not even itself. -/
def equals (a b : Value) : Bool := same a b && !a.isNaN

/-- Equality that keeps a boolean apart from every number. -/
def strictEquals (a b : Value) : Bool := a.isBool == b.isBool && equals a b

/-! ## Order -/

/-- The outcome of comparing two values. NaN is unordered; values of unlike
types have no order, and the types that met are named. -/
inductive Comparison where
  | ordered (o : Ordering)
  | unordered
  | mismatch (left right : String)
deriving DecidableEq, Repr

def orderNumbers (a b : Value) : Comparison :=
  if a.isNumber && b.isNumber then
    match a.rank?, b.rank? with
    | some r, some s => .ordered (r.compare s)
    | _, _ => .unordered
  else .mismatch a.typeName b.typeName

mutual
/-- Numbers by value, texts by code points, lists by their first items that
differ and then by length. -/
def order : Value → Value → Comparison
  | .text a, .text b => .ordered (Ord.compare a b)
  | .list xs, .list ys => orderItems xs ys
  | a, b => orderNumbers a b
def orderItems : List Value → List Value → Comparison
  | [], [] => .ordered .eq
  | [], _ :: _ => .ordered .lt
  | _ :: _, [] => .ordered .gt
  | x :: xs, y :: ys => if same x y then orderItems xs ys else order x y
end

end Value

/-- The four ordering relations. -/
inductive Relation where
  | gt | gte | lt | lte
deriving DecidableEq, Repr

namespace Relation

def symbol : Relation → String
  | .gt => ">"
  | .gte => ">="
  | .lt => "<"
  | .lte => "<="

def accepts : Relation → Ordering → Bool
  | .gt, o => o == .gt
  | .gte, o => o != .lt
  | .lt, o => o == .lt
  | .lte, o => o != .gt

end Relation
end Rulebook

-- Reading values along paths. A path goes through mappings by key, through
-- lists by index, and through numbers by the name of a property; whatever
-- cannot be followed is the missing value.
import Rulebook.Fault
import Rulebook.Text.Digit
import Rulebook.Text.Split

namespace Rulebook

/-! ## Segments -/

/-- The key that a value can be, if it is one of the scalars of documents. -/
def Value.key? : Value → Option Key
  | .text s => some (.text s)
  | .int n => some (.int n)
  | .float x => some (.float x)
  | .bool b => some (.bool b)
  | .null => some .null
  | _ => none

namespace Path

/-- The segments that a property key stands for: the parts of a dotted text,
one index, or the items of a list. -/
def segments : Value → Except Fault (List Value)
  | .text s => .ok ((Text.dotted s).map .text)
  | .bool b => .error (.propertyBool (.bool b))
  | .int n => .ok [.int n]
  | .list xs => .ok xs
  | v => .error (.propertyKey v)

/-- The index that a text of digits spells. Digits without a place value are
refused, and so are more digits than the limit. -/
def digitsIndex (s : String) : Except Fault Int :=
  let places := (s.toList.takeWhile fun c => (Text.digitValue? c).isSome).length
  if Number.digitLimit < places then .error (.tooManyDigits places)
  else match Text.digitsValue? s.toList with
    | some n => .ok n
    | none => .error (.notDigits s)

/-- The list index that a segment stands for, if any: an integer, or a text
of digits. -/
def index? : Value → Except Fault (Option Int)
  | .int n => .ok (some n)
  | .text s =>
    if !s.isEmpty && s.toList.all Text.isDigit then (digitsIndex s).map some else .ok none
  | _ => .ok none

/-- Whether a segment can be looked up in a mapping at all. -/
def hashable (segment : Value) : Except Fault Unit :=
  match segment with
  | .list _ | .object _ => .error (.unhashable segment.typeName)
  | _ => .ok ()

/-! ## One step -/

def methodsOfInt : List String :=
  ["as_integer_ratio", "bit_count", "bit_length", "conjugate", "from_bytes", "to_bytes"]

def methodsOfFloat : List String :=
  ["as_integer_ratio", "conjugate", "fromhex", "hex", "is_integer"]

/-- The methods that belong to the class of a number, whatever the number. -/
def methodsOfClass : List String := ["from_bytes", "fromhex"]

/-- A method reached from a number. -/
def method (receiver : Receiver) (name : String) : Value :=
  .foreign (.method (if methodsOfClass.contains name then .type receiver.typeName else receiver) name)

def intProperty (receiver : Receiver) (n : Boxed Int) (name : String) : Value :=
  if name = "real" ∨ name = "numerator" then .int n
  else if name = "imag" then .int 0
  else if name = "denominator" then .int 1
  else if methodsOfInt.contains name then method receiver name
  else .undefined

def floatProperty (x : Boxed Double) (name : String) : Value :=
  if name = "real" then .float x
  else if name = "imag" then .float ⟨.zero, .imaginary x.origin⟩
  else if methodsOfFloat.contains name then method (.float x) name
  else .undefined

/-- A property of a number; a boolean has those of one and zero. -/
def property (v : Value) (name : String) : Value :=
  match v with
  | .bool b => intProperty (.bool b) (if b then 1 else 0) name
  | .int n => intProperty (.int n.interned) n name
  | .float x => floatProperty x name
  | _ => .undefined

/-- The entry of a mapping under a segment. -/
def field? (segment : Value) (fs : Fields) : Option Value :=
  segment.key?.bind fun k => Mapping.get? k fs

def item (xs : List Value) (i : Int) : Value :=
  if i < 0 then .undefined else (xs[i.toNat]?).getD .undefined

/-- Follows one segment, without looking anywhere else. -/
def step (v segment : Value) : Except Fault Value :=
  match v with
  | .object fs => (hashable segment).map fun _ => (field? segment fs).getD .undefined
  | .list xs => (index? segment).map fun
    | some i => item xs i
    | none => .undefined
  | .bool _ | .int _ | .float _ => .ok (match segment with
    | .text name => property v name
    | _ => .undefined)
  | _ => .ok .undefined

mutual
/-- The entry under a segment in a scope: in the mapping itself, else in the
scope that it holds under the parent key. -/
def inScope (parent : Key) (segment : Value) : Value → Value
  | .object fs =>
    match field? segment fs with
    | some v => v
    | none => aboveScope parent segment fs
  | _ => .undefined
def aboveScope (parent : Key) (segment : Value) : List (Key × Value) → Value
  | [] => .undefined
  | (k, v) :: rest => if k == parent then inScope parent segment v else aboveScope parent segment rest
end

/-- Follows one segment; in a mapping without it, goes on in its ancestors. -/
def stepInherited (parent : Key) (v segment : Value) : Except Fault Value :=
  match v with
  | .object _ => (hashable segment).map fun _ => inScope parent segment v
  | _ => step v segment

/-! ## Walks -/

/-- Follows the segments in turn; a walk that is lost stays lost. -/
def walk (step : Value → Value → Except Fault Value) (v : Value) : List Value → Except Fault Value
  | [] => .ok v
  | s :: rest => do
    let w ← step v s
    if w.isUndefined then .ok .undefined else walk step w rest

end Path

/-- How paths are followed: in place, or with ancestors under a parent key. -/
inductive Resolver where
  | plain
  | inherited (parent : String)
deriving DecidableEq, Repr

namespace Resolver

def step : Resolver → Value → Value → Except Fault Value
  | .plain => Path.step
  | .inherited parent => Path.stepInherited (.text parent)

def get (r : Resolver) (root : Value) (path : List Value) : Except Fault Value :=
  Path.walk r.step root path

end Resolver

/-- What a value gives when it is gone through one by one: the items of a
list, the characters of a text, the keys of a mapping. -/
def Value.elements : Value → Except Fault (List Value)
  | .list xs => .ok xs
  | .text s => .ok (s.toList.map fun c => .text c.toString)
  | .object fs => .ok (fs.map fun e => e.1.toValue)
  | v => .error (.notIterable v.typeName)

end Rulebook

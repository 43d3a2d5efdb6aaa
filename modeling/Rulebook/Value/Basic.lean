-- The data that definitions, contexts and results are made of: JSON data,
-- the missing value, and values that are not data but can be met.
import Rulebook.Mapping
import Rulebook.Number.Boxed

namespace Rulebook

/-! ## Values that are not data -/

/-- What a method belongs to: a number, or the class of numbers of a kind. -/
inductive Receiver where
  | bool (b : Bool)
  | int (n : Boxed Int)
  | float (x : Boxed Double)
  | type (name : String)
deriving DecidableEq, Repr, Inhabited

namespace Receiver

def typeName : Receiver → String
  | .bool _ => "bool"
  | .int _ => "int"
  | .float _ => "float"
  | .type _ => "type"

/-- What tells the object from all others, where its address would stand. -/
def label : Receiver → String
  | .bool b => if b then "True" else "False"
  | .int n => toString n ++ "@" ++ n.origin.label
  | .float x => toString x.value.bits ++ "@" ++ x.origin.label
  | .type name => name

end Receiver

/-- A value that is no data: a method of a number, which a path can reach and
nothing can call. -/
structure Foreign where
  method ::
  receiver : Receiver
  name : String
deriving DecidableEq, Repr, Inhabited

namespace Foreign

def typeName (_ : Foreign) : String := "builtin_function_or_method"

def text (f : Foreign) : String :=
  "<built-in method " ++ f.name ++ " of " ++ f.receiver.typeName ++ " object at " ++ f.receiver.label ++ ">"

end Foreign

/-! ## Keys -/

/-- A key of a mapping. JSON keys are texts; other documents may have keys
of the other scalar kinds. -/
inductive Key where
  | text (s : String)
  | int (n : Boxed Int)
  | float (x : Boxed Double)
  | bool (b : Bool)
  | null
deriving Repr, Inhabited

/-- What a key is compared by: numbers by their value, with the booleans as
one and zero. -/
inductive KeyIdentity where
  | text (s : String)
  | int (n : Int)
  | float (x : Double)
  | null
deriving DecidableEq, Repr

def Key.identity : Key → KeyIdentity
  | .text s => .text s
  | .int n => .int n
  | .bool b => .int (if b then 1 else 0)
  | .null => .null
  | .float x => match x.value.toInt? with
    | some n => .int n
    | none => .float x

instance : BEq Key := ⟨fun a b => a.identity == b.identity⟩

/-! ## Values -/

/-- Data. A mapping is an ordered list of entries whose keys differ. -/
inductive Value where
  | undefined
  | null
  | bool (b : Bool)
  | int (n : Boxed Int)
  | float (x : Boxed Double)
  | text (s : String)
  | list (items : List Value)
  | object (fields : List (Key × Value))
  | foreign (f : Foreign)
deriving Repr, Inhabited

/-- The entries of a mapping. -/
abbrev Fields := List (Key × Value)

def Key.toValue : Key → Value
  | .text s => .text s
  | .int n => .int n
  | .float x => .float x
  | .bool b => .bool b
  | .null => .null

namespace Value

/-- A mapping with text keys, stored one after the other. -/
def ofPairs (pairs : List (String × Value)) : Value :=
  .object (Mapping.ofEntries (pairs.map fun p => (Key.text p.1, p.2)))

/-- The name of a value's type in messages. -/
def typeName : Value → String
  | .undefined => "_Undefined"
  | .null => "NoneType"
  | .bool _ => "bool"
  | .int _ => "int"
  | .float _ => "float"
  | .text _ => "str"
  | .list _ => "list"
  | .object _ => "dict"
  | .foreign f => f.typeName

def isUndefined : Value → Bool
  | .undefined => true
  | _ => false

def isBool : Value → Bool
  | .bool _ => true
  | _ => false

def isList : Value → Bool
  | .list _ => true
  | _ => false

/-- Missing or null. -/
def isAbsent : Value → Bool
  | .undefined | .null => true
  | _ => false

/-- False are the missing value, null, false, zero, and whatever is empty. -/
def truthy : Value → Bool
  | .undefined | .null => false
  | .bool b => b
  | .int n => n.value != 0
  | .float x => x.value.magnitude != 0
  | .text s => s != ""
  | .list xs => !xs.isEmpty
  | .object fs => !fs.isEmpty
  | .foreign _ => true

/-! ## The kinds of JSON data -/

inductive Kind where
  | undefined | null | boolean | number | string | array | object
deriving DecidableEq, Repr

def Kind.name : Kind → String
  | .undefined => "undefined"
  | .null => "null"
  | .boolean => "boolean"
  | .number => "number"
  | .string => "string"
  | .array => "array"
  | .object => "object"

def kind : Value → Kind
  | .undefined => .undefined
  | .null => .null
  | .bool _ => .boolean
  | .int _ | .float _ => .number
  | .text _ => .string
  | .list _ => .array
  | .object _ | .foreign _ => .object

/-! ## Size -/

mutual
/-- A text counts its characters, a collection its parts. -/
def size : Value → Nat
  | .text s => 1 + s.length
  | .list xs => 1 + sizeItems xs
  | .object fs => 1 + sizeFields fs
  | _ => 1
def sizeItems : List Value → Nat
  | [] => 0
  | x :: xs => x.size + sizeItems xs
def sizeFields : List (Key × Value) → Nat
  | [] => 0
  | (_, v) :: fs => v.size + sizeFields fs
end

/-! ## Data without the missing value -/

mutual
/-- The value with null for each missing value, at any depth. -/
def toJson : Value → Value
  | .undefined => .null
  | .list xs => .list (toJsonItems xs)
  | .object fs => .object (toJsonFields fs)
  | v => v
def toJsonItems : List Value → List Value
  | [] => []
  | x :: xs => x.toJson :: toJsonItems xs
def toJsonFields : List (Key × Value) → List (Key × Value)
  | [] => []
  | (k, v) :: fs => (k, v.toJson) :: toJsonFields fs
end

end Value
end Rulebook

-- Operations: how a definition with a given key is compiled, and how the
-- operation is listed.
import Rulebook.Operation.Blueprint
import Rulebook.Operation.Function

namespace Rulebook

/-- How an operation makes its node. -/
inductive Factory where
  /-- By a blueprint of the operand. -/
  | form (plan : Value → Except Fault Blueprint)
  /-- A path through scopes linked by the configured parent key. -/
  | configuredPath
  /-- The operand with everything beneath it recorded, in the given sink or
  else the current one. -/
  | debug (sink : Option Sink)

namespace Factory

def unary (name : String) (f : Value → Except Fault Value) : Factory := .form (Blueprint.unary name f)

def binary (name : String) (f : Value → Value → Except Fault Value) : Factory :=
  .form (Blueprint.binary name f)

def complex (name : String) (arity : Option Nat) (f : List Value → Except Fault Value) : Factory :=
  .form (Blueprint.complex name arity f)

/-- A function of exactly two operands. -/
def pair (name : String) (f : Value → Value → Except Fault Value) : Factory :=
  complex name (some 2) (Function.onPair f)

end Factory

/-- The groups in which operations are listed. -/
inductive Category where
  | syntactic | control | boolean | comparison | collection | string | introspection | extension
deriving DecidableEq, Repr

def Category.name : Category → String
  | .syntactic => "syntax"
  | .control => "control"
  | .boolean => "boolean"
  | .comparison => "comparison"
  | .collection => "collection"
  | .string => "string"
  | .introspection => "introspection"
  | .extension => "extension"

structure Operation where
  name : String
  /-- Whether a host has provided the operation. -/
  extension : Bool
  category : Category
  factory : Factory
  description : String

namespace Operation

/-- What the operation is: a standard one is its own kind. -/
def kindName (o : Operation) : String := if o.extension then "extension" else o.name

/-- An operation that a host provides under a name. -/
def ofHost (name : String) (factory : Factory) (description : String) : Operation :=
  ⟨name, true, .extension, factory, description⟩

/-! ## Names of the operations that the shape of a definition selects -/

def literalName : String := "literal"
def pathName : String := "valueTemplate"
def templateName : String := "stringTemplate"
def arrayName : String := "array"

/-! ## The standard operations -/

def relation (name : String) (r : Relation) (description : String) : Operation :=
  ⟨name, false, .comparison, .binary name (Function.relate r), description⟩

def standard : List Operation :=
  [ ⟨literalName, false, .syntactic, .form Blueprint.literal,
      "Constant value; embedded \x7b$logic: ...\x7d is compiled"⟩,
    ⟨pathName, false, .syntactic, .configuredPath, "\"$a.b\" reads a dotted path from the context"⟩,
    ⟨templateName, false, .syntactic, .form Blueprint.template,
      "\"\x60text $\x7ba.b\x7d\x60\" interpolates context values"⟩,
    ⟨"if", false, .control, .form Blueprint.branch, "[condition, then, else]"⟩,
    ⟨"typeof", false, .introspection, .unary "typeof" Function.typeof,
      "Type name of the operand; null and arrays report object"⟩,
    ⟨"not", false, .boolean, .unary "not" Function.not, "Negated truthiness"⟩,
    ⟨"and", false, .boolean, .binary "and" Function.and, "Pairwise and over 2+ operands, all evaluated"⟩,
    ⟨"or", false, .boolean, .binary "or" Function.or, "Pairwise or over 2+ operands, all evaluated"⟩,
    ⟨"eq", false, .comparison, .binary "eq" Function.eq, "Strict equality"⟩,
    relation "gt" .gt "Greater than",
    relation "gte" .gte "Greater than or equal",
    relation "lt" .lt "Less than",
    relation "lte" .lte "Less than or equal",
    ⟨arrayName, false, .syntactic, .form Blueprint.array, "List of expressions"⟩,
    ⟨"object", false, .collection, .form Blueprint.object, "Mapping of expressions"⟩,
    ⟨"object-property", false, .collection, .form Blueprint.property,
      "[base, key, ...] walks base through keys"⟩,
    ⟨"map", false, .collection, .form Blueprint.map,
      "[source, body] evaluates body per entry with \x60map\x60 bound"⟩,
    ⟨"debug", false, .introspection, .debug none, "Reports every evaluation of the wrapped subtree"⟩,
    ⟨"capitalize", false, .string, .unary "capitalize" Function.capitalize,
      "Upper-case the first character"⟩,
    ⟨"concat", false, .string, .binary "concat" Function.concat, "Concatenate operands as strings"⟩,
    ⟨"split", false, .string, .pair "split" Function.split, "[value, separator] -> list"⟩,
    ⟨"join", false, .string, .pair "join" Function.join, "[values, separator] -> string"⟩ ]

end Operation
end Rulebook

-- What an operation makes of its operand: the paths it reads, the
-- definitions beneath it, and how their nodes are put together. The shape
-- of the operand is checked here, before anything beneath it is compiled.
import Rulebook.Node
import Rulebook.Template

namespace Rulebook

structure Blueprint where
  /-- Paths that the operation itself reads. -/
  lookups : List (List String)
  /-- The definitions beneath the operation, in order. -/
  parts : List Value
  /-- The node, from the nodes of the parts. -/
  assemble : List Node → Node

namespace Blueprint

/-- The operands of a positional operation. -/
def operands (name : String) (count : OperandCount) : Value → Except Fault (List Value)
  | .list xs =>
    if count.admits xs.length then .ok xs
    else .error (.operandCount name count (.list xs) xs.length)
  | d => .error (.operandsNotList name d)

/-! ## Literals -/

/-- The key of an expression inside a literal. -/
def logicKey : Key := .text "$logic"

mutual
/-- The expressions inside a literal that are not inside another one. -/
def payloads : Value → List Value
  | .list xs => payloadsOfItems xs
  | .object fs =>
    match Mapping.get? logicKey fs with
    | some d => [d]
    | none => payloadsOfFields fs
  | _ => []
def payloadsOfItems : List Value → List Value
  | [] => []
  | x :: xs => payloads x ++ payloadsOfItems xs
def payloadsOfFields : List (Key × Value) → List Value
  | [] => []
  | (_, v) :: fs => payloads v ++ payloadsOfFields fs
end

mutual
/-- A literal with the given nodes in the places of its expressions, and
the nodes that are left. -/
def quote : Value → List Node → Node × List Node
  | .list xs, ns => ((.array (quoteItems xs ns).1), (quoteItems xs ns).2)
  | .object fs, ns =>
    match Mapping.get? logicKey fs with
    | some _ => (ns.headD (.literal .undefined), ns.tail)
    | none => ((.object (quoteFields fs ns).1), (quoteFields fs ns).2)
  | v, ns => (.literal v, ns)
def quoteItems : List Value → List Node → List Node × List Node
  | [], ns => ([], ns)
  | x :: xs, ns =>
    let first := quote x ns
    let rest := quoteItems xs first.2
    (first.1 :: rest.1, rest.2)
def quoteFields : List (Key × Value) → List Node → List (Key × Node) × List Node
  | [], ns => ([], ns)
  | (k, v) :: fs, ns =>
    let first := quote v ns
    let rest := quoteFields fs first.2
    ((k, first.1) :: rest.1, rest.2)
end

def literal (v : Value) : Except Fault Blueprint :=
  .ok ⟨[], payloads v, fun ns => (quote v ns).1⟩

/-- A literal without anything compiled inside. -/
def verbatim (v : Value) : Except Fault Blueprint := .ok ⟨[], [], fun _ => .literal v⟩

/-! ## Templates -/

def path (resolver : Resolver) : Value → Except Fault Blueprint
  | .text s => .ok ⟨[Text.dotted s], [], fun _ => .path (Text.dotted s) resolver⟩
  | v => .error (.noMethod v.typeName "split")

def template : Value → Except Fault Blueprint
  | .text s =>
    .ok ⟨[], (Template.holes s).map fun name => .text ("$" ++ name), fun ns => .template s ns⟩
  | v => .error (.templateNotText v.typeName)

/-! ## Operands -/

def branch (v : Value) : Except Fault Blueprint := do
  let xs ← operands "if" (.between 2 3) v
  return ⟨[], xs, fun
    | [c, t, f] => .branch c t f
    | [c, t] => .branch c t (.literal .undefined)
    | _ => .literal .undefined⟩

def unary (name : String) (f : Value → Except Fault Value) (v : Value) : Except Fault Blueprint :=
  .ok ⟨[], [v], fun ns => .unary name f (ns.headD (.literal .undefined))⟩

def witness (name : String) (v : Value) : Except Fault Blueprint :=
  .ok ⟨[], [v], fun ns => .witness name (ns.headD (.literal .undefined))⟩

def binary (name : String) (f : Value → Value → Except Fault Value) (v : Value) :
    Except Fault Blueprint := do
  let xs ← operands name (.atLeast 2) v
  return ⟨[], xs, fun ns => .binary name f ns⟩

def complex (name : String) (arity : Option Nat) (f : List Value → Except Fault Value) (v : Value) :
    Except Fault Blueprint := do
  let xs ← operands name (match arity with
    | some n => .exactly n
    | none => .atLeast 0) v
  return ⟨[], xs, fun ns => .complex name f ns⟩

/-- Reports itself as a lookup and compiles its operand two times. -/
def twice (v : Value) : Except Fault Blueprint :=
  .ok ⟨[["twice"]], [v, v], fun ns => .array ns⟩

/-- A calculation, whose NaN is one of its own. -/
def calculated (b : Blueprint) : Blueprint :=
  { b with assemble := fun ns => .calculated (b.assemble ns) }

/-! ## Collections -/

def array : Value → Except Fault Blueprint
  | .list xs => .ok ⟨[], xs, fun ns => .array ns⟩
  | v => .error (.notArray v)

def object : Value → Except Fault Blueprint
  | .object fs => .ok ⟨[], fs.map Prod.snd, fun ns => .object ((fs.map Prod.fst).zip ns)⟩
  | v => .error (.notObject v)

def property (v : Value) : Except Fault Blueprint := do
  let xs ← operands "object-property" (.atLeast 2) v
  return ⟨[], xs, fun ns => .property (ns.headD (.literal .undefined)) ns.tail⟩

def map (v : Value) : Except Fault Blueprint := do
  let xs ← operands "map" (.exactly 2) v
  return ⟨[], xs, fun
    | [source, body] => .map source body
    | _ => .literal .undefined⟩

end Blueprint
end Rulebook

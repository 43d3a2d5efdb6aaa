-- A compiled definition with the context beneath all its evaluations. It
-- is compiled once and evaluated many times.
import Rulebook.Compile
import Rulebook.Node.Evaluate
import Rulebook.Settings

namespace Rulebook

/-! ## Base contexts -/

namespace Entries

/-- The two halves of an entry. -/
def halves (index : Nat) (entry : Value) : Except Fault (Value × Value) :=
  match entry.elements with
  | .error _ => .error (.entries (.notSequence index))
  | .ok [k, v] => .ok (k, v)
  | .ok xs => .error (.entries (.wrongLength index xs.length))

/-- Stores entries one after the other. -/
def store (m : Fields) : Nat → List Value → Except Fault Fields
  | _, [] => .ok m
  | index, e :: es => do
    let (k, v) ← halves index e
    match k.key? with
    | some key => store (Mapping.put key v m) (index + 1) es
    | none => .error (.unhashable k.typeName)

/-- The mapping that a value describes: a mapping itself, a list of entries,
and for everything that counts as false the empty one. -/
def ofValue (v : Value) : Except Fault Fields :=
  if !v.truthy then .ok []
  else match v with
    | .object fs => .ok fs
    | v => match v.elements with
      | .ok es => store [] 0 es
      | .error _ => .error (.entries (.notIterable v.typeName))

end Entries

/-! ## Logics -/

structure Logic where
  definition : Value
  base : Fields
  /-- The paths that the definition reads, in its order. -/
  lookups : List (List String)
  root : Node

/-- The settings that compilation needs, or why there are none, and where
debug operations record. -/
structure Surroundings where
  settings : Except Fault LogicSettings
  sink : Sink

namespace Logic

/-- The paths among some notices, the latest first, in their order. -/
def lookupsOf (notices : List Notice) : List (List String) :=
  notices.reverse.filterMap fun
    | .lookup p => some p
    | _ => none

/-- Compiles a definition. The base context is checked first, then the
operations, then the settings. -/
def build (around : Surroundings) (operations : List (String × Entry)) (base definition : Value) :
    Build Logic := do
  let fields ← liftExcept (Entries.ofValue base)
  let registry ← liftExcept (Registry.standard.merged operations)
  Build.consult
  let settings : LogicSettings ← liftExcept around.settings
  let before := (← get).notices.length
  let root ← Compile.compile
    ⟨registry, settings.marker, .ok settings.parentKey, around.sink⟩ .plain definition
  let notices := (← get).notices
  return ⟨definition, fields, lookupsOf (notices.take (notices.length - before)), root⟩

/-- Evaluates in the base context overlaid with the given one, which may be
missing but is a mapping otherwise. -/
def eval (l : Logic) (context : Value) : Eval Value :=
  match context with
  | .null => l.root.eval l.base
  | .object fs => l.root.eval (Mapping.overlay l.base fs)
  | v => throw (.contextType v.typeName)

def display (l : Logic) : String := Node.applied "UserLogic" [l.definition.display]

end Logic
end Rulebook

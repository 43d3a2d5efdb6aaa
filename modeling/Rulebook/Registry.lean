-- Registries: the operations that a definition may name. Merging replaces
-- operations of the same name in place and appends the others.
import Rulebook.Operation.Extension

namespace Rulebook

structure Registry where
  operations : List (String × Operation)

namespace Registry

/-- The operation that an entry provides under a name. -/
def accept (name : String) : Entry → Except Fault Operation
  | .factory f description => .ok (Operation.ofHost name f description)
  | .operation o => .ok o
  | .other t => .error (.invalidEntry name t)

/-- The registry of some entries, whose names differ. -/
def ofEntries (entries : List (String × Entry)) : Except Fault Registry := do
  let ops ← entries.mapM fun e => do return (e.1, ← accept e.1 e.2)
  return ⟨ops⟩

def standard : Registry := ⟨Operation.standard.map fun o => (o.name, o)⟩

/-! ## Looking up -/

def names (r : Registry) : List String := Mapping.keys r.operations

def size (r : Registry) : Nat := r.operations.length

def find? (r : Registry) (name : String) : Option Operation := Mapping.get? name r.operations

/-- The factory that a key names. Only texts name operations. -/
def factory? (r : Registry) : Key → Option Factory
  | .text name => (r.find? name).map Operation.factory
  | _ => none

/-- The names in the order of their code points. -/
def sortedNames (r : Registry) : List String := r.names.mergeSort fun a b => decide (a ≤ b)

def display (r : Registry) : String := Node.applied "OperationRegistry" r.names

/-! ## Merging -/

/-- The operations as entries. -/
def entries (r : Registry) : List (String × Entry) :=
  r.operations.map fun e => (e.1, .operation e.2)

/-- The registry with entries stored into it. Without any it stays as it is. -/
def merged (r : Registry) (changes : List (String × Entry)) : Except Fault Registry :=
  if changes.isEmpty then .ok r else ofEntries (Mapping.overlay r.entries changes)

/-- The registry with the operations of another one, under their own names. -/
def mergedWith (r other : Registry) : Except Fault Registry :=
  r.merged (Mapping.ofEntries (other.operations.map fun e => (e.2.name, .operation e.2)))

end Registry
end Rulebook

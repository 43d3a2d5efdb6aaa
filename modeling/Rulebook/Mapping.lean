-- Ordered mappings as lists of pairs. A key keeps the place of its first
-- entry and the value of its last one.

namespace Rulebook.Mapping

variable {κ : Type} {α : Type} [BEq κ]

/-- Stores a value: an existing key keeps its place, a new one goes last. -/
def put (key : κ) (value : α) : List (κ × α) → List (κ × α)
  | [] => [(key, value)]
  | (k, v) :: rest => if k == key then (k, value) :: rest else (k, v) :: put key value rest

/-- The first mapping with the entries of the second stored into it, in
their order. -/
def overlay (under top : List (κ × α)) : List (κ × α) :=
  top.foldl (fun m e => put e.1 e.2 m) under

/-- The mapping that a list of entries describes, one after the other. -/
def ofEntries (entries : List (κ × α)) : List (κ × α) := overlay [] entries

def erase (key : κ) (m : List (κ × α)) : List (κ × α) := m.filter fun e => !(e.1 == key)

def contains (key : κ) (m : List (κ × α)) : Bool := m.any fun e => e.1 == key

def get? (key : κ) : List (κ × α) → Option α
  | [] => none
  | (k, v) :: rest => if k == key then some v else get? key rest

def keys (m : List (κ × α)) : List κ := m.map Prod.fst

end Rulebook.Mapping

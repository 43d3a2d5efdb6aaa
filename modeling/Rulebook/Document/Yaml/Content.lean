-- The value that a tree stands for. Mappings take in what their merge keys
-- name; keys are scalars. Of several scalars without a value the one that
-- is least deep is the trouble of the document, and the first among those.
import Rulebook.Document.Yaml.Scalar
import Rulebook.Document.Yaml.Tree
import Rulebook.Path

namespace Rulebook.Yaml

namespace Tree

/-! ## Merge keys -/

def isMergeKey : Tree → Bool
  | .scalar text plain => plain && text == Scalar.mergeSign
  | _ => false

/-- The entries of a mapping. -/
def entries? : Tree → Option (List (Tree × Tree))
  | .mapping es => some es
  | _ => none

/-- What a mapping takes in: the entries of another mapping, or those of
several, the last one first. -/
def sources? : Tree → Option (List (Tree × Tree))
  | .mapping es => some es
  | .sequence ts => (ts.reverse.mapM entries?).map List.flatten
  | _ => none

mutual
/-- The tree without merge keys: what a mapping takes in comes in front of
its own entries. -/
def merged : Tree → Tree
  | .scalar text plain => .scalar text plain
  | .sequence ts => .sequence (mergedItems ts)
  | .mapping es => match mergedEntries es with
    | some (taken, own) => .mapping (taken ++ own)
    | none => .refused
  | .refused => .refused
def mergedItems : List Tree → List Tree
  | [] => []
  | t :: ts => t.merged :: mergedItems ts
/-- What is taken in, and the other entries. -/
def mergedEntries : List (Tree × Tree) → Option (List (Tree × Tree) × List (Tree × Tree))
  | [] => some ([], [])
  | (k, v) :: es =>
    match mergedEntries es with
    | none => none
    | some (taken, own) =>
      if k.isMergeKey then (sources? v.merged).map fun more => (more ++ taken, own)
      else some (taken, (k.merged, v.merged) :: own)
end

/-! ## Scalars and keys -/

/-- The value of a scalar; only plain ones mean more than their text. -/
def scalarValue (text : String) (plain : Bool) : Except Trouble Value :=
  if plain then Scalar.value text else .ok (.text text)

/-- The key that a node is; collections are none. -/
def key : Tree → Except Trouble Key
  | .scalar text plain => do
    if plain && text == Scalar.valueSign then return .text text
    match (← scalarValue text plain).key? with
    | some k => return k
    | none => malformed
  | _ => malformed

/-! ## Troubles -/

/-- The trouble of an outcome, if it is one, at a depth. -/
def troubleAt {α : Type} (depth : Nat) : Except Trouble α → List (Nat × Trouble)
  | .ok _ => []
  | .error t => [(depth, t)]

mutual
/-- The troubles of a tree with their depths, in the order of the document. -/
def troubles (depth : Nat) : Tree → List (Nat × Trouble)
  | .scalar text plain => troubleAt depth (scalarValue text plain)
  | .sequence ts => troublesOfItems (depth + 1) ts
  | .mapping es => troublesOfEntries (depth + 1) es
  | .refused => [(depth + 1, .malformed)]
def troublesOfItems (depth : Nat) : List Tree → List (Nat × Trouble)
  | [] => []
  | t :: ts => t.troubles depth ++ troublesOfItems depth ts
def troublesOfEntries (depth : Nat) : List (Tree × Tree) → List (Nat × Trouble)
  | [] => []
  | (k, v) :: es => troubleAt depth k.key ++ v.troubles depth ++ troublesOfEntries depth es
end

/-- The first of the least deep troubles. -/
def foremost : List (Nat × Trouble) → Option (Nat × Trouble)
  | [] => none
  | t :: ts => match foremost ts with
    | some u => if u.1 < t.1 then some u else some t
    | none => some t

/-! ## Values -/

mutual
/-- The value of a tree without troubles. -/
def value : Tree → Value
  | .scalar text plain => (scalarValue text plain).toOption.getD .null
  | .sequence ts => .list (values ts)
  | .mapping es => .object (Mapping.ofEntries (entryValues es))
  | .refused => .null
def values : List Tree → List Value
  | [] => []
  | t :: ts => t.value :: values ts
def entryValues : List (Tree × Tree) → List (Key × Value)
  | [] => []
  | (k, v) :: es => (k.key.toOption.getD .null, v.value) :: entryValues es
end

end Tree

/-- Reads a YAML document. -/
def read (text : String) : Except Trouble Value := do
  let tree := (← Tree.ofTokens (← Token.scan text)).merged
  match Tree.foremost (tree.troubles 0) with
  | some (_, t) => throw t
  | none => return tree.value

end Rulebook.Yaml

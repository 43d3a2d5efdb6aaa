-- Values as they come out of documents: every number in a document is an
-- object of its own, but for those that are written by name.
import Rulebook.Value.Basic

namespace Rulebook

/-- Whether a double is written by name. -/
def Double.isNamed (x : Double) : Bool := x.isNaN || x.isInfinite

/-- The key with its number of the given origin, and how many numbers it is. -/
def Key.boxed (origin : Origin) : Key → Key × Nat
  | .int n => (.int ⟨n, origin⟩, 1)
  | .float x => if x.value.isNamed then (.float x, 0) else (.float ⟨x, origin⟩, 1)
  | k => (k, 0)

namespace Value

mutual
/-- The value with the origins of its numbers, counted from `n` on, and the
count behind it. -/
def boxedFrom (origin : Nat → Origin) (n : Nat) : Value → Value × Nat
  | .int m => (.int ⟨m, origin n⟩, n + 1)
  | .float x => if x.value.isNamed then (.float x, n) else (.float ⟨x, origin n⟩, n + 1)
  | .list xs =>
    let items := boxedItems origin n xs
    (.list items.1, items.2)
  | .object fs =>
    let fields := boxedFields origin n fs
    (.object fields.1, fields.2)
  | v => (v, n)
def boxedItems (origin : Nat → Origin) (n : Nat) : List Value → List Value × Nat
  | [] => ([], n)
  | x :: xs =>
    let first := x.boxedFrom origin n
    let rest := boxedItems origin first.2 xs
    (first.1 :: rest.1, rest.2)
def boxedFields (origin : Nat → Origin) (n : Nat) : List (Key × Value) → List (Key × Value) × Nat
  | [] => ([], n)
  | (k, v) :: fs =>
    let key := k.boxed (origin n)
    let first := v.boxedFrom origin (n + key.2)
    let rest := boxedFields origin first.2 fs
    ((key.1, first.1) :: rest.1, rest.2)
end

/-- The value of a document with its numbers as objects. -/
def boxed (origin : Nat → Origin) (v : Value) : Value := (v.boxedFrom origin 0).1

end Value
end Rulebook

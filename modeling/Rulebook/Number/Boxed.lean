-- Numbers as objects. Two objects may have one value and still differ, which
-- nothing but their methods tells. An object is known by its value and by its
-- origin.
import Rulebook.Number.Shortest

namespace Rulebook

/-- Where a number comes from. The numbers of a document are counted in its
order. -/
inductive Origin where
  /-- From nowhere else: there is one such object of each value. -/
  | shared
  | definition (n : Nat)
  | base (n : Nat)
  | context (n : Nat)
  /-- From a calculation, which the evaluation has counted. -/
  | counted (n : Nat)
  /-- From another number, as its imaginary part, however often that is read. -/
  | imaginary (of : Origin)
deriving DecidableEq, Repr, Inhabited

/-- The origin in a text, where the address of the object would stand. -/
def Origin.label : Origin → String
  | .shared => "shared"
  | .definition n => "definition+" ++ toString n
  | .base n => "base+" ++ toString n
  | .context n => "context+" ++ toString n
  | .counted n => "calculation+" ++ toString n
  | .imaginary o => "imaginary+" ++ o.label

/-- A number and where it comes from. -/
structure Boxed (α : Type) where
  value : α
  origin : Origin
deriving DecidableEq, Repr, Inhabited

namespace Boxed

variable {α : Type}

instance : CoeOut (Boxed α) α := ⟨Boxed.value⟩

instance : Coe α (Boxed α) := ⟨fun a => ⟨a, .shared⟩⟩

instance : Coe Nat (Boxed Int) := ⟨fun n => ⟨n, .shared⟩⟩

instance (n : Nat) : OfNat (Boxed Int) n := ⟨⟨n, .shared⟩⟩

instance [ToString α] : ToString (Boxed α) := ⟨fun a => toString a.value⟩

abbrev natAbs (n : Boxed Int) : Nat := n.value.natAbs

abbrev text (x : Boxed Double) : String := x.value.text

/-- The object that an integer is: of each small integer there is one. -/
def interned (n : Boxed Int) : Boxed Int :=
  if -5 ≤ n.value ∧ n.value ≤ 256 then ⟨n.value, .shared⟩ else n

end Boxed

end Rulebook

-- Evaluation of nodes in a context. Operands are evaluated from left to
-- right, all of them, before a function sees any; of two branches only the
-- chosen one is evaluated.
import Rulebook.Node
import Rulebook.Template

namespace Rulebook.Node

/-- The key under which `map` binds the current entry. -/
def bindingKey : Key := .text "map"

/-- The context in which the body of `map` sees one entry. -/
def bind (context : Fields) (position : String × Value) (value : Value) : Fields :=
  Mapping.put bindingKey
    (.object [(.text position.1, position.2), (.text "value", value)]) context

/-- Walks a value through one more key; an absent key leaves it as it is. -/
def follow (v key : Value) : Except Fault Value :=
  if key.isAbsent then .ok v
  else do Resolver.plain.get v (← Path.segments key)

/-- The values taken two at a time, from the left. -/
def reduce (f : Value → Value → Except Fault Value) : List Value → Except Fault Value
  | [] => .ok .undefined
  | v :: vs => vs.foldlM f v

/-- Pairs of a position and a value. -/
def numbered (xs : List Value) : List ((String × Value) × Value) :=
  xs.zipIdx.map fun p => (("index", .int p.2), p.1)

mutual
def eval (context : Fields) : Node → Eval Value
  | .literal v => return v
  | .path names resolver => liftExcept (resolver.get (.object context) (names.map .text))
  | .template text holes => do
    let fillings ← evalHoles context holes
    return .text (String.ofList (Template.fill (Template.pieces text) fillings))
  | .branch c t f => do
    if (← c.eval context).truthy then t.eval context else f.eval context
  | .unary _ f x => do liftExcept (f (← x.eval context))
  | .binary _ f xs => do liftExcept (reduce f (← evalItems context xs))
  | .complex _ f xs => do liftExcept (f (← evalItems context xs))
  | .witness _ x => do
    let v ← x.eval context
    Eval.see v
    return v
  | .array xs => do return .list (← evalItems context xs)
  | .object es => do return .object (← evalEntries context es)
  | .property base keys => do
    evalKeys context (← base.eval context) keys
  | .calculated x => do Eval.distinguish (← x.eval context)
  | .map source body => do
    match ← source.eval context with
    | .object fs =>
      let es ← fs.mapM fun e => do
        return (e.1, ← body.eval (bind context ("key", e.1.toValue) e.2))
      return .object es
    | .list xs =>
      let vs ← (numbered xs).mapM fun e => body.eval (bind context e.1 e.2)
      return .list vs
    | v => throw (.mapSource v)
  | .recorded r definition x => do
    let number ← Eval.openRecord r definition (.object context)
    let v ← x.eval context
    Eval.closeRecord r number v
    return v
def evalItems (context : Fields) : List Node → Eval (List Value)
  | [] => return []
  | x :: xs => do
    let v ← x.eval context
    return v :: (← evalItems context xs)
def evalHoles (context : Fields) : List Node → Eval (List (Option String))
  | [] => return []
  | x :: xs => do
    let t ← liftExcept (Template.filling (← x.eval context))
    return t :: (← evalHoles context xs)
def evalEntries (context : Fields) : List (Key × Node) → Eval Fields
  | [] => return []
  | (k, x) :: es => do
    let v ← x.eval context
    return (k, v) :: (← evalEntries context es)
def evalKeys (context : Fields) (v : Value) : List Node → Eval Value
  | [] => return v
  | x :: xs => do
    let key ← x.eval context
    evalKeys context (← liftExcept (follow v key)) xs
end

end Rulebook.Node

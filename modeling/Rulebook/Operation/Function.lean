-- The functions behind the standard operations, on values alone.
import Rulebook.Text.Split
import Rulebook.Text.Upper
import Rulebook.Value.Order
import Rulebook.Value.Written

namespace Rulebook.Function

/-- The kind of a value; null and arrays count as objects. -/
def typeof (v : Value) : Except Fault Value :=
  .ok (.text (match v.kind with
    | .null | .array => Value.Kind.object.name
    | k => k.name))

def not (v : Value) : Except Fault Value := .ok (.bool (!v.truthy))

def and (a b : Value) : Except Fault Value := .ok (if a.truthy then b else a)

def or (a b : Value) : Except Fault Value := .ok (if a.truthy then a else b)

def eq (a b : Value) : Except Fault Value := .ok (.bool (a.strictEquals b))

/-- Whether a relation holds. Unordered numbers satisfy none; values of
unlike types have no order. -/
def holds (r : Relation) (a b : Value) : Except Fault Bool :=
  match a.order b with
  | .ordered o => .ok (r.accepts o)
  | .unordered => .ok false
  | .mismatch left right => .error (.noOrder r.symbol left right)

/-- A relation between two values; a missing value satisfies none. -/
def relate (r : Relation) (a b : Value) : Except Fault Value :=
  if a.isUndefined || b.isUndefined then .ok (.bool false)
  else (holds r a b).map .bool

def capitalize : Value → Except Fault Value
  | .text s => .ok (.text (Text.capitalized s))
  | v => .error (.needsText "capitalize" v)

def concat (a b : Value) : Except Fault Value := do
  return .text ((← a.written) ++ (← b.written))

def texts (pieces : List (List Char)) : Value :=
  .list (pieces.map fun p => .text (String.ofList p))

/-- The pieces of a text between separators; null separates at white space. -/
def split : Value → Value → Except Fault Value
  | .text s, .text sep => .ok (texts (Text.splitOn sep.toList s.toList))
  | .text s, .null => .ok (texts (Text.words s.toList))
  | .text _, sep => .error (.separator sep.typeName)
  | v, _ => .error (.needsText "split" v)

/-- The text of an item between separators; nothing for an absent item. -/
def itemText (v : Value) : Except Fault (List Char) :=
  if v.isAbsent then .ok [] else v.written.map String.toList

def join : Value → Value → Except Fault Value
  | .list xs, sep => do
    let separator ← sep.written
    return .text (String.ofList (Text.join separator.toList (← xs.mapM itemText)))
  | v, _ => .error (.needsArray v)

/-- A function of two values as one of a list of two. -/
def onPair (f : Value → Value → Except Fault Value) : List Value → Except Fault Value
  | [a, b] => f a b
  | _ => .ok .undefined

end Rulebook.Function

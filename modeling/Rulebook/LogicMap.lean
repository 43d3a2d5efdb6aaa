-- Logic maps: several expressions whose values make one mapping. A map is
-- a mapping of expressions, one expression for the whole, or a list of
-- maps merged in order, each of which may have a condition.
import Rulebook.Logic

namespace Rulebook

inductive LogicMap where
  | keyed (entries : List (Key × Logic))
  | layered (layers : List (Option Logic × LogicMap))

namespace LogicMap

/-- The key of the condition of a layer. -/
def conditionKey : Key := .text "if"

/-! ## Building -/

/-- Compiles the expressions of a mapping in order. -/
def buildEntries (build : Value → Build Logic) : List (Key × Value) → Build (List (Key × Logic))
  | [] => return []
  | (k, d) :: fs => do
    let l ← build d
    return (k, l) :: (← buildEntries build fs)

/-- The map of a mapping: one expression if it has the key for that. -/
def ofFields (build : Value → Build Logic) (fs : Fields) : Build LogicMap := do
  match Mapping.get? Blueprint.logicKey fs with
  | some d => return .keyed [(Blueprint.logicKey, ← build d)]
  | none => return .keyed (← buildEntries build fs)

mutual
/-- Builds a map, given how to compile one expression. -/
def build (compile : Value → Build Logic) : Value → Build LogicMap
  | .null => return .keyed []
  | .text s => do return .keyed [(Blueprint.logicKey, ← compile (.text s))]
  | .list xs => do return .layered (← buildLayers compile xs)
  | .object fs => ofFields compile fs
  | d => throw (.notLogicMap d)
/-- Builds the layers of a list: a condition comes before its content. -/
def buildLayers (compile : Value → Build Logic) : List Value → Build (List (Option Logic × LogicMap))
  | [] => return []
  | .object fs :: xs => do
    let condition ← match Mapping.get? conditionKey fs with
      | some c => some <$> compile c
      | none => pure none
    let content ← ofFields compile (Mapping.erase conditionKey fs)
    return (condition, content) :: (← buildLayers compile xs)
  | x :: xs => do
    let content ← build compile x
    return (none, content) :: (← buildLayers compile xs)
end

/-! ## Evaluation -/

/-- What is evaluated in a context that counts as false is evaluated in the
empty one. -/
def contextOf (context : Value) : Value := if context.truthy then context else .object []

def evalEntries (context : Value) : List (Key × Logic) → Eval Fields
  | [] => return []
  | (k, l) :: es => do
    let v ← l.eval context
    return (k, v) :: (← evalEntries context es)

/-- The value of one expression for the whole, or the mapping of all. -/
def evalKeyed (context : Value) (es : List (Key × Logic)) : Eval Value :=
  match Mapping.get? Blueprint.logicKey es with
  | some l => l.eval context
  | none => do return .object (← evalEntries context es)

/-- Whether a layer applies. -/
def applies (context : Value) : Option Logic → Eval Bool
  | none => return true
  | some l => do return (← l.eval context).truthy

mutual
/-- Evaluates a map in a context that is not false. -/
def evalIn (context : Value) : LogicMap → Eval Value
  | .keyed es => evalKeyed context es
  | .layered layers => do return .object (← evalLayers context [] layers)
/-- Merges the layers that apply into a mapping, in order. -/
def evalLayers (context : Value) (merged : Fields) :
    List (Option Logic × LogicMap) → Eval Fields
  | [] => return merged
  | (condition, content) :: rest => do
    if ← applies context condition then
      match ← content.evalIn context with
      | .object fs => evalLayers context (Mapping.overlay merged fs) rest
      | v => throw (.mergedValue v)
    else evalLayers context merged rest
end

def eval (m : LogicMap) (context : Value) : Eval Value := m.evalIn (contextOf context)

/-! ## Lookups -/

mutual
/-- The paths that a map reads: those of a condition before those of its
content. -/
def lookups : LogicMap → List (List String)
  | .keyed es => es.flatMap fun e => e.2.lookups
  | .layered layers => lookupsOfLayers layers
def lookupsOfLayers : List (Option Logic × LogicMap) → List (List String)
  | [] => []
  | (condition, content) :: rest =>
    (match condition with
     | some l => l.lookups
     | none => []) ++ content.lookups ++ lookupsOfLayers rest
end

end LogicMap
end Rulebook

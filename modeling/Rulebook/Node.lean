-- Compiled expressions. A node holds everything that its evaluation needs
-- but the context: operands, functions, and how paths are followed.
import Rulebook.Path
import Rulebook.Trace

namespace Rulebook

inductive Node where
  | literal (value : Value)
  /-- A path read from the context. -/
  | path (names : List String) (resolver : Resolver)
  /-- A text and the nodes of its placeholders, in order. -/
  | template (text : String) (holes : List Node)
  /-- The condition and its two branches, of which one is evaluated. -/
  | branch (condition whenTrue whenFalse : Node)
  | unary (name : String) (apply : Value → Except Fault Value) (operand : Node)
  /-- A function taken over the operands from the left, two at a time. -/
  | binary (name : String) (apply : Value → Value → Except Fault Value) (operands : List Node)
  /-- A function of all operands at once. -/
  | complex (name : String) (apply : List Value → Except Fault Value) (operands : List Node)
  /-- An operand whose value is reported as seen. -/
  | witness (name : String) (operand : Node)
  | array (items : List Node)
  | object (entries : List (Key × Node))
  /-- A value walked through the keys that follow it. -/
  | property (base : Node) (keys : List Node)
  /-- A calculation, whose result is told apart from others if it is a NaN. -/
  | calculated (node : Node)
  /-- A body evaluated once for each entry of a collection. -/
  | map (source body : Node)
  /-- A node whose evaluations are recorded together with its definition. -/
  | recorded (recorder : Recorder) (definition : Value) (node : Node)

namespace Node

/-! ## Kinds -/

inductive Kind where
  | literal | path | template | branch | unary | binary | complex
  | array | object | property | map | recorded
deriving DecidableEq, Repr

def kind : Node → Kind
  | .literal _ => .literal
  | .path .. => .path
  | .template .. => .template
  | .branch .. => .branch
  | .unary .. | .witness .. => .unary
  | .binary .. => .binary
  | .complex .. => .complex
  | .array _ => .array
  | .object _ => .object
  | .property .. => .property
  | .calculated x => x.kind
  | .map .. => .map
  | .recorded .. => .recorded

/-! ## How trees are shown -/

def applied (name : String) (operands : List String) : String :=
  name ++ "(" ++ Text.listed operands ++ ")"

mutual
def display : Node → String
  | .literal v => applied "Literal" [v.display]
  | .path names _ => applied "Value" ["$" ++ String.intercalate "." names]
  | .template text _ => applied "Template" [Text.quoted text]
  | .branch c t f => applied "If" [c.display, t.display, f.display]
  | .unary name _ x => applied name [x.display]
  | .witness name x => applied name [x.display]
  | .binary name _ xs => applied name (displayItems xs)
  | .complex name _ xs => applied name (displayItems xs)
  | .array xs => applied "Array" ["[" ++ Text.listed (displayItems xs) ++ "]"]
  | .object es => applied "Object" ["\x7b" ++ Text.listed (displayEntries es) ++ "\x7d"]
  | .property base keys => "Property(" ++ base.display ++ ", " ++ Text.listed (displayItems keys) ++ ")"
  | .calculated x => x.display
  | .map source body => applied "Map" [source.display, body.display]
  | .recorded _ _ x => applied "Debug" [x.display]
def displayItems : List Node → List String
  | [] => []
  | x :: xs => x.display :: displayItems xs
def displayEntries : List (Key × Node) → List String
  | [] => []
  | (k, x) :: es => (k.display ++ ": " ++ x.display) :: displayEntries es
end

end Node
end Rulebook

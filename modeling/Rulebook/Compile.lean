-- Compilation of definitions. The shape of a definition selects an
-- operation and its operand; the operation says what lies beneath, which
-- is compiled in turn. Everything that can be wrong with a definition
-- shows here, before any evaluation.
import Rulebook.Registry

namespace Rulebook

/-- What compilation reports on its way. -/
inductive Notice where
  /-- A path that the definition reads. -/
  | lookup (path : List String)
  /-- An operation met with an operand. -/
  | compiling (operation : String) (operand : Value)
  /-- A definition beneath, seen and left out. -/
  | child (definition : Value)
deriving Repr

/-- What a compilation has used and reported so far, the latest first. -/
structure Draft where
  recorders : Nat
  notices : List Notice
  /-- Whether the settings were asked for. -/
  consulted : Bool

abbrev Build := ExceptT Fault (StateM Draft)

namespace Build

def note (n : Notice) : Build Unit := modify fun d => { d with notices := n :: d.notices }

/-- Asks for the settings. -/
def consult : Build Unit := modify fun d => { d with consulted := true }

def newRecorder (sink : Sink) : Build Recorder := do
  let d ← get
  set { d with recorders := d.recorders + 1 }
  return ⟨d.recorders, sink⟩

end Build

namespace Compile

/-- What the meaning of a definition depends on besides itself. -/
structure Setup where
  registry : Registry
  /-- Opens and closes a template. -/
  marker : String
  /-- Links scopes; or why it is not known. -/
  parentKey : Except Fault String
  /-- Where debug operations record. -/
  sink : Sink

/-- How the definitions beneath one are treated. -/
inductive Mode where
  | plain
  /-- Each of them is recorded. -/
  | recorded (r : Recorder)
  /-- Each of them is reported and replaced by a literal. -/
  | replaced

/-! ## Selection -/

/-- A text as an operation and its operand: a path behind a dollar sign, a
template between markers, else a literal. -/
def selectText (marker s : String) : Except Fault (Key × Value) :=
  match s.toList with
  | '$' :: path => .ok (.text Operation.pathName, .text (String.ofList path))
  | cs =>
    if marker.toList.isPrefixOf cs then
      if cs.length < 2 || !marker.toList.isSuffixOf cs then .error (.openTemplate (.text s) marker)
      else .ok (.text Operation.templateName, .text (String.ofList cs.tail.dropLast))
    else .ok (.text Operation.literalName, .text s)

/-- The operation that a definition selects, and its operand. The first key
of a mapping names its operation. -/
def select (marker : String) : Value → Except Fault (Key × Value)
  | .text s => selectText marker s
  | .list xs => .ok (.text Operation.arrayName, .list xs)
  | .object [] => .error (.noOperation (.object []))
  | .object ((name, operand) :: _) => .ok (name, operand)
  | v => .ok (.text Operation.literalName, v)

/-! ## Compilation -/

/-- Treats a definition beneath another one, given how to compile it. -/
def beneath (compile : Mode → Value → Build Node) (mode : Mode) (d : Value) : Build Node :=
  match mode with
  | .plain => compile .plain d
  | .recorded r => return .recorded r d (← compile (.recorded r) d)
  | .replaced => do
    Build.note (.child d)
    return .literal (.text "replaced")

/-- The node of a blueprint: its lookups are reported first, then its parts
are treated in order. -/
def ofBlueprint (compile : Mode → Value → Build Node) (mode : Mode) (b : Blueprint) :
    Build Node := do
  b.lookups.forM fun p => Build.note (.lookup p)
  return b.assemble (← b.parts.mapM (beneath compile mode))

/-- A recorded operand. The outermost recorder follows everything beneath
it; one inside it adds its own record of its operand alone. -/
def ofDebug (compile : Mode → Value → Build Node) (mode : Mode) (sink : Sink) (operand : Value) :
    Build Node := do
  let r ← Build.newRecorder sink
  match mode with
  | .plain => beneath compile (.recorded r) operand
  | mode => return .recorded r operand (← beneath compile mode operand)

def ofFactory (compile : Mode → Value → Build Node) (setup : Setup) (mode : Mode) (operand : Value) :
    Factory → Build Node
  | .form plan => do ofBlueprint compile mode (← liftExcept (plan operand))
  | .configuredPath => do
    let parent ← liftExcept setup.parentKey
    ofBlueprint compile mode (← liftExcept (Blueprint.path (.inherited parent) operand))
  | .debug sink => ofDebug compile mode (sink.getD setup.sink) operand

/-- Compiles a definition. Whatever an operation finds beneath it has to be
smaller, or compilation would not end. -/
def compile (setup : Setup) (mode : Mode) (d : Value) : Build Node := do
  let (name, operand) ← liftExcept (select setup.marker d)
  match setup.registry.factory? name with
  | none => throw (.unknownOperation name d setup.registry.sortedNames)
  | some factory =>
    Build.note (.compiling name.plain operand)
    let smaller : Mode → Value → Build Node := fun m c =>
      if _h : c.size < d.size then compile setup m c else throw .endless
    ofFactory smaller setup mode operand factory
termination_by d.size

end Compile
end Rulebook

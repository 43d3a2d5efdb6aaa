-- Where the log goes, and from which level on.
import Rulebook.Log.Level

namespace Rulebook.Log

inductive Target where
  | console
  /-- A file in the given directory. -/
  | file (directory : String)
deriving DecidableEq, Repr

/-- The least level that is logged, and where to. -/
structure Setup where
  level : Level
  targets : List Target
deriving Repr

/-- The log for a level given by name, on the screen and, if there is a
directory, in a file. -/
def Setup.make (name : String) (directory : Option String) : Except LevelFault Setup := do
  let file := match directory with
    | some d => if d.isEmpty then [] else [.file d]
    | none => []
  return ⟨← levelNamed name, .console :: file⟩

end Rulebook.Log

-- Log levels, their names, and the loggers of the library, which are all
-- beneath one.
import Rulebook.Text.Upper
import Rulebook.Value.Display

namespace Rulebook.Log

/-- A level counts as important as its number. -/
abbrev Level := Int

def Level.debug : Level := 10
def Level.info : Level := 20
def Level.warning : Level := 30
def Level.error : Level := 40
def Level.critical : Level := 50

/-- The levels by name. Some have two names. -/
def levelNames : List (String × Level) :=
  [ ("CRITICAL", 50), ("FATAL", 50), ("ERROR", 40), ("WARNING", 30), ("WARN", 30), ("INFO", 20),
    ("DEBUG", 10), ("NOTSET", 0) ]

/-- The level with a name in capital letters. -/
def level? (name : String) : Option Level := levelNames.lookup name

/-- The name of a text that belongs to the log but is no level. -/
def layoutName : String := "BASIC_FORMAT"

/-- Why there is no level. -/
inductive LevelFault where
  /-- Nothing has the name. -/
  | nothing (name : String)
  | noLevel (text : String)
  /-- Neither a number nor a text, as it is shown. -/
  | noText (shown : String)
deriving DecidableEq, Repr

def LevelFault.message : LevelFault → String
  | .nothing name => "module 'logging' has no attribute '" ++ name ++ "'"
  | .noLevel text => "Unknown level: " ++ Text.quoted text
  | .noText shown => "Level not an integer or a valid string: " ++ shown

/-- The level with a name in any letter case. -/
def levelNamed (name : String) : Except LevelFault Level :=
  let name := Text.upper name
  match level? name with
  | some l => .ok l
  | none =>
    .error (if name = layoutName then .noLevel "%(levelname)s:%(name)s:%(message)s" else .nothing name)

/-- The name of a level; a level without one is named by its number. -/
def levelName (level : Level) : String :=
  match levelNames.find? fun e => e.2 == level with
  | some e => e.1
  | none => "Level " ++ toString level

/-! ## Loggers -/

/-- The logger above all others of the library. -/
def rootName : String := "user_logic"

def compilerName : String := rootName ++ ".logic.compiler"
def debugName : String := rootName ++ ".debug"
def commandsName : String := rootName ++ ".cli.commands"

/-- The full name of a logger: names from outside are put under the root. -/
def fullName (name : Option String) : String :=
  match name with
  | none => rootName
  | some n =>
    if n = "" ∨ n = rootName then rootName
    else if (rootName ++ ".").toList.isPrefixOf n.toList then n
    else rootName ++ "." ++ n

/-- Whether a record passes the level of the root logger; level zero leaves
the decision to the default, which is a warning. -/
def passes (threshold level : Level) : Bool :=
  (if threshold = 0 then Level.warning else threshold) ≤ level

end Rulebook.Log

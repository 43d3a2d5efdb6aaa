-- Settings, read from variables of the environment and checked as a whole:
-- there are none with a fault in any of them.
import Rulebook.Fault
import Rulebook.Text.Upper

namespace Rulebook

/-- Variables by name. -/
abbrev Variables := List (String × String)

namespace Variables

def set (vars : Variables) (name : String) (value : Option String) : Variables :=
  match value with
  | some v => Mapping.put name v vars
  | none => Mapping.erase name vars

/-- Applies changes in order; a change without a value removes the variable. -/
def change (vars : Variables) (changes : List (String × Option String)) : Variables :=
  changes.foldl (fun m c => set m c.1 c.2) vars

/-- The value of a variable, or what stands for it if it is not set. -/
def valueOr (vars : Variables) (name fallback : String) : String :=
  (Mapping.get? name vars).getD fallback

/-- Why the environment does not take a variable. -/
def refusal? (name value : String) : Option SettingFault :=
  if name.toList.contains '\x00' || value.toList.contains '\x00' then some .nullCharacter
  else if name.toList.contains '=' then some .variableName
  else none

end Variables

/-- What reads files of variables into an environment. -/
structure VariableReader where
  /-- The variables that a text gives a value, next to those of an environment. -/
  given : Variables → String → Variables
  /-- An environment in which those of a text are set, and why some are not. -/
  load : Variables → String → Variables × Option SettingFault
  /-- What the environment does not take is refused, and nothing else. -/
  refuses (vars : Variables) (text : String) : (load vars text).2
    = (given vars text).findSome? fun v => Variables.refusal? v.1 v.2
  /-- The variables of a text go before those that are there. -/
  overlays (vars : Variables) (text : String) (h : (load vars text).2 = none) :
    (load vars text).1 = Mapping.overlay vars (given vars text)

/-- What is logged and where. -/
structure LogSettings where
  level : String
  directory : Option String
deriving DecidableEq, Repr

/-- How definitions are read and evaluated. -/
structure LogicSettings where
  debug : Bool
  parentKey : String
  marker : String
deriving DecidableEq, Repr

structure Settings where
  log : LogSettings
  logic : LogicSettings
deriving DecidableEq, Repr

/-- The level is one of five names, in any letter case. -/
def LogSettings.checked (level : String) (directory : Option String) :
    Except SettingFault LogSettings :=
  let upper := Text.upper level
  if SettingFault.validLevels.contains upper then .ok ⟨upper, directory⟩
  else .error (.level upper)

/-- The parent key is not empty, and the marker is one character other than
the dollar sign. -/
def LogicSettings.checked (debug : Bool) (parentKey marker : String) :
    Except SettingFault LogicSettings :=
  if parentKey = "" then .error .emptyParentKey
  else if marker.length ≠ 1 then .error (.markerLength marker)
  else if marker = "$" then .error .reservedMarker
  else .ok ⟨debug, parentKey, marker⟩

namespace Settings

def defaultLevel : String := "INFO"
def defaultParentKey : String := "__parent__"
def defaultMarker : String := "\x60"

/-! ## Variables -/

def levelVariable : String := "LOG_LEVEL"
def directoryVariable : String := "USER_LOGIC_LOG_DIR"
def debugVariable : String := "USER_LOGIC_DEBUG"
def parentKeyVariable : String := "USER_LOGIC_PARENT_KEY"
def markerVariable : String := "USER_LOGIC_TEMPLATE_MARKER"

/-- All variables that the settings are read from. -/
def variableNames : List String :=
  [levelVariable, directoryVariable, debugVariable, parentKeyVariable, markerVariable]

/-- The texts that switch a flag on, in any letter case. -/
def truthyTexts : List String := ["1", "true", "yes"]

def isOn (text : String) : Bool := truthyTexts.contains (Text.lowerAscii text)

end Settings

/-- What some variables ask of the log. An empty directory is none. -/
def LogSettings.ofVariables (vars : Variables) : Except SettingFault LogSettings :=
  let directory := vars.valueOr Settings.directoryVariable ""
  checked (vars.valueOr Settings.levelVariable Settings.defaultLevel)
    (if directory = "" then none else some directory)

/-- What some variables ask of the logic. -/
def LogicSettings.ofVariables (vars : Variables) : Except SettingFault LogicSettings :=
  checked (Settings.isOn (vars.valueOr Settings.debugVariable ""))
    (vars.valueOr Settings.parentKeyVariable Settings.defaultParentKey)
    (vars.valueOr Settings.markerVariable Settings.defaultMarker)

namespace Settings

/-- The settings that some variables ask for. -/
def ofVariables (vars : Variables) : Except SettingFault Settings := do
  let log ← LogSettings.ofVariables vars
  let logic ← LogicSettings.ofVariables vars
  return ⟨log, logic⟩

/-! ## Settings as data -/

def directoryValue (directory : Option String) : Value :=
  match directory with
  | some d => .text d
  | none => .null

end Settings

/-- All settings in one mapping. -/
def Settings.summary (s : Settings) : Value :=
  .ofPairs [("log_level", .text s.log.level),
    ("log_dir", Settings.directoryValue s.log.directory), ("debug", .bool s.logic.debug),
    ("parent_key", .text s.logic.parentKey), ("template_marker", .text s.logic.marker)]

/-! ## The one instance -/

/-- The settings of a process. They are published before they are initialised, and
stay so where a reading fails. -/
inductive Configuration where
  | absent
  /-- Not initialised. The settings of the log may be those of a reading that
  failed behind them. -/
  | published (log : Option LogSettings)
  | initialised (c : Settings)
deriving DecidableEq, Repr

namespace Configuration

/-- The settings, for all who ask. -/
def settings? : Configuration → Option Settings
  | .initialised c => some c
  | _ => none

/-- The settings of the log that an instance holds. -/
def log? : Configuration → Option LogSettings
  | .absent => none
  | .published log => log
  | .initialised c => some c.log

/-- Reads the settings from some variables, those of the log first, unless there
was a fault before that. -/
def initialise (c : Configuration) (vars : Variables) (refused : Option SettingFault) :
    Except SettingFault Settings × Configuration :=
  match refused with
  | some f => (.error f, .published c.log?)
  | none => match LogSettings.ofVariables vars with
    | .error f => (.error f, .published c.log?)
    | .ok log => match LogicSettings.ofVariables vars with
      | .error f => (.error f, .published (some log))
      | .ok logic => (.ok ⟨log, logic⟩, .initialised ⟨log, logic⟩)

end Configuration

end Rulebook

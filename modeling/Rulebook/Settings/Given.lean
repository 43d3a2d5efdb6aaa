-- Settings given as data: a mapping from the names of settings to values of
-- any type. What is not given has its default, what need not be a text is
-- taken as it is, and a name that is not known is refused.
import Rulebook.Settings
import Rulebook.Value.Order

namespace Rulebook.Settings

/-- Refuses names that a group of settings does not have. -/
def checkNames (group : String) (known : List String) (given : Fields) : Except Fault Unit :=
  match given.find? fun e => !known.contains e.1.plain with
  | some e => .error (.unknownSetting group e.1.plain)
  | none => .ok ()

/-- A setting by name, or its default. -/
def givenOr (given : Fields) (name : String) (fallback : Value) : Value :=
  (Mapping.get? (.text name) given).getD fallback

/-- A level has to be a text. -/
def levelText : Value → Except Fault String
  | .text s => .ok s
  | v => .error (.noMethod v.typeName "upper")

/-- The settings of the log that some data asks for. -/
def ofLogFields (given : Fields) : Except Fault Value := do
  checkNames "LogConfig" ["level", "log_dir"] given
  let name ← levelText (givenOr given "level" (.text defaultLevel))
  let checked ← (LogSettings.checked name none).mapError .setting
  return .ofPairs [("level", .text checked.level), ("log_dir", givenOr given "log_dir" .null)]

/-- The length of a text or of a collection. -/
def lengthOf : Value → Except Fault Nat
  | .text s => .ok s.length
  | .list xs => .ok xs.length
  | .object fs => .ok fs.length
  | v => .error (.noLength v.typeName)

/-- A value inside a message, a text without quotes. -/
def plain : Value → String
  | .text s => s
  | v => v.display

/-- A marker has the length of one character and is no dollar sign. -/
def checkMarker (marker : Value) : Except Fault Unit := do
  if (← lengthOf marker) ≠ 1 then throw (.setting (.markerLength (plain marker)))
  if marker.same (.text "$") then throw (.setting .reservedMarker)

/-- The settings of logic that some data asks for. -/
def ofLogicFields (given : Fields) : Except Fault Value := do
  checkNames "LogicConfig" ["debug", "parent_key", "template_marker"] given
  let parent := givenOr given "parent_key" (.text defaultParentKey)
  let marker := givenOr given "template_marker" (.text defaultMarker)
  if !parent.truthy then throw (.setting .emptyParentKey)
  checkMarker marker
  return .ofPairs [("debug", givenOr given "debug" (.bool false)), ("parent_key", parent),
    ("template_marker", marker)]

end Rulebook.Settings

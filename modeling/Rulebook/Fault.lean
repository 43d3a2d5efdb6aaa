-- Everything that can go wrong with a definition, an evaluation or a
-- setting, as causes. The wording of each is in one place.
import Rulebook.Number.Limit
import Rulebook.Value.Display

namespace Rulebook

/-- What a setting may not be. -/
inductive SettingFault where
  | level (given : String)
  | emptyParentKey
  | markerLength (given : String)
  | reservedMarker
  -- Variables
  | variableName
  | nullCharacter
deriving Repr

/-- How many operands an operation takes. -/
inductive OperandCount where
  | atLeast (n : Nat)
  | exactly (n : Nat)
  | between (low high : Nat)
deriving DecidableEq, Repr

def OperandCount.text : OperandCount → String
  | .atLeast n => "at least " ++ toString n
  | .exactly n => "exactly " ++ toString n
  | .between low high => toString low ++ " to " ++ toString high

def OperandCount.admits : OperandCount → Nat → Bool
  | .atLeast n, k => n ≤ k
  | .exactly n, k => k == n
  | .between low high, k => low ≤ k && k ≤ high

/-- Why a list of entries is no mapping. -/
inductive EntriesFault where
  | notIterable (typeName : String)
  | notSequence (index : Nat)
  | wrongLength (index length : Nat)
deriving Repr

inductive Fault where
  -- Definitions
  | unknownOperation (name : Key) (definition : Value) (available : List String)
  | openTemplate (definition : Value) (marker : String)
  | noOperation (definition : Value)
  | operandsNotList (operation : String) (definition : Value)
  | operandCount (operation : String) (count : OperandCount) (definition : Value) (given : Nat)
  | notArray (definition : Value)
  | notObject (definition : Value)
  | notLogicMap (definition : Value)
  /-- A value of a type that does not have a method. -/
  | noMethod (typeName method : String)
  | templateNotText (typeName : String)
  /-- A definition whose compilation would come back to itself. -/
  | endless
  -- Registries
  | invalidEntry (name typeName : String)
  | missingName (name : String)
  -- Contexts
  | entries (f : EntriesFault)
  | contextType (typeName : String)
  -- Paths
  | propertyBool (key : Value)
  | propertyKey (key : Value)
  | unhashable (typeName : String)
  | notIterable (typeName : String)
  | notDigits (text : String)
  | tooManyDigits (count : Nat)
  -- Texts
  /-- An integer that is too long to be written. -/
  | unwritable
  -- Operations
  | noOrder (symbol left right : String)
  | needsText (operation : String) (value : Value)
  | needsArray (value : Value)
  | separator (typeName : String)
  | mapSource (source : Value)
  | mergedValue (value : Value)
  | noUpper (typeName : String)
  | noNegative (typeName : String)
  | noDifference (left right : String)
  | integerTooLarge
  -- Settings
  | setting (f : SettingFault)
  | unknownSetting (group name : String)
  | noLength (typeName : String)
deriving Repr

namespace SettingFault

def validLevels : List String := ["DEBUG", "INFO", "WARNING", "ERROR", "CRITICAL"]

def message : SettingFault → String
  | .level given =>
    "LOG_LEVEL must be one of [" ++ Text.listed (validLevels.map Text.quoted) ++ "], got '"
      ++ given ++ "'"
  | .emptyParentKey => "USER_LOGIC_PARENT_KEY must be a non-empty string"
  | .markerLength given =>
    "USER_LOGIC_TEMPLATE_MARKER must be a single character, got '" ++ given ++ "'"
  | .reservedMarker => "USER_LOGIC_TEMPLATE_MARKER cannot be '$' (reserved for value templates)"
  | .variableName => "illegal environment variable name"
  | .nullCharacter => "embedded null byte"

end SettingFault

def EntriesFault.message : EntriesFault → String
  | .notIterable t => "'" ++ t ++ "' object is not iterable"
  | .notSequence i =>
    "cannot convert dictionary update sequence element #" ++ toString i ++ " to a sequence"
  | .wrongLength i n =>
    "dictionary update sequence element #" ++ toString i ++ " has length " ++ toString n
      ++ "; 2 is required"

namespace Fault

/-- A complaint about a definition, with the definition shown. -/
def about (complaint : String) (definition : Value) : String :=
  complaint ++ ": " ++ definition.display

/-- A value after its type. -/
def typed (v : Value) : String := v.typeName ++ " (" ++ v.display ++ ")"

/-- The values that a fault shows in its message. -/
def shown : Fault → List Value
  | .unknownOperation name d _ => [name.toValue, d]
  | .openTemplate d _ | .noOperation d | .operandsNotList _ d | .operandCount _ _ d _ | .notArray d
  | .notObject d | .notLogicMap d => [d]
  | .propertyBool v | .propertyKey v | .needsText _ v | .needsArray v | .mapSource v
  | .mergedValue v => [v]
  | _ => []

/-- The fault that shows: a value that cannot be written hides the fault
that was to show it. -/
def settled (f : Fault) : Fault := if f.shown.all Value.writable then f else .unwritable

/-- The most characters of a text that is no number that are shown. -/
def literalLimit : Nat := 200

def wording : Fault → String
  | .unknownOperation name d available =>
    about ("No such operation '" ++ name.plain ++ "'") d
      ++ (if available.isEmpty then "" else ". Available: " ++ Text.listed available)
  | .openTemplate d marker =>
    about ("Template strings beginning with " ++ marker ++ " must end with a " ++ marker) d
  | .noOperation d => about "Object definitions must name an operation" d
  | .operandsNotList op d =>
    about ("'" ++ op ++ "' expects a list of operands, got " ++ d.typeName) d
  | .operandCount op count d given =>
    about ("'" ++ op ++ "' expects " ++ count.text ++ " operands, got " ++ toString given) d
  | .notArray d => about ("'array' expects a list, got " ++ d.typeName) d
  | .notObject d => about ("'object' expects a mapping, got " ++ d.typeName) d
  | .notLogicMap d => about "Logic maps must be an object, an array, or a string expression" d
  | .noMethod t method => "'" ++ t ++ "' object has no attribute '" ++ method ++ "'"
  | .templateNotText t => "expected string or bytes-like object, got '" ++ t ++ "'"
  | .endless => "maximum recursion depth exceeded"
  | .invalidEntry name t =>
    "Operation '" ++ name ++ "' must be a node factory or OperationSpec, got " ++ t
  | .missingName name => Text.quoted name
  | .entries f => f.message
  | .contextType t => "context must be a mapping, got " ++ t
  | .propertyBool key => about "Invalid property key" key
  | .propertyKey key =>
    about "Invalid property key" key
      ++ ". Expected dot-separated string, integer index, or list of segments."
  | .unhashable t => "unhashable type: '" ++ t ++ "'"
  | .notIterable t => "'" ++ t ++ "' object is not iterable"
  | .notDigits s =>
    "invalid literal for int() with base 10: "
      ++ String.ofList ((Text.quoted s).toList.take literalLimit)
  | .tooManyDigits n => Number.tooManyDigits n
  | .unwritable => Number.notWritable
  | .noOrder symbol l r =>
    "'" ++ symbol ++ "' not supported between instances of '" ++ l ++ "' and '" ++ r ++ "'"
  | .needsText op v => op ++ ": expected a string, got " ++ typed v
  | .needsArray v => "join: expected an array, got " ++ typed v
  | .separator t => "must be str or None, not " ++ t
  | .mapSource v => "map: source must be an object or an array, got " ++ typed v
  | .mergedValue v =>
    "Logic map entries must evaluate to objects to be merged, got " ++ typed v
  | .noUpper t => "descriptor 'upper' for 'str' objects doesn't apply to a '" ++ t ++ "' object"
  | .noNegative t => "bad operand type for unary -: '" ++ t ++ "'"
  | .noDifference l r => "unsupported operand type(s) for -: '" ++ l ++ "' and '" ++ r ++ "'"
  | .integerTooLarge => "int too large to convert to float"
  | .setting f => f.message
  | .unknownSetting group name =>
    group ++ ".__init__() got an unexpected keyword argument '" ++ name ++ "'"
  | .noLength t => "object of type '" ++ t ++ "' has no len()"

def message (f : Fault) : String := f.settled.wording

/-! ## Classes of faults -/

inductive Class where
  | unknownOperation
  | openTemplate
  | invalidDefinition
  /-- A value of the wrong type. -/
  | type
  /-- A value of the right type that is not allowed. -/
  | value
  | attribute
  | missingKey
  | overflow
  | recursion
deriving DecidableEq, Repr

/-- The class of a fault that shows. -/
def kind : Fault → Class
  | .unknownOperation .. => .unknownOperation
  | .openTemplate .. => .openTemplate
  | .noOperation _ | .operandsNotList .. | .operandCount .. | .notArray _ | .notObject _
  | .notLogicMap _ => .invalidDefinition
  | .noMethod .. => .attribute
  | .missingName _ => .missingKey
  | .entries (.wrongLength ..) => .value
  | .notDigits _ | .tooManyDigits _ | .unwritable | .setting _ => .value
  | .integerTooLarge => .overflow
  | .endless => .recursion
  | _ => .type

def classOf (f : Fault) : Class := f.settled.kind

/-- The faults that a definition can be blamed for by name. -/
def isDefinitionFault (f : Fault) : Bool :=
  match f.classOf with
  | .unknownOperation | .openTemplate | .invalidDefinition => true
  | _ => false

end Fault
end Rulebook

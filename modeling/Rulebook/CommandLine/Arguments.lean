-- The arguments of the command line. Options before the command set how
-- much is logged; what follows the command belongs to it. Long options may
-- be shortened as long as one option fits.
import Rulebook.Text.Digit
import Rulebook.Text.Split

namespace Rulebook.CommandLine

/-- How much is logged; the options for it exclude each other. -/
inductive Verbosity where
  | configured
  | quiet
  | verbose
  | debug
deriving DecidableEq, Repr

inductive Command where
  | evaluate (definition : String) (context : Option String) (logicMap json : Bool)
  | lookups (definition : String) (logicMap json : Bool)
  | operations
deriving DecidableEq, Repr

/-- The names of the files that a command reads. -/
def Command.fileNames : Command → List String
  | .evaluate definition context _ _ => definition :: context.toList
  | .lookups definition _ _ => [definition]
  | .operations => []

structure Arguments where
  verbosity : Verbosity
  command : Command
deriving DecidableEq, Repr

/-- Why there are no arguments to act on. -/
inductive Stop where
  | help
  | misuse
deriving DecidableEq, Repr

/-! ## Options -/

inductive Flag where
  | help | quiet | verbose | debug | context | logicMap | json
deriving DecidableEq, Repr

/-- The options that are known, by spelling. -/
abbrev Options := List (String × Flag)

def helpOptions : Options := [("-h", .help), ("--help", .help)]

def mainOptions : Options :=
  helpOptions ++ [("-q", .quiet), ("--quiet", .quiet), ("-v", .verbose), ("--verbose", .verbose),
    ("--debug", .debug)]

def lookupsOptions : Options := helpOptions ++ [("--map", .logicMap), ("--json", .json)]

def evaluateOptions : Options := ("--context", .context) :: lookupsOptions

def isLong (spelling : List Char) : Bool := ['-', '-'].isPrefixOf spelling

/-! ## Words -/

/-- What one argument is. -/
inductive Word where
  | operand (text : String)
  /-- Two dashes; everything behind them is an operand. -/
  | divider
  | option (f : Flag)
  /-- A long option with a value behind an equals sign. -/
  | valued (f : Flag) (value : String)
  /-- A short option with more characters behind it. -/
  | cluster (f : Flag) (rest : List Char)
  | unknown
  /-- A shortened option that fits several. -/
  | ambiguous
deriving DecidableEq, Repr

/-- Whether a text is a dash and a number, and so an operand. -/
def isNegativeNumber (cs : List Char) : Bool :=
  let digits (ds : List Char) := ds.all fun c => (Text.digitValue? c).isSome
  match cs with
  | '-' :: rest =>
    let rest := if rest.getLast? == some '\n' then rest.dropLast else rest
    match rest.span (· != '.') with
    | (whole, '.' :: places) => digits whole && digits places && !places.isEmpty
    | (whole, _) => digits whole && !whole.isEmpty
  | _ => false

/-- The options whose spelling begins with a text. -/
def beginning (options : Options) (start : List Char) : List Flag :=
  (options.filter fun o => start.isPrefixOf o.1.toList).map Prod.snd

/-- A long option that may be shortened, with or without a value. -/
def shortened (options : Options) (cs : List Char) : Option Word :=
  match cs.span (· != '=') with
  | (name, rest) =>
    match beginning options name, rest with
    | [], _ => none
    | [f], [] => some (.option f)
    | [f], _ :: value => some (.valued f (String.ofList value))
    | _, _ => some .ambiguous

/-- A short option with more behind it. -/
def clustered (options : Options) (cs : List Char) : Option Word :=
  (options.lookup (String.ofList (cs.take 2))).map fun f => .cluster f (cs.drop 2)

/-- What an argument is that begins with a dash and is more than one. -/
def dashed (options : Options) (s : String) : Word :=
  match options.lookup s with
  | some f => .option f
  | none =>
    let found := if isLong s.toList then shortened options s.toList else clustered options s.toList
    match found with
    | some w => w
    | none => if isNegativeNumber s.toList || s.toList.contains ' ' then .operand s else .unknown

def word (options : Options) (s : String) : Word :=
  if s = "--" then .divider
  else match s.toList with
    | '-' :: _ :: _ => dashed options s
    | _ => .operand s

/-- Whether some argument in front of the divider is ambiguous. -/
def hasAmbiguous (options : Options) (args : List String) : Bool :=
  (args.takeWhile (· != "--")).any fun a => word options a == .ambiguous

/-- The options of a cluster; one that is not known ends it. -/
def clusterFlags (options : Options) (f : Flag) : List Char → Except Stop (List (Option Flag))
  | [] => .ok [some f]
  | c :: cs =>
    if c = '=' ∨ c = '-' then .error .misuse
    else match options.lookup (String.ofList ['-', c]) with
      | some g => (clusterFlags options g cs).map (some f :: ·)
      | none => .ok [some f, none]

/-! ## The arguments of a command -/

/-- What a command was given so far. -/
structure Given where
  definition : Option String
  context : Option String
  logicMap : Bool
  json : Bool
  /-- Whether something was given that the command does not take. -/
  extra : Bool
deriving Repr

namespace Given

def nothing : Given := ⟨none, none, false, false, false⟩

/-- Takes an option without a value. -/
def take (g : Given) : Option Flag → Except Stop Given
  | some .help => .error .help
  | some .logicMap => .ok { g with logicMap := true }
  | some .json => .ok { g with json := true }
  | some _ => .error .misuse
  | none => .ok { g with extra := true }

/-- Takes an operand: the first one is the definition. -/
def operand (g : Given) (s : String) : Given :=
  match g.definition with
  | none => { g with definition := some s }
  | some _ => { g with extra := true }

end Given

/-- Reads what follows a command. A divider is passed over right behind the
definition or in front of it, if nothing else follows. -/
def details (options : Options) (g : Given) : List String → Except Stop Given
  | [] => .ok g
  | a :: rest =>
    match word options a, rest with
    | .operand s, ["--"] => .ok (g.operand s)
    | .operand s, rest => details options (g.operand s) rest
    | .divider, [s] => .ok (g.operand s)
    | .divider, _ => .error .misuse
    | .option .context, value :: rest =>
      match word options value with
      | .operand s => details options { g with context := some s } rest
      | _ => .error .misuse
    | .option f, rest => do details options (← g.take (some f)) rest
    | .valued .context s, rest => details options { g with context := some s } rest
    | .valued _ _, _ => .error .misuse
    | .cluster f cs, rest => do
      let g ← (← clusterFlags options f cs).foldlM Given.take g
      details options g rest
    | .unknown, rest => details options { g with extra := true } rest
    | .ambiguous, _ => .error .misuse

/-- The definition that a command needs, if nothing extra was given. -/
def required (g : Given) : Except Stop String :=
  match g.definition with
  | some d => if g.extra then .error .misuse else .ok d
  | none => .error .misuse

/-- Reads a command by name and what follows it. -/
def command (name : String) (args : List String) : Except Stop Command := do
  let options ← match name with
    | "eval" => .ok evaluateOptions
    | "lookups" => .ok lookupsOptions
    | "operations" => .ok helpOptions
    | _ => .error .misuse
  if hasAmbiguous options args then throw .misuse
  let g ← details options Given.nothing args
  match name with
  | "eval" => return .evaluate (← required g) g.context g.logicMap g.json
  | "lookups" => return .lookups (← required g) g.logicMap g.json
  | _ => if g.definition.isSome || g.extra then throw .misuse else return .operations

/-! ## All arguments -/

/-- Takes an option of the command line itself. -/
def Verbosity.take (v : Verbosity) (wanted : Verbosity) : Except Stop Verbosity :=
  if v = .configured ∨ v = wanted then .ok wanted else .error .misuse

/-- The verbosity with one more option, and whether that one is unknown. -/
def takeMain (s : Verbosity × Bool) : Option Flag → Except Stop (Verbosity × Bool)
  | some .help => .error .help
  | some .quiet => (s.1.take .quiet).map fun v => (v, s.2)
  | some .verbose => (s.1.take .verbose).map fun v => (v, s.2)
  | some .debug => (s.1.take .debug).map fun v => (v, s.2)
  | _ => .ok (s.1, true)

/-- Reads options up to the command, and the command. -/
def fromOptions (s : Verbosity × Bool) : List String → Except Stop Arguments
  | [] => .error .misuse
  | a :: rest =>
    match word mainOptions a with
    | .operand name => do
      let c ← command name rest
      if s.2 then throw .misuse else return ⟨s.1, c⟩
    | .option f => do fromOptions (← takeMain s (some f)) rest
    | .cluster f cs => do
      let s ← (← clusterFlags mainOptions f cs).foldlM takeMain s
      fromOptions s rest
    | .unknown => fromOptions (s.1, true) rest
    | _ => .error .misuse

/-- Reads the arguments of the command line. -/
def arguments (args : List String) : Except Stop Arguments :=
  if hasAmbiguous mainOptions args then .error .misuse else fromOptions (.configured, false) args

end Rulebook.CommandLine

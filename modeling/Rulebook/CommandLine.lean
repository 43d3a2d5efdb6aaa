-- The command line: evaluates a definition from a file, lists what one
-- reads, or lists the operations. What is shown and logged is a function of
-- the files, the variables and the arguments.
import Rulebook.CommandLine.Arguments
import Rulebook.CommandLine.Listing
import Rulebook.Document
import Rulebook.Json.Writer
import Rulebook.Log.Layout
import Rulebook.Session
import Rulebook.Text.Emoji

namespace Rulebook.CommandLine

/-- What a command shows. -/
inductive Screen where
  | lines (ls : List String)
  | table (rows : List (List String))
  /-- A failure under a title. -/
  | panel (title message : String)
deriving Repr

/-- What a command does not handle. -/
inductive Escape where
  | fault (f : Fault)
  | document (f : Document.Fault)
  | markup (t : Markup.Trouble)
deriving Repr

inductive Ending where
  | stopped (s : Stop)
  | escaped (e : Escape)
  /-- What was shown, and the lines of the log. -/
  | done (screen : Screen) (log : List String)
deriving Repr

def Stop.exitCode : Stop → Nat
  | .help => 0
  | .misuse => 2

/-- Zero for success, one for a failure that was shown. -/
def Screen.exitCode : Screen → Nat
  | .panel .. => 1
  | _ => 0

/-- The lines of a screen. -/
def Screen.text : Screen → List String
  | .lines ls => ls
  | .table rows => tableLines rows
  | .panel title message => [title, message]

def Escape.message : Escape → String
  | .fault f => f.message
  | .document f => f.message
  | .markup t => t.message

/-! ## Showing values -/

/-- A value indented, with lines that fit on the screen. -/
def indentedLines (v : Value) : List String :=
  let text := Json.text Json.spaced v.toJson
  let lines := match Json.read text with
    | .ok v => Json.indented v
    | .error _ => [text]
  lines.flatMap (Text.wrap screenWidth)

/-- A value as one line of JSON, or indented. -/
def shown (json : Bool) (v : Value) : List String :=
  if json then [Text.withEmoji (Json.text Json.spaced v.toJson)] else indentedLines v

def dotted (path : List String) : String :=
  String.ofList (Text.join ['.'] (path.map String.toList))

/-- Paths as a list of texts, or one a line. -/
def shownPaths (json : Bool) (paths : List (List String)) : List String :=
  if json then shown true (.list (paths.map fun p => .text (dotted p)))
  else if paths.isEmpty then ["No context lookups"]
  else paths.flatMap fun p => Text.wrap screenWidth (Text.withEmoji ("  $" ++ dotted p))

/-! ## Commands -/

/-- A failure under a title, unless its message has tags that do not fit. -/
def panel (title message : String) : Except Escape Screen :=
  match Markup.trouble? ("[red]" ++ message ++ "[/]") with
  | some t => .error (.markup t)
  | none => .ok (.panel title message)

/-- A number that has left the range of the machine is not handled. -/
def loadFailed (f : Document.Fault) : Except Escape Screen :=
  if f.isOverflow then .error (.document f) else panel "Load failed" f.message

def compileFailed (f : Fault) : Except Escape Screen := panel "Compile failed" f.message

/-- Compiles something and evaluates it once. -/
def compute {α : Type} (s : Session) (work : Surroundings → Build α) (use : α → Eval Value) :
    Except Fault Value × Session :=
  match s.build work with
  | (.error f, _, s) => (.error f, s)
  | (.ok b, _, s) =>
    let (outcome, _, s) := s.evaluate b use
    (outcome, s)

/-- The value of a definition in a context. -/
def valueOf (s : Session) (logicMap : Bool) (definition : Value) (context : Fields) :
    Except Fault Value × Session :=
  if logicMap then
    compute s (fun around => LogicMap.build (Logic.build around [] .null) definition)
      fun m => m.eval (.object context)
  else
    compute s (fun around => Logic.build around [] .null definition) fun l => l.eval (.object context)

/-- The paths that a definition reads. -/
def pathsOf (s : Session) (logicMap : Bool) (definition : Value) :
    Except Fault (List (List String)) × Session :=
  if logicMap then
    let (outcome, _, s) :=
      s.build fun around => LogicMap.build (Logic.build around [] .null) definition
    (outcome.map fun b => b.content.lookups, s)
  else
    let (outcome, _, s) := s.build fun around => Logic.build around [] .null definition
    (outcome.map fun b => b.content.lookups, s)

/-- Both documents of an evaluation, the definition first. -/
def load (files : Files) (definition : String) (context : Option String) :
    Except Document.Fault (Value × Fields) := do
  let d ← Document.definition files definition
  return (d, ← Document.context files context)

/-- Evaluates a definition and shows its value. A failure that is not the
definition's own is logged; a value that cannot be written is not handled. -/
def evaluate (files : Files) (s : Session) (name : String) (context : Option String)
    (logicMap json : Bool) : Except Escape Screen × Session :=
  match load files name context with
  | .error f => (loadFailed f, s)
  | .ok (definition, fields) =>
    match valueOf s logicMap definition fields with
    | (.ok v, s) =>
      (if v.writable then .ok (.lines (shown json v)) else .error (.fault .unwritable), s)
    | (.error f, s) =>
      if f.isDefinitionFault then (compileFailed f, s)
      else
        (panel "Evaluation failed" f.message,
          s.log Log.Level.debug Log.commandsName ("Evaluation of " ++ name ++ " failed"))

/-- Shows the paths that a definition reads. A failure that is not the
definition's own is not handled. -/
def lookups (files : Files) (s : Session) (name : String) (logicMap json : Bool) :
    Except Escape Screen × Session :=
  match Document.definition files name with
  | .error f => (loadFailed f, s)
  | .ok definition =>
    match pathsOf s logicMap definition with
    | (.ok paths, s) => (.ok (.lines (shownPaths json paths)), s)
    | (.error f, s) => (if f.isDefinitionFault then compileFailed f else .error (.fault f), s)

def perform (files : Files) (s : Session) : Command → Except Escape Screen × Session
  | .evaluate definition context logicMap json => evaluate files s definition context logicMap json
  | .lookups definition logicMap json => lookups files s definition logicMap json
  | .operations => (.ok (.table (listing Operation.standard)), s)

/-! ## From start to end -/

/-- The file of variables. -/
def variableFileName : String := ".env"

/-- The text of the file of variables, if there is one. -/
def variableText (files : Files) : Except Document.Fault (Option String) :=
  match Document.text files (.ofText variableFileName) with
  | .ok t => .ok (some t)
  | .error (.missing _) => .ok none
  | .error f => .error f

/-- The level that is logged: an option goes before the settings. -/
def levelFor (c : Settings) : Verbosity → Log.Level
  | .debug => Log.Level.debug
  | .verbose => Log.Level.info
  | .quiet => Log.Level.warning
  | .configured => (Log.level? c.log.level).getD Log.Level.info

/-- A session under some settings, with a verbosity asked for. -/
def prepared (c : Settings) (v : Verbosity) (s : Session) : Session :=
  let s := (s.step (.setThreshold (levelFor c v))).2
  if v = .debug then (s.step (.setDebug true)).2 else s

/-- The lines of the log of a session. -/
def logLines (s : Session) : List String :=
  s.takeReports.1.filterMap fun
    | .log level logger message => some (Log.Record.consoleLine ⟨level, logger, message⟩)
    | _ => none

/-- Runs the command line. The settings are read before anything else. -/
def run (files : Files) (environment : Variables) (args : List String) : Ending :=
  match arguments args with
  | .error s => .stopped s
  | .ok a =>
    match variableText files with
    | .error f => .escaped (.document f)
    | .ok file =>
      let s := { Session.fresh .log with environment := environment, file := file, strict := false }
      match s.consult with
      | (.error f, _) => .escaped (.fault f)
      | (.ok c, s) =>
        match perform files (prepared c a.verbosity s) a.command with
        | (.error e, _) => .escaped e
        | (.ok screen, s) => .done screen (logLines s)

end Rulebook.CommandLine

-- Sessions: logics built and evaluated one after the other, under settings
-- that are read when they are first needed and then stay until a reset.
import Rulebook.Log.Level
import Rulebook.LogicMap
import Rulebook.Settings.VariableFile
import Rulebook.Value.Document

namespace Rulebook

/-- What a session lets its observers see. -/
inductive Report where
  | evaluating (sink : String) (number : Nat) (definition context : Value)
  | result (sink : String) (number : Nat) (value : Value)
  | seen (value : Value)
  | log (level : Log.Level) (logger message : String)

/-- Something compiled, with the counts of its recorders. -/
structure Built (α : Type) where
  content : α
  opened : Nat → Nat

structure Session where
  environment : Variables
  /-- The text of the file of variables, if there is one. -/
  file : Option String
  reader : VariableReader
  configuration : Configuration
  /-- Debug mode, where it does not follow the settings. -/
  debug : Option Bool
  sink : Sink
  /-- Whether a record that cannot be written ends the evaluation; if not, it
  is left out. -/
  strict : Bool
  threshold : Log.Level
  logics : List (String × Built Logic)
  maps : List (String × Built LogicMap)
  /-- What was reported, the latest first. -/
  reports : List Report

namespace Session

/-- A session in which nothing has happened. Debug operations record in the
given sink. -/
def fresh (sink : Sink) : Session :=
  ⟨[], none, VariableFile.reader, .absent, none, sink, true, 0, [], [], []⟩

/-! ## Settings -/

/-- The settings since they were read. -/
def settings (s : Session) : Option Settings := s.configuration.settings?

/-- The variables with those of the file in their place, and why not all of
them could be set. -/
def loadFile (s : Session) : Variables × Option SettingFault :=
  match s.file with
  | some text => s.reader.load s.environment text
  | none => (s.environment, none)

/-- The settings: those read before, else those of the variables and the
file. A fault leaves none behind; the variables of the file stay set. -/
def consult (s : Session) : Except Fault Settings × Session :=
  match s.configuration with
  | .initialised c => (.ok c, s)
  | unready =>
    let (environment, refused) := s.loadFile
    let (outcome, configuration) := unready.initialise environment refused
    (outcome.mapError .setting, { s with environment := environment, configuration := configuration })

/-- Whether debug mode is on. -/
def debugMode (s : Session) : Except Fault Bool × Session :=
  match s.debug with
  | some b => (.ok b, s)
  | none => (s.consult.1.map fun c => c.logic.debug, s.consult.2)

/-! ## Reports -/

def report (r : Report) (s : Session) : Session := { s with reports := r :: s.reports }

/-- Logs a message if its level passes. -/
def log (level : Log.Level) (logger message : String) (s : Session) : Session :=
  if Log.passes s.threshold level then s.report (.log level logger message) else s

/-- What was reported, in order, and the session without it. -/
def takeReports (s : Session) : List Report × Session := (s.reports.reverse, { s with reports := [] })

def logNotice (s : Session) : Notice → Session
  | .compiling op operand =>
    if operand.writable then
      s.log Log.Level.debug Log.compilerName ("Compiling " ++ op ++ ": " ++ operand.display)
    else s
  | _ => s

def recordLead (number : Nat) : String := "USER-LOGIC (" ++ toString number ++ "): "

/-- Passes an event on to its sink; the log takes it at the given level. -/
def deliver (level : Log.Level) (s : Session) (e : Event) : Session :=
  if !e.writable then s else match e with
  | .seen v => s.report (.seen v)
  | .evaluating ⟨_, .named sink⟩ n d c => s.report (.evaluating sink n d c)
  | .result ⟨_, .named sink⟩ n v => s.report (.result sink n v)
  | .evaluating ⟨_, .log⟩ n d c =>
    s.log level Log.debugName
      (recordLead n ++ "evaluating " ++ d.display ++ " with context " ++ c.display)
  | .result ⟨_, .log⟩ n v => s.log level Log.debugName (recordLead n ++ "result = " ++ v.display)

/-- Whether an event goes to the log. -/
def isLogged : Event → Bool
  | .evaluating r .. | .result r .. => r.sink == .log
  | .seen _ => false

/-! ## Building and evaluating -/

/-- Compiles something under the settings of the session, which count as
read if compilation asked for them. -/
def build {α : Type} (s : Session) (work : Surroundings → Build α) :
    Except Fault (Built α) × List (List String) × Session :=
  let around : Surroundings := ⟨s.consult.1.map fun c => c.logic, s.sink⟩
  let (outcome, draft) := (work around).run.run ⟨0, [], false⟩
  let s := if draft.consulted then s.consult.2 else s
  let s := draft.notices.reverse.foldl logNotice s
  (outcome.map fun a => ⟨a, fun _ => 0⟩, Logic.lookupsOf draft.notices, s)

/-- Evaluates something built. The log takes records only if it can tell
whether debug mode is on. -/
def evaluate {α : Type} (s : Session) (b : Built α) (work : α → Eval Value) :
    Except Fault Value × Built α × Session :=
  let logFault := match s.debugMode.1 with
    | .ok _ => none
    | .error f => some f
  let level := match s.debugMode.1 with
    | .ok true => Log.Level.info
    | _ => Log.Level.debug
  let strict := s.strict && Log.passes s.threshold level
  let (outcome, journal) := (work b.content).run.run ⟨b.opened, [], logFault, strict, s.strict, 0⟩
  let events := journal.events.reverse
  let s := if events.any isLogged then s.debugMode.2 else s
  let s := match logFault with
    | none => events.foldl (deliver level) s
    | some _ => (events.filter fun e => !isLogged e).foldl (deliver level) s
  (outcome, ⟨b.content, journal.opened⟩, s)

/-! ## Commands -/

inductive Command where
  | setVariables (changes : List (String × Option String))
  | writeFile (text : String)
  | reset
  | summary
  | setSink (sink : Sink)
  | setDebug (on : Bool)
  | isDebug
  | setThreshold (level : Log.Level)
  | newLogic (id : String) (operations : List (String × Entry)) (base definition : Value)
  | evalLogic (id : String) (context : Value)
  | describe (id : String)
  | newMap (id : String) (base definition : Value)
  | evalMap (id : String) (context : Value)

inductive Reply where
  | done
  /-- There is nothing built under the name. -/
  | skipped
  | value (v : Value)
  | sinks (previous current : Sink)
  | built (lookups : List (List String))
  | described (l : Logic)
  | builtMap (m : LogicMap)
  | failed (f : Fault)
  /-- A definition that did not compile, and the lookups before that. -/
  | refused (f : Fault) (lookups : List (List String))

/-- The answer of a computation. -/
def Reply.ofOutcome : Except Fault Value → Reply
  | .ok v => .value v
  | .error f => .failed f

def newLogic (s : Session) (id : String) (operations : List (String × Entry))
    (base definition : Value) : Reply × Session :=
  match s.build fun around => Logic.build around operations base definition with
  | (.ok b, lookups, s) => (.built lookups, { s with logics := Mapping.put id b s.logics })
  | (.error f, lookups, s) => (.refused f lookups, { s with logics := Mapping.erase id s.logics })

def newMap (s : Session) (id : String) (base definition : Value) : Reply × Session :=
  match s.build fun around => LogicMap.build (Logic.build around [] base) definition with
  | (.ok b, _, s) => (.builtMap b.content, { s with maps := Mapping.put id b s.maps })
  | (.error f, lookups, s) => (.refused f lookups, { s with maps := Mapping.erase id s.maps })

def evalLogic (s : Session) (id : String) (context : Value) : Reply × Session :=
  match Mapping.get? id s.logics with
  | none => (.skipped, s)
  | some b =>
    let (outcome, b, s) := s.evaluate b fun l => l.eval context
    (.ofOutcome outcome, { s with logics := Mapping.put id b s.logics })

def evalMap (s : Session) (id : String) (context : Value) : Reply × Session :=
  match Mapping.get? id s.maps with
  | none => (.skipped, s)
  | some b =>
    let (outcome, b, s) := s.evaluate b fun m => m.eval context
    (.ofOutcome outcome, { s with maps := Mapping.put id b s.maps })

/-- Carries out a command. The values that it brings are read as documents. -/
def step (s : Session) : Command → Reply × Session
  | .setVariables changes => (.done, { s with environment := s.environment.change changes })
  | .writeFile text => (.done, { s with file := some text })
  | .reset => (.done, { s with configuration := .absent })
  | .summary => (.ofOutcome (s.consult.1.map Settings.summary), s.consult.2)
  | .setSink sink => (.sinks s.sink sink, { s with sink := sink })
  | .setDebug on =>
    (.done, { s with debug := some on, threshold := if on then Log.Level.debug else s.threshold })
  | .isDebug => (.ofOutcome (s.debugMode.1.map .bool), s.debugMode.2)
  | .setThreshold level => (.done, { s with threshold := level })
  | .newLogic id operations base definition =>
    s.newLogic id operations (base.boxed .base) (definition.boxed .definition)
  | .evalLogic id context => s.evalLogic id (context.boxed .context)
  | .describe id =>
    match Mapping.get? id s.logics with
    | some b => (.described b.content, s)
    | none => (.skipped, s)
  | .newMap id base definition => s.newMap id (base.boxed .base) (definition.boxed .definition)
  | .evalMap id context => s.evalMap id (context.boxed .context)

/-- Carries out commands one after the other. -/
def run (s : Session) (commands : List Command) : Session :=
  commands.foldl (fun s c => (s.step c).2) s

end Session
end Rulebook

-- What an evaluation reports while it runs. Each `debug` operation has a
-- recorder of its own, which numbers its records from one and goes on
-- counting over all evaluations of the same logic. A record that cannot be
-- written is refused, or left out where the log allows it.
import Rulebook.Fault

namespace Rulebook

/-- Where debug records go: to the log, or to a collecting sink. -/
inductive Sink where
  | log
  | named (name : String)
deriving DecidableEq, Repr, Inhabited

/-- The source of record numbers of one `debug` operation. -/
structure Recorder where
  id : Nat
  sink : Sink
deriving DecidableEq, Repr

inductive Event where
  | evaluating (recorder : Recorder) (number : Nat) (definition context : Value)
  | result (recorder : Recorder) (number : Nat) (value : Value)
  /-- A value that an operation was asked to witness. -/
  | seen (value : Value)
deriving Repr

/-- Whether every value of an event has a text. -/
def Event.writable : Event → Bool
  | .evaluating _ _ definition context => definition.writable && context.writable
  | .result _ _ value => value.writable
  | .seen value => value.writable

/-- What is known while an evaluation runs. -/
structure Journal where
  /-- How many records each recorder has opened. -/
  opened : Nat → Nat
  /-- The events so far, the latest first. -/
  events : List Event
  /-- Why the log cannot take records, if it cannot. -/
  logFault : Option Fault
  /-- Whether the log refuses a record that cannot be written. -/
  strict : Bool
  /-- Whether a collecting sink refuses such a record. -/
  choosy : Bool
  /-- How many numbers were calculated. -/
  numbers : Nat

namespace Journal

def empty : Journal := ⟨fun _ => 0, [], none, true, true, 0⟩

/-- Counts one more record of a recorder. -/
def count (r : Recorder) (j : Journal) : Journal :=
  { j with opened := fun id => if id = r.id then j.opened id + 1 else j.opened id }

def add (e : Event) (j : Journal) : Journal := { j with events := e :: j.events }

/-- Why the log refuses an event, if it does. -/
def refusal (e : Event) (j : Journal) : Option Fault :=
  match j.logFault with
  | some f => some f
  | none => if j.strict && !e.writable then some .unwritable else none

end Journal

/-- A computation that may fail and writes to the journal. What was written
before a failure stays. -/
abbrev Eval := ExceptT Fault (StateM Journal)

namespace Eval

/-- Collects an event, which a choosy sink may refuse. -/
def collect (e : Event) : Eval Unit := do
  if (← get).choosy && !e.writable then throw .unwritable else modify (Journal.add e)

/-- Passes an event to the log, which may refuse it. -/
def log (e : Event) : Eval Unit := do
  modify (Journal.add e)
  match (← get).refusal e with
  | some f => throw f
  | none => return ()

def report : Sink → Event → Eval Unit
  | .log => log
  | .named _ => collect

/-- Witnesses a value. -/
def see (v : Value) : Eval Unit := collect (.seen v)

/-- Opens the next record of a recorder and gives its number. -/
def openRecord (r : Recorder) (definition context : Value) : Eval Nat := do
  modify (Journal.count r)
  let number := (← get).opened r.id
  report r.sink (.evaluating r number definition context)
  return number

def closeRecord (r : Recorder) (number : Nat) (value : Value) : Eval Unit :=
  report r.sink (.result r number value)

/-- Counts one more calculated number, and gives how many there were before. -/
def countNumber : Eval Nat := do
  let j ← get
  set { j with numbers := j.numbers + 1 }
  return j.numbers

/-- The result of a calculation. A number is an object of its own, a NaN also
differs from those before it. -/
def distinguish (v : Value) : Eval Value := do
  match v with
  | .int n => return .int ⟨n, .counted (← countNumber)⟩
  | .float x =>
    let number ← countNumber
    if x.value = .nan .calculation then return .float ⟨.nan (.counted number), .counted number⟩
    else return .float ⟨x, .counted number⟩
  | v => return v

end Eval
end Rulebook

-- How records of the log become text. A layout is text with slots in it,
-- such as `%(message)s`; a slot is filled with one part of a record. Slots
-- are filled from the left, and the first that cannot be filled is named.
import Rulebook.Log.Level
import Rulebook.Log.Slot

namespace Rulebook.Log

structure Record where
  level : Level
  logger : String
  message : String
deriving DecidableEq, Repr

/-! ## Colours -/

def resetColour : String := "\x1b[0m"

/-- The code that switches to the colour of a level; only the levels with a
name of their own have one. -/
def colour (level : Level) : String :=
  if level = Level.debug then "\x1b[96m"
  else if level = Level.info then "\x1b[92m"
  else if level = Level.warning then "\x1b[93m"
  else if level = Level.error then "\x1b[91m"
  else if level = Level.critical then "\x1b[1m\x1b[91m"
  else "\x1b[97m"

def colouredName (level : Level) : String := colour level ++ levelName level ++ resetColour

/-! ## Records -/

/-- The parts of a record by name. -/
def Record.parts (r : Record) : List (String × Part) :=
  [ ("name", .text r.logger), ("msg", .text r.message), ("levelname", .text (colouredName r.level)),
    ("levelno", .number r.level), ("message", .text r.message) ]

/-- A record as a line on a screen, without the time in front. -/
def Record.consoleLine (r : Record) : String := colouredName r.level ++ " | " ++ r.message

/-! ## Slots in a text -/

/-- The flags of a form. -/
def isFlag (c : Char) : Bool := ['-', '+', ' ', '#', '0'].contains c

def isDigit (c : Char) : Bool := '0' ≤ c && c ≤ '9'

/-- A name up to its closing bracket; brackets inside it come in pairs. -/
def slotName : Nat → List Char → Option (List Char × List Char)
  | _, [] => none
  | depth, '(' :: cs => (slotName (depth + 1) cs).map fun r => ('(' :: r.1, r.2)
  | 0, ')' :: cs => some ([], cs)
  | depth + 1, ')' :: cs => (slotName depth cs).map fun r => (')' :: r.1, r.2)
  | depth, c :: cs => (slotName depth cs).map fun r => (c :: r.1, r.2)

/-- What the next slot takes: the part with its name, or, without a name,
what is left over. -/
inductive Operand where
  | record
  | part (p : Part)
  | nothing

/-- A width or a precision. A star takes it from the operand. -/
def measure (o : Operand) (cs : List Char) : Except SlotFault (Nat × Operand × List Char) :=
  match cs with
  | '*' :: rest => match o with
    | .part (.number n) => .ok (n.toNat, .nothing, rest)
    | .nothing => .error .nothingLeft
    | _ => .error .noWidth
  | _ =>
    let ds := cs.takeWhile isDigit
    .ok (ds.foldl (fun n c => 10 * n + (c.toNat - '0'.toNat)) 0, o, cs.drop ds.length)

/-- The precision behind a point, if there is one. -/
def precision (o : Operand) (cs : List Char) :
    Except SlotFault (Option Nat × Operand × List Char) :=
  match cs with
  | '.' :: rest => do
    let (n, o, rest) ← measure o rest
    return (some n, o, rest)
  | _ => .ok (none, o, cs)

/-- Passes over a letter for the size of a number. -/
def skipSize (cs : List Char) : List Char :=
  match cs with
  | c :: rest => if ['h', 'l', 'L'].contains c then rest else cs
  | [] => []

/-- An operand in a form. The whole record has no text of its own here. -/
def Operand.inForm (o : Operand) (f : Form) (place : Nat) : Except SlotFault (List Char) :=
  match o with
  | .part p => p.inForm f place
  | .nothing => .error .nothingLeft
  | .record =>
    if ['s', 'r', 'a'].contains f.letter then .ok []
    else if f.letter = 'c' then .error .noCharacter
    else if Part.isNumberLetter f.letter then .error (Part.refusal f.letter "dict")
    else .error (.unknownForm f.letter place)

/-- The operand of a slot, and what follows its name. -/
def operandOf (r : Record) (o : Operand) (cs : List Char) : Except SlotFault (Operand × List Char) :=
  match cs with
  | '(' :: rest => match slotName 0 rest with
    | none => .error .openName
    | some (name, rest) => match r.parts.lookup (String.ofList name) with
      | some p => .ok (.part p, rest)
      | none => .error (.unknownPart (String.ofList name))
  | _ => .ok (o, cs)

/-- Fills the slot behind a percent sign, in a layout of some size. -/
def fillSlot (r : Record) (size : Nat) (o : Operand) (cs : List Char) :
    Except SlotFault (List Char × Operand × List Char) := do
  let (o, cs) ← operandOf r o cs
  let flags := cs.takeWhile isFlag
  let (width, o, cs) ← measure o (cs.drop flags.length)
  let (precision, o, cs) ← precision o cs
  match skipSize cs with
  | [] => throw .incomplete
  | letter :: rest =>
    let text ← o.inForm ⟨flags, width, precision, letter⟩ (size - rest.length - 1)
    return (text, .nothing, rest)

/-- A text with its slots filled; two percent signs are one. Each round takes
at least one character. -/
def fillSlots (r : Record) (size : Nat) : Nat → Operand → List Char → Except SlotFault (List Char)
  | 0, _, _ => .ok []
  | _, _, [] => .ok []
  | fuel + 1, o, '%' :: '%' :: cs => (fillSlots r size fuel o cs).map ('%' :: ·)
  | fuel + 1, o, '%' :: cs => do
    let (text, o, rest) ← fillSlot r size o cs
    return text ++ (← fillSlots r size fuel o rest)
  | fuel + 1, o, c :: cs => (fillSlots r size fuel o cs).map (c :: ·)

/-! ## Layouts -/

/-- Whether a character can be in the name of a slot. -/
def isNameCharacter (c : Char) : Bool := c.isAlphanum || c == '_' || 0x80 ≤ c.toNat

/-- Whether what follows is a star or digits, and what follows that. -/
def skipMeasure : List Char → Option (List Char)
  | '*' :: rest => some rest
  | cs =>
    let rest := cs.dropWhile isDigit
    if rest.length = cs.length then none else some rest

/-- Whether a text begins with a complete slot with a name. -/
def beginsSlot : List Char → Bool
  | '%' :: '(' :: cs =>
    let name := cs.takeWhile isNameCharacter
    match cs.drop name.length with
    | ')' :: rest =>
      let rest := rest.dropWhile isFlag
      let rest := (skipMeasure rest).getD rest
      let rest := match rest with
        | '.' :: more => (skipMeasure more).getD rest
        | _ => rest
      !name.isEmpty && (rest.head?.any fun c => "diouxefgcrsa%".toList.contains c.toLower)
    | _ => false
  | _ => false

def hasSlot : List Char → Bool
  | [] => false
  | c :: cs => beginsSlot (c :: cs) || hasSlot cs

/-- A text with a slot in it. -/
structure Layout where
  text : String
  hasSlot : hasSlot text.toList = true

namespace Layout

/-- Reads a layout. The empty text stands for the message alone. A text
without a slot is none, and is given back. -/
def read (s : String) : Except String Layout :=
  let given := if s.isEmpty then "%(message)s" else s
  if h : Log.hasSlot given.toList = true then .ok ⟨given, h⟩ else .error given

def noSlotMessage (given : String) : String := "Invalid format '" ++ given ++ "' for '%' style"

/-- The text of a record. -/
def render (l : Layout) (r : Record) : Except SlotFault String :=
  let cs := l.text.toList
  (fillSlots r cs.length cs.length .record cs).map String.ofList

end Layout
end Rulebook.Log

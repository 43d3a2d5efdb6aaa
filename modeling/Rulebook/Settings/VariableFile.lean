-- Files of variables: a line `NAME=value` each, with an optional `export`,
-- quotes around a value, and comments behind a hash sign. Where a line has
-- another form, the rest of it is passed over.
import Rulebook.Settings.Interpolation
import Rulebook.Text.Blank
import Rulebook.Text.Lines

namespace Rulebook.VariableFile

/-! ## Pieces of a line -/

def isLineEnd (c : Char) : Bool := c == '\n'

/-- White space that does not end a line. -/
def isGap (c : Char) : Bool := Text.isBlank c && !isLineEnd c

def skipGap (cs : List Char) : List Char := cs.dropWhile isGap

/-- What follows the end of the current line. -/
def skipLine (cs : List Char) : List Char :=
  match cs.dropWhile fun c => !isLineEnd c with
  | _ :: rest => rest
  | [] => []

/-- What follows the line end that comes next, behind gaps; nothing if
something else comes first. -/
def endOfLine? (cs : List Char) : Option (List Char) :=
  match skipGap cs with
  | [] => some []
  | c :: rest => if isLineEnd c then some rest else none

/-- Passes over a comment, if one comes next behind gaps. -/
def skipComment (cs : List Char) : List Char :=
  match skipGap cs with
  | '#' :: rest => rest.dropWhile fun c => !isLineEnd c
  | _ => cs

/-- Passes over `export`, if a gap follows it. -/
def skipExport (cs : List Char) : List Char :=
  match cs with
  | 'e' :: 'x' :: 'p' :: 'o' :: 'r' :: 't' :: c :: rest => if isGap c then skipGap rest else cs
  | _ => cs

/-! ## Names and values -/

/-- A text up to the closing quote. A quote behind a backslash closes only
where no quote behind it does. -/
def quotedBody? (quote : Char) : List Char → Option (List Char × List Char)
  | [] => none
  | '\\' :: c :: rest =>
    if c = quote then
      match quotedBody? quote rest with
      | some r => some ('\\' :: c :: r.1, r.2)
      | none => some (['\\'], rest)
    else (quotedBody? quote (c :: rest)).map fun r => ('\\' :: r.1, r.2)
  | c :: rest =>
    if c = quote then some ([], rest)
    else (quotedBody? quote rest).map fun r => (c :: r.1, r.2)

/-- The character that an escape in double quotes stands for. -/
def escaped? : Char → Option Char
  | '\\' => some '\\'
  | '\'' => some '\''
  | '"' => some '"'
  | 'a' => some '\x07'
  | 'b' => some '\x08'
  | 'f' => some '\x0c'
  | 'n' => some '\n'
  | 'r' => some '\r'
  | 't' => some '\t'
  | 'v' => some '\x0b'
  | _ => none

/-- The text with its escapes replaced; single quotes know only two. -/
def unescape (single : Bool) : List Char → List Char
  | '\\' :: c :: rest =>
    match escaped? c with
    | some e =>
      if single && c != '\\' && c != '\'' then '\\' :: unescape single (c :: rest)
      else e :: unescape single rest
    | none => '\\' :: unescape single (c :: rest)
  | c :: rest => c :: unescape single rest
  | [] => []

/-- A value without quotes: the line up to a hash sign behind white space,
less white space at its end. -/
def plainValue : List Char → List Char
  | [] => []
  | c :: rest =>
    if Text.isBlank c && (rest.dropWhile Text.isBlank).head? == some '#' then []
    else c :: plainValue rest

/-- A value in quotes or without, and what follows it. -/
def value? (cs : List Char) : Option (List Char × List Char) :=
  match cs with
  | '\'' :: rest => (quotedBody? '\'' rest).map fun r => (unescape true r.1, r.2)
  | '"' :: rest => (quotedBody? '"' rest).map fun r => (unescape false r.1, r.2)
  | _ =>
    let line := cs.takeWhile fun c => !isLineEnd c
    some (Text.trimEnd (plainValue line), cs.drop line.length)

/-- A name: in single quotes, or up to an equals sign, hash sign or space. -/
def name? (cs : List Char) : Option (List Char × List Char) :=
  match cs with
  | '\'' :: rest =>
    let name := rest.takeWhile (· != '\'')
    if name.isEmpty || (rest.drop name.length).isEmpty then none
    else some (name, rest.drop (name.length + 1))
  | _ =>
    let name := cs.takeWhile fun c => c != '=' && c != '#' && !Text.isBlank c
    if name.isEmpty then none else some (name, cs.drop name.length)

/-! ## Files -/

/-- What a line was found to hold, and the text behind it. -/
structure Reading where
  /-- A variable, perhaps without a value. -/
  binding : Option (String × Option String)
  rest : List Char

/-- The end of a line with a binding. Behind anything else the line is
passed over, binding and all. -/
def finish (binding : Option (String × Option String)) (cs : List Char) : Reading :=
  let cs := skipComment cs
  match endOfLine? cs with
  | some rest => ⟨binding, rest⟩
  | none => ⟨none, skipLine cs⟩

/-- What follows a name. -/
def readValue (name : String) (cs : List Char) : Reading :=
  match cs with
  | '=' :: rest =>
    match value? (skipGap rest) with
    | some (value, rest) => finish (some (name, some (String.ofList value))) rest
    | none => ⟨none, skipLine (skipGap rest)⟩
  | cs => finish (some (name, none)) cs

/-- Reads the line that a text begins with; quotes may make it several. -/
def readLine (cs : List Char) : Reading :=
  let cs := skipExport cs
  match cs with
  | '#' :: _ => finish none cs
  | _ => match name? cs with
    | some (name, rest) => readValue (String.ofList name) (skipGap rest)
    | none => ⟨none, skipLine cs⟩

/-- The variables of a text, in order. Each round passes over a line. -/
def bindings : Nat → List Char → List (String × Option String)
  | 0, _ => []
  | fuel + 1, cs =>
    match cs.dropWhile Text.isBlank with
    | [] => []
    | cs =>
      let line := readLine cs
      line.binding.toList ++ bindings fuel line.rest

/-- The variables that a text names, in order. -/
def read (text : String) : List (String × Option String) :=
  bindings (text.length + 1) (Text.lineFeeds text.toList)

/-! ## Setting variables -/

/-- The variables with others set, in order, up to one that cannot be set. A
name without a value changes nothing. -/
def store (vars : Variables) : List (String × Option String) → Variables × Option SettingFault
  | [] => (vars, none)
  | (_, none) :: rest => store vars rest
  | (name, some value) :: rest =>
    match Variables.refusal? name value with
    | some f => (vars, some f)
    | none => store (Mapping.put name value vars) rest

/-- The variables that are given a value. -/
def given (bindings : List (String × Option String)) : Variables :=
  bindings.filterMap fun b => b.2.map fun value => (b.1, value)

/-- Variables are stored over others, unless one of them cannot be set. -/
theorem store_spec (vars : Variables) (bs : List (String × Option String)) :
    (store vars bs).2 = (given bs).findSome? (fun v => Variables.refusal? v.1 v.2)
      ∧ ((store vars bs).2 = none → (store vars bs).1 = Mapping.overlay vars (given bs)) := by
  induction bs generalizing vars with
  | nil => exact ⟨rfl, fun _ => rfl⟩
  | cons b bs ih =>
    obtain ⟨name, value⟩ := b
    cases value with
    | none => exact ih vars
    | some value =>
      have hgiven : given ((name, some value) :: bs) = (name, value) :: given bs := rfl
      rw [hgiven, store, List.findSome?_cons]
      cases Variables.refusal? name value with
      | some f => exact ⟨rfl, fun h => nomatch h⟩
      | none => exact ih (Mapping.put name value vars)

/-- The variables that a text gives a value, with their references replaced. -/
def resolved (vars : Variables) (text : String) : List (String × Option String) :=
  Interpolation.resolve vars (read text)

/-- The reader of such files. -/
def reader : VariableReader where
  given vars text := given (resolved vars text)
  load vars text := store vars (resolved vars text)
  refuses vars text := (store_spec vars (resolved vars text)).1
  overlays vars text := (store_spec vars (resolved vars text)).2

end Rulebook.VariableFile

-- Definitions and contexts read from files. The name of a file says whether
-- it is JSON; everything else is YAML.
import Rulebook.Document.FilePath
import Rulebook.Document.Utf8
import Rulebook.Document.Yaml.Content
import Rulebook.Json.Reader
import Rulebook.Text.Lines
import Rulebook.Value.Document

namespace Rulebook.Document

/-! ## Failures -/

/-- Why a document cannot be had. -/
inductive Fault where
  | missing (path : FilePath)
  | encoding (f : Utf8.Fault)
  | json (path : FilePath) (f : Json.Fault)
  | yaml (path : FilePath)
  /-- A scalar of a YAML document that has no value. -/
  | scalar (t : Yaml.Trouble)
  | longInteger (digits : Nat)
  /-- A context that is no mapping, in the file with the name as given. -/
  | context (given typeName : String)
deriving Repr

namespace Fault

def unread (path : FilePath) : String := "Failed to parse " ++ path.text

def message : Fault → String
  | .missing path => "Definition file not found: " ++ path.text
  | .encoding f => f.message
  | .json path f => unread path ++ ": " ++ f.message
  | .yaml path => unread path
  | .scalar t => t.message
  | .longInteger n => Number.tooManyDigits n
  | .context given t => "Context file " ++ given ++ " must contain an object, got " ++ t

/-- Whether a number has left the range of the machine. -/
def isOverflow : Fault → Bool
  | .scalar t => t.isOverflow
  | _ => false

end Fault

/-! ## Reading -/

/-- The text of a file. -/
def text (files : Files) (path : FilePath) : Except Fault String := do
  match files path with
  | none => throw (.missing path)
  | some bytes => return String.ofList (Text.lineFeeds (← (Utf8.decode bytes).mapError .encoding).toList)

/-- The value of a document with some path. A scalar that is written as a
value that there is not is not blamed on the document. -/
def value (path : FilePath) (text : String) : Except Fault Value :=
  if path.isJson then
    (Json.read text).mapError fun f => match f.trouble with
      | .longInteger n => .longInteger n
      | _ => .json path f
  else
    (Yaml.read text).mapError fun
      | .malformed => .yaml path
      | t => .scalar t

/-- The value in a file. -/
def content (files : Files) (given : String) : Except Fault Value := do
  let path := FilePath.ofText given
  value path (← text files path)

/-- The definition in a file. -/
def definition (files : Files) (given : String) : Except Fault Value := do
  return (← content files given).boxed .definition

/-- The context in a file: a mapping, which no file and null make empty. -/
def context (files : Files) (given : Option String) : Except Fault Fields :=
  match given with
  | none => .ok []
  | some name => do
    match ← content files name with
    | .null => return []
    | .object fs => return (Value.boxedFields .context 0 fs).1
    | v => throw (.context name v.typeName)

end Rulebook.Document

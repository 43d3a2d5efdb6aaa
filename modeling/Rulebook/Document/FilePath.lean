-- Paths of files as texts with slashes. Empty parts and single dots do not
-- count; double dots do, since what they lead to depends on the files.
import Rulebook.Text.Split
import Rulebook.Text.Upper

namespace Rulebook

structure FilePath where
  /-- The slashes in front: none, one, or exactly two. -/
  root : String
  parts : List String
deriving DecidableEq, Repr

namespace FilePath

/-- The root of a path: two slashes in front stay two, more are one. -/
def rootOf (cs : List Char) : String :=
  match cs with
  | '/' :: '/' :: '/' :: _ => "/"
  | '/' :: '/' :: _ => "//"
  | '/' :: _ => "/"
  | _ => ""

def ofText (s : String) : FilePath :=
  let parts := (Text.splitOn ['/'] s.toList).map String.ofList
  ⟨rootOf s.toList, parts.filter fun p => p != "" && p != "."⟩

/-- The path as text; the path of nothing is a single dot. -/
def text (p : FilePath) : String :=
  if p.root = "" ∧ p.parts = [] then "."
  else p.root ++ String.ofList (Text.join ['/'] (p.parts.map String.toList))

/-- The last part. -/
def name (p : FilePath) : String := p.parts.getLastD ""

/-- What follows the last dot of a name, if that is neither its first nor its
last character. -/
def extension? (name : String) : Option String :=
  let ending := name.toList.reverse.takeWhile (· != '.')
  if ending.isEmpty ∨ name.length ≤ ending.length + 1 then none
  else some (String.ofList ending.reverse)

/-- Whether the name ends as those of JSON files do, in any letter case. -/
def isJson (p : FilePath) : Bool := (extension? p.name).map Text.lowerAscii == some "json"

end FilePath

/-! ## Files -/

/-- The bytes of the file at a path, if there is a file. -/
abbrev Files := FilePath → Option (List UInt8)

namespace Files

/-- Whether some file lies beneath a place. -/
def isDirectory (files : List (List String × List UInt8)) (place : List String) : Bool :=
  place.isEmpty || files.any fun f => place.isPrefixOf f.1 && place.length < f.1.length

/-- Where the parts of a path lead from a place. Nothing leads through a file,
through what does not exist, or out at the top. -/
def follow (files : List (List String × List UInt8)) (place : List String) :
    List String → Option (List String)
  | [] => some place
  | part :: parts =>
    if !isDirectory files place then none
    else if part = ".." then
      if place.isEmpty then none else follow files place.dropLast parts
    else follow files (place ++ [part]) parts

/-- A folder with the given files. The last of those with one path counts. -/
def ofFolder (files : List (FilePath × List UInt8)) : Files := fun path =>
  let files := files.reverse.map fun f => (f.1.parts, f.2)
  if path.root ≠ "" then none
  else (follow files [] path.parts).bind fun place => files.lookup place

end Files
end Rulebook

-- References to other variables inside a value: a dollar sign and a name in
-- braces, with a default behind `:-` if there is one. The name holds neither
-- a colon nor a closing brace, the default no closing brace.
import Rulebook.Settings

namespace Rulebook.Interpolation

structure Reference where
  name : String
  default : String
deriving DecidableEq, Repr

/-- The reference at the start of a text, and how many characters it takes. -/
def reference? : List Char → Option (Reference × Nat)
  | '$' :: '{' :: cs =>
    let name := cs.takeWhile fun c => c != '}' && c != ':'
    match cs.drop name.length with
    | '}' :: _ => some (⟨String.ofList name, ""⟩, name.length + 3)
    | ':' :: '-' :: rest =>
      let fallback := rest.takeWhile (· != '}')
      if (rest.drop fallback.length).isEmpty then none
      else some (⟨String.ofList name, String.ofList fallback⟩, name.length + fallback.length + 5)
    | _ => none
  | _ => none

/-- The value that a reference stands for. A variable that is not set gives
the default, one that is named without a value gives nothing. -/
def Reference.value (vars : List (String × Option String)) (r : Reference) : List Char :=
  match Mapping.get? r.name vars with
  | some value => (value.getD "").toList
  | none => r.default.toList

/-- A text with its references replaced. The first `skip` characters belong
to the reference before. -/
def expand (vars : List (String × Option String)) : Nat → List Char → List Char
  | _, [] => []
  | skip + 1, _ :: cs => expand vars skip cs
  | 0, c :: cs =>
    match reference? (c :: cs) with
    | some (r, size) => r.value vars ++ expand vars (size - 1) cs
    | none => c :: expand vars 0 cs

/-- The variables of a file with the references in their values replaced. A
reference sees the variables in front of it in the file, and those of the
environment. A name keeps its first place and its last value. -/
def resolve (environment : Variables) (bindings : List (String × Option String)) :
    List (String × Option String) :=
  let known := environment.map fun e => (e.1, some e.2)
  bindings.foldl (fun found b =>
    let value := b.2.map fun v => String.ofList (expand (Mapping.overlay known found) 0 v.toList)
    Mapping.put b.1 value found) []

end Rulebook.Interpolation

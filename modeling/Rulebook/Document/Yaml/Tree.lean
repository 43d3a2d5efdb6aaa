-- The tree that the tokens of a YAML document form. A missing node is an
-- empty scalar, and a stream holds one document at most.
import Rulebook.Document.Yaml.Token

namespace Rulebook.Yaml

inductive Tree where
  /-- A scalar; a plain one has no quotes around it. -/
  | scalar (text : String) (plain : Bool)
  | sequence (items : List Tree)
  | mapping (entries : List (Tree × Tree))
  /-- A mapping that was to take in something that is no mapping. -/
  | refused
deriving Repr

namespace Tree

def missing : Tree := .scalar "" true

/-- A failure at the start of some tokens. -/
def refuse {α : Type} : List Token → Except Trouble α
  | .broken t :: _ => .error t
  | _ => malformed

/-! ## Nodes -/

/-- Whether a node begins with these tokens; where none does, it is missing. -/
def startsNode : List Token → Bool
  | .scalar .. :: _ | .flowSequenceStart :: _ | .flowMappingStart :: _ | .sequenceStart :: _
  | .mappingStart :: _ => true
  | _ => false

/-- What a block holds, if its end comes next. -/
def closed (r : Tree × List Token) : Except Trouble (Tree × List Token) :=
  match r.2 with
  | .blockEnd :: ts => .ok (r.1, ts)
  | ts => refuse ts

mutual
/-- A node. Where it may be a list without indentation of its own, `loose`
says so. -/
def node : Nat → Bool → List Token → Except Trouble (Tree × List Token)
  | 0, _, _ => malformed
  | fuel + 1, loose, ts =>
    match ts with
    | .scalar text plain :: ts => .ok (.scalar text plain, ts)
    | .flowSequenceStart :: .flowSequenceEnd :: ts => .ok (.sequence [], ts)
    | .flowSequenceStart :: ts => do
      let (items, ts) ← flowItems fuel ts
      return (.sequence items, ts)
    | .flowMappingStart :: .flowMappingEnd :: ts => .ok (.mapping [], ts)
    | .flowMappingStart :: ts => do
      let (entries, ts) ← flowEntries fuel ts
      return (.mapping entries, ts)
    | .sequenceStart :: ts => do
      let (items, ts) ← blockItems fuel ts
      closed (.sequence items, ts)
    | .mappingStart :: ts => do
      let (entries, ts) ← blockEntries fuel ts
      closed (.mapping entries, ts)
    | .blockEntry :: ts =>
      if loose then do
        let (items, ts) ← blockItems fuel (.blockEntry :: ts)
        return (.sequence items, ts)
      else malformed
    | ts => refuse ts
/-- A node, which may be missing. -/
def nodeOrMissing : Nat → Bool → List Token → Except Trouble (Tree × List Token)
  | 0, _, _ => malformed
  | fuel + 1, loose, ts =>
    if startsNode ts || (loose && ts.head? == some .blockEntry) then node fuel loose ts
    else .ok (missing, ts)
/-- Items with a dash in front of each. -/
def blockItems : Nat → List Token → Except Trouble (List Tree × List Token)
  | 0, _ => malformed
  | fuel + 1, ts =>
    match ts with
    | .blockEntry :: ts => do
      let (t, ts) ← nodeOrMissing fuel false ts
      let (more, ts) ← blockItems fuel ts
      return (t :: more, ts)
    | ts => .ok ([], ts)
/-- The value behind a colon, which may be missing with it. -/
def blockValue : Nat → List Token → Except Trouble (Tree × List Token)
  | 0, _ => malformed
  | fuel + 1, ts =>
    match ts with
    | .value :: ts => nodeOrMissing fuel true ts
    | ts => .ok (missing, ts)
/-- Entries of a block mapping. -/
def blockEntries : Nat → List Token → Except Trouble (List (Tree × Tree) × List Token)
  | 0, _ => malformed
  | fuel + 1, ts =>
    match ts with
    | .key :: ts => do
      let (k, ts) ← nodeOrMissing fuel true ts
      let (v, ts) ← blockValue fuel ts
      let (more, ts) ← blockEntries fuel ts
      return ((k, v) :: more, ts)
    | ts => .ok ([], ts)
/-- The value behind a colon in brackets or braces, which may be missing. -/
def flowValue : Nat → List Token → Except Trouble (Tree × List Token)
  | 0, _ => malformed
  | fuel + 1, ts =>
    match ts with
    | .value :: ts =>
      match ts with
      | .flowEntry :: _ | .flowSequenceEnd :: _ | .flowMappingEnd :: _ => .ok (missing, ts)
      | ts => node fuel false ts
    | ts => .ok (missing, ts)
/-- The key in front of a colon in brackets or braces, which may be missing. -/
def flowKey : Nat → List Token → Except Trouble (Tree × List Token)
  | 0, _ => malformed
  | fuel + 1, ts =>
    match ts with
    | .value :: _ | .flowEntry :: _ | .flowSequenceEnd :: _ | .flowMappingEnd :: _ =>
      .ok (missing, ts)
    | ts => node fuel false ts
/-- Items of a list in brackets; a pair with a colon is a mapping of one
entry. -/
def flowItems : Nat → List Token → Except Trouble (List Tree × List Token)
  | 0, _ => malformed
  | fuel + 1, ts => do
    let (t, ts) ← match ts with
      | .key :: ts => do
        let (k, ts) ← flowKey fuel ts
        let (v, ts) ← flowValue fuel ts
        pure (Tree.mapping [(k, v)], ts)
      | ts => node fuel false ts
    match ts with
    | .flowEntry :: .flowSequenceEnd :: ts => return ([t], ts)
    | .flowEntry :: ts =>
      let (more, ts) ← flowItems fuel ts
      return (t :: more, ts)
    | .flowSequenceEnd :: ts => return ([t], ts)
    | ts => refuse ts
/-- Entries of a mapping in braces; a key without a colon has no value. -/
def flowEntries : Nat → List Token → Except Trouble (List (Tree × Tree) × List Token)
  | 0, _ => malformed
  | fuel + 1, ts => do
    let (entry, ts) ← match ts with
      | .key :: ts => do
        let (k, ts) ← flowKey fuel ts
        let (v, ts) ← flowValue fuel ts
        pure ((k, v), ts)
      | ts => do
        let (k, ts) ← node fuel false ts
        pure ((k, missing), ts)
    match ts with
    | .flowEntry :: .flowMappingEnd :: ts => return ([entry], ts)
    | .flowEntry :: ts =>
      let (more, ts) ← flowEntries fuel ts
      return (entry :: more, ts)
    | .flowMappingEnd :: ts => return ([entry], ts)
    | ts => refuse ts
end

/-! ## Documents -/

/-- A document behind its start marker, which may be empty. -/
def document (fuel : Nat) (ts : List Token) : Except Trouble (Tree × List Token) :=
  match ts with
  | [] | .documentStart :: _ | .documentEnd :: _ => .ok (missing, ts)
  | ts => node fuel false ts

/-- The tree of the only document among the tokens; an empty scalar for
none. Only a document that has begun can end. -/
def ofTokens (ts : List Token) : Except Trouble Tree := do
  let fuel := 4 * ts.length + 4
  let (t, rest) ← match ts with
    | [] => .ok (missing, [])
    | .documentStart :: body => document fuel body
    | body => node fuel false body
  match rest.dropWhile (· == .documentEnd) with
  | [] => return t
  | rest => refuse rest

end Tree
end Rulebook.Yaml

-- Tokens of YAML text. Blocks open where a line is indented further and
-- close where one is indented less. A key shows only at the colon behind
-- it, so its token is put in front of what was read since.
import Rulebook.Document.Yaml.Trouble
import Rulebook.Json.Reader

namespace Rulebook.Yaml

inductive Token where
  | documentStart
  | documentEnd
  | sequenceStart
  | mappingStart
  | blockEnd
  | flowSequenceStart
  | flowSequenceEnd
  | flowMappingStart
  | flowMappingEnd
  | blockEntry
  | flowEntry
  | key
  | value
  /-- A scalar; a plain one has no quotes around it. -/
  | scalar (text : String) (plain : Bool)
  /-- What could not be read, behind the tokens that were known before. -/
  | broken (t : Trouble)
deriving DecidableEq, Repr

/-! ## Characters -/

def isBreak (c : Char) : Bool :=
  c == '\n' || c == '\r' || c == '\x85' || c == '\u2028' || c == '\u2029'

/-- White space, or a line break. -/
def isSpace (c : Char) : Bool := c == ' ' || c == '\t' || isBreak c

/-- Whether a text is at its end or goes on with white space. -/
def atSpace : List Char → Bool
  | [] => true
  | c :: _ => isSpace c

/-- Characters that may stand in a document at all. -/
def isAllowed (c : Char) : Bool :=
  let n := c.toNat
  n == 9 || n == 10 || n == 13 || (0x20 ≤ n && n ≤ 0x7e) || n == 0x85 || (0xa0 ≤ n && n ≤ 0xd7ff)
    || (0xe000 ≤ n && n ≤ 0xfffd) || 0x10000 ≤ n

/-! ## The state of scanning -/

/-- A place where a key may have begun. -/
structure KeyMark where
  tokens : Nat
  /-- Whether something must follow it as behind a key. -/
  required : Bool
  index : Nat
  line : Nat
  column : Nat

structure Scan where
  rest : List Char
  index : Nat
  line : Nat
  column : Nat
  indent : Int
  indents : List Int
  /-- How many brackets and braces are open. -/
  flow : Nat
  allowKey : Bool
  /-- The possible keys, by the number of open brackets and braces. -/
  marks : List (Nat × KeyMark)
  /-- The tokens, the latest first. -/
  tokens : List Token

namespace Scan

def start (text : List Char) : Scan := ⟨text, 0, 0, 0, -1, [], 0, true, [], []⟩

/-- Passes over one character. -/
def advance (s : Scan) : Scan :=
  match s.rest with
  | [] => s
  | c :: rest =>
    let s := { s with rest := rest, index := s.index + 1 }
    if isBreak c && !(c == '\r' && rest.head? == some '\n') then
      { s with line := s.line + 1, column := 0 }
    else if c == '\ufeff' then s
    else { s with column := s.column + 1 }

def advanceBy : Nat → Scan → Scan
  | 0, s => s
  | n + 1, s => advanceBy n s.advance

def emit (t : Token) (s : Scan) : Scan := { s with tokens := t :: s.tokens }

/-- Puts tokens behind the first `place` ones. -/
def insert (place : Nat) (ts : List Token) (s : Scan) : Scan :=
  let later := s.tokens.length - place
  { s with tokens := s.tokens.take later ++ ts.reverse ++ s.tokens.drop later }

/-- Passes over a line break; `\r\n` is one. The break counts as a line feed
unless it is one of the two separators. -/
def lineBreak (s : Scan) : List Char × Scan :=
  match s.rest with
  | '\r' :: '\n' :: _ => (['\n'], advanceBy 2 s)
  | c :: _ =>
    if c == '\u2028' || c == '\u2029' then ([c], s.advance)
    else if isBreak c then (['\n'], s.advance)
    else ([], s)
  | [] => ([], s)

/-! ## Indentation -/

/-- Opens a block at a column that is further in. -/
def openBlock (column : Nat) (s : Scan) : Option Scan :=
  if s.indent < column then
    some { s with indents := s.indent :: s.indents, indent := column }
  else none

/-- Closes the blocks that are further in than a column. -/
def unwind (column : Int) (s : Scan) : Scan :=
  if s.flow ≠ 0 then s else go s.indents s
where
  go : List Int → Scan → Scan
    | [], s => s
    | i :: rest, s =>
      if column < s.indent then go rest ({ s with indent := i, indents := rest }.emit .blockEnd) else s

/-! ## Possible keys -/

/-- Gives up the possible key at the current nesting, unless it is required. -/
def dropMark (s : Scan) : Except Trouble Scan :=
  match s.marks.lookup s.flow with
  | some m =>
    if m.required then malformed else .ok { s with marks := s.marks.filter (·.1 != s.flow) }
  | none => .ok s

/-- Whether a possible key is of an earlier line or too far back. -/
def isStale (s : Scan) (m : KeyMark) : Bool := m.line != s.line || 1024 < s.index - m.index

/-- Gives up the possible keys of earlier lines and those too far back. -/
def dropStale (s : Scan) : Except Trouble Scan :=
  if s.marks.any fun e => s.isStale e.2 && e.2.required then malformed
  else .ok { s with marks := s.marks.filter fun e => !s.isStale e.2 }

/-- How many tokens are known for certain: those in front of every possible
key, which may yet get a token in front of it. -/
def settled (s : Scan) : Nat :=
  (s.marks.filter fun e => !s.isStale e.2).foldl (fun n e => min n e.2.tokens) s.tokens.length

/-- Notes that a key may begin here. -/
def mark (s : Scan) : Except Trouble Scan :=
  if s.allowKey then do
    let s ← s.dropMark
    let m : KeyMark :=
      ⟨s.tokens.length, s.flow == 0 && s.indent == s.column, s.index, s.line, s.column⟩
    return { s with marks := (s.flow, m) :: s.marks }
  else .ok s

/-! ## Space between tokens -/

/-- Passes over spaces, comments and line ends. -/
def skip : Nat → Scan → Scan
  | 0, s => s
  | fuel + 1, s =>
    let s := advanceBy (s.rest.takeWhile (· == ' ')).length s
    let s := match s.rest with
      | '#' :: _ => advanceBy (s.rest.takeWhile fun c => !isBreak c).length s
      | _ => s
    match s.lineBreak with
    | ([], s) => s
    | (_, s) => skip fuel (if s.flow = 0 then { s with allowKey := true } else s)

/-- Whether a line starts with the three characters of a document marker. -/
def atMarker (c : Char) (s : Scan) : Bool :=
  s.column == 0 && s.rest.take 3 == [c, c, c] && atSpace (s.rest.drop 3)

def atAnyMarker (cs : List Char) : Bool :=
  (cs.take 3 == ['-', '-', '-'] || cs.take 3 == ['.', '.', '.']) && atSpace (cs.drop 3)

/-! ## Plain scalars -/

/-- Whether a plain scalar ends before a text. -/
def plainEnds (inFlow : Bool) : List Char → Bool
  | [] => true
  | c :: rest =>
    isSpace c
      || (c == ':' && (atSpace rest || (inFlow && (rest.head?.any fun d => ",[]\x7b\x7d".contains d))))
      || (inFlow && ",?[]\x7b\x7d".contains c)

/-- The characters up to the end of a plain scalar on its line. -/
def plainRun (inFlow : Bool) : List Char → List Char
  | [] => []
  | c :: rest => if plainEnds inFlow (c :: rest) then [] else c :: plainRun inFlow rest

/-- Empty lines and indentation inside a scalar. None if a document marker
comes up. -/
def plainBreaks : Nat → Scan → Option (List Char) × Scan
  | 0, s => (some [], s)
  | fuel + 1, s =>
    match s.rest with
    | ' ' :: _ => plainBreaks fuel s.advance
    | c :: _ =>
      if isBreak c then
        let (b, s) := s.lineBreak
        if atAnyMarker s.rest then (none, s)
        else match plainBreaks fuel s with
          | (some bs, s) => (some (b ++ bs), s)
          | (none, s) => (none, s)
      else (some [], s)
    | [] => (some [], s)

/-- A line break and the breaks behind it, as text: one break is a space. -/
def folded (first breaks : List Char) : List Char :=
  (if first != ['\n'] then first else if breaks.isEmpty then [' '] else []) ++ breaks

/-- The white space behind a part of a plain scalar, as it counts if the
scalar goes on. -/
def plainGap (s : Scan) : List Char × Scan :=
  let spaces := s.rest.takeWhile (· == ' ')
  let s := advanceBy spaces.length s
  match s.rest with
  | c :: _ =>
    if isBreak c then
      let (first, s) := s.lineBreak
      let s := { s with allowKey := true }
      if atAnyMarker s.rest then ([], s)
      else match plainBreaks (s.rest.length + 1) s with
        | (some breaks, s) => (folded first breaks, s)
        | (none, s) => ([], s)
    else (spaces, s)
  | [] => (spaces, s)

/-- A plain scalar, over as many lines as are indented for it. -/
def plainText : Nat → List Char → Scan → List Char × Scan
  | 0, _, s => ([], s)
  | fuel + 1, gap, s =>
    if s.rest.head? == some '#' then ([], s)
    else
      let run := plainRun (s.flow != 0) s.rest
      if run.isEmpty then ([], s)
      else
        let column := s.indent + 1
        let s := advanceBy run.length { s with allowKey := false }
        let (next, s) := s.plainGap
        if next.isEmpty || s.rest.head? == some '#' || (s.flow == 0 && (s.column : Int) < column) then
          (gap ++ run, s)
        else
          let (more, s) := plainText fuel next s
          (gap ++ run ++ more, s)

/-! ## Quoted scalars -/

/-- What an escape of one letter stands for. -/
def escaped? : Char → Option Char
  | '0' => some '\x00'
  | 'a' => some '\x07'
  | 'b' => some '\x08'
  | 't' => some '\t'
  | '\t' => some '\t'
  | 'n' => some '\n'
  | 'v' => some '\x0b'
  | 'f' => some '\x0c'
  | 'r' => some '\r'
  | 'e' => some '\x1b'
  | ' ' => some ' '
  | '"' => some '"'
  | '\\' => some '\\'
  | '/' => some '/'
  | 'N' => some '\x85'
  | '_' => some '\xa0'
  | 'L' => some '\u2028'
  | 'P' => some '\u2029'
  | _ => none

/-- How many digits an escape by number has. -/
def numberWidth? : Char → Option Nat
  | 'x' => some 2
  | 'u' => some 4
  | 'U' => some 8
  | _ => none

def hexValue? (cs : List Char) : Option Nat :=
  cs.foldl (fun acc c => acc.bind fun n => (Json.hexValue? c).map fun d => 16 * n + d) (some 0)

/-- Line breaks between the lines of a quoted scalar. -/
def quotedBreaks : Nat → Scan → Except Trouble (List Char × Scan)
  | 0, _ => malformed
  | fuel + 1, s =>
    if atAnyMarker s.rest then malformed
    else
      let s := advanceBy (s.rest.takeWhile fun c => c == ' ' || c == '\t').length s
      match s.lineBreak with
      | ([], s) => .ok ([], s)
      | (b, s) => do
        let (bs, s) ← quotedBreaks fuel s
        return (b ++ bs, s)

/-- The character with a number given by its digits in base sixteen. -/
def numbered (digits : List Char) : Except Trouble Char :=
  match hexValue? digits with
  | none => malformed
  | some n =>
    if 0x7fffffff < n then .error .characterOverflow
    else if 0x10ffff < n then .error .characterTooLarge
    else .ok (Char.ofNat n)

/-- The text up to the closing quote. -/
def quotedText (double : Bool) : Nat → Scan → Except Trouble (List Char × Scan)
  | 0, _ => malformed
  | fuel + 1, s =>
    match s.rest with
    | [] => malformed
    | '\'' :: '\'' :: _ =>
      if double then (quotedText double fuel s.advance).map fun r => ('\'' :: r.1, r.2)
      else (quotedText double fuel (advanceBy 2 s)).map fun r => ('\'' :: r.1, r.2)
    | '\\' :: c :: rest =>
      if !double then (quotedText double fuel s.advance).map fun r => ('\\' :: r.1, r.2)
      else match escaped? c with
        | some e => (quotedText double fuel (advanceBy 2 s)).map fun r => (e :: r.1, r.2)
        | none => match numberWidth? c with
          | some width => do
            let digits := rest.take width
            let e ← if digits.length = width then numbered digits else malformed
            let r ← quotedText double fuel (advanceBy (width + 2) s)
            return (e :: r.1, r.2)
          | none =>
            if isBreak c then do
              let (breaks, s) ← quotedBreaks fuel s.advance.lineBreak.2
              let r ← quotedText double fuel s
              return (breaks ++ r.1, r.2)
            else malformed
    | c :: _ =>
      if c == (if double then '"' else '\'') then .ok ([], s.advance)
      else if c == ' ' || c == '\t' || isBreak c then
        let spaces := s.rest.takeWhile fun c => c == ' ' || c == '\t'
        let s := advanceBy spaces.length s
        match s.lineBreak with
        | ([], s) => (quotedText double fuel s).map fun r => (spaces ++ r.1, r.2)
        | (first, s) => do
          let (breaks, s) ← quotedBreaks fuel s
          let r ← quotedText double fuel s
          return (folded first breaks ++ r.1, r.2)
      else (quotedText double fuel s.advance).map fun r => (c :: r.1, r.2)

/-! ## One token -/

/-- Passes over one character and gives its token. -/
def symbol (t : Token) (s : Scan) : Scan := s.advance.emit t

/-- The end of the text, or the marker of a document's end or start. -/
def closeAll (s : Scan) : Except Trouble Scan := do
  let s ← (s.unwind (-1)).dropMark
  return { s with allowKey := false }

def openFlow (t : Token) (s : Scan) : Except Trouble Scan := do
  let s ← s.mark
  return { s with flow := s.flow + 1, allowKey := true }.symbol t

def closeFlow (t : Token) (s : Scan) : Except Trouble Scan := do
  let s ← s.dropMark
  if s.flow = 0 then malformed
  else return { s with flow := s.flow - 1, allowKey := false }.symbol t

def flowComma (s : Scan) : Except Trouble Scan := do
  return ({ ← s.dropMark with allowKey := true }).symbol .flowEntry

/-- A dash in front of an item. In brackets it is left for the reader of the
tokens to refuse. -/
def dash (s : Scan) : Except Trouble Scan := do
  let s ←
    if s.flow ≠ 0 then .ok s
    else if !s.allowKey then malformed
    else .ok (((s.openBlock s.column).map (emit .sequenceStart)).getD s)
  return ({ ← s.dropMark with allowKey := true }).symbol .blockEntry

/-- A question mark in front of a key. -/
def question (s : Scan) : Except Trouble Scan := do
  let s ←
    if s.flow ≠ 0 then .ok s
    else if !s.allowKey then malformed
    else .ok (((s.openBlock s.column).map (emit .mappingStart)).getD s)
  return ({ ← s.dropMark with allowKey := s.flow == 0 }).symbol .key

/-- A colon in front of a value: behind a possible key, or on its own. -/
def colon (s : Scan) : Except Trouble Scan :=
  match s.marks.lookup s.flow with
  | some m =>
    let s := { s with marks := s.marks.filter (·.1 != s.flow), allowKey := false }
    let s := match if s.flow = 0 then s.openBlock m.column else none with
      | some s => s.insert m.tokens [.mappingStart, .key]
      | none => s.insert m.tokens [.key]
    .ok (s.symbol .value)
  | none => do
    let s ←
      if s.flow ≠ 0 then .ok s
      else if !s.allowKey then malformed
      else .ok (((s.openBlock s.column).map (emit .mappingStart)).getD s)
    return ({ ← s.dropMark with allowKey := s.flow == 0 }).symbol .value

def quoted (double : Bool) (s : Scan) : Except Trouble Scan := do
  let s ← s.mark
  let (text, s) ← quotedText double (s.rest.length + 1) { s with allowKey := false }.advance
  return s.emit (.scalar (String.ofList text) false)

def plain (s : Scan) : Except Trouble Scan := do
  let s ← s.mark
  let (text, s) := plainText (s.rest.length + 1) [] { s with allowKey := false }
  return s.emit (.scalar (String.ofList text) true)

/-- Whether a plain scalar may begin a text. -/
def plainBegins (inFlow : Bool) : List Char → Bool
  | [] => false
  | c :: rest =>
    !(isSpace c || "-?:,[]\x7b\x7d#&*!|>'\"%@\x60".contains c)
      || (!atSpace rest && (c == '-' || (!inFlow && (c == '?' || c == ':'))))

/-- The next token of a text that is not at its end. -/
def next (s : Scan) : Except Trouble Scan := do
  let s ← s.dropStale
  let s := s.unwind s.column
  match s.rest with
  | [] => malformed
  | c :: rest =>
    if s.atMarker '-' then return (advanceBy 3 (← s.closeAll)).emit .documentStart
    else if s.atMarker '.' then return (advanceBy 3 (← s.closeAll)).emit .documentEnd
    else if c == '[' then s.openFlow .flowSequenceStart
    else if c == '{' then s.openFlow .flowMappingStart
    else if c == ']' then s.closeFlow .flowSequenceEnd
    else if c == '}' then s.closeFlow .flowMappingEnd
    else if c == ',' then s.flowComma
    else if c == '-' && atSpace rest then s.dash
    else if c == '?' && (s.flow ≠ 0 || atSpace rest) then s.question
    else if c == ':' && (s.flow ≠ 0 || atSpace rest) then s.colon
    else if c == '\'' then s.quoted false
    else if c == '"' then s.quoted true
    else if plainBegins (s.flow != 0) s.rest then s.plain
    else malformed

/-- All tokens. Each of them takes at least one character. Where reading
breaks off for a reason of its own, the tokens known for certain are given
and the reason behind them. -/
def all : Nat → Scan → Except Trouble (List Token)
  | 0, _ => malformed
  | fuel + 1, s =>
    let known := s.settled
    let s := skip (s.rest.length + 1) s
    if s.rest.isEmpty then do
      let s ← (← s.dropStale).closeAll
      return s.tokens.reverse
    else match s.next with
      | .ok s => all fuel s
      | .error .malformed => malformed
      | .error t => .ok (s.tokens.reverse.take known ++ [.broken t])

end Scan

/-- The tokens of a text, unless it has a character or a turn that YAML does
not know. A byte order mark in front is passed over. -/
def Token.scan (text : String) : Except Trouble (List Token) :=
  let cs := text.toList
  let cs := match cs with
    | '\ufeff' :: rest => rest
    | _ => cs
  if text.toList.all isAllowed then (Scan.start cs).all (cs.length + 2) else malformed

end Rulebook.Yaml

-- UTF-8 bytes read as text. The first byte of a character says how many
-- follow and what the second one may be, so overlong forms and surrogates
-- are refused at their second byte.
import Rulebook.Fault

namespace Rulebook.Utf8

/-! ## Failures -/

/-- Why bytes are not text. -/
inductive Trouble where
  | start
  | continuation
  | truncated
deriving DecidableEq, Repr

def Trouble.message : Trouble → String
  | .start => "invalid start byte"
  | .continuation => "invalid continuation byte"
  | .truncated => "unexpected end of data"

/-- The bytes that could not be read: `count` of them, the first one at a
position. -/
structure Fault where
  trouble : Trouble
  first : UInt8
  position : Nat
  count : Nat
deriving DecidableEq, Repr

def hexByte (b : UInt8) : String :=
  String.ofList (Text.hexDigits 2 b.toNat)

def Fault.message (f : Fault) : String :=
  "'utf-8' codec can't decode "
    ++ (if f.count ≤ 1 then
          "byte 0x" ++ hexByte f.first ++ " in position " ++ toString f.position
        else
          "bytes in position " ++ toString f.position ++ "-"
            ++ toString (f.position + f.count - 1))
    ++ ": " ++ f.trouble.message

/-! ## Characters of several bytes -/

/-- A character that has begun. -/
structure Pending where
  first : UInt8
  position : Nat
  /-- How many of its bytes are read. -/
  taken : Nat
  /-- What they say of the code point. -/
  code : Nat
  /-- How many bytes are still to come. -/
  missing : Nat
  /-- The bounds of the next byte. -/
  low : UInt8
  high : UInt8
deriving Repr

/-- The character that a byte begins, if any. -/
def begin? (position : Nat) (b : UInt8) : Option Pending :=
  let n := b.toNat
  if 0xc2 ≤ n ∧ n < 0xe0 then some ⟨b, position, 1, n - 0xc0, 1, 0x80, 0xbf⟩
  else if 0xe0 ≤ n ∧ n < 0xf0 then
    some ⟨b, position, 1, n - 0xe0, 2, if n = 0xe0 then 0xa0 else 0x80,
      if n = 0xed then 0x9f else 0xbf⟩
  else if 0xf0 ≤ n ∧ n < 0xf5 then
    some ⟨b, position, 1, n - 0xf0, 3, if n = 0xf0 then 0x90 else 0x80,
      if n = 0xf4 then 0x8f else 0xbf⟩
  else none

namespace Pending

def fault (p : Pending) (t : Trouble) : Fault := ⟨t, p.first, p.position, p.taken⟩

/-- The character with one more byte, which has only the common bounds
behind it. -/
def push (p : Pending) (b : UInt8) : Pending :=
  { p with
    taken := p.taken + 1
    code := p.code * 64 + b.toNat % 64
    missing := p.missing - 1
    low := 0x80
    high := 0xbf }

end Pending

/-! ## Decoding -/

/-- The characters of bytes at a position, behind a character that has begun
or between two. -/
def charsFrom (position : Nat) : Option Pending → List UInt8 → Except Fault (List Char)
  | none, [] => .ok []
  | some p, [] => .error (p.fault .truncated)
  | none, b :: bs =>
    if b < 0x80 then (charsFrom (position + 1) none bs).map (Char.ofNat b.toNat :: ·)
    else match begin? position b with
      | some p => charsFrom (position + 1) (some p) bs
      | none => .error ⟨.start, b, position, 1⟩
  | some p, b :: bs =>
    if b < p.low ∨ p.high < b then .error (p.fault .continuation)
    else
      let p := p.push b
      if p.missing = 0 then
        (charsFrom (position + 1) none bs).map (Char.ofNat p.code :: ·)
      else charsFrom (position + 1) (some p) bs

/-- The text that bytes spell. -/
def decode (bytes : List UInt8) : Except Fault String :=
  (charsFrom 0 none bytes).map String.ofList

end Rulebook.Utf8

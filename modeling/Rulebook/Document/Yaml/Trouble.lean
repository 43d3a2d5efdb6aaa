-- Why a YAML text gives no value: its form, or a scalar that is written as a
-- number or a character that there is not.
import Rulebook.Number.Limit

namespace Rulebook.Yaml

inductive Trouble where
  /-- The text is no YAML document, or one of a form that is not read. -/
  | malformed
  | longInteger (digits : Nat)
  /-- An integer in some base without digits. -/
  | noDigits (base : Nat)
  /-- An integer beyond the largest double where one is needed. -/
  | integerTooLarge
  /-- The number of a character beyond the last one. -/
  | characterTooLarge
  /-- The same, beyond 31 bits. -/
  | characterOverflow
deriving DecidableEq, Repr

namespace Trouble

def message : Trouble → String
  | .malformed => "Failed to parse"
  | .longInteger n => Number.tooManyDigits n
  | .noDigits base => "invalid literal for int() with base " ++ toString base ++ ": ''"
  | .integerTooLarge => "int too large to convert to float"
  | .characterTooLarge => "chr() arg not in range(0x110000)"
  | .characterOverflow => "Python int too large to convert to C int"

/-- Whether a number has left the range of the machine. -/
def isOverflow : Trouble → Bool
  | .integerTooLarge | .characterOverflow => true
  | _ => false

end Trouble

def malformed {α : Type} : Except Trouble α := .error .malformed

end Rulebook.Yaml

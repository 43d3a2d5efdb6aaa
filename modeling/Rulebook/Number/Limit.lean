-- The limit on the decimal digits that integers are read from and written
-- with. Longer integers can be calculated with but have no text.

namespace Rulebook.Number

/-- The most decimal digits that an integer may be read from or written with. -/
def digitLimit : Nat := 4300

/-- Whether an integer is short enough to be written. -/
def isWritable (n : Int) : Bool := n.natAbs < Nat.pow 10 digitLimit

def exceeded : String :=
  "Exceeds the limit (" ++ toString digitLimit ++ " digits) for integer string conversion"

def remedy : String := "; use sys.set_int_max_str_digits() to increase the limit"

/-- What is wrong with reading an integer from more digits than that. -/
def tooManyDigits (count : Nat) : String :=
  exceeded ++ ": value has " ++ toString count ++ " digits" ++ remedy

/-- What is wrong with writing an integer that is longer than that. -/
def notWritable : String := exceeded ++ remedy

end Rulebook.Number

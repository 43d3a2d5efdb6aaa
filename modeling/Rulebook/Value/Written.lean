-- The text of a value where it is wanted: one with an integer that is too
-- long in it has none.
import Rulebook.Fault
import Rulebook.Value.Text

namespace Rulebook.Value

def written (v : Value) : Except Fault String :=
  if v.writable then .ok v.toText else .error .unwritable

end Rulebook.Value

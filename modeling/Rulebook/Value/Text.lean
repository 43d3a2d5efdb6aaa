-- The text of a value inside other text: JSON spelling for scalars, whole
-- doubles without a fraction, and compact JSON for collections.
import Rulebook.Json.Writer

namespace Rulebook.Value

def floatText (x : Double) : String :=
  match x.toInt? with
  | some n => toString n
  | none => x.text

def toText : Value → String
  | .undefined => "undefined"
  | .null => "null"
  | .bool b => if b then "true" else "false"
  | .int n => toString n
  | .float x => floatText x
  | .text s => s
  | .list xs => Json.text Json.compact (Value.list xs).toJson
  | .object fs => Json.text Json.compact (Value.object fs).toJson
  | .foreign f => f.text

end Rulebook.Value

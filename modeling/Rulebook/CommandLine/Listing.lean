-- The table of operations on a screen: names, groups, and descriptions
-- that take what the first two columns leave.
import Rulebook.Operation
import Rulebook.Text.Markup
import Rulebook.Text.Wrap

namespace Rulebook.CommandLine

/-- The cells in one line of the screen. -/
def screenWidth : Nat := 80

/-! ## Rows -/

/-- The widest of some texts. -/
def widest (texts : List String) : Nat := (texts.map fun t => Text.cells t.toList).foldl max 0

/-- What the borders and gaps of three columns take. -/
def frameWidth : Nat := 10

/-- The lines of a description, without white space at either end. -/
def describe (width : Nat) (description : String) : List String :=
  (Text.wrap width (Markup.plain description)).map fun l => String.ofList (l.toList.dropWhile Text.isBlank)

/-- The rows of one operation; only the first has its name and group. -/
def rowsOf (width : Nat) (o : Operation) : List (List String) :=
  match describe width o.description with
  | [] => [[o.name, o.category.name, ""]]
  | l :: ls => [o.name, o.category.name, l] :: ls.map fun m => ["", "", m]

/-- The rows of a table of operations. -/
def listing (operations : List Operation) : List (List String) :=
  let left := widest (operations.map fun o => o.name)
    + widest (operations.map fun o => o.category.name) + frameWidth
  operations.flatMap (rowsOf (screenWidth - left))

/-- A cell filled up to the width of its column. -/
def padded (width : Nat) (cell : String) : String :=
  cell ++ String.ofList (List.replicate (width - Text.cells cell.toList) ' ')

/-- The cells of a row side by side. -/
def rowLine (widths : List Nat) (row : List String) : String :=
  String.join ((widths.zip row).map fun e => padded e.1 e.2 ++ "  ")

/-- The lines of a table whose rows have three cells each. -/
def tableLines (rows : List (List String)) : List String :=
  let widths := (List.range 3).map fun i => widest (rows.map fun r => r.getD i "")
  rows.map (rowLine widths)

end Rulebook.CommandLine

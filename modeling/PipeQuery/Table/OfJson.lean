import PipeQuery.Json.Printer
import PipeQuery.Json.Reader
import PipeQuery.Table.Basic

/-! Tables from JSON. A list whose first item is an object gives a row per item and a column
per name; any other list gives one column of values. An object that holds such a list stands
for it, and any other object is one row. -/

namespace PipeQuery.Table

/-- The column of values without a name of their own. -/
def valueColumn : String := "value"

/-- The text of a cell. Lists and objects keep their JSON text, and null is empty. -/
def cellText : Json → String
  | .null => ""
  | .bool b => if b then "true" else "false"
  | .number n => n.text
  | .string s => s
  | x => x.compact

/-- The members of an object; other values have none. -/
def membersOf : Json → List (String × Json)
  | .object members => members
  | _ => []

/-- The list starts with an object. -/
def areRecords : List Json → Bool
  | .object _ :: _ => true
  | _ => false

/-- Appends the names that are not there yet. -/
def addNames (names : List String) : List String → List String
  | [] => names
  | n :: more => addNames (if n ∈ names then names else names ++ [n]) more

/-- All names of the objects, in the order in which they first come. -/
def columnsOf (items : List Json) : List String :=
  items.foldl (fun names x => addNames names ((membersOf x).map (·.1))) []

/-- The cells of an item under the given columns. -/
def recordRow (columns : List String) (item : Json) : List String :=
  columns.map fun c => ((membersOf item).lookup c).elim "" cellText

/-- The table of a list. -/
def ofItems (items : List Json) : Table :=
  if items.isEmpty then empty
  else if areRecords items then
    let columns := columnsOf items
    ofRows columns (items.map (recordRow columns))
  else ofRows [valueColumn] (items.map fun x => [cellText x])

/-- The first list among the members that starts with an object. -/
def wrapped? : List (String × Json) → Option (List Json)
  | [] => none
  | (_, .array items) :: rest => if areRecords items then some items else wrapped? rest
  | _ :: rest => wrapped? rest

/-- The table of a JSON value. -/
def ofJson : Json → Table
  | .null => empty
  | .array items => ofItems items
  | .object members =>
    match wrapped? members with
    | some items => ofItems items
    | none => ofRows (members.map (·.1)) [members.map fun (_, x) => cellText x]
  | x => ofRows [valueColumn] [[cellText x]]

/-- The table of a JSON text; a text that is no JSON gives a failed table. -/
def ofText (json : String) (milliseconds : Int) : Table :=
  (match Json.parse json with
    | .ok x => ofJson x
    | .error e => failed s!"Invalid JSON: {e.text}").withExecutionTime milliseconds

end PipeQuery.Table

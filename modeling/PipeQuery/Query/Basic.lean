import PipeQuery.Query.Value
import PipeQuery.Unicode.Lowercase

/-! Queries: a call of a tool and the operators that its table of results goes through. -/

namespace PipeQuery

/-! ### Conditions -/

/-- The comparisons of a condition. -/
inductive Comparator
  | equal | notEqual | greater | greaterEqual | less | lessEqual
  | contains | startsWith | endsWith | has | matches
deriving DecidableEq, Repr

namespace Comparator

/-- All comparators. -/
def all : List Comparator :=
  [.equal, .notEqual, .greater, .greaterEqual, .less, .lessEqual,
   .contains, .startsWith, .endsWith, .has, .matches]

/-- The spelling of a comparator. -/
def symbol : Comparator → String
  | .equal => "=="
  | .notEqual => "!="
  | .greater => ">"
  | .greaterEqual => ">="
  | .less => "<"
  | .lessEqual => "<="
  | .contains => "contains"
  | .startsWith => "startswith"
  | .endsWith => "endswith"
  | .has => "has"
  | .matches => "matches"

/-- The comparator of a spelling; the case of a word does not matter. -/
def ofText? (text : String) : Option Comparator :=
  let word := Unicode.lowercase text
  all.find? fun c => c.symbol = word

/-- The comparators that follow an order, of numbers where both sides are numbers. -/
def isOrdering : Comparator → Bool
  | .equal | .notEqual | .greater | .greaterEqual | .less | .lessEqual => true
  | _ => false

end Comparator

/-- A test of one column. The value is a text; whether it is a number is seen when a cell is
compared with it. -/
structure Condition where
  column : String
  comparator : Comparator
  value : String
deriving DecidableEq, Repr

/-! ### Operators -/

/-- A step that makes a table from a table. -/
inductive Operator
  /-- Keeps the rows on which all conditions hold. -/
  | filter (conditions : List Condition)
  /-- Keeps the named columns in the given order. -/
  | project (columns : List String)
  /-- Keeps the first rows. -/
  | take (count : Nat)
  /-- Sorts by one column, rows of equal keys in their order. -/
  | sort (column : String) (ascending : Bool)
  /-- Replaces the table by its number of rows. -/
  | count
  /-- Sets a column to the values of another one, or to a text. -/
  | extend (column : String) (expression : String)
deriving DecidableEq, Repr

/-- The keyword of an operator. -/
def Operator.name : Operator → String
  | .filter _ => "where"
  | .project _ => "project"
  | .take _ => "take"
  | .sort _ _ => "sort"
  | .count => "count"
  | .extend _ _ => "extend"

/-! ### Queries -/

/-- A call of a provider's tool and the operators on its result, first to last. -/
structure Query where
  provider : String
  tool : String
  parameters : Parameters
  operators : List Operator
deriving DecidableEq

namespace Query

/-- Equality of queries, where parameters are compared as values by name. -/
def equals (p q : Query) : Bool :=
  p.provider = q.provider && p.tool = q.tool && p.parameters.equals q.parameters &&
    p.operators = q.operators

end Query

end PipeQuery

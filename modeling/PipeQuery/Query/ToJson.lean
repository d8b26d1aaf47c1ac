import PipeQuery.Json.Basic
import PipeQuery.Query.Basic

/-! Queries as JSON values. -/

namespace PipeQuery

def Value.toJson : Value → Json
  | .string s => .string s
  | .number x => .number (.float x)
  | .bool b => .bool b

def Condition.toJson (c : Condition) : Json :=
  .object [("column", .string c.column), ("operator", .string c.comparator.symbol),
    ("value", .string c.value)]

/-- The members of an operator behind its name. -/
def Operator.jsonMembers : Operator → List (String × Json)
  | .filter conditions => [("conditions", .array (conditions.map Condition.toJson))]
  | .project columns => [("columns", .array (columns.map .string))]
  | .take n => [("count", .number (.integer n))]
  | .sort column ascending => [("column", .string column), ("ascending", .bool ascending)]
  | .count => []
  | .extend column expression =>
    [("columnName", .string column), ("expression", .string expression)]

def Operator.toJson (op : Operator) : Json :=
  .object (("op", .string op.name) :: op.jsonMembers)

def Query.toJson (q : Query) : Json :=
  .object
    [("provider", .string q.provider), ("tool", .string q.tool),
     ("parameters", .object (q.parameters.map fun (name, value) => (name, value.toJson))),
     ("operators", .array (q.operators.map Operator.toJson))]

end PipeQuery

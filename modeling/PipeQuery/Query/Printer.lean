import PipeQuery.Arithmetic.Shortest
import PipeQuery.Query.Parser

/-! The canonical text of a query: the call on the first line, in the form with a pipe, and
each operator on a line of its own. Texts are quoted wherever they would be read as something
else. -/

namespace PipeQuery

/-! ### Literals -/

/-- A backslash before each quote and backslash. -/
def escape : List Char → List Char
  | [] => []
  | c :: cs => if c = '\'' || c = '\\' then '\\' :: c :: escape cs else c :: escape cs

/-- The text between single quotes. -/
def quote (text : String) : String := String.ofList ('\'' :: escape text.toList ++ ['\''])

/-- The text is a number as a token: an optional minus sign, digits, and perhaps a point with
digits behind it. -/
def isNumberLiteral (text : String) : Bool :=
  let digits := match text.toList with
    | '-' :: cs => cs
    | cs => cs
  let (whole, fraction) := Numeral.splitAt (· = '.') digits
  !whole.isEmpty && whole.all Unicode.isDigit &&
    match fraction with
    | none => true
    | some cs => !cs.isEmpty && cs.all Unicode.isDigit

/-- The text is "true" or "false" in any case. -/
def isBooleanLiteral (text : String) : Bool :=
  let word := latinLower text.toList
  word = "true".toList || word = "false".toList

/-- The value of a condition is a text; numbers and booleans stand for themselves. -/
def conditionLiteral (text : String) : String :=
  if isNumberLiteral text || isBooleanLiteral text then text else quote text

/-- The expression of an extension stands for itself if its tokens give it back. -/
def expressionLiteral (expression : String) : String :=
  match tokenize expression with
  | .error _ => quote expression
  | .ok ts =>
    if ts.all (·.kind ≠ .pipe) && " ".intercalate (ts.map (·.text)) = expression then expression
    else quote expression

/-! ### Parts of a query -/

def Value.text : Value → String
  | .string s => quote s
  | .number x => x.text
  | .bool b => if b then "true" else "false"

def Condition.text (c : Condition) : String :=
  s!"{c.column} {c.comparator.symbol} {conditionLiteral c.value}"

def Operator.text : Operator → String
  | .filter conditions => s!"where " ++ " and ".intercalate (conditions.map Condition.text)
  | .project columns => "project " ++ ", ".intercalate columns
  | .take n => s!"take {n}"
  | .sort column ascending => s!"sort by {column} " ++ if ascending then "asc" else "desc"
  | .count => "count"
  | .extend column expression => s!"extend {column} = {expressionLiteral expression}"

/-- The parameters of a call in parentheses; without any nothing is written. -/
def Parameters.text : Parameters → String
  | [] => ""
  | ps => "(" ++ ", ".intercalate (ps.map fun (name, value) => s!"{name}={value.text}") ++ ")"

/-- The canonical text of a query. -/
def Query.text (q : Query) : String :=
  s!"{q.provider} | {q.tool}" ++ q.parameters.text ++
    String.join (q.operators.map fun op => "\n| " ++ op.text)

/-- Writes a query in canonical form; a text that is no query stays as it is. -/
def format (text : String) : String :=
  match parse text with
  | .ok q => q.text
  | .error _ => text

end PipeQuery

import PipeQuery.Query.Printer
import PipeQuery.Table.Pipeline

/-! What the steps of a run report about themselves. The records are derived from the inputs of
the steps, so the steps themselves do not carry them. -/

namespace PipeQuery.Log

/-- How much a record matters, the most first. -/
inductive Level
  | warn | info | debug | trace
deriving DecidableEq, Repr

def Level.name : Level → String
  | .warn => "WARN"
  | .info => "INFO"
  | .debug => "DEBUG"
  | .trace => "TRACE"

/-- The number of requests for more records at which those of a level are shown. -/
def Level.verbosity : Level → Nat
  | .warn => 0
  | .info => 1
  | .debug => 2
  | .trace => 3

/-- The parts of the program that report. -/
inductive Source
  | lexer | parser | format | convert | evaluator | check
deriving DecidableEq, Repr

def Source.name : Source → String
  | .lexer => "mcpql::lexer"
  | .parser => "mcpql::parser"
  | .format => "mcpql::format"
  | .convert => "mcpql::convert"
  | .evaluator => "mcpql::evaluator"
  | .check => "mcpql::cli::check"

structure Record where
  level : Level
  source : Source
  message : String
deriving DecidableEq, Repr

/-! ### Reading -/

/-- The records of reading tokens. A text that has a fault gives none. -/
def tokens (text : String) : List Record :=
  match tokenize text with
  | .ok ts => [⟨.trace, .lexer, s!"lexed {ts.length} tokens"⟩]
  | .error _ => []

/-- The places of "or" in conditions among the tokens that were read. Whether a token belongs to
conditions is told by the one behind the last pipe. -/
def orPlaces (inConditions : Bool) : List Token → List Position
  | [] => []
  | t :: ts =>
    if t.kind = .pipe then orPlaces (ts.head?.any fun u => u.kind = .where) ts
    else if t.kind = .or && inConditions then t.position :: orPlaces inConditions ts
    else orPlaces inConditions ts

def orRecord (p : Position) : Record :=
  ⟨.warn, .parser,
    s!"'or' at {p.text} is evaluated as 'and'; where conditions are always combined with and"⟩

/-- The records of reading a query from tokens. -/
def query (ts : List Token) : List Record :=
  match Reading.query ts with
  | .ok (q, _) =>
    (orPlaces false ts).map orRecord ++
      [⟨.debug, .parser,
        s!"parsed {q.provider}.{q.tool} with {q.parameters.length} parameter(s) " ++
          s!"and {q.operators.length} operator(s)"⟩]
  | .error f => (orPlaces false (ts.take (ts.length - f.rest.length))).map orRecord

/-- The records of reading a query from a text. -/
def parsing (text : String) : List Record :=
  match tokenize text with
  | .ok ts => tokens text ++ query ts
  | .error _ => []

/-- The records of writing an operator, which reads the tokens of an expression. -/
def operatorText : Operator → List Record
  | .extend _ expression => tokens expression
  | _ => []

/-- The records of writing a text in canonical form. -/
def formatting (text : String) : List Record :=
  parsing text ++
    match parse text with
    | .ok q => q.operators.flatMap operatorText
    | .error e => [⟨.debug, .format, s!"format left input unchanged: {e.text}"⟩]

/-! ### Running -/

/-- The records of reading a table. -/
def converting (json : String) : List Record :=
  match Json.parse json with
  | .ok _ => []
  | .error e => [⟨.debug, .convert, s!"tool result is not valid JSON: {e.text}"⟩]

/-- The record of a pattern that cannot be read, wherever one is needed. -/
def pattern (t : Table) (c : Condition) : List Record :=
  if c.comparator = .matches && (t.columnIndex? c.column).isSome &&
      (Pattern.ofText? c.value).isNone then
    [⟨.warn, .evaluator, s!"invalid pattern '{c.value}' in matches condition:"⟩]
  else []

/-- The records of testing a row, up to the first condition that fails. -/
def testing (t : Table) (row : List String) : List Condition → List Record
  | [] => []
  | c :: cs => pattern t c ++ if c.holdsOn t row then testing t row cs else []

/-- The records of an operator. -/
def applying (t : Table) (op : Operator) : List Record :=
  let result := t.apply op
  (match op with
    | .filter conditions => t.rows.flatMap fun row => testing t row conditions
    | _ => []) ++
  [⟨.debug, .evaluator,
    s!"applied {op.name}: {t.rowCount} -> {result.rowCount} row(s), " ++
      s!"{result.columns.length} column(s)"⟩]

/-- The records of operators in turn. -/
def steps (t : Table) : List Operator → List Record
  | [] => []
  | op :: ops => applying t op ++ steps (t.apply op) ops

/-- The records of a pipeline. -/
def running (t : Table) (operators : List Operator) : List Record :=
  if t.success then steps t operators else []

/-- The records of running a query on the result of its call. -/
def executing (q : Query) (json : String) : List Record :=
  converting json ++ running (Table.ofText json 0) q.operators

end PipeQuery.Log

import PipeQuery.Log
import PipeQuery.Manual.Topics
import PipeQuery.Table.Grid

/-! Checking a query against the result of its call: what can go wrong, and the text of the
table that comes out. -/

namespace PipeQuery

/-- What can go wrong in a command. -/
inductive CommandError
  | parse (e : SyntaxError)
  | table (message : String)
  | input (message : String)
  | noInput
  | unknownCategory (name : String)
deriving DecidableEq, Repr

def CommandError.text : CommandError → String
  | .parse e => s!"Parse error: {e.text}"
  | .table message => s!"Invalid tool result: {message}"
  | .input message => s!"IO error: {message}"
  | .noInput => "No input provided. Use --input or pipe JSON to stdin."
  | .unknownCategory name =>
    s!"Unknown category: '{name}'\nRun 'mcpql docs' to see available categories."

namespace Check

/-- How a table is written. -/
inductive Form
  | json | prettyJson | grid
deriving DecidableEq, Repr

/-- What a check finds: a query that can be read, or the table that it makes. -/
inductive Finding
  | syntaxValid
  | result (t : Table)
deriving DecidableEq, Repr

/-- Reads a query and, unless only that is asked for, runs it on the JSON result of its call. -/
def run (query : String) (input : Option String) (syntaxOnly : Bool) :
    Except CommandError Finding :=
  match parse query with
  | .error e => .error (.parse e)
  | .ok q =>
    if syntaxOnly then .ok .syntaxValid
    else
      match input with
      | none => .error .noInput
      | some json =>
        let t := Table.ofText json 0
        if t.success then .ok (.result (t.run q.operators))
        else .error (.table (t.error.getD ""))

/-- The text of a table. -/
def render (form : Form) (t : Table) : String :=
  match form with
  | .json => t.toJson.compact
  | .prettyJson => t.toJson.pretty
  | .grid => t.grid Table.defaultWidth

/-- The records of a check. -/
def records (query : String) (input : Option String) (syntaxOnly : Bool) : List Log.Record :=
  Log.parsing query ++
    match parse query, input with
    | .ok q, some json =>
      if syntaxOnly then []
      else
        let t := Table.ofText json 0
        Log.converting json ++
          if t.success then
            ⟨.info, .check,
              s!"running {q.operators.length} operator(s) for {q.provider}.{q.tool} " ++
                s!"over {t.rowCount} row(s)"⟩ :: Log.running t q.operators
          else []
    | _, _ => []

end Check

/-- The manual page of a topic by any of its names. -/
def Manual.page (name : String) : Except CommandError String :=
  match Topic.ofName? name with
  | some topic => .ok topic.text
  | none => .error (.unknownCategory name)

end PipeQuery

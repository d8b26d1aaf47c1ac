import PipeQuery.Query.Position

/-! What can be wrong with the text of a query, and how it is told. An error is a cause and
a place. -/

namespace PipeQuery

/-- What a query lacks at the place of an error. -/
inductive Expectation
  | providerName | callSeparator | toolName
  | parameterName | parameterEquals | parameterValue | parameterEnd
  | operator | operatorKeyword | queryEnd
  | columnName | comparator | conditionValue | columnEquals | rowCount
deriving DecidableEq, Repr

/-- The wording of an expectation. -/
def Expectation.text : Expectation → String
  | .providerName => "provider name"
  | .callSeparator => "'|' or '.' after provider name"
  | .toolName => "tool name"
  | .parameterName => "parameter name"
  | .parameterEquals => "'=' after parameter name"
  | .parameterValue => "parameter value"
  | .parameterEnd => "',' or ')'"
  | .operator => "operator"
  | .operatorKeyword => "operator (where, project, take, sort, count, extend)"
  | .queryEnd => "'|' or end of query"
  | .columnName => "column name"
  | .comparator => "comparison operator"
  | .conditionValue => "value after comparison operator"
  | .columnEquals => "'=' after column name"
  | .rowCount => "row count after 'take'"

/-- The causes of a syntax error. The first two stop the reading of tokens. -/
inductive SyntaxError.Cause
  | unexpectedCharacter (c : Char)
  | unterminatedString
  | unexpectedToken (expected : Expectation) (found : String)
  | unexpectedEnd (expected : Expectation)
  | invalidNumber (text : String)
  | unknownComparator (text : String)
  | invalidRowCount (text : String)
deriving DecidableEq, Repr

/-- The wording of a cause. -/
def SyntaxError.Cause.message : SyntaxError.Cause → String
  | .unexpectedCharacter c => s!"Unexpected character '{c}'"
  | .unterminatedString => "Unterminated string literal"
  | .unexpectedToken expected found => s!"Expected {expected.text} but found '{found}'"
  | .unexpectedEnd expected => s!"Expected {expected.text} but found end of input"
  | .invalidNumber text => s!"Invalid number '{text}'"
  | .unknownComparator text => s!"Unknown comparison operator '{text}'"
  | .invalidRowCount text =>
    s!"Expected non-negative integer after 'take' but found '{text}'"

/-- A text is no query: why, and where. -/
structure SyntaxError where
  cause : SyntaxError.Cause
  position : Position
deriving DecidableEq, Repr

namespace SyntaxError

def message (e : SyntaxError) : String := e.cause.message

/-- The message with its place. -/
def text (e : SyntaxError) : String :=
  s!"{e.message} at line {e.position.line}, column {e.position.column}"

end SyntaxError

end PipeQuery

import PipeQuery.Arithmetic.Binary64
import PipeQuery.Named

/-! JSON values, and what can be wrong with a JSON text and how it is told. Whole numbers of 64 bits
stay whole; all other numbers are binary ones. The place of an error is a line, counted from 1, and
the number of bytes of that line up to the place. -/

namespace PipeQuery

/-- A number of JSON. -/
inductive Json.Number
  | integer (n : Int)
  | float (x : Binary64)

/-- A JSON value. The members of an object have distinct names and keep their order. -/
inductive Json
  | null
  | bool (b : Bool)
  | number (n : Json.Number)
  | string (s : String)
  | array (items : List Json)
  | object (members : List (String × Json))

/-- The causes of an error in a JSON text. -/
inductive Json.Cause
  | endInList | endInObject | endInString | endInValue
  | expectedColon | expectedListCommaOrEnd | expectedObjectCommaOrEnd
  | expectedWord | expectedValue
  | invalidEscape | invalidNumber | numberOutOfRange
  | keyNotString | controlCharacter | loneSurrogate | endOfHexEscape
  | trailingComma | trailingCharacters | recursionLimit
deriving DecidableEq, Repr

/-- The wording of a cause. -/
def Json.Cause.message : Json.Cause → String
  | .endInList => "EOF while parsing a list"
  | .endInObject => "EOF while parsing an object"
  | .endInString => "EOF while parsing a string"
  | .endInValue => "EOF while parsing a value"
  | .expectedColon => "expected `:`"
  | .expectedListCommaOrEnd => "expected `,` or `]`"
  | .expectedObjectCommaOrEnd => "expected `,` or `\x7d`"
  | .expectedWord => "expected ident"
  | .expectedValue => "expected value"
  | .invalidEscape => "invalid escape"
  | .invalidNumber => "invalid number"
  | .numberOutOfRange => "number out of range"
  | .keyNotString => "key must be a string"
  | .controlCharacter => "control character (\\u0000-\\u001F) found while parsing a string"
  | .loneSurrogate => "lone leading surrogate in hex escape"
  | .endOfHexEscape => "unexpected end of hex escape"
  | .trailingComma => "trailing comma"
  | .trailingCharacters => "trailing characters"
  | .recursionLimit => "recursion limit exceeded"

/-- A text is no JSON value: why, and where. -/
structure Json.Fault where
  cause : Json.Cause
  line : Nat
  column : Nat
deriving DecidableEq, Repr

def Json.Fault.text (e : Json.Fault) : String :=
  s!"{e.cause.message} at line {e.line} column {e.column}"

end PipeQuery

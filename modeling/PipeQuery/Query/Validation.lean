import PipeQuery.Json.Printer
import PipeQuery.Query.Parser
import PipeQuery.Unicode.Ranges
import PipeQuery.Unicode.Word

/-! Whether a text is a query: a verdict that tells the error and its place, and a guess from the
first characters alone, which looks for a provider, a pipe or a point, a tool and an opening
parenthesis. No space may stand around the point. -/

namespace PipeQuery

/-- The error of a text that is no query. -/
def syntaxError? (text : String) : Option SyntaxError :=
  match parse text with
  | .ok _ => none
  | .error e => some e

/-- The verdict on a text as JSON. -/
def verdict (text : String) : Json :=
  match syntaxError? text with
  | none => .object [("isValid", .bool true)]
  | some e => .object
    [("isValid", .bool false), ("errorMessage", .string e.message),
     ("errorLine", .number (.integer e.position.line)),
     ("errorColumn", .number (.integer e.position.column))]

/-! ### The guess -/

namespace Detection

def skipBlanks (cs : List Char) : List Char := cs.dropWhile Unicode.isBlank

/-- The characters behind a name: a Latin letter or a low line, then word characters and
hyphens. -/
def name? : List Char → Option (List Char)
  | [] => none
  | c :: cs =>
    if Unicode.isLatinLetter c || c = '_' then
      some (cs.dropWhile fun c => Unicode.isWord c || c = '-')
    else none

/-- The characters behind the one that is expected. -/
def char? (c : Char) : List Char → Option (List Char)
  | [] => none
  | d :: ds => if d = c then some ds else none

/-- A tool and an opening parenthesis follow. -/
def startsCall (cs : List Char) : Bool :=
  ((name? cs).bind fun cs => char? '(' (skipBlanks cs)).isSome

/-- The text starts like a call behind a pipe. -/
def startsPipeCall (cs : List Char) : Bool :=
  ((name? (skipBlanks cs)).bind fun cs => char? '|' (skipBlanks cs)).any fun cs =>
    startsCall (skipBlanks cs)

/-- The text starts like a call behind a point. -/
def startsDotCall (cs : List Char) : Bool :=
  ((name? (skipBlanks cs)).bind (char? '.')).any startsCall

end Detection

/-- The text is probably a query with parameters. -/
def looksLikeQuery (text : String) : Bool :=
  Detection.startsPipeCall text.toList || Detection.startsDotCall text.toList

end PipeQuery

import PipeQuery.Query.Position
import PipeQuery.Unicode.Lowercase

/-! The tokens of a query. A word is a reserved word, a word operator, a boolean or an
identifier by its lower case; the spelling itself is kept in the token. -/

namespace PipeQuery

/-- The kinds of token: literals, punctuation, comparison operators and reserved words. -/
inductive TokenKind
  | identifier | string | number | boolean
  | pipe | dot | openParen | closeParen | comma | equals
  | operator
  | where | project | take | sort | by | count | extend | asc | desc | and | or | not
deriving DecidableEq, Repr

namespace TokenKind

/-- The words with a kind of their own, in lower case. -/
def words : List (String × TokenKind) :=
  [("where", .where), ("project", .project), ("take", .take), ("sort", .sort), ("by", .by),
   ("count", .count), ("extend", .extend), ("asc", .asc), ("desc", .desc), ("and", .and),
   ("or", .or), ("not", .not), ("true", .boolean), ("false", .boolean),
   ("contains", .operator), ("startswith", .operator), ("endswith", .operator),
   ("has", .operator), ("matches", .operator)]

/-- The kind of a word; its case does not matter. -/
def ofWord (word : String) : TokenKind :=
  (words.lookup (Unicode.lowercase word)).getD .identifier

/-- The reserved words, which have a meaning of their own behind a pipe. -/
def isReserved : TokenKind → Bool
  | .where | .project | .take | .sort | .by | .count | .extend | .asc | .desc | .and | .or
  | .not => true
  | _ => false

/-- The name of a kind in messages. -/
def description : TokenKind → String
  | .identifier => "identifier"
  | .string => "string"
  | .number => "number"
  | .boolean => "boolean"
  | .pipe => "'|'"
  | .dot => "'.'"
  | .openParen => "'('"
  | .closeParen => "')'"
  | .comma => "','"
  | .equals => "'='"
  | .operator => "comparison operator"
  | .where => "'where'"
  | .project => "'project'"
  | .take => "'take'"
  | .sort => "'sort'"
  | .by => "'by'"
  | .count => "'count'"
  | .extend => "'extend'"
  | .asc => "'asc'"
  | .desc => "'desc'"
  | .and => "'and'"
  | .or => "'or'"
  | .not => "'not'"

end TokenKind

/-- A token: its kind, its text (of a string the content, else what was written) and the
place of its first character. -/
structure Token where
  kind : TokenKind
  text : String
  position : Position
deriving DecidableEq, Repr

/-- The token may stand as a name inside a call: identifiers, booleans, reserved words, and
those operators that are written in letters. -/
def Token.isWord (t : Token) : Bool :=
  match t.kind with
  | .identifier | .boolean => true
  | .operator => t.text.toList.all Unicode.isAlphabetic
  | kind => kind.isReserved

end PipeQuery

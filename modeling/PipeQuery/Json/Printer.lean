import PipeQuery.Arithmetic.Shortest
import PipeQuery.Json.Basic

/-! JSON values as text, without spaces or with an indentation of two. -/

namespace PipeQuery.Json

/-- A digit of base 16, with small letters. -/
def hexDigit (n : Nat) : Char := if n < 10 then Char.ofNat (48 + n) else Char.ofNat (87 + n)

/-- A character inside a string. Quotes, backslashes and control characters are escaped. -/
def escaped (c : Char) : List Char :=
  if c = '"' then ['\\', '"']
  else if c = '\\' then ['\\', '\\']
  else if c = '\n' then ['\\', 'n']
  else if c = '\r' then ['\\', 'r']
  else if c = '\t' then ['\\', 't']
  else if c.toNat = 8 then ['\\', 'b']
  else if c.toNat = 12 then ['\\', 'f']
  else if c.toNat < 32 then
    ['\\', 'u', '0', '0', hexDigit (c.toNat / 16), hexDigit (c.toNat % 16)]
  else [c]

def stringText (s : String) : String :=
  String.ofList ('"' :: s.toList.flatMap escaped ++ ['"'])

/-- A number; those that JSON has no text for are written as null. -/
def Number.text : Number → String
  | .integer n => toString n
  | .float x => x.jsonText?.getD "null"

mutual

/-- The text of a value without spaces. -/
def compact : Json → String
  | .null => "null"
  | .bool b => if b then "true" else "false"
  | .number n => n.text
  | .string s => stringText s
  | .array items => "[" ++ ",".intercalate (compactItems items) ++ "]"
  | .object members => "\x7b" ++ ",".intercalate (compactMembers members) ++ "\x7d"

def compactItems : List Json → List String
  | [] => []
  | x :: xs => compact x :: compactItems xs

def compactMembers : List (String × Json) → List String
  | [] => []
  | (name, x) :: rest => (stringText name ++ ":" ++ compact x) :: compactMembers rest

end

/-- A new line, indented `depth` times. -/
def newline (depth : Nat) : String := "\n" ++ String.ofList (List.replicate (2 * depth) ' ')

/-- Lines between brackets, one a line; without any the brackets stand together. -/
def block (opening closing : String) (depth : Nat) : List String → String
  | [] => opening ++ closing
  | lines =>
    opening ++ newline (depth + 1) ++ ("," ++ newline (depth + 1)).intercalate lines ++
      newline depth ++ closing

mutual

/-- The text of a value at a depth of indentation. -/
def prettyAt (depth : Nat) : Json → String
  | .null => "null"
  | .bool b => if b then "true" else "false"
  | .number n => n.text
  | .string s => stringText s
  | .array items => block "[" "]" depth (prettyItems (depth + 1) items)
  | .object members => block "\x7b" "\x7d" depth (prettyMembers (depth + 1) members)

def prettyItems (depth : Nat) : List Json → List String
  | [] => []
  | x :: xs => prettyAt depth x :: prettyItems depth xs

def prettyMembers (depth : Nat) : List (String × Json) → List String
  | [] => []
  | (name, x) :: rest =>
    (stringText name ++ ": " ++ prettyAt depth x) :: prettyMembers depth rest

end

/-- The text of a value with each item and member on a line of its own. -/
def pretty (x : Json) : String := prettyAt 0 x

end PipeQuery.Json

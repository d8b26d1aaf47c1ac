import PipeQuery.Query.SyntaxError
import PipeQuery.Query.Token
import PipeQuery.Unicode.Numeric

/-! The tokens of a text, from left to right. `scan` gives the lexeme at the head of a text,
the longest run of characters that is a token there. A lexer holds the characters still to be
read and their place; `Lexer.next` skips spaces and takes one lexeme, and `tokenize` takes
all. -/

namespace PipeQuery

/-! ### Lexemes -/

/-- The characters of one token as they are written, and the kind of that token. -/
structure Lexeme where
  kind : TokenKind
  raw : List Char
deriving DecidableEq, Repr

/-- The characters that separate tokens: space, tab, line feed and carriage return. -/
def isSpace (c : Char) : Bool := c = ' ' || c = '\t' || c = '\n' || c = '\r'

def isWordStart (c : Char) : Bool := Unicode.isAlphabetic c || c = '_' || c = '-'

def isWordPart (c : Char) : Bool := Unicode.isAlphanumeric c || c = '_' || c = '-'

def isQuote (c : Char) : Bool := c = '"' || c = '\''

/-- Punctuation and symbolic operators; a symbol that extends another stands before it. -/
def symbols : List Lexeme :=
  [⟨.operator, ['=', '=']⟩, ⟨.operator, ['!', '=']⟩, ⟨.operator, ['>', '=']⟩,
   ⟨.operator, ['<', '=']⟩, ⟨.operator, ['>']⟩, ⟨.operator, ['<']⟩, ⟨.equals, ['=']⟩,
   ⟨.pipe, ['|']⟩, ⟨.dot, ['.']⟩, ⟨.openParen, ['(']⟩, ⟨.closeParen, [')']⟩, ⟨.comma, [',']⟩]

/-- A minus sign, if the text starts with one. -/
def signPart : List Char → List Char
  | '-' :: _ => ['-']
  | _ => []

/-- A point with the digits behind it, if there is a digit. -/
def fractionPart : List Char → List Char
  | '.' :: cs => if (cs.takeWhile Unicode.isDigit).isEmpty then []
    else '.' :: cs.takeWhile Unicode.isDigit
  | _ => []

/-- The number at the head of a text: an optional minus sign, digits, an optional fraction. -/
def numberPart (cs : List Char) : List Char :=
  let sign := signPart cs
  let whole := (cs.drop sign.length).takeWhile Unicode.isDigit
  let fraction := fractionPart (cs.drop (sign.length + whole.length))
  sign ++ whole ++ fraction

/-- A digit, or a minus sign before a digit. -/
def startsNumber : List Char → Bool
  | '-' :: c :: _ => Unicode.isDigit c
  | c :: _ => Unicode.isDigit c
  | [] => false

/-- What follows an opening quote up to the closing one, that included; a backslash takes the
character behind it along. -/
def quotedPart (quote : Char) : List Char → Option (List Char)
  | [] => none
  | '\\' :: [] => none
  | '\\' :: c :: cs => (quotedPart quote cs).map fun raw => '\\' :: c :: raw
  | c :: cs => if c = quote then some [c] else (quotedPart quote cs).map (c :: ·)

/-- The lexeme at the head of a text that starts with `c`. -/
def scan (c : Char) (cs : List Char) : Except SyntaxError.Cause Lexeme :=
  match symbols.find? fun x => x.raw.isPrefixOf (c :: cs) with
  | some x => .ok x
  | none =>
    if isQuote c then
      match quotedPart c cs with
      | some raw => .ok ⟨.string, c :: raw⟩
      | none => .error .unterminatedString
    else if startsNumber (c :: cs) then .ok ⟨.number, numberPart (c :: cs)⟩
    else if isWordStart c then
      let raw := c :: cs.takeWhile isWordPart
      .ok ⟨TokenKind.ofWord (String.ofList raw), raw⟩
    else .error (.unexpectedCharacter c)

/-- The text with every escaping backslash dropped. -/
def unescape : List Char → List Char
  | '\\' :: c :: cs => c :: unescape cs
  | c :: cs => c :: unescape cs
  | [] => []

/-- The text of a token: of a string what stands between the quotes, unescaped, of any other
token what is written. -/
def Lexeme.text (x : Lexeme) : String :=
  if x.kind = .string then String.ofList (unescape (x.raw.drop 1).dropLast)
  else String.ofList x.raw

/-! ### Lexers -/

/-- The characters still to be read and the place of the first of them. -/
structure Lexer where
  rest : List Char
  position : Position
deriving DecidableEq, Repr

/-- What one step of a lexer gives. -/
inductive LexerStep
  | token (t : Token)
  | done
  | fault (e : SyntaxError)
deriving DecidableEq, Repr

namespace Lexer

def ofText (text : String) : Lexer := ⟨text.toList, .start⟩

/-- The lexer behind its next `n` characters. -/
def advance (l : Lexer) (n : Nat) : Lexer := ⟨l.rest.drop n, l.position.after (l.rest.take n)⟩

def skipSpace (l : Lexer) : Lexer := l.advance (l.rest.takeWhile isSpace).length

/-- Where a lexer stands behind a fault: a string that does not end has taken all that was
left, and a character that starts no token stays where it is. -/
def stopped (l : Lexer) : SyntaxError.Cause → Lexer
  | .unterminatedString => l.advance l.rest.length
  | _ => l

/-- Takes the token at the head of the text. -/
def read (l : Lexer) : LexerStep × Lexer :=
  match l.rest with
  | [] => (.done, l)
  | c :: cs =>
    match scan c cs with
    | .ok x => (.token ⟨x.kind, x.text, l.position⟩, l.advance x.raw.length)
    | .error cause => (.fault ⟨cause, l.position⟩, l.stopped cause)

/-- Skips spaces and takes one token. -/
def next (l : Lexer) : LexerStep × Lexer := l.skipSpace.read

end Lexer

/-! ### Every token takes at least one character -/

theorem numberPart_ne_nil {cs : List Char} (h : startsNumber cs = true) : numberPart cs ≠ [] := by
  match cs, h with
  | '-' :: c :: cs, _ => simp [numberPart, signPart]
  | ['-'], h => exact absurd h (by decide)
  | c :: cs, h =>
    by_cases hc : c = '-'
    · subst hc; simp [numberPart, signPart]
    · have hs : signPart (c :: cs) = [] := by
        unfold signPart; split
        · rename_i heq; exact absurd (List.cons.inj heq).1 hc
        · rfl
      have hd : Unicode.isDigit c = true := by
        unfold startsNumber at h; split at h
        · rename_i heq; exact absurd (List.cons.inj heq).1 hc
        · rename_i heq; rw [← (List.cons.inj heq).1] at h; exact h
        · exact absurd h (by simp)
      simp [numberPart, hs, hd]

theorem scan_raw_ne_nil {c : Char} {cs : List Char} {x : Lexeme} (h : scan c cs = .ok x) :
    x.raw ≠ [] := by
  unfold scan at h
  split at h
  · rename_i y hy
    cases h
    have hall : ∀ y ∈ symbols, y.raw ≠ [] := by decide
    exact hall _ (List.mem_of_find?_eq_some hy)
  · split at h
    · split at h
      · cases h; simp
      · cases h
    · split at h
      · rename_i hn
        cases h
        exact numberPart_ne_nil hn
      · split at h
        · cases h; simp
        · cases h

namespace Lexer

theorem length_skipSpace_le (l : Lexer) : l.skipSpace.rest.length ≤ l.rest.length := by
  simp [skipSpace, advance]

theorem read_length_lt {l m : Lexer} {t : Token} (h : l.read = (.token t, m)) :
    m.rest.length < l.rest.length := by
  unfold read at h
  split at h
  · simp at h
  · rename_i c cs hrest
    split at h
    · rename_i x hx
      cases h
      have hpos := List.length_pos_iff.mpr (scan_raw_ne_nil hx)
      simp only [advance, List.length_drop, hrest, List.length_cons]
      omega
    · simp at h

/-- A token leaves fewer characters to be read. -/
theorem next_length_lt {l m : Lexer} {t : Token} (h : l.next = (.token t, m)) :
    m.rest.length < l.rest.length :=
  Nat.lt_of_lt_of_le (read_length_lt h) l.length_skipSpace_le

/-- The tokens up to the end of the text. -/
def tokens (l : Lexer) : Except SyntaxError (List Token) :=
  match _h : l.next with
  | (.done, _) => .ok []
  | (.fault e, _) => .error e
  | (.token t, m) =>
    match m.tokens with
    | .ok ts => .ok (t :: ts)
    | .error e => .error e
termination_by l.rest.length
decreasing_by exact next_length_lt _h

end Lexer

/-- Splits a text into its tokens. -/
def tokenize (text : String) : Except SyntaxError (List Token) := (Lexer.ofText text).tokens

end PipeQuery

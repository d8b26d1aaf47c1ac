import PipeQuery.Query.Parser

/-! Derivation trees of the grammar of queries, apart from the parser. A node holds the tokens of
one rule, and its type admits only those that the rule allows. `Derivation.tokens` is the list of
tokens at the leaves, and `Derivation.query` is the query that the tree stands for. -/

namespace PipeQuery.Grammar

/-- A token of one of the given kinds. -/
abbrev Terminal (kinds : List TokenKind) := {t : Token // t.kind ∈ kinds}

namespace Terminal

variable {kind : TokenKind} {kinds : List TokenKind}

theorem kind_eq (t : Terminal [kind]) : t.1.kind = kind := List.mem_singleton.mp t.2

/-- A token of one kind is one of several kinds. -/
def among (t : Terminal [kind]) (h : kind ∈ kinds) : Terminal kinds :=
  ⟨t.1, by rwa [t.kind_eq]⟩

end Terminal

/-- `item (separator item)*` -/
structure Separated (kinds : List TokenKind) (α : Type) where
  first : α
  more : List (Terminal kinds × α)

namespace Separated

variable {kinds : List TokenKind} {α : Type}

def items (s : Separated kinds α) : List α := s.first :: s.more.map (·.2)

/-- The tokens of all items and of the separators between them. -/
def tokens (item : α → List Token) (s : Separated kinds α) : List Token :=
  item s.first ++ s.more.flatMap fun x => x.1.1 :: item x.2

@[simp] theorem items_single (a : α) : (⟨a, []⟩ : Separated kinds α).items = [a] := rfl

@[simp] theorem items_cons (a b : α) (sep : Terminal kinds) (more : List (Terminal kinds × α)) :
    (⟨a, (sep, b) :: more⟩ : Separated kinds α).items = a :: items ⟨b, more⟩ := rfl

@[simp] theorem tokens_single (item : α → List Token) (a : α) :
    (⟨a, []⟩ : Separated kinds α).tokens item = item a := by
  simp [tokens]

@[simp] theorem tokens_cons (item : α → List Token) (a b : α) (sep : Terminal kinds)
    (more : List (Terminal kinds × α)) :
    (⟨a, (sep, b) :: more⟩ : Separated kinds α).tokens item =
      item a ++ sep.1 :: tokens item ⟨b, more⟩ := by
  simp [tokens]

theorem mem_tokens {item : α → List Token} {s : Separated kinds α} {a : α} (ha : a ∈ s.items)
    {t : Token} (ht : t ∈ item a) : t ∈ s.tokens item := by
  rcases List.mem_cons.mp ha with rfl | hmore
  · exact List.mem_append_left _ ht
  · obtain ⟨x, hx, rfl⟩ := List.mem_map.mp hmore
    exact List.mem_append_right _ (List.mem_flatMap.mpr ⟨x, hx, List.mem_cons_of_mem _ ht⟩)

end Separated

/-! ### Parameters -/

/-- The kinds of token that are always words. -/
def wordKinds : List TokenKind :=
  [.identifier, .boolean, .where, .project, .take, .sort, .by, .count, .extend, .asc, .desc, .and,
   .or, .not]

/-- An identifier, a reserved word, "true" or "false", or an operator in letters. -/
def IsNaming (t : Token) : Prop :=
  t.kind ∈ wordKinds ∨ t.kind = .operator ∧ ∀ c ∈ t.text.toList, Unicode.isAlphabetic c = true

/-- A token that may name a parameter. -/
abbrev Word := {t : Token // IsNaming t}

/-- `value := String | Number | word`, where "true" and "false" are words. -/
inductive Literal
  | string (t : Terminal [.string])
  | number (t : Terminal [.number])
  | word (t : Word)

namespace Literal

def token : Literal → Token
  | string t => t.1
  | number t => t.1
  | word t => t.1

/-- The number that a number token stands for. Every number token of a text has one. -/
def numberOf (text : String) : Binary64 := (Binary64.ofText? text).getD .nan

def value : Literal → Value
  | string t => .string t.1.text
  | number t => .number (numberOf t.1.text)
  | word t =>
    if t.1.kind = .boolean then .bool (latinLower t.1.text.toList = "true".toList)
    else .string t.1.text

end Literal

/-- `word '=' value` -/
structure Assignment where
  name : Word
  equals : Terminal [.equals]
  value : Literal

namespace Assignment

def tokens (a : Assignment) : List Token := [a.name.1, a.equals.1, a.value.token]

def pair (a : Assignment) : String × Value := (a.name.1.text, a.value.value)

end Assignment

/-- `params? := ('(' [word '=' value (',' word '=' value)*] ')')?` -/
inductive Arguments
  | absent
  | empty (opening : Terminal [.openParen]) (closing : Terminal [.closeParen])
  | listed (opening : Terminal [.openParen]) (assignments : Separated [.comma] Assignment)
    (closing : Terminal [.closeParen])

namespace Arguments

def tokens : Arguments → List Token
  | absent => []
  | empty opening closing => [opening.1, closing.1]
  | listed opening assignments closing =>
    opening.1 :: (assignments.tokens Assignment.tokens ++ [closing.1])

/-- The assignments in the order of the text. -/
def assignments : Arguments → List Assignment
  | absent => []
  | empty _ _ => []
  | listed _ assignments _ => assignments.items

/-- The parameters, each put in when it comes. -/
def parameters (a : Arguments) : Parameters := Named.ofList (a.assignments.map Assignment.pair)

end Arguments

/-! ### Operators -/

/-- The kinds of token that a column is compared with. -/
def operandKinds : List TokenKind := [.string, .number, .boolean, .identifier]

/-- `cond := Identifier comparator (String | Number | Boolean | Identifier)`; the case of a
comparator does not matter. -/
structure Test where
  column : Terminal [.identifier]
  symbol : Terminal [.operator]
  comparator : Comparator
  spelled : Unicode.lowercase symbol.1.text = comparator.symbol
  operand : Terminal operandKinds

namespace Test

def tokens (t : Test) : List Token := [t.column.1, t.symbol.1, t.operand.1]

def condition (t : Test) : Condition := ⟨t.column.1.text, t.comparator, t.operand.1.text⟩

end Test

/-- The text is an unsigned decimal integer below `2 ^ 64`. -/
structure IsRowCount (text : String) : Prop where
  ne_nil : text.toList ≠ []
  digits : ∀ c ∈ text.toList, Unicode.isDigit c = true
  lt : digitsValue text.toList < 0x10000000000000000

/-- `op := where cond ((and | or) cond)* | project Identifier (',' Identifier)* | take Number |
sort by? Identifier (asc | desc)? | count | extend Identifier '=' (any tokens but '|')*` -/
inductive Stage
  | filter (keyword : Terminal [.where]) (tests : Separated [.and, .or] Test)
  | project (keyword : Terminal [.project]) (columns : Separated [.comma] (Terminal [.identifier]))
  | take (keyword : Terminal [.take]) (rows : Terminal [.number]) (h : IsRowCount rows.1.text)
  | sort (keyword : Terminal [.sort]) (particle : Option (Terminal [.by]))
    (column : Terminal [.identifier]) (direction : Option (Terminal [.asc, .desc]))
  | count (keyword : Terminal [.count])
  | extend (keyword : Terminal [.extend]) (column : Terminal [.identifier])
    (equals : Terminal [.equals]) (expression : List {t : Token // t.kind ≠ .pipe})

namespace Stage

def tokens : Stage → List Token
  | filter keyword tests => keyword.1 :: tests.tokens Test.tokens
  | project keyword columns => keyword.1 :: columns.tokens fun c => [c.1]
  | take keyword rows _ => [keyword.1, rows.1]
  | sort keyword particle column direction =>
    keyword.1 :: ((particle.map (·.1)).toList ++ column.1 :: (direction.map (·.1)).toList)
  | count keyword => [keyword.1]
  | extend keyword column equals expression =>
    keyword.1 :: column.1 :: equals.1 :: expression.map (·.1)

/-- The operator of a stage. Both "and" and "or" join conditions, and the texts of an expression
are joined by one space. -/
def operator : Stage → Operator
  | filter _ tests => .filter (tests.items.map Test.condition)
  | project _ columns => .project (columns.items.map (·.1.text))
  | take _ rows _ => .take (digitsValue rows.1.text.toList)
  | sort _ _ column direction => .sort column.1.text (direction.all (·.1.kind = .asc))
  | count _ => .count
  | extend _ column _ expression =>
    .extend column.1.text (" ".intercalate (expression.map (·.1.text)))

end Stage

/-- The tokens of stages, each behind its pipe. -/
def stageTokens (stages : List (Terminal [.pipe] × Stage)) : List Token :=
  stages.flatMap fun s => s.1.1 :: s.2.tokens

/-! ### Queries -/

/-- `query := Identifier ('|' | '.') Identifier params? ('|' op)*` -/
structure Derivation where
  provider : Terminal [.identifier]
  separator : Terminal [.pipe, .dot]
  tool : Terminal [.identifier]
  arguments : Arguments
  stages : List (Terminal [.pipe] × Stage)

namespace Derivation

def tokens (d : Derivation) : List Token :=
  d.provider.1 :: d.separator.1 :: d.tool.1 :: (d.arguments.tokens ++ stageTokens d.stages)

def query (d : Derivation) : Query :=
  ⟨d.provider.1.text, d.tool.1.text, d.arguments.parameters, d.stages.map (·.2.operator)⟩

end Derivation

end PipeQuery.Grammar

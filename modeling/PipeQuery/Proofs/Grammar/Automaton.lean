import Mathlib.Tactic.Common
import PipeQuery.Query.Parser

/-! The grammar of queries as an automaton over tokens. A state says what may come next; the
automaton stops at a token that may not. Some tokens lead from each state to the end of a query
(`State.accepts_completion`), so every list of tokens through which the automaton goes begins a
query. -/

namespace PipeQuery.Grammar

/-- What may come next in a query. -/
inductive State
  | provider | separator | tool
  /-- Parameters, a stage or the end. -/
  | call
  /-- The name of a parameter or the closing parenthesis. -/
  | firstName
  | name | equals | value
  /-- A comma or the closing parenthesis. -/
  | nextName
  /-- The pipe of a stage or the end. -/
  | stage
  | keyword
  | testColumn | comparator | operand
  /-- Another test, a stage or the end. -/
  | nextTest
  | column
  /-- Another column, a stage or the end. -/
  | nextColumn
  | rows
  /-- The column of a sort, with or without a particle before it. -/
  | sortKey
  | sortColumn
  /-- The direction of a sort, a stage or the end. -/
  | direction
  | extendColumn | extendEquals
  /-- More of an expression, a stage or the end. -/
  | expression
deriving DecidableEq, Repr

namespace State

/-- Goes on to `next` if the condition holds. -/
def whenever (p : Prop) [Decidable p] (next : State) : Option State := if p then some next else none

/-- The state behind a token, if the token may come next. -/
def step : State → Token → Option State
  | provider, t => whenever (t.kind = .identifier) separator
  | separator, t => whenever (t.kind = .pipe ∨ t.kind = .dot) tool
  | tool, t => whenever (t.kind = .identifier) call
  | call, t => if t.kind = .openParen then some firstName else whenever (t.kind = .pipe) keyword
  | firstName, t => if t.kind = .closeParen then some stage else whenever (t.isWord = true) equals
  | name, t => whenever (t.isWord = true) equals
  | equals, t => whenever (t.kind = .equals) value
  | value, t =>
    if t.kind = .number then whenever ((Binary64.ofText? t.text).isSome = true) nextName
    else whenever (t.kind = .string ∨ t.isWord = true) nextName
  | nextName, t => if t.kind = .comma then some name else whenever (t.kind = .closeParen) stage
  | stage, t => whenever (t.kind = .pipe) keyword
  | keyword, t =>
    match t.kind with
    | .where => some testColumn
    | .project => some column
    | .take => some rows
    | .sort => some sortKey
    | .count => some stage
    | .extend => some extendColumn
    | _ => none
  | testColumn, t => whenever (t.kind = .identifier) comparator
  | comparator, t =>
    whenever (t.kind = .operator ∧ (Comparator.ofText? t.text).isSome = true) operand
  | operand, t => whenever (Reading.isConditionValue t.kind = true) nextTest
  | nextTest, t =>
    if t.kind = .and ∨ t.kind = .or then some testColumn else whenever (t.kind = .pipe) keyword
  | column, t => whenever (t.kind = .identifier) nextColumn
  | nextColumn, t => if t.kind = .comma then some column else whenever (t.kind = .pipe) keyword
  | rows, t => whenever (t.kind = .number ∧ (Reading.rowCount? t.text).isSome = true) stage
  | sortKey, t =>
    if t.kind = .by then some sortColumn else whenever (t.kind = .identifier) direction
  | sortColumn, t => whenever (t.kind = .identifier) direction
  | direction, t =>
    if t.kind = .asc ∨ t.kind = .desc then some stage else whenever (t.kind = .pipe) keyword
  | extendColumn, t => whenever (t.kind = .identifier) extendEquals
  | extendEquals, t => whenever (t.kind = .equals) expression
  | expression, t => if t.kind = .pipe then some keyword else some expression

/-- A query may end here. -/
def accepting : State → Bool
  | call | stage | nextTest | nextColumn | direction | expression => true
  | _ => false

/-- The state behind some tokens, if each of them may come where it does. -/
def run (s : State) (ts : List Token) : Option State := ts.foldlM step s

variable {s s' s'' : State} {t : Token} {ts us rest : List Token}

@[simp] theorem run_nil (s : State) : s.run [] = some s := rfl

theorem run_cons (s : State) (t : Token) (ts : List Token) :
    s.run (t :: ts) = (s.step t).bind (run · ts) := rfl

theorem run_append (s : State) (ts us : List Token) :
    s.run (ts ++ us) = (s.run ts).bind (run · us) := List.foldlM_append

/-- All tokens may come where they do, and a query may end behind them. -/
def accepts (s : State) (ts : List Token) : Bool := (s.run ts).any accepting

theorem accepts_append (h : s.run ts = some s') : s.accepts (ts ++ us) = s'.accepts us := by
  rw [accepts, run_append, h, Option.bind_some, accepts]

/-- A token that may not come next is not made good by any tokens behind it. -/
theorem accepts_of_step_eq_none (h : s.run ts = some s') (hstep : s'.step t = none)
    (us : List Token) : s.accepts (ts ++ t :: us) = false := by
  rw [accepts_append h, accepts, run_cons, hstep]
  rfl

/-! ### Completions -/

/-- A token that a completion is made of. -/
def sample (kind : TokenKind) (text : String) : Token := ⟨kind, text, .start⟩

/-- The rest of a query, as short as it can be. -/
def completion : State → List Token
  | provider => [sample .identifier "a", sample .pipe "|", sample .identifier "b"]
  | separator => [sample .pipe "|", sample .identifier "b"]
  | tool => [sample .identifier "b"]
  | firstName => [sample .closeParen ")"]
  | name => [sample .identifier "n", sample .equals "=", sample .identifier "v",
      sample .closeParen ")"]
  | equals => [sample .equals "=", sample .identifier "v", sample .closeParen ")"]
  | value => [sample .identifier "v", sample .closeParen ")"]
  | nextName => [sample .closeParen ")"]
  | keyword => [sample .count "count"]
  | testColumn => [sample .identifier "c", sample .operator "==", sample .identifier "v"]
  | comparator => [sample .operator "==", sample .identifier "v"]
  | operand => [sample .identifier "v"]
  | column => [sample .identifier "c"]
  | rows => [sample .number "0"]
  | sortKey | sortColumn => [sample .identifier "c"]
  | extendColumn => [sample .identifier "c", sample .equals "="]
  | extendEquals => [sample .equals "="]
  | call | stage | nextTest | nextColumn | direction | expression => []

/-- From each state some tokens lead to the end of a query. -/
theorem accepts_completion (s : State) : s.accepts s.completion = true := by
  cases s <;> decide

end State

end PipeQuery.Grammar

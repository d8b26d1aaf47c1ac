import PipeQuery.Arithmetic.Numeral
import PipeQuery.Query.Basic
import PipeQuery.Query.Lexer

/-! The query of a list of tokens. Each function takes the tokens still to be read and gives
what it found with the tokens behind it, or a failure at the first token that cannot stand
where it does. -/

namespace PipeQuery

/-- Why reading stopped, the place of the token at fault (none at the end of the tokens), and
the tokens not yet taken. -/
structure Failure where
  cause : SyntaxError.Cause
  place : Option Position
  rest : List Token
deriving DecidableEq, Repr

namespace Reading

/-- The next token is none of those that could stand there. -/
def unexpected (expected : Expectation) : List Token → Failure
  | [] => ⟨.unexpectedEnd expected, none, []⟩
  | t :: ts => ⟨.unexpectedToken expected t.text, some t.position, t :: ts⟩

/-- Takes a token of one kind. -/
def expect (kind : TokenKind) (expected : Expectation) :
    List Token → Except Failure (Token × List Token)
  | [] => .error (unexpected expected [])
  | t :: ts => if t.kind = kind then .ok (t, ts) else .error (unexpected expected (t :: ts))

/-- A number of rows: decimal digits with an optional plus sign, below `2 ^ 64`. -/
def rowCount? (text : String) : Option Nat :=
  let digits := match text.toList with
    | '+' :: cs => cs
    | cs => cs
  if digits.isEmpty || !digits.all Unicode.isDigit then none
  else if digitsValue digits < 0x10000000000000000 then some (digitsValue digits) else none

/-! ### Parameters -/

/-- Takes the value of a parameter. A word stands for itself. -/
def value : List Token → Except Failure (Value × List Token)
  | [] => .error (unexpected .parameterValue [])
  | t :: ts =>
    match t.kind with
    | .string => .ok (.string t.text, ts)
    | .number =>
      match Binary64.ofText? t.text with
      | some x => .ok (.number x, ts)
      | none => .error ⟨.invalidNumber t.text, some t.position, t :: ts⟩
    | .boolean => .ok (.bool (latinLower t.text.toList = ['t', 'r', 'u', 'e']), ts)
    | _ =>
      if t.isWord then .ok (.string t.text, ts)
      else .error (unexpected .parameterValue (t :: ts))

/-- Takes a name, an equals sign and a value. -/
def parameter : List Token → Except Failure ((String × Value) × List Token)
  | [] => .error (unexpected .parameterName [])
  | t :: ts =>
    if t.isWord then do
      let (_, ts) ← expect .equals .parameterEquals ts
      let (v, ts) ← value ts
      .ok ((t.text, v), ts)
    else .error (unexpected .parameterName (t :: ts))

theorem expect_length {kind : TokenKind} {expected : Expectation} {ts rest : List Token}
    {t : Token} (h : expect kind expected ts = .ok (t, rest)) : rest.length < ts.length := by
  unfold expect at h
  split at h
  · cases h
  · split at h
    · cases h; simp
    · cases h

theorem value_length {ts rest : List Token} {v : Value} (h : value ts = .ok (v, rest)) :
    rest.length < ts.length := by
  unfold value at h
  split at h
  · cases h
  · split at h
    all_goals try split at h
    all_goals cases h
    all_goals simp

theorem parameter_length {ts rest : List Token} {p : String × Value}
    (h : parameter ts = .ok (p, rest)) : rest.length < ts.length := by
  unfold parameter at h
  split at h
  · cases h
  · rename_i t us
    split at h
    · cases he : expect .equals .parameterEquals us with
      | error f => rw [he] at h; cases h
      | ok r =>
        obtain ⟨_, vs⟩ := r
        cases hv : value vs with
        | error f => simp [he, hv, bind, Except.bind] at h
        | ok r =>
          obtain ⟨v, ws⟩ := r
          simp only [he, hv, bind, Except.bind] at h
          cases h
          have := expect_length he
          have := value_length hv
          simp only [List.length_cons]
          omega
    · cases h

/-- Takes parameters up to the closing parenthesis, and adds them to those before. -/
def parametersFrom (before : Parameters) (ts : List Token) :
    Except Failure (Parameters × List Token) :=
  match _h : parameter ts with
  | .error f => .error f
  | .ok (_, []) => .error (unexpected .parameterEnd [])
  | .ok ((name, v), t :: rest) =>
    if t.kind = .comma then parametersFrom (before.insert name v) rest
    else if t.kind = .closeParen then .ok (before.insert name v, rest)
    else .error (unexpected .parameterEnd (t :: rest))
termination_by ts.length
decreasing_by
  have := parameter_length _h
  simp only [List.length_cons] at this
  omega

/-- Takes the parenthesised parameters of a call, if there are any. -/
def parameters : List Token → Except Failure (Parameters × List Token)
  | ⟨.openParen, _, _⟩ :: ⟨.closeParen, _, _⟩ :: rest => .ok ([], rest)
  | ⟨.openParen, _, _⟩ :: rest => parametersFrom [] rest
  | ts => .ok ([], ts)

/-! ### Operators -/

/-- The kinds of token that give a condition its value. -/
def isConditionValue : TokenKind → Bool
  | .string | .number | .boolean | .identifier => true
  | _ => false

/-- Takes a column, a comparator and a value. -/
def condition (ts : List Token) : Except Failure (Condition × List Token) := do
  let (column, ts) ← expect .identifier .columnName ts
  let (symbol, ts) ← expect .operator .comparator ts
  match Comparator.ofText? symbol.text with
  | none => .error ⟨.unknownComparator symbol.text, some symbol.position, ts⟩
  | some comparator =>
    match ts with
    | [] => .error (unexpected .conditionValue [])
    | t :: ts =>
      if isConditionValue t.kind then .ok (⟨column.text, comparator, t.text⟩, ts)
      else .error (unexpected .conditionValue (t :: ts))

theorem condition_length {ts rest : List Token} {c : Condition}
    (h : condition ts = .ok (c, rest)) : rest.length < ts.length := by
  unfold condition at h
  cases he : expect .identifier .columnName ts with
  | error f => simp [he, bind, Except.bind] at h
  | ok r =>
    obtain ⟨column, us⟩ := r
    cases ho : expect .operator .comparator us with
    | error f => simp [he, ho, bind, Except.bind] at h
    | ok r =>
      obtain ⟨symbol, vs⟩ := r
      simp only [he, ho, bind, Except.bind] at h
      have := expect_length he
      have := expect_length ho
      split at h
      · cases h
      · split at h
        · cases h
        · split at h
          · cases h
            simp only [List.length_cons] at *
            omega
          · cases h

/-- Takes conditions joined by "and" or "or". -/
def conditions (ts : List Token) : Except Failure (List Condition × List Token) :=
  match _h : condition ts with
  | .error f => .error f
  | .ok (c, []) => .ok ([c], [])
  | .ok (c, t :: rest) =>
    if t.kind = .and ∨ t.kind = .or then
      match conditions rest with
      | .error f => .error f
      | .ok (cs, rest) => .ok (c :: cs, rest)
    else .ok ([c], t :: rest)
termination_by ts.length
decreasing_by
  have := condition_length _h
  simp only [List.length_cons] at this
  omega

/-- Takes columns separated by commas. -/
def columns : List Token → Except Failure (List String × List Token)
  | [] => .error (unexpected .columnName [])
  | t :: ts =>
    if t.kind = .identifier then
      match ts with
      | [] => .ok ([t.text], [])
      | s :: rest =>
        if s.kind = .comma then
          match columns rest with
          | .error f => .error f
          | .ok (cs, rest) => .ok (t.text :: cs, rest)
        else .ok ([t.text], s :: rest)
    else .error (unexpected .columnName (t :: ts))

/-- Takes a number of rows. -/
def take (ts : List Token) : Except Failure (Operator × List Token) := do
  let (t, ts) ← expect .number .rowCount ts
  match rowCount? t.text with
  | some n => .ok (.take n, ts)
  | none => .error ⟨.invalidRowCount t.text, some t.position, ts⟩

/-- Drops a token of one kind, if the next one is. -/
def skip (kind : TokenKind) : List Token → List Token
  | [] => []
  | t :: ts => if t.kind = kind then ts else t :: ts

/-- Takes a direction, ascending where none is written. -/
def direction : List Token → Bool × List Token
  | [] => (true, [])
  | t :: ts =>
    if t.kind = .asc then (true, ts) else if t.kind = .desc then (false, ts) else (true, t :: ts)

/-- Takes the column of a sort and its direction. -/
def sort (ts : List Token) : Except Failure (Operator × List Token) := do
  let (column, ts) ← expect .identifier .columnName (skip .by ts)
  let (ascending, ts) := direction ts
  .ok (.sort column.text ascending, ts)

/-- Takes the column that an extension sets, and as its expression all tokens up to the next
pipe, with one space between them. -/
def extend (ts : List Token) : Except Failure (Operator × List Token) := do
  let (column, ts) ← expect .identifier .columnName ts
  let (_, ts) ← expect .equals .columnEquals ts
  let parts := ts.takeWhile (·.kind ≠ .pipe)
  .ok (.extend column.text (" ".intercalate (parts.map (·.text))), ts.dropWhile (·.kind ≠ .pipe))

/-- Takes an operator, which starts with its keyword. -/
def operator : List Token → Except Failure (Operator × List Token)
  | [] => .error (unexpected .operator [])
  | t :: ts =>
    match t.kind with
    | .where => (conditions ts).map fun (cs, rest) => (.filter cs, rest)
    | .project => (columns ts).map fun (cs, rest) => (.project cs, rest)
    | .take => take ts
    | .sort => sort ts
    | .count => .ok (.count, ts)
    | .extend => extend ts
    | _ => .error (unexpected .operatorKeyword (t :: ts))

theorem conditions_length {ts rest : List Token} {cs : List Condition}
    (h : conditions ts = .ok (cs, rest)) : rest.length ≤ ts.length := by
  fun_induction conditions ts generalizing cs rest with
  | case1 => cases h
  | case2 => cases h; exact Nat.zero_le _
  | case3 => cases h
  | case4 ts c t rest hc _ ds rest' hrec ih =>
    cases h
    have := condition_length hc
    have := ih hrec
    simp only [List.length_cons] at *
    omega
  | case5 ts c t rest hc _ =>
    cases h
    exact Nat.le_of_lt (condition_length hc)

theorem columns_length {ts rest : List Token} {cs : List String}
    (h : columns ts = .ok (cs, rest)) : rest.length ≤ ts.length := by
  fun_induction columns ts generalizing cs rest with
  | case1 => cases h
  | case2 => cases h; exact Nat.zero_le _
  | case3 => cases h
  | case4 t _ s rest _ ds rest' hrec ih =>
    cases h
    have := ih hrec
    simp only [List.length_cons] at *
    omega
  | case5 => cases h; simp
  | case6 => cases h

theorem skip_length (kind : TokenKind) (ts : List Token) : (skip kind ts).length ≤ ts.length := by
  unfold skip
  split
  · simp
  · split <;> simp

theorem direction_length (ts : List Token) : (direction ts).2.length ≤ ts.length := by
  unfold direction
  split
  · simp
  · split
    · simp
    · split <;> simp

theorem operator_length {ts rest : List Token} {op : Operator}
    (h : operator ts = .ok (op, rest)) : rest.length < ts.length := by
  unfold operator at h
  split at h
  · cases h
  · rename_i t us
    rw [List.length_cons, Nat.lt_succ_iff]
    split at h
    · cases hc : conditions us with
      | error f => rw [hc] at h; cases h
      | ok r => rw [hc] at h; cases h; exact conditions_length hc
    · cases hc : columns us with
      | error f => rw [hc] at h; cases h
      | ok r => rw [hc] at h; cases h; exact columns_length hc
    · unfold take at h
      cases he : expect .number .rowCount us with
      | error f => simp [he, bind, Except.bind] at h
      | ok r =>
        obtain ⟨n, vs⟩ := r
        simp only [he, bind, Except.bind] at h
        split at h
        · cases h; exact Nat.le_of_lt (expect_length he)
        · cases h
    · unfold sort at h
      cases he : expect .identifier .columnName (skip .by us) with
      | error f => simp [he, bind, Except.bind] at h
      | ok r =>
        obtain ⟨c, vs⟩ := r
        simp only [he, bind, Except.bind] at h
        cases h
        have := expect_length he
        have := skip_length .by us
        have := direction_length vs
        omega
    · cases h; exact Nat.le_refl _
    · unfold extend at h
      cases he : expect .identifier .columnName us with
      | error f => simp [he, bind, Except.bind] at h
      | ok r =>
        obtain ⟨c, vs⟩ := r
        cases hq : expect .equals .columnEquals vs with
        | error f => simp [he, hq, bind, Except.bind] at h
        | ok r =>
          obtain ⟨q, ws⟩ := r
          simp only [he, hq, bind, Except.bind] at h
          cases h
          have := expect_length he
          have := expect_length hq
          have := (List.dropWhile_sublist (l := ws) fun t : Token =>
            decide (t.kind ≠ .pipe)).length_le
          omega
    · cases h

/-- Takes operators, each behind a pipe, up to the end of the tokens. -/
def pipeline (ts : List Token) : Except Failure (List Operator × List Token) :=
  match ts with
  | [] => .ok ([], [])
  | t :: us =>
    if t.kind = .pipe then
      match _h : operator us with
      | .error f => .error f
      | .ok (op, rest) =>
        match pipeline rest with
        | .error f => .error f
        | .ok (ops, rest) => .ok (op :: ops, rest)
    else .error (unexpected .queryEnd (t :: us))
termination_by ts.length
decreasing_by
  have := operator_length _h
  simp only [List.length_cons]
  omega

/-! ### Queries -/

/-- Takes the separator between a provider and a tool. -/
def callSeparator : List Token → Except Failure (Unit × List Token)
  | [] => .error (unexpected .callSeparator [])
  | t :: ts =>
    if t.kind = .pipe ∨ t.kind = .dot then .ok ((), ts)
    else .error (unexpected .callSeparator (t :: ts))

/-- Takes a query, which reaches up to the end of the tokens. -/
def query (ts : List Token) : Except Failure (Query × List Token) := do
  let (provider, ts) ← expect .identifier .providerName ts
  let (_, ts) ← callSeparator ts
  let (tool, ts) ← expect .identifier .toolName ts
  let (parameters, ts) ← parameters ts
  let (operators, ts) ← pipeline ts
  .ok (⟨provider.text, tool.text, parameters, operators⟩, ts)

end Reading

/-! ### Parsers -/

/-- The tokens still to be read, and the place told when there are too few of them. -/
structure Parser where
  rest : List Token
  lastPlace : Position
deriving DecidableEq, Repr

namespace Parser

/-- A parser at the first of its tokens. What is missing at the end is missed at the last one. -/
def ofTokens (ts : List Token) : Parser := ⟨ts, (ts.getLast?.map (·.position)).getD .start⟩

/-- Reads a query from the tokens that are left. After a failure the tokens not yet taken stay
to be read. -/
def next (p : Parser) : Except SyntaxError Query × Parser :=
  match Reading.query p.rest with
  | .ok (q, rest) => (.ok q, { p with rest })
  | .error f => (.error ⟨f.cause, f.place.getD p.lastPlace⟩, { p with rest := f.rest })

end Parser

/-- The query of a whole list of tokens. -/
def parseTokens (ts : List Token) : Except SyntaxError Query := (Parser.ofTokens ts).next.1

/-- The query of a text. -/
def parse (text : String) : Except SyntaxError Query := do
  parseTokens (← tokenize text)

end PipeQuery

import PipeQuery.Proofs.Named
import PipeQuery.Proofs.Query.Pieces

/-! The canonical text of a query is read back as the query. The only thing lost is the sign of a
zero, which equality does not see; a number that is not finite has no token, and its text is read
as a word. -/

namespace PipeQuery

open Unicode Grammar

variable {rest : List Char}

/-! ### Parameters -/

/-- The value that the text of a value stands for. -/
def Value.reread : Value → Value
  | .string s => .string s
  | .number x => if x.isFinite then .number x.written else .string x.text
  | .bool b => .bool b

/-- The text of a number that is not finite is an identifier. -/
theorem isIdentifier_text {x : Binary64} (h : x.isFinite = false) : IsIdentifier x.text := by
  cases x with
  | nan => exact ⟨by decide, by decide⟩
  | infinity negative => cases negative <;> exact ⟨by decide, by decide⟩
  | finite => cases h

theorem reads_boolean (text : String) (b : Bool) (h : IsName text)
    (hk : TokenKind.ofWord text = .boolean) (hb : (latinLower text.toList = "true".toList) = b)
    (hr : Closed rest) :
    Reads text.toList rest fun ts => ∃ d : Literal, ts = [d.token] ∧ d.value = .bool b := by
  refine (Reads.word h hk hr).mono ?_
  rintro - ⟨t, rfl, rfl⟩
  have hkind := t.kind_eq
  refine ⟨.word ⟨t.1, .inl (by rw [hkind]; decide)⟩, rfl, ?_⟩
  simp only [Literal.value, hkind, if_true, hb]
  cases b <;> rfl

theorem reads_numeral {sign whole fraction : List Char} (h : IsNumber sign whole fraction)
    (hr : Closed rest) :
    Reads (sign ++ (whole ++ fraction)) rest fun ts => ∃ d : Literal, ts = [d.token] ∧
      d.value = .number (.ofScaled (decide (sign = ['-'])) (digitsValue (whole ++ fraction.drop 1))
        (-(fraction.drop 1).length)) := by
  refine (Reads.number h hr).mono ?_
  rintro - ⟨t, rfl, ht⟩
  refine ⟨.number t, rfl, ?_⟩
  rw [Literal.value, Literal.numberOf, ht, h.ofText?_eq]
  rfl

theorem reads_value (v : Value) (hr : Closed rest) :
    Reads v.text.toList rest fun ts => ∃ d : Literal, ts = [d.token] ∧ d.value = v.reread := by
  cases v with
  | string s =>
    refine (Reads.quote s rest).mono ?_
    rintro - ⟨t, rfl, ht⟩
    exact ⟨.string t, rfl, by rw [Literal.value, ht, Value.reread]⟩
  | number x =>
    cases hx : x.isFinite with
    | true =>
      obtain ⟨sign, whole, fraction, hnum, htext, hvalue⟩ := x.exists_numeral hx
      have hread := reads_numeral hnum hr
      rw [hvalue] at hread
      rw [Value.text, htext, String.toList_ofList, Value.reread, if_pos hx]
      exact hread
    | false =>
      refine (Reads.identifier (isIdentifier_text hx) hr).mono ?_
      rintro - ⟨t, rfl, ht⟩
      have hkind := t.kind_eq
      refine ⟨.word ⟨t.1, .inl (by rw [hkind]; decide)⟩, rfl, ?_⟩
      simp [Literal.value, hkind, ht, Value.reread, hx]
  | bool b =>
    cases b with
    | false => exact reads_boolean "false" false (by decide) (by decide) (by decide) hr
    | true => exact reads_boolean "true" true (by decide) (by decide) (by decide) hr

/-- The text of a value does not turn the equals sign before it into another symbol. -/
theorem head?_text_ne (v : Value) (rest : List Char) :
    (v.text.toList ++ rest).head? ≠ some '=' := by
  cases v with
  | string s => simp [Value.text, quote]
  | number x =>
    cases hx : x.isFinite with
    | true =>
      obtain ⟨sign, whole, fraction, hnum, htext, -⟩ := x.exists_numeral hx
      rw [Value.text, htext, String.toList_ofList]
      intro heq
      rw [List.append_assoc, List.append_assoc] at heq
      obtain ⟨cs, hcs⟩ := List.head?_eq_some_iff.mp heq
      exact absurd (isWordPart_head hnum hcs.symm) (by decide)
    | false =>
      obtain ⟨c, cs, htext, hword⟩ := (isIdentifier_text hx).1.exists_word
      rw [Value.text, htext, String.toList_ofList]
      rintro heq
      cases heq
      exact absurd hword.start (by decide)
  | bool b => cases b <;> simp [Value.text]

/-- A name, an equals sign and a value. -/
theorem reads_assignment {name : String} {literal : List Char} {v : Value} (hname : IsName name)
    (hhead : (literal ++ rest).head? ≠ some '=')
    (hvalue : Reads literal rest fun ts => ∃ d : Literal, ts = [d.token] ∧ d.value = v) :
    Reads (name.toList ++ (['='] ++ literal)) rest fun ts =>
      ∃ d : Assignment, ts = d.tokens ∧ d.pair = (name, v) := by
  have hequals : Closed (['='] ++ literal ++ rest) := by simp; decide
  have hsymbol : Reads ['='] (literal ++ rest) fun ts => ∃ t : Terminal [.equals],
      ts = [t.1] := Reads.symbol (by decide) fun h => absurd h hhead
  refine ((Reads.name hname hequals).append (hsymbol.append hvalue)).mono ?_
  rintro - ⟨_, _, rfl, ⟨n, rfl, rfl⟩, _, _, rfl, ⟨e, rfl⟩, d, rfl, rfl⟩
  exact ⟨⟨n, e, d⟩, rfl, rfl⟩

/-- Items with separators between them are read one by one. -/
theorem Reads.separated {α β δ : Type} {kinds : List TokenKind} {text : α → String}
    {item : δ → List Token} {value : δ → β} {f : α → β} {separator : String}
    (hclosed : ∀ rest, Closed (separator.toList ++ rest))
    (hseparator : ∀ rest, Reads separator.toList rest fun ts =>
      ∃ t : Terminal kinds, ts = [t.1]) :
    ∀ {xs : List α}, xs ≠ [] → (∀ x ∈ xs, ∀ rest, Closed rest →
      Reads (text x).toList rest fun ts => ∃ d, ts = item d ∧ value d = f x) → Closed rest →
      Reads (separator.intercalate (xs.map text)).toList rest fun ts =>
        ∃ s : Separated kinds δ, ts = s.tokens item ∧ s.items.map value = xs.map f
  | [], hne, _, _ => absurd rfl hne
  | [x], _, hitem, hr => by
    simp only [List.map_cons, List.map_nil, String.intercalate_singleton]
    refine (hitem x (by simp) rest hr).mono ?_
    rintro - ⟨d, rfl, hd⟩
    exact ⟨⟨d, []⟩, by simp, by simp [hd]⟩
  | x :: y :: xs, _, hitem, hr => by
    have htail := separated hclosed hseparator (List.cons_ne_nil y xs)
      (fun z hz => hitem z (List.mem_cons_of_mem x hz)) hr
    rw [List.map_cons, List.map_cons, String.intercalate_cons_cons, String.toList_append,
      String.toList_append, List.append_assoc, ← List.map_cons]
    have hx := hitem x (by simp) (separator.toList ++
      ((separator.intercalate ((y :: xs).map text)).toList ++ rest)) (hclosed _)
    rw [← List.append_assoc] at hx
    refine (hx.append ((hseparator _).append htail)).mono ?_
    rintro - ⟨_, _, rfl, ⟨d, rfl, hd⟩, _, _, rfl, ⟨t, rfl⟩, ⟨e, more⟩, rfl, hmore⟩
    refine ⟨⟨d, (t, e) :: more⟩, by simp, ?_⟩
    rw [Separated.items_cons, List.map_cons, hmore, hd]
    rfl

/-- A space before a piece is dropped. -/
theorem Reads.gap {cs : List Char} {P : List Token → Prop} (h : Reads cs rest P) :
    Reads (' ' :: cs) rest P := h.space (by decide)

theorem closed_comma (rest : List Char) : Closed (", ".toList ++ rest) := by simp; decide

theorem reads_comma (rest : List Char) :
    Reads ", ".toList rest fun ts => ∃ t : Terminal [.comma], ts = [t.1] := by
  have hspace : Reads [' '] rest (· = []) := Reads.nil.gap
  have hsymbol : Reads [','] ([' '] ++ rest) fun ts => ∃ t : Terminal [.comma], ts = [t.1] :=
    Reads.symbol (by decide) fun _ => by decide
  refine (hsymbol.append hspace).mono ?_
  rintro - ⟨_, _, rfl, ⟨t, rfl⟩, rfl⟩
  exact ⟨t, rfl⟩

/-- The values of parameters after their texts were read. -/
def Parameters.reread (ps : Parameters) : Parameters := ps.map fun p => (p.1, p.2.reread)

theorem Parameters.names_reread (ps : Parameters) :
    Named.names (Parameters.reread ps) = Named.names ps := by
  simp [Named.names, Parameters.reread]

/-- Assignments in parentheses. -/
theorem reads_listed {cs : List Char} {ps : Parameters}
    (h : Reads cs ([')'] ++ rest) fun ts => ∃ s : Separated [.comma] Assignment,
      ts = s.tokens Assignment.tokens ∧ s.items.map Assignment.pair = ps) :
    Reads (['('] ++ (cs ++ [')'])) rest fun ts =>
      ∃ d : Arguments, ts = d.tokens ∧ d.parameters = Named.ofList ps := by
  have hopening : Reads ['('] (cs ++ [')'] ++ rest) fun ts => ∃ t : Terminal [.openParen],
      ts = [t.1] := Reads.symbol (by decide) fun _ => by decide
  have hclosing : Reads [')'] rest fun ts => ∃ t : Terminal [.closeParen], ts = [t.1] :=
    Reads.symbol (by decide) fun _ => by decide
  refine (hopening.append (h.append hclosing)).mono ?_
  rintro - ⟨_, _, rfl, ⟨o, rfl⟩, _, _, rfl, ⟨s, rfl, rfl⟩, c, rfl⟩
  exact ⟨.listed o s c, rfl, rfl⟩

theorem reads_parameters {ps : Parameters} (hnames : ∀ p ∈ ps, IsName p.1)
    (hdistinct : (Named.names ps).Nodup) :
    Reads (Parameters.text ps).toList rest fun ts =>
      ∃ d : Arguments, ts = d.tokens ∧ d.parameters = Parameters.reread ps := by
  cases ps with
  | nil => exact Reads.nil.mono fun _ h => ⟨.absent, h, rfl⟩
  | cons p ps =>
    have hlist : Reads (", ".intercalate ((p :: ps).map fun x => x.1 ++ "=" ++ x.2.text)).toList
        ([')'] ++ rest) fun ts => ∃ s : Separated [.comma] Assignment,
          ts = s.tokens Assignment.tokens ∧
            s.items.map Assignment.pair = Parameters.reread (p :: ps) := by
      refine Reads.separated closed_comma reads_comma (List.cons_ne_nil p ps)
        (fun x hx rest hr => ?_) (by simp; decide)
      have hread := reads_assignment (hnames x hx) (head?_text_ne x.2 rest) (reads_value x.2 hr)
      have htext : (x.1 ++ "=" ++ x.2.text).toList = x.1.toList ++ (['='] ++ x.2.text.toList) := by
        simp
      rwa [htext]
    have htext : (Parameters.text (p :: ps)).toList = ['('] ++
        ((", ".intercalate ((p :: ps).map fun x => x.1 ++ "=" ++ x.2.text)).toList ++ [')']) := by
      rw [← List.append_assoc]
      exact String.toList_append.trans (congrArg (· ++ [')']) String.toList_append)
    have hreread := Named.ofList_of_nodup (by rwa [Parameters.names_reread] :
      (Named.names (Parameters.reread (p :: ps))).Nodup)
    have hread := reads_listed hlist
    rwa [hreread, ← htext] at hread

/-! ### Conditions -/

theorem lowercase_symbol (c : Comparator) : lowercase c.symbol = c.symbol := by
  cases c <;> decide

theorem stands_comparator (c : Comparator) (rest : List Char) :
    Stands ⟨.operator, c.symbol.toList⟩ (' ' :: rest) := by
  cases c
  case equal | notEqual | greater | greaterEqual | less | lessEqual =>
    exact .symbol (by decide) (by simp)
  case contains | startsWith | endsWith | has | «matches» =>
    exact IsName.stands (by decide) (by decide) (closed_space rest)

theorem reads_comparator (c : Comparator) (rest : List Char) :
    Reads c.symbol.toList (' ' :: rest) fun ts =>
      ∃ t : Terminal [.operator], ts = [t.1] ∧ lowercase t.1.text = c.symbol := by
  refine (Reads.terminal (stands_comparator c rest) (List.mem_singleton_self _)).mono ?_
  rintro - ⟨t, rfl, ht⟩
  refine ⟨t, rfl, ?_⟩
  rw [ht]
  simpa [Lexeme.text] using lowercase_symbol c

theorem reads_condition {c : Condition} (h : IsIdentifier c.column) (hr : Closed rest) :
    Reads c.text.toList rest fun ts => ∃ d : Test, ts = d.tokens ∧ d.condition = c := by
  have htext : c.text.toList = c.column.toList ++
      (' ' :: c.comparator.symbol.toList ++ ' ' :: (conditionLiteral c.value).toList) := by
    show (c.column ++ " " ++ c.comparator.symbol ++ " " ++ conditionLiteral c.value).toList = _
    simp
  have hsymbol := (reads_comparator c.comparator ((conditionLiteral c.value).toList ++ rest)).gap
  have hvalue := (Reads.conditionLiteral c.value hr).gap
  rw [htext]
  refine ((Reads.identifier h (closed_space _)).append (hsymbol.append hvalue)).mono ?_
  rintro - ⟨_, _, rfl, ⟨column, rfl, hcolumn⟩, _, _, rfl, ⟨symbol, rfl, hsym⟩, value, rfl, hval⟩
  refine ⟨⟨column, symbol, c.comparator, hsym, value⟩, rfl, ?_⟩
  rw [Test.condition, hcolumn, hval]

theorem closed_and (rest : List Char) : Closed (" and ".toList ++ rest) := by simp; decide

theorem reads_and (rest : List Char) :
    Reads " and ".toList rest fun ts => ∃ t : Terminal [.and, .or], ts = [t.1] := by
  have hspace : Reads [' '] rest (· = []) := Reads.nil.gap
  have hword : Reads "and".toList ([' '] ++ rest) fun ts => ∃ t : Terminal [.and], ts = [t.1] :=
    Reads.keyword (by decide) (by decide) (closed_space rest)
  refine (hword.append hspace).gap.mono ?_
  rintro - ⟨_, _, rfl, ⟨t, rfl⟩, rfl⟩
  exact ⟨t.among (by decide), rfl⟩

/-! ### Operators -/

/-- The expression of an extension is read back before a gap, whatever it is. -/
theorem reads_expression (text : String) (hr : AtGap rest) :
    Reads (expressionLiteral text).toList rest fun ts =>
      ∃ e : List {t : Token // t.kind ≠ .pipe}, ts = e.map (·.1) ∧
        " ".intercalate (e.map (·.1.text)) = text := by
  have hquote : Reads (quote text).toList rest fun ts =>
      ∃ e : List {t : Token // t.kind ≠ .pipe}, ts = e.map (·.1) ∧
        " ".intercalate (e.map (·.1.text)) = text := by
    refine (Reads.quote text rest).mono ?_
    rintro - ⟨t, rfl, ht⟩
    exact ⟨[⟨t.1, by rw [t.kind_eq]; decide⟩], rfl, by simpa using ht⟩
  unfold expressionLiteral
  split
  · exact hquote
  · rename_i ts hts
    split_ifs with hbare
    · simp only [Bool.and_eq_true, List.all_eq_true, decide_eq_true_eq] at hbare
      have hread : Reads text.toList rest fun us => us.map Token.spelling = ts.map Token.spelling :=
        reads_of_tokens hts hr
      refine hread.mono fun us hus => ?_
      have hkinds : us.map (·.kind) = ts.map (·.kind) := by
        simpa [Token.spelling, Function.comp_def] using congrArg (List.map Prod.fst) hus
      have htexts : us.map (·.text) = ts.map (·.text) := by
        simpa [Token.spelling, Function.comp_def] using congrArg (List.map Prod.snd) hus
      have hpipe : ∀ u ∈ us, u.kind ≠ .pipe := by
        intro u hu
        obtain ⟨t, ht, hkind⟩ := List.mem_map.mp (hkinds ▸ List.mem_map_of_mem hu)
        exact hkind ▸ hbare.1 t ht
      obtain ⟨e, rfl⟩ := exists_expression hpipe
      refine ⟨e, rfl, ?_⟩
      rw [← hbare.2, ← htexts, List.map_map]
      rfl
    · exact hquote

/-- The names of an operator are identifiers, and it has conditions and columns where it must. -/
def Operator.Spellable : Operator → Prop
  | .filter conditions => conditions ≠ [] ∧ ∀ c ∈ conditions, IsIdentifier c.column
  | .project columns => columns ≠ [] ∧ ∀ c ∈ columns, IsIdentifier c
  | .take rows => rows < 0x10000000000000000
  | .sort column _ => IsIdentifier column
  | .count => True
  | .extend column _ => IsIdentifier column

instance : DecidablePred Operator.Spellable
  | .filter conditions =>
    inferInstanceAs (Decidable (conditions ≠ [] ∧ ∀ c ∈ conditions, IsIdentifier c.column))
  | .project columns => inferInstanceAs (Decidable (columns ≠ [] ∧ ∀ c ∈ columns, IsIdentifier c))
  | .take rows => inferInstanceAs (Decidable (rows < 0x10000000000000000))
  | .sort column _ => inferInstanceAs (Decidable (IsIdentifier column))
  | .count => inferInstanceAs (Decidable True)
  | .extend column _ => inferInstanceAs (Decidable (IsIdentifier column))

/-- A keyword and a space before a piece. -/
theorem Reads.afterKeyword (text : String) (kind : TokenKind) {cs : List Char}
    {P : List Token → Prop} (hname : IsName text) (hk : TokenKind.ofWord text = kind)
    (h : Reads cs rest P) :
    Reads (text.toList ++ ' ' :: cs) rest fun ts =>
      ∃ (t : Terminal [kind]) (us : List Token), ts = t.1 :: us ∧ P us := by
  refine ((Reads.keyword hname hk (closed_space _)).append h.gap).mono ?_
  rintro - ⟨_, us, rfl, ⟨t, rfl⟩, hP⟩
  exact ⟨t, us, rfl, hP⟩

theorem reads_rowCount {n : Nat} (hn : n < 0x10000000000000000) (hr : Closed rest) :
    Reads (toString n).toList rest fun ts => ∃ t : Terminal [.number], ts = [t.1] ∧
      IsRowCount t.1.text ∧ digitsValue t.1.text.toList = n := by
  have hnum : IsNumber [] (digitsOf n) [] :=
    ⟨.inl rfl, digitsOf_ne_nil n, isDigit_of_mem_digitsOf, .none⟩
  have htext : (toString n).toList = [] ++ (digitsOf n ++ []) := by
    rw [List.append_nil]
    exact Nat.toList_repr
  rw [htext]
  refine (Reads.number hnum hr).mono ?_
  rintro - ⟨t, rfl, ht⟩
  have htoList : t.1.text.toList = digitsOf n := by simp [ht]
  have hvalue : digitsValue t.1.text.toList = n := by rw [htoList, digitsValue_digitsOf]
  refine ⟨t, rfl, ⟨?_, ?_, ?_⟩, hvalue⟩
  · rw [htoList]
    exact digitsOf_ne_nil n
  · rw [htoList]
    exact isDigit_of_mem_digitsOf
  · rwa [hvalue]

theorem reads_direction (ascending : Bool) (hr : Closed rest) :
    Reads (if ascending then "asc" else "desc").toList rest fun ts =>
      ∃ t : Terminal [.asc, .desc], ts = [t.1] ∧ decide (t.1.kind = .asc) = ascending := by
  cases ascending with
  | false =>
    have hread : Reads "desc".toList rest fun ts => ∃ t : Terminal [.desc], ts = [t.1] :=
      Reads.keyword (by decide) (by decide) hr
    refine hread.mono ?_
    rintro - ⟨t, rfl⟩
    exact ⟨t.among (by decide), rfl, by rw [Terminal.among, t.kind_eq]; decide⟩
  | true =>
    have hread : Reads "asc".toList rest fun ts => ∃ t : Terminal [.asc], ts = [t.1] :=
      Reads.keyword (by decide) (by decide) hr
    refine hread.mono ?_
    rintro - ⟨t, rfl⟩
    exact ⟨t.among (by decide), rfl, by rw [Terminal.among, t.kind_eq]; decide⟩

theorem reads_operator {op : Operator} (h : op.Spellable) (hr : AtGap rest) :
    Reads op.text.toList rest fun ts => ∃ s : Stage, ts = s.tokens ∧ s.operator = op := by
  cases op with
  | filter conditions =>
    have hlist : Reads (" and ".intercalate (conditions.map Condition.text)).toList rest fun ts =>
        ∃ s : Separated [.and, .or] Test, ts = s.tokens Test.tokens ∧
          s.items.map Test.condition = conditions.map id :=
      Reads.separated closed_and reads_and h.1
        (fun c hc _ hr => reads_condition (h.2 c hc) hr) hr.closed
    have htext : (Operator.filter conditions).text.toList = "where".toList ++
        ' ' :: (" and ".intercalate (conditions.map Condition.text)).toList := String.toList_append
    rw [htext]
    refine (hlist.afterKeyword "where" .where (by decide) (by decide)).mono ?_
    rintro - ⟨keyword, _, rfl, s, rfl, hs⟩
    exact ⟨.filter keyword s, rfl, by rw [Stage.operator, hs, List.map_id]⟩
  | project columns =>
    have hlist : Reads (", ".intercalate (columns.map id)).toList rest fun ts =>
        ∃ s : Separated [.comma] (Terminal [.identifier]), ts = s.tokens (fun c => [c.1]) ∧
          s.items.map (·.1.text) = columns.map id :=
      Reads.separated closed_comma reads_comma h.1
        (fun c hc _ hr => Reads.identifier (h.2 c hc) hr) hr.closed
    have htext : (Operator.project columns).text.toList = "project".toList ++
        ' ' :: (", ".intercalate (columns.map id)).toList := by
      rw [List.map_id]
      exact String.toList_append
    rw [htext]
    refine (hlist.afterKeyword "project" .project (by decide) (by decide)).mono ?_
    rintro - ⟨keyword, _, rfl, s, rfl, hs⟩
    exact ⟨.project keyword s, rfl, by rw [Stage.operator, hs, List.map_id]⟩
  | take n =>
    have htext : (Operator.take n).text.toList = "take".toList ++ ' ' :: (toString n).toList :=
      String.toList_append
    rw [htext]
    refine ((reads_rowCount h hr.closed).afterKeyword "take" .take (by decide) (by decide)).mono ?_
    rintro - ⟨keyword, _, rfl, rows, rfl, hrows, hvalue⟩
    exact ⟨.take keyword rows hrows, rfl, by rw [Stage.operator, hvalue]⟩
  | sort column ascending =>
    have htext : (Operator.sort column ascending).text.toList = "sort".toList ++ ' ' ::
        ("by".toList ++ ' ' :: (column.toList ++
          ' ' :: (if ascending then "asc" else "desc").toList)) := by
      show ("sort by " ++ column ++ " " ++ if ascending then "asc" else "desc").toList = _
      simp
    have hcolumn := (Reads.identifier h (closed_space _)).append
      (reads_direction ascending hr.closed).gap
    rw [htext]
    refine ((hcolumn.afterKeyword "by" .by (by decide) (by decide)).afterKeyword "sort" .sort
      (by decide) (by decide)).mono ?_
    rintro - ⟨keyword, _, rfl, particle, _, rfl, _, _, rfl, ⟨c, rfl, hc⟩, d, rfl, hd⟩
    refine ⟨.sort keyword (some particle) c (some d), rfl, ?_⟩
    rw [Stage.operator, hc, Option.all_some, hd]
  | count =>
    have hread : Reads "count".toList rest fun ts => ∃ t : Terminal [.count], ts = [t.1] :=
      Reads.keyword (by decide) (by decide) hr.closed
    refine hread.mono ?_
    rintro - ⟨keyword, rfl⟩
    exact ⟨.count keyword, rfl, rfl⟩
  | extend column expression =>
    have hequals (cs : List Char) : Reads ['='] (' ' :: cs) fun ts => ∃ t : Terminal [.equals],
        ts = [t.1] := Reads.symbol (by decide) (by simp)
    have htext : (Operator.extend column expression).text.toList = "extend".toList ++ ' ' ::
        (column.toList ++ (' ' :: ['='] ++ ' ' :: (expressionLiteral expression).toList)) := by
      show ("extend " ++ column ++ " = " ++ expressionLiteral expression).toList = _
      simp
    have hcolumn := (Reads.identifier h (closed_space _)).append
      ((hequals _).gap.append (reads_expression expression hr).gap)
    rw [htext]
    refine (hcolumn.afterKeyword "extend" .extend (by decide) (by decide)).mono ?_
    rintro - ⟨keyword, _, rfl, _, _, rfl, ⟨c, rfl, hc⟩, _, _, rfl, ⟨e, rfl⟩, ex, rfl, hex⟩
    exact ⟨.extend keyword c e ex, rfl, by rw [Stage.operator, hc, hex]⟩

/-! ### Queries -/

/-- The query has a text that is a query: its names are words, with no meaning of their own where
only an identifier may stand, and its operators can be written. -/
structure Query.Spellable (q : Query) : Prop where
  provider : IsIdentifier q.provider
  tool : IsIdentifier q.tool
  parameters : ∀ p ∈ q.parameters, IsName p.1
  distinct : (Named.names q.parameters).Nodup
  operators : ∀ op ∈ q.operators, op.Spellable

/-- The query that the text of a query stands for. -/
def Query.reread (q : Query) : Query := { q with parameters := Parameters.reread q.parameters }

/-- The operators of a query, each on a line of its own. -/
def operatorLines (ops : List Operator) : List Char :=
  ops.flatMap fun op => '\n' :: '|' :: ' ' :: op.text.toList

theorem atGap_operatorLines (ops : List Operator) : AtGap (operatorLines ops ++ []) := by
  cases ops with
  | nil => simp [operatorLines]
  | cons op ops =>
    simp [operatorLines]
    decide

theorem reads_operatorLines {ops : List Operator} (h : ∀ op ∈ ops, op.Spellable) :
    Reads (operatorLines ops) [] fun ts =>
      ∃ stages : List (Terminal [.pipe] × Stage), ts = stageTokens stages ∧
        stages.map (·.2.operator) = ops := by
  induction ops with
  | nil => exact Reads.nil.mono fun _ h => ⟨[], h, rfl⟩
  | cons op ops ih =>
    have hmore := ih fun op' hop => h op' (by simp [hop])
    have hpipe (cs : List Char) : Reads ['|'] (' ' :: cs) fun ts => ∃ t : Terminal [.pipe],
        ts = [t.1] := Reads.symbol (by decide) (by simp)
    have hop := (reads_operator (h op (by simp)) (atGap_operatorLines ops)).gap
    have hline : Reads ('\n' :: (['|'] ++ (' ' :: op.text.toList))) (operatorLines ops ++ []) _ :=
      ((hpipe _).append hop).space (by decide)
    refine (hline.append hmore).mono ?_
    rintro - ⟨_, _, rfl, ⟨_, _, rfl, ⟨t, rfl⟩, s, rfl, rfl⟩, stages, rfl, rfl⟩
    exact ⟨(t, s) :: stages, rfl, rfl⟩

theorem closed_parameters (ps : Parameters) (hr : Closed rest) :
    Closed ((Parameters.text ps).toList ++ rest) := by
  cases ps with
  | nil => exact hr
  | cons p ps =>
    simp [Parameters.text]
    decide

/-- A call in the form with a pipe, and its operators. -/
theorem parse_of_reads {text provider tool : String} {arguments lines : List Char}
    {ps : Parameters} {ops : List Operator}
    (htext : text.toList = provider.toList ++ (' ' :: ['|'] ++
      (' ' :: (tool.toList ++ (arguments ++ lines)))))
    (hprovider : IsIdentifier provider) (htool : IsIdentifier tool)
    (hclosed : Closed (arguments ++ lines ++ []))
    (harguments : Reads arguments (lines ++ []) fun ts =>
      ∃ d : Arguments, ts = d.tokens ∧ d.parameters = ps)
    (hlines : Reads lines [] fun ts => ∃ stages : List (Terminal [.pipe] × Stage),
      ts = stageTokens stages ∧ stages.map (·.2.operator) = ops) :
    parse text = .ok ⟨provider, tool, ps, ops⟩ := by
  have hpipe (cs : List Char) : Reads ['|'] (' ' :: cs) fun ts => ∃ t : Terminal [.pipe],
      ts = [t.1] := Reads.symbol (by decide) (by simp)
  have hcall := (Reads.identifier htool hclosed).append (harguments.append hlines)
  have hread := (Reads.identifier hprovider (closed_space _)).append
    ((hpipe _).gap.append hcall.gap)
  rw [← htext] at hread
  obtain ⟨_, ⟨_, _, rfl, ⟨p, rfl, rfl⟩, _, _, rfl, ⟨pipe, rfl⟩, _, _, rfl, ⟨t, rfl, rfl⟩, _, _, rfl,
    ⟨d, rfl, rfl⟩, stages, rfl, rfl⟩, htokens⟩ := hread.tokenize
  exact parse_of_derivation ⟨p, pipe.among (by decide), t, d, stages⟩ htokens

/-- The text of a query is parsed as the query that it stands for. -/
theorem parse_text {q : Query} (h : q.Spellable) : parse q.text = .ok q.reread := by
  have hclosed : Closed ((Parameters.text q.parameters).toList ++
      operatorLines q.operators ++ []) := by
    rw [List.append_assoc]
    exact closed_parameters q.parameters (atGap_operatorLines q.operators).closed
  refine parse_of_reads ?_ h.provider h.tool hclosed (reads_parameters h.parameters h.distinct)
    (reads_operatorLines h.operators)
  show (q.provider ++ " | " ++ q.tool ++ Parameters.text q.parameters ++
    String.join (q.operators.map fun op => "\n| " ++ op.text)).toList = _
  simp [operatorLines, List.flatMap_map]

/-! ### Queries with finite numbers -/

def Value.isFinite : Value → Bool
  | .number x => x.isFinite
  | _ => true

theorem Value.reread_equals {v : Value} (h : v.isFinite = true) : v.reread.equals v = true := by
  cases v with
  | string s => simp [reread, equals]
  | number x =>
    have hx : x.isFinite = true := h
    rw [reread, if_pos hx, equals]
    exact Binary64.written_equals h
  | bool b => simp [reread, equals]

theorem Parameters.reread_equals {ps : Parameters} (hdistinct : (Named.names ps).Nodup)
    (hfinite : ∀ p ∈ ps, p.2.isFinite = true) : (Parameters.reread ps).equals ps = true := by
  simp only [equals, reread, List.length_map, decide_true, Bool.true_and, List.all_map,
    List.all_eq_true]
  intro p hp
  have hget : Named.get? ps p.1 = some p.2 := Named.get?_of_mem hdistinct hp
  simp [hget, Value.reread_equals (hfinite p hp)]

/-- Printing a query and parsing its text gives an equal query with the same order of parameters,
as long as its names can be spelled and its numbers are finite. -/
theorem parse_text_equals (q : Query) (h : q.Spellable)
    (hfinite : ∀ p ∈ q.parameters, p.2.isFinite = true) :
    ∃ r, parse q.text = .ok r ∧ r.equals q = true ∧
      Named.names r.parameters = Named.names q.parameters := by
  refine ⟨q.reread, parse_text h, ?_, Parameters.names_reread q.parameters⟩
  simp [Query.equals, Query.reread, Parameters.reread_equals h.distinct hfinite]

/-- A query with reserved words as names of parameters, a negative zero, and quotes, backslashes,
pipes and line ends in its texts. -/
def crowdedQuery : Query where
  provider := "git-hub"
  tool := "_issues"
  parameters := [("where", .string "it's | \\ \"\n"), ("True", .number (.zero true)),
    ("matches", .number (.ofScaled true 15 (-1))), ("n", .bool false), ("é", .string "")]
  operators := [.filter [⟨"state", .matches, "' and \\"⟩, ⟨"n", .lessEqual, "-1.50"⟩],
    .project ["a", "b-c"], .take 0xFFFFFFFFFFFFFFFF, .sort "a" false,
    .extend "e" "a  b|'", .extend "f" "x == y", .count]

theorem parse_text_crowdedQuery : crowdedQuery.Spellable ∧
    (∀ p ∈ crowdedQuery.parameters, p.2.isFinite = true) ∧
    ∃ r, parse crowdedQuery.text = .ok r ∧ r.equals crowdedQuery = true ∧
      Named.names r.parameters = Named.names crowdedQuery.parameters := by
  have hspellable : crowdedQuery.Spellable :=
    ⟨by decide, by decide, by decide, by decide, by decide⟩
  have hfinite : ∀ p ∈ crowdedQuery.parameters, p.2.isFinite = true := by decide
  exact ⟨hspellable, hfinite, parse_text_equals crowdedQuery hspellable hfinite⟩

end PipeQuery

import PipeQuery.Proofs.Grammar.Parsing
import PipeQuery.Proofs.Grammar.Spelling
import PipeQuery.Proofs.Lexer.Placement

/-! Spacing has no meaning. A lexeme that is the longest one where it stands is also the longest
one before a gap, so a text with other gaps between its lexemes has the same tokens at other
places, and the parser does not look at places. -/

namespace PipeQuery

open Grammar

/-- The second text has the lexemes of the first one, each the longest where it stands in the
first, with other runs of spaces before, between and behind them. The runs of the second text
between two lexemes are not empty: behind each lexeme the text ends or a space comes next. -/
inductive Respaced : List Char → List Char → Prop
  | spaces {gap gap' : List Char} (hgap : ∀ c ∈ gap, isSpace c = true)
    (hgap' : ∀ c ∈ gap', isSpace c = true) : Respaced gap gap'
  | lexeme {gap gap' cs cs' : List Char} {x : Lexeme} (hgap : ∀ c ∈ gap, isSpace c = true)
    (hgap' : ∀ c ∈ gap', isSpace c = true) (hx : Longest x (x.raw ++ cs)) (hnext : AtGap cs')
    (h : Respaced cs cs') : Respaced (gap ++ (x.raw ++ cs)) (gap' ++ (x.raw ++ cs'))

variable {text text' : String} {cs cs' : List Char} {ts : List Token}

/-- What follows a lexeme may be replaced by a gap. -/
theorem Longest.before_gap {x : Lexeme} (h : Longest x (x.raw ++ cs)) (hnext : AtGap cs') :
    Longest x (x.raw ++ cs') := by
  have halone : Longest x (x.raw ++ []) :=
    h.shorten (List.prefix_append _ _) (by simp)
  exact (halone.stands.append hnext).longest

/-- The tokens of both texts, with the same kinds and texts. -/
theorem Respaced.exists_tokenized (h : Respaced cs cs') (before before' : List Char) :
    ∃ ts us, Tokenized [] before cs ts ∧ Tokenized [] before' cs' us ∧ SameSpelling ts us := by
  induction h generalizing before before' with
  | spaces hgap hgap' => exact ⟨[], [], .done hgap, .done hgap', .nil⟩
  | @lexeme gap gap' cs cs' x hgap hgap' hx hnext _ ih =>
    obtain ⟨ts, us, hts, hus, hsame⟩ := ih (before ++ gap ++ x.raw) (before' ++ gap' ++ x.raw)
    have hx' := hx.before_gap hnext
    rw [← List.append_nil cs] at hx
    rw [← List.append_nil cs'] at hx'
    have htext := hx.isLexeme.spells_text
    exact ⟨_, _, .token hgap hx htext hts, .token hgap' hx' htext hus, .cons rfl hsame⟩

theorem Respaced.tokenize (h : Respaced text.toList text'.toList) (hts : tokenize text = .ok ts) :
    ∃ us, PipeQuery.tokenize text' = .ok us ∧ SameSpelling ts us := by
  obtain ⟨ts', us, hts', hus, hsame⟩ := h.exists_tokenized [] []
  obtain rfl : ts = ts' := by
    rw [tokenize_of_tokenized hts'] at hts
    exact (Except.ok.inj hts).symm
  exact ⟨us, tokenize_of_tokenized hus, hsame⟩

/-- A text that can be read as tokens has the same kinds and texts of tokens with other gaps, and
is parsed as the same query, or fails with the same message. -/
theorem parse_respaced (hts : tokenize text = .ok ts) (h : Respaced text.toList text'.toList) :
    (∃ us, tokenize text' = .ok us ∧ us.map Token.spelling = ts.map Token.spelling) ∧
      (parse text').mapError SyntaxError.message = (parse text).mapError SyntaxError.message := by
  obtain ⟨us, hus, hsame⟩ := h.tokenize hts
  refine ⟨⟨us, hus, (sameSpelling_iff.mp hsame).symm⟩, ?_⟩
  rw [parse_of_tokenize hts, parse_of_tokenize hus]
  exact parseTokens_eq_of_spelling hsame

/-- The blanks inside a string stay when a comparison gets gaps, and the message is about the same
token. -/
theorem parse_respaced_comparison :
    ∃ ts, tokenize "b>='c  d'" = .ok ts ∧
      Respaced "b>='c  d'".toList "b\n\t>= 'c  d'\r".toList ∧
      (∃ us, tokenize "b\n\t>= 'c  d'\r" = .ok us ∧
        us.map Token.spelling = ts.map Token.spelling) ∧
      (parse "b\n\t>= 'c  d'\r").mapError SyntaxError.message =
        (parse "b>='c  d'").mapError SyntaxError.message := by
  have hts : tokenize "b>='c  d'" = .ok
      [⟨.identifier, "b", ⟨1, 1⟩⟩, ⟨.operator, ">=", ⟨1, 2⟩⟩, ⟨.string, "c  d", ⟨1, 4⟩⟩] := by
    decide +kernel
  have htext : "b>='c  d'".toList = ['b', '>', '=', '\'', 'c', ' ', ' ', 'd', '\''] := by
    decide +kernel
  have htext' : "b\n\t>= 'c  d'\r".toList =
      ['b', '\n', '\t', '>', '=', ' ', '\'', 'c', ' ', ' ', 'd', '\'', '\r'] := by
    decide +kernel
  have hspaced : Respaced "b>='c  d'".toList "b\n\t>= 'c  d'\r".toList := by
    rw [htext, htext']
    refine @Respaced.lexeme [] [] _ _ ⟨.identifier, ['b']⟩ (by simp) (by simp)
      (scan_longest (by decide +kernel)) (stopsAt_cons.mpr rfl) ?_
    refine @Respaced.lexeme [] ['\n', '\t'] _ _ ⟨.operator, ['>', '=']⟩ (by simp)
      (by simp [isSpace]) (scan_longest (by decide +kernel)) (stopsAt_cons.mpr rfl) ?_
    refine @Respaced.lexeme [] [' '] _ _ ⟨.string, ['\'', 'c', ' ', ' ', 'd', '\'']⟩ (by simp)
      (by simp [isSpace]) (scan_longest (by decide +kernel)) (stopsAt_cons.mpr rfl) ?_
    exact .spaces (by simp) (by simp [isSpace])
  exact ⟨_, hts, hspaced, parse_respaced hts hspaced⟩

end PipeQuery

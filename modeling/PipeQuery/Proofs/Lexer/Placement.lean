import PipeQuery.Proofs.Lexer.Longest
import PipeQuery.Proofs.Lexer.Words

/-! The tokens of a text and their places. A text that can be read is runs of spaces with lexemes
between them, each the longest one where it stands; the place of a token counts the lines before it
and the characters before it in its line. Any other text can be read up to a character at which no
lexeme stands. -/

namespace PipeQuery

open Unicode

/-! ### Places -/

/-- The place behind some characters: one line more than there are line feeds, and one column more
than there are characters behind the last of them. -/
def Position.behind (before : List Char) : Position :=
  ⟨1 + before.count '\n', 1 + (before.reverse.takeWhile (· ≠ '\n')).length⟩

namespace Position

theorem step_behind (before : List Char) (c : Char) :
    (behind before).step c = behind (before ++ [c]) := by
  by_cases hc : c = '\n'
  · simp [step, behind, hc, Nat.add_comm]
  · simp [step, behind, hc, Nat.add_comm]

theorem after_behind (before cs : List Char) : (behind before).after cs = behind (before ++ cs) := by
  induction cs generalizing before with
  | nil => simp
  | cons c cs ih => rw [after_cons, step_behind, ih, List.append_assoc, List.singleton_append]

/-- No characters lead back to the place they start from. -/
theorem behind_append_eq_iff {before cs : List Char} :
    behind (before ++ cs) = behind before ↔ cs = [] := by
  refine ⟨fun h => ?_, fun h => by rw [h, List.append_nil]⟩
  obtain ⟨hline, hcolumn⟩ := Position.mk.inj h
  have hfeed : '\n' ∉ cs := by
    rw [List.count_append] at hline
    exact List.count_eq_zero.mp (by omega)
  have hrun : ∀ c ∈ cs.reverse, (c ≠ '\n' : Bool) = true := by
    intro c hc
    simp only [decide_eq_true_eq]
    rintro rfl
    exact hfeed (List.mem_reverse.mp hc)
  rw [List.reverse_append, List.takeWhile_append_of_pos hrun, List.length_append,
    List.length_reverse] at hcolumn
  exact List.eq_nil_of_length_eq_zero (by omega)

end Position

/-! ### Texts of tokens -/

/-- The body of a string and its content: an escaping backslash is dropped, and the character
behind it is kept whatever it is. -/
inductive Escaped : List Char → List Char → Prop
  | nil : Escaped [] []
  | escaped {c : Char} {cs ds : List Char} (h : Escaped cs ds) : Escaped ('\\' :: c :: cs) (c :: ds)
  | plain {c : Char} {cs ds : List Char} (hb : c ≠ '\\') (h : Escaped cs ds) :
    Escaped (c :: cs) (c :: ds)

/-- A lexeme and the text of its token: the content of a string, and any other lexeme itself. -/
inductive Spells : Lexeme → String → Prop
  | string {quote : Char} {body content : List Char} (h : Escaped body content) :
    Spells ⟨.string, quote :: (body ++ [quote])⟩ (String.ofList content)
  | verbatim {x : Lexeme} (hk : x.kind ≠ .string) : Spells x (String.ofList x.raw)

theorem Escaped.eq_unescape {body content : List Char} (h : Escaped body content) :
    content = unescape body := by
  induction h with
  | nil => rfl
  | escaped _ ih => rw [unescape, ih]
  | plain hb _ ih => simp [unescape, hb, ih]

theorem Quoted.escaped_unescape {quote : Char} {body : List Char} (h : Quoted quote body) :
    Escaped body (unescape body) := by
  induction h with
  | nil => exact .nil
  | escaped _ ih => exact .escaped ih
  | plain _ hb _ ih => simpa [unescape, hb] using Escaped.plain hb ih

theorem Spells.eq_text {x : Lexeme} {text : String} (h : Spells x text) : text = x.text := by
  cases h with
  | string h => simp [Lexeme.text, h.eq_unescape]
  | verbatim hk => rw [Lexeme.text, if_neg hk]

theorem IsLexeme.spells_text {x : Lexeme} (h : IsLexeme x) : Spells x x.text := by
  have hverbatim (hk : x.kind ≠ .string) : Spells x x.text := by
    rw [Lexeme.text, if_neg hk]
    exact .verbatim hk
  cases h with
  | symbol h =>
    have hall : ∀ x ∈ symbols, x.kind ≠ .string := by decide
    exact hverbatim (hall x h)
  | @string quote body _ hb =>
    have hspells : Spells ⟨.string, quote :: (body ++ [quote])⟩ (String.ofList (unescape body)) :=
      .string hb.escaped_unescape
    simpa [Lexeme.text] using hspells
  | number _ => exact hverbatim (by simp)
  | @word c cs _ =>
    have hword : TokenKind.ofWord (String.ofList (c :: cs)) ≠ .string :=
      TokenKind.ofWord_ne (by decide) _
    apply hverbatim
    simpa only using hword

/-! ### Texts as tokens -/

/-- The characters `cs` behind `before` and in front of `rest` are runs of spaces with lexemes
between them, each the longest one where it stands, and `ts` are the tokens of the lexemes. -/
inductive Tokenized (rest : List Char) : List Char → List Char → List Token → Prop
  | done {before gap : List Char} (hgap : ∀ c ∈ gap, isSpace c = true) :
    Tokenized rest before gap []
  | token {before gap cs : List Char} {x : Lexeme} {text : String} {ts : List Token}
    (hgap : ∀ c ∈ gap, isSpace c = true) (hx : Longest x (x.raw ++ (cs ++ rest)))
    (htext : Spells x text) (h : Tokenized rest (before ++ gap ++ x.raw) cs ts) :
    Tokenized rest before (gap ++ (x.raw ++ cs))
      (⟨x.kind, text, .behind (before ++ gap)⟩ :: ts)

/-- Why no token starts at a character: it opens a string that does not close, or it is no space
and no token pattern matches there. -/
inductive Stuck (c : Char) (cs : List Char) : SyntaxError.Cause → Prop
  | string (hq : isQuote c = true) (h : ∀ body, Quoted c body → ¬body ++ [c] <+: cs) :
    Stuck c cs .unterminatedString
  | character (hq : isQuote c = false) (hs : isSpace c = false) (h : NoLexeme (c :: cs)) :
    Stuck c cs (.unexpectedCharacter c)

variable {before cs rest : List Char} {ts : List Token}

theorem isSpace_of_isQuote {c : Char} (h : isQuote c = true) : isSpace c = false := by
  simp only [isQuote, Bool.or_eq_true, decide_eq_true_eq] at h
  rcases h with rfl | rfl <;> decide

/-- A string that does not close leaves a quote no other pattern. -/
theorem noLexeme_of_unclosed {c : Char} (hq : isQuote c = true)
    (h : ∀ body, Quoted c body → ¬body ++ [c] <+: cs) : NoLexeme (c :: cs) := by
  intro x hx hhead
  obtain ⟨body, hb, rfl⟩ := hx.of_quote_head hhead hq
  exact h body hb (List.cons_prefix_cons.mp hhead).2

theorem stuck_iff {c : Char} {cause : SyntaxError.Cause} :
    Stuck c cs cause ↔ isSpace c = false ∧ scan c cs = .error cause := by
  rw [scan_eq_error_iff]
  constructor
  · intro h
    cases h with
    | string hq h => exact ⟨isSpace_of_isQuote hq, noLexeme_of_unclosed hq h, by rw [if_pos hq]⟩
    | character hq hs h => exact ⟨hs, h, by rw [hq]; rfl⟩
  · rintro ⟨hs, h, rfl⟩
    cases hq : isQuote c with
    | true =>
      exact .string hq fun body hb hhead =>
        h _ (.string hq hb) (List.cons_prefix_cons.mpr ⟨rfl, hhead⟩)
    | false => exact .character hq hs h

namespace Tokenized

/-- What could be read stays as it is when less text follows. -/
theorem alone (h : Tokenized rest before cs ts) : Tokenized [] before cs ts := by
  induction h with
  | done hgap => exact .done hgap
  | @token before gap cs x text ts hgap hx htext _ ih =>
    refine .token hgap (hx.shorten (List.prefix_append _ _) ?_) htext ih
    exact (List.prefix_append_right_inj _).mpr (by simp)

/-- The lexer reads tokenized characters as their tokens and goes on behind them. -/
theorem tokens_eq (h : Tokenized rest before cs ts) :
    Lexer.tokens ⟨cs ++ rest, .behind before⟩ =
      (Lexer.tokens ⟨rest, .behind (before ++ cs)⟩).map (ts ++ ·) := by
  induction h with
  | @done before gap hgap =>
    rw [Lexer.tokens_spaces hgap, Position.after_behind]
    cases Lexer.tokens ⟨rest, .behind (before ++ gap)⟩ <;> rfl
  | @token before gap cs x text ts hgap hx htext _ ih =>
    rw [List.append_assoc, List.append_assoc, Lexer.tokens_spaces hgap,
      Lexer.tokens_stands hx.stands, Position.after_behind, Position.after_behind, ih,
      htext.eq_text]
    simp only [List.append_assoc]
    cases Lexer.tokens ⟨rest, .behind (before ++ (gap ++ (x.raw ++ cs)))⟩ <;> rfl

/-- The first token is that of the first lexeme. -/
theorem exists_cons {t : Token}
    (h : Tokenized rest before cs (t :: ts)) :
    ∃ gap x ds, cs = gap ++ (x.raw ++ ds) ∧ (∀ c ∈ gap, isSpace c = true) ∧ IsLexeme x ∧
      t.kind = x.kind ∧ t.text = x.text ∧ t.position = .behind (before ++ gap) ∧
      Tokenized rest (before ++ gap ++ x.raw) ds ts := by
  cases h with
  | token hgap hx htext h =>
    exact ⟨_, _, _, rfl, hgap, hx.isLexeme, rfl, htext.eq_text, rfl, h⟩

end Tokenized

/-- Every text can be read up to its end or up to a character at which no token starts. -/
theorem exists_tokenized (before cs : List Char) :
    ∃ ds rest ts, cs = ds ++ rest ∧ Tokenized rest before ds ts ∧
      ∀ c ds, rest = c :: ds → ∃ cause, Stuck c ds cause := by
  obtain ⟨rest, hsplit, hstop⟩ := exists_run isSpace cs
  have hgap := all_takeWhile isSpace cs
  cases rest with
  | nil =>
    rw [List.append_nil] at hsplit
    exact ⟨cs, [], [], by simp, .done (by rwa [← hsplit] at hgap), by simp⟩
  | cons c rest =>
    cases hscan : scan c rest with
    | error cause =>
      refine ⟨_, c :: rest, [], hsplit, .done hgap, fun d ds h => ?_⟩
      cases h
      exact ⟨cause, stuck_iff.mpr ⟨stopsAt_cons.mp hstop, hscan⟩⟩
    | ok x =>
      obtain ⟨more, heq, hx⟩ := scan_eq_ok_iff.mp hscan
      rw [heq] at hsplit
      have hlt : more.length < cs.length := by
        have hpos := List.length_pos_iff.mpr (scan_raw_ne_nil hscan)
        rw [hsplit, List.length_append, List.length_append]
        omega
      obtain ⟨ds, rest', ts, rfl, hts, hstuck⟩ :=
        exists_tokenized (before ++ cs.takeWhile isSpace ++ x.raw) more
      exact ⟨_, rest', _, by rw [List.append_assoc, List.append_assoc]; exact hsplit,
        .token hgap hx.longest hx.isLexeme.spells_text hts, hstuck⟩
termination_by cs.length

theorem tokenize_of_tokenized {text : String} (h : Tokenized [] [] text.toList ts) :
    tokenize text = .ok ts := by
  have hread := h.tokens_eq
  rw [List.append_nil, Lexer.tokens_nil, Except.map, List.append_nil] at hread
  exact hread

theorem tokenize_of_stuck {text : String} {c : Char} {cause : SyntaxError.Cause}
    (htext : text.toList = before ++ c :: rest) (h : Tokenized (c :: rest) [] before ts)
    (hstuck : Stuck c rest cause) : tokenize text = .error ⟨cause, .behind before⟩ := by
  have hread := h.tokens_eq
  obtain ⟨hspace, hscan⟩ := stuck_iff.mp hstuck
  rw [Lexer.tokens_fault hspace hscan, ← htext, List.nil_append] at hread
  exact hread

theorem tokenize_cases (text : String) :
    (∃ ts, tokenize text = .ok ts ∧ Tokenized [] [] text.toList ts) ∨
    ∃ before c rest ts cause, tokenize text = .error ⟨cause, .behind before⟩ ∧
      text.toList = before ++ c :: rest ∧ Tokenized (c :: rest) [] before ts ∧
      Stuck c rest cause := by
  obtain ⟨before, rest, ts, htext, hts, hstuck⟩ := exists_tokenized [] text.toList
  cases rest with
  | nil =>
    rw [List.append_nil] at htext
    rw [← htext] at hts
    exact .inl ⟨ts, tokenize_of_tokenized hts, hts⟩
  | cons c rest =>
    obtain ⟨cause, hcause⟩ := hstuck c rest rfl
    exact .inr ⟨before, c, rest, ts, cause, tokenize_of_stuck htext hts hcause, htext, hts, hcause⟩

theorem tokenized_of_tokenize {text : String} (h : tokenize text = .ok ts) :
    Tokenized [] [] text.toList ts := by
  rcases tokenize_cases text with ⟨us, hus, htokens⟩ | ⟨_, _, _, _, _, herror, -⟩
  · obtain rfl := Except.ok.inj (h.symm.trans hus)
    exact htokens
  · rw [h] at herror
    cases herror

/-- A text is read as tokens if it is made of spaces and longest lexemes, whose kinds, texts and
places the tokens have. It is refused at the first character at which no token starts, in front of
which all is made of spaces and longest lexemes and can be read alone. -/
theorem tokenize_eq_iff (text : String) :
    (∀ ts, tokenize text = .ok ts ↔ Tokenized [] [] text.toList ts) ∧
    ∀ e, tokenize text = .error e ↔ ∃ before c rest ts, text.toList = before ++ c :: rest ∧
      Tokenized (c :: rest) [] before ts ∧ tokenize (String.ofList before) = .ok ts ∧
      Stuck c rest e.cause ∧ e.position = .behind before := by
  refine ⟨fun ts => ⟨fun h => ?_, tokenize_of_tokenized⟩, fun e => ⟨fun h => ?_, ?_⟩⟩
  · rcases tokenize_cases text with ⟨us, hok, hus⟩ | ⟨before, c, rest, us, cause, herror, -⟩
    · rw [h] at hok
      cases hok
      exact hus
    · rw [h] at herror
      cases herror
  · rcases tokenize_cases text with
      ⟨us, hok, -⟩ | ⟨before, c, rest, us, cause, herror, htext, hus, hc⟩
    · rw [h] at hok
      cases hok
    · rw [h] at herror
      cases herror
      have halone : Tokenized [] [] (String.ofList before).toList us := by simpa using hus.alone
      exact ⟨before, c, rest, us, htext, hus, tokenize_of_tokenized halone, hc, rfl⟩
  · rintro ⟨before, c, rest, ts, htext, hts, -, hstuck, hplace⟩
    rw [tokenize_of_stuck htext hts hstuck, ← hplace]

end PipeQuery

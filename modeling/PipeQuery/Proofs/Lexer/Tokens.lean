import PipeQuery.Proofs.Lexer.Lexeme

/-! The tokens of a text, piece by piece. A space is dropped and a lexeme that stands at the head
becomes a token, whatever comes behind. `Reads cs rest P` says that the characters `cs` before
`rest` are read, wherever they are placed, as tokens of which `P` holds. -/

namespace PipeQuery

open Unicode

theorem IsLexeme.head {x : Lexeme} (h : IsLexeme x) :
    ∃ c cs, x.raw = c :: cs ∧ isSpace c = false := by
  cases h with
  | symbol h =>
    have hall : ∀ x ∈ symbols, x.raw ≠ [] ∧ x.raw.head?.any isSpace = false := by decide
    obtain ⟨hne, hspace⟩ := hall x h
    obtain ⟨c, cs, hraw⟩ := List.exists_cons_of_ne_nil hne
    exact ⟨c, cs, hraw, by simpa [hraw] using hspace⟩
  | @string quote body hq _ =>
    refine ⟨quote, _, rfl, ?_⟩
    simp only [isQuote, Bool.or_eq_true, decide_eq_true_eq] at hq
    rcases hq with rfl | rfl <;> decide
  | @number sign whole fraction h =>
    obtain ⟨c, cs, heq⟩ : ∃ c cs, sign ++ whole ++ fraction = c :: cs :=
      List.exists_cons_of_ne_nil (by simp [h.whole_ne_nil])
    have heq' : c :: cs = sign ++ (whole ++ (fraction ++ [])) := by simpa using heq.symm
    have hc : isWordPart c = true := isWordPart_head h heq'
    exact ⟨c, cs, heq, isSpace_of_isWordPart hc⟩
  | @word c cs h =>
    exact ⟨c, cs, rfl, isSpace_of_isWordPart (isWordPart_of_isWordStart h.start)⟩

namespace Lexer

theorem next_space {c : Char} (hc : isSpace c = true) (cs : List Char) (p : Position) :
    next ⟨c :: cs, p⟩ = next ⟨cs, p.step c⟩ := by
  simp [next, skipSpace, advance, hc]

theorem next_stands {x : Lexeme} {rest : List Char} (h : Stands x rest) (p : Position) :
    next ⟨x.raw ++ rest, p⟩ = (.token ⟨x.kind, x.text, p⟩, ⟨rest, p.after x.raw⟩) := by
  obtain ⟨c, cs, hraw, hspace⟩ := h.isLexeme.head
  have hscan : scan c (cs ++ rest) = .ok x := scan_eq_ok_iff.mpr ⟨rest, by rw [hraw]; rfl, h⟩
  have hskip : skipSpace ⟨x.raw ++ rest, p⟩ = ⟨x.raw ++ rest, p⟩ := by
    simp [skipSpace, advance, hraw, hspace]
  rw [next, hskip, read]
  simp only [hraw, List.cons_append, hscan, advance]
  simp

theorem tokens_congr {l m : Lexer} (h : l.next = m.next) : l.tokens = m.tokens := by
  rw [tokens, tokens, h]

theorem tokens_done {l m : Lexer} (h : l.next = (.done, m)) : l.tokens = .ok [] := by
  rw [tokens]
  split <;> simp_all

theorem tokens_token {l m : Lexer} {t : Token} (h : l.next = (.token t, m)) :
    l.tokens = m.tokens.map (t :: ·) := by
  rw [tokens]
  split
  · simp_all
  · simp_all
  · rename_i hnext
    rw [h] at hnext
    cases hnext
    cases m.tokens <;> rfl

@[simp] theorem tokens_nil (p : Position) : tokens ⟨[], p⟩ = .ok [] :=
  tokens_done (m := ⟨[], p⟩) rfl

theorem tokens_space {c : Char} (hc : isSpace c = true) (cs : List Char) (p : Position) :
    tokens ⟨c :: cs, p⟩ = tokens ⟨cs, p.step c⟩ :=
  tokens_congr (next_space hc cs p)

theorem tokens_spaces {gap : List Char} (hgap : ∀ c ∈ gap, isSpace c = true) (cs : List Char)
    (p : Position) : tokens ⟨gap ++ cs, p⟩ = tokens ⟨cs, p.after gap⟩ := by
  induction gap generalizing p with
  | nil => rfl
  | cons c gap ih =>
    rw [List.cons_append, tokens_space (hgap c (by simp)), ih fun d hd => hgap d (by simp [hd]),
      Position.after_cons]

theorem tokens_fault {c : Char} {cs : List Char} {cause : SyntaxError.Cause}
    (hspace : isSpace c = false) (h : scan c cs = .error cause) (p : Position) :
    tokens ⟨c :: cs, p⟩ = .error ⟨cause, p⟩ := by
  have hnext : next ⟨c :: cs, p⟩ = (.fault ⟨cause, p⟩, stopped ⟨c :: cs, p⟩ cause) := by
    simp [next, skipSpace, advance, hspace, read, h]
  rw [tokens]
  split <;> simp_all

theorem tokens_stands {x : Lexeme} {rest : List Char} (h : Stands x rest) (p : Position) :
    tokens ⟨x.raw ++ rest, p⟩ = (tokens ⟨rest, p.after x.raw⟩).map (⟨x.kind, x.text, p⟩ :: ·) :=
  tokens_token (next_stands h p)

end Lexer

/-! ### Reading a text piece by piece -/

/-- The characters `cs` before `rest` are read as tokens of which `P` holds. -/
def Reads (cs rest : List Char) (P : List Token → Prop) : Prop :=
  ∀ p : Position, ∃ ts, P ts ∧
    Lexer.tokens ⟨cs ++ rest, p⟩ = (Lexer.tokens ⟨rest, p.after cs⟩).map (ts ++ ·)

namespace Reads

variable {cs ds rest : List Char} {P Q : List Token → Prop}

theorem nil : Reads [] rest (· = []) := by
  intro p
  refine ⟨[], rfl, ?_⟩
  simp only [List.nil_append, Position.after_nil]
  cases Lexer.tokens ⟨rest, p⟩ <;> simp [Except.map]

theorem mono (h : Reads cs rest P) (hPQ : ∀ ts, P ts → Q ts) : Reads cs rest Q := by
  intro p
  obtain ⟨ts, hP, heq⟩ := h p
  exact ⟨ts, hPQ ts hP, heq⟩

theorem append (h : Reads cs (ds ++ rest) P) (h' : Reads ds rest Q) :
    Reads (cs ++ ds) rest fun ts => ∃ us vs, ts = us ++ vs ∧ P us ∧ Q vs := by
  intro p
  obtain ⟨us, hP, heq⟩ := h p
  obtain ⟨vs, hQ, heq'⟩ := h' (p.after cs)
  refine ⟨us ++ vs, ⟨us, vs, rfl, hP, hQ⟩, ?_⟩
  rw [List.append_assoc, heq, heq', Position.after_append]
  cases Lexer.tokens ⟨rest, (p.after cs).after ds⟩ <;> simp [Except.map]

/-- A space before a piece is dropped. -/
theorem space {c : Char} (hc : isSpace c = true) (h : Reads cs rest P) :
    Reads (c :: cs) rest P := by
  intro p
  obtain ⟨ts, hP, heq⟩ := h (p.step c)
  exact ⟨ts, hP, by rw [List.cons_append, Lexer.tokens_space hc, heq, Position.after_cons]⟩

theorem spaces {gap : List Char} (hgap : ∀ c ∈ gap, isSpace c = true) (h : Reads cs rest P) :
    Reads (gap ++ cs) rest P := by
  induction gap with
  | nil => exact h
  | cons c gap ih => exact (ih fun d hd => hgap d (by simp [hd])).space (hgap c (by simp))

/-- A lexeme before a piece becomes a token. -/
theorem lexeme {x : Lexeme} (hx : Stands x (cs ++ rest)) (h : Reads cs rest P) :
    Reads (x.raw ++ cs) rest fun ts => ∃ p us, ts = ⟨x.kind, x.text, p⟩ :: us ∧ P us := by
  intro p
  obtain ⟨us, hP, heq⟩ := h (p.after x.raw)
  refine ⟨⟨x.kind, x.text, p⟩ :: us, ⟨p, us, rfl, hP⟩, ?_⟩
  rw [List.append_assoc, Lexer.tokens_stands hx, heq, Position.after_append]
  cases Lexer.tokens ⟨rest, (p.after x.raw).after cs⟩ <;> simp [Except.map]

end Reads

theorem Reads.tokenize {text : String} {P : List Token → Prop} (h : Reads text.toList [] P) :
    ∃ ts, P ts ∧ tokenize text = .ok ts := by
  obtain ⟨ts, hP, heq⟩ := h .start
  refine ⟨ts, hP, ?_⟩
  rw [List.append_nil, Lexer.tokens_nil] at heq
  simpa [PipeQuery.tokenize, Lexer.ofText, Except.map] using heq

/-! ### Tokens of a text -/

namespace Lexer

theorem skipSpace_append {gap rest : List Char} (hgap : ∀ c ∈ gap, isSpace c = true)
    (hrest : StopsAt isSpace rest) (p : Position) :
    skipSpace ⟨gap ++ rest, p⟩ = ⟨rest, p.after gap⟩ := by
  simp [skipSpace, advance, takeWhile_append_of_stops hgap hrest]

theorem next_eq_done {cs : List Char} {p : Position} {m : Lexer} (h : next ⟨cs, p⟩ = (.done, m)) :
    ∀ c ∈ cs, isSpace c = true := by
  obtain ⟨ds, hsplit, hstop⟩ := exists_run isSpace cs
  have hgap := all_takeWhile isSpace cs
  generalize cs.takeWhile isSpace = gap at hsplit hgap
  subst hsplit
  rw [next, skipSpace_append hgap hstop] at h
  cases ds with
  | nil => simpa using hgap
  | cons c ds => cases hscan : scan c ds <;> simp [read, hscan] at h

/-- A token is a lexeme that stands at the first character that is no space. -/
theorem next_eq_token {cs : List Char} {p : Position} {t : Token} {m : Lexer}
    (h : next ⟨cs, p⟩ = (.token t, m)) :
    ∃ gap x rest, cs = gap ++ (x.raw ++ rest) ∧ (∀ c ∈ gap, isSpace c = true) ∧
      Stands x rest ∧ t = ⟨x.kind, x.text, p.after gap⟩ ∧
      m = ⟨rest, (p.after gap).after x.raw⟩ := by
  obtain ⟨ds, hsplit, hstop⟩ := exists_run isSpace cs
  have hgap := all_takeWhile isSpace cs
  generalize cs.takeWhile isSpace = gap at hsplit hgap
  subst hsplit
  rw [next, skipSpace_append hgap hstop] at h
  cases ds with
  | nil => simp [read] at h
  | cons c ds =>
    cases hscan : scan c ds with
    | error cause => simp [read, hscan] at h
    | ok x =>
      obtain ⟨rest, heq, hx⟩ := scan_eq_ok_iff.mp hscan
      simp only [read, hscan, Prod.mk.injEq, LexerStep.token.injEq] at h
      obtain ⟨rfl, rfl⟩ := h
      exact ⟨gap, x, rest, by rw [heq], hgap, hx, rfl, by simp [advance, heq]⟩

/-- Every token comes from a lexeme. -/
theorem exists_lexeme_of_mem {l : Lexer} {ts : List Token} (h : l.tokens = .ok ts) :
    ∀ t ∈ ts, ∃ x, IsLexeme x ∧ t.kind = x.kind ∧ t.text = x.text := by
  fun_induction Lexer.tokens l generalizing ts with
  | case1 => cases h; simp
  | case2 => cases h
  | case3 l t m hnext us hus ih =>
    cases h
    obtain ⟨gap, x, rest, -, -, hx, rfl, -⟩ := next_eq_token hnext
    intro t ht
    rcases List.mem_cons.mp ht with rfl | ht
    · exact ⟨x, hx.isLexeme, rfl, rfl⟩
    · exact ih hus t ht
  | case4 => cases h

end Lexer

/-- What the grammar sees of a token: its kind and its text. -/
def Token.spelling (t : Token) : TokenKind × String := (t.kind, t.text)

/-- A text that can be read alone is read as the same tokens before a gap. -/
theorem reads_of_tokens {l : Lexer} {rest : List Char} {ts : List Token} (h : l.tokens = .ok ts)
    (hrest : AtGap rest) :
    Reads l.rest rest fun us => us.map Token.spelling = ts.map Token.spelling := by
  fun_induction Lexer.tokens l generalizing ts with
  | case1 l m hnext =>
    cases h
    have hspace := Lexer.next_eq_done (p := l.position) hnext
    simpa using Reads.spaces hspace (Reads.nil.mono (by simp))
  | case2 => cases h
  | case3 l t m hnext us hus ih =>
    cases h
    obtain ⟨gap, x, cs, hcs, hgap, hx, rfl, rfl⟩ := Lexer.next_eq_token (p := l.position) hnext
    rw [hcs]
    refine .spaces hgap ((Reads.lexeme (hx.append hrest) (ih hus)).mono ?_)
    rintro - ⟨p, vs, rfl, hvs⟩
    simp [Token.spelling, hvs]
  | case4 => cases h

end PipeQuery

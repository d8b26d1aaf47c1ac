import PipeQuery.Proofs.Arithmetic.NumberText
import PipeQuery.Proofs.Grammar.Parsing
import PipeQuery.Query.Printer

/-! The pieces of a canonical text, each read as the token it was written for, provided that
nothing behind it continues it. Names are words, and what is quoted is read back whatever it is. -/

namespace PipeQuery

open Unicode Grammar

/-! ### Names -/

instance (c : Char) (cs : List Char) : Decidable (IsWord c cs) :=
  decidable_of_iff (isWordStart c = true ∧ cs.all isWordPart = true ∧
    startsNumber (c :: cs) = false)
    ⟨fun ⟨hs, hp, hn⟩ => ⟨hs, List.all_eq_true.mp hp, hn⟩,
      fun h => ⟨h.start, List.all_eq_true.mpr h.parts, h.notNumber⟩⟩

/-- The text is one word. -/
def IsName (text : String) : Prop :=
  match text.toList with
  | [] => False
  | c :: cs => IsWord c cs

instance (text : String) : Decidable (IsName text) :=
  match h : text.toList with
  | [] => .isFalse (by simp [IsName, h])
  | c :: cs => decidable_of_iff (IsWord c cs) (by simp [IsName, h])

/-- The text is one word without a meaning of its own. -/
def IsIdentifier (text : String) : Prop := IsName text ∧ TokenKind.ofWord text = .identifier

instance (text : String) : Decidable (IsIdentifier text) := inferInstanceAs (Decidable (_ ∧ _))

theorem IsName.exists_word {text : String} (h : IsName text) :
    ∃ c cs, text = String.ofList (c :: cs) ∧ IsWord c cs := by
  unfold IsName at h
  split at h
  · cases h
  · rename_i c cs heq
    exact ⟨c, cs, by rw [← heq, String.ofList_toList], h⟩

theorem IsWord.isName {c : Char} {cs : List Char} (h : IsWord c cs) :
    IsName (String.ofList (c :: cs)) := by
  simpa [IsName] using h

/-! ### Tokens -/

/-- What comes next continues neither a word nor a number. -/
abbrev Closed (rest : List Char) : Prop := StopsAt (fun c => isWordPart c || c = '.') rest

variable {rest : List Char}

theorem Closed.stopsAt_wordPart (h : Closed rest) : StopsAt isWordPart rest :=
  h.mono fun c hc => by simp [hc]

theorem Closed.stopsAt_digit (h : Closed rest) : StopsAt isDigit rest :=
  h.mono fun c hc => by simp [isWordPart_of_isDigit hc]

theorem Closed.fractionPart_eq (h : Closed rest) : fractionPart rest = [] := by
  rw [fractionPart_eq_nil_iff]
  rintro ds rfl
  simp at h

theorem AtGap.closed (h : AtGap rest) : Closed rest := by
  refine h.stopsAt fun c hc => ?_
  simp only [Bool.or_eq_true, decide_eq_true_eq] at hc
  rcases hc with hc | rfl
  · exact isSpace_of_isWordPart hc
  · decide

theorem closed_space (rest : List Char) : Closed (' ' :: rest) := AtGap.closed (by simp; decide)

/-- A lexeme becomes a token of its kind and its text. -/
theorem Reads.terminal {x : Lexeme} {kinds : List TokenKind} (hx : Stands x rest)
    (hk : x.kind ∈ kinds) :
    Reads x.raw rest fun ts => ∃ t : Terminal kinds, ts = [t.1] ∧ t.1.text = x.text := by
  have h : Reads (x.raw ++ []) rest _ := Reads.lexeme hx Reads.nil
  rw [List.append_nil] at h
  refine h.mono ?_
  rintro - ⟨p, _, rfl, rfl⟩
  exact ⟨⟨⟨x.kind, x.text, p⟩, hk⟩, rfl, rfl⟩

theorem Reads.symbol {kind : TokenKind} {raw : List Char} (hx : ⟨kind, raw⟩ ∈ symbols)
    (hr : rest.head? = some '=' → ⟨.operator, raw ++ ['=']⟩ ∉ symbols) :
    Reads raw rest fun ts => ∃ t : Terminal [kind], ts = [t.1] := by
  have hstands : Stands ⟨kind, raw⟩ rest := .symbol hx hr
  exact (Reads.terminal hstands (List.mem_singleton_self kind)).mono fun _ ⟨t, ht, _⟩ => ⟨t, ht⟩

theorem IsName.stands {text : String} {kind : TokenKind} (h : IsName text)
    (hk : TokenKind.ofWord text = kind) (hr : Closed rest) : Stands ⟨kind, text.toList⟩ rest := by
  obtain ⟨c, cs, rfl, hword⟩ := h.exists_word
  subst hk
  rw [String.toList_ofList]
  exact .word hword hr.stopsAt_wordPart

/-- The token of a word has the kind that the lexer gives to the word. -/
theorem Reads.word {text : String} {kind : TokenKind} (h : IsName text)
    (hk : TokenKind.ofWord text = kind) (hr : Closed rest) :
    Reads text.toList rest fun ts =>
      ∃ t : Terminal [kind], ts = [t.1] ∧ t.1.text = text := by
  have hne : kind ≠ .string := by
    rw [← hk]
    exact TokenKind.ofWord_ne (by decide) text
  have htext : Lexeme.text ⟨kind, text.toList⟩ = text := by simp [Lexeme.text, hne]
  have h := Reads.terminal (h.stands hk hr) (List.mem_singleton_self kind)
  rwa [htext] at h

theorem Reads.identifier {text : String} (h : IsIdentifier text) (hr : Closed rest) :
    Reads text.toList rest fun ts => ∃ t : Terminal [.identifier], ts = [t.1] ∧ t.1.text = text :=
  Reads.word h.1 h.2 hr

theorem Reads.keyword {text : String} {kind : TokenKind} (h : IsName text)
    (hk : TokenKind.ofWord text = kind) (hr : Closed rest) :
    Reads text.toList rest fun ts => ∃ t : Terminal [kind], ts = [t.1] :=
  (Reads.word h hk hr).mono fun _ ⟨t, ht, _⟩ => ⟨t, ht⟩

theorem isNaming_of_ofWord {t : Token} (hk : TokenKind.ofWord t.text = t.kind) : IsNaming t := by
  rcases TokenKind.ofWord_cases t.text with hmem | hident
  · have hall : ∀ x ∈ TokenKind.words, x.2 ∈ wordKinds ∨ x.2 = .operator := by decide
    rw [hk] at hmem
    rcases hall _ hmem with hkind | hop
    · exact .inl hkind
    · exact .inr ⟨hop, TokenKind.isAlphabetic_of_ofWord_eq_operator (hk.trans hop)⟩
  · exact .inl (by rw [← hk, hident]; decide)

/-- Every word may name a parameter. -/
theorem Reads.name {text : String} (h : IsName text) (hr : Closed rest) :
    Reads text.toList rest fun ts => ∃ t : Word, ts = [t.1] ∧ t.1.text = text := by
  refine (Reads.word h rfl hr).mono ?_
  rintro - ⟨t, rfl, htext⟩
  have hk : TokenKind.ofWord t.1.text = t.1.kind := by rw [htext, t.kind_eq]
  exact ⟨⟨t.1, isNaming_of_ofWord hk⟩, rfl, htext⟩

/-! ### Words of a text -/

/-- The token comes from a lexeme. -/
def FromLexeme (t : Token) : Prop := ∃ x, IsLexeme x ∧ t.kind = x.kind ∧ t.text = x.text

variable {t : Token}

theorem FromLexeme.isName (h : FromLexeme t)
    (hsymbol : ∀ x ∈ symbols, ¬(x.kind = t.kind ∧ x.text = t.text)) (hstring : t.kind ≠ .string)
    (hnumber : t.kind ≠ .number) : IsName t.text ∧ TokenKind.ofWord t.text = t.kind := by
  obtain ⟨x, hx, hkind, htext⟩ := h
  rw [hkind] at hstring hnumber
  obtain ⟨c, cs, hword, hraw, hk⟩ := hx.exists_word
    (fun hmem => hsymbol x hmem ⟨hkind.symm, htext.symm⟩) hstring hnumber
  rw [Lexeme.text, if_neg hstring, hraw] at htext
  rw [htext, hkind]
  exact ⟨hword.isName, hk⟩

theorem FromLexeme.isIdentifier (h : FromLexeme t) (hk : t.kind = .identifier) :
    IsIdentifier t.text := by
  have hall : ∀ x ∈ symbols, x.kind ≠ .identifier := by decide
  obtain ⟨hname, hword⟩ := h.isName (fun x hx heq => hall x hx (heq.1.trans hk)) (by simp [hk])
    (by simp [hk])
  exact ⟨hname, hword.trans hk⟩

theorem FromLexeme.isName_of_isNaming (h : FromLexeme t) (hn : IsNaming t) : IsName t.text := by
  have hall : ∀ x ∈ symbols, x.kind ∉ wordKinds ∧ x.text.toList.any (! isAlphabetic ·) = true := by
    decide
  have hne := Word.kind_ne ⟨t, hn⟩
  refine (h.isName (fun x hx heq => ?_) hne.1 hne.2).1
  obtain ⟨hkinds, hletters⟩ := hall x hx
  rcases hn with hmem | ⟨-, halpha⟩
  · exact hkinds (heq.1 ▸ hmem)
  · obtain ⟨c, hc, hnot⟩ := List.any_eq_true.mp hletters
    rw [heq.2] at hc
    simp [halpha c hc] at hnot

/-- A name is a text that the lexer reads as one word, whatever the meaning of the word. -/
theorem isName_iff {text : String} :
    IsName text ↔ ∃ t, tokenize text = .ok [t] ∧ IsNaming t ∧ t.text = text := by
  constructor
  · intro h
    obtain ⟨_, ⟨w, rfl, htext⟩, htokens⟩ := (Reads.name h stopsAt_nil).tokenize
    exact ⟨w.1, htokens, w.2, htext⟩
  · rintro ⟨t, htokens, hn, rfl⟩
    have hlexeme : FromLexeme t := Lexer.exists_lexeme_of_mem htokens t (List.mem_singleton_self t)
    exact hlexeme.isName_of_isNaming hn

/-- An identifier is a text that the lexer reads as one token of this kind. -/
theorem isIdentifier_iff {text : String} :
    IsIdentifier text ↔ ∃ t, tokenize text = .ok [t] ∧ t.kind = .identifier ∧ t.text = text := by
  constructor
  · intro h
    obtain ⟨_, ⟨t, rfl, htext⟩, htokens⟩ := (Reads.identifier h stopsAt_nil).tokenize
    exact ⟨t.1, htokens, t.kind_eq, htext⟩
  · rintro ⟨t, htokens, hk, rfl⟩
    have hlexeme : FromLexeme t := Lexer.exists_lexeme_of_mem htokens t (List.mem_singleton_self t)
    exact hlexeme.isIdentifier hk

/-! ### Literals -/

theorem quoted_escape (cs : List Char) : Quoted '\'' (escape cs) := by
  induction cs with
  | nil => exact .nil
  | cons c cs ih =>
    rw [escape]
    split_ifs with hc
    · exact .escaped ih
    · simp only [Bool.or_eq_true, decide_eq_true_eq, not_or] at hc
      exact .plain hc.1 hc.2 ih

theorem unescape_escape (cs : List Char) : unescape (escape cs) = cs := by
  induction cs with
  | nil => rfl
  | cons c cs ih =>
    rw [escape]
    split_ifs with hc
    · rw [unescape, ih]
    · rw [unescape, ih]
      rintro d ds rfl -
      exact hc (by decide)

theorem stands_quote (text : String) (rest : List Char) :
    Stands ⟨.string, (quote text).toList⟩ rest := by
  have hraw : (quote text).toList = '\'' :: (escape text.toList ++ ['\'']) := by simp [quote]
  rw [hraw]
  exact .string (by decide) (quoted_escape text.toList)

theorem text_quote (text : String) : Lexeme.text ⟨.string, (quote text).toList⟩ = text := by
  simp [Lexeme.text, quote, unescape_escape]

/-- A quoted text is read back, whatever it is and whatever comes behind. -/
theorem Reads.quote (text : String) (rest : List Char) :
    Reads (quote text).toList rest fun ts =>
      ∃ t : Terminal [.string], ts = [t.1] ∧ t.1.text = text := by
  refine (Reads.terminal (stands_quote text rest) (List.mem_singleton_self _)).mono ?_
  rintro - ⟨t, rfl, ht⟩
  exact ⟨t, rfl, ht.trans (text_quote text)⟩

theorem Reads.number {sign whole fraction : List Char} (h : IsNumber sign whole fraction)
    (hr : Closed rest) :
    Reads (sign ++ (whole ++ fraction)) rest fun ts => ∃ t : Terminal [.number], ts = [t.1] ∧
      t.1.text = String.ofList (sign ++ (whole ++ fraction)) := by
  have hstands : Stands ⟨.number, sign ++ whole ++ fraction⟩ rest :=
    .number h hr.stopsAt_digit fun _ => hr.fractionPart_eq
  rw [← List.append_assoc]
  exact Reads.terminal hstands (List.mem_singleton_self _)

/-! ### Values of conditions -/

/-- Digits with at most one point, and digits on both sides of it. -/
private theorem unsigned_iff {sign digits : List Char} (hsign : sign = [] ∨ sign = ['-']) :
    (!(Numeral.splitAt (· = '.') digits).1.isEmpty &&
      (Numeral.splitAt (· = '.') digits).1.all isDigit &&
      match (Numeral.splitAt (· = '.') digits).2 with
      | none => true
      | some cs => !cs.isEmpty && cs.all isDigit) = true ↔
    ∃ whole fraction, IsNumber sign whole fraction ∧ digits = whole ++ fraction := by
  constructor
  · intro h
    rcases hsplit : Numeral.splitAt (· = '.') digits with ⟨whole, _ | cs⟩
    · obtain rfl := Numeral.eq_of_splitAt_none hsplit
      simp only [hsplit, Bool.and_true, Bool.and_eq_true, Bool.not_eq_true'] at h
      exact ⟨digits, [], ⟨hsign, by simpa using h.1, List.all_eq_true.mp h.2, .none⟩, by simp⟩
    · obtain ⟨c, hc, rfl⟩ := Numeral.exists_of_splitAt_some hsplit
      obtain rfl : c = '.' := of_decide_eq_true hc
      simp only [hsplit, Bool.and_eq_true, Bool.not_eq_true'] at h
      obtain ⟨⟨hne, hwhole⟩, hcs, hdigits⟩ := h
      exact ⟨whole, '.' :: cs, ⟨hsign, by simpa using hne, List.all_eq_true.mp hwhole,
        .some (by simpa using hcs) (List.all_eq_true.mp hdigits)⟩, rfl⟩
  · rintro ⟨whole, fraction, hnumber, rfl⟩
    have hpoint : ∀ c ∈ whole, decide (c = '.') = false :=
      fun c hc => Numeral.isPoint_of_isDigit (hnumber.whole c hc)
    have hwhole := List.all_eq_true.mpr hnumber.whole
    cases hnumber.fraction with
    | none =>
      rw [List.append_nil, Numeral.splitAt_of_forall hpoint]
      simp [hnumber.whole_ne_nil, hwhole]
    | @some cs hcs hdigits =>
      have hfraction := List.all_eq_true.mpr hdigits
      rw [Numeral.splitAt_append hpoint (decide_eq_true rfl)]
      simp [hnumber.whole_ne_nil, hwhole, hcs, hfraction]

/-- The texts that stand for themselves as numbers are those of the number tokens. -/
theorem isNumberLiteral_iff_isNumber {text : String} :
    isNumberLiteral text = true ↔ ∃ sign whole fraction, IsNumber sign whole fraction ∧
      text.toList = sign ++ (whole ++ fraction) := by
  simp only [isNumberLiteral]
  split
  · rename_i cs htext
    refine (unsigned_iff (.inr rfl)).trans ⟨?_, ?_⟩
    · rintro ⟨whole, fraction, hnumber, rfl⟩
      exact ⟨['-'], whole, fraction, hnumber, htext⟩
    · rintro ⟨sign, whole, fraction, hnumber, heq⟩
      rw [htext] at heq
      rcases hnumber.sign with rfl | rfl
      · -- without a sign the text would start with a digit
        obtain ⟨w, ws, rfl, hw⟩ := hnumber.exists_cons
        exact absurd (List.cons.inj heq).1.symm (ne_minus_of_isDigit hw)
      · exact ⟨whole, fraction, hnumber, (List.cons.inj heq).2⟩
  · rename_i htext
    refine (unsigned_iff (.inl rfl)).trans ⟨?_, ?_⟩
    · rintro ⟨whole, fraction, hnumber, heq⟩
      exact ⟨[], whole, fraction, hnumber, heq⟩
    · rintro ⟨sign, whole, fraction, hnumber, heq⟩
      rcases hnumber.sign with rfl | rfl
      · exact ⟨whole, fraction, hnumber, heq⟩
      · exact absurd heq (htext _)

theorem isLatinLetter_of_latinLower {cs : List Char}
    (h : ∀ d ∈ latinLower cs, isLatinLetter d = true) : ∀ c ∈ cs, isLatinLetter c = true := by
  intro c hc
  have hd := h _ (List.mem_map_of_mem hc)
  split_ifs at hd with hcapital
  · simp only [Bool.and_eq_true, decide_eq_true_eq] at hcapital
    simp [isLatinLetter, hcapital]
  · exact hd

theorem isName_of_isLatinLetter {text : String} (hne : text.toList ≠ [])
    (h : ∀ c ∈ text.toList, isLatinLetter c = true) : IsName text := by
  obtain ⟨c, cs, hcons⟩ := List.exists_cons_of_ne_nil hne
  rw [hcons] at h
  have hc : isLatinLetter c = true := h c (by simp)
  have halpha := isAlphabetic_of_isLatinLetter hc
  have hminus : c ≠ '-' := by rintro rfl; exact absurd hc (by decide)
  have hdigit : isDigit c = false := by
    by_contra hd
    have := isDigit_iff.mp (by simpa using hd)
    have := isLatinLetter_iff.mp hc
    omega
  rw [IsName, hcons]
  refine ⟨by simp [isWordStart, halpha], fun d hd => ?_, ?_⟩
  · have := isAlphabetic_of_isLatinLetter (h d (by simp [hd]))
    simp [isWordPart, isAlphanumeric, this]
  · rw [startsNumber_cons, if_neg hminus, hdigit]

/-- A text that a word of Latin letters is the small form of is that word in another case. -/
theorem isName_of_latinLower {text word : String} (h : latinLower text.toList = word.toList)
    (hne : word.toList ≠ []) (hletters : word.toList.all isLatinLetter = true) :
    IsName text ∧ lowercase text = word := by
  rw [← h] at hne hletters
  have hlatin := isLatinLetter_of_latinLower (List.all_eq_true.mp hletters)
  refine ⟨isName_of_isLatinLetter (by rintro hnil; simp [hnil, latinLower] at hne) hlatin, ?_⟩
  have hlower := lowercase_of_lt fun c (hc : c ∈ text.toList) => by
    have := isLatinLetter_iff.mp (hlatin c hc)
    omega
  rw [String.ofList_toList] at hlower
  rw [hlower, h, String.ofList_toList]

theorem isName_of_isBooleanLiteral {text : String} (h : isBooleanLiteral text = true) :
    IsName text ∧ TokenKind.ofWord text = .boolean := by
  simp only [isBooleanLiteral, Bool.or_eq_true, decide_eq_true_eq] at h
  rcases h with h | h
  all_goals
    obtain ⟨hname, hlower⟩ := isName_of_latinLower h (by decide) (by decide)
    exact ⟨hname, by rw [TokenKind.ofWord, hlower]; decide⟩

/-- The value of a condition is read back, whatever it is. -/
theorem Reads.conditionLiteral (text : String) (hr : Closed rest) :
    Reads (conditionLiteral text).toList rest fun ts =>
      ∃ t : Terminal operandKinds, ts = [t.1] ∧ t.1.text = text := by
  unfold PipeQuery.conditionLiteral
  split_ifs with hbare
  · rcases Bool.or_eq_true_iff.mp hbare with hnumber | hboolean
    · obtain ⟨sign, whole, fraction, hnum, htext⟩ := isNumberLiteral_iff_isNumber.mp hnumber
      rw [htext]
      refine (Reads.number hnum hr).mono ?_
      rintro - ⟨t, rfl, ht⟩
      rw [← htext, String.ofList_toList] at ht
      exact ⟨t.among (by decide), rfl, ht⟩
    · obtain ⟨hname, hk⟩ := isName_of_isBooleanLiteral hboolean
      refine (Reads.word hname hk hr).mono ?_
      rintro - ⟨t, rfl, ht⟩
      exact ⟨t.among (by decide), rfl, ht⟩
  · refine (Reads.quote text rest).mono ?_
    rintro - ⟨t, rfl, ht⟩
    exact ⟨t.among (by decide), rfl, ht⟩

end PipeQuery

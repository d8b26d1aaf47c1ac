import PipeQuery.Proofs.Lexer.Placement
import PipeQuery.Proofs.Query.Pieces
import PipeQuery.Proofs.Unicode.Blank
import PipeQuery.Query.Validation

/-! The calls that are detected. Of the queries with a parenthesis behind the tool, the detector
finds those whose names start with a Latin letter or a low line and go on in word characters and
hyphens, and which have no space around a point. -/

namespace PipeQuery

open Unicode Grammar

/-! ### Characters -/

theorem isBlank_of_isWordPart {c : Char} (h : isWordPart c = true) : isBlank c = false := by
  by_contra hblank
  have hblank : isBlank c = true := by simpa using hblank
  simp only [isWordPart, isAlphanumeric_of_isBlank hblank, Bool.false_or, Bool.or_eq_true,
    decide_eq_true_eq] at h
  rcases h with rfl | rfl <;> exact absurd hblank (by decide)

namespace Detection

/-! ### Names -/

def isNameStart (c : Char) : Bool := isLatinLetter c || c = '_'

def isNamePart (c : Char) : Bool := isWord c || c = '-'

/-- A Latin letter or a low line, then word characters and hyphens. -/
def PlainName : List Char → Prop
  | [] => False
  | c :: cs => isNameStart c = true ∧ ∀ d ∈ cs, isNamePart d = true

instance (cs : List Char) : Decidable (PlainName cs) :=
  match cs with
  | [] => inferInstanceAs (Decidable False)
  | c :: cs => decidable_of_iff (isNameStart c = true ∧ cs.all isNamePart = true)
    (and_congr_right' List.all_eq_true)

/-- The symbols of a call; no name goes on into them. -/
def callSymbols : List Char := ['|', '.', '(']

variable {gap name cs rest ds : List Char} {text : String} {c d : Char}

/-- A space is blank and belongs to no name. -/
theorem classes_of_isSpace (h : isSpace c = true) :
    isBlank c = true ∧ isNameStart c = false ∧ isNamePart c = false := by
  simp only [isSpace, Bool.or_eq_true, decide_eq_true_eq] at h
  rcases h with ((rfl | rfl) | rfl) | rfl <;> decide

theorem classes_of_mem (h : c ∈ callSymbols) :
    isBlank c = false ∧ isNamePart c = false ∧ isWordPart c = false := by
  simp only [callSymbols, List.mem_cons, List.not_mem_nil, or_false] at h
  rcases h with rfl | rfl | rfl <;> decide

theorem dropWhile_of_stops {p : Char → Bool} (h : StopsAt p cs) : cs.dropWhile p = cs := by
  cases cs with
  | nil => rfl
  | cons c cs => rw [List.dropWhile_cons, if_neg (by simp [stopsAt_cons.mp h])]

theorem stopsAt_gap (hgap : ∀ c ∈ gap, isSpace c = true) (hd : d ∈ callSymbols) :
    StopsAt isNamePart (gap ++ d :: rest) := by
  refine StopsAt.append (fun c hc => ?_) (stopsAt_cons.mpr (classes_of_mem hd).2.1)
  exact (classes_of_isSpace (hgap c (List.mem_of_mem_head? hc))).2.2

theorem name?_cons (c : Char) (cs : List Char) :
    name? (c :: cs) = if isNameStart c then some (cs.dropWhile isNamePart) else none := rfl

theorem name?_plain (h : PlainName name) (hrest : StopsAt isNamePart rest) :
    name? (name ++ rest) = some rest := by
  cases name with
  | nil => cases h
  | cons c cs =>
    rw [List.cons_append, name?_cons, if_pos h.1, List.dropWhile_append_of_pos h.2,
      dropWhile_of_stops hrest]

/-- Of a name that is not plain a character of a word is left, if anything is taken. -/
theorem name?_word (hword : IsWord c cs) (hrest : StopsAt isNamePart rest)
    (h : name? (c :: cs ++ rest) = some ds) :
    PlainName (c :: cs) ∧ ds = rest ∨ ∃ d es, ds = d :: es ∧ isWordPart d = true := by
  rw [List.cons_append, name?_cons] at h
  split_ifs at h with hc
  obtain rfl := Option.some.inj h
  obtain ⟨more, hsplit, hmore⟩ := exists_run isNamePart cs
  have hrun := all_takeWhile isNamePart cs
  generalize cs.takeWhile isNamePart = run at hsplit hrun
  subst hsplit
  rw [List.append_assoc, List.dropWhile_append_of_pos hrun,
    dropWhile_of_stops (hmore.append hrest)]
  cases more with
  | nil =>
    rw [List.append_nil]
    exact .inl ⟨⟨hc, hrun⟩, rfl⟩
  | cons d es => exact .inr ⟨d, es ++ rest, rfl, hword.parts d (by simp)⟩

/-- What cannot start inside a word is found behind a name only if the name is plain. -/
theorem name?_bind {find : List Char → Option (List Char)} (htext : IsName text)
    (hrest : StopsAt isNamePart rest)
    (hfind : ∀ d es, isWordPart d = true → find (d :: es) = none) :
    (name? (text.toList ++ rest)).bind find = some ds ↔
      PlainName text.toList ∧ find rest = some ds := by
  obtain ⟨c, cs, rfl, hword⟩ := htext.exists_word
  rw [String.toList_ofList, Option.bind_eq_some_iff]
  constructor
  · rintro ⟨es, hname, hfound⟩
    rcases name?_word hword hrest hname with ⟨hplain, rfl⟩ | ⟨d, fs, rfl, hd⟩
    · exact ⟨hplain, hfound⟩
    · rw [hfind d fs hd] at hfound
      cases hfound
  · rintro ⟨hplain, hfound⟩
    exact ⟨rest, name?_plain hplain hrest, hfound⟩

/-! ### Symbols -/

theorem skipBlanks_append (hgap : ∀ c ∈ gap, isSpace c = true) (hc : isBlank c = false) :
    skipBlanks (gap ++ c :: rest) = c :: rest := by
  rw [skipBlanks,
    List.dropWhile_append_of_pos fun d hd => (classes_of_isSpace (hgap d hd)).1]
  exact dropWhile_of_stops (stopsAt_cons.mpr hc)

theorem skipBlanks_name (htext : IsName text) (hgap : ∀ c ∈ gap, isSpace c = true) :
    skipBlanks (gap ++ (text.toList ++ rest)) = text.toList ++ rest := by
  obtain ⟨c, cs, rfl, hword⟩ := htext.exists_word
  rw [String.toList_ofList, List.cons_append]
  exact skipBlanks_append hgap (isBlank_of_isWordPart (isWordPart_of_isWordStart hword.start))

theorem char?_eq_some_iff : char? c (d :: rest) = some ds ↔ d = c ∧ rest = ds := by
  rw [char?]
  split_ifs with hd <;> simp [hd]

theorem char?_wordPart (hc : c ∈ callSymbols) (hd : isWordPart d = true) :
    char? c (d :: rest) = none := by
  rw [char?, if_neg]
  rintro rfl
  rw [(classes_of_mem hc).2.2] at hd
  cases hd

/-- A symbol that may stand behind blanks is found behind a plain name and a gap. -/
theorem name?_skipBlanks_char? (htext : IsName text) (hgap : ∀ c ∈ gap, isSpace c = true)
    (hd : d ∈ callSymbols) (hc : c ∈ callSymbols) :
    ((name? (text.toList ++ (gap ++ d :: rest))).bind fun cs => char? c (skipBlanks cs)) =
      some ds ↔ PlainName text.toList ∧ d = c ∧ rest = ds := by
  rw [name?_bind htext (stopsAt_gap hgap hd) fun e es he => ?_,
    skipBlanks_append hgap (classes_of_mem hd).1, char?_eq_some_iff]
  rw [← List.nil_append (e :: es), skipBlanks_append (by simp) (isBlank_of_isWordPart he)]
  exact char?_wordPart hc he

/-- A symbol that may not is found behind a plain name only. -/
theorem name?_char? (htext : IsName text) (hgap : ∀ c ∈ gap, isSpace c = true)
    (hd : d ∈ callSymbols) (hc : c ∈ callSymbols) :
    (name? (text.toList ++ (gap ++ d :: rest))).bind (char? c) = some ds ↔
      PlainName text.toList ∧ gap = [] ∧ d = c ∧ rest = ds := by
  rw [name?_bind htext (stopsAt_gap hgap hd) fun e es he => char?_wordPart hc he]
  cases gap with
  | nil => simp [char?_eq_some_iff]
  | cons e es =>
    have hblank := (classes_of_isSpace (hgap e List.mem_cons_self)).1
    have hne : e ≠ c := by
      rintro rfl
      rw [(classes_of_mem hc).1] at hblank
      cases hblank
    simp [char?, hne]

/-! ### Calls -/

/-- A text up to the parenthesis of its call: two names with a symbol between them, and runs of
spaces around them. -/
structure CallHead where
  provider : String
  symbol : Char
  tool : String
  (margin left right gap : List Char)
  rest : List Char
  isName_provider : IsName provider
  symbol_eq : symbol = '|' ∨ symbol = '.'
  isName_tool : IsName tool
  margin_space : ∀ c ∈ margin, isSpace c = true
  left_space : ∀ c ∈ left, isSpace c = true
  right_space : ∀ c ∈ right, isSpace c = true
  gap_space : ∀ c ∈ gap, isSpace c = true

namespace CallHead

variable (h : CallHead)

def behindSymbol : List Char := h.right ++ (h.tool.toList ++ (h.gap ++ '(' :: h.rest))

def chars : List Char :=
  h.margin ++ (h.provider.toList ++ (h.left ++ h.symbol :: h.behindSymbol))

theorem symbol_mem : h.symbol ∈ callSymbols := by
  rcases h.symbol_eq with heq | heq <;> rw [heq] <;> decide

theorem startsCall_tool :
    startsCall (h.tool.toList ++ (h.gap ++ '(' :: h.rest)) = true ↔ PlainName h.tool.toList := by
  have hopening : '(' ∈ callSymbols := by decide
  rw [startsCall, Option.isSome_iff_exists]
  simp [name?_skipBlanks_char? h.isName_tool h.gap_space hopening hopening]

theorem startsPipeCall_iff : startsPipeCall h.chars = true ↔
    PlainName h.provider.toList ∧ h.symbol = '|' ∧ PlainName h.tool.toList := by
  have hpipe : '|' ∈ callSymbols := by decide
  rw [startsPipeCall, Option.any_eq_true, chars, skipBlanks_name h.isName_provider h.margin_space]
  simp only [name?_skipBlanks_char? h.isName_provider h.left_space h.symbol_mem hpipe]
  rw [← startsCall_tool, ← skipBlanks_name h.isName_tool h.right_space]
  constructor
  · rintro ⟨ds, ⟨hplain, hsymbol, rfl⟩, hcall⟩
    exact ⟨hplain, hsymbol, hcall⟩
  · rintro ⟨hplain, hsymbol, hcall⟩
    exact ⟨_, ⟨hplain, hsymbol, rfl⟩, hcall⟩

theorem startsCall_behindSymbol :
    startsCall h.behindSymbol = true ↔ h.right = [] ∧ PlainName h.tool.toList := by
  rw [← startsCall_tool, behindSymbol]
  have hspace := h.right_space
  generalize h.right = right at hspace ⊢
  cases right with
  | nil => simp
  | cons c cs =>
    have hc : isNameStart c = false := (classes_of_isSpace (hspace c List.mem_cons_self)).2.1
    simp [startsCall, name?_cons, hc]

theorem startsDotCall_iff : startsDotCall h.chars = true ↔
    PlainName h.provider.toList ∧ h.left = [] ∧ h.symbol = '.' ∧ h.right = [] ∧
      PlainName h.tool.toList := by
  have hpoint : '.' ∈ callSymbols := by decide
  rw [startsDotCall, Option.any_eq_true, chars, skipBlanks_name h.isName_provider h.margin_space,
    ← startsCall_behindSymbol]
  simp only [name?_char? h.isName_provider h.left_space h.symbol_mem hpoint]
  constructor
  · rintro ⟨ds, ⟨hplain, hleft, hsymbol, rfl⟩, hcall⟩
    exact ⟨hplain, hleft, hsymbol, hcall⟩
  · rintro ⟨hplain, hleft, hsymbol, hcall⟩
    exact ⟨_, ⟨hplain, hleft, hsymbol, rfl⟩, hcall⟩

theorem detected_iff {text : String} (htext : text.toList = h.chars) :
    looksLikeQuery text = true ↔ PlainName h.provider.toList ∧ PlainName h.tool.toList ∧
      (h.symbol = '.' → h.left = [] ∧ h.right = []) := by
  rw [looksLikeQuery, Bool.or_eq_true, htext, startsPipeCall_iff, startsDotCall_iff]
  rcases h.symbol_eq with hsymbol | hsymbol
  · simp [hsymbol]
  · simp only [hsymbol, Char.reduceEq, false_and, and_false, false_or, true_and, forall_const]
    tauto

end CallHead

end Detection

/-! ### Tokens of a call -/

variable {text : String} {provider separator tool opening : Token} {ts : List Token} {q : Query}

theorem Tokenized.exists_identifier {before cs rest : List Char} {t : Token}
    (h : Tokenized rest before cs (t :: ts)) (hk : t.kind = .identifier) :
    ∃ gap ds, cs = gap ++ (t.text.toList ++ ds) ∧ (∀ c ∈ gap, isSpace c = true) ∧
      IsName t.text ∧ t.position = .behind (before ++ gap) ∧
      Tokenized rest (before ++ gap ++ t.text.toList) ds ts := by
  obtain ⟨gap, x, ds, hcs, hgap, hx, hkind, htext, hplace, h⟩ := h.exists_cons
  have hraw : t.text.toList = x.raw := by
    rw [htext, Lexeme.text, if_neg (by simp [← hkind, hk]), String.toList_ofList]
  have hname : IsName t.text := (FromLexeme.isIdentifier ⟨x, hx, hkind, htext⟩ hk).1
  rw [hraw]
  exact ⟨gap, ds, hcs, hgap, hname, hplace, h⟩

theorem Tokenized.exists_symbol {before cs rest : List Char} {t : Token} {c : Char}
    (h : Tokenized rest before cs (t :: ts))
    (hc : ∀ x ∈ symbols, x.kind = t.kind → x.raw = [c])
    (hk : t.kind ∉ .string :: .number :: .identifier :: TokenKind.words.map (·.2)) :
    ∃ gap ds, cs = gap ++ c :: ds ∧ (∀ c ∈ gap, isSpace c = true) ∧
      t.position = .behind (before ++ gap) ∧ Tokenized rest (before ++ gap ++ [c]) ds ts := by
  obtain ⟨gap, x, ds, hcs, hgap, hx, hkind, -, hplace, h⟩ := h.exists_cons
  have hraw : x.raw = [c] := hc x (hx.mem_symbols (hkind ▸ hk)) hkind.symm
  rw [hraw] at hcs h
  exact ⟨gap, ds, hcs, hgap, hplace, h⟩

/-- The separator of a call stands for its kind. -/
theorem Tokenized.exists_separator {before cs rest : List Char} {t : Token}
    (h : Tokenized rest before cs (t :: ts)) (hk : t.kind ∈ [TokenKind.pipe, .dot]) :
    ∃ c gap ds, (c = '|' ∧ t.kind = .pipe ∨ c = '.' ∧ t.kind = .dot) ∧ cs = gap ++ c :: ds ∧
      (∀ c ∈ gap, isSpace c = true) ∧ t.position = .behind (before ++ gap) ∧
      Tokenized rest (before ++ gap ++ [c]) ds ts := by
  simp only [List.mem_cons, List.not_mem_nil, or_false] at hk
  rcases hk with hk | hk
  · obtain ⟨gap, ds, hsplit⟩ := h.exists_symbol (c := '|') (by rw [hk]; decide) (by rw [hk]; decide)
    exact ⟨'|', gap, ds, .inl ⟨rfl, hk⟩, hsplit⟩
  · obtain ⟨gap, ds, hsplit⟩ := h.exists_symbol (c := '.') (by rw [hk]; decide) (by rw [hk]; decide)
    exact ⟨'.', gap, ds, .inr ⟨rfl, hk⟩, hsplit⟩

/-- A query whose tool is followed by a parenthesis starts with the head of a call, in which two
neighbours touch if the second has the place behind the first. -/
theorem exists_callHead (hparse : parse text = .ok q)
    (hts : tokenize text = .ok (provider :: separator :: tool :: opening :: ts))
    (hopening : opening.kind = .openParen) :
    ∃ h : Detection.CallHead, text.toList = h.chars ∧ h.provider = q.provider ∧
      h.tool = q.tool ∧ (h.symbol = '.' ↔ separator.kind = .dot) ∧
      (separator.position = provider.position.after q.provider.toList ↔ h.left = []) ∧
      (tool.position = separator.position.after [h.symbol] ↔ h.right = []) := by
  obtain ⟨d, hd, rfl⟩ := exists_derivation hparse
  rw [hts, Derivation.tokens] at hd
  simp only [Except.ok.injEq, List.cons.injEq] at hd
  obtain ⟨rfl, rfl, rfl, -⟩ := hd
  obtain ⟨margin, cs₁, hcs, hmargin, hprovider, hpplace, h₁⟩ :=
    (tokenized_of_tokenize hts).exists_identifier d.provider.kind_eq
  obtain ⟨c, left, cs₂, hc, rfl, hleft, hsplace, h₂⟩ := h₁.exists_separator d.separator.2
  obtain ⟨right, cs₃, rfl, hright, htool, htplace, h₃⟩ := h₂.exists_identifier d.tool.kind_eq
  obtain ⟨gap, cs₄, rfl, hgap, -, -⟩ :=
    h₃.exists_symbol (c := '(') (by rw [hopening]; decide) (by rw [hopening]; decide)
  refine ⟨⟨d.provider.1.text, c, d.tool.1.text, margin, left, right, gap, cs₄, hprovider,
    hc.imp And.left And.left, htool, hmargin, hleft, hright, hgap⟩, hcs, rfl, rfl, ?_, ?_, ?_⟩
  · rcases hc with ⟨rfl, hk⟩ | ⟨rfl, hk⟩ <;> simp [hk]
  · rw [hsplace, hpplace, Position.after_behind]
    exact Position.behind_append_eq_iff
  · rw [htplace, hsplace, Position.after_behind]
    exact Position.behind_append_eq_iff

/-- A query with a parenthesis behind its tool is detected if its two names are plain and a point
between them touches both. -/
theorem looksLikeQuery_iff (hparse : parse text = .ok q)
    (hts : tokenize text = .ok (provider :: separator :: tool :: opening :: ts))
    (hopening : opening.kind = .openParen) :
    looksLikeQuery text = true ↔
      Detection.PlainName q.provider.toList ∧ Detection.PlainName q.tool.toList ∧
      (separator.kind = .dot → separator.position = provider.position.after q.provider.toList ∧
        tool.position = separator.position.after ['.']) := by
  obtain ⟨h, htext, hprovider, htool, hsymbol, hleft, hright⟩ :=
    exists_callHead hparse hts hopening
  rw [h.detected_iff htext, hprovider, htool, hleft, ← hsymbol]
  refine and_congr_right fun _ => and_congr_right fun _ => forall_congr' fun hdot => ?_
  rw [← hright, hdot]

/-- A name may have any letters behind the first one, and blanks may stand before a parenthesis. -/
theorem looksLikeQuery_umlaut :
    parse " größe.list-issues\t( )" = .ok ⟨"größe", "list-issues", [], []⟩ ∧
    looksLikeQuery " größe.list-issues\t( )" = true := by
  have hparse : parse " größe.list-issues\t( )" = .ok ⟨"größe", "list-issues", [], []⟩ := by
    decide +kernel
  have hts : tokenize " größe.list-issues\t( )" = .ok
      [⟨.identifier, "größe", ⟨1, 2⟩⟩, ⟨.dot, ".", ⟨1, 7⟩⟩, ⟨.identifier, "list-issues", ⟨1, 8⟩⟩,
        ⟨.openParen, "(", ⟨1, 20⟩⟩, ⟨.closeParen, ")", ⟨1, 22⟩⟩] := by decide +kernel
  refine ⟨hparse, (looksLikeQuery_iff hparse hts rfl).mpr ⟨?_, ?_, fun _ => ?_⟩⟩
  · decide +kernel
  · decide +kernel
  · decide +kernel

/-- Calls that are not detected: with spaces at the point, and with a hyphen or a letter that is not
a plain one in front. -/
theorem looksLikeQuery_missed :
    (parse "a . b()" = .ok ⟨"a", "b", [], []⟩ ∧
      tokenize "a . b()" = .ok
        [⟨.identifier, "a", ⟨1, 1⟩⟩, ⟨.dot, ".", ⟨1, 3⟩⟩, ⟨.identifier, "b", ⟨1, 5⟩⟩,
          ⟨.openParen, "(", ⟨1, 6⟩⟩, ⟨.closeParen, ")", ⟨1, 7⟩⟩] ∧
      looksLikeQuery "a . b()" = false) ∧
    (parse "-a | b()" = .ok ⟨"-a", "b", [], []⟩ ∧
      tokenize "-a | b()" = .ok
        [⟨.identifier, "-a", ⟨1, 1⟩⟩, ⟨.pipe, "|", ⟨1, 4⟩⟩, ⟨.identifier, "b", ⟨1, 6⟩⟩,
          ⟨.openParen, "(", ⟨1, 7⟩⟩, ⟨.closeParen, ")", ⟨1, 8⟩⟩] ∧
      looksLikeQuery "-a | b()" = false) ∧
    parse "é | b()" = .ok ⟨"é", "b", [], []⟩ ∧
      tokenize "é | b()" = .ok
        [⟨.identifier, "é", ⟨1, 1⟩⟩, ⟨.pipe, "|", ⟨1, 3⟩⟩, ⟨.identifier, "b", ⟨1, 5⟩⟩,
          ⟨.openParen, "(", ⟨1, 6⟩⟩, ⟨.closeParen, ")", ⟨1, 7⟩⟩] ∧
      looksLikeQuery "é | b()" = false := by
  decide +kernel

end PipeQuery

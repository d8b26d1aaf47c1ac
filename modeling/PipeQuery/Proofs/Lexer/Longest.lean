import PipeQuery.Proofs.Lexer.Tokens

/-! The scanner takes the longest lexeme. Of all lexemes at the head of a text the one that does
not go on into the rest is the longest, and no other one is as long; where the scanner takes none,
there is none. -/

namespace PipeQuery

open Unicode

/-- Of the lexemes at the head of the text, `x` is one, and all others are shorter. -/
structure Longest (x : Lexeme) (cs : List Char) : Prop where
  isLexeme : IsLexeme x
  head : x.raw <+: cs
  longest : ∀ y, IsLexeme y → y.raw <+: cs → y = x ∨ y.raw.length < x.raw.length

/-- No token pattern matches at the head of the text. -/
def NoLexeme (cs : List Char) : Prop := ∀ x, IsLexeme x → ¬x.raw <+: cs

theorem Longest.unique {x y : Lexeme} {cs : List Char} (hx : Longest x cs) (hy : Longest y cs) :
    x = y := by
  rcases hy.longest x hx.isLexeme hx.head with heq | hlt
  · exact heq
  · rcases hx.longest y hy.isLexeme hy.head with heq | hgt
    · exact heq.symm
    · omega

/-- A longest lexeme is longest also in less text that holds it. -/
theorem Longest.shorten {x : Lexeme} {cs ds : List Char} (h : Longest x ds) (hx : x.raw <+: cs)
    (hcs : cs <+: ds) : Longest x cs :=
  ⟨h.isLexeme, hx, fun y hy hhead => h.longest y hy (hhead.trans hcs)⟩

/-! ### Runs of characters -/

/-- A run that stops takes in every other run from the same place. -/
theorem run_prefix {p : Char → Bool} {xs ys rs ss : List Char} (hxs : ∀ c ∈ xs, p c = true)
    (hys : ∀ c ∈ ys, p c = true) (hr : StopsAt p rs) (heq : xs ++ rs = ys ++ ss) :
    ys <+: xs := by
  have hx : (xs ++ rs).takeWhile p = xs := takeWhile_append_of_stops hxs hr
  rw [heq, List.takeWhile_append_of_pos hys] at hx
  exact ⟨_, hx⟩

/-! ### Classes of first characters -/

theorem symbol_head {x : Lexeme} (h : x ∈ symbols) {c : Char} {cs : List Char}
    (hraw : x.raw = c :: cs) : isQuote c = false ∧ isWordPart c = false := by
  have hall : ∀ x ∈ symbols, x.raw.head?.all (fun d => !isQuote d && !isWordPart d) = true := by
    decide
  simpa [hraw] using hall x h

/-- The first character of a lexeme tells symbols, strings, and numbers and words apart. -/
theorem IsLexeme.cases_head {y : Lexeme} (h : IsLexeme y) {c : Char} {cs : List Char}
    (hhead : y.raw <+: c :: cs) :
    (isQuote c = false ∧ isWordPart c = false ∧ y ∈ symbols) ∨
    (isQuote c = true ∧ ∃ body, Quoted c body ∧ y = ⟨.string, c :: (body ++ [c])⟩) ∨
    (isQuote c = false ∧ isWordPart c = true ∧
      ((∃ sign whole fraction, IsNumber sign whole fraction ∧
        y = ⟨.number, sign ++ whole ++ fraction⟩) ∨
      ∃ ds, IsWord c ds ∧ y = ⟨TokenKind.ofWord (String.ofList (c :: ds)), c :: ds⟩)) := by
  cases h with
  | symbol h =>
    have hne : ∀ x ∈ symbols, x.raw ≠ [] := by decide
    obtain ⟨d, ds, hraw⟩ := List.exists_cons_of_ne_nil (hne y h)
    obtain rfl : d = c := (List.cons_prefix_cons.mp (hraw ▸ hhead)).1
    exact .inl ⟨(symbol_head h hraw).1, (symbol_head h hraw).2, h⟩
  | @string quote body hq hb =>
    obtain rfl : quote = c := (List.cons_prefix_cons.mp hhead).1
    exact .inr (.inl ⟨hq, body, hb, rfl⟩)
  | @number sign whole fraction h =>
    obtain ⟨rest, heq⟩ := hhead
    have hc : isWordPart c = true := isWordPart_head h (by simpa using heq.symm)
    exact .inr (.inr ⟨isQuote_of_isWordPart hc, hc, .inl ⟨sign, whole, fraction, h, rfl⟩⟩)
  | @word d ds h =>
    obtain rfl : d = c := (List.cons_prefix_cons.mp hhead).1
    have hc := isWordPart_of_isWordStart h.start
    exact .inr (.inr ⟨isQuote_of_isWordPart hc, hc, .inr ⟨ds, h, rfl⟩⟩)

section Heads

variable {y : Lexeme} {c : Char} {cs : List Char}

theorem IsLexeme.of_quote_head (h : IsLexeme y) (hhead : y.raw <+: c :: cs)
    (hq : isQuote c = true) : ∃ body, Quoted c body ∧ y = ⟨.string, c :: (body ++ [c])⟩ := by
  rcases h.cases_head hhead with ⟨hq', -⟩ | ⟨-, hstring⟩ | ⟨hq', -⟩
  · simp [hq] at hq'
  · exact hstring
  · simp [hq] at hq'

theorem IsLexeme.of_wordPart_head (h : IsLexeme y) (hhead : y.raw <+: c :: cs)
    (hc : isWordPart c = true) :
    (∃ sign whole fraction, IsNumber sign whole fraction ∧
      y = ⟨.number, sign ++ whole ++ fraction⟩) ∨
    ∃ ds, IsWord c ds ∧ y = ⟨TokenKind.ofWord (String.ofList (c :: ds)), c :: ds⟩ := by
  rcases h.cases_head hhead with ⟨-, hc', -⟩ | ⟨hq, -⟩ | ⟨-, -, hnumberOrWord⟩
  · simp [hc] at hc'
  · simp [isQuote_of_isWordPart hc] at hq
  · exact hnumberOrWord

theorem IsLexeme.of_symbol_head (h : IsLexeme y) (hhead : y.raw <+: c :: cs)
    (hq : isQuote c = false) (hc : isWordPart c = false) : y ∈ symbols := by
  rcases h.cases_head hhead with ⟨-, -, hmem⟩ | ⟨hq', -⟩ | ⟨-, hc', -⟩
  · exact hmem
  · simp [hq] at hq'
  · simp [hc] at hc'

end Heads

/-! ### The longest lexeme -/

variable {c : Char} {rest : List Char}

theorem eq_or_length_lt {x y : Lexeme} (h : y.raw <+: x.raw) (heq : y.raw = x.raw → y = x) :
    y = x ∨ y.raw.length < x.raw.length := by
  rcases Nat.lt_or_eq_of_le h.length_le with hlt | hlen
  · exact .inr hlt
  · exact .inl (heq (h.eq_of_length hlen))

/-- A symbol that extends another one does so by an equals sign. -/
theorem longest_symbol {x y : Lexeme} (hx : x ∈ symbols) (hy : y ∈ symbols)
    (hr : rest.head? = some '=' → ⟨.operator, x.raw ++ ['=']⟩ ∉ symbols)
    (hhead : y.raw <+: x.raw ++ rest) : y = x ∨ y.raw.length < x.raw.length := by
  have hsame : ∀ x ∈ symbols, ∀ y ∈ symbols, y.raw = x.raw → y = x := by decide
  have hlonger : ∀ x ∈ symbols, ∀ y ∈ symbols, x.raw <+: y.raw → x.raw.length < y.raw.length →
      y = ⟨.operator, x.raw ++ ['=']⟩ := by decide
  rcases List.prefix_or_prefix_of_prefix hhead (List.prefix_append x.raw rest) with hyx | hxy
  · exact eq_or_length_lt hyx (hsame x hx y hy)
  · rcases Nat.lt_or_eq_of_le hxy.length_le with hlt | hlen
    · obtain rfl := hlonger x hx y hy hxy hlt
      obtain ⟨more, hmore⟩ := hhead
      have hrest : '=' :: more = rest := by simpa using hmore
      exact absurd hy (hr (by rw [← hrest]; rfl))
    · exact .inl (hsame x hx y hy (hxy.eq_of_length hlen).symm)

/-- A quoted text has one body, since no other quote than the closing one stands alone. -/
theorem Quoted.unique {body body' rest' : List Char} (hc : c ≠ '\\') (hb : Quoted c body)
    (hb' : Quoted c body') (heq : body ++ c :: rest = body' ++ c :: rest') : body = body' := by
  have hpart := (quotedPart_eq_some_iff hc).mpr ⟨body, rest, rfl, rfl, hb⟩
  have hpart' := (quotedPart_eq_some_iff hc).mpr ⟨body', rest', heq, rfl, hb'⟩
  rw [hpart] at hpart'
  exact List.append_cancel_right (Option.some.inj hpart')

theorem ne_backslash_of_isQuote (h : isQuote c = true) : c ≠ '\\' := by
  rintro rfl
  exact absurd h (by decide)

theorem IsFraction.prefix_of_stops {fraction fraction' rest' : List Char}
    (h : IsFraction fraction) (h' : IsFraction fraction') (hd : StopsAt isDigit rest)
    (hr : fraction = [] → fractionPart rest = [])
    (heq : fraction ++ rest = fraction' ++ rest') : fraction' <+: fraction := by
  cases h' with
  | none => exact List.nil_prefix
  | @some ds' hne' hds' =>
    cases h with
    | none =>
      have hstop := fractionPart_eq_nil_iff.mp (hr rfl) (ds' ++ rest') heq
      obtain ⟨d, ds, rfl⟩ := List.exists_cons_of_ne_nil hne'
      have hdigit := hds' d List.mem_cons_self
      rw [stopsAt_cons.mp hstop] at hdigit
      cases hdigit
    | some hne hds =>
      have htail := run_prefix hds hds' hd (List.cons.inj heq).2
      exact List.cons_prefix_cons.mpr ⟨rfl, htail⟩

theorem IsNumber.sign_eq {sign whole fraction sign' whole' fraction' rest' : List Char}
    (h : IsNumber sign whole fraction) (h' : IsNumber sign' whole' fraction')
    (heq : sign ++ (whole ++ rest) = sign' ++ (whole' ++ rest')) : sign = sign' := by
  obtain ⟨w, ws, rfl, hw⟩ := h.exists_cons
  obtain ⟨w', ws', rfl, hw'⟩ := h'.exists_cons
  rcases h.sign with rfl | rfl <;> rcases h'.sign with rfl | rfl
  · rfl
  · exact absurd (List.cons.inj heq).1 (ne_minus_of_isDigit hw)
  · exact absurd (List.cons.inj heq).1.symm (ne_minus_of_isDigit hw')
  · rfl

theorem IsNumber.prefix_of_stops {sign whole fraction sign' whole' fraction' rest' : List Char}
    (h : IsNumber sign whole fraction) (h' : IsNumber sign' whole' fraction')
    (hd : StopsAt isDigit rest) (hr : fraction = [] → fractionPart rest = [])
    (heq : sign ++ (whole ++ (fraction ++ rest)) = sign' ++ (whole' ++ (fraction' ++ rest'))) :
    sign' ++ whole' ++ fraction' <+: sign ++ whole ++ fraction := by
  obtain rfl := h.sign_eq h' heq
  have heq := List.append_cancel_left heq
  have hstop : StopsAt isDigit (fraction ++ rest) := by
    cases h.fraction with
    | none => exact hd
    | some _ _ => simp; decide
  obtain ⟨more, rfl⟩ := run_prefix h.whole h'.whole hstop heq
  rw [List.append_assoc] at heq
  have heq := List.append_cancel_left heq
  cases more with
  | nil =>
    rw [List.append_nil]
    exact (List.prefix_append_right_inj _).mpr
      (h.fraction.prefix_of_stops h'.fraction hd hr heq)
  | cons m ms =>
    -- the shorter run of digits goes on, so no point can follow it
    have hm : isDigit m = true := h.whole m (by simp)
    cases h'.fraction with
    | none => exact ⟨m :: ms ++ fraction, by simp⟩
    | some _ _ =>
      obtain rfl : m = '.' := (List.cons.inj heq).1
      exact absurd hm (by decide)

theorem IsNumber.startsNumber_of_prefix {sign whole fraction cs : List Char}
    (h : IsNumber sign whole fraction) (hhead : sign ++ whole ++ fraction <+: cs) :
    PipeQuery.startsNumber cs = true := by
  obtain ⟨rest, rfl⟩ := hhead
  rw [List.append_assoc, List.append_assoc]
  exact h.startsNumber (fraction ++ rest)

/-- The only word at the head of a number is a single minus sign. -/
theorem IsWord.eq_nil_of_startsNumber {cs rest' : List Char} (h : IsWord c cs)
    (hn : PipeQuery.startsNumber (c :: (cs ++ rest')) = true) : c = '-' ∧ cs = [] := by
  have hword := h.notNumber
  rw [startsNumber_cons] at hword hn
  split_ifs at hword hn with hc
  · cases cs with
    | nil => exact ⟨hc, rfl⟩
    | cons d ds =>
      have hd : isDigit d = true := by simpa using hn
      rw [List.head?_cons, Option.any_some, hd] at hword
      cases hword
  · rw [hword] at hn
    cases hn

theorem IsNumber.two_le_length {sign whole fraction cs : List Char}
    (h : IsNumber sign whole fraction) (heq : '-' :: cs = sign ++ whole ++ fraction ++ rest) :
    2 ≤ (sign ++ whole ++ fraction).length := by
  obtain ⟨w, ws, rfl, hw⟩ := h.exists_cons
  rcases h.sign with rfl | rfl
  · exact absurd (List.cons.inj heq).1.symm (ne_minus_of_isDigit hw)
  · simp

theorem longest_string {y : Lexeme} {body : List Char} (hq : isQuote c = true)
    (hb : Quoted c body) (hy : IsLexeme y) (hhead : y.raw <+: c :: (body ++ [c]) ++ rest) :
    y = ⟨.string, c :: (body ++ [c])⟩ ∨ y.raw.length < (c :: (body ++ [c])).length := by
  obtain ⟨body', hb', rfl⟩ := hy.of_quote_head hhead hq
  obtain ⟨rest', heq⟩ := hhead
  have hbody : body ++ c :: rest = body' ++ c :: rest' := by simpa using heq.symm
  obtain rfl := hb.unique (ne_backslash_of_isQuote hq) hb' hbody
  exact .inl rfl

theorem longest_number {y : Lexeme} {sign whole fraction : List Char}
    (h : IsNumber sign whole fraction) (hd : StopsAt isDigit rest)
    (hr : fraction = [] → fractionPart rest = []) (hy : IsLexeme y)
    (hhead : y.raw <+: sign ++ whole ++ fraction ++ rest) :
    y = ⟨.number, sign ++ whole ++ fraction⟩ ∨
      y.raw.length < (sign ++ whole ++ fraction).length := by
  obtain ⟨c, cs, hcs⟩ : ∃ c cs, sign ++ whole ++ fraction ++ rest = c :: cs :=
    List.exists_cons_of_ne_nil (by simp [h.whole_ne_nil])
  have hc : isWordPart c = true := isWordPart_head h (by simpa using hcs.symm)
  rcases hy.of_wordPart_head (hcs ▸ hhead) hc with
    ⟨sign', whole', fraction', h', rfl⟩ | ⟨ds, hword, rfl⟩
  · obtain ⟨rest', heq⟩ := hhead
    have htext : sign ++ (whole ++ (fraction ++ rest)) =
        sign' ++ (whole' ++ (fraction' ++ rest')) := by simpa using heq.symm
    exact eq_or_length_lt (h.prefix_of_stops h' hd hr htext) (congrArg (Lexeme.mk .number))
  · obtain ⟨rest', heq⟩ := hhead
    have hstart := h.startsNumber_of_prefix (List.prefix_append _ rest)
    rw [← heq] at hstart
    obtain ⟨rfl, rfl⟩ := hword.eq_nil_of_startsNumber hstart
    exact .inr (h.two_le_length heq)

theorem longest_word {y : Lexeme} {cs : List Char} (h : IsWord c cs)
    (hr : StopsAt isWordPart rest) (hy : IsLexeme y) (hhead : y.raw <+: c :: cs ++ rest) :
    y = ⟨TokenKind.ofWord (String.ofList (c :: cs)), c :: cs⟩ ∨
      y.raw.length < (c :: cs).length := by
  have hc := isWordPart_of_isWordStart h.start
  rcases hy.of_wordPart_head hhead hc with
    ⟨sign, whole, fraction, hn, rfl⟩ | ⟨ds, hw, rfl⟩
  · have hstart := hn.startsNumber_of_prefix hhead
    rw [List.cons_append, h.startsNumber hr] at hstart
    cases hstart
  · obtain ⟨rest', heq⟩ := hhead
    have hparts := run_prefix h.parts hw.parts hr (List.cons.inj heq).2.symm
    exact eq_or_length_lt (List.cons_prefix_cons.mpr ⟨rfl, hparts⟩)
      (congrArg fun raw : List Char => (⟨TokenKind.ofWord (String.ofList raw), raw⟩ : Lexeme))

/-- A lexeme that does not go on into the rest is the longest one. -/
theorem Stands.longest {x : Lexeme} (h : Stands x rest) : Longest x (x.raw ++ rest) := by
  refine ⟨h.isLexeme, List.prefix_append _ _, fun y hy hhead => ?_⟩
  cases h with
  | symbol hx hr =>
    have hne : ∀ x ∈ symbols, x.raw ≠ [] := by decide
    obtain ⟨c, cs, hraw⟩ := List.exists_cons_of_ne_nil (hne x hx)
    obtain ⟨hq, hc⟩ := symbol_head hx hraw
    exact longest_symbol hx (hy.of_symbol_head (hraw ▸ hhead) hq hc) hr hhead
  | string hq hb => exact longest_string hq hb hy hhead
  | number hn hd hr => exact longest_number hn hd hr hy hhead
  | word hw hr => exact longest_word hw hr hy hhead

/-! ### The scanner -/

theorem scan_longest {cs : List Char} {x : Lexeme} (h : scan c cs = .ok x) :
    Longest x (c :: cs) := by
  obtain ⟨rest, heq, hx⟩ := scan_eq_ok_iff.mp h
  rw [heq]
  exact hx.longest

/-- Where the scanner takes nothing there is no lexeme, and the character says why. -/
theorem scan_eq_error {cs : List Char} {cause : SyntaxError.Cause} (h : scan c cs = .error cause) :
    NoLexeme (c :: cs) ∧
      cause = if isQuote c then .unterminatedString else .unexpectedCharacter c := by
  unfold scan at h
  split at h
  · cases h
  · next hnone =>
    refine ⟨fun y hy hhead => ?_, ?_⟩
    · rcases hy.cases_head hhead with
        ⟨-, -, hmem⟩ | ⟨hq, body, hb, rfl⟩ | ⟨hq, -, hnumber | hword⟩
      · have hfound := List.find?_eq_none.mp hnone y hmem
        exact hfound (List.isPrefixOf_iff_prefix.mpr hhead)
      · obtain ⟨rest, heq⟩ := hhead
        have hpart := (quotedPart_eq_some_iff (ne_backslash_of_isQuote hq)).mpr
          ⟨body, rest, by simpa using (List.cons.inj heq).2.symm, rfl, hb⟩
        simp [hq, hpart] at h
      · obtain ⟨sign, whole, fraction, hn, rfl⟩ := hnumber
        have hstart := hn.startsNumber_of_prefix hhead
        simp [hq, hstart] at h
      · obtain ⟨ds, hw, -⟩ := hword
        simp only [hq, hw.start, Bool.false_eq_true, if_false, if_true] at h
        split_ifs at h
    · split_ifs at h with hq hn hw
      · split at h
        · cases h
        · cases h
          rw [if_pos hq]
      · cases h
        rw [if_neg hq]

theorem scan_eq_ok_iff_longest {cs : List Char} {x : Lexeme} :
    scan c cs = .ok x ↔ Longest x (c :: cs) := by
  refine ⟨scan_longest, fun h => ?_⟩
  cases hscan : scan c cs with
  | ok y => rw [(scan_longest hscan).unique h]
  | error cause => exact absurd h.head ((scan_eq_error hscan).1 x h.isLexeme)

theorem Longest.stands {x : Lexeme} (h : Longest x (x.raw ++ rest)) : Stands x rest := by
  obtain ⟨c, cs, hcs⟩ : ∃ c cs, x.raw ++ rest = c :: cs := by
    obtain ⟨c, cs, hraw, -⟩ := h.isLexeme.head
    exact ⟨c, cs ++ rest, by rw [hraw]; rfl⟩
  obtain ⟨rest', heq, hx⟩ := scan_eq_ok_iff.mp (scan_eq_ok_iff_longest.mpr (hcs ▸ h))
  rwa [List.append_cancel_left (hcs.trans heq)]

theorem scan_eq_error_iff {cs : List Char} {cause : SyntaxError.Cause} :
    scan c cs = .error cause ↔ NoLexeme (c :: cs) ∧
      cause = if isQuote c then .unterminatedString else .unexpectedCharacter c := by
  refine ⟨scan_eq_error, fun ⟨hnone, hcause⟩ => ?_⟩
  cases hscan : scan c cs with
  | ok x => exact absurd (scan_longest hscan).head (hnone x (scan_longest hscan).isLexeme)
  | error cause' => rw [hcause, (scan_eq_error hscan).2]

end PipeQuery

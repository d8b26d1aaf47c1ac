import Mathlib.Tactic.Common
import PipeQuery.Query.Lexer

/-! The patterns of tokens, apart from the scanner. A lexeme matches one of four patterns:
symbol, string, number or word. `Stands x rest` says that `x` matches a pattern and does not go
on into the characters `rest` behind it, and `scan_eq_ok_iff` says that these are exactly the
lexemes that the scanner takes. -/

namespace PipeQuery

open Unicode

/-! ### Runs of characters -/

/-- No character that satisfies `p` comes next. -/
def StopsAt (p : Char → Bool) (rest : List Char) : Prop := ∀ c ∈ rest.head?, p c = false

section Runs

variable {p : Char → Bool}

@[simp] theorem stopsAt_nil : StopsAt p [] := by simp [StopsAt]

@[simp] theorem stopsAt_cons {c : Char} {cs : List Char} : StopsAt p (c :: cs) ↔ p c = false := by
  simp [StopsAt]

theorem StopsAt.mono {q : Char → Bool} {rest : List Char} (h : StopsAt p rest)
    (hpq : ∀ c, q c = true → p c = true) : StopsAt q rest := by
  intro c hc
  by_contra hq
  have := hpq c (by simpa using hq)
  rw [h c hc] at this
  cases this

theorem StopsAt.append {cs rest : List Char} (h : StopsAt p cs) (hr : StopsAt p rest) :
    StopsAt p (cs ++ rest) := by
  cases cs with
  | nil => exact hr
  | cons c cs => exact h

theorem takeWhile_append_of_stops {cs rest : List Char} (hcs : ∀ c ∈ cs, p c = true)
    (h : StopsAt p rest) : (cs ++ rest).takeWhile p = cs := by
  rw [List.takeWhile_append_of_pos hcs]
  cases rest with
  | nil => simp
  | cons d ds => simp [stopsAt_cons.mp h]

theorem stopsAt_dropWhile (cs : List Char) : StopsAt p (cs.dropWhile p) := by
  intro c hc
  have := List.head?_dropWhile_not p cs
  rw [Option.mem_def.mp hc] at this
  simpa using this

/-- A run splits a text into the characters taken and a rest at which the run stops. -/
theorem exists_run (p : Char → Bool) (cs : List Char) :
    ∃ rest, cs = cs.takeWhile p ++ rest ∧ StopsAt p rest :=
  ⟨cs.dropWhile p, (List.takeWhile_append_dropWhile (p := p)).symm, stopsAt_dropWhile cs⟩

theorem all_takeWhile (p : Char → Bool) (cs : List Char) : ∀ c ∈ cs.takeWhile p, p c = true := by
  intro c hc
  exact List.all_eq_true.mp (List.all_takeWhile (p := p)) c hc

end Runs

/-! ### Patterns -/

/-- What stands between two quotes: the quote itself comes only behind a backslash, and each
backslash takes a character along. -/
inductive Quoted (quote : Char) : List Char → Prop
  | nil : Quoted quote []
  | escaped {c : Char} {cs : List Char} (h : Quoted quote cs) : Quoted quote ('\\' :: c :: cs)
  | plain {c : Char} {cs : List Char} (hq : c ≠ quote) (hb : c ≠ '\\') (h : Quoted quote cs) :
    Quoted quote (c :: cs)

/-- Nothing, or a point with digits behind it. -/
inductive IsFraction : List Char → Prop
  | none : IsFraction []
  | some {cs : List Char} (hne : cs ≠ []) (hd : ∀ c ∈ cs, isDigit c = true) :
    IsFraction ('.' :: cs)

/-- An optional minus sign, digits, and perhaps a fraction. -/
structure IsNumber (sign whole fraction : List Char) : Prop where
  sign : sign = [] ∨ sign = ['-']
  whole_ne_nil : whole ≠ []
  whole : ∀ c ∈ whole, isDigit c = true
  fraction : IsFraction fraction

/-- A character that starts a word and characters that continue it; a minus sign before a digit
starts no word. -/
structure IsWord (c : Char) (cs : List Char) : Prop where
  start : isWordStart c = true
  parts : ∀ d ∈ cs, isWordPart d = true
  notNumber : startsNumber (c :: cs) = false

/-- The patterns of tokens. -/
inductive IsLexeme : Lexeme → Prop
  | symbol {x : Lexeme} (h : x ∈ symbols) : IsLexeme x
  | string {quote : Char} {body : List Char} (hq : isQuote quote = true)
    (h : Quoted quote body) : IsLexeme ⟨.string, quote :: (body ++ [quote])⟩
  | number {sign whole fraction : List Char} (h : IsNumber sign whole fraction) :
    IsLexeme ⟨.number, sign ++ whole ++ fraction⟩
  | word {c : Char} {cs : List Char} (h : IsWord c cs) :
    IsLexeme ⟨TokenKind.ofWord (String.ofList (c :: cs)), c :: cs⟩

/-- A lexeme and the characters behind it, into which it does not go on. -/
inductive Stands : Lexeme → List Char → Prop
  | symbol {x : Lexeme} {rest : List Char} (h : x ∈ symbols)
    (hr : rest.head? = some '=' → ⟨.operator, x.raw ++ ['=']⟩ ∉ symbols) : Stands x rest
  | string {quote : Char} {body rest : List Char} (hq : isQuote quote = true)
    (h : Quoted quote body) : Stands ⟨.string, quote :: (body ++ [quote])⟩ rest
  | number {sign whole fraction rest : List Char} (h : IsNumber sign whole fraction)
    (hd : StopsAt isDigit rest) (hr : fraction = [] → fractionPart rest = []) :
    Stands ⟨.number, sign ++ whole ++ fraction⟩ rest
  | word {c : Char} {cs rest : List Char} (h : IsWord c cs) (hr : StopsAt isWordPart rest) :
    Stands ⟨TokenKind.ofWord (String.ofList (c :: cs)), c :: cs⟩ rest

theorem Stands.isLexeme {x : Lexeme} {rest : List Char} (h : Stands x rest) : IsLexeme x := by
  cases h with
  | symbol h _ => exact .symbol h
  | string hq h => exact .string hq h
  | number h _ _ => exact .number h
  | word h _ => exact .word h

/-! ### Characters that start a lexeme -/

theorem isDigit_iff {c : Char} : isDigit c = true ↔ 48 ≤ c.toNat ∧ c.toNat ≤ 57 := by
  simp only [isDigit, Bool.and_eq_true, decide_eq_true_eq, Char.le_def, UInt32.le_iff_toNat_le]
  exact Iff.rfl

theorem isWordPart_of_isDigit {c : Char} (h : isDigit c = true) : isWordPart c = true := by
  have hc : c.toNat < 128 := by
    have := isDigit_iff.mp h
    omega
  simp [isWordPart, isAlphanumeric, isNumeric, hc, h]

theorem isWordPart_of_isWordStart {c : Char} (h : isWordStart c = true) :
    isWordPart c = true := by
  simp only [isWordStart, isWordPart, isAlphanumeric, Bool.or_eq_true] at h ⊢
  rcases h with (h | h) | h <;> simp [h]

/-- No symbol is found at a character of a class to which no symbol's first character belongs. -/
theorem find?_symbols_eq_none {p : Char → Bool}
    (hp : ∀ x ∈ symbols, x.raw.head?.any (fun d => !p d) = true) {c : Char} (hc : p c = true)
    (cs : List Char) : (symbols.find? fun x => x.raw.isPrefixOf (c :: cs)) = none := by
  rw [List.find?_eq_none]
  intro x hx
  have h := hp x hx
  cases hraw : x.raw with
  | nil => simp [hraw] at h
  | cons d ds =>
    have hd : p d = false := by simpa [hraw] using h
    have hne : d ≠ c := by rintro rfl; rw [hd] at hc; cases hc
    simp [hne]

theorem find?_symbols_of_isWordPart {c : Char} (h : isWordPart c = true) (cs : List Char) :
    (symbols.find? fun x => x.raw.isPrefixOf (c :: cs)) = none :=
  find?_symbols_eq_none (by decide) h cs

theorem find?_symbols_of_isQuote {c : Char} (h : isQuote c = true) (cs : List Char) :
    (symbols.find? fun x => x.raw.isPrefixOf (c :: cs)) = none :=
  find?_symbols_eq_none (by decide) h cs

theorem isQuote_of_isWordPart {c : Char} (h : isWordPart c = true) : isQuote c = false := by
  by_contra hq
  simp only [Bool.not_eq_false, isQuote, Bool.or_eq_true, decide_eq_true_eq] at hq
  rcases hq with rfl | rfl <;> exact absurd h (by decide)

/-! ### Parts of lexemes -/

theorem quotedPart_eq_some_iff {quote : Char} (hq : quote ≠ '\\') {cs raw : List Char} :
    quotedPart quote cs = some raw ↔
      ∃ body rest, cs = body ++ quote :: rest ∧ raw = body ++ [quote] ∧ Quoted quote body := by
  constructor
  · intro h
    fun_induction quotedPart quote cs generalizing raw with
    | case1 => cases h
    | case2 => cases h
    | case3 c cs ih =>
      obtain ⟨raw', h', rfl⟩ := Option.map_eq_some_iff.mp h
      obtain ⟨body, rest, rfl, rfl, hb⟩ := ih h'
      exact ⟨'\\' :: c :: body, rest, rfl, rfl, .escaped hb⟩
    | case4 cs _ _ =>
      cases h
      exact ⟨[], cs, rfl, rfl, .nil⟩
    | case5 c cs h1 h2 hne ih =>
      obtain ⟨raw', h', rfl⟩ := Option.map_eq_some_iff.mp h
      obtain ⟨body, rest, rfl, rfl, hb⟩ := ih h'
      refine ⟨c :: body, rest, rfl, rfl, .plain hne ?_ hb⟩
      rintro rfl
      cases body with
      | nil => exact h2 quote rest rfl rfl
      | cons d ds => exact h2 d (ds ++ quote :: rest) rfl rfl
  · rintro ⟨body, rest, rfl, rfl, hb⟩
    induction hb with
    | nil => cases rest <;> simp [quotedPart, hq]
    | escaped _ ih => simp [quotedPart, ih]
    | plain hne hb _ ih => simp [quotedPart, hne, hb, ih]

theorem fractionPart_eq_nil_iff {cs : List Char} :
    fractionPart cs = [] ↔ ∀ ds, cs = '.' :: ds → StopsAt isDigit ds := by
  constructor
  · rintro h ds rfl
    cases ds with
    | nil => simp
    | cons d ds =>
      cases hd : isDigit d with
      | false => exact stopsAt_cons.mpr hd
      | true => simp [fractionPart, hd] at h
  · intro h
    unfold fractionPart
    split
    · rename_i ds
      have hstop := h ds rfl
      cases ds with
      | nil => rfl
      | cons d ds => simp [stopsAt_cons.mp hstop]
    · rfl

/-- A fraction and a rest at which it stops. -/
theorem fractionPart_append {fraction rest : List Char} (h : IsFraction fraction)
    (hd : StopsAt isDigit rest) (hr : fraction = [] → fractionPart rest = []) :
    fractionPart (fraction ++ rest) = fraction := by
  cases h with
  | none => exact hr rfl
  | some hne hcs => simp [fractionPart, takeWhile_append_of_stops hcs hd, hne]

theorem exists_fraction (cs : List Char) (hd : StopsAt isDigit cs) :
    ∃ rest, cs = fractionPart cs ++ rest ∧ IsFraction (fractionPart cs) ∧ StopsAt isDigit rest ∧
      (fractionPart cs = [] → fractionPart rest = []) := by
  by_cases hnil : fractionPart cs = []
  · exact ⟨cs, by rw [hnil]; rfl, hnil ▸ .none, hd, fun _ => hnil⟩
  · unfold fractionPart at hnil
    split at hnil
    · rename_i ds
      have hne : ¬(ds.takeWhile isDigit).isEmpty = true := fun h => hnil (if_pos h)
      obtain ⟨rest, hsplit, hrest⟩ := exists_run isDigit ds
      have hpart : fractionPart ('.' :: ds) = '.' :: ds.takeWhile isDigit := if_neg hne
      refine ⟨rest, ?_, ?_, hrest, fun h => absurd (hpart.symm.trans h) (by simp)⟩
      · rw [hpart, List.cons_append, ← hsplit]
      · rw [hpart]
        exact .some (by simpa using hne) (all_takeWhile isDigit ds)
    · exact absurd rfl hnil

theorem signPart_cons (c : Char) (cs : List Char) :
    signPart (c :: cs) = if c = '-' then ['-'] else [] := by
  unfold signPart
  split
  · rename_i heq
    rw [if_pos (List.cons.inj heq).1]
  · rename_i h
    rw [if_neg fun hc => h cs (by rw [hc])]

theorem startsNumber_cons (c : Char) (cs : List Char) :
    startsNumber (c :: cs) = if c = '-' then cs.head?.any isDigit else isDigit c := by
  unfold startsNumber
  split
  · rename_i heq
    cases heq
    simp
  · rename_i d ds hne heq
    cases heq
    by_cases hc : c = '-'
    · subst hc
      cases cs with
      | nil => decide
      | cons e es => exact absurd rfl (hne e es rfl)
    · simp [hc]
  · rename_i heq
    cases heq

theorem ne_minus_of_isDigit {c : Char} (h : isDigit c = true) : c ≠ '-' := by
  rintro rfl
  exact absurd h (by decide)

theorem IsNumber.exists_cons {sign whole fraction : List Char}
    (h : IsNumber sign whole fraction) : ∃ w ws, whole = w :: ws ∧ isDigit w = true := by
  obtain ⟨w, ws, rfl⟩ := List.exists_cons_of_ne_nil h.whole_ne_nil
  exact ⟨w, ws, rfl, h.whole w (by simp)⟩

/-- Taking a number gives back its parts. -/
theorem numberPart_append {sign whole fraction rest : List Char} (h : IsNumber sign whole fraction)
    (hd : StopsAt isDigit rest) (hr : fraction = [] → fractionPart rest = []) :
    numberPart (sign ++ (whole ++ (fraction ++ rest))) = sign ++ whole ++ fraction := by
  obtain ⟨w, ws, rfl, hw⟩ := h.exists_cons
  have hstop : StopsAt isDigit (fraction ++ rest) := by
    cases h.fraction with
    | none => exact hd
    | some _ _ => simp; decide
  have hsign : signPart (sign ++ (w :: ws ++ (fraction ++ rest))) = sign := by
    rcases h.sign with rfl | rfl
    · rw [List.nil_append, List.cons_append, signPart_cons, if_neg (ne_minus_of_isDigit hw)]
    · rfl
  have hwhole : (w :: ws ++ (fraction ++ rest)).takeWhile isDigit = w :: ws :=
    takeWhile_append_of_stops h.whole hstop
  simp only [numberPart, hsign]
  rw [List.drop_left, hwhole, ← List.drop_drop, List.drop_left, List.drop_left,
    fractionPart_append h.fraction hd hr]

theorem exists_number {cs : List Char} (h : startsNumber cs = true) :
    ∃ sign whole fraction rest, cs = sign ++ (whole ++ (fraction ++ rest)) ∧
      IsNumber sign whole fraction ∧ StopsAt isDigit rest ∧
      (fraction = [] → fractionPart rest = []) := by
  obtain ⟨sign, digits, rfl, hsign, hdigits⟩ : ∃ sign digits, cs = sign ++ digits ∧
      (sign = [] ∨ sign = ['-']) ∧ ∃ d ds, digits = d :: ds ∧ isDigit d = true := by
    unfold startsNumber at h
    split at h
    · exact ⟨['-'], _, rfl, .inr rfl, _, _, rfl, h⟩
    · exact ⟨[], _, rfl, .inl rfl, _, _, rfl, h⟩
    · cases h
  obtain ⟨d, ds, rfl, hd⟩ := hdigits
  obtain ⟨rest, hsplit, hstop⟩ := exists_run isDigit (d :: ds)
  obtain ⟨rest', hfrac, hisfrac, hstop', hend⟩ := exists_fraction rest hstop
  refine ⟨sign, (d :: ds).takeWhile isDigit, fractionPart rest, rest', ?_,
    ⟨hsign, by simp [hd], all_takeWhile isDigit _, hisfrac⟩, hstop', hend⟩
  rw [← hfrac, ← hsplit]

theorem IsNumber.startsNumber {sign whole fraction : List Char}
    (h : IsNumber sign whole fraction) (rest : List Char) :
    startsNumber (sign ++ (whole ++ rest)) = true := by
  obtain ⟨w, ws, rfl, hw⟩ := h.exists_cons
  rcases h.sign with rfl | rfl
  · rw [List.nil_append, List.cons_append, startsNumber_cons, if_neg (ne_minus_of_isDigit hw), hw]
  · exact hw

theorem IsWord.startsNumber {c : Char} {cs rest : List Char} (h : IsWord c cs)
    (hr : StopsAt isWordPart rest) : startsNumber (c :: (cs ++ rest)) = false := by
  have hn := h.notNumber
  rw [startsNumber_cons] at hn ⊢
  split_ifs at hn ⊢ with hc
  · cases cs with
    | nil =>
      have hd : StopsAt isDigit rest := hr.mono fun _ => isWordPart_of_isDigit
      cases rest with
      | nil => rfl
      | cons d ds => simpa using hd
    | cons d ds => simpa using hn
  · exact hn

/-- The text ends, or a space comes next. -/
abbrev AtGap (rest : List Char) : Prop := StopsAt (fun c => !isSpace c) rest

theorem AtGap.stopsAt {p : Char → Bool} {rest : List Char} (h : AtGap rest)
    (hp : ∀ c, p c = true → isSpace c = false) : StopsAt p rest :=
  h.mono fun c hc => by simp [hp c hc]

theorem isSpace_of_isWordPart {c : Char} (h : isWordPart c = true) : isSpace c = false := by
  by_contra hs
  simp only [Bool.not_eq_false, isSpace, Bool.or_eq_true, decide_eq_true_eq] at hs
  rcases hs with ((rfl | rfl) | rfl) | rfl <;> exact absurd h (by decide)

theorem isSpace_of_isDigit {c : Char} (h : isDigit c = true) : isSpace c = false :=
  isSpace_of_isWordPart (isWordPart_of_isDigit h)

/-- A gap does not change what stands before it. -/
theorem Stands.append {x : Lexeme} {cs rest : List Char} (h : Stands x cs) (hr : AtGap rest) :
    Stands x (cs ++ rest) := by
  cases h with
  | symbol hx heq =>
    refine .symbol hx fun hhead => ?_
    cases cs with
    | nil =>
      have hstop : StopsAt (· = '=') rest := hr.stopsAt (by simp; decide)
      simpa using hstop '=' hhead
    | cons c cs => exact heq hhead
  | string hq hb => exact .string hq hb
  | number hn hd hf =>
    refine .number hn (hd.append (hr.stopsAt fun _ => isSpace_of_isDigit)) fun hnil => ?_
    have hf' := fractionPart_eq_nil_iff.mp (hf hnil)
    refine fractionPart_eq_nil_iff.mpr fun ds heq => ?_
    cases cs with
    | nil =>
      have hstop : StopsAt (· = '.') rest := hr.stopsAt (by simp; decide)
      simpa using hstop '.' (by rw [← List.nil_append rest, heq]; rfl)
    | cons c cs =>
      obtain ⟨rfl, rfl⟩ := List.cons.inj heq
      exact (hf' cs rfl).append (hr.stopsAt fun _ => isSpace_of_isDigit)
  | word hw hstop => exact .word hw (hstop.append (hr.stopsAt fun _ => isSpace_of_isWordPart))

/-! ### The scanner -/

theorem exists_symbol {cs : List Char} {x : Lexeme}
    (h : (symbols.find? fun x => x.raw.isPrefixOf cs) = some x) :
    ∃ rest, cs = x.raw ++ rest ∧ Stands x rest := by
  have hprefix : x.raw.isPrefixOf cs = true := by simpa using List.find?_some h
  obtain ⟨rest, rfl⟩ := List.isPrefixOf_iff_prefix.mp hprefix
  have hx := List.mem_of_find?_eq_some h
  refine ⟨rest, rfl, .symbol hx fun heq hlonger => ?_⟩
  obtain ⟨more, rfl⟩ : ∃ more, rest = '=' :: more := by
    cases rest with
    | nil => cases heq
    | cons d ds => cases heq; exact ⟨ds, rfl⟩
  -- a longer symbol stands before `x` among the symbols, so it would have been found
  simp only [symbols, List.mem_cons, List.not_mem_nil, or_false] at hx
  rcases hx with rfl | rfl | rfl | rfl | rfl | rfl | rfl | rfl | rfl | rfl | rfl | rfl <;>
    first
    | exact absurd hlonger (by decide)
    | simp [symbols, List.isPrefixOf] at h

theorem find?_symbols_append {x : Lexeme} {rest : List Char} (hx : x ∈ symbols)
    (hr : rest.head? = some '=' → ⟨.operator, x.raw ++ ['=']⟩ ∉ symbols) :
    (symbols.find? fun y => y.raw.isPrefixOf (x.raw ++ rest)) = some x := by
  have hr' : ⟨.operator, x.raw ++ ['=']⟩ ∈ symbols → rest.head? ≠ some '=' :=
    fun h heq => hr heq h
  simp only [symbols, List.mem_cons, List.not_mem_nil, or_false] at hx
  rcases hx with rfl | rfl | rfl | rfl | rfl | rfl | rfl | rfl | rfl | rfl | rfl | rfl <;>
    first
    | simp [symbols, List.isPrefixOf]; done
    | have hne := hr' (by decide)
      cases rest with
      | nil => rfl
      | cons d ds => simp [symbols, List.isPrefixOf] at hne ⊢; exact fun h => hne h.symm

/-- A word that is taken from a text starts no number if the text does not. -/
theorem startsNumber_takeWhile {c : Char} {cs : List Char} (h : startsNumber (c :: cs) = false) :
    startsNumber (c :: cs.takeWhile isWordPart) = false := by
  rw [startsNumber_cons] at h ⊢
  split_ifs at h ⊢ with hc
  · cases cs with
    | nil => rfl
    | cons d ds =>
      rw [List.takeWhile_cons]
      split_ifs
      · exact h
      · rfl
  · exact h

theorem isWordPart_head {sign whole fraction rest cs : List Char} {c : Char}
    (h : IsNumber sign whole fraction) (heq : c :: cs = sign ++ (whole ++ (fraction ++ rest))) :
    isWordPart c = true := by
  obtain ⟨w, ws, rfl, hw⟩ := h.exists_cons
  rcases h.sign with rfl | rfl
  · cases heq
    exact isWordPart_of_isDigit hw
  · cases heq
    decide

/-- The scanner takes exactly the lexeme that stands at the head of a text. -/
theorem scan_eq_ok_iff {c : Char} {cs : List Char} {x : Lexeme} :
    scan c cs = .ok x ↔ ∃ rest, c :: cs = x.raw ++ rest ∧ Stands x rest := by
  constructor
  · intro h
    unfold scan at h
    split at h
    · rename_i y hy
      cases h
      exact exists_symbol hy
    · split_ifs at h with hq hn hw
      · split at h
        · rename_i raw hraw
          cases h
          have hne : c ≠ '\\' := by rintro rfl; exact absurd hq (by decide)
          obtain ⟨body, rest, rfl, rfl, hb⟩ := (quotedPart_eq_some_iff hne).mp hraw
          exact ⟨rest, by simp, .string hq hb⟩
        · cases h
      · cases h
        obtain ⟨sign, whole, fraction, rest, heq, hnum, hd, hr⟩ := exists_number hn
        rw [heq, numberPart_append hnum hd hr]
        exact ⟨rest, by simp, .number hnum hd hr⟩
      · obtain rfl := Except.ok.inj h
        obtain ⟨rest, hsplit, hstop⟩ := exists_run isWordPart cs
        have hword : IsWord c (cs.takeWhile isWordPart) :=
          ⟨hw, all_takeWhile isWordPart cs, startsNumber_takeWhile (by simpa using hn)⟩
        exact ⟨rest, by rw [List.cons_append, ← hsplit], .word hword hstop⟩
  · rintro ⟨rest, heq, h⟩
    cases h with
    | symbol h hr =>
      have hfind := find?_symbols_append h hr
      rw [← heq] at hfind
      simp [scan, hfind]
    | @string quote body _ hq h =>
      obtain ⟨rfl, rfl⟩ := List.cons.inj heq
      have hne : c ≠ '\\' := by rintro rfl; exact absurd hq (by decide)
      have hpart : quotedPart c (body ++ c :: rest) = some (body ++ [c]) :=
        (quotedPart_eq_some_iff hne).mpr ⟨body, rest, rfl, rfl, h⟩
      simp [scan, find?_symbols_of_isQuote hq, hq, hpart]
    | @number sign whole fraction _ h hd hr =>
      have heq' : c :: cs = sign ++ (whole ++ (fraction ++ rest)) := by simpa using heq
      have hc := isWordPart_head h heq'
      have hstart := h.startsNumber (fraction ++ rest)
      have hpart := numberPart_append h hd hr
      rw [← heq'] at hstart hpart
      simp [scan, find?_symbols_of_isWordPart hc, isQuote_of_isWordPart hc, hstart, hpart]
    | @word d ds _ h hr =>
      obtain ⟨rfl, rfl⟩ := List.cons.inj heq
      have hc := isWordPart_of_isWordStart h.start
      simp [scan, find?_symbols_of_isWordPart hc, isQuote_of_isWordPart hc, h.startsNumber hr,
        h.start, takeWhile_append_of_stops h.parts hr]

end PipeQuery

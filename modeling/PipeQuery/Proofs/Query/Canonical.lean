import Mathlib.Algebra.Order.BigOperators.Group.List
import PipeQuery.Proofs.Query.RoundTrip

/-! Formatting a text that parses. Every query of a text can be spelled, so its canonical text is
parsed again. It gives an equal query and is canonical itself if every number among the parameters
is finite, and only then: an infinity comes back as a text and is quoted the next time. -/

namespace PipeQuery

open Unicode Grammar

/-! ### Queries of texts -/

theorem FromLexeme.terminal {t : Terminal [.identifier]} (h : FromLexeme t.1) :
    IsIdentifier t.1.text := h.isIdentifier t.kind_eq

/-- The operator of a stage of a text can be spelled. -/
theorem spellable_stage (s : Stage) (h : ∀ t ∈ s.tokens, FromLexeme t) : s.operator.Spellable := by
  cases s with
  | filter keyword tests =>
    refine ⟨by simp [Separated.items], ?_⟩
    rintro _ hc
    obtain ⟨test, htest, rfl⟩ := List.mem_map.mp hc
    have hcolumn : test.column.1 ∈ tests.tokens Test.tokens :=
      Separated.mem_tokens htest (by simp [Test.tokens])
    exact (h _ (List.mem_cons_of_mem _ hcolumn)).terminal
  | project keyword columns =>
    refine ⟨by simp [Separated.items], ?_⟩
    rintro _ hc
    obtain ⟨column, hcolumn, rfl⟩ := List.mem_map.mp hc
    have hmem : column.1 ∈ columns.tokens fun c => [c.1] :=
      Separated.mem_tokens hcolumn (List.mem_singleton_self _)
    exact (h _ (List.mem_cons_of_mem _ hmem)).terminal
  | take keyword rows hrows => exact hrows.lt
  | sort keyword particle column d => exact (h column.1 (by simp [Stage.tokens])).terminal
  | count => trivial
  | extend keyword column equals expression =>
    exact (h column.1 (by simp [Stage.tokens])).terminal

theorem isName_of_mem_parameters (a : Arguments) (h : ∀ t ∈ a.tokens, FromLexeme t) :
    ∀ p ∈ a.parameters, IsName p.1 := by
  intro p hp
  have hname : p.1 ∈ Named.names (a.assignments.map Assignment.pair) :=
    Named.mem_names_of_mem_ofList (List.mem_map_of_mem hp)
  simp only [Named.names, List.map_map, List.mem_map, Function.comp_apply] at hname
  obtain ⟨d, hd, hpair⟩ := hname
  rw [← hpair]
  cases a with
  | absent => cases hd
  | empty => cases hd
  | listed opening assignments closing =>
    have hmem : d.name.1 ∈ assignments.tokens Assignment.tokens :=
      Separated.mem_tokens hd (by simp [Assignment.tokens])
    exact (h d.name.1 (by simp [Arguments.tokens, hmem])).isName_of_isNaming d.name.2

/-- Whatever query a text is parsed as, it can be spelled. -/
theorem spellable_of_parse {text : String} {q : Query} (h : parse text = .ok q) : q.Spellable := by
  obtain ⟨d, htokens, rfl⟩ := exists_derivation h
  have hlexeme : ∀ t ∈ d.tokens, FromLexeme t := Lexer.exists_lexeme_of_mem htokens
  refine ⟨(hlexeme _ (by simp [Derivation.tokens])).terminal,
    (hlexeme _ (by simp [Derivation.tokens])).terminal,
    isName_of_mem_parameters d.arguments fun t ht => hlexeme t (by simp [Derivation.tokens, ht]),
    Named.nodup_names_ofList _, ?_⟩
  intro op hop
  obtain ⟨s, hs, rfl⟩ := List.mem_map.mp hop
  refine spellable_stage s.2 fun t ht => hlexeme t ?_
  have hmem : t ∈ stageTokens d.stages :=
    List.mem_flatMap.mpr ⟨s, hs, List.mem_cons_of_mem _ ht⟩
  simp [Derivation.tokens, hmem]

/-! ### The second formatting -/

theorem text_of_zero {negative : Bool} {e : Int} (hc : Binary64.Canonical 0 e) :
    (Binary64.finite negative 0 e hc).text = "0" := by
  have hwhole : (Binary64.finite negative 0 e hc).whole? = some 0 := by
    cases negative <;> simp [Binary64.whole?, Binary64.magnitude]
  rw [Binary64.text, hwhole]
  rfl

/-- The texts of finite numbers are read as numbers with the same text. -/
theorem text_written {x : Binary64} (h : x.isFinite = true) : x.written.text = x.text := by
  cases x with
  | nan => cases h
  | infinity => cases h
  | finite negative m e hc =>
    rcases Nat.eq_zero_or_pos m with rfl | hm
    · exact (text_of_zero (by decide)).trans (text_of_zero hc).symm
    · rw [Binary64.written_of_pos hm]

theorem Value.text_reread {v : Value} (h : v.isFinite = true) : v.reread.text = v.text := by
  cases v with
  | string s => rfl
  | number x =>
    have hx : x.isFinite = true := h
    rw [reread, if_pos hx]
    exact text_written hx
  | bool b => rfl

theorem length_escape (cs : List Char) : cs.length ≤ (escape cs).length := by
  induction cs with
  | nil => exact Nat.le_refl _
  | cons c cs ih =>
    rw [escape]
    split_ifs <;> simp only [List.length_cons] <;> omega

theorem length_quote (s : String) : s.length < (quote s).length := by
  have hescape := length_escape s.toList
  rw [String.length_toList] at hescape
  simp only [quote, String.length_ofList, List.length_append, List.length_cons, List.length_nil]
  omega

/-- A number that is not finite gets quotes when it is written for the second time. -/
theorem Value.length_text_reread (v : Value) :
    v.text.length ≤ v.reread.text.length ∧
      (v.isFinite = false → v.text.length < v.reread.text.length) := by
  cases hv : v.isFinite with
  | true => simp [text_reread hv]
  | false =>
    cases v with
    | string s => cases hv
    | number x =>
      have hx : x.isFinite = false := hv
      have hlt := length_quote x.text
      simp only [reread, hx, text]
      exact ⟨hlt.le, fun _ => hlt⟩
    | bool b => cases hv

theorem Parameters.text_of_ne_nil {ps : Parameters} (h : ps ≠ []) :
    text ps = "(" ++ ", ".intercalate (ps.map fun x => x.1 ++ "=" ++ x.2.text) ++ ")" := by
  cases ps with
  | nil => exact absurd rfl h
  | cons p ps => rfl

theorem Parameters.text_reread_of_ne_nil {ps : Parameters} (h : ps ≠ []) :
    (Parameters.reread ps).text =
      "(" ++ ", ".intercalate (ps.map fun x => x.1 ++ "=" ++ x.2.reread.text) ++ ")" := by
  rw [text_of_ne_nil (by simpa [reread] using h), reread, List.map_map]
  rfl

theorem Parameters.text_reread {ps : Parameters} (h : ∀ p ∈ ps, p.2.isFinite = true) :
    (Parameters.reread ps).text = text ps := by
  by_cases hnil : ps = []
  · rw [hnil]
    rfl
  · have hmap : (ps.map fun x => x.1 ++ "=" ++ x.2.reread.text) =
        ps.map fun x => x.1 ++ "=" ++ x.2.text :=
      List.map_congr_left fun x hx => by rw [Value.text_reread (h x hx)]
    rw [text_reread_of_ne_nil hnil, text_of_ne_nil hnil, hmap]

theorem length_intercalate (separator : String) (xs : List String) :
    (separator.intercalate xs).length =
      (xs.map String.length).sum + separator.length * (xs.length - 1) := by
  induction xs with
  | nil => simp
  | cons x xs ih =>
    cases xs with
    | nil => simp
    | cons y xs =>
      rw [String.intercalate_cons_cons, String.length_append, String.length_append, ih]
      simp only [List.map_cons, List.sum_cons, List.length_cons, Nat.add_sub_cancel, Nat.mul_succ]
      omega

theorem Parameters.length_text_reread {ps : Parameters} {p : String × Value} (hp : p ∈ ps)
    (h : p.2.isFinite = false) : (text ps).length < (Parameters.reread ps).text.length := by
  have hsum : (ps.map fun x => (x.1 ++ "=" ++ x.2.text).length).sum <
      (ps.map fun x => (x.1 ++ "=" ++ x.2.reread.text).length).sum := by
    refine List.sum_lt_sum _ _ (fun x _ => ?_) ⟨p, hp, ?_⟩
    · have := (Value.length_text_reread x.2).1
      simp only [String.length_append]
      omega
    · have := (Value.length_text_reread p.2).2 h
      simp only [String.length_append]
      omega
  have hne : ps ≠ [] := List.ne_nil_of_mem hp
  rw [text_of_ne_nil hne, text_reread_of_ne_nil hne]
  simp only [String.length_append, length_intercalate, List.map_map, List.length_map,
    Function.comp_def] at hsum ⊢
  omega

theorem text_reread_iff (q : Query) :
    q.reread.text = q.text ↔ ∀ p ∈ q.parameters, p.2.isFinite = true := by
  constructor
  · intro h p hp
    by_contra hnot
    have hlt := Parameters.length_text_reread hp (by simpa using hnot)
    have hlength := congrArg String.length h
    simp only [Query.text, Query.reread, String.length_append] at hlength
    omega
  · intro h
    rw [Query.text, Query.text]
    simp only [Query.reread, Parameters.text_reread h]

theorem Value.reread_not_equals {v : Value} (h : v.isFinite = false) :
    v.reread.equals v = false := by
  cases v with
  | string s => cases h
  | number x =>
    have hx : x.isFinite = false := h
    rw [reread, hx]
    rfl
  | bool b => cases h

theorem equals_reread_iff {q : Query} (h : q.Spellable) :
    q.reread.equals q = true ↔ ∀ p ∈ q.parameters, p.2.isFinite = true := by
  constructor
  · intro heq p hp
    by_contra hnot
    have hmem : (p.1, p.2.reread) ∈ q.reread.parameters := List.mem_map_of_mem hp
    simp only [Query.equals, Parameters.equals, Bool.and_eq_true, List.all_eq_true] at heq
    have hvalue := heq.1.2.2 _ hmem
    rw [Named.get?_of_mem h.distinct hp, Option.any_some,
      Value.reread_not_equals (by simpa using hnot)] at hvalue
    cases hvalue
  · intro hfinite
    simp [Query.equals, Query.reread, Parameters.reread_equals h.distinct hfinite]

theorem format_of_parse {text : String} {q : Query} (h : parse text = .ok q) :
    format text = q.text := by
  rw [format, h]

theorem format_of_error {text : String} {e : SyntaxError} (h : parse text = .error e) :
    format text = text := by
  rw [format, h]

/-- A text that parses keeps its meaning when it is formatted if all numbers among the parameters
are finite, and only then; then also formatting it again changes nothing. Any other text is left
as it is. -/
theorem format_spec (text : String) :
    (∀ q, parse text = .ok q →
      ((∃ r, parse (format text) = .ok r ∧ r.equals q = true) ↔
        ∀ p ∈ q.parameters, p.2.isFinite = true) ∧
      (format (format text) = format text ↔ ∀ p ∈ q.parameters, p.2.isFinite = true)) ∧
    (∀ e, parse text = .error e → format (format text) = format text) := by
  constructor
  · intro q hq
    have hspellable := spellable_of_parse hq
    have hagain := parse_text hspellable
    rw [format_of_parse hq]
    constructor
    · rw [← equals_reread_iff hspellable]
      constructor
      · rintro ⟨r, hr, hequals⟩
        rw [hagain] at hr
        cases hr
        exact hequals
      · exact fun hequals => ⟨q.reread, hagain, hequals⟩
    · rw [format_of_parse hagain]
      exact text_reread_iff q
  · intro e he
    rw [format_of_error he, format_of_error he]

/-! ### A number that is too large -/

/-- A call with one number, of a tool "b" of a provider "a". -/
def numberCall (literal : List Char) : String := "a | b(n=" ++ String.ofList literal ++ ")"

theorem parse_numberCall_of_reads {literal : List Char} {v : Value}
    (hhead : (literal ++ [')']).head? ≠ some '=')
    (hvalue : Reads literal [')'] fun ts => ∃ d : Literal, ts = [d.token] ∧ d.value = v) :
    parse (numberCall literal) = .ok ⟨"a", "b", [("n", v)], []⟩ := by
  have hlisted : Reads _ [] fun ts => ∃ d : Arguments, ts = d.tokens ∧
      d.parameters = Named.ofList [("n", v)] :=
    reads_listed ((reads_assignment (by decide : IsName "n") hhead hvalue).mono
      fun _ ⟨d, hd, hpair⟩ => ⟨⟨d, []⟩, by simpa using hd, by simp [hpair]⟩)
  have hlines : Reads [] [] fun ts => ∃ stages : List (Terminal [.pipe] × Stage),
      ts = stageTokens stages ∧ stages.map (·.2.operator) = [] :=
    Reads.nil.mono fun _ h => ⟨[], h, rfl⟩
  refine parse_of_reads ?_ (by decide) (by decide) ?_ hlisted hlines
  · simp [numberCall]
  · simp
    decide

theorem parse_numberCall {sign whole fraction : List Char} (h : IsNumber sign whole fraction) :
    parse (numberCall (sign ++ (whole ++ fraction))) = .ok ⟨"a", "b",
      [("n", .number (.ofScaled (decide (sign = ['-'])) (digitsValue (whole ++ fraction.drop 1))
        (-(fraction.drop 1).length)))], []⟩ := by
  have hclosing : Closed [')'] := by simp; decide
  refine parse_numberCall_of_reads (fun heq => ?_) (reads_numeral h hclosing)
  obtain ⟨cs, hcs⟩ := List.head?_eq_some_iff.mp heq
  rw [List.append_assoc, List.append_assoc] at hcs
  exact absurd (isWordPart_head h hcs.symm) (by decide)

/-- The digits of ten to the power of 400. -/
def hugeDigits : List Char := '1' :: List.replicate 400 '0'

theorem parse_hugeDigits : parse (numberCall hugeDigits) =
    .ok ⟨"a", "b", [("n", .number (.infinity false))], []⟩ := by
  have hdigits : hugeDigits.all isDigit = true := by decide +kernel
  have hnum : IsNumber [] hugeDigits [] :=
    ⟨.inl rfl, List.cons_ne_nil _ _, List.all_eq_true.mp hdigits, .none⟩
  have hvalue : Binary64.ofScaled false (digitsValue hugeDigits) 0 = .infinity false := by
    decide +kernel
  have hparse := parse_numberCall hnum
  rw [List.nil_append, List.append_nil, List.drop_nil, List.append_nil, List.length_nil,
    decide_eq_false (by simp), Int.ofNat_zero, Int.neg_zero, hvalue] at hparse
  exact hparse

/-- A number with too many digits is written as an infinity, which comes back as a text. -/
theorem format_hugeDigits :
    (∃ q, parse (numberCall hugeDigits) = .ok q ∧
      ¬∃ r, parse (format (numberCall hugeDigits)) = .ok r ∧ r.equals q = true) ∧
    format (numberCall hugeDigits) = "a | b(n=inf)" ∧
    format (format (numberCall hugeDigits)) = "a | b(n='inf')" := by
  have hquery := parse_hugeDigits
  have hagain := parse_text (spellable_of_parse hquery)
  have hfirst := format_of_parse hquery
  refine ⟨⟨_, hquery, ?_⟩, ?_, ?_⟩
  · rintro ⟨r, hr, hequals⟩
    rw [hfirst, hagain] at hr
    cases hr
    exact absurd hequals (by decide)
  · rw [hfirst]
    decide
  · rw [hfirst, format_of_parse hagain]
    decide

end PipeQuery

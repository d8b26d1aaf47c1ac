import PipeQuery.Proofs.Grammar.Unambiguous
import PipeQuery.Proofs.Lexer.Numerals

/-! The parser accepts the texts whose tokens are those of a derivation tree, and gives the query
of the tree, of which there is only one. -/

namespace PipeQuery

open Grammar

variable {text : String} {ts : List Token} {q : Query}

theorem readable_of_tokenize (h : tokenize text = .ok ts) : ∀ t ∈ ts, Readable t := by
  intro t ht hk
  obtain ⟨x, hx, hkind, htext⟩ := Lexer.exists_lexeme_of_mem h t ht
  obtain ⟨negative, digits, exponent, hvalue⟩ := hx.exists_value (hkind ▸ hk)
  rw [htext, hvalue]
  rfl

theorem unsigned_of_tokenize (h : tokenize text = .ok ts) : ∀ t ∈ ts, Unsigned t := by
  intro t ht hk
  obtain ⟨x, hx, hkind, htext⟩ := Lexer.exists_lexeme_of_mem h t ht
  rw [htext]
  exact hx.head?_ne_plus (hkind ▸ hk)

theorem parseTokens_eq_ok_iff :
    parseTokens ts = .ok q ↔ ∃ rest, Reading.query ts = .ok (q, rest) := by
  simp only [parseTokens, Parser.next, Parser.ofTokens]
  cases h : Reading.query ts with
  | error f => simp
  | ok r =>
    obtain ⟨p, rest⟩ := r
    simp [eq_comm]

theorem parse_of_tokenize (h : tokenize text = .ok ts) : parse text = parseTokens ts := by
  rw [parse, h]
  rfl

theorem parse_eq_ok_iff_tokens :
    parse text = .ok q ↔ ∃ ts, tokenize text = .ok ts ∧ parseTokens ts = .ok q := by
  rw [parse]
  cases tokenize text <;> simp [bind, Except.bind]

/-- The tokens of a derivation are parsed as its query. -/
theorem parse_of_derivation (d : Derivation) (h : tokenize text = .ok d.tokens) :
    parse text = .ok d.query :=
  parse_eq_ok_iff_tokens.mpr ⟨d.tokens, h, parseTokens_eq_ok_iff.mpr
    ⟨[], query_complete d (readable_of_tokenize h)⟩⟩

theorem exists_derivation (h : parse text = .ok q) :
    ∃ d : Derivation, tokenize text = .ok d.tokens ∧ d.query = q := by
  obtain ⟨ts, hts, hq⟩ := parse_eq_ok_iff_tokens.mp h
  obtain ⟨rest, hread⟩ := parseTokens_eq_ok_iff.mp hq
  obtain ⟨d, rfl, -, hd⟩ := query_sound (unsigned_of_tokenize hts) hread
  exact ⟨d, hts, hd⟩

/-- A text is parsed as a query if its tokens derive from the grammar and the derivation stands
for the query; no two derivations have the same tokens. -/
theorem parse_eq_ok_iff_derivation (text : String) (q : Query) :
    (parse text = .ok q ↔ ∃ d : Derivation, tokenize text = .ok d.tokens ∧ d.query = q) ∧
    ∀ d e : Derivation, d.tokens = e.tokens → d = e := by
  refine ⟨⟨exists_derivation, ?_⟩, fun _ _ h => Derivation.tokens_injective h⟩
  rintro ⟨d, h, rfl⟩
  exact parse_of_derivation d h

end PipeQuery

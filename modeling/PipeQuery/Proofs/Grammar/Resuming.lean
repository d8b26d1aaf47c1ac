import PipeQuery.Proofs.Grammar.ErrorPlace
import PipeQuery.Proofs.Grammar.Parsing
import PipeQuery.Proofs.Grammar.Spelling

/-! Parsers that are called again. A call that fails takes the tokens in front of the fault, and the
next call starts behind them, so it may give the query of an end of the tokens. A call that gives
a query leaves no tokens, and no other call gives one. -/

namespace PipeQuery.Parser

open Grammar

variable {p : Parser} {ts : List Token} {q r : Query}

/-- The parser behind its first `n` calls. -/
def called (p : Parser) : Nat → Parser
  | 0 => p
  | n + 1 => (p.called n).next.2

/-! ### One call -/

theorem next_eq_ok_iff : p.next.1 = .ok q ↔ parseTokens p.rest = .ok q := by
  rw [parseTokens_eq_ok_iff, next]
  cases Reading.query p.rest with
  | error f => simp
  | ok result =>
    obtain ⟨r, rest⟩ := result
    simp [eq_comm]

/-- A call takes tokens from the front. -/
theorem next_suffix (p : Parser) : p.next.2.rest <:+ p.rest := by
  rw [next]
  cases h : Reading.query p.rest with
  | error f => exact query_failure_suffix h
  | ok result =>
    obtain ⟨r, rest⟩ := result
    rw [query_rest h]
    exact List.nil_suffix

/-- A query reaches up to the end of the tokens. -/
theorem rest_of_query (h : p.next.1 = .ok q) : p.next.2.rest = [] := by
  obtain ⟨rest, hread⟩ := parseTokens_eq_ok_iff.mp (next_eq_ok_iff.mp h)
  rw [next, hread]
  exact query_rest hread

theorem next_of_rest_nil (h : p.rest = []) : p.next.1 ≠ .ok q := by
  rw [Ne, next_eq_ok_iff, h, parseTokens_eq_ok_iff]
  rintro ⟨rest, hread⟩
  cases hread

/-! ### Many calls -/

theorem called_suffix {m n : Nat} (h : m ≤ n) : (p.called n).rest <:+ (p.called m).rest := by
  induction n, h using Nat.le_induction with
  | base => exact List.suffix_refl _
  | succ n _ ih => exact ((p.called n).next_suffix).trans ih

/-- No call behind one that gives a query gives another. -/
theorem next_of_query_before {m n : Nat} (hq : (p.called m).next.1 = .ok q) (h : m < n) :
    (p.called n).next.1 ≠ .ok r := by
  have hsuffix : (p.called n).rest <:+ (p.called (m + 1)).rest := called_suffix h
  rw [called, rest_of_query hq, List.suffix_nil] at hsuffix
  exact next_of_rest_nil hsuffix

theorem query_unique {m n : Nat} (hm : (p.called m).next.1 = .ok q)
    (hn : (p.called n).next.1 = .ok r) : m = n := by
  rcases lt_trichotomy m n with h | h | h
  · exact absurd hn (next_of_query_before hm h)
  · exact h
  · exact absurd hm (next_of_query_before hn h)

/-- The query that a call gives is that of the tokens behind those which the failures before it
took, and of all tokens only if it is the first call. No other call gives a query. -/
theorem query_of_call (ts : List Token) (n : Nat) (q : Query)
    (h : ((ofTokens ts).called n).next.1 = .ok q) :
    (∃ taken rest, ts = taken ++ rest ∧ parseTokens rest = .ok q ∧ (taken = [] ↔ n = 0)) ∧
    ∀ m r, ((ofTokens ts).called m).next.1 = .ok r → m = n := by
  refine ⟨?_, fun m r hm => query_unique hm h⟩
  obtain ⟨taken, htaken⟩ : ((ofTokens ts).called n).rest <:+ ts := called_suffix n.zero_le
  have hrest := next_eq_ok_iff.mp h
  refine ⟨taken, _, htaken.symm, hrest, ?_, ?_⟩
  · rintro rfl
    -- the tokens are all there, so the first call gives the same query
    rw [List.nil_append] at htaken
    rw [htaken] at hrest
    exact query_unique h (next_eq_ok_iff.mpr hrest)
  · rintro rfl
    exact List.append_left_eq_self.mp htaken

/-- The tokens of the text "x a | b". -/
def strayTokens : List Token :=
  [⟨.identifier, "x", ⟨1, 1⟩⟩, ⟨.identifier, "a", ⟨1, 3⟩⟩, ⟨.pipe, "|", ⟨1, 5⟩⟩,
    ⟨.identifier, "b", ⟨1, 7⟩⟩]

/-- The first call misses a separator behind the first name, and the second one takes the next two
names for a call. -/
theorem query_of_call_strayTokens :
    ((ofTokens strayTokens).called 1).next.1 = .ok ⟨"a", "b", [], []⟩ ∧
    (∃ taken rest, strayTokens = taken ++ rest ∧ parseTokens rest = .ok ⟨"a", "b", [], []⟩ ∧
      (taken = [] ↔ 1 = 0)) := by
  have hcall : ((ofTokens strayTokens).called 1).next.1 = .ok ⟨"a", "b", [], []⟩ := by
    decide +kernel
  exact ⟨hcall, (query_of_call _ _ _ hcall).1⟩

/-- A parser may give a query behind a failure, and not that of its tokens. -/
theorem strayTokens_resumed :
    tokenize "x a | b" = .ok strayTokens ∧
    (ofTokens strayTokens).next.1 = .error ⟨.unexpectedToken .callSeparator "a", ⟨1, 3⟩⟩ ∧
    (ofTokens strayTokens).next.2.next.1 = .ok ⟨"a", "b", [], []⟩ ∧
    parseTokens strayTokens ≠ .ok ⟨"a", "b", [], []⟩ := by
  decide +kernel

end PipeQuery.Parser

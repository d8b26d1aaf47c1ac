import PipeQuery.Proofs.Lexer.Tokens
import PipeQuery.Proofs.Unicode.Lowercase

/-! The kinds of words. A word has a kind of its own if its lower case is listed, and no word has
the kind of another pattern, so the kind of a lexeme tells its pattern. -/

namespace PipeQuery

open Unicode

namespace TokenKind

theorem ofWord_cases (word : String) :
    (lowercase word, ofWord word) ∈ words ∨ ofWord word = .identifier := by
  unfold ofWord
  cases hlookup : words.lookup (lowercase word) with
  | none => exact .inr rfl
  | some kind =>
    obtain ⟨before, behind, hsplit, -⟩ := List.lookup_eq_some_iff.mp hlookup
    exact .inl (by rw [hsplit]; simp)

/-- A kind that no word is listed with is not the kind of a word. -/
theorem ofWord_ne {kind : TokenKind} (hk : kind ∉ TokenKind.identifier :: words.map (·.2))
    (word : String) : ofWord word ≠ kind := by
  intro heq
  rcases ofWord_cases word with h | h
  · rw [heq] at h
    exact hk (List.mem_cons_of_mem _ (List.mem_map.mpr ⟨_, h, rfl⟩))
  · rw [heq] at h
    exact hk (by rw [h]; exact List.mem_cons_self)

/-- Word operators are written in letters. -/
theorem isAlphabetic_of_ofWord_eq_operator {word : String} (h : ofWord word = .operator) :
    ∀ c ∈ word.toList, isAlphabetic c = true := by
  rcases ofWord_cases word with hmem | hident
  · have hall : ∀ x ∈ words, x.2 = .operator → x.1.toList.all isLatinLetter = true := by
      decide
    have hletters := List.all_eq_true.mp (hall _ hmem h)
    rw [lowercase, String.toList_ofList] at hletters
    exact isAlphabetic_of_lowerAfter hletters
  · rw [h] at hident
    cases hident

end TokenKind

namespace IsLexeme

variable {x : Lexeme}

theorem mem_symbols (h : IsLexeme x)
    (hk : x.kind ∉ .string :: .number :: .identifier :: TokenKind.words.map (·.2)) :
    x ∈ symbols := by
  cases h with
  | symbol h => exact h
  | string => simp at hk
  | number => simp at hk
  | @word c cs _ =>
    dsimp only at hk
    rw [List.mem_cons, List.mem_cons, not_or, not_or] at hk
    exact absurd rfl (TokenKind.ofWord_ne hk.2.2 _)

theorem exists_number (h : IsLexeme x) (hk : x.kind = .number) :
    ∃ sign whole fraction, IsNumber sign whole fraction ∧ x.raw = sign ++ whole ++ fraction := by
  cases h with
  | symbol h =>
    have hall : ∀ x ∈ symbols, x.kind ≠ .number := by decide
    exact absurd hk (hall x h)
  | string => cases hk
  | number h => exact ⟨_, _, _, h, rfl⟩
  | @word c cs _ =>
    dsimp only at hk
    exact absurd hk (TokenKind.ofWord_ne (by decide) (String.ofList (c :: cs)))

theorem exists_word (h : IsLexeme x) (hsymbol : x ∉ symbols) (hstring : x.kind ≠ .string)
    (hnumber : x.kind ≠ .number) :
    ∃ c cs, IsWord c cs ∧ x.raw = c :: cs ∧
      TokenKind.ofWord (String.ofList (c :: cs)) = x.kind := by
  cases h with
  | symbol h => exact absurd h hsymbol
  | string => exact absurd rfl hstring
  | number => exact absurd rfl hnumber
  | @word c cs h =>
    refine ⟨c, cs, h, rfl, ?_⟩
    dsimp only

end IsLexeme

end PipeQuery

import PipeQuery.Proofs.Query.Pieces

/-! Literals of the canonical text and tokens of the lexer. A quoted text is one string token, at
any place and whatever comes behind, and the lexer then stands behind the closing quote. The texts
that are written as numbers are those that the lexer reads as one number token. -/

namespace PipeQuery

/-! ### Places -/

/-- From the place `p` the characters `cs` lead to the place `q`. Each line feed is one line more.
The columns go on from `p` as long as there is no line feed, and behind the last line feed they are
counted anew. -/
structure Position.Reaches (p : Position) (cs : List Char) (q : Position) : Prop where
  line : q.line = p.line + cs.count '\n'
  column_of_notMem : '\n' ∉ cs → q.column = p.column + cs.length
  column_of_split : ∀ before last, cs = before ++ '\n' :: last → '\n' ∉ last →
    q.column = 1 + last.length

namespace Position

theorem Reaches.nil (p : Position) : p.Reaches [] p := ⟨by simp, by simp, by simp⟩

theorem Reaches.cons {p q : Position} {c : Char} {cs : List Char} (h : (p.step c).Reaches cs q) :
    p.Reaches (c :: cs) q := by
  refine ⟨?_, fun hfeed => ?_, fun before last hsplit hlast => ?_⟩
  · rw [h.line]
    by_cases hc : c = '\n'
    · rw [hc, List.count_cons_self]
      simp only [step, if_true]
      omega
    · rw [List.count_cons_of_ne hc]
      simp only [step, if_neg hc]
  · have hc : c ≠ '\n' := fun heq => hfeed (heq ▸ List.mem_cons_self)
    rw [h.column_of_notMem fun hmem => hfeed (List.mem_cons_of_mem c hmem), List.length_cons]
    simp only [step, if_neg hc]
    omega
  · cases before with
    | nil =>
      obtain ⟨rfl, rfl⟩ := List.cons.inj hsplit
      exact h.column_of_notMem hlast
    | cons d before => exact h.column_of_split before last (List.cons.inj hsplit).2 hlast

theorem reaches_after (p : Position) (cs : List Char) : p.Reaches cs (p.after cs) := by
  induction cs generalizing p with
  | nil => exact .nil p
  | cons c cs ih => exact .cons (ih (p.step c))

theorem Reaches.unique {p q r : Position} {cs : List Char} (hq : p.Reaches cs q)
    (hr : p.Reaches cs r) : q = r := by
  have hcolumn : q.column = r.column := by
    by_cases hfeed : '\n' ∈ cs
    · -- the last line feed is the first one from the other end
      obtain ⟨last, before, hsplit, hlast⟩ :=
        List.eq_append_cons_of_mem (List.mem_reverse.mpr hfeed)
      have hcs : cs = before.reverse ++ '\n' :: last.reverse := by
        rw [← List.reverse_reverse cs, hsplit]
        simp
      have hlast' : '\n' ∉ last.reverse := by rwa [List.mem_reverse]
      rw [hq.column_of_split _ _ hcs hlast', hr.column_of_split _ _ hcs hlast']
    · rw [hq.column_of_notMem hfeed, hr.column_of_notMem hfeed]
  exact congrArg₂ Position.mk (hq.line.trans hr.line.symm) hcolumn

/-- There is one place to which characters lead, and that is where the lexer takes itself to be. -/
theorem reaches_iff {p q : Position} {cs : List Char} : p.Reaches cs q ↔ q = p.after cs :=
  ⟨fun h => h.unique (p.reaches_after cs), fun h => h ▸ p.reaches_after cs⟩

end Position

/-! ### Quoted texts -/

/-- Quoting is undone by the lexer, wherever it stands and whatever follows the closing quote: it
gives the text as a string, at the place of the opening quote, and goes on behind the closing
one. -/
theorem Lexer.next_quote (text : String) (rest : List Char) (p : Position) :
    ∃ q, next ⟨(quote text).toList ++ rest, p⟩ = (.token ⟨.string, text, p⟩, ⟨rest, q⟩) ∧
      p.Reaches (quote text).toList q := by
  refine ⟨p.after (quote text).toList, ?_, Position.reaches_iff.mpr rfl⟩
  have hnext := next_stands (stands_quote text rest) p
  simpa only [text_quote] using hnext

/-! ### Numbers -/

/-- A text is written as a number if and only if it is read as one token, a number with all of the
text. -/
theorem isNumberLiteral_iff_tokenize {text : String} :
    isNumberLiteral text = true ↔
      ∃ t, tokenize text = .ok [t] ∧ t.kind = .number ∧ t.text = text := by
  rw [isNumberLiteral_iff_isNumber]
  constructor
  · rintro ⟨sign, whole, fraction, hnumber, htext⟩
    have hread := Reads.number hnumber stopsAt_nil
    rw [← htext] at hread
    obtain ⟨_, ⟨t, rfl, ht⟩, htokens⟩ := hread.tokenize
    exact ⟨t.1, htokens, t.kind_eq, by rw [ht, String.ofList_toList]⟩
  · rintro ⟨t, htokens, hk, rfl⟩
    obtain ⟨x, hx, hkind, htext⟩ :=
      Lexer.exists_lexeme_of_mem htokens t (List.mem_singleton_self t)
    have hkx : x.kind = .number := hkind.symm.trans hk
    obtain ⟨sign, whole, fraction, hnumber, hraw⟩ := hx.exists_number hkx
    refine ⟨sign, whole, fraction, hnumber, ?_⟩
    rw [htext, Lexeme.text, if_neg (by simp [hkx]), hraw, String.toList_ofList, List.append_assoc]

end PipeQuery

import PipeQuery.Proofs.Lexer.Longest
import PipeQuery.Proofs.Lexer.Tokens

/-! Lexers that are called again and again. Each token takes characters, so the tokens come to an
end, and no call behind a fault or behind the end of the text gives a token: a string that does not
end has taken all that was left, and a character that starts no token is told anew by every call. -/

namespace PipeQuery.Lexer

variable {l : Lexer}

/-- The lexer behind its first `n` calls. -/
def called (l : Lexer) : Nat → Lexer
  | 0 => l
  | n + 1 => (l.called n).next.2

theorem called_succ (l : Lexer) (n : Nat) : l.called (n + 1) = l.next.2.called n := by
  induction n with
  | zero => rfl
  | succ n ih => rw [called, ih, called]

/-! ### One call -/

theorem exists_skipSpace (l : Lexer) :
    ∃ gap rest, l.rest = gap ++ rest ∧ StopsAt isSpace rest ∧
      l.skipSpace = ⟨rest, l.position.after gap⟩ := by
  obtain ⟨cs, p⟩ := l
  obtain ⟨rest, hsplit, hstop⟩ := exists_run isSpace cs
  have hskip := skipSpace_append (all_takeWhile isSpace cs) hstop p
  rw [← hsplit] at hskip
  exact ⟨_, rest, hsplit, hstop, hskip⟩

theorem skipSpace_eq_self (h : StopsAt isSpace l.rest) : l.skipSpace = l :=
  @skipSpace_append [] l.rest (by simp) h l.position

/-- Spaces may be skipped before a call as well as in it. -/
theorem next_skipSpace (l : Lexer) : l.skipSpace.next = l.next := by
  obtain ⟨gap, rest, -, hstop, hskip⟩ := l.exists_skipSpace
  rw [next, next, skipSpace_eq_self (by rwa [hskip])]

theorem next_of_rest_nil (h : l.rest = []) : l.next = (.done, l) := by
  rw [next, skipSpace_eq_self (by simp [h]), read, h]

/-- A token takes characters. -/
theorem rest_of_token {t : Token} (h : l.next.1 = .token t) :
    ∃ taken, taken ≠ [] ∧ l.rest = taken ++ l.next.2.rest := by
  obtain ⟨gap, x, rest, hsplit, -, hx, -, hnext⟩ :=
    @next_eq_token l.rest l.position t l.next.2 (Prod.ext h rfl)
  obtain ⟨c, cs, hraw, -⟩ := hx.isLexeme.head
  refine ⟨gap ++ x.raw, by simp [hraw], ?_⟩
  rw [hnext, List.append_assoc]
  exact hsplit

/-- Where there is neither a token nor a fault, the text is at its end. -/
theorem rest_of_done (h : l.next.1 = .done) : l.next.2.rest = [] := by
  rw [next, read] at h ⊢
  split at h
  · assumption
  · split at h <;> cases h

theorem read_of_fault {e : SyntaxError} (h : l.read.1 = .fault e) :
    (e.cause = .unterminatedString ∨ ∃ c, e.cause = .unexpectedCharacter c) ∧
      l.read.2 = l.stopped e.cause := by
  rw [read] at h ⊢
  split at h
  · cases h
  · rename_i c cs hrest
    split at h
    · cases h
    · rename_i cause hscan
      cases h
      refine ⟨?_, rfl⟩
      rw [(scan_eq_error hscan).2]
      split_ifs
      · exact .inl rfl
      · exact .inr ⟨c, rfl⟩

/-- A string that does not end leaves no characters, and a character that starts no token is there
for the next call. -/
theorem next_of_fault {e : SyntaxError} (h : l.next.1 = .fault e) :
    (e.cause = .unterminatedString ∧ l.next.2.rest = []) ∨
    (∃ c, e.cause = .unexpectedCharacter c) ∧ l.next.2.next = l.next := by
  obtain ⟨hcause, hstopped⟩ :
      (_ ∨ _) ∧ l.next.2 = l.skipSpace.stopped e.cause := read_of_fault h
  rcases hcause with hcause | ⟨c, hcause⟩
  · rw [hcause] at hstopped
    exact .inl ⟨hcause, by simp [hstopped, stopped, advance]⟩
  · rw [hcause] at hstopped
    refine .inr ⟨⟨c, hcause⟩, ?_⟩
    rw [hstopped]
    exact l.next_skipSpace

/-! ### Many calls -/

/-- What the calls give from now on, if the next one gives no token: nothing, at the end of the
text; one fault and then nothing, where a string does not end; and the same fault for ever, at a
character that starts no token. -/
inductive Stopped (l : Lexer) : Prop
  | ended (h : ∀ n, (l.called n).next.1 = .done)
  | unterminated (p : Position) (h : l.next.1 = .fault ⟨.unterminatedString, p⟩)
    (hlater : ∀ n, (l.called (n + 1)).next.1 = .done)
  | unexpected (c : Char) (p : Position)
    (h : ∀ n, (l.called n).next.1 = .fault ⟨.unexpectedCharacter c, p⟩)

theorem called_of_rest_nil (h : l.rest = []) (n : Nat) : l.called n = l := by
  induction n with
  | zero => rfl
  | succ n ih => rw [called, ih, next_of_rest_nil h]

theorem done_of_rest_nil (h : l.rest = []) (n : Nat) : (l.called n).next.1 = .done := by
  rw [called_of_rest_nil h, next_of_rest_nil h]

theorem next_called_of_repeated (h : l.next.2.next = l.next) (n : Nat) :
    (l.called n).next = l.next := by
  induction n with
  | zero => rfl
  | succ n ih => rw [called, ih, h]

/-- A lexer that gives no token has stopped. -/
theorem stopped_of_no_token (h : ∀ t, l.next.1 ≠ .token t) : l.Stopped := by
  cases hstep : l.next.1 with
  | token t => exact absurd hstep (h t)
  | done =>
    refine .ended fun n => ?_
    cases n with
    | zero => exact hstep
    | succ n => rw [called_succ, done_of_rest_nil (rest_of_done hstep)]
  | fault e =>
    obtain ⟨cause, p⟩ := e
    rcases next_of_fault hstep with ⟨rfl, hrest⟩ | ⟨⟨c, rfl⟩, hagain⟩
    · refine .unterminated p hstep fun n => ?_
      rw [called_succ, done_of_rest_nil hrest]
    · refine .unexpected c p fun n => ?_
      rw [next_called_of_repeated hagain, hstep]

/-- A call gives a token and takes characters for it. -/
def Takes (l : Lexer) (n : Nat) : Prop :=
  ∃ t taken, (l.called n).next.1 = .token t ∧ taken ≠ [] ∧
    (l.called n).rest = taken ++ (l.called (n + 1)).rest

/-- The tokens come to an end, since each takes characters. -/
theorem exists_stopped (l : Lexer) :
    ∃ k ≤ l.rest.length, (∀ n < k, l.Takes n) ∧ (l.called k).Stopped := by
  -- The induction is on the characters that are left, as no count of the tokens is known yet.
  induction hlength : l.rest.length using Nat.strongRecOn generalizing l with
  | ind length ih =>
    by_cases htoken : ∃ t, l.next.1 = .token t
    · obtain ⟨t, ht⟩ := htoken
      obtain ⟨taken, hne, hrest⟩ := rest_of_token ht
      have hshorter : l.next.2.rest.length < length := by
        rw [← hlength, hrest, List.length_append]
        exact Nat.lt_add_of_pos_left (List.length_pos_iff.mpr hne)
      obtain ⟨k, hk, htakes, hstopped⟩ := ih _ hshorter l.next.2 rfl
      refine ⟨k + 1, by omega, fun n hn => ?_, by rwa [called_succ]⟩
      cases n with
      | zero => exact ⟨t, taken, ht, hne, hrest⟩
      | succ n =>
        obtain ⟨u, taken', hu⟩ := htakes n (by omega)
        rw [← called_succ, ← called_succ] at hu
        exact ⟨u, taken', hu⟩
    · exact ⟨0, Nat.zero_le _, by simp, stopped_of_no_token (not_exists.mp htoken)⟩

/-- The calls on a text give at most as many tokens as there are characters, each of which takes
characters from the front of what is left, and behind the tokens the lexer has stopped for good. -/
theorem calls_of_text (text : String) :
    ∃ k ≤ text.length, (∀ n < k, (ofText text).Takes n) ∧ ((ofText text).called k).Stopped :=
  (ofText text).exists_stopped

end PipeQuery.Lexer

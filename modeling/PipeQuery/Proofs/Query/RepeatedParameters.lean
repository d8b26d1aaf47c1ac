import PipeQuery.Proofs.Grammar.Parsing
import PipeQuery.Proofs.Named

/-! Parameters that are written more than once. A name stands where it is written first, with the
value that it is given last, and names are the same only if they are spelled alike. -/

namespace PipeQuery

namespace Named

variable {α : Type} {pairs xs : Named α} {name n : String} {value v : α}

/-- The pairs end with one of this name and this value, but for pairs of other names. -/
def GivesLast (pairs : Named α) (name : String) (value : α) : Prop :=
  ∃ before after : Named α, pairs = before ++ (name, value) :: after ∧ name ∉ after.names

theorem givesLast_concat_iff : (pairs ++ [(name, value)]).GivesLast n v ↔
    n = name ∧ v = value ∨ n ≠ name ∧ pairs.GivesLast n v := by
  constructor
  · rintro ⟨before, after, hsplit, hlast⟩
    rcases List.eq_nil_or_concat' after with rfl | ⟨after, x, rfl⟩
    · obtain ⟨-, hpair⟩ := List.append_inj' hsplit rfl
      exact .inl (Prod.mk.inj (List.singleton_inj.mp hpair.symm))
    · rw [← List.cons_append, ← List.append_assoc] at hsplit
      obtain ⟨hpairs, hpair⟩ := List.append_inj' hsplit rfl
      obtain rfl := List.singleton_inj.mp hpair
      rw [names_append, List.mem_append, not_or] at hlast
      exact .inr ⟨by simpa using hlast.2, before, after, hpairs, hlast.1⟩
  · rintro (⟨rfl, rfl⟩ | ⟨hne, before, after, rfl, hlast⟩)
    · exact ⟨pairs, [], rfl, by simp⟩
    · exact ⟨before, after ++ [(name, value)], by simp, by simp [hlast, hne]⟩

/-- The names of the pairs, in the order in which they come first, each with the value of its last
pair. -/
structure Resolves (pairs xs : Named α) : Prop where
  names_firstCome : FirstCome pairs.names xs.names
  mem_iff : ∀ name value, (name, value) ∈ xs ↔ pairs.GivesLast name value

theorem Resolves.insert (h : Resolves pairs xs) (name : String) (value : α) :
    Resolves (pairs ++ [(name, value)]) (xs.insert name value) where
  names_firstCome := by
    rw [names_append, names_insert]
    exact h.names_firstCome.concat name
  mem_iff n v := by
    rw [mem_insert_iff h.names_firstCome.nodup, givesLast_concat_iff, h.mem_iff]

theorem ofList_resolves (pairs : List (String × α)) : Resolves pairs (ofList pairs) := by
  induction pairs using List.reverseRecOn with
  | nil => exact ⟨.nil, fun name value => by simp [ofList, GivesLast]⟩
  | append_singleton pairs p ih =>
    rw [ofList, List.foldl_append]
    exact ih.insert p.1 p.2

end Named

open Grammar

/-- The parameters of a text that parses are those written in its derivation, of which there is only
one: each name once, where it is written first, with the value of its last assignment. -/
theorem parameters_of_parse {text : String} {q : Query} (h : parse text = .ok q) :
    ∃ d : Derivation, (∀ e : Derivation, tokenize text = .ok e.tokens ↔ e = d) ∧
      Named.Resolves (d.arguments.assignments.map Assignment.pair) q.parameters := by
  obtain ⟨d, hd, rfl⟩ := exists_derivation h
  refine ⟨d, fun e => ⟨fun he => ?_, fun he => he ▸ hd⟩, Named.ofList_resolves _⟩
  exact Derivation.tokens_injective (Except.ok.inj (he.symm.trans hd))

/-- A reserved word that is assigned twice, between them the same word in capitals. -/
def reassigned : String := "a | b(where=1, x='u', WHERE=true, where=count, x=2)"

theorem parameters_of_parse_reassigned :
    ∃ q, parse reassigned = .ok q ∧
      q.parameters =
        [("where", .string "count"), ("x", .number (.ofNat 2)), ("WHERE", .bool true)] ∧
      ∃ d : Derivation, (∀ e : Derivation, tokenize reassigned = .ok e.tokens ↔ e = d) ∧
        Named.Resolves (d.arguments.assignments.map Assignment.pair) q.parameters := by
  have hparse : parse reassigned = .ok ⟨"a", "b",
      [("where", .string "count"), ("x", .number (.ofNat 2)), ("WHERE", .bool true)], []⟩ := by
    decide +kernel
  exact ⟨_, hparse, rfl, parameters_of_parse hparse⟩

end PipeQuery

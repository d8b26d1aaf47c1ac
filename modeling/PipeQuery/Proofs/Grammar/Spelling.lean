import Mathlib.Data.List.Forall2
import Mathlib.Tactic.Common
import PipeQuery.Proofs.Lexer.Tokens
import PipeQuery.Query.Parser

/-! The parser looks at kinds and texts of tokens and takes tokens from the front. Places are told
in errors and decide nothing, so two lists of tokens of the same spelling are read side by side:
with the same result, or with failures of the same cause, and with ends left that have the same
spelling again. -/

namespace PipeQuery

namespace Token

variable {t u : Token}

theorem kind_eq_of_spelling (h : t.spelling = u.spelling) : t.kind = u.kind := congrArg Prod.fst h

theorem text_eq_of_spelling (h : t.spelling = u.spelling) : t.text = u.text := congrArg Prod.snd h

theorem isWord_eq_of_spelling (h : t.spelling = u.spelling) : t.isWord = u.isWord := by
  rw [isWord, isWord, kind_eq_of_spelling h, text_eq_of_spelling h]

end Token

namespace Grammar

open Reading Token

/-! ### Two lists side by side -/

/-- Tokens of the same kinds and texts, wherever they stand. -/
abbrev SameSpelling (ts us : List Token) : Prop :=
  List.Forall₂ (fun t u => t.spelling = u.spelling) ts us

theorem sameSpelling_iff {ts us : List Token} :
    SameSpelling ts us ↔ ts.map spelling = us.map spelling := by
  rw [← List.forall₂_eq_eq_eq, List.forall₂_map_left_iff, List.forall₂_map_right_iff]

/-- Ends of two lists, of the same spelling. -/
structure Ends (ts us rest rest' : List Token) : Prop where
  same : SameSpelling rest rest'
  left : rest <:+ ts
  right : rest' <:+ us

/-- Two readings succeed with related results, or fail for the same cause, and leave ends of the
lists that they were given. -/
inductive Parallel {α : Type} (R : α → α → Prop) (ts us : List Token) :
    Except Failure (α × List Token) → Except Failure (α × List Token) → Prop
  | ok {a b : α} {rest rest' : List Token} (hab : R a b) (hends : Ends ts us rest rest') :
    Parallel R ts us (.ok (a, rest)) (.ok (b, rest'))
  | error {f g : Failure} (hcause : f.cause = g.cause) (hends : Ends ts us f.rest g.rest) :
    Parallel R ts us (.error f) (.error g)

variable {α β : Type} {R : α → α → Prop} {S : β → β → Prop} {t u : Token}
  {ts us vs ws rest rest' : List Token}

namespace Ends

theorem refl (h : SameSpelling ts us) : Ends ts us ts us := ⟨h, List.suffix_rfl, List.suffix_rfl⟩

theorem trans (h : Ends ts us vs ws) (h' : Ends vs ws rest rest') : Ends ts us rest rest' :=
  ⟨h'.same, h'.left.trans h.left, h'.right.trans h.right⟩

theorem tail (h : SameSpelling ts us) : Ends (t :: ts) (u :: us) ts us :=
  ⟨h, List.suffix_cons t ts, List.suffix_cons u us⟩

end Ends

namespace Parallel

/-- What is read behind something that both readings took. -/
theorem behind {x y : Except Failure (α × List Token)} (h : Ends ts us vs ws)
    (hxy : Parallel R vs ws x y) : Parallel R ts us x y := by
  cases hxy with
  | ok hab hends => exact .ok hab (h.trans hends)
  | error hcause hends => exact .error hcause (h.trans hends)

theorem bind {x y : Except Failure (α × List Token)}
    {f g : α × List Token → Except Failure (β × List Token)} (hxy : Parallel R ts us x y)
    (hfg : ∀ a b rest rest', x = .ok (a, rest) → R a b → SameSpelling rest rest' →
      Parallel S rest rest' (f (a, rest)) (g (b, rest'))) :
    Parallel S ts us (x >>= f) (y >>= g) := by
  cases hxy with
  | ok hab hends => exact behind hends (hfg _ _ _ _ rfl hab hends.same)
  | error hcause hends => exact .error hcause hends

theorem map {x y : Except Failure (α × List Token)} (f : α → β) (h : Parallel Eq ts us x y) :
    Parallel Eq ts us (x.map fun (a, rest) => (f a, rest))
      (y.map fun (a, rest) => (f a, rest)) := by
  cases h with
  | ok hab hends => exact .ok (congrArg f hab) hends
  | error hcause hends => exact .error hcause hends

theorem unexpected (e : Expectation) (h : SameSpelling ts us) :
    Parallel R ts us (.error (Reading.unexpected e ts)) (.error (Reading.unexpected e us)) := by
  cases h with
  | nil => exact .error rfl (.refl .nil)
  | cons ht hts =>
    have hfound := congrArg (SyntaxError.Cause.unexpectedToken e) (text_eq_of_spelling ht)
    exact .error hfound (.refl (.cons ht hts))

end Parallel

/-! ### Single tokens -/

theorem expect_parallel (kind : TokenKind) (e : Expectation) (h : SameSpelling ts us) :
    Parallel (fun t u => t.spelling = u.spelling) ts us (expect kind e ts) (expect kind e us) := by
  cases h with
  | nil => exact .unexpected e .nil
  | cons ht hts =>
    rw [expect, expect, kind_eq_of_spelling ht]
    split_ifs
    · exact .ok ht (.tail hts)
    · exact .unexpected e (.cons ht hts)

theorem callSeparator_parallel (h : SameSpelling ts us) :
    Parallel Eq ts us (callSeparator ts) (callSeparator us) := by
  cases h with
  | nil => exact .unexpected _ .nil
  | cons ht hts =>
    rw [callSeparator, callSeparator, kind_eq_of_spelling ht]
    split_ifs
    · exact .ok rfl (.tail hts)
    · exact .unexpected _ (.cons ht hts)

theorem skip_ends (kind : TokenKind) (h : SameSpelling ts us) :
    Ends ts us (skip kind ts) (skip kind us) := by
  cases h with
  | nil => exact .refl .nil
  | cons ht hts =>
    rw [skip, skip, kind_eq_of_spelling ht]
    split_ifs
    · exact .tail hts
    · exact .refl (.cons ht hts)

/-! ### Parameters -/

theorem value_parallel (h : SameSpelling ts us) :
    Parallel Eq ts us (Reading.value ts) (Reading.value us) := by
  cases h with
  | nil => exact .unexpected _ .nil
  | cons ht hts =>
    rw [Reading.value, Reading.value, kind_eq_of_spelling ht, text_eq_of_spelling ht,
      isWord_eq_of_spelling ht]
    split
    · exact .ok rfl (.tail hts)
    · split
      · exact .ok rfl (.tail hts)
      · exact .error rfl (.refl (.cons ht hts))
    · exact .ok rfl (.tail hts)
    · split_ifs
      · exact .ok rfl (.tail hts)
      · exact .unexpected _ (.cons ht hts)

theorem parameter_parallel (h : SameSpelling ts us) :
    Parallel Eq ts us (parameter ts) (parameter us) := by
  cases h with
  | nil => exact .unexpected _ .nil
  | cons ht hts =>
    rw [parameter, parameter, isWord_eq_of_spelling ht, text_eq_of_spelling ht]
    split_ifs
    · refine .behind (.tail hts) ((expect_parallel _ _ hts).bind fun _ _ _ _ _ _ hrest => ?_)
      refine (value_parallel hrest).bind fun v w _ _ _ hv hrest => ?_
      exact .ok (by rw [hv]) (.refl hrest)
    · exact .unexpected _ (.cons ht hts)

theorem parametersFrom_eq (before : Parameters) (ts : List Token) :
    parametersFrom before ts = (do
      let ((name, v), ts) ← parameter ts
      match ts with
      | [] => .error (unexpected .parameterEnd [])
      | t :: rest =>
        if t.kind = .comma then parametersFrom (before.insert name v) rest
        else if t.kind = .closeParen then .ok (before.insert name v, rest)
        else .error (unexpected .parameterEnd (t :: rest))) := by
  rw [parametersFrom]
  split <;> next h => rw [h]; rfl

theorem parametersFrom_parallel (before : Parameters) {ts us : List Token}
    (h : SameSpelling ts us) :
    Parallel Eq ts us (parametersFrom before ts) (parametersFrom before us) := by
  rw [parametersFrom_eq before ts, parametersFrom_eq before us]
  refine (parameter_parallel h).bind fun ⟨name, v⟩ _ rest _ hparameter heq hrest => ?_
  cases heq
  cases hrest with
  | nil => exact .unexpected _ .nil
  | @cons t u vs ws ht hts =>
    have hlength : vs.length < ts.length := Nat.lt_of_succ_lt (parameter_length hparameter)
    dsimp only
    rw [kind_eq_of_spelling ht]
    split_ifs
    · exact .behind (.tail hts) (parametersFrom_parallel _ hts)
    · exact .ok rfl (.tail hts)
    · exact .unexpected _ (.cons ht hts)
termination_by ts.length

theorem parameters_cons (t : Token) (ts : List Token) :
    Reading.parameters (t :: ts) =
      if t.kind = .openParen then
        match ts with
        | [] => parametersFrom [] []
        | u :: rest =>
          if u.kind = .closeParen then .ok ([], rest) else parametersFrom [] (u :: rest)
      else .ok ([], t :: ts) := by
  unfold Reading.parameters
  split
  · next heq => cases heq; rfl
  · next text place rest hclose heq =>
    cases heq
    rw [if_pos rfl]
    cases ts with
    | nil => rfl
    | cons u us =>
      have hk : u.kind ≠ .closeParen := fun hk => hclose u.text u.position us (by rw [← hk])
      exact (if_neg hk).symm
  · next hempty hopen =>
    have hk : t.kind ≠ .openParen := fun hk => hopen t.text t.position ts (by rw [← hk])
    exact (if_neg hk).symm

theorem parameters_parallel (h : SameSpelling ts us) :
    Parallel Eq ts us (Reading.parameters ts) (Reading.parameters us) := by
  cases h with
  | nil => exact .ok rfl (.refl .nil)
  | cons ht hts =>
    rw [parameters_cons, parameters_cons, kind_eq_of_spelling ht]
    split_ifs
    · refine .behind (.tail hts) ?_
      cases hts with
      | nil => exact parametersFrom_parallel [] .nil
      | cons hu hus =>
        dsimp only
        rw [kind_eq_of_spelling hu]
        split_ifs
        · exact .ok rfl (.tail hus)
        · exact parametersFrom_parallel [] (.cons hu hus)
    · exact .ok rfl (.refl (.cons ht hts))

/-! ### Operators -/

theorem condition_parallel (h : SameSpelling ts us) :
    Parallel Eq ts us (Reading.condition ts) (Reading.condition us) := by
  refine (expect_parallel _ _ h).bind fun column column' _ _ _ hcolumn hrest => ?_
  refine (expect_parallel _ _ hrest).bind fun symbol symbol' _ _ _ hsymbol hrest => ?_
  dsimp only
  rw [text_eq_of_spelling hsymbol]
  split
  · exact .error rfl (.refl hrest)
  · cases hrest with
    | nil => exact .unexpected _ .nil
    | cons ht hts =>
      dsimp only
      rw [kind_eq_of_spelling ht, text_eq_of_spelling ht, text_eq_of_spelling hcolumn]
      split_ifs
      · exact .ok rfl (.tail hts)
      · exact .unexpected _ (.cons ht hts)

theorem conditions_eq (ts : List Token) :
    conditions ts = (do
      let (c, ts) ← Reading.condition ts
      match ts with
      | [] => .ok ([c], [])
      | t :: rest =>
        if t.kind = .and ∨ t.kind = .or then (conditions rest).map fun (cs, rest) => (c :: cs, rest)
        else .ok ([c], t :: rest)) := by
  rw [conditions]
  split
  · next h => rw [h]; rfl
  · next h => rw [h]; rfl
  · next rest h =>
    rw [h]
    cases hmore : conditions rest <;> simp [bind, Except.bind, Except.map, hmore]

theorem conditions_parallel {ts us : List Token} (h : SameSpelling ts us) :
    Parallel Eq ts us (conditions ts) (conditions us) := by
  rw [conditions_eq ts, conditions_eq us]
  refine (condition_parallel h).bind fun c _ rest _ hcondition heq hrest => ?_
  cases heq
  cases hrest with
  | nil => exact .ok rfl (.refl .nil)
  | @cons t u vs ws ht hts =>
    have hlength : vs.length < ts.length := Nat.lt_of_succ_lt (condition_length hcondition)
    dsimp only
    rw [kind_eq_of_spelling ht]
    split_ifs
    · exact .behind (.tail hts) ((conditions_parallel hts).map _)
    · exact .ok rfl (.refl (.cons ht hts))
termination_by ts.length

theorem columns_cons (t : Token) (ts : List Token) :
    columns (t :: ts) =
      if t.kind = .identifier then
        match ts with
        | [] => .ok ([t.text], [])
        | s :: rest =>
          if s.kind = .comma then (columns rest).map fun (cs, rest) => (t.text :: cs, rest)
          else .ok ([t.text], s :: rest)
      else .error (unexpected .columnName (t :: ts)) := by
  cases ts with
  | nil => rfl
  | cons s rest =>
    rw [columns]
    dsimp only
    cases columns rest <;> rfl

theorem columns_parallel {ts us : List Token} (h : SameSpelling ts us) :
    Parallel Eq ts us (columns ts) (columns us) := by
  cases h with
  | nil => exact .unexpected _ .nil
  | cons ht hts =>
    rw [columns_cons, columns_cons, kind_eq_of_spelling ht, text_eq_of_spelling ht]
    split_ifs
    · refine .behind (.tail hts) ?_
      cases hts with
      | nil => exact .ok rfl (.refl .nil)
      | cons hs hrest =>
        dsimp only
        rw [kind_eq_of_spelling hs]
        split_ifs
        · exact .behind (.tail hrest) ((columns_parallel hrest).map _)
        · exact .ok rfl (.refl (.cons hs hrest))
    · exact .unexpected _ (.cons ht hts)
termination_by ts.length

theorem take_parallel (h : SameSpelling ts us) :
    Parallel Eq ts us (Reading.take ts) (Reading.take us) := by
  refine (expect_parallel _ _ h).bind fun rows rows' _ _ _ hrows hrest => ?_
  dsimp only
  rw [text_eq_of_spelling hrows]
  split
  · exact .ok rfl (.refl hrest)
  · exact .error rfl (.refl hrest)

theorem direction_ends (h : SameSpelling ts us) :
    (direction ts).1 = (direction us).1 ∧ Ends ts us (direction ts).2 (direction us).2 := by
  cases h with
  | nil => exact ⟨rfl, .refl .nil⟩
  | cons ht hts =>
    rw [direction, direction, kind_eq_of_spelling ht]
    split_ifs
    · exact ⟨rfl, .tail hts⟩
    · exact ⟨rfl, .tail hts⟩
    · exact ⟨rfl, .refl (.cons ht hts)⟩

theorem sort_parallel (h : SameSpelling ts us) :
    Parallel Eq ts us (Reading.sort ts) (Reading.sort us) := by
  have hskip := skip_ends .by h
  refine .behind hskip ?_
  refine (expect_parallel _ _ hskip.same).bind fun column column' _ _ _ hcolumn hrest => ?_
  obtain ⟨hdirection, hends⟩ := direction_ends hrest
  exact .ok (congrArg₂ Operator.sort (text_eq_of_spelling hcolumn) hdirection) hends

/-- The tokens of an expression have the same texts, and it ends at the same place. -/
theorem expression_ends (h : SameSpelling ts us) :
    (ts.takeWhile (·.kind ≠ .pipe)).map (·.text) = (us.takeWhile (·.kind ≠ .pipe)).map (·.text) ∧
      Ends ts us (ts.dropWhile (·.kind ≠ .pipe)) (us.dropWhile (·.kind ≠ .pipe)) := by
  induction h with
  | nil => exact ⟨rfl, .refl .nil⟩
  | @cons t u ts us ht hts ih =>
    rw [List.takeWhile_cons, List.takeWhile_cons, List.dropWhile_cons, List.dropWhile_cons,
      kind_eq_of_spelling ht]
    split_ifs
    · rw [List.map_cons, List.map_cons, text_eq_of_spelling ht, ih.1]
      exact ⟨rfl, (Ends.tail hts).trans ih.2⟩
    · exact ⟨rfl, .refl (.cons ht hts)⟩

theorem extend_parallel (h : SameSpelling ts us) :
    Parallel Eq ts us (Reading.extend ts) (Reading.extend us) := by
  refine (expect_parallel _ _ h).bind fun column column' _ _ _ hcolumn hrest => ?_
  refine (expect_parallel _ _ hrest).bind fun _ _ _ _ _ _ hrest => ?_
  obtain ⟨htexts, hends⟩ := expression_ends hrest
  have hexpression := congrArg (" ".intercalate ·) htexts
  exact .ok (congrArg₂ Operator.extend (text_eq_of_spelling hcolumn) hexpression) hends

theorem operator_parallel (h : SameSpelling ts us) :
    Parallel Eq ts us (Reading.operator ts) (Reading.operator us) := by
  cases h with
  | nil => exact .unexpected _ .nil
  | cons ht hts =>
    rw [Reading.operator, Reading.operator, kind_eq_of_spelling ht]
    split
    · exact .behind (.tail hts) ((conditions_parallel hts).map _)
    · exact .behind (.tail hts) ((columns_parallel hts).map _)
    · exact .behind (.tail hts) (take_parallel hts)
    · exact .behind (.tail hts) (sort_parallel hts)
    · exact .ok rfl (.tail hts)
    · exact .behind (.tail hts) (extend_parallel hts)
    · exact .unexpected _ (.cons ht hts)

/-! ### Queries -/

theorem pipeline_cons (t : Token) (ts : List Token) :
    pipeline (t :: ts) =
      if t.kind = .pipe then (do
        let (op, rest) ← Reading.operator ts
        (pipeline rest).map fun (ops, rest) => (op :: ops, rest))
      else .error (unexpected .queryEnd (t :: ts)) := by
  rw [pipeline]
  split_ifs
  · split
    · next h => rw [h]; rfl
    · next op rest h =>
      rw [h]
      cases hmore : pipeline rest <;> simp [bind, Except.bind, Except.map, hmore]
  · rfl

theorem pipeline_parallel {ts us : List Token} (h : SameSpelling ts us) :
    Parallel Eq ts us (pipeline ts) (pipeline us) := by
  cases h with
  | nil =>
    rw [pipeline]
    exact .ok rfl (.refl .nil)
  | cons ht hts =>
    rw [pipeline_cons, pipeline_cons, kind_eq_of_spelling ht]
    split_ifs
    · refine .behind (.tail hts) ?_
      refine (operator_parallel hts).bind fun op _ rest _ hop heq hrest => ?_
      cases heq
      have hlength := operator_length hop
      exact (pipeline_parallel hrest).map _
    · exact .unexpected _ (.cons ht hts)
termination_by ts.length

theorem query_parallel (h : SameSpelling ts us) :
    Parallel Eq ts us (Reading.query ts) (Reading.query us) := by
  refine (expect_parallel _ _ h).bind fun provider provider' _ _ _ hprovider hrest => ?_
  refine (callSeparator_parallel hrest).bind fun _ _ _ _ _ _ hrest => ?_
  refine (expect_parallel _ _ hrest).bind fun tool tool' _ _ _ htool hrest => ?_
  refine (parameters_parallel hrest).bind fun ps _ _ _ _ hps hrest => ?_
  cases hps
  refine (pipeline_parallel hrest).bind fun ops _ _ _ _ hops hrest => ?_
  cases hops
  exact .ok (by rw [text_eq_of_spelling hprovider, text_eq_of_spelling htool]) (.refl hrest)

/-- What a failure leaves is an end of the tokens. -/
theorem query_failure_suffix {f : Failure} (h : Reading.query ts = .error f) : f.rest <:+ ts := by
  have hself : SameSpelling ts ts := List.forall₂_same.mpr fun _ _ => rfl
  have hquery := query_parallel hself
  rw [h] at hquery
  cases hquery with
  | error _ hends => exact hends.left

/-- The parser gives the same query or the same message for tokens of the same spelling. -/
theorem parseTokens_eq_of_spelling (h : SameSpelling ts us) :
    (parseTokens us).mapError SyntaxError.message =
      (parseTokens ts).mapError SyntaxError.message := by
  have hquery := query_parallel h
  simp only [parseTokens, Parser.next, Parser.ofTokens]
  generalize Reading.query ts = x at hquery ⊢
  generalize Reading.query us = y at hquery ⊢
  cases hquery with
  | ok hq _ => rw [hq]
  | error hcause _ =>
    have hmessage := congrArg SyntaxError.Cause.message hcause
    exact congrArg Except.error hmessage.symm

end Grammar

end PipeQuery

import PipeQuery.Proofs.Grammar.Automaton
import PipeQuery.Proofs.Grammar.Parsing

/-! Errors of the parser are told at the first token that cannot be right. Each reading function
goes through the tokens as the automaton of the grammar does: what it takes leads from one state to
another one, and it fails at a token that may not come next or at the end of the tokens where a
query may not end. -/

namespace PipeQuery.Grammar

open Reading State

/-! ### Reading functions and the automaton -/

/-- The tokens that are left do not tell two states apart. -/
structure Alike (rest : List Token) (s s' : State) : Prop where
  accepting_eq : s.accepting = s'.accepting
  step_eq : ∀ t ∈ rest.head?, s.step t = s'.step t

/-- Where a failure lies: at a token that may not come next, or at the end of the tokens where no
query may end. -/
inductive Blames (s : State) (ts : List Token) (f : Failure) : Prop
  | token {before after : List Token} {t : Token} {s' : State} (hts : ts = before ++ t :: after)
    (hrun : s.run before = some s') (hstep : s'.step t = none)
    (hplace : f.place = some t.position)
  | ending {s' : State} {e : Expectation} (hrun : s.run ts = some s')
    (hend : s'.accepting = false) (hplace : f.place = none) (hcause : f.cause = .unexpectedEnd e)

/-- What is read leads from `s` to `s'`, as far as the tokens left tell; what fails is to blame. -/
def Agrees {α : Type} (s s' : State) (ts : List Token) : Except Failure (α × List Token) → Prop
  | .ok (_, rest) => ∃ taken s₁, ts = taken ++ rest ∧ s.run taken = some s₁ ∧ Alike rest s₁ s'
  | .error f => Blames s ts f

variable {α β : Type} {s s' s'' : State} {t : Token} {ts rest : List Token}

theorem Alike.refl (rest : List Token) (s : State) : Alike rest s s := ⟨rfl, fun _ _ => rfl⟩

/-- What may be left out and is left out makes no difference. -/
theorem Alike.of_absent {p : Token → Prop} [DecidablePred p] {next : State}
    (haccepting : s.accepting = s'.accepting)
    (hstep : ∀ t, s.step t = if p t then some next else s'.step t)
    (hrest : ∀ t ∈ rest.head?, ¬p t) : Alike rest s s' :=
  ⟨haccepting, fun t ht => (hstep t).trans (if_neg (hrest t ht))⟩

theorem Alike.trans (h : Alike rest s s') (h' : Alike rest s' s'') : Alike rest s s'' :=
  ⟨h.accepting_eq.trans h'.accepting_eq, fun t ht => (h.step_eq t ht).trans (h'.step_eq t ht)⟩

theorem Alike.run_cons (h : Alike (t :: rest) s s') (us : List Token) :
    s.run (t :: us) = s'.run (t :: us) := by
  rw [State.run_cons, State.run_cons, h.step_eq t rfl]

/-- The failure lies at the next token. -/
theorem Blames.next {f : Failure} (hstep : s.step t = none) (hplace : f.place = some t.position) :
    Blames s (t :: ts) f :=
  .token (List.nil_append _).symm (run_nil s) hstep hplace

theorem Blames.alike {f : Failure} (h : Alike ts s s') (hf : Blames s' ts f) : Blames s ts f := by
  cases hf with
  | @token before after t s₁ hts hrun hstep hplace =>
    cases before with
    | nil =>
      cases hrun
      subst hts
      exact .token rfl rfl ((h.step_eq t rfl).trans hstep) hplace
    | cons u before =>
      subst hts
      exact .token rfl ((h.run_cons before).trans hrun) hstep hplace
  | @ending s₁ e hrun hend hplace hcause =>
    cases ts with
    | nil =>
      cases hrun
      exact .ending rfl (h.accepting_eq.trans hend) hplace hcause
    | cons u us => exact .ending ((h.run_cons us).trans hrun) hend hplace hcause

theorem Blames.append {f : Failure} {taken : List Token} (h : s.run taken = some s')
    (hf : Blames s' rest f) : Blames s (taken ++ rest) f := by
  have hrun (us : List Token) : s.run (taken ++ us) = s'.run us := by
    rw [run_append, h, Option.bind_some]
  cases hf with
  | token hts hrest hstep hplace =>
    subst hts
    exact .token (List.append_assoc _ _ _).symm ((hrun _).trans hrest) hstep hplace
  | ending hrest hend hplace hcause => exact .ending ((hrun _).trans hrest) hend hplace hcause

namespace Agrees

/-- Nothing is taken. -/
theorem stay (h : Alike rest s s') (a : α) : Agrees s s' rest (.ok (a, rest)) :=
  ⟨[], s, rfl, rfl, h⟩

theorem alike {r : Except Failure (α × List Token)} (h : Alike ts s s')
    (hr : Agrees s' s'' ts r) : Agrees s s'' ts r := by
  cases r with
  | error f => exact Blames.alike h hr
  | ok x =>
    obtain ⟨taken, s₁, hts, hrun, hs⟩ := hr
    cases taken with
    | nil =>
      cases hrun
      rw [List.nil_append] at hts
      exact ⟨[], s, hts, rfl, (hts ▸ h).trans hs⟩
    | cons t taken =>
      subst hts
      exact ⟨t :: taken, s₁, rfl, (h.run_cons taken).trans hrun, hs⟩

theorem append {r : Except Failure (α × List Token)} {taken : List Token}
    (h : s.run taken = some s') (hr : Agrees s' s'' rest r) : Agrees s s'' (taken ++ rest) r := by
  cases r with
  | error f => exact Blames.append h hr
  | ok x =>
    obtain ⟨more, s₁, hrest, hrun, hs⟩ := hr
    subst hrest
    exact ⟨taken ++ more, s₁, (List.append_assoc _ _ _).symm,
      by rw [run_append, h, Option.bind_some, hrun], hs⟩

/-- One token is taken, and then what is read behind it. -/
theorem step {r : Except Failure (α × List Token)} (h : s.step t = some s')
    (hr : Agrees s' s'' rest r) : Agrees s s'' (t :: rest) r :=
  have hrun : s.run [t] = some s' := by rw [run_cons, h, Option.bind_some, run_nil]
  append hrun hr

/-- One token is taken, and nothing behind it. -/
theorem single {a : α} (h : s.step t = some s') : Agrees s s' (t :: rest) (.ok (a, rest)) :=
  step h (stay (.refl rest s') a)

/-- What is read behind something else that was read. -/
theorem trans {a : α} {r : Except Failure (β × List Token)} (h : Agrees s s' ts (.ok (a, rest)))
    (hr : Agrees s' s'' rest r) : Agrees s s'' ts r := by
  obtain ⟨taken, s₁, hts, hrun, hs⟩ := h
  subst hts
  exact append hrun (alike hs hr)

theorem bind {x : Except Failure (α × List Token)}
    {f : α × List Token → Except Failure (β × List Token)} (hx : Agrees s s' ts x)
    (hf : ∀ a rest, x = .ok (a, rest) → Agrees s' s'' rest (f (a, rest))) :
    Agrees s s'' ts (x >>= f) := by
  cases x with
  | error e => exact hx
  | ok r => exact trans hx (hf r.1 r.2 rfl)

theorem map {x : Except Failure (α × List Token)} (f : α → β) (hx : Agrees s s' ts x) :
    Agrees s s' ts (x.map fun (a, rest) => (f a, rest)) := by
  cases x with
  | error e => exact hx
  | ok r => exact trans hx (stay (Alike.refl _ _) _)

/-- The next token may not come there, or there is none and a query may not end. -/
theorem unexpected (e : Expectation) (hend : s.accepting = false)
    (hstep : ∀ t ∈ ts.head?, s.step t = none) :
    Agrees (α := α) s s' ts (.error (Reading.unexpected e ts)) := by
  cases ts with
  | nil => exact .ending rfl hend rfl rfl
  | cons t ts => exact Blames.next (hstep t rfl) rfl

end Agrees

/-! ### What may be left out -/

theorem alike_call (h : ∀ t ∈ rest.head?, ¬t.kind = .openParen) : Alike rest .call .stage :=
  .of_absent rfl (fun _ => rfl) h

theorem alike_firstName (h : ∀ t ∈ rest.head?, ¬t.kind = .closeParen) :
    Alike rest .firstName .name :=
  .of_absent rfl (fun _ => rfl) h

theorem alike_nextTest (h : ∀ t ∈ rest.head?, ¬(t.kind = .and ∨ t.kind = .or)) :
    Alike rest .nextTest .stage :=
  .of_absent rfl (fun _ => rfl) h

theorem alike_nextColumn (h : ∀ t ∈ rest.head?, ¬t.kind = .comma) :
    Alike rest .nextColumn .stage :=
  .of_absent rfl (fun _ => rfl) h

theorem alike_sortKey (h : ∀ t ∈ rest.head?, ¬t.kind = .by) : Alike rest .sortKey .sortColumn :=
  .of_absent rfl (fun _ => rfl) h

theorem alike_direction (h : ∀ t ∈ rest.head?, ¬(t.kind = .asc ∨ t.kind = .desc)) :
    Alike rest .direction .stage :=
  .of_absent rfl (fun _ => rfl) h

theorem whenever_of_not {p : Prop} [Decidable p] (h : ¬p) (next : State) :
    whenever p next = none := if_neg h

/-! ### Single tokens -/

/-- A state in which only tokens of one kind may come. -/
theorem expect_agrees {kind : TokenKind} (hend : s.accepting = false)
    (hstep : ∀ t, s.step t = whenever (t.kind = kind) s') (e : Expectation) (ts : List Token) :
    Agrees s s' ts (expect kind e ts) := by
  cases ts with
  | nil => exact .unexpected e hend (by simp)
  | cons t ts =>
    rw [expect]
    split_ifs with hk
    · exact .single ((hstep t).trans (if_pos hk))
    · exact .unexpected e hend (by simp [hstep, whenever, hk])

theorem callSeparator_agrees (ts : List Token) :
    Agrees .separator .tool ts (callSeparator ts) := by
  cases ts with
  | nil => exact .unexpected _ rfl (by simp)
  | cons t ts =>
    rw [callSeparator]
    split_ifs with hk
    · exact .single (if_pos hk)
    · exact .unexpected _ rfl (by simpa [State.step] using whenever_of_not hk _)

/-! ### Parameters -/

theorem value_agrees (ts : List Token) : Agrees .value .nextName ts (Reading.value ts) := by
  cases ts with
  | nil => exact .unexpected _ rfl (by simp)
  | cons t ts =>
    rw [Reading.value]
    split
    · next hk => exact .single (by simp [State.step, whenever, hk])
    · next hk =>
      split
      · next x hx => exact .single (by simp [State.step, whenever, hk, hx])
      · next hx => exact Blames.next (by simp [State.step, whenever, hk, hx]) rfl
    · next hk =>
      have hw : t.isWord = true := by rw [Token.isWord, hk]
      exact .single (by simp [State.step, whenever, hk, hw])
    · next hstring hnumber _ =>
      have hs : t.kind ≠ .string := hstring
      have hn : t.kind ≠ .number := hnumber
      split_ifs with hw
      · exact .single (by simp [State.step, whenever, hn, hw])
      · exact .unexpected _ rfl (by simp [State.step, whenever, hs, hn, hw])

theorem parameter_agrees (ts : List Token) : Agrees .name .nextName ts (parameter ts) := by
  cases ts with
  | nil => exact .unexpected _ rfl (by simp)
  | cons t ts =>
    rw [parameter]
    split_ifs with hw
    · refine .step (if_pos hw) ((expect_agrees rfl (fun _ => rfl) _ ts).bind fun _ rest _ => ?_)
      exact (value_agrees rest).bind fun _ _ _ => .stay (.refl _ _) _
    · exact .unexpected _ rfl (by simpa [State.step] using whenever_of_not hw _)

theorem parametersFrom_agrees (before : Parameters) (ts : List Token) :
    Agrees .name .stage ts (parametersFrom before ts) := by
  have hparameter := parameter_agrees ts
  fun_induction parametersFrom before ts with
  | case1 before ts f hp =>
    rw [hp] at hparameter
    exact hparameter
  | case2 before ts p hp =>
    rw [hp] at hparameter
    exact hparameter.trans (.unexpected _ rfl (by simp))
  | case3 before ts name v t rest hp hk ih =>
    rw [hp] at hparameter
    exact hparameter.trans (.step (if_pos hk) (ih (parameter_agrees rest)))
  | case4 before ts name v t rest hp hk hclose =>
    rw [hp] at hparameter
    exact hparameter.trans
      (.single ((if_neg hk).trans (if_pos hclose)))
  | case5 before ts name v t rest hp hk hclose =>
    rw [hp] at hparameter
    exact hparameter.trans (.unexpected _ rfl (by simp [State.step, whenever, hk, hclose]))

theorem parameters_agrees (ts : List Token) :
    Agrees .call .stage ts (Reading.parameters ts) := by
  unfold Reading.parameters
  split
  · exact .step rfl (.single rfl)
  · next text place rest hclose =>
    -- no closing parenthesis comes next, so the first name is read like any other one
    have hfirst : Alike rest .firstName .name := by
      refine alike_firstName fun t ht hk => ?_
      obtain ⟨us, rfl⟩ := List.head?_eq_some_iff.mp (Option.mem_def.mp ht)
      exact hclose t.text t.position us (by rw [← hk])
    exact .step rfl (.alike hfirst (parametersFrom_agrees [] rest))
  · next hempty hopen =>
    have hcall : Alike ts .call .stage := by
      refine alike_call fun t ht hk => ?_
      obtain ⟨us, rfl⟩ := List.head?_eq_some_iff.mp (Option.mem_def.mp ht)
      exact hopen t.text t.position us (by rw [← hk])
    exact .stay hcall _

/-! ### Operators -/

theorem condition_agrees (ts : List Token) :
    Agrees .testColumn .nextTest ts (Reading.condition ts) := by
  refine (expect_agrees rfl (fun _ => rfl) _ ts).bind fun column us _ => ?_
  cases us with
  | nil => exact .unexpected _ rfl (by simp)
  | cons symbol us =>
    simp only [expect]
    split_ifs with hk
    · simp only [bind, Except.bind]
      split
      · next hc => exact Blames.next (by simp [State.step, whenever, hc]) rfl
      · next c hc =>
        have hstep : State.comparator.step symbol = some .operand := by
          simp [State.step, whenever, hk, hc]
        refine .step hstep ?_
        cases us with
        | nil => exact .unexpected _ rfl (by simp)
        | cons t us =>
          simp only
          split_ifs with hvalue
          · exact .single (if_pos hvalue)
          · exact .unexpected _ rfl (by simp [State.step, whenever, hvalue])
    · exact .unexpected _ rfl (by simp [State.step, whenever, hk])

theorem conditions_agrees (ts : List Token) :
    Agrees .testColumn .stage ts (Reading.conditions ts) := by
  have hcondition := condition_agrees ts
  fun_induction Reading.conditions ts with
  | case1 ts f hc =>
    rw [hc] at hcondition
    exact hcondition
  | case2 ts c hc =>
    rw [hc] at hcondition
    exact hcondition.trans (.stay (alike_nextTest (by simp)) _)
  | case3 ts c t rest hc hk f hrec ih =>
    rw [hc] at hcondition
    rw [hrec] at ih
    exact hcondition.trans (.step (if_pos hk) (ih (condition_agrees rest)))
  | case4 ts c t rest hc hk cs us hrec ih =>
    rw [hc] at hcondition
    rw [hrec] at ih
    have hmore := ih (condition_agrees rest)
    exact hcondition.trans (.step (if_pos hk) (hmore.trans (.stay (.refl _ _) _)))
  | case5 ts c t rest hc hk =>
    rw [hc] at hcondition
    exact hcondition.trans (.stay (alike_nextTest (by simpa using hk)) _)

theorem columns_agrees (ts : List Token) : Agrees .column .stage ts (Reading.columns ts) := by
  fun_induction Reading.columns ts with
  | case1 => exact .unexpected _ rfl (by simp)
  | case2 t hk =>
    exact .step (if_pos hk) (.stay (alike_nextColumn (by simp)) _)
  | case3 t hk sep rest hsep f hrec ih =>
    rw [hrec] at ih
    exact .step (if_pos hk) (.step (if_pos hsep) ih)
  | case4 t hk sep rest hsep cs us hrec ih =>
    rw [hrec] at ih
    exact .step (if_pos hk) (.step (if_pos hsep) (ih.trans (.stay (.refl _ _) _)))
  | case5 t hk sep rest hsep =>
    exact .step (if_pos hk) (.stay (alike_nextColumn (by simpa using hsep)) _)
  | case6 t ts hk => exact .unexpected _ rfl (by simpa [State.step] using whenever_of_not hk _)

theorem take_agrees (ts : List Token) : Agrees .rows .stage ts (Reading.take ts) := by
  cases ts with
  | nil => exact .unexpected _ rfl (by simp)
  | cons t ts =>
    simp only [Reading.take, expect]
    split_ifs with hk
    · simp only [bind, Except.bind]
      split
      · next n hn => exact .single (by simp [State.step, whenever, hk, hn])
      · next hn => exact Blames.next (by simp [State.step, whenever, hn]) rfl
    · exact .unexpected _ rfl (by simp [State.step, whenever, hk])

theorem skip_agrees (ts : List Token) :
    Agrees .sortKey .sortColumn ts (.ok ((), skip .by ts)) := by
  cases ts with
  | nil => exact .stay (alike_sortKey (by simp)) _
  | cons t ts =>
    rw [skip]
    split_ifs with hk
    · exact .single (if_pos hk)
    · exact .stay (alike_sortKey (by simpa using hk)) _

theorem direction_agrees (ts : List Token) :
    Agrees .direction .stage ts (.ok (Reading.direction ts)) := by
  cases ts with
  | nil => exact .stay (alike_direction (by simp)) _
  | cons t ts =>
    rw [Reading.direction]
    split_ifs with hasc hdesc
    · exact .single (if_pos (.inl hasc))
    · exact .single (if_pos (.inr hdesc))
    · exact .stay (alike_direction (by simp [hasc, hdesc])) _

theorem sort_agrees (ts : List Token) : Agrees .sortKey .stage ts (Reading.sort ts) := by
  refine (skip_agrees ts).trans ?_
  refine (expect_agrees rfl (fun _ => rfl) _ _).bind fun column us _ => ?_
  exact (direction_agrees us).trans (.stay (.refl _ _) _)

theorem expression_run {ts : List Token} (h : ∀ t ∈ ts, t.kind ≠ .pipe) :
    State.expression.run ts = some .expression := by
  induction ts with
  | nil => rfl
  | cons t ts ih =>
    rw [run_cons, State.step, if_neg (h t List.mem_cons_self), Option.bind_some,
      ih fun u hu => h u (List.mem_cons_of_mem _ hu)]

theorem expression_agrees (a : α) (ts : List Token) :
    Agrees .expression .stage ts (.ok (a, ts.dropWhile (·.kind ≠ .pipe))) := by
  refine ⟨ts.takeWhile (·.kind ≠ .pipe), .expression, List.takeWhile_append_dropWhile.symm,
    expression_run fun t ht => ?_, rfl, fun t ht => ?_⟩
  · simpa using List.all_eq_true.mp (List.all_takeWhile (l := ts)) t ht
  · have hstop := List.head?_dropWhile_not (fun t : Token => decide (t.kind ≠ .pipe)) ts
    rw [Option.mem_def.mp ht] at hstop
    have hk : t.kind = .pipe := by simpa using hstop
    rw [State.step, State.step, whenever, if_pos hk, if_pos hk]

theorem extend_agrees (ts : List Token) : Agrees .extendColumn .stage ts (Reading.extend ts) := by
  refine (expect_agrees rfl (fun _ => rfl) _ ts).bind fun column us _ => ?_
  refine (expect_agrees rfl (fun _ => rfl) _ us).bind fun _ vs _ => ?_
  exact expression_agrees _ vs

theorem operator_agrees (ts : List Token) :
    Agrees .keyword .stage ts (Reading.operator ts) := by
  cases ts with
  | nil => exact .unexpected _ rfl (by simp)
  | cons t ts =>
    rw [Reading.operator]
    split
    · next hk => exact .step (by rw [State.step, hk]) ((conditions_agrees ts).map _)
    · next hk => exact .step (by rw [State.step, hk]) ((columns_agrees ts).map _)
    · next hk => exact .step (by rw [State.step, hk]) (take_agrees ts)
    · next hk => exact .step (by rw [State.step, hk]) (sort_agrees ts)
    · next hk => exact .single (by rw [State.step, hk])
    · next hk => exact .step (by rw [State.step, hk]) (extend_agrees ts)
    · exact .unexpected _ rfl (by simp_all [State.step])

/-! ### Queries -/

theorem pipeline_agrees (ts : List Token) : Agrees .stage .stage ts (pipeline ts) := by
  fun_induction pipeline ts with
  | case1 => exact .stay (.refl _ _) _
  | case2 t us hk f hop =>
    have hoperator := operator_agrees us
    rw [hop] at hoperator
    exact .step (if_pos hk) hoperator
  | case3 t us hk op vs hop f hrec ih =>
    have hoperator := operator_agrees us
    rw [hop] at hoperator
    rw [hrec] at ih
    exact .step (if_pos hk) (hoperator.trans ih)
  | case4 t us hk op vs hop ops rest hrec ih =>
    have hoperator := operator_agrees us
    rw [hop] at hoperator
    rw [hrec] at ih
    exact .step (if_pos hk) (hoperator.trans (ih.trans (.stay (.refl _ _) _)))
  | case5 t us hk => exact Blames.next (if_neg hk) rfl

theorem pipeline_rest {ops : List Operator} (h : pipeline ts = .ok (ops, rest)) : rest = [] := by
  fun_induction pipeline ts generalizing ops rest with
  | case1 => cases h; rfl
  | case2 => cases h
  | case3 => cases h
  | case4 t us hk op vs hop ops' ws hrec ih =>
    cases h
    exact ih hrec
  | case5 => cases h

theorem query_agrees (ts : List Token) : Agrees .provider .stage ts (Reading.query ts) := by
  refine (expect_agrees rfl (fun _ => rfl) _ ts).bind fun provider us _ => ?_
  refine (callSeparator_agrees us).bind fun _ vs _ => ?_
  refine (expect_agrees rfl (fun _ => rfl) _ vs).bind fun tool ws _ => ?_
  refine (parameters_agrees ws).bind fun ps xs _ => ?_
  exact (pipeline_agrees xs).bind fun _ _ _ => .stay (.refl _ _) _

theorem query_rest {q : Query} (h : Reading.query ts = .ok (q, rest)) : rest = [] := by
  obtain ⟨⟨provider, us⟩, -, h⟩ := bind_eq_ok_iff.mp h
  obtain ⟨⟨_, vs⟩, -, h⟩ := bind_eq_ok_iff.mp h
  obtain ⟨⟨tool, ws⟩, -, h⟩ := bind_eq_ok_iff.mp h
  obtain ⟨⟨ps, xs⟩, -, h⟩ := bind_eq_ok_iff.mp h
  obtain ⟨⟨ops, ys⟩, ho, h⟩ := bind_eq_ok_iff.mp h
  cases h
  exact pipeline_rest ho

theorem Blames.not_accepts {f : Failure} (h : Blames s ts f) : s.accepts ts = false := by
  cases h with
  | @token before after t s' hts hrun hstep _ =>
    rw [hts]
    exact accepts_of_step_eq_none hrun hstep after
  | ending hrun hend _ _ => rw [accepts, hrun, Option.any_some, hend]

/-- The parser accepts the tokens that the automaton accepts. -/
theorem exists_parseTokens_iff :
    (∃ q, parseTokens ts = .ok q) ↔ State.provider.accepts ts = true := by
  have hquery := query_agrees ts
  constructor
  · rintro ⟨q, hq⟩
    obtain ⟨rest, hread⟩ := parseTokens_eq_ok_iff.mp hq
    obtain rfl := query_rest hread
    rw [hread] at hquery
    obtain ⟨taken, s', hts, hrun, halike⟩ := hquery
    rw [List.append_nil] at hts
    rw [accepts, hts, hrun, Option.any_some, halike.accepting_eq]
    rfl
  · intro haccepts
    cases hread : Reading.query ts with
    | ok r => exact ⟨r.1, parseTokens_eq_ok_iff.mpr ⟨r.2, hread⟩⟩
    | error f =>
      rw [hread] at hquery
      rw [Blames.not_accepts hquery] at haccepts
      cases haccepts

/-! ### Beginnings of queries -/

/-- Some tokens behind the given ones make them a query. -/
def Viable (ts : List Token) : Prop := ∃ more q, parseTokens (ts ++ more) = .ok q

theorem viable_of_run (h : State.provider.run ts = some s) : Viable ts := by
  have haccepts : State.provider.accepts (ts ++ s.completion) = true :=
    (accepts_append h).trans s.accepts_completion
  exact ⟨s.completion, exists_parseTokens_iff.mpr haccepts⟩

theorem not_viable_of_step (h : State.provider.run ts = some s) (hstep : s.step t = none) :
    ¬Viable (ts ++ [t]) := by
  rintro ⟨more, hq⟩
  have haccepts := exists_parseTokens_iff.mp hq
  rw [List.append_assoc, List.singleton_append, accepts_of_step_eq_none h hstep] at haccepts
  cases haccepts

theorem message_unexpectedEnd (e : Expectation) :
    ∃ start, (SyntaxError.Cause.unexpectedEnd e).message = start ++ "found end of input" := by
  refine ⟨"Expected " ++ e.text ++ " but ", ?_⟩
  rw [String.append_assoc]
  rfl

/-- The parser stops at the first token behind which there is no query any more, or misses
something at the end of the beginning of a query. -/
theorem parseTokens_error {e : SyntaxError} (h : parseTokens ts = .error e) :
    (∃ before t after, ts = before ++ t :: after ∧ e.position = t.position ∧ Viable before ∧
      ¬Viable (before ++ [t])) ∨
    ∃ x, e.cause = .unexpectedEnd x ∧ Viable ts ∧
      e.position = (ts.getLast?.map (·.position)).getD .start := by
  have hquery := query_agrees ts
  simp only [parseTokens, Parser.next, Parser.ofTokens] at h
  cases hread : Reading.query ts with
  | ok r =>
    rw [hread] at h
    cases h
  | error f =>
    rw [hread] at h hquery
    cases h
    cases hquery with
    | @token before after t s' hts hrun hstep hplace =>
      exact .inl ⟨before, t, after, hts, by simp [hplace], viable_of_run hrun,
        not_viable_of_step hrun hstep⟩
    | @ending s' x hrun _ hplace hcause =>
      exact .inr ⟨x, hcause, viable_of_run hrun, by simp [hplace]⟩

end PipeQuery.Grammar

namespace PipeQuery

open Grammar

/-- A syntax error behind the lexer has the place of the first token that no query has there, or it
says that the end was found and the tokens are the beginning of a query; then it has the place of
the last token. -/
theorem parse_error_place (text : String) (ts : List Token) (e : SyntaxError)
    (hts : tokenize text = .ok ts) (h : parse text = .error e) :
    (∃ k t, ts[k]? = some t ∧ e.position = t.position ∧ Viable (ts.take k) ∧
      ¬Viable (ts.take (k + 1))) ∨
    (∃ start, e.message = start ++ "found end of input") ∧ Viable ts ∧
      e.position = (ts.getLast?.map (·.position)).getD ⟨1, 1⟩ := by
  have hparse : parseTokens ts = .error e := by
    rw [parse, hts] at h
    exact h
  rcases parseTokens_error hparse with ⟨before, t, after, rfl, hplace, hviable, hnot⟩ |
    ⟨x, hcause, hviable, hplace⟩
  · refine .inl ⟨before.length, t, by simp, hplace, by simpa using hviable, ?_⟩
    rwa [List.take_length_add_append]
  · obtain ⟨start, hstart⟩ := message_unexpectedEnd x
    exact .inr ⟨⟨start, by rw [SyntaxError.message, hcause, hstart]⟩, hviable, hplace⟩

/-- A number of rows below zero is a token of the right kind, but no query goes on with it. -/
theorem parse_error_place_negative_rows :
    ∃ ts e, tokenize "a | b(where=1)\n| take -1" = .ok ts ∧
      parse "a | b(where=1)\n| take -1" = .error e ∧ e.position = ⟨2, 8⟩ ∧
      ((∃ k t, ts[k]? = some t ∧ e.position = t.position ∧ Viable (ts.take k) ∧
        ¬Viable (ts.take (k + 1))) ∨
      (∃ start, e.message = start ++ "found end of input") ∧ Viable ts ∧
        e.position = (ts.getLast?.map (·.position)).getD ⟨1, 1⟩) := by
  have hts : tokenize "a | b(where=1)\n| take -1" = .ok
      [⟨.identifier, "a", ⟨1, 1⟩⟩, ⟨.pipe, "|", ⟨1, 3⟩⟩, ⟨.identifier, "b", ⟨1, 5⟩⟩,
        ⟨.openParen, "(", ⟨1, 6⟩⟩, ⟨.where, "where", ⟨1, 7⟩⟩, ⟨.equals, "=", ⟨1, 12⟩⟩,
        ⟨.number, "1", ⟨1, 13⟩⟩, ⟨.closeParen, ")", ⟨1, 14⟩⟩, ⟨.pipe, "|", ⟨2, 1⟩⟩,
        ⟨.take, "take", ⟨2, 3⟩⟩, ⟨.number, "-1", ⟨2, 8⟩⟩] := by decide +kernel
  have herror : parse "a | b(where=1)\n| take -1" = .error ⟨.invalidRowCount "-1", ⟨2, 8⟩⟩ := by
    decide +kernel
  exact ⟨_, _, hts, herror, rfl, parse_error_place _ _ _ hts herror⟩

end PipeQuery

import Mathlib.Tactic.Common
import PipeQuery.Proofs.Grammar.Derivation

/-! What the reading functions take from a list of tokens, and the derivation tree of what they
took. For each rule of the grammar there are two statements. Soundness: what was taken is the
list of tokens of a tree, whose meaning was given. Completeness: the tokens of a tree are taken,
before a token that cannot continue them. -/

namespace PipeQuery.Grammar

open Reading

variable {ts rest : List Token}

/-- The tokens do not go on with one of the given kinds. -/
def NotNext (kinds : List TokenKind) (rest : List Token) : Prop := ∀ t ∈ rest.head?, t.kind ∉ kinds

@[simp] theorem notNext_nil {kinds : List TokenKind} : NotNext kinds [] := by simp [NotNext]

@[simp] theorem notNext_cons {kinds : List TokenKind} {t : Token} :
    NotNext kinds (t :: ts) ↔ t.kind ∉ kinds := by simp [NotNext]

theorem expect_eq_ok_iff {kind : TokenKind} {e : Expectation} {t : Token} :
    expect kind e ts = .ok (t, rest) ↔ ts = t :: rest ∧ t.kind = kind := by
  cases ts with
  | nil => simp [expect]
  | cons u us =>
    by_cases h : u.kind = kind
    · simp only [expect, h, if_true, Except.ok.injEq, Prod.mk.injEq, List.cons.injEq]
      constructor
      · rintro ⟨rfl, rfl⟩; exact ⟨⟨rfl, rfl⟩, h⟩
      · rintro ⟨⟨rfl, rfl⟩, -⟩; exact ⟨rfl, rfl⟩
    · simp only [expect, h, if_false, reduceCtorEq, List.cons.injEq, false_iff, not_and]
      rintro ⟨rfl, rfl⟩; exact h

theorem bind_eq_ok_iff {α β : Type} {x : Except Failure α} {f : α → Except Failure β} {b : β} :
    (x >>= f) = .ok b ↔ ∃ a, x = .ok a ∧ f a = .ok b := by
  cases x <;> simp [bind, Except.bind]

/-- A token of the expected kind is taken. -/
theorem expect_terminal {kind : TokenKind} (t : Terminal [kind]) (e : Expectation) :
    expect kind e (t.1 :: rest) = .ok (t.1, rest) :=
  expect_eq_ok_iff.mpr ⟨rfl, t.kind_eq⟩

/-! ### Parameters -/

theorem isWord_iff {t : Token} : t.isWord = true ↔ IsNaming t := by
  obtain ⟨kind, text, place⟩ := t
  cases kind <;> simp [Token.isWord, IsNaming, wordKinds, TokenKind.isReserved]

/-- Words are told apart from strings and numbers by their kind. -/
theorem Word.kind_ne (t : Word) : t.1.kind ≠ .string ∧ t.1.kind ≠ .number := by
  rcases t.2 with h | ⟨h, -⟩
  · constructor <;> rintro heq <;> rw [heq] at h <;> exact absurd h (by decide)
  · simp [h]

theorem value_word (t : Word) :
    Reading.value (t.1 :: rest) = .ok ((Literal.word t).value, rest) := by
  obtain ⟨⟨kind, text, place⟩, ht⟩ := t
  have hw := isWord_iff.mpr ht
  cases kind <;>
    first
    | rfl
    | simp_all [Reading.value, Literal.value, Token.isWord, TokenKind.isReserved]

theorem value_sound {v : Value} (h : Reading.value ts = .ok (v, rest)) :
    ∃ d : Literal, ts = d.token :: rest ∧ d.value = v := by
  cases ts with
  | nil => cases h
  | cons t ts =>
    by_cases hw : IsNaming t
    · rw [value_word ⟨t, hw⟩] at h
      cases h
      exact ⟨.word ⟨t, hw⟩, rfl, rfl⟩
    · have hnot : t.isWord = false := by simpa using mt isWord_iff.mp hw
      simp only [Reading.value] at h
      split at h
      · rename_i hk
        cases h
        exact ⟨.string ⟨t, by simp [hk]⟩, rfl, rfl⟩
      · rename_i hk
        split at h
        · rename_i x hx
          cases h
          exact ⟨.number ⟨t, by simp [hk]⟩, rfl, by simp [Literal.value, Literal.numberOf, hx]⟩
        · cases h
      · rename_i hk
        exact absurd (.inl (by rw [hk]; decide)) hw
      · simp [hnot] at h

/-- Number tokens have a value. A text gives no other tokens. -/
def Readable (t : Token) : Prop := t.kind = .number → (Binary64.ofText? t.text).isSome

theorem value_complete (d : Literal) (h : Readable d.token) (rest : List Token) :
    Reading.value (d.token :: rest) = .ok (d.value, rest) := by
  cases d with
  | string t =>
    have hk : t.1.kind = .string := t.kind_eq
    simp [Reading.value, Literal.token, Literal.value, hk]
  | number t =>
    have hk : t.1.kind = .number := t.kind_eq
    obtain ⟨x, hx⟩ := Option.isSome_iff_exists.mp (h hk)
    simp only [Literal.token] at hx
    simp [Reading.value, Literal.token, Literal.value, Literal.numberOf, hk, hx]
  | word t => exact value_word t

theorem parameter_sound {a : String × Value} (h : parameter ts = .ok (a, rest)) :
    ∃ d : Assignment, ts = d.tokens ++ rest ∧ d.pair = a := by
  cases ts with
  | nil => cases h
  | cons t us =>
    simp only [parameter] at h
    split_ifs at h with hw
    obtain ⟨⟨e, vs⟩, he, h⟩ := bind_eq_ok_iff.mp h
    obtain ⟨⟨v, ws⟩, hv, h⟩ := bind_eq_ok_iff.mp h
    cases h
    obtain ⟨rfl, hek⟩ := expect_eq_ok_iff.mp he
    obtain ⟨d, rfl, rfl⟩ := value_sound hv
    exact ⟨⟨⟨t, isWord_iff.mp hw⟩, ⟨e, by simp [hek]⟩, d⟩, rfl, rfl⟩

theorem parameter_complete (d : Assignment) (h : ∀ t ∈ d.tokens, Readable t)
    (rest : List Token) :
    parameter (d.tokens ++ rest) = .ok (d.pair, rest) := by
  have hv := value_complete d.value (h _ (by simp [Assignment.tokens])) rest
  simp [parameter, Assignment.tokens, Assignment.pair, isWord_iff.mpr d.name.2, expect_terminal, hv,
    bind, Except.bind]

/-- Puts the parameters of assignments in, one after the other. -/
def putAll (before : Parameters) (ds : List Assignment) : Parameters :=
  ds.foldl (fun ps d => ps.insert d.pair.1 d.pair.2) before

theorem putAll_nil (ds : List Assignment) :
    putAll [] ds = Named.ofList (ds.map Assignment.pair) := by
  simp [putAll, Named.ofList, List.foldl_map]

theorem parametersFrom_sound {before ps : Parameters}
    (h : parametersFrom before ts = .ok (ps, rest)) :
    ∃ (s : Separated [.comma] Assignment) (closing : Terminal [.closeParen]),
      ts = s.tokens Assignment.tokens ++ closing.1 :: rest ∧ ps = putAll before s.items := by
  fun_induction parametersFrom before ts generalizing ps rest with
  | case1 => cases h
  | case2 => cases h
  | case3 before ts name v t us hp hk ih =>
    obtain ⟨d, rfl, hd⟩ := parameter_sound hp
    obtain ⟨⟨e, more⟩, closing, rfl, rfl⟩ := ih h
    exact ⟨⟨d, (⟨t, by simp [hk]⟩, e) :: more⟩, closing, by simp, by simp [putAll, hd]⟩
  | case4 before ts name v t us hp _ hk =>
    cases h
    obtain ⟨d, rfl, hd⟩ := parameter_sound hp
    exact ⟨⟨d, []⟩, ⟨t, by simp [hk]⟩, by simp, by simp [putAll, hd]⟩
  | case5 => cases h

theorem parametersFrom_of_parameter {before : Parameters} {a : String × Value} {t : Token}
    {us : List Token} (h : parameter ts = .ok (a, t :: us)) :
    parametersFrom before ts =
      if t.kind = .comma then parametersFrom (before.insert a.1 a.2) us
      else if t.kind = .closeParen then .ok (before.insert a.1 a.2, us)
      else .error (unexpected .parameterEnd (t :: us)) := by
  obtain ⟨name, v⟩ := a
  rw [parametersFrom]
  split
  · simp_all
  · simp_all
  · rename_i hp
    rw [h] at hp
    cases hp
    rfl

theorem parametersFrom_complete (s : Separated [.comma] Assignment)
    (closing : Terminal [.closeParen]) (h : ∀ t ∈ s.tokens Assignment.tokens, Readable t)
    (before : Parameters) (rest : List Token) :
    parametersFrom before (s.tokens Assignment.tokens ++ closing.1 :: rest) =
      .ok (putAll before s.items, rest) := by
  obtain ⟨d, more⟩ := s
  induction more generalizing d before with
  | nil =>
    have hd := parameter_complete d (fun t ht => h t (by simp [ht])) (closing.1 :: rest)
    have hk : closing.1.kind = .closeParen := closing.kind_eq
    rw [Separated.tokens_single, parametersFrom_of_parameter hd, hk]
    simp [putAll]
  | cons m more ih =>
    obtain ⟨sep, e⟩ := m
    have hd := parameter_complete d (fun t ht => h t (by simp [ht]))
      (sep.1 :: (Separated.tokens Assignment.tokens ⟨e, more⟩ ++ closing.1 :: rest))
    have hk : sep.1.kind = .comma := sep.kind_eq
    have hrest := ih (before.insert d.pair.1 d.pair.2) e fun t ht => h t (by simp [ht])
    rw [Separated.tokens_cons, List.append_assoc, List.cons_append,
      parametersFrom_of_parameter hd, if_pos hk, hrest]
    simp [putAll]

theorem parameters_sound {ps : Parameters} (h : Reading.parameters ts = .ok (ps, rest)) :
    ∃ d : Arguments, ts = d.tokens ++ rest ∧ d.parameters = ps := by
  unfold Reading.parameters at h
  split at h
  · cases h
    exact ⟨.empty ⟨_, by simp⟩ ⟨_, by simp⟩, rfl, rfl⟩
  · rename_i text place us _
    obtain ⟨s, closing, rfl, rfl⟩ := parametersFrom_sound h
    exact ⟨.listed ⟨⟨.openParen, text, place⟩, by simp⟩ s closing, by simp [Arguments.tokens],
      (putAll_nil s.items).symm⟩
  · cases h
    exact ⟨.absent, rfl, rfl⟩

theorem parameters_of_opening (opening : Terminal [.openParen]) (h : NotNext [.closeParen] ts) :
    Reading.parameters (opening.1 :: ts) = parametersFrom [] ts := by
  obtain ⟨⟨kind, text, place⟩, hk⟩ := opening
  obtain rfl := List.mem_singleton.mp hk
  cases ts with
  | nil => rfl
  | cons t ts =>
    obtain ⟨kind, text, place⟩ := t
    cases kind <;> first | rfl | simp at h

theorem parameters_of_notNext (h : NotNext [.openParen] ts) :
    Reading.parameters ts = .ok ([], ts) := by
  unfold Reading.parameters
  split <;> simp_all

theorem Assignment.notNext_closeParen (d : Assignment) :
    NotNext [.closeParen] (d.tokens ++ rest) := by
  simp only [Assignment.tokens, List.cons_append, notNext_cons, List.mem_singleton]
  rcases d.name.2 with h | ⟨h, -⟩
  · rintro heq
    rw [heq] at h
    exact absurd h (by decide)
  · simp [h]

theorem parameters_complete (d : Arguments) (h : ∀ t ∈ d.tokens, Readable t)
    (hrest : NotNext [.openParen] rest) :
    Reading.parameters (d.tokens ++ rest) = .ok (d.parameters, rest) := by
  cases d with
  | absent => exact parameters_of_notNext hrest
  | empty opening closing =>
    obtain ⟨⟨kind, text, place⟩, hk⟩ := opening
    obtain ⟨⟨kind', text', place'⟩, hk'⟩ := closing
    obtain rfl := List.mem_singleton.mp hk
    obtain rfl := List.mem_singleton.mp hk'
    rfl
  | listed opening s closing =>
    have hnext : NotNext [.closeParen] (s.tokens Assignment.tokens ++ closing.1 :: rest) := by
      simpa [Separated.tokens] using s.first.notNext_closeParen
    have hs := parametersFrom_complete s closing
      (fun t ht => h t (by simp [Arguments.tokens, ht])) [] rest
    simp only [Arguments.tokens, List.cons_append, List.append_assoc, List.nil_append]
    rw [parameters_of_opening opening hnext, hs, putAll_nil]
    rfl

/-! ### Conditions -/

theorem ofText?_eq_some_iff {text : String} {c : Comparator} :
    Comparator.ofText? text = some c ↔ Unicode.lowercase text = c.symbol := by
  unfold Comparator.ofText?
  constructor
  · intro h
    have hs : c.symbol = Unicode.lowercase text := by simpa using List.find?_some h
    exact hs.symm
  · intro h
    rw [h]
    cases c <;> decide

theorem isConditionValue_iff {kind : TokenKind} :
    isConditionValue kind = true ↔ kind ∈ operandKinds := by
  cases kind <;> decide

theorem condition_sound {c : Condition} (h : Reading.condition ts = .ok (c, rest)) :
    ∃ d : Test, ts = d.tokens ++ rest ∧ d.condition = c := by
  obtain ⟨⟨column, us⟩, hcol, h⟩ := bind_eq_ok_iff.mp h
  obtain ⟨⟨symbol, vs⟩, hsym, hend⟩ := bind_eq_ok_iff.mp h
  obtain ⟨rfl, hcolumn⟩ := expect_eq_ok_iff.mp hcol
  obtain ⟨rfl, hsymbol⟩ := expect_eq_ok_iff.mp hsym
  simp only at hend
  split at hend
  · cases hend
  · rename_i comparator hc
    cases vs with
    | nil => cases hend
    | cons operand ws =>
      simp only at hend
      split_ifs at hend with hop
      cases hend
      exact ⟨⟨⟨column, by simp [hcolumn]⟩, ⟨symbol, by simp [hsymbol]⟩, comparator,
        ofText?_eq_some_iff.mp hc, ⟨operand, isConditionValue_iff.mp hop⟩⟩, rfl, rfl⟩

theorem condition_complete (d : Test) :
    Reading.condition (d.tokens ++ rest) = .ok (d.condition, rest) := by
  simp [Reading.condition, Test.tokens, Test.condition, expect_terminal, bind, Except.bind,
    ofText?_eq_some_iff.mpr d.spelled, isConditionValue_iff.mpr d.operand.2]

theorem conditions_sound {cs : List Condition} (h : Reading.conditions ts = .ok (cs, rest)) :
    ∃ s : Separated [.and, .or] Test, ts = s.tokens Test.tokens ++ rest ∧
      s.items.map Test.condition = cs := by
  fun_induction Reading.conditions ts generalizing cs rest with
  | case1 => cases h
  | case2 ts c hc =>
    cases h
    obtain ⟨d, rfl, rfl⟩ := condition_sound hc
    exact ⟨⟨d, []⟩, by simp, by simp⟩
  | case3 => cases h
  | case4 ts c t us hc hk ds vs hrec ih =>
    cases h
    obtain ⟨d, rfl, rfl⟩ := condition_sound hc
    obtain ⟨⟨e, more⟩, rfl, rfl⟩ := ih hrec
    exact ⟨⟨d, (⟨t, by simpa using hk⟩, e) :: more⟩, by simp, by simp⟩
  | case5 ts c t us hc hk =>
    cases h
    obtain ⟨d, rfl, rfl⟩ := condition_sound hc
    exact ⟨⟨d, []⟩, by simp, by simp⟩

theorem conditions_last {c : Condition} (h : Reading.condition ts = .ok (c, rest))
    (hrest : NotNext [.and, .or] rest) : Reading.conditions ts = .ok ([c], rest) := by
  rw [Reading.conditions]
  split
  · simp_all
  · simp_all
  · rename_i t us hc
    rw [h] at hc
    cases hc
    rw [if_neg (by simpa using hrest)]

theorem conditions_joined {c : Condition} {cs : List Condition} {t : Token} {us : List Token}
    (h : Reading.condition ts = .ok (c, t :: us)) (hk : t.kind ∈ [TokenKind.and, .or])
    (hrec : Reading.conditions us = .ok (cs, rest)) :
    Reading.conditions ts = .ok (c :: cs, rest) := by
  rw [Reading.conditions]
  split
  · simp_all
  · simp_all
  · rename_i hc
    rw [h] at hc
    cases hc
    rw [if_pos (by simpa using hk), hrec]

theorem conditions_complete (s : Separated [.and, .or] Test) (hrest : NotNext [.and, .or] rest) :
    Reading.conditions (s.tokens Test.tokens ++ rest) = .ok (s.items.map Test.condition, rest) := by
  obtain ⟨d, more⟩ := s
  induction more generalizing d with
  | nil => simpa using conditions_last (condition_complete d) hrest
  | cons m more ih =>
    obtain ⟨sep, e⟩ := m
    rw [Separated.tokens_cons, List.append_assoc]
    exact conditions_joined (condition_complete d) sep.2 (ih e)

/-! ### Operators -/

theorem columns_sound {cs : List String} (h : Reading.columns ts = .ok (cs, rest)) :
    ∃ s : Separated [.comma] (Terminal [.identifier]), ts = s.tokens (fun c => [c.1]) ++ rest ∧
      s.items.map (·.1.text) = cs := by
  fun_induction Reading.columns ts generalizing cs rest with
  | case1 => cases h
  | case2 t hk =>
    cases h
    exact ⟨⟨⟨t, by simp [hk]⟩, []⟩, by simp, by simp⟩
  | case3 => cases h
  | case4 t hk sep us hsep ds vs hrec ih =>
    cases h
    obtain ⟨⟨c, more⟩, rfl, rfl⟩ := ih hrec
    exact ⟨⟨⟨t, by simp [hk]⟩, (⟨sep, by simp [hsep]⟩, c) :: more⟩, by simp, by simp⟩
  | case5 t hk sep us hsep =>
    cases h
    exact ⟨⟨⟨t, by simp [hk]⟩, []⟩, by simp, by simp⟩
  | case6 => cases h

theorem columns_complete (s : Separated [.comma] (Terminal [.identifier]))
    (hrest : NotNext [.comma] rest) :
    Reading.columns (s.tokens (fun c => [c.1]) ++ rest) = .ok (s.items.map (·.1.text), rest) := by
  obtain ⟨c, more⟩ := s
  induction more generalizing c with
  | nil =>
    have hc : c.1.kind = .identifier := c.kind_eq
    cases rest with
    | nil => simp [Reading.columns, hc]
    | cons t ts => simp_all [Reading.columns]
  | cons m more ih =>
    obtain ⟨sep, d⟩ := m
    have hc : c.1.kind = .identifier := c.kind_eq
    have hsep : sep.1.kind = .comma := sep.kind_eq
    simp only [Separated.tokens_cons, List.nil_append, List.cons_append, Reading.columns, hc,
      hsep, if_true, ih d, Separated.items_cons, List.map_cons]

/-- A text of digits alone is read as a row count if it is below `2 ^ 64`. -/
theorem rowCount?_of_isRowCount {text : String} (h : IsRowCount text) :
    rowCount? text = some (digitsValue text.toList) := by
  unfold rowCount?
  split
  · rename_i cs hcs
    have := h.digits '+' (by simp [hcs])
    exact absurd this (by decide)
  · have hall : text.toList.all Unicode.isDigit = true := List.all_eq_true.mpr h.digits
    have hlt := h.lt
    simp [h.ne_nil, hall, hlt]

/-- Number tokens do not start with a plus sign. A text gives no other tokens. -/
def Unsigned (t : Token) : Prop := t.kind = .number → t.text.toList.head? ≠ some '+'

theorem isRowCount_of_rowCount? {text : String} {n : Nat} (hplus : text.toList.head? ≠ some '+')
    (h : rowCount? text = some n) : IsRowCount text ∧ n = digitsValue text.toList := by
  unfold rowCount? at h
  split at h
  · rename_i cs hcs
    exact absurd (by simp [hcs]) hplus
  · simp only [Bool.or_eq_true, List.isEmpty_iff, Bool.not_eq_true'] at h
    split_ifs at h with hd hlt
    cases h
    rw [not_or, Bool.not_eq_false] at hd
    exact ⟨⟨hd.1, List.all_eq_true.mp hd.2, hlt⟩, rfl⟩

theorem skip_complete {kind : TokenKind} (particle : Option (Terminal [kind]))
    (hrest : NotNext [kind] rest) : skip kind ((particle.map (·.1)).toList ++ rest) = rest := by
  cases particle with
  | none =>
    cases rest with
    | nil => rfl
    | cons t ts => exact if_neg (by simpa using hrest)
  | some t => exact if_pos t.kind_eq

theorem skip_sound (kind : TokenKind) (ts : List Token) :
    ∃ particle : Option (Terminal [kind]), ts = (particle.map (·.1)).toList ++ skip kind ts := by
  cases ts with
  | nil => exact ⟨none, rfl⟩
  | cons t ts =>
    by_cases hk : t.kind = kind
    · exact ⟨some ⟨t, by simp [hk]⟩, by simp [skip, hk]⟩
    · exact ⟨none, by simp [skip, hk]⟩

theorem direction_sound (ts : List Token) :
    ∃ d : Option (Terminal [.asc, .desc]), ts = (d.map (·.1)).toList ++ (direction ts).2 ∧
      d.all (·.1.kind = .asc) = (direction ts).1 := by
  cases ts with
  | nil => exact ⟨none, rfl, rfl⟩
  | cons t ts =>
    by_cases ha : t.kind = .asc
    · exact ⟨some ⟨t, by simp [ha]⟩, by simp [direction, ha], by simp [direction, ha]⟩
    · by_cases hd : t.kind = .desc
      · exact ⟨some ⟨t, by simp [hd]⟩, by simp [direction, hd], by simp [direction, hd]⟩
      · exact ⟨none, by simp [direction, ha, hd], by simp [direction, ha, hd]⟩

theorem direction_complete (d : Option (Terminal [.asc, .desc]))
    (hrest : NotNext [.asc, .desc] rest) :
    direction ((d.map (·.1)).toList ++ rest) = (d.all (·.1.kind = .asc), rest) := by
  cases d with
  | none =>
    cases rest with
    | nil => rfl
    | cons t ts => simp_all [direction]
  | some t =>
    have hk := t.2
    simp only [List.mem_cons, List.not_mem_nil, or_false] at hk
    rcases hk with hk | hk <;> simp [direction, hk]

theorem exists_expression (h : ∀ t ∈ ts, t.kind ≠ .pipe) :
    ∃ expression : List {t : Token // t.kind ≠ .pipe}, expression.map (·.1) = ts :=
  ⟨ts.pmap Subtype.mk h, by simp [List.map_pmap]⟩

theorem expression_sound (ts : List Token) :
    ∃ expression : List {t : Token // t.kind ≠ .pipe},
      expression.map (·.1) = ts.takeWhile (·.kind ≠ .pipe) :=
  exists_expression fun t ht => by
    simpa using List.all_eq_true.mp (List.all_takeWhile (l := ts)) t ht

/-- The tokens that may follow an operator: a pipe, or none. -/
def AtPipe (rest : List Token) : Prop := ∀ t ∈ rest.head?, t.kind = .pipe

theorem AtPipe.notNext {kinds : List TokenKind} (h : AtPipe rest) (hk : .pipe ∉ kinds) :
    NotNext kinds rest := fun t ht => by rw [h t ht]; exact hk

theorem takeWhile_expression (expression : List {t : Token // t.kind ≠ .pipe})
    (hrest : AtPipe rest) :
    (expression.map (·.1) ++ rest).takeWhile (·.kind ≠ .pipe) = expression.map (·.1) ∧
      (expression.map (·.1) ++ rest).dropWhile (·.kind ≠ .pipe) = rest := by
  have hall : ∀ t ∈ expression.map (·.1), decide (t.kind ≠ .pipe) = true := by
    intro t ht
    obtain ⟨u, -, rfl⟩ := List.mem_map.mp ht
    simpa using u.2
  rw [List.takeWhile_append_of_pos hall, List.dropWhile_append_of_pos hall]
  cases rest with
  | nil => simp
  | cons t us => simp [hrest t rfl]

theorem operator_sound {op : Operator} (hplus : ∀ t ∈ ts, Unsigned t)
    (h : Reading.operator ts = .ok (op, rest)) :
    ∃ s : Stage, ts = s.tokens ++ rest ∧ s.operator = op := by
  cases ts with
  | nil => cases h
  | cons t ts =>
    simp only [Reading.operator] at h
    split at h
    · rename_i hk
      cases hc : conditions ts with
      | error f => rw [hc] at h; cases h
      | ok r =>
        rw [hc] at h
        cases h
        obtain ⟨s, rfl, hs⟩ := conditions_sound hc
        exact ⟨.filter ⟨t, by simp [hk]⟩ s, rfl, by simp [Stage.operator, hs]⟩
    · rename_i hk
      cases hc : columns ts with
      | error f => rw [hc] at h; cases h
      | ok r =>
        rw [hc] at h
        cases h
        obtain ⟨s, rfl, hs⟩ := columns_sound hc
        exact ⟨.project ⟨t, by simp [hk]⟩ s, rfl, by simp [Stage.operator, hs]⟩
    · rename_i hk
      obtain ⟨⟨n, us⟩, hn, hend⟩ := bind_eq_ok_iff.mp h
      obtain ⟨rfl, hnk⟩ := expect_eq_ok_iff.mp hn
      simp only at hend
      split at hend
      · rename_i count hcount
        cases hend
        obtain ⟨hrow, rfl⟩ := isRowCount_of_rowCount? (hplus n (by simp) hnk) hcount
        exact ⟨.take ⟨t, by simp [hk]⟩ ⟨n, by simp [hnk]⟩ hrow, rfl, rfl⟩
      · cases hend
    · rename_i hk
      obtain ⟨⟨column, us⟩, hc, h⟩ := bind_eq_ok_iff.mp h
      have hop : (Operator.sort column.text (direction us).1, (direction us).2) = (op, rest) :=
        Except.ok.inj h
      cases hop
      obtain ⟨particle, hskip⟩ := skip_sound .by ts
      obtain ⟨hrest, hck⟩ := expect_eq_ok_iff.mp hc
      obtain ⟨d, hd, hasc⟩ := direction_sound us
      refine ⟨.sort ⟨t, by simp [hk]⟩ particle ⟨column, by simp [hck]⟩ d, ?_, ?_⟩
      · rw [hskip, hrest]
        conv_lhs => rw [hd]
        simp [Stage.tokens]
      · simp [Stage.operator, hasc]
    · rename_i hk
      cases h
      exact ⟨.count ⟨t, by simp [hk]⟩, rfl, rfl⟩
    · rename_i hk
      obtain ⟨⟨column, us⟩, hc, h⟩ := bind_eq_ok_iff.mp h
      obtain ⟨⟨equals, vs⟩, he, h⟩ := bind_eq_ok_iff.mp h
      cases h
      obtain ⟨rfl, hck⟩ := expect_eq_ok_iff.mp hc
      obtain ⟨rfl, hek⟩ := expect_eq_ok_iff.mp he
      obtain ⟨expression, hex⟩ := expression_sound vs
      refine ⟨.extend ⟨t, by simp [hk]⟩ ⟨column, by simp [hck]⟩ ⟨equals, by simp [hek]⟩ expression,
        ?_, ?_⟩
      · simp only [Stage.tokens, hex, List.cons_append, List.takeWhile_append_dropWhile]
      · rw [← hex]
        simp [Stage.operator]
    · cases h

theorem operator_complete (s : Stage) (hrest : AtPipe rest) :
    Reading.operator (s.tokens ++ rest) = .ok (s.operator, rest) := by
  cases s with
  | filter keyword tests =>
    have hk : keyword.1.kind = .where := keyword.kind_eq
    have hc := conditions_complete tests (hrest.notNext (by decide))
    simp [Stage.tokens, Stage.operator, Reading.operator, hk, hc, Except.map]
  | project keyword columns =>
    have hk : keyword.1.kind = .project := keyword.kind_eq
    have hc := columns_complete columns (hrest.notNext (by decide))
    simp [Stage.tokens, Stage.operator, Reading.operator, hk, hc, Except.map]
  | take keyword rows h =>
    have hk : keyword.1.kind = .take := keyword.kind_eq
    simp [Stage.tokens, Stage.operator, Reading.operator, Reading.take, hk, expect_terminal,
      rowCount?_of_isRowCount h, bind, Except.bind]
  | sort keyword particle column d =>
    have hk : keyword.1.kind = .sort := keyword.kind_eq
    have hd := direction_complete d (hrest.notNext (by decide))
    have hcolumn : column.1.kind = .identifier := column.kind_eq
    have hskip : skip .by ((particle.map (·.1)).toList ++
        column.1 :: ((d.map (·.1)).toList ++ rest)) = column.1 :: ((d.map (·.1)).toList ++ rest) :=
      skip_complete particle (by simp [hcolumn])
    simp only [Stage.tokens, List.cons_append, List.append_assoc, Reading.operator, hk,
      Reading.sort, hskip, expect_terminal, bind, Except.bind, hd, Stage.operator]
  | count keyword =>
    have hk : keyword.1.kind = .count := keyword.kind_eq
    simp [Stage.tokens, Stage.operator, Reading.operator, hk]
  | extend keyword column equals expression =>
    have hk : keyword.1.kind = .extend := keyword.kind_eq
    obtain ⟨htake, hdrop⟩ := takeWhile_expression expression hrest
    simp only [Stage.tokens, List.cons_append, Reading.operator, hk, Reading.extend,
      expect_terminal, bind, Except.bind, htake, hdrop, Stage.operator, List.map_map,
      Function.comp_def]

/-! ### Queries -/

theorem atPipe_stageTokens (stages : List (Terminal [.pipe] × Stage)) :
    AtPipe (stageTokens stages) := by
  cases stages with
  | nil => simp [AtPipe, stageTokens]
  | cons s stages => simpa [AtPipe, stageTokens] using s.1.kind_eq

theorem pipeline_of_operator {t : Token} {us : List Token} {op : Operator} (hk : t.kind = .pipe)
    (h : Reading.operator us = .ok (op, rest)) :
    pipeline (t :: us) = (pipeline rest).map fun (ops, vs) => (op :: ops, vs) := by
  rw [pipeline, if_pos hk]
  split
  · simp_all
  · rename_i hop
    rw [h] at hop
    cases hop
    cases pipeline rest <;> rfl

theorem pipeline_sound {ops : List Operator} (hplus : ∀ t ∈ ts, Unsigned t)
    (h : pipeline ts = .ok (ops, rest)) :
    ∃ stages : List (Terminal [.pipe] × Stage), ts = stageTokens stages ∧ rest = [] ∧
      stages.map (·.2.operator) = ops := by
  fun_induction pipeline ts generalizing ops rest with
  | case1 => cases h; exact ⟨[], rfl, rfl, rfl⟩
  | case2 => cases h
  | case3 => cases h
  | case4 t us hk op vs hop ops' ws hrec ih =>
    cases h
    obtain ⟨s, rfl, rfl⟩ := operator_sound (fun u hu => hplus u (by simp [hu])) hop
    obtain ⟨stages, rfl, rfl, rfl⟩ := ih (fun u hu => hplus u (by simp [hu])) hrec
    exact ⟨(⟨t, by simp [hk]⟩, s) :: stages, by simp [stageTokens], rfl, rfl⟩
  | case5 => cases h

theorem pipeline_complete (stages : List (Terminal [.pipe] × Stage)) :
    pipeline (stageTokens stages) = .ok (stages.map (·.2.operator), []) := by
  induction stages with
  | nil => rw [stageTokens, List.flatMap_nil, pipeline]; rfl
  | cons s stages ih =>
    have hk : s.1.1.kind = .pipe := s.1.kind_eq
    have hop := operator_complete s.2 (atPipe_stageTokens stages)
    rw [stageTokens, List.flatMap_cons, ← stageTokens, List.cons_append,
      pipeline_of_operator hk hop, ih]
    rfl

theorem callSeparator_eq_ok_iff {r : Unit × List Token} :
    callSeparator ts = .ok r ↔ ∃ t : Terminal [.pipe, .dot], ts = t.1 :: r.2 := by
  cases ts with
  | nil => simp [callSeparator]
  | cons t us =>
    by_cases hk : t.kind = .pipe ∨ t.kind = .dot
    · simp only [callSeparator, if_pos hk, Except.ok.injEq, List.cons.injEq]
      constructor
      · rintro rfl; exact ⟨⟨t, by simpa using hk⟩, rfl, rfl⟩
      · rintro ⟨-, -, rfl⟩; rfl
    · simp only [callSeparator, if_neg hk, reduceCtorEq, List.cons.injEq, false_iff]
      rintro ⟨u, rfl, -⟩; exact hk (by simpa using u.2)

theorem query_sound {q : Query} (hplus : ∀ t ∈ ts, Unsigned t)
    (h : Reading.query ts = .ok (q, rest)) :
    ∃ d : Derivation, ts = d.tokens ∧ rest = [] ∧ d.query = q := by
  obtain ⟨⟨provider, us⟩, hp, h⟩ := bind_eq_ok_iff.mp h
  obtain ⟨⟨_, vs⟩, hs, h⟩ := bind_eq_ok_iff.mp h
  obtain ⟨⟨tool, ws⟩, ht, h⟩ := bind_eq_ok_iff.mp h
  obtain ⟨⟨ps, xs⟩, ha, h⟩ := bind_eq_ok_iff.mp h
  obtain ⟨⟨ops, ys⟩, ho, h⟩ := bind_eq_ok_iff.mp h
  cases h
  obtain ⟨rfl, hpk⟩ := expect_eq_ok_iff.mp hp
  obtain ⟨separator, rfl⟩ := callSeparator_eq_ok_iff.mp hs
  obtain ⟨rfl, htk⟩ := expect_eq_ok_iff.mp ht
  obtain ⟨arguments, rfl, rfl⟩ := parameters_sound ha
  obtain ⟨stages, rfl, rfl, rfl⟩ := pipeline_sound (fun u hu => hplus u (by simp [hu])) ho
  exact ⟨⟨⟨provider, by simp [hpk]⟩, separator, ⟨tool, by simp [htk]⟩, arguments, stages⟩,
    rfl, rfl, rfl⟩

theorem query_complete (d : Derivation) (h : ∀ t ∈ d.tokens, Readable t) :
    Reading.query d.tokens = .ok (d.query, []) := by
  have hs : callSeparator (d.separator.1 :: d.tool.1 :: (d.arguments.tokens ++
      stageTokens d.stages)) = .ok ((), d.tool.1 :: (d.arguments.tokens ++ stageTokens d.stages)) :=
    callSeparator_eq_ok_iff.mpr ⟨d.separator, rfl⟩
  have ha := parameters_complete d.arguments
    (fun t ht => h t (by simp [Derivation.tokens, ht]))
    ((atPipe_stageTokens d.stages).notNext (by decide))
  simp only [Reading.query, Derivation.tokens, Derivation.query, expect_terminal, bind,
    Except.bind, hs, ha, pipeline_complete]

end PipeQuery.Grammar

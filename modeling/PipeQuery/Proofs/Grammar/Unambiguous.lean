import PipeQuery.Proofs.Grammar.Reading

/-! A list of tokens has at most one derivation tree. Each rule is determined by its tokens even
where others stand behind them, as long as those cannot continue it. -/

namespace PipeQuery.Grammar

/-- If the tokens of two items stand at the head of one list, before tokens that may follow them,
then they are one item. -/
def Determined {α : Type} (item : α → List Token) (Follows : List Token → Prop) : Prop :=
  ∀ a b r s, Follows r → Follows s → item a ++ r = item b ++ s → a = b ∧ r = s

/-! ### Repeated and optional parts -/

section Parts

variable {α : Type} {kinds : List TokenKind} {item : α → List Token}

theorem determined_of_length (n : Nat) (hlength : ∀ a, (item a).length = n)
    (hinj : Function.Injective item) : Determined item fun _ => True := by
  intro a b r s _ _ h
  obtain ⟨hab, hrs⟩ := List.append_inj h (by rw [hlength, hlength])
  exact ⟨hinj hab, hrs⟩

theorem determined_terminal : Determined (fun t : Terminal kinds => [t.1]) fun _ => True :=
  determined_of_length 1 (fun _ => rfl) fun _ _ h => Subtype.ext (List.singleton_inj.mp h)

/-- Either another separator follows an item, or what stands behind the last one. -/
theorem determined_separated (h : Determined item fun _ => True) :
    Determined (fun s : Separated kinds α => s.tokens item) (NotNext kinds) := by
  rintro ⟨a, more⟩ ⟨b, others⟩ r s hr hs heq
  induction more generalizing a b others with
  | nil =>
    cases others with
    | nil =>
      obtain ⟨rfl, rfl⟩ := h a b r s trivial trivial (by simpa using heq)
      exact ⟨rfl, rfl⟩
    | cons m others =>
      obtain ⟨sep, d⟩ := m
      simp only [Separated.tokens_single, Separated.tokens_cons, List.append_assoc] at heq
      obtain ⟨-, rfl⟩ := h a b r _ trivial trivial heq
      exact absurd sep.2 (by simpa using hr)
  | cons n more ih =>
    obtain ⟨sep, c⟩ := n
    cases others with
    | nil =>
      simp only [Separated.tokens_single, Separated.tokens_cons, List.append_assoc] at heq
      obtain ⟨-, rfl⟩ := h a b _ s trivial trivial heq
      exact absurd sep.2 (by simpa using hs)
    | cons m others =>
      obtain ⟨sep', d⟩ := m
      simp only [Separated.tokens_cons, List.append_assoc] at heq
      obtain ⟨rfl, htail⟩ := h a b _ _ trivial trivial heq
      obtain ⟨hsep, hmore⟩ := List.cons.inj htail
      obtain ⟨hitems, rfl⟩ := ih c d others hmore
      cases hitems
      cases Subtype.ext hsep
      exact ⟨rfl, rfl⟩

theorem determined_option :
    Determined (fun o : Option (Terminal kinds) => (o.map (·.1)).toList) (NotNext kinds) := by
  rintro (_ | t) (_ | u) r s hr hs h
  · exact ⟨rfl, h⟩
  · obtain rfl : r = u.1 :: s := h
    exact absurd u.2 (by simpa using hr)
  · obtain rfl : t.1 :: r = s := h
    exact absurd t.2 (by simpa using hs)
  · obtain ⟨htu, rfl⟩ := List.cons.inj h
    exact ⟨congrArg some (Subtype.ext htu), rfl⟩

theorem determined_expression :
    Determined (fun e : List {t : Token // t.kind ≠ .pipe} => e.map (·.1)) AtPipe := by
  intro d e r s hr hs h
  obtain ⟨hd, hdr⟩ := takeWhile_expression d hr
  obtain ⟨he, hes⟩ := takeWhile_expression e hs
  rw [show d.map (·.1) ++ r = e.map (·.1) ++ s from h] at hd hdr
  have hmap : d.map (·.1) = e.map (·.1) := by rw [← hd, he]
  exact ⟨List.map_inj_right (fun _ _ => Subtype.ext) |>.mp hmap, by rw [← hdr, hes]⟩

end Parts

/-! ### Parameters -/

theorem Literal.token_injective : Function.Injective Literal.token := by
  intro a b h
  cases a with
  | string t =>
    have ht := t.kind_eq
    cases b with
    | string u => exact congrArg Literal.string (Subtype.ext h)
    | number u => exact absurd u.kind_eq (by simp [← show t.1 = u.1 from h, ht])
    | word u => exact absurd ht (by rw [show t.1 = u.1 from h]; exact u.kind_ne.1)
  | number t =>
    have ht := t.kind_eq
    cases b with
    | string u => exact absurd u.kind_eq (by simp [← show t.1 = u.1 from h, ht])
    | number u => exact congrArg Literal.number (Subtype.ext h)
    | word u => exact absurd ht (by rw [show t.1 = u.1 from h]; exact u.kind_ne.2)
  | word t =>
    cases b with
    | string u =>
      exact absurd u.kind_eq (by rw [← show t.1 = u.1 from h]; exact t.kind_ne.1)
    | number u =>
      exact absurd u.kind_eq (by rw [← show t.1 = u.1 from h]; exact t.kind_ne.2)
    | word u => exact congrArg Literal.word (Subtype.ext h)

theorem determined_assignment : Determined Assignment.tokens fun _ => True := by
  refine determined_of_length 3 (fun _ => rfl) ?_
  rintro ⟨name, equals, value⟩ ⟨name', equals', value'⟩ h
  simp only [Assignment.tokens, List.cons.injEq, and_true] at h
  obtain ⟨hname, hequals, hvalue⟩ := h
  cases Subtype.ext hname
  cases Subtype.ext hequals
  cases Literal.token_injective hvalue
  rfl

/-- A list of assignments does not start with the parenthesis that closes an empty one. -/
theorem assignments_ne_closing {assignments : Separated [.comma] Assignment}
    {closing : Terminal [.closeParen]} {us vs : List Token} :
    assignments.tokens Assignment.tokens ++ us ≠ closing.1 :: vs := by
  intro h
  have hnext : NotNext [.closeParen] (assignments.tokens Assignment.tokens ++ us) := by
    simpa [Separated.tokens] using assignments.first.notNext_closeParen
  rw [h] at hnext
  exact absurd closing.2 (by simpa using hnext)

theorem determined_arguments : Determined Arguments.tokens (NotNext [.openParen]) := by
  intro a b r s hr hs h
  cases a with
  | absent =>
    cases b with
    | absent => exact ⟨rfl, h⟩
    | empty opening closing =>
      obtain rfl : r = opening.1 :: closing.1 :: s := h
      exact absurd opening.2 (by simpa using hr)
    | listed opening assignments closing =>
      obtain rfl : r = opening.1 :: _ ++ s := h
      exact absurd opening.2 (by simpa using hr)
  | empty opening closing =>
    cases b with
    | absent =>
      obtain rfl : opening.1 :: closing.1 :: r = s := h
      exact absurd opening.2 (by simpa using hs)
    | empty opening' closing' =>
      simp only [Arguments.tokens, List.cons_append, List.nil_append, List.cons.injEq] at h
      cases Subtype.ext h.1
      cases Subtype.ext h.2.1
      exact ⟨rfl, h.2.2⟩
    | listed opening' assignments closing' =>
      simp only [Arguments.tokens, List.cons_append, List.append_assoc, List.cons.injEq] at h
      exact absurd h.2.symm assignments_ne_closing
  | listed opening assignments closing =>
    cases b with
    | absent =>
      obtain rfl : opening.1 :: _ ++ r = s := h
      exact absurd opening.2 (by simpa using hs)
    | empty opening' closing' =>
      simp only [Arguments.tokens, List.cons_append, List.append_assoc, List.cons.injEq] at h
      exact absurd h.2 assignments_ne_closing
    | listed opening' assignments' closing' =>
      simp only [Arguments.tokens, List.cons_append, List.append_assoc, List.cons.injEq] at h
      have hend (t : Terminal [.closeParen]) (us : List Token) : NotNext [.comma] (t.1 :: us) := by
        simp [t.kind_eq]
      obtain ⟨rfl, htail⟩ := determined_separated determined_assignment assignments assignments'
        _ _ (hend closing r) (hend closing' s) h.2
      obtain ⟨hclosing, rfl⟩ := List.cons.inj htail
      cases Subtype.ext h.1
      cases Subtype.ext hclosing
      exact ⟨rfl, rfl⟩

/-! ### Operators -/

theorem Comparator.symbol_injective : Function.Injective Comparator.symbol := by
  intro a b
  cases a <;> cases b <;> decide

theorem determined_test : Determined Test.tokens fun _ => True := by
  refine determined_of_length 3 (fun _ => rfl) ?_
  rintro ⟨column, symbol, comparator, spelled, operand⟩ ⟨column', symbol', comparator', spelled',
    operand'⟩ h
  simp only [Test.tokens, List.cons.injEq, and_true] at h
  obtain ⟨hcolumn, hsymbol, hoperand⟩ := h
  cases Subtype.ext hcolumn
  cases Subtype.ext hsymbol
  cases Subtype.ext hoperand
  cases Comparator.symbol_injective (spelled.symm.trans spelled')
  rfl

theorem determined_stage : Determined Stage.tokens AtPipe := by
  intro a b r s hr hs h
  -- Reading the common list gives both operators, so the keywords are the same.
  have hread := operator_complete b hs
  rw [← h, operator_complete a hr] at hread
  obtain ⟨hop, rfl⟩ := Prod.mk.inj (Except.ok.inj hread)
  refine ⟨?_, rfl⟩
  cases a <;> cases b <;>
    simp only [Stage.operator, reduceCtorEq] at hop <;>
    simp only [Stage.tokens, List.cons_append, List.append_assoc, List.nil_append,
      List.cons.injEq] at h
  case filter.filter keyword tests keyword' tests' =>
    have hnext : NotNext [.and, .or] r := hr.notNext (by decide)
    cases Subtype.ext h.1
    cases (determined_separated determined_test tests tests' r r hnext hnext h.2).1
    rfl
  case project.project keyword columns keyword' columns' =>
    have hnext : NotNext [.comma] r := hr.notNext (by decide)
    cases Subtype.ext h.1
    cases (determined_separated determined_terminal columns columns' r r hnext hnext h.2).1
    rfl
  case take.take keyword rows _ keyword' rows' _ =>
    cases Subtype.ext h.1
    cases Subtype.ext h.2.1
    rfl
  case sort.sort keyword particle column d keyword' particle' column' d' =>
    have hcolumn (c : Terminal [.identifier]) (us : List Token) : NotNext [.by] (c.1 :: us) := by
      simp [c.kind_eq]
    have hnext : NotNext [.asc, .desc] r := hr.notNext (by decide)
    obtain ⟨rfl, htail⟩ := determined_option particle particle' _ _ (hcolumn column _)
      (hcolumn column' _) h.2
    obtain ⟨hcol, hd⟩ := List.cons.inj htail
    cases Subtype.ext h.1
    cases Subtype.ext hcol
    cases (determined_option d d' r r hnext hnext hd).1
    rfl
  case count.count keyword keyword' =>
    cases Subtype.ext h.1
    rfl
  case extend.extend keyword column equals expression keyword' column' equals' expression' =>
    cases Subtype.ext h.1
    cases Subtype.ext h.2.1
    cases Subtype.ext h.2.2.1
    cases (determined_expression expression expression' r r hr hr h.2.2.2).1
    rfl

/-! ### Queries -/

theorem stageTokens_injective : Function.Injective stageTokens := by
  intro a b h
  induction a generalizing b with
  | nil => cases b with
    | nil => rfl
    | cons => cases h
  | cons x stages ih =>
    cases b with
    | nil => cases h
    | cons y stages' =>
      obtain ⟨pipe, stage⟩ := x
      obtain ⟨pipe', stage'⟩ := y
      have hcons : pipe.1 :: (stage.tokens ++ stageTokens stages) =
          pipe'.1 :: (stage'.tokens ++ stageTokens stages') := by simpa [stageTokens] using h
      obtain ⟨hpipe, htail⟩ := List.cons.inj hcons
      obtain ⟨rfl, hmore⟩ := determined_stage stage stage' _ _ (atPipe_stageTokens stages)
        (atPipe_stageTokens stages') htail
      cases Subtype.ext hpipe
      rw [ih hmore]

/-- No two derivation trees have the same tokens. -/
theorem Derivation.tokens_injective : Function.Injective Derivation.tokens := by
  rintro ⟨provider, separator, tool, arguments, stages⟩ ⟨provider', separator', tool', arguments',
    stages'⟩ h
  simp only [Derivation.tokens, List.cons.injEq] at h
  obtain ⟨hprovider, hseparator, htool, htail⟩ := h
  obtain ⟨rfl, hstages⟩ := determined_arguments arguments arguments' _ _
    ((atPipe_stageTokens stages).notNext (by decide))
    ((atPipe_stageTokens stages').notNext (by decide)) htail
  cases Subtype.ext hprovider
  cases Subtype.ext hseparator
  cases Subtype.ext htool
  cases stageTokens_injective hstages
  rfl

end PipeQuery.Grammar

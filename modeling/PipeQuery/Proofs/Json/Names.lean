import PipeQuery.Json.Reader
import PipeQuery.Proofs.Named

/-! Objects read from a text have distinct names. A member whose name came before replaces the
value there, so the names stay distinct member by member, and this holds at every depth. -/

namespace PipeQuery.Json

/-- No object in the value has two members of one name. -/
inductive Distinct : Json → Prop
  | null : Distinct .null
  | bool (b : Bool) : Distinct (.bool b)
  | number (n : Number) : Distinct (.number n)
  | string (s : String) : Distinct (.string s)
  | array {items : List Json} (inner : ∀ x ∈ items, Distinct x) : Distinct (.array items)
  | object {members : Named Json} (names : members.names.Nodup)
      (inner : ∀ p ∈ members, Distinct p.2) : Distinct (.object members)

namespace Distinct

theorem names_nodup {members : Named Json} (h : Distinct (.object members)) :
    members.names.Nodup := by
  cases h with
  | object names inner => exact names

theorem members {members : Named Json} (h : Distinct (.object members)) :
    ∀ p ∈ members, p.2.Distinct := by
  cases h with
  | object names inner => exact inner

theorem object_nil : Distinct (.object []) :=
  .object List.nodup_nil fun p hp => by cases hp

theorem insert {members : Named Json} (h : Distinct (.object members)) (name : String) {x : Json}
    (hx : x.Distinct) : Distinct (.object (members.insert name x)) := by
  refine .object (Named.nodup_names_insert h.names_nodup name x) fun p hp => ?_
  rcases Named.mem_of_mem_insert hp with rfl | hmem
  · exact hx
  · exact h.members p hmem

end Distinct

namespace Reader

variable {depth : Nat} {cs : List Char}

theorem literal_distinct {x : Json} {letters : List Char} {c : Char} {r : Read Json (c :: cs)}
    (hx : x.Distinct) (h : literal x letters c cs = .ok r) : r.value.Distinct := by
  unfold literal at h
  split at h
  · cases h
  · cases h
    exact hx

theorem signed_distinct {negative : Bool} {r : Read Json cs} (h : signed negative cs = .ok r) :
    r.value.Distinct := by
  unfold signed at h
  split at h
  · cases h
  · cases h
    exact .number _

theorem map_eq_ok_iff {α β : Type} {x : Except Stop α} {f : α → β} {b : β} :
    x.map f = .ok b ↔ ∃ a, x = .ok a ∧ f a = b := by
  cases x <;> simp [Except.map]

theorem length_of_skipSpace {c : Char} {rest : List Char} (h : skipSpace cs = c :: rest) :
    (c :: rest).length ≤ cs.length := by
  rw [← h]
  exact skipSpace_length cs

/-- Items are none, or a value and the items behind it. -/
theorem items_cases {first : Bool} {r : Read (List Json) cs}
    (h : items depth first cs = .ok r) :
    r.value = [] ∨
    ∃ (ds : List Char) (x : Read Json ds) (xs : Read (List Json) x.rest),
      ds.length ≤ cs.length ∧ value depth ds = .ok x ∧ items depth false x.rest = .ok xs ∧
        r.value = x.value :: xs.value := by
  unfold items at h
  split at h
  · cases h
  · cases h
    exact .inl rfl
  · next start hle _ =>
    split at h
    · cases h
    · next x rest _ hx =>
      split at h
      · cases h
      · next xs last _ hxs =>
        cases h
        exact .inr ⟨start, _, _, hle, hx, hxs, rfl⟩

/-- Members are those before, or those that a member and the members behind it make of them. -/
theorem members_cases {first : Bool} {before : Named Json} {r : Read (Named Json) cs}
    (h : members depth first before cs = .ok r) :
    r.value = before ∨
    ∃ (ds : List Char) (xs : Read (Named Json) ds) (ys : Read (Named Json) xs.rest),
      ds.length ≤ cs.length ∧ member depth before ds = .ok xs ∧
        members depth false xs.value xs.rest = .ok ys ∧ r.value = ys.value := by
  unfold members at h
  split at h
  · cases h
  · cases h
    exact .inl rfl
  · next start hle _ =>
    split at h
    · cases h
    · next xs rest _ hxs =>
      split at h
      · cases h
      · next ys last _ hys =>
        cases h
        exact .inr ⟨start, _, _, hle, hxs, hys, rfl⟩

/-- A member adds one name with its value to those before. -/
theorem member_cases {before : Named Json} {r : Read (Named Json) cs}
    (h : member depth before cs = .ok r) :
    ∃ (k : String) (ds : List Char) (x : Read Json ds),
      ds.length < cs.length ∧ value depth ds = .ok x ∧ r.value = before.insert k x.value := by
  unfold member at h
  split at h
  · cases h
  · next k rest hlt _ =>
    split at h
    · cases h
    · next rest' hlt' _ =>
      split at h
      · cases h
      · next x last _ hx =>
        cases h
        exact ⟨k, rest', _, Nat.lt_trans hlt' hlt, hx, rfl⟩

mutual

theorem value_distinct {depth : Nat} {cs : List Char} {r : Read Json cs}
    (h : value depth cs = .ok r) : r.value.Distinct := by
  unfold value at h
  split at h
  · cases h
  · next c rest hspace =>
    have hle := length_of_skipSpace hspace
    obtain ⟨r', hr', rfl⟩ := map_eq_ok_iff.mp h
    exact valueAt_distinct hr'
termination_by 3 * cs.length + 1
decreasing_by simp only [List.length_cons] at hle; omega

theorem valueAt_distinct {depth : Nat} {c : Char} {cs : List Char} {r : Read Json (c :: cs)}
    (h : valueAt depth c cs = .ok r) : r.value.Distinct := by
  unfold valueAt at h
  split_ifs at h
  · exact literal_distinct .null h
  · exact literal_distinct (.bool true) h
  · exact literal_distinct (.bool false) h
  · obtain ⟨r', hr', rfl⟩ := map_eq_ok_iff.mp h
    have hsigned := signed_distinct hr'
    exact hsigned
  · exact signed_distinct h
  · obtain ⟨r', -, rfl⟩ := map_eq_ok_iff.mp h
    exact .string _
  · cases depth with
    | zero => cases h
    | succ depth =>
      obtain ⟨r', hr', rfl⟩ := map_eq_ok_iff.mp h
      exact .array (items_distinct hr')
  · cases depth with
    | zero => cases h
    | succ depth =>
      obtain ⟨r', hr', rfl⟩ := map_eq_ok_iff.mp h
      exact members_distinct .object_nil hr'
termination_by 3 * cs.length + 3

theorem items_distinct {depth : Nat} {first : Bool} {cs : List Char} {r : Read (List Json) cs}
    (h : items depth first cs = .ok r) : ∀ x ∈ r.value, x.Distinct := by
  rcases items_cases h with hnil | ⟨ds, x, xs, hle, hx, hxs, hcons⟩
  · rw [hnil]
    exact fun x hx => by cases hx
  · have hlt := x.shorter
    rw [hcons]
    exact List.forall_mem_cons.mpr ⟨value_distinct hx, items_distinct hxs⟩
termination_by 3 * cs.length + 2

theorem members_distinct {depth : Nat} {first : Bool} {before : Named Json} {cs : List Char}
    {r : Read (Named Json) cs} (hb : Distinct (.object before))
    (h : members depth first before cs = .ok r) : Distinct (.object r.value) := by
  rcases members_cases h with hend | ⟨ds, xs, ys, hle, hxs, hys, hr⟩
  · rwa [hend]
  · have hlt := xs.shorter
    rw [hr]
    exact members_distinct (member_distinct hb hxs) hys
termination_by 3 * cs.length + 2

theorem member_distinct {depth : Nat} {before : Named Json} {cs : List Char}
    {r : Read (Named Json) cs} (hb : Distinct (.object before))
    (h : member depth before cs = .ok r) : Distinct (.object r.value) := by
  obtain ⟨k, ds, x, hlt, hx, hr⟩ := member_cases h
  rw [hr]
  exact hb.insert k (value_distinct hx)
termination_by 3 * cs.length + 1

end

theorem whole_distinct {x : Json} (h : whole cs = .ok x) : x.Distinct := by
  unfold whole at h
  split at h
  · cases h
  · next y rest _ hy =>
    have hdistinct := value_distinct hy
    split at h
    · cases h
      exact hdistinct
    · cases h

end Reader

/-- No object that is read from a text has two members of one name, at any depth. -/
theorem parse_distinct {text : String} {x : Json} (h : parse text = .ok x) : x.Distinct := by
  unfold parse at h
  split at h
  · next y hy =>
    cases h
    exact Reader.whole_distinct hy
  · cases h

end PipeQuery.Json

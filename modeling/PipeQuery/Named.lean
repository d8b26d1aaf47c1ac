/-! Values under distinct names, in the order in which the names first came. `insert` puts a new name
at the end and leaves the names as they are when it replaces a value. -/

namespace PipeQuery

/-- Pairs of a name and its value; `insert` keeps the names distinct. -/
abbrev Named (α : Type) := List (String × α)

namespace Named

variable {α : Type}

/-- Gives a name a value: in its place if it has one, else at the end. -/
def insert (name : String) (value : α) : Named α → Named α
  | [] => [(name, value)]
  | (n, v) :: rest => if n = name then (n, value) :: rest else (n, v) :: insert name value rest

def get? (xs : Named α) (name : String) : Option α := xs.lookup name

def names (xs : Named α) : List String := xs.map (·.1)

/-- Each pair in turn; a later value of a name replaces an earlier one. -/
def ofList (pairs : List (String × α)) : Named α :=
  pairs.foldl (fun xs (name, value) => insert name value xs) []

/-! ### Names -/

@[simp] theorem names_nil : names ([] : Named α) = [] := rfl

@[simp] theorem names_cons (x : String × α) (xs : Named α) :
    names (x :: xs) = x.1 :: names xs := rfl

@[simp] theorem names_append (xs ys : Named α) : names (xs ++ ys) = names xs ++ names ys :=
  List.map_append

theorem insert_of_notMem {name : String} {xs : Named α} (h : name ∉ xs.names) (value : α) :
    insert name value xs = xs ++ [(name, value)] := by
  induction xs with
  | nil => rfl
  | cons x xs ih =>
    obtain ⟨n, v⟩ := x
    simp only [names_cons, List.mem_cons, not_or] at h
    rw [insert, if_neg (Ne.symm h.1), ih h.2, List.cons_append]

theorem names_insert_of_mem {name : String} {xs : Named α} (h : name ∈ xs.names) (value : α) :
    (insert name value xs).names = xs.names := by
  induction xs with
  | nil => cases h
  | cons x xs ih =>
    obtain ⟨n, v⟩ := x
    by_cases hn : n = name
    · simp [insert, hn]
    · have hmem : name ∈ names xs := by simpa [Ne.symm hn] using h
      rw [insert, if_neg hn, names_cons, names_cons, ih hmem]

/-- A new name comes last, and one that is there keeps its place. -/
theorem names_insert (name : String) (value : α) (xs : Named α) :
    (insert name value xs).names = if name ∈ xs.names then xs.names else xs.names ++ [name] := by
  split
  · next h => exact names_insert_of_mem h value
  · next h =>
    rw [insert_of_notMem h, names_append]
    rfl

theorem mem_names_insert {name n : String} {value : α} {xs : Named α} :
    n ∈ (insert name value xs).names ↔ n = name ∨ n ∈ xs.names := by
  rw [names_insert]
  split
  · next hmem =>
    constructor
    · exact .inr
    · rintro (rfl | h)
      · exact hmem
      · exact h
  · rw [List.mem_append, List.mem_singleton, or_comm]

/-! ### Values -/

theorem mem_of_mem_insert {name : String} {value : α} {p : String × α} {xs : Named α}
    (h : p ∈ insert name value xs) : p = (name, value) ∨ p ∈ xs := by
  induction xs with
  | nil => exact .inl (List.mem_singleton.mp h)
  | cons x xs ih =>
    obtain ⟨n, v⟩ := x
    by_cases hn : n = name
    · rw [insert, if_pos hn, hn] at h
      rcases List.mem_cons.mp h with heq | htail
      · exact .inl heq
      · exact .inr (List.mem_cons_of_mem _ htail)
    · rw [insert, if_neg hn] at h
      rcases List.mem_cons.mp h with rfl | htail
      · exact .inr List.mem_cons_self
      · exact (ih htail).imp id (List.mem_cons_of_mem _)

/-- A value that is put in replaces that of its name and no other. -/
theorem mem_insert_iff {name n : String} {value v : α} {xs : Named α} (h : xs.names.Nodup) :
    (n, v) ∈ insert name value xs ↔ n = name ∧ v = value ∨ n ≠ name ∧ (n, v) ∈ xs := by
  induction xs with
  | nil => simp [insert]
  | cons x xs ih =>
    obtain ⟨m, w⟩ := x
    obtain ⟨hm, hxs⟩ := List.nodup_cons.mp h
    by_cases hname : m = name
    · subst hname
      rw [insert, if_pos rfl, List.mem_cons, List.mem_cons, Prod.mk.injEq, Prod.mk.injEq]
      by_cases hn : n = m
      · subst hn
        have hrest : (n, v) ∉ xs := fun hmem => hm (List.mem_map.mpr ⟨_, hmem, rfl⟩)
        simp [hrest]
      · simp [hn]
    · rw [insert, if_neg hname, List.mem_cons, ih hxs, List.mem_cons, Prod.mk.injEq]
      by_cases hn : n = name
      · simp [hn, Ne.symm hname]
      · simp [hn]

/-- A name with a value is found, since no other one can hide it. -/
theorem get?_of_mem {xs : Named α} (h : xs.names.Nodup) {name : String} {value : α}
    (hmem : (name, value) ∈ xs) : xs.get? name = some value := by
  induction xs with
  | nil => cases hmem
  | cons x xs ih =>
    obtain ⟨n, v⟩ := x
    rw [names_cons, List.nodup_cons] at h
    rcases List.mem_cons.mp hmem with heq | htail
    · cases heq
      exact List.lookup_cons_self
    · have hne : name ≠ n := by
        rintro rfl
        exact h.1 (List.mem_map.mpr ⟨_, htail, rfl⟩)
      rw [get?, List.lookup_cons, beq_false_of_ne hne]
      exact ih h.2 htail

end Named

end PipeQuery

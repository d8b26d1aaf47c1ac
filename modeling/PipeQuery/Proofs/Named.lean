import Mathlib.Data.List.Nodup
import Mathlib.Data.List.Perm.Lattice
import PipeQuery.Named

/-! Names stay distinct. Pairs with distinct names are stored as they come, and names that are
collected one by one stand in the order in which they first came. -/

namespace PipeQuery

theorem nodup_append_new {α : Type} {xs : List α} {x : α} (h : xs.Nodup) (hx : x ∉ xs) :
    (xs ++ [x]).Nodup := by
  rw [← List.concat_eq_append]
  exact h.concat hx

/-! ### Names that first come -/

/-- `firsts` are the names, each once, in the order in which they first come. -/
structure FirstCome (names firsts : List String) : Prop where
  nodup : firsts.Nodup
  mem_iff : ∀ name, name ∈ firsts ↔ name ∈ names
  ordered : firsts.Pairwise fun a b => names.idxOf a < names.idxOf b

namespace FirstCome

variable {names firsts others : List String}

theorem nil : FirstCome [] [] :=
  ⟨List.nodup_nil, fun _ => Iff.rfl, .nil⟩

/-- One more name is a new one unless it came before. -/
theorem concat (h : FirstCome names firsts) (name : String) :
    FirstCome (names ++ [name]) (if name ∈ firsts then firsts else firsts ++ [name]) := by
  -- They came before, so they keep their places.
  have hkept : firsts.Pairwise fun a b =>
      (names ++ [name]).idxOf a < (names ++ [name]).idxOf b := by
    refine h.ordered.imp_of_mem fun {a b} ha hb hab => ?_
    rwa [List.idxOf_append_of_mem ((h.mem_iff a).mp ha),
      List.idxOf_append_of_mem ((h.mem_iff b).mp hb)]
  split_ifs with hname
  · refine ⟨h.nodup, fun other => ?_, hkept⟩
    rw [h.mem_iff, List.mem_append, List.mem_singleton, iff_self_or]
    rintro rfl
    exact (h.mem_iff other).mp hname
  · refine ⟨nodup_append_new h.nodup hname, fun other => ?_, ?_⟩
    · rw [List.mem_append, List.mem_append, h.mem_iff]
    · refine List.pairwise_append.mpr ⟨hkept, List.pairwise_singleton _ _, fun a ha b hb => ?_⟩
      obtain rfl := List.mem_singleton.mp hb
      have hmem := (h.mem_iff a).mp ha
      rw [List.idxOf_append_of_mem hmem, List.idxOf_append_of_notMem (mt (h.mem_iff b).mpr hname)]
      exact Nat.lt_add_right _ (List.idxOf_lt_length_iff.mpr hmem)

theorem eq (h : FirstCome names firsts) (h' : FirstCome names others) : firsts = others := by
  have hperm : firsts.Perm others := by
    rw [List.perm_ext_iff_of_nodup h.nodup h'.nodup]
    exact fun name => (h.mem_iff name).trans (h'.mem_iff name).symm
  exact hperm.eq_of_pairwise (fun a b _ _ hab hba => absurd hab (Nat.lt_asymm hba)) h.ordered
    h'.ordered

end FirstCome

/-! ### Values under names -/

namespace Named

variable {α : Type}

/-- Inserting keeps the names distinct. -/
theorem nodup_names_insert {xs : Named α} (h : xs.names.Nodup) (name : String) (value : α) :
    (insert name value xs).names.Nodup := by
  rw [names_insert]
  split_ifs with hmem
  · exact h
  · exact nodup_append_new h hmem

/-- A name stands for the value of its first pair. -/
theorem get?_eq_some_iff {xs : Named α} {name : String} {value : α} :
    xs.get? name = some value ↔
      ∃ before after : Named α, xs = before ++ (name, value) :: after ∧ name ∉ before.names := by
  rw [get?, List.lookup_eq_some_iff]
  refine exists₂_congr fun before after => and_congr_right fun _ => ?_
  rw [names, List.mem_map, not_exists]
  refine forall_congr' fun p => ?_
  rw [not_and, bne_iff_ne]
  exact imp_congr_right fun _ => ne_comm

theorem foldl_insert_invariant {xs : Named α} (pairs : List (String × α)) (h : xs.names.Nodup) :
    (pairs.foldl (fun ys (name, value) => insert name value ys) xs).names.Nodup ∧
      ∀ n ∈ (pairs.foldl (fun ys (name, value) => insert name value ys) xs).names,
        n ∈ xs.names ∨ n ∈ names pairs := by
  induction pairs generalizing xs with
  | nil => exact ⟨h, fun n hn => .inl hn⟩
  | cons p pairs ih =>
    obtain ⟨hnodup, hmem⟩ := ih (nodup_names_insert h p.1 p.2)
    refine ⟨hnodup, fun n hn => ?_⟩
    rcases hmem n hn with hins | hpairs
    · rcases mem_names_insert.mp hins with rfl | hxs
      · exact .inr List.mem_cons_self
      · exact .inl hxs
    · exact .inr (List.mem_cons_of_mem _ hpairs)

/-- Whatever pairs are put in, the names are distinct. -/
theorem nodup_names_ofList (pairs : List (String × α)) : (ofList pairs).names.Nodup :=
  (@foldl_insert_invariant α [] pairs List.nodup_nil).1

theorem mem_names_of_mem_ofList {pairs : List (String × α)} {n : String}
    (h : n ∈ (ofList pairs).names) : n ∈ names pairs :=
  ((@foldl_insert_invariant α [] pairs List.nodup_nil).2 n h).resolve_left (by simp)

theorem foldl_insert_of_nodup {xs : Named α} {pairs : List (String × α)}
    (h : (xs ++ pairs).names.Nodup) :
    pairs.foldl (fun ys (name, value) => insert name value ys) xs = xs ++ pairs := by
  induction pairs generalizing xs with
  | nil => simp
  | cons p pairs ih =>
    obtain ⟨name, value⟩ := p
    have hnot : name ∉ xs.names := by
      intro hmem
      rw [names_append] at h
      exact List.disjoint_of_nodup_append h hmem (by simp)
    have hrest := @ih (xs ++ [(name, value)]) (by simpa using h)
    rw [List.append_assoc] at hrest
    rw [List.foldl_cons]
    simp only [insert_of_notMem hnot]
    exact hrest

/-- Pairs with distinct names stay as they are. -/
theorem ofList_of_nodup {pairs : List (String × α)} (h : (names pairs).Nodup) :
    ofList pairs = pairs :=
  foldl_insert_of_nodup (by simpa using h)

end Named

end PipeQuery

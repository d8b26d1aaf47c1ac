import Mathlib.Data.List.TakeWhile
import PipeQuery.Proofs.Lexer.Lexeme
import PipeQuery.Proofs.Unicode.Lowercase
import PipeQuery.Unicode.Ranges

/-! White space is apart from letters and digits. Two lists of ranges have no code point in common
if each range of the one ends before or starts behind each range of the other. -/

namespace PipeQuery.Unicode

theorem Ranges.exists_of_contains {rs : Ranges} {n : Nat} (h : rs.contains n = true) :
    ∃ r ∈ rs, r.1 ≤ n ∧ n ≤ r.2 := by
  induction rs with
  | nil => cases h
  | cons r rs ih =>
    obtain ⟨lo, hi⟩ := r
    rw [contains] at h
    split_ifs at h with hlo
    rcases Bool.or_eq_true _ _ ▸ h with hhi | hrest
    · exact ⟨_, List.mem_cons_self, by omega, by simpa using hhi⟩
    · obtain ⟨r, hr, hn⟩ := ih hrest
      exact ⟨r, List.mem_cons_of_mem _ hr, hn⟩

/-- Every range of the one list ends before every range of the other starts, or the reverse. -/
def Ranges.apart (rs ss : Ranges) : Bool :=
  rs.all fun r => ss.all fun s => r.2.blt s.1 || s.2.blt r.1

theorem Ranges.contains_of_apart {rs ss : Ranges} {n : Nat} (h : rs.apart ss = true)
    (hn : rs.contains n = true) : ss.contains n = false := by
  by_contra hs
  obtain ⟨r, hr, hrn⟩ := exists_of_contains hn
  obtain ⟨s, hs, hsn⟩ := exists_of_contains (by simpa using hs)
  have hapart := List.all_eq_true.mp (List.all_eq_true.mp h r hr) s hs
  rw [Bool.or_eq_true, Nat.blt_eq, Nat.blt_eq] at hapart
  omega

/-- The printable characters below 128 are no white space. -/
theorem isBlank_eq_false {c : Char} (hlow : 32 < c.toNat) (hhigh : c.toNat < 128) :
    isBlank c = false := by
  by_contra hblank
  obtain ⟨r, hr, hc⟩ := Ranges.exists_of_contains (by simpa [isBlank] using hblank)
  have hends : ∀ r ∈ blankRanges, 128 ≤ r.1 ∨ r.2 ≤ 32 := by decide
  have := hends r hr
  omega

theorem isAlphanumeric_of_isBlank {c : Char} (h : isBlank c = true) : isAlphanumeric c = false := by
  rw [isAlphanumeric, isAlphabetic, isNumeric]
  split_ifs with hlt
  · have hlow : ¬32 < c.toNat := fun hlow => by rw [isBlank_eq_false hlow hlt] at h; cases h
    rw [Bool.or_eq_false_iff, ← Bool.not_eq_true, ← Bool.not_eq_true, isLatinLetter_iff,
      isDigit_iff]
    omega
  · rw [Bool.or_eq_false_iff]
    exact ⟨Ranges.contains_of_apart (by decide +kernel) h,
      Ranges.contains_of_apart (by decide +kernel) h⟩

/-- White space is dropped up to a text that starts with none. -/
theorem dropWhile_isBlank_append {left cs : List Char} (hleft : ∀ c ∈ left, isBlank c = true)
    (hcs : ∀ c ∈ cs.head?, isBlank c = false) : (left ++ cs).dropWhile isBlank = cs := by
  rw [List.dropWhile_append_of_pos hleft]
  cases cs with
  | nil => rfl
  | cons c cs => rw [List.dropWhile_cons_of_neg (by simp [hcs c rfl])]

/-- Trimming takes the white space around a text that has none in itself. -/
theorem trim_append {left cs right : List Char} (hleft : ∀ c ∈ left, isBlank c = true)
    (hcs : ∀ c ∈ cs, isBlank c = false) (hright : ∀ c ∈ right, isBlank c = true)
    (hne : cs ≠ []) : trim (left ++ (cs ++ right)) = cs := by
  have hhead : ∀ c ∈ (cs ++ right).head?, isBlank c = false := by
    obtain ⟨d, ds, rfl⟩ := List.exists_cons_of_ne_nil hne
    rintro _ ⟨⟩
    exact hcs d List.mem_cons_self
  have hlast : ∀ c ∈ cs.reverse.head?, isBlank c = false :=
    fun c hc => hcs c (List.mem_reverse.mp (List.mem_of_mem_head? hc))
  rw [trim, dropWhile_isBlank_append hleft hhead, List.reverse_append,
    dropWhile_isBlank_append (fun c hc => hright c (List.mem_reverse.mp hc)) hlast,
    List.reverse_reverse]

/-- A text is what trimming leaves of it, with white space on both sides. -/
theorem exists_trim (cs : List Char) : ∃ left right, (∀ c ∈ left, isBlank c = true) ∧
    (∀ c ∈ right, isBlank c = true) ∧ cs = left ++ (trim cs ++ right) := by
  refine ⟨cs.takeWhile isBlank, ((cs.dropWhile isBlank).reverse.takeWhile isBlank).reverse,
    fun c hc => List.mem_takeWhile_imp hc,
    fun c hc => List.mem_takeWhile_imp (List.mem_reverse.mp hc), ?_⟩
  rw [trim, ← List.reverse_append, List.takeWhile_append_dropWhile, List.reverse_reverse,
    List.takeWhile_append_dropWhile]

end PipeQuery.Unicode

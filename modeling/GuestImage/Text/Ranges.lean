/-!
# Classes of characters given by ranges of code points

A class of a character standard is data: an ascending list of closed ranges. `inRanges` stops at
the first range past the code point it looks for, which loses nothing in an ascending list
(`inRanges_iff`).
-/

namespace GuestImage.Text

/-- Whether `n` lies in one of the closed ranges of an ascending list. -/
def inRanges (n : Nat) : List (Nat × Nat) → Bool
  | [] => false
  | (lo, hi) :: rest => if n < lo then false else decide (n ≤ hi) || inRanges n rest

/-- No range is empty, the first starts at `b` or later, and each starts after the one before it
has ended. -/
def ascendingFrom (b : Nat) : List (Nat × Nat) → Bool
  | [] => true
  | (lo, hi) :: rest => decide (b ≤ lo) && decide (lo ≤ hi) && ascendingFrom (hi + 1) rest

theorem le_of_ascendingFrom :
    ∀ {l : List (Nat × Nat)} {b : Nat}, ascendingFrom b l = true → ∀ r ∈ l, b ≤ r.1
  | [], _, _, _, hr => by simp at hr
  | (lo, hi) :: rest, b, h, r, hr => by
    simp only [ascendingFrom, Bool.and_eq_true, decide_eq_true_eq] at h
    rcases List.mem_cons.mp hr with rfl | hr
    · exact h.1.1
    · have := le_of_ascendingFrom h.2 r hr
      omega

theorem inRanges_iff {n : Nat} :
    ∀ {l : List (Nat × Nat)} {b : Nat}, ascendingFrom b l = true →
      (inRanges n l = true ↔ ∃ r ∈ l, r.1 ≤ n ∧ n ≤ r.2)
  | [], _, _ => by simp [inRanges]
  | (lo, hi) :: rest, b, h => by
    simp only [ascendingFrom, Bool.and_eq_true, decide_eq_true_eq] at h
    have ih := inRanges_iff (n := n) h.2
    simp only [inRanges, List.mem_cons, exists_eq_or_imp]
    split
    · rename_i hn
      simp only [Bool.false_eq_true, false_iff, not_or, not_exists, not_and]
      refine ⟨by omega, fun r hr hle => ?_⟩
      have := le_of_ascendingFrom h.2 r hr
      omega
    · simp only [Bool.or_eq_true, decide_eq_true_eq, ih]
      constructor
      · rintro (h | h)
        · exact Or.inl ⟨by omega, h⟩
        · exact Or.inr h
      · rintro (⟨-, h⟩ | h)
        · exact Or.inl h
        · exact Or.inr h

end GuestImage.Text

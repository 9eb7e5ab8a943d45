namespace CondDoc.Text

/-- Ranges of code points: first and last of each. -/
abbrev Ranges := List (Nat × Nat)

namespace Ranges

/-- Membership; the search stops at the first range that begins beyond the code point. -/
def has : Ranges → Nat → Bool
  | [], _ => false
  | (lo, hi) :: later, n => if n < lo then false else if n ≤ hi then true else has later n

/-- Every range begins beyond the bound and beyond the range before it. -/
def ascendingFrom : Nat → Ranges → Bool
  | _, [] => true
  | bound, (lo, hi) :: later => bound ≤ lo && lo ≤ hi && ascendingFrom (hi + 1) later

/-- Ordered and disjoint, as the early end of the search requires. -/
def ascending (ranges : Ranges) : Bool := ascendingFrom 0 ranges

theorem le_of_ascendingFrom {bound : Nat} {ranges : Ranges} (h : ascendingFrom bound ranges = true)
    {range : Nat × Nat} (hmem : range ∈ ranges) : bound ≤ range.1 := by
  induction ranges generalizing bound with
  | nil => simp at hmem
  | cons first later ih =>
    simp only [ascendingFrom, Bool.and_eq_true, decide_eq_true_eq] at h
    rcases List.mem_cons.1 hmem with rfl | hlater
    · exact h.1.1
    · have := ih h.2 hlater
      omega

/-- In an ordered list the early end of the search misses nothing. -/
theorem has_iff {ranges : Ranges} (h : ranges.ascending = true) (n : Nat) :
    ranges.has n = true ↔ ∃ range ∈ ranges, range.1 ≤ n ∧ n ≤ range.2 := by
  unfold ascending at h
  revert h
  generalize 0 = bound
  intro h
  induction ranges generalizing bound with
  | nil => simp [has]
  | cons first later ih =>
    obtain ⟨lo, hi⟩ := first
    simp only [ascendingFrom, Bool.and_eq_true, decide_eq_true_eq] at h
    have hlater := ih _ h.2
    have hbeyond : ∀ range ∈ later, hi + 1 ≤ range.1 := fun _ hm => le_of_ascendingFrom h.2 hm
    simp only [has, List.mem_cons, exists_eq_or_imp]
    split
    · next hn =>
      constructor
      · intro hf; simp at hf
      · rintro (hfirst | ⟨range, hm, hr⟩)
        · omega
        · have := hbeyond range hm; omega
    · next hn =>
      split
      · next hle => simp; exact .inl (by omega)
      · next hgt => rw [hlater]; constructor
                    · exact .inr
                    · rintro (hfirst | hr)
                      · omega
                      · exact hr

end Ranges

end CondDoc.Text

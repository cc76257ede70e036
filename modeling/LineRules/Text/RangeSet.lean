/-!
# Sets of code points as ranges

A set of code points is an ascending list of disjoint closed ranges.
-/

namespace LineRules.Text

/-- Membership in an ascending list of closed ranges; the search stops at the first
range that starts above the code point. -/
def inRanges : List (Nat × Nat) → Nat → Bool
  | [], _ => false
  | (low, high) :: rest, code =>
    if code < low then false
    else if code ≤ high then true
    else inRanges rest code

/-- A member lies in one of the ranges. -/
theorem exists_range_of_inRanges {ranges : List (Nat × Nat)} {code : Nat}
    (member : inRanges ranges code = true) :
    ∃ range ∈ ranges, range.1 ≤ code ∧ code ≤ range.2 := by
  induction ranges with
  | nil => simp [inRanges] at member
  | cons range rest hyp =>
    obtain ⟨low, high⟩ := range
    simp only [inRanges] at member
    split at member
    · contradiction
    · split at member
      · exact ⟨(low, high), by simp, by simp; omega⟩
      · obtain ⟨found, inRest, bounds⟩ := hyp member
        exact ⟨found, by simp [inRest], bounds⟩

end LineRules.Text

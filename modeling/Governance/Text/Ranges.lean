/-!
# Ranges of code points

A character class as an ascending list of closed, disjoint ranges. Membership stops at the first
range that lies above the code point.
-/

namespace Governance.Text

/-- Closed ranges of code points in ascending order. -/
abbrev Ranges := List (Nat × Nat)

/-- Whether some range holds the code point `n`. -/
def Ranges.has : Ranges → Nat → Bool
  | [], _ => false
  | (lo, hi) :: rest, n => if n < lo then false else if n ≤ hi then true else has rest n

theorem Ranges.has_nil (n : Nat) : Ranges.has [] n = false := rfl

theorem Ranges.exists_of_has {rs : Ranges} {n : Nat} (h : rs.has n = true) :
    ∃ r ∈ rs, r.1 ≤ n ∧ n ≤ r.2 := by
  induction rs with
  | nil => simp [has] at h
  | cons r rest ih =>
    obtain ⟨lo, hi⟩ := r
    unfold has at h
    split at h
    · simp at h
    · split at h
      · exact ⟨(lo, hi), by simp, by simp; omega⟩
      · obtain ⟨r, hr, hn⟩ := ih h
        exact ⟨r, by simp [hr], hn⟩

end Governance.Text

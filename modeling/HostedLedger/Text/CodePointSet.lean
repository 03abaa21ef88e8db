/-!
# Sets of code points

A set of code points is given by its boundaries in ascending order: the first code point inside,
the first one after it outside, the next one inside, and so on.

## Main definitions

* `CodePointSet.contains`: whether a set given by its boundaries holds a code point
-/

namespace HostedLedger

/-- A set of code points, as the ascending list of the places where membership changes. -/
abbrev CodePointSet := List Nat

namespace CodePointSet

/-- Whether an odd number of boundaries lies at or below the code point. -/
def contains (s : CodePointSet) (c : Nat) : Bool := (s.takeWhile (· ≤ c)).length % 2 = 1

@[simp] theorem contains_nil (c : Nat) : contains [] c = false := rfl

theorem contains_interval (low high c : Nat) :
    contains [low, high] c = decide (low ≤ c ∧ c < high) := by
  by_cases hl : low ≤ c <;> by_cases hh : high ≤ c <;>
    simp [contains, List.takeWhile, hl, hh, Nat.not_le.1]

end CodePointSet

end HostedLedger

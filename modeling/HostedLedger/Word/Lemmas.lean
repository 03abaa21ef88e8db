import HostedLedger.Word
import Mathlib.Algebra.GroupWithZero.Nat

/-!
# Sums of words

The sum of fewer than `2 ^ 64` words of 64 bits fits into 128 bits, and so does every sum on the way
to it.

## Main results

* `Word.sum_take_lt`: the sum over the first items of a list
-/

namespace HostedLedger

namespace Word

variable {α : Type}

theorem sum_toNat_le (f : α → UInt64) (xs : List α) :
    (xs.map fun x => (f x).toNat).sum ≤ xs.length * (UInt64.size - 1) := by
  induction xs with
  | nil => simp
  | cons x xs ih =>
    have hx := (f x).toNat_lt
    rw [List.map_cons, List.sum_cons, List.length_cons, Nat.succ_mul]
    simp only [UInt64.size] at ih ⊢
    omega

/-- With fewer than `2 ^ 64` items, every sum on the way to their sum fits into 128 bits. -/
theorem sum_take_lt (f : α → UInt64) {xs : List α} (h : xs.length < UInt64.size) (n : Nat) :
    ((xs.take n).map fun x => (f x).toNat).sum < 2 ^ 128 := by
  have hle := sum_toNat_le f (xs.take n)
  have hlength : (xs.take n).length ≤ xs.length := by
    rw [List.length_take]
    exact Nat.min_le_right _ _
  simp only [UInt64.size] at h hle
  omega

end Word

end HostedLedger

import HostedLedger.Bytes
import Mathlib.Algebra.Group.Nat.Defs
import Mathlib.Data.Nat.Digits.Defs

/-!
# Little-endian numbers

In a fixed number of bytes, writing a number and reading it back undo each other.

## Main results

* `Bytes.toNat_lt`: bytes stand for a number below the power of 256 to their count
* `Bytes.toNat_ofNat`, `Bytes.ofNat_toNat`: writing and reading undo each other
* `Bytes.ofNat_eq_map_range`, `Bytes.toNat_eq_ofDigits`: bytes are the digits to the base 256
* `Bytes.leadingUInt64?_ofUInt64_append`: a word is read off the front of what follows it
-/

namespace HostedLedger

namespace Bytes

/-- Each byte is the digit of the power of 256 that its place stands for. -/
theorem ofNat_eq_map_range (width n : Nat) :
    ofNat width n = (List.range width).map fun i => (n / 256 ^ i).toUInt8 := by
  induction width generalizing n with
  | zero => rfl
  | succ width ih =>
    rw [ofNat, ih, List.range_succ_eq_map, List.map_cons, List.map_map, Nat.pow_zero, Nat.div_one]
    simp only [Function.comp_def, Nat.div_div_eq_div_mul, Nat.pow_succ']

theorem toNat_eq_ofDigits (bs : Bytes) : toNat bs = Nat.ofDigits 256 (bs.map (·.toNat)) := by
  induction bs with
  | nil => rfl
  | cons b bs ih => rw [toNat, ih, List.map_cons, Nat.ofDigits_cons]

theorem toNat_lt (bs : Bytes) : toNat bs < 256 ^ bs.length := by
  induction bs with
  | nil => decide
  | cons b bs ih =>
    have hb := b.toNat_lt
    simp only [toNat, List.length_cons, Nat.pow_succ]
    omega

theorem toNat_ofNat {width n : Nat} (h : n < 256 ^ width) : toNat (ofNat width n) = n := by
  induction width generalizing n with
  | zero =>
    have : n = 0 := by simpa using h
    rw [this]
    rfl
  | succ width ih =>
    have small : n / 256 < 256 ^ width := by
      rw [Nat.div_lt_iff_lt_mul (by decide)]
      simpa [Nat.pow_succ] using h
    simp only [ofNat, toNat, ih small]
    have : n.toUInt8.toNat = n % 256 := by simp
    omega

theorem ofNat_toNat (bs : Bytes) : ofNat bs.length (toNat bs) = bs := by
  induction bs with
  | nil => rfl
  | cons b bs ih =>
    have hb := b.toNat_lt
    have low : (b.toNat + 256 * toNat bs).toUInt8 = b := by
      apply UInt8.toNat_inj.mp
      have : (b.toNat + 256 * toNat bs).toUInt8.toNat = (b.toNat + 256 * toNat bs) % 256 := by
        simp
      omega
    have high : (b.toNat + 256 * toNat bs) / 256 = toNat bs := by omega
    simp only [toNat, List.length_cons, ofNat, low, high, ih]

theorem toNat_ofUInt32 (n : UInt32) : toNat (ofUInt32 n) = n.toNat := toNat_ofNat n.toNat_lt

theorem toNat_ofUInt64 (n : UInt64) : toNat (ofUInt64 n) = n.toNat := toNat_ofNat n.toNat_lt

@[simp] theorem leadingUInt64?_ofUInt64_append (n : UInt64) (bs : Bytes) :
    leadingUInt64? (ofUInt64 n ++ bs) = some n := by
  simp [leadingUInt64?, toNat_ofUInt64]

end Bytes

end HostedLedger

/-!
# Checked words

Sums of 64-bit words that are refused where they would wrap.

## Main definitions

* `Word.add?`: the sum of two words, if it fits
* `Word.saturatingSucc`: the next word, or the largest one again

## Main results

* `Word.add?_eq_some_iff`: which sums fit, and what they are
* `Word.toNat_saturatingSucc`: below the largest word, the next word is the next number
-/

namespace HostedLedger

namespace Word

/-- The sum of two words, if it is a word. -/
def add? (x y : UInt64) : Option UInt64 :=
  if x.toNat + y.toNat < UInt64.size then some (x + y) else none

theorem add?_eq_some_iff {x y z : UInt64} :
    add? x y = some z ↔ x.toNat + y.toNat = z.toNat := by
  have hz : z.toNat < UInt64.size := z.toNat_lt
  constructor
  · intro h
    rw [add?] at h
    split at h
    · next hlt =>
      cases h
      rw [UInt64.toNat_add, Nat.mod_eq_of_lt hlt]
    · simp at h
  · intro h
    rw [add?, if_pos (by omega)]
    congr 1
    apply UInt64.toNat_inj.mp
    rw [UInt64.toNat_add, Nat.mod_eq_of_lt (h ▸ hz), h]

theorem add?_eq_none_iff {x y : UInt64} : add? x y = none ↔ UInt64.size ≤ x.toNat + y.toNat := by
  rw [add?]
  split <;> simp <;> omega

theorem toNat_pos_iff {x : UInt64} : 0 < x.toNat ↔ x ≠ 0 := by
  rw [Nat.pos_iff_ne_zero, Ne, Ne, ← UInt64.toNat_inj, UInt64.toNat_zero]

/-- The next word; the largest word stays as it is. -/
def saturatingSucc (x : UInt64) : UInt64 := (add? x 1).getD x

theorem toNat_saturatingSucc {x : UInt64} (h : x.toNat + 1 < UInt64.size) :
    (saturatingSucc x).toNat = x.toNat + 1 := by
  have hadd : add? x 1 = some (x + 1) := if_pos h
  rw [saturatingSucc, hadd, Option.getD_some, UInt64.toNat_add]
  exact Nat.mod_eq_of_lt h

end Word

end HostedLedger

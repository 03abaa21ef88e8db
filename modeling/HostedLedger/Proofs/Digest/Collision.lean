import HostedLedger.Digest.Basic
import Mathlib.Data.Set.Defs

/-!
# Collisions

A digest stands for a byte string as long as no other byte string has the same digest. Nothing
rules that out, so what digests commit to is stated with a collision as the other case, and the
collision is found among byte strings that have been hashed.

## Main definitions

* `Digest.Collides`: two different byte strings of a set have one digest

## Main results

* `Digest.eq_of_not_collides`: without a collision a digest stands for its byte string
-/

namespace HostedLedger

namespace Digest

/-- Two different byte strings of a set have one digest. -/
def Collides (hash : Bytes → Digest) (hashed : Set Bytes) : Prop :=
  ∃ x ∈ hashed, ∃ y ∈ hashed, x ≠ y ∧ hash x = hash y

theorem eq_of_not_collides {hash : Bytes → Digest} {hashed : Set Bytes}
    (distinct : ¬ Collides hash hashed) {x y : Bytes} (hx : x ∈ hashed) (hy : y ∈ hashed)
    (h : hash x = hash y) : x = y :=
  Classical.byContradiction fun hne => distinct ⟨x, hx, y, hy, hne, h⟩

end Digest

end HostedLedger

/-!
# Policies

What every ledger and every set of validators is held to.

## Main definitions

* `Policy`: whether empty blocks are sealed, and the least stake of a validator
-/

namespace HostedLedger

/-- The rules that an instance is made with. -/
structure Policy where
  /-- Whether a block without transactions may be sealed. -/
  allowEmptyBlocks : Bool := false
  /-- The smallest stake that a validator may have. -/
  minValidatorStake : UInt64 := 1
  deriving DecidableEq, Inhabited

end HostedLedger

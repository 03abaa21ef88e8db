import HostedLedger.Policy
import HostedLedger.Validator.Set

/-!
# Proposer rotations

A validator set with a count of rounds. Every round draws a proposer with its own number as seed.

## Main definitions

* `Rotation`: validators and the number of the next round
* `Rotation.next`: draws the proposer of the next round
* `Rotation.proposerAt`: the proposer that a height draws
-/

namespace HostedLedger

/-- Validators and the number of the next round. -/
structure Rotation where
  validators : ValidatorSet
  round : UInt64

namespace Rotation

/-- The rotation without validators, before its first round. -/
def new (policy : Policy) : Rotation := ⟨ValidatorSet.new policy.minValidatorStake, 0⟩

instance : Inhabited Rotation := ⟨new default⟩

/-- Adds a validator, or changes the stake of one that is there. -/
def add (r : Rotation) (address : String) (stake : UInt64) : Rotation × Except Error Unit :=
  match r.validators.add address stake with
  | (s, result) => ({ r with validators := s }, result)

/-- Removes a validator and answers with its record. -/
def remove (r : Rotation) (address : String) : Rotation × Except Error Validator :=
  match r.validators.remove address with
  | (s, result) => ({ r with validators := s }, result)

/-- Draws the proposer of the next round, and counts the proposal and the round. -/
def next (r : Rotation) : Rotation × Except Error String :=
  match r.validators.select r.round with
  | .error e => (r, .error e)
  | .ok v => (⟨r.validators.recordProposal v.address, r.round + 1⟩, .ok v.address)

/-- The address of the proposer that a height draws. -/
def proposerAt (r : Rotation) (height : UInt64) : Except Error String :=
  (r.validators.select height).map (·.address)

end Rotation

end HostedLedger

import HostedLedger.Address
import HostedLedger.Digest.Sha256
import HostedLedger.SortedMap.Basic
import HostedLedger.Word

/-!
# Validator sets

Validators hold stakes. A seed draws one of them, each with a chance in proportion to its stake:
the draw, reduced modulo the total stake, falls into the interval of exactly one validator when the
stakes are laid end to end in the order of the addresses.

## Main definitions

* `Validator`: an address with a stake
* `ValidatorSet`: validators by address
* `ValidatorSet.add`, `ValidatorSet.remove`: membership
* `ValidatorSet.totalStake`, `ValidatorSet.requiredSignatures`: what the set adds up to
* `ValidatorSet.draw`: the 128-bit number of a seed
* `ValidatorSet.covering?`: the validator whose interval holds a target
* `ValidatorSet.select`: the validator that a seed draws
-/

namespace HostedLedger

/-- An address with a stake. -/
structure Validator where
  address : String
  /-- The weight in the draw. -/
  stake : UInt64
  /-- How often the validator has been drawn as proposer of a round. -/
  blocksProposed : UInt64
  deriving DecidableEq

/-- Validators by address. -/
structure ValidatorSet where
  /-- The smallest stake that is accepted. -/
  minStake : UInt64
  members : SortedMap String Validator

namespace ValidatorSet

/-- The set without validators. -/
def new (minStake : UInt64) : ValidatorSet := ⟨minStake, ∅⟩

instance : Inhabited ValidatorSet := ⟨new 1⟩

/-- The validator at an address. -/
def get? (s : ValidatorSet) (address : String) : Option Validator := s.members.get? address

/-- The number of validators. -/
def size (s : ValidatorSet) : Nat := s.members.size

/-- Whether there is no validator. -/
def isEmpty (s : ValidatorSet) : Bool := s.members.isEmpty

/-- The validators in the order of their addresses. -/
def toList (s : ValidatorSet) : List Validator := s.members.values

/-- All stakes together. -/
def totalStake (s : ValidatorSet) : Nat := s.toList.foldr (fun v sum => v.stake.toNat + sum) 0

/-- The number of signatures that is more than two thirds of the validators. -/
def requiredSignatures (s : ValidatorSet) : Nat := s.size * 2 / 3 + 1

/-- Adds a validator, or changes the stake of one that is there. -/
def add (s : ValidatorSet) (address : String) (stake : UInt64) :
    ValidatorSet × Except Error Unit :=
  match Address.check "validator" address with
  | .error e => (s, .error (.parameter e))
  | .ok () =>
    if stake = 0 then
      (s, .error (.parameter .zeroStake))
    else if stake < s.minStake then
      (s, .error (.parameter (.stakeBelowMinimum stake s.minStake)))
    else
      let proposed := ((s.get? address).map (·.blocksProposed)).getD 0
      ({ s with members := s.members.insert address ⟨address, stake, proposed⟩ }, .ok ())

/-- Removes a validator and answers with its record. -/
def remove (s : ValidatorSet) (address : String) : ValidatorSet × Except Error Validator :=
  match s.get? address with
  | none => (s, .error (.unknownValidator address))
  | some v => ({ s with members := s.members.erase address }, .ok v)

/-- What is hashed for the draw of a seed. -/
def drawPreimage (seed : UInt64) : Bytes :=
  Utf8.encode "chainbridge/proposer" ++ Bytes.ofUInt64 seed

/-- The number that the first sixteen bytes of a digest spell. -/
def draw (seed : UInt64) : Nat := Bytes.toNat ((sha256 (drawPreimage seed)).bytes.take 16)

/-- The first validator of a list whose stake, laid after the others from `start` on, reaches
beyond the target. -/
def coveringFrom? (target start : Nat) : List Validator → Option Validator
  | [] => none
  | v :: vs =>
    if target < start + v.stake.toNat then some v
    else coveringFrom? target (start + v.stake.toNat) vs

/-- The validator whose interval holds a target. -/
def covering? (s : ValidatorSet) (target : Nat) : Option Validator :=
  coveringFrom? target 0 s.toList

/-- The validator that a seed draws. -/
def select (s : ValidatorSet) (seed : UInt64) : Except Error Validator :=
  if s.totalStake = 0 then
    .error .noValidators
  else
    let target := draw seed % s.totalStake
    match s.covering? target with
    | some v => .ok v
    | none => .error (.uncoveredTarget target s.totalStake)

/-- Counts one more proposal of a validator. -/
def recordProposal (s : ValidatorSet) (address : String) : ValidatorSet :=
  match s.get? address with
  | none => s
  | some v =>
    let counted := { v with blocksProposed := Word.saturatingSucc v.blocksProposed }
    { s with members := s.members.insert address counted }

end ValidatorSet

end HostedLedger

import HostedLedger.Error.Cause
import HostedLedger.Wire.Format

/-!
# Genesis accounts

The accounts that a ledger is seeded with.

## Main definitions

* `GenesisAccount`: an address and its balance
* `GenesisAccount.firstUnnamed?`: the first entry of a list without an address
* `GenesisAccount.checkAll`: refuses a list that has such an entry

## Main results

* `GenesisAccount.firstUnnamed?_eq_none_iff`: there is no such entry if every entry has an address
-/

namespace HostedLedger

/-- An address and the balance it starts with. -/
structure GenesisAccount where
  address : String
  balance : UInt64
  deriving DecidableEq

namespace GenesisAccount

/-- The address, then the balance. -/
def format : Format GenesisAccount :=
  (Format.text.pair Format.word64).iso (fun (address, balance) => ⟨address, balance⟩)
    (fun g => (g.address, g.balance))

/-- The place, counted from zero, of the first entry without an address. -/
def firstUnnamed? (accounts : List GenesisAccount) : Option Nat :=
  accounts.findIdx? fun g => g.address = ""

theorem firstUnnamed?_eq_none_iff {accounts : List GenesisAccount} :
    firstUnnamed? accounts = none ↔ ∀ g ∈ accounts, g.address ≠ "" := by
  simp [firstUnnamed?, List.findIdx?_eq_none_iff]

/-- Refuses a list with an entry without an address. -/
def checkAll (accounts : List GenesisAccount) : Except ParameterError Unit :=
  match firstUnnamed? accounts with
  | some index => .error (.emptyGenesisAddress index)
  | none => .ok ()

end GenesisAccount

end HostedLedger

import HostedLedger.Bytes
import HostedLedger.Merkle
import HostedLedger.SortedMap.Basic
import HostedLedger.Text.Utf8

/-!
# Accounts

The balance of an address and the number of transactions that it has made.

## Main definitions

* `Account`: a balance and a nonce
* `Account.leaf`: the bytes that stand for an account in the state root
* `Accounts`: the accounts by address, in the order of the UTF-8 bytes of the addresses
* `Accounts.stateRoot`, `Accounts.supply`: the root over all accounts, and their balances in sum
-/

namespace HostedLedger

/-- What an address holds. -/
structure Account where
  balance : UInt64
  /-- The number of transactions that the address has made. -/
  nonce : UInt64
  deriving DecidableEq

namespace Account

/-- An account that has made no transaction. -/
def fresh (balance : UInt64) : Account := ⟨balance, 0⟩

instance : Inhabited Account := ⟨fresh 0⟩

/-- The balance and the nonce, in eight bytes each. -/
def leaf (a : Account) : Bytes := Bytes.ofUInt64 a.balance ++ Bytes.ofUInt64 a.nonce

@[simp] theorem length_leaf (a : Account) : a.leaf.length = 16 := by simp [leaf]

end Account

/-- Accounts by address. -/
abbrev Accounts := SortedMap String Account

namespace Accounts

/-- The tree with a leaf for every account. -/
def tree (accounts : Accounts) : MerkleTree :=
  SortedMap.insertMany ∅ (accounts.entries.map fun e => (Utf8.encode e.1, e.2.leaf))

/-- The root over all accounts. -/
def stateRoot (accounts : Accounts) : Digest := accounts.tree.root

/-- All balances together. -/
def supply (accounts : Accounts) : Nat :=
  accounts.values.foldr (fun a sum => a.balance.toNat + sum) 0

end Accounts

end HostedLedger

import HostedLedger.Account.Genesis
import HostedLedger.Address
import HostedLedger.Block
import HostedLedger.Policy
import HostedLedger.Transfer

/-!
# Ledgers

A ledger holds accounts, the transactions that have been accepted since the last block, and the
chain of sealed blocks. An accepted transaction changes the accounts at once and waits in the pool;
sealing makes a block of the pool. A call that is refused leaves the ledger as it was.

## Main definitions

* `Ledger`: accounts, pool and chain under a policy
* `Ledger.initAccount`, `Ledger.seed`: set balances
* `Ledger.apply`: a transaction
* `Ledger.sealBlock`: a block of the waiting transactions
* `Ledger.height`, `Ledger.latestHash`, `Ledger.block?`: the chain
* `Ledger.stateRoot`, `Ledger.supply`, `Ledger.balance`, `Ledger.nonce`: the accounts
-/

namespace HostedLedger

/-- Accounts, pool and chain. -/
structure Ledger where
  policy : Policy
  accounts : Accounts
  /-- The accepted transactions that no block holds yet, oldest first. -/
  pending : List Transaction
  /-- The sealed blocks, oldest first. -/
  chain : List Block

namespace Ledger

/-- The ledger without accounts and blocks. -/
def new (policy : Policy) : Ledger := ⟨policy, ∅, [], []⟩

instance : Inhabited Ledger := ⟨new default⟩

/-! ### Accounts -/

/-- The account of an address. -/
def account? (l : Ledger) (address : String) : Option Account := l.accounts.get? address

/-- The balance of an address; zero if it has no account. -/
def balance (l : Ledger) (address : String) : UInt64 :=
  ((l.account? address).map (·.balance)).getD 0

/-- The nonce of an address; zero if it has no account. -/
def nonce (l : Ledger) (address : String) : UInt64 :=
  ((l.account? address).map (·.nonce)).getD 0

/-- All balances together. -/
def supply (l : Ledger) : Nat := l.accounts.supply

/-- The root over all accounts. -/
def stateRoot (l : Ledger) : Digest := l.accounts.stateRoot

/-- Gives an address a balance; its nonce stays as it is. -/
def initAccount (l : Ledger) (address : String) (balance : UInt64) : Ledger × Except Error Unit :=
  match Address.check "account" address with
  | .error e => (l, .error (.parameter e))
  | .ok () =>
    ({ l with accounts := l.accounts.insert address ⟨balance, l.nonce address⟩ }, .ok ())

/-- Gives the addresses of a list their balances, one after the other, up to the first refusal. -/
def seed (l : Ledger) : List GenesisAccount → Ledger × Except Error Unit
  | [] => (l, .ok ())
  | g :: gs =>
    match l.initAccount g.address g.balance with
    | (l, .error e) => (l, .error e)
    | (l, .ok ()) => l.seed gs

/-! ### Transactions -/

/-- Carries out a transaction and puts it into the pool. -/
def apply (l : Ledger) (tx : Transaction) : Ledger × Except Error Unit :=
  match (Overlay.ofAccounts l.accounts).transfer tx with
  -- The overlay of a rejected transaction is dropped, whatever has been written to it.
  | (_, .error e) => (l, .error (.transfer e))
  | (o, .ok ()) => ({ l with accounts := o.commit, pending := l.pending ++ [tx] }, .ok ())

/-! ### Blocks -/

/-- The number of sealed blocks. -/
def height (l : Ledger) : UInt64 := UInt64.ofNat l.chain.length

/-- The hash of the last block; zero if there is none. -/
def latestHash (l : Ledger) : Digest := (l.chain.getLast?.map (·.hash)).getD Digest.zero

/-- The block at a height; heights are counted from one. -/
def block? (l : Ledger) (height : UInt64) : Option Block :=
  if height = 0 then none else l.chain[height.toNat - 1]?

/-- The block that the pool makes on top of the chain. -/
def nextBlock (l : Ledger) (proposer : String) : Except EncodeError Block := do
  let txHashes ← l.pending.mapM Transaction.hash
  let hash ← Block.digest l.latestHash (l.height + 1) proposer txHashes
  return {
    height := l.height + 1
    prevHash := l.latestHash
    hash
    proposer
    stateRoot := l.stateRoot
    txRoot := Merkle.orderedRoot txHashes
    transactions := l.pending }

/-- Seals the pool into a block. -/
def sealBlock (l : Ledger) (proposer : String) : Ledger × Except Error Block :=
  match Address.check "validator" proposer with
  | .error e => (l, .error (.parameter e))
  | .ok () =>
    if l.pending.isEmpty && !l.policy.allowEmptyBlocks then
      (l, .error .emptyBlock)
    else
      match l.nextBlock proposer with
      | .error e => (l, .error (.encode e))
      | .ok block => ({ l with pending := [], chain := l.chain ++ [block] }, .ok block)

end Ledger

end HostedLedger

import HostedLedger.Account.Basic

/-!
# Overlays

Writes to accounts that are not yet part of the accounts below. Reading sees the writes first.

## Main definitions

* `Overlay`: accounts with writes on top
* `Overlay.get?`, `Overlay.set`: reading and writing through an overlay
* `Overlay.commit`: the accounts after the writes
-/

namespace HostedLedger

/-- Accounts with writes on top. -/
structure Overlay where
  /-- The accounts below. -/
  committed : Accounts
  /-- The last write to each address. -/
  writes : Accounts

namespace Overlay

/-- The overlay without writes. -/
def ofAccounts (accounts : Accounts) : Overlay := ⟨accounts, ∅⟩

/-- The account that an address has, writes included. -/
def get? (o : Overlay) (address : String) : Option Account :=
  o.writes.get? address <|> o.committed.get? address

/-- Writes an account. -/
def set (o : Overlay) (address : String) (account : Account) : Overlay :=
  { o with writes := o.writes.insert address account }

/-- The number of addresses that have been written. -/
def size (o : Overlay) : Nat := o.writes.size

/-- Whether nothing has been written. -/
def isEmpty (o : Overlay) : Bool := o.writes.isEmpty

/-- The accounts after the writes. -/
def commit (o : Overlay) : Accounts := o.committed.insertMany o.writes.entries

end Overlay

end HostedLedger

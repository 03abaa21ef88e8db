import HostedLedger.Transaction

/-!
# Blocks

A block seals a list of transactions on top of the block before it. Its hash commits to that
block's hash, to its own height and proposer, and to its transactions.

## Main definitions

* `Block`: a sealed list of transactions
* `Block.preimage`: what is hashed for a block
* `Block.digest`: the hash of a block with the given contents
-/

namespace HostedLedger

/-- A sealed list of transactions. -/
structure Block where
  /-- The place in the chain, counted from one. -/
  height : UInt64
  /-- The hash of the block before; zero for the first block. -/
  prevHash : Digest
  hash : Digest
  proposer : String
  /-- The root over the accounts after the block. -/
  stateRoot : Digest
  /-- The root over the hashes of the transactions. -/
  txRoot : Digest
  transactions : List Transaction
  deriving DecidableEq

namespace Block

/-- The number of transactions. -/
def txCount (b : Block) : Nat := b.transactions.length

/-- Whether there is no transaction. -/
def isEmpty (b : Block) : Bool := b.transactions.isEmpty

/-- The layout of what is hashed: the hash before, the height, the proposer and the hashes of the
transactions. -/
def preimageFormat : Format (Digest × UInt64 × String × List Digest) :=
  Format.digest.pair <| Format.word64.pair <| Format.text.pair <| Format.sequence 32 Format.digest

/-- What is hashed for a block. -/
def preimage (prevHash : Digest) (height : UInt64) (proposer : String) (txHashes : List Digest) :
    Except EncodeError Bytes :=
  preimageFormat.write (prevHash, height, proposer, txHashes)

/-- The hash of a block with the given contents. -/
def digest (prevHash : Digest) (height : UInt64) (proposer : String) (txHashes : List Digest) :
    Except EncodeError Digest := do
  let bs ← preimage prevHash height proposer txHashes
  return sha256 bs

end Block

end HostedLedger

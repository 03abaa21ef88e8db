import HostedLedger.Digest.Sha256
import HostedLedger.Wire.Format
import HostedLedger.Word

/-!
# Transactions

A transaction moves an amount from one address to another and burns a fee. Its digest commits to
every field.

## Main definitions

* `Transaction`: a transfer of value
* `Transaction.cost?`: what it takes from the sender
* `Transaction.format`: its written form
* `Transaction.hash`: the SHA-256 digest of the written form
-/

namespace HostedLedger

/-- A transfer of value. -/
structure Transaction where
  sender : String
  recipient : String
  /-- What the recipient is credited with. -/
  amount : UInt64
  /-- What the sender pays on top, to nobody. -/
  gasFee : UInt64
  /-- A time that the sender chooses; it has no effect. -/
  timestamp : UInt64
  /-- The number of transactions that the sender has made before. -/
  nonce : UInt64
  /-- Bytes that are carried along and have no effect. -/
  signature : Bytes
  deriving DecidableEq

namespace Transaction

/-- The amount and the fee together, if they fit in a word. -/
def cost? (tx : Transaction) : Option UInt64 := Word.add? tx.amount tx.gasFee

/-- The fields in order: sender, recipient, amount, fee, timestamp, nonce, signature. -/
def format : Format Transaction :=
  (Format.text.pair <| Format.text.pair <| Format.word64.pair <| Format.word64.pair <|
    Format.word64.pair <| Format.word64.pair Format.blob).iso
    (fun (sender, recipient, amount, gasFee, timestamp, nonce, signature) =>
      { sender, recipient, amount, gasFee, timestamp, nonce, signature })
    (fun tx =>
      (tx.sender, tx.recipient, tx.amount, tx.gasFee, tx.timestamp, tx.nonce, tx.signature))

/-- The written form of a transaction. -/
def encode (tx : Transaction) : Except EncodeError Bytes := format.write tx

/-- The transaction with the given written form. -/
def decode (bs : Bytes) : Except DecodeError Transaction := format.decode bs

/-- The digest of the written form. -/
def hash (tx : Transaction) : Except EncodeError Digest := do
  let bs ← tx.encode
  return sha256 bs

end Transaction

end HostedLedger

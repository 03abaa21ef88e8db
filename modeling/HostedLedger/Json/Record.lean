import HostedLedger.Block
import HostedLedger.Account.Genesis
import HostedLedger.Account.Basic
import HostedLedger.Json.Text
import HostedLedger.Policy
import HostedLedger.Record
import HostedLedger.Validator.Set

/-!
# Records in JSON

Transactions, blocks, accounts, validators and policies as JSON. A record is written as an object
with its fields in a fixed order. It is read from an object with its fields in any order, or from an
array of their values in the fixed order; names that it does not have are passed over.

## Main definitions

* `Json.uint64?`, `Json.text?`, `Json.list?`: the value of a number, a text, an array
* `Json.fieldsOf?`: the fields of a record
* `JsonRecord`: a type that is written and read as a record
* `JsonRecord.normalise?`: the text of a record read from a text
-/

namespace HostedLedger

namespace Json

/-- The number of a literal, if it has only digits. -/
def natural? : Json → Option Nat
  | number literal =>
    if literal.toList.all Char.isDigit then
      some (literal.toList.foldl (fun n c => 10 * n + (c.toNat - 48)) 0)
    else
      none
  | _ => none

/-- A 64-bit word. -/
def uint64? (j : Json) : Option UInt64 := do
  let n ← j.natural?
  if n < UInt64.size then some (UInt64.ofNat n) else none

/-- A byte. -/
def byte? (j : Json) : Option UInt8 := do
  let n ← j.natural?
  if n < 256 then some (UInt8.ofNat n) else none

/-- A truth value. -/
def bool? : Json → Option Bool
  | bool b => some b
  | _ => none

/-- A well-formed text. -/
def text? : Json → Option String
  | text s => s
  | _ => none

/-- An array whose items are all read. -/
def list? {α : Type} (read : Json → Option α) : Json → Option (List α)
  | array items => items.mapM read
  | _ => none

/-- A byte string, as an array of numbers. -/
def bytes? : Json → Option Bytes := list? byte?

/-- A digest, as an array of 32 numbers. -/
def digest? (j : Json) : Option Digest := do Digest.ofBytes? (← j.bytes?)

/-- A byte string, as an array of numbers. -/
def ofBytes (bs : Bytes) : Json := array (bs.map fun b => number (Text.decimal b.toNat))

/-- The fields of a record with the given names, from an object or from an array. -/
def fieldsOf? (names : List String) : Json → Option (List (String × Json))
  | object fields => fields.mapM fun (k, v) => do return (← k, v)
  | array items => if items.length ≤ names.length then some (names.zip items) else none
  | _ => none

end Json

/-- A type whose values are written and read as records. -/
class JsonRecord (α : Type) where
  /-- The value of a record, if it has one. -/
  ofJson? : Json → Option α
  /-- The record of a value. -/
  toJson : α → Json

open Json Record

instance : JsonRecord Transaction where
  ofJson? j := do
    let fs ← j.fieldsOf? ["from", "to", "amount", "gas_fee", "timestamp", "nonce", "signature"]
    return {
      sender := ← required? fs "from" text?
      recipient := ← required? fs "to" text?
      amount := ← required? fs "amount" uint64?
      gasFee := ← required? fs "gas_fee" uint64?
      timestamp := ← required? fs "timestamp" uint64?
      nonce := ← required? fs "nonce" uint64?
      signature := ← withDefault? fs "signature" bytes? [] }
  toJson tx := record
    [("from", string tx.sender), ("to", string tx.recipient), ("amount", word tx.amount),
      ("gas_fee", word tx.gasFee), ("timestamp", word tx.timestamp), ("nonce", word tx.nonce),
      ("signature", ofBytes tx.signature)]

instance : JsonRecord Block where
  ofJson? j := do
    let fs ← j.fieldsOf?
      ["height", "prev_hash", "hash", "proposer", "state_root", "tx_root", "transactions"]
    return {
      height := ← required? fs "height" uint64?
      prevHash := ← required? fs "prev_hash" digest?
      hash := ← required? fs "hash" digest?
      proposer := ← required? fs "proposer" text?
      stateRoot := ← required? fs "state_root" digest?
      txRoot := ← required? fs "tx_root" digest?
      transactions := ← required? fs "transactions" (list? JsonRecord.ofJson?) }
  toJson b := record
    [("height", word b.height), ("prev_hash", ofBytes b.prevHash.bytes),
      ("hash", ofBytes b.hash.bytes), ("proposer", string b.proposer),
      ("state_root", ofBytes b.stateRoot.bytes), ("tx_root", ofBytes b.txRoot.bytes),
      ("transactions", array (b.transactions.map JsonRecord.toJson))]

instance : JsonRecord Account where
  ofJson? j := do
    let fs ← j.fieldsOf? ["balance", "nonce"]
    return ⟨← required? fs "balance" uint64?, ← required? fs "nonce" uint64?⟩
  toJson a := record [("balance", word a.balance), ("nonce", word a.nonce)]

instance : JsonRecord Validator where
  ofJson? j := do
    let fs ← j.fieldsOf? ["address", "stake", "blocks_proposed"]
    return {
      address := ← required? fs "address" text?
      stake := ← required? fs "stake" uint64?
      blocksProposed := ← withDefault? fs "blocks_proposed" uint64? 0 }
  toJson v := record
    [("address", string v.address), ("stake", word v.stake),
      ("blocks_proposed", word v.blocksProposed)]

instance : JsonRecord GenesisAccount where
  ofJson? j := do
    let fs ← j.fieldsOf? ["address", "balance"]
    return ⟨← required? fs "address" text?, ← required? fs "balance" uint64?⟩
  toJson g := record [("address", string g.address), ("balance", word g.balance)]

instance : JsonRecord Policy where
  ofJson? j := do
    let fs ← j.fieldsOf? ["allow_empty_blocks", "min_validator_stake"]
    let p : Policy := {}
    return {
      allowEmptyBlocks := ← withDefault? fs "allow_empty_blocks" bool? p.allowEmptyBlocks
      minValidatorStake := ← withDefault? fs "min_validator_stake" uint64? p.minValidatorStake }
  toJson p := record
    [("allow_empty_blocks", bool p.allowEmptyBlocks),
      ("min_validator_stake", word p.minValidatorStake)]

/-- The text of the record that a text describes. -/
def JsonRecord.normalise? (α : Type) [JsonRecord α] (s : String) : Option String := do
  let x : α ← JsonRecord.ofJson? (← Json.ofText? s)
  return (JsonRecord.toJson x).render

end HostedLedger

import HostedLedger.Account.Genesis
import HostedLedger.Digest.Basic

/-!
# Messages

What a host asks of a ledger, and what it is answered. A message is written as a byte that tells
its kind, followed by its fields; an answer has the same byte as the request.

## Main definitions

* `Request`, `Response`: the messages
* `Request.tag`, `Response.tag`: the byte of the kind
* `Request.format`, `Response.format`: the written forms
* `ResponseCode`: the codes of the answers to transactions and queries
-/

namespace HostedLedger

/-- What a host asks. -/
inductive Request
  /-- The height and the hashes. -/
  | info
  /-- Sets the balances of accounts; the validators are only looked at. -/
  | initChain (validators : List String) (accounts : List GenesisAccount)
  /-- Opens a block. -/
  | beginBlock (height : UInt64) (proposer : String)
  /-- Hands over a written transaction. -/
  | deliverTx (tx : Bytes)
  /-- Says that the block has all its transactions. -/
  | endBlock (height : UInt64)
  /-- Seals the block. -/
  | commit
  /-- Asks for a value by its path. -/
  | query (path : String) (data : Bytes)
  deriving DecidableEq

/-- What a host is answered. -/
inductive Response
  | info (height : UInt64) (latestHash appHash : Digest)
  | initChain
  | beginBlock
  | deliverTx (code : UInt32) (log : String)
  | endBlock (validatorUpdates : List String)
  | commit (height : UInt64) (appHash : Digest)
  | query (code : UInt32) (value : Bytes) (log : String)
  deriving DecidableEq

namespace ResponseCode

/-- The transaction is accepted, or the path is known. -/
def ok : UInt32 := 0

/-- The transaction is rejected, or the path is unknown. -/
def rejected : UInt32 := 1

/-- The bytes are no transaction. -/
def badEncoding : UInt32 := 2

end ResponseCode

namespace Request

/-- The byte that tells the kind of a request. -/
def tag : Request → UInt8
  | info => 1
  | initChain .. => 2
  | beginBlock .. => 3
  | deliverTx .. => 4
  | endBlock .. => 5
  | commit => 6
  | query .. => 7

/-- The name of the kind of a request. -/
def name : Request → String
  | info => "info"
  | initChain .. => "init_chain"
  | beginBlock .. => "begin_block"
  | deliverTx .. => "deliver_tx"
  | endBlock .. => "end_block"
  | commit => "commit"
  | query .. => "query"

/-- The fields of `initChain`. -/
def initChainFields : Format (List String × List GenesisAccount) :=
  (Format.sequence 4 Format.text).pair (Format.sequence 12 GenesisAccount.format)

/-- The fields of `beginBlock`. -/
def beginBlockFields : Format (UInt64 × String) := Format.word64.pair Format.text

/-- The fields of `query`. -/
def queryFields : Format (String × Bytes) := Format.text.pair Format.blob

/-- The written form of the fields of a request. -/
def writeFields : Request → Except EncodeError Bytes
  | info => .ok []
  | initChain validators accounts => initChainFields.write (validators, accounts)
  | beginBlock height proposer => beginBlockFields.write (height, proposer)
  | deliverTx tx => Format.blob.write tx
  | endBlock height => Format.word64.write height
  | commit => .ok []
  | query path data => queryFields.write (path, data)

/-- Reads the fields of the kind of request that a byte tells. -/
def readFields (tag : UInt8) (bs : Bytes) : Except DecodeError (Request × Bytes) :=
  match tag with
  | 1 => .ok (info, bs)
  | 2 => do
    let ((validators, accounts), rest) ← initChainFields.read bs
    return (initChain validators accounts, rest)
  | 3 => do
    let ((height, proposer), rest) ← beginBlockFields.read bs
    return (beginBlock height proposer, rest)
  | 4 => do
    let (tx, rest) ← Format.blob.read bs
    return (deliverTx tx, rest)
  | 5 => do
    let (height, rest) ← Format.word64.read bs
    return (endBlock height, rest)
  | 6 => .ok (commit, bs)
  | 7 => do
    let ((path, data), rest) ← queryFields.read bs
    return (query path data, rest)
  | _ => .error (.unknownRequestTag tag)

/-- The byte of the kind, then the fields. -/
def format : Format Request where
  write r := do
    let fields ← r.writeFields
    return r.tag :: fields
  read bs := do
    let (tag, rest) ← Format.byte.read bs
    readFields tag rest

/-- The written form of a request. -/
def encode (r : Request) : Except EncodeError Bytes := format.write r

/-- The request with the given written form. -/
def decode (bs : Bytes) : Except DecodeError Request := format.decode bs

end Request

namespace Response

/-- The byte that tells the kind of a response. -/
def tag : Response → UInt8
  | info .. => 1
  | initChain => 2
  | beginBlock => 3
  | deliverTx .. => 4
  | endBlock .. => 5
  | commit .. => 6
  | query .. => 7

/-- The fields of `info`. -/
def infoFields : Format (UInt64 × Digest × Digest) :=
  Format.word64.pair <| Format.digest.pair Format.digest

/-- The fields of `deliverTx`. -/
def deliverTxFields : Format (UInt32 × String) := Format.word32.pair Format.text

/-- The fields of `endBlock`. -/
def endBlockFields : Format (List String) := Format.sequence 4 Format.text

/-- The fields of `commit`. -/
def commitFields : Format (UInt64 × Digest) := Format.word64.pair Format.digest

/-- The fields of `query`. -/
def queryFields : Format (UInt32 × Bytes × String) :=
  Format.word32.pair <| Format.blob.pair Format.text

/-- The written form of the fields of a response. -/
def writeFields : Response → Except EncodeError Bytes
  | info height latestHash appHash => infoFields.write (height, latestHash, appHash)
  | initChain => .ok []
  | beginBlock => .ok []
  | deliverTx code log => deliverTxFields.write (code, log)
  | endBlock validatorUpdates => endBlockFields.write validatorUpdates
  | commit height appHash => commitFields.write (height, appHash)
  | query code value log => queryFields.write (code, value, log)

/-- Reads the fields of the kind of response that a byte tells. -/
def readFields (tag : UInt8) (bs : Bytes) : Except DecodeError (Response × Bytes) :=
  match tag with
  | 1 => do
    let ((height, latestHash, appHash), rest) ← infoFields.read bs
    return (info height latestHash appHash, rest)
  | 2 => .ok (initChain, bs)
  | 3 => .ok (beginBlock, bs)
  | 4 => do
    let ((code, log), rest) ← deliverTxFields.read bs
    return (deliverTx code log, rest)
  | 5 => do
    let (validatorUpdates, rest) ← endBlockFields.read bs
    return (endBlock validatorUpdates, rest)
  | 6 => do
    let ((height, appHash), rest) ← commitFields.read bs
    return (commit height appHash, rest)
  | 7 => do
    let ((code, value, log), rest) ← queryFields.read bs
    return (query code value log, rest)
  | _ => .error (.unknownResponseTag tag)

/-- The byte of the kind, then the fields. -/
def format : Format Response where
  write r := do
    let fields ← r.writeFields
    return r.tag :: fields
  read bs := do
    let (tag, rest) ← Format.byte.read bs
    readFields tag rest

/-- The written form of a response. -/
def encode (r : Response) : Except EncodeError Bytes := format.write r

/-- The response with the given written form. -/
def decode (bs : Bytes) : Except DecodeError Response := format.decode bs

end Response

end HostedLedger

import HostedLedger.Application.Query
import HostedLedger.Error.Report

/-!
# Applications

A ledger together with the block that a host has open on it. The host opens a block, hands over its
transactions, says that they are complete and has the block sealed; between blocks it may set
balances, and it may ask questions at any time.

## Main definitions

* `OpenBlock`: a block that has been opened and not sealed
* `Application`: a ledger and the open block
* `Application.handle`: the answer to a request
* `Application.process`: the answer to a written request, in writing
-/

namespace HostedLedger

/-- A block that has been opened and not sealed. -/
structure OpenBlock where
  height : UInt64
  proposer : String
  /-- Whether all its transactions have been handed over. -/
  ended : Bool
  deriving DecidableEq

/-- A ledger and the block that is open on it. -/
structure Application where
  ledger : Ledger
  openBlock : Option OpenBlock

namespace Application

/-- A ledger without an open block. -/
def ofLedger (ledger : Ledger) : Application := ⟨ledger, none⟩

instance : Inhabited Application := ⟨ofLedger default⟩

/-- The height of the open block. -/
def openHeight (a : Application) : Option UInt64 := a.openBlock.map (·.height)

/-- Refuses the first validator without an address. -/
def checkValidators : List String → Except ParameterError Unit
  | [] => .ok ()
  | v :: vs =>
    match Address.check "validator" v with
    | .error e => .error e
    | .ok () => checkValidators vs

/-- Sets the balances of accounts, if every validator and every account has an address. -/
def initChain (a : Application) (validators : List String) (accounts : List GenesisAccount) :
    Application × Except Error Response :=
  match checkValidators validators with
  | .error e => (a, .error (.parameter e))
  | .ok () =>
    match GenesisAccount.checkAll accounts with
    | .error e => (a, .error (.parameter e))
    | .ok () =>
      match a.ledger.seed accounts with
      | (l, .error e) => ({ a with ledger := l }, .error e)
      | (l, .ok ()) => ({ a with ledger := l }, .ok .initChain)

/-- Opens the next block. -/
def beginBlock (a : Application) (height : UInt64) (proposer : String) :
    Application × Except Error Response :=
  match a.openBlock with
  | some b => (a, .error (.session (.alreadyOpen b.height)))
  | none =>
    let expected := a.ledger.height + 1
    if height ≠ expected then
      (a, .error (.session (.beginHeight expected height)))
    else
      match Address.check "proposer" proposer with
      | .error e => (a, .error (.parameter e))
      | .ok () => ({ a with openBlock := some ⟨height, proposer, false⟩ }, .ok .beginBlock)

/-- Carries out a transaction of the open block. What is wrong with it is told in the answer. -/
def deliverTx (a : Application) (raw : Bytes) : Application × Except Error Response :=
  match a.openBlock with
  | none => (a, .error (.session .deliverUnopened))
  | some b =>
    if b.ended then
      (a, .error (.session (.deliverEnded b.height)))
    else
      match Transaction.decode raw with
      | .error e => (a, .ok (.deliverTx ResponseCode.badEncoding (Error.decode e).message))
      | .ok tx =>
        match a.ledger.apply tx with
        | (l, .error e) =>
          ({ a with ledger := l }, .ok (.deliverTx ResponseCode.rejected e.message))
        | (l, .ok ()) => ({ a with ledger := l }, .ok (.deliverTx ResponseCode.ok ""))

/-- Ends the open block. -/
def endBlock (a : Application) (height : UInt64) : Application × Except Error Response :=
  match a.openBlock with
  | none => (a, .error (.session .endUnopened))
  | some b =>
    if b.height ≠ height then
      (a, .error (.session (.endHeight b.height height)))
    else if b.ended then
      (a, .error (.session (.endRepeated height)))
    else
      ({ a with openBlock := some { b with ended := true } }, .ok (.endBlock []))

/-- Seals the open block. A block that cannot be sealed stays open. -/
def commit (a : Application) : Application × Except Error Response :=
  match a.openBlock with
  | none => (a, .error (.session .commitUnopened))
  | some b =>
    match a.ledger.sealBlock b.proposer with
    | (l, .error e) => ({ a with ledger := l }, .error e)
    | (l, .ok block) => (⟨l, none⟩, .ok (.commit block.height block.stateRoot))

/-- The answer to a request. -/
def handle (a : Application) : Request → Application × Except Error Response
  | .info => (a, .ok (.info a.ledger.height a.ledger.latestHash a.ledger.stateRoot))
  | .initChain validators accounts => a.initChain validators accounts
  | .beginBlock height proposer => a.beginBlock height proposer
  | .deliverTx tx => a.deliverTx tx
  | .endBlock height => a.endBlock height
  | .commit => a.commit
  | .query path _ => (a, .ok (a.ledger.query path))

/-- The answer to a written request, in writing. -/
def process (a : Application) (request : Bytes) : Application × Except Error Bytes :=
  match Request.decode request with
  | .error e => (a, .error (.decode e))
  | .ok r =>
    match a.handle r with
    | (a, .error e) => (a, .error e)
    | (a, .ok response) => (a, response.encode.mapError .encode)

end Application

end HostedLedger

import HostedLedger.Config.Document
import HostedLedger.Foreign.Argument
import HostedLedger.Foreign.HandleTable

/-!
# Bridges

The calls by which a foreign caller sets up instances and uses them. Every call has a value in band
and a report on how it went. The value of a call that fails is fixed for each call: zero, false or
nothing.

A call first needs the bridge to be initialised, then a handle of the right kind, then arguments
that can be read; only then is the instance asked. Calls that initialise a bridge may read a
document, and how they read it is an argument of all calls.

## Main definitions

* `CallReport`: how a call went
* `Value`, `Reply`: what a call gives
* `Call`: the calls
* `Bridge`: the configuration and the instances
* `Bridge.call`: what a call does and gives
-/

namespace HostedLedger

/-! ### Replies -/

/-- How a call went, with a message about a failure. -/
structure CallReport where
  status : Status
  message : Option String
  deriving DecidableEq

namespace CallReport

/-- The report on a call that succeeded; also what is left of a report that has been released. -/
def success : CallReport := ⟨.success, none⟩

/-- A text without the character NUL, which is written as a backslash and a zero. -/
def escapeNul (s : String) : String :=
  String.ofList (s.toList.flatMap fun c => if c = '\x00' then ['\\', '0'] else [c])

/-- The message to hand back for a text; none if it could not be handed back. -/
def messageOf (s : String) : Option String := (ForeignText.write (escapeNul s)).toOption

/-- The report on a call that failed. -/
def failure (r : Report) : CallReport := ⟨.failure r.kind, messageOf r.text⟩

/-- Releases the message. -/
def release (_ : CallReport) : CallReport := success

end CallReport

/-- What a call gives in band. -/
inductive Value
  /-- The call gives nothing but its report. -/
  | nothing
  | handle (h : Handle)
  | word (n : UInt64)
  | flag (b : Bool)
  | text (s : Option String)
  /-- A byte string; an empty one has no memory. -/
  | buffer (bs : Bytes)
  deriving DecidableEq

/-- What a call gives. -/
structure Reply where
  value : Value
  report : CallReport
  deriving DecidableEq

/-- The reply of a call: the fallback is the value of a failure. -/
def Reply.of (fallback : Value) : Except Error Value → Reply
  | .ok v => ⟨v, CallReport.success⟩
  | .error e => ⟨fallback, CallReport.failure e.report⟩

/-! ### Calls -/

/-- What a caller may ask of a bridge. -/
inductive Call
  | initialise (source : ConfigSource)
  | shutdown
  | blockchainNew
  | blockchainDestroy (h : Handle)
  | height (h : Handle)
  | latestHash (h : Handle)
  | addTransaction (h : Handle) (tx : ForeignTransaction)
  | balance (h : Handle) (address : ForeignText)
  | nonce (h : Handle) (address : ForeignText)
  | initAccount (h : Handle) (address : ForeignText) (balance : UInt64)
  | createBlock (h : Handle) (validator : ForeignText)
  | consensusNew
  | consensusDestroy (h : Handle)
  | addValidator (h : Handle) (address : ForeignText) (stake : UInt64)
  | removeValidator (h : Handle) (address : ForeignText)
  | selectProposer (h : Handle)
  | selectProposerForHeight (h : Handle) (height : UInt64)
  | process (h : Handle) (request : ForeignBuffer)
  /-- Releases an absent text, buffer or report. -/
  | releaseNothing

namespace Call

/-- The value of a call that fails. -/
def fallback : Call → Value
  | blockchainNew | consensusNew => .handle 0
  | height _ | balance .. | nonce .. | createBlock .. => .word 0
  | addTransaction .. | initAccount .. | addValidator .. | removeValidator .. => .flag false
  | latestHash _ | selectProposer _ | selectProposerForHeight .. => .text none
  | process .. => .buffer []
  | initialise _ | shutdown | blockchainDestroy _ | consensusDestroy _ | releaseNothing => .nothing

end Call

/-! ### Bridges -/

/-- The configuration, if the bridge is initialised, and the instances. -/
structure Bridge where
  config : Option Config
  table : HandleTable

namespace Bridge

/-- The bridge before any call. -/
def fresh : Bridge := ⟨none, ∅⟩

instance : Inhabited Bridge := ⟨fresh⟩

/-- Whether the bridge is initialised. -/
def isInitialised (b : Bridge) : Bool := b.config.isSome

/-- Loads the configuration, unless there is one. -/
def initialise (parse : Config.Reading) (b : Bridge) (source : ConfigSource) :
    Bridge × Except Error Value :=
  match b.config with
  | some _ => (b, .ok .nothing)
  | none =>
    match Config.load parse source with
    | .error e => (b, .error (.parameter (.configuration e)))
    | .ok c => ({ b with config := some c }, .ok .nothing)

/-- Releases every instance and forgets the configuration. -/
def shutdown (b : Bridge) : Bridge × Except Error Value := (⟨none, b.table.clear.1⟩, .ok .nothing)

/-- The blockchain that a configuration sets up. -/
def newBlockchain (c : Config) : Except Error Instance :=
  match (Ledger.new c.policy).seed c.genesisAccounts with
  | (_, .error e) => .error e
  | (l, .ok ()) => .ok (.blockchain (Application.ofLedger l))

/-- The consensus that a configuration sets up. -/
def newConsensus (c : Config) : Except Error Instance := .ok (.consensus (Rotation.new c.policy))

/-- Makes an instance and gives its handle. -/
def create (b : Bridge) (make : Config → Except Error Instance) : Bridge × Except Error Value :=
  match b.config with
  | none => (b, .error .uninitialised)
  | some c =>
    match make c with
    | .error e => (b, .error e)
    | .ok x =>
      match b.table.insert x with
      | (t, result) => ({ b with table := t }, result.map .handle)

/-- Acts on the table of an initialised bridge. -/
def onTable (b : Bridge) (act : HandleTable → HandleTable × Except Error Value) :
    Bridge × Except Error Value :=
  match b.config with
  | none => (b, .error .uninitialised)
  | some _ =>
    match act b.table with
    | (t, result) => ({ b with table := t }, result)

/-- Releases the instance behind a handle. -/
def destroy (b : Bridge) (h : Handle) (kind : InstanceKind) : Bridge × Except Error Value :=
  b.onTable fun t =>
    match t.remove h kind with
    | (t, result) => (t, result.map fun () => .nothing)

/-- Reads a value of the ledger behind a handle. -/
def readLedger (b : Bridge) (h : Handle) (read : Ledger → Except Error Value) :
    Bridge × Except Error Value :=
  b.onTable fun t => t.withBlockchain h fun a => (a, read a.ledger)

/-- Lets the ledger behind a handle act on an argument, after the argument has been read. -/
def onLedger {α β : Type} (b : Bridge) (h : Handle) (argument : Except Error α)
    (act : Ledger → α → Ledger × Except Error β) (value : β → Value) :
    Bridge × Except Error Value :=
  b.onTable fun t => t.withBlockchain h fun a =>
    match argument with
    | .error e => (a, .error e)
    | .ok x =>
      match act a.ledger x with
      | (l, result) => ({ a with ledger := l }, result.map value)

/-- Lets the rotation behind a handle act on an argument, after the argument has been read. -/
def onRotation {α β : Type} (b : Bridge) (h : Handle) (argument : Except Error α)
    (act : Rotation → α → Rotation × Except Error β) (value : β → Except Error Value) :
    Bridge × Except Error Value :=
  b.onTable fun t => t.withConsensus h fun r =>
    match argument with
    | .error e => (r, .error e)
    | .ok x =>
      match act r x with
      | (r, result) => (r, result.bind value)

/-- The value of a call that hands back a text. -/
def textValue (s : String) : Except Error Value := (ForeignText.write s).map fun s => .text (some s)

/-- What a call does, and its result. -/
def perform (parse : Config.Reading) (b : Bridge) : Call → Bridge × Except Error Value
  | .initialise source => b.initialise parse source
  | .shutdown => b.shutdown
  | .blockchainNew => b.create newBlockchain
  | .blockchainDestroy h => b.destroy h .blockchain
  | .height h => b.readLedger h fun l => .ok (.word l.height)
  | .latestHash h => b.readLedger h fun l => textValue l.latestHash.text
  | .addTransaction h tx => b.onLedger h tx.read Ledger.apply fun () => .flag true
  | .balance h address =>
    b.readLedger h fun l => (ForeignText.read "address" address).map fun a => .word (l.balance a)
  | .nonce h address =>
    b.readLedger h fun l => (ForeignText.read "address" address).map fun a => .word (l.nonce a)
  | .initAccount h address balance =>
    b.onLedger h (ForeignText.read "address" address) (fun l a => l.initAccount a balance)
      fun () => .flag true
  | .createBlock h validator =>
    b.onLedger h (ForeignText.read "validator" validator) Ledger.sealBlock
      fun block => .word block.height
  | .consensusNew => b.create newConsensus
  | .consensusDestroy h => b.destroy h .consensus
  | .addValidator h address stake =>
    b.onRotation h (ForeignText.read "address" address) (fun r a => r.add a stake)
      fun () => .ok (.flag true)
  | .removeValidator h address =>
    b.onRotation h (ForeignText.read "address" address) Rotation.remove
      fun _ => .ok (.flag true)
  | .selectProposer h => b.onRotation h (.ok ()) (fun r () => r.next) textValue
  | .selectProposerForHeight h height =>
    b.onRotation h (.ok ()) (fun r () => (r, r.proposerAt height)) textValue
  | .process h request =>
    b.onTable fun t => t.withBlockchain h fun a =>
      match request.read "request" with
      | .error e => (a, .error e)
      | .ok bs =>
        match a.process bs with
        | (a, result) => (a, result.map .buffer)
  | .releaseNothing => (b, .ok .nothing)

/-- What a call does, and its reply. -/
def call (parse : Config.Reading) (b : Bridge) (c : Call) : Bridge × Reply :=
  match b.perform parse c with
  | (b, result) => (b, Reply.of c.fallback result)

end Bridge

end HostedLedger

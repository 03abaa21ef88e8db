import HostedLedger.Error.Cause
import HostedLedger.Text.Quoted

/-!
# Reports of failure

What a caller learns about a refused call: one of ten kinds, each with a number, and a message.

## Main definitions

* `ErrorKind`: the ten kinds
* `Status`: success or a kind of error, with its number and its text
* `Report`: a kind with the details of one case
* `Error.report`, `Error.message`: the report on a cause, and its text

## Main results

* `Status.ofCode?_code`: a status is known by its number
-/

namespace HostedLedger

open Text (decimal)

/-- The kinds of error. -/
inductive ErrorKind
  | nullPointer
  | invalidUtf8
  | serialization
  | deserialization
  | blockchain
  | consensus
  | transaction
  | state
  | invalidParameter
  | internal
  deriving DecidableEq, Repr

/-- What every message about an error of the kind starts with. -/
def ErrorKind.heading : ErrorKind → String
  | .nullPointer => "null pointer"
  | .invalidUtf8 => "invalid UTF-8"
  | .serialization => "serialization failed"
  | .deserialization => "deserialization failed"
  | .blockchain => "blockchain error"
  | .consensus => "consensus error"
  | .transaction => "transaction rejected"
  | .state => "state error"
  | .invalidParameter => "invalid parameter"
  | .internal => "internal error"

/-- How a call ended. -/
inductive Status
  | success
  | failure (kind : ErrorKind)
  deriving DecidableEq, Repr

namespace Status

/-- The number that stands for a status. -/
def code : Status → Nat
  | success => 0
  | failure .nullPointer => 1
  | failure .invalidUtf8 => 2
  | failure .serialization => 3
  | failure .deserialization => 4
  | failure .blockchain => 5
  | failure .consensus => 6
  | failure .transaction => 7
  | failure .state => 8
  | failure .invalidParameter => 9
  | failure .internal => 10

theorem code_failure_ne_zero (kind : ErrorKind) : (failure kind).code ≠ 0 := by
  cases kind <;> simp [code]

/-- The status that a number stands for. -/
def ofCode? : Int → Option Status
  | 0 => some success
  | 1 => some (failure .nullPointer)
  | 2 => some (failure .invalidUtf8)
  | 3 => some (failure .serialization)
  | 4 => some (failure .deserialization)
  | 5 => some (failure .blockchain)
  | 6 => some (failure .consensus)
  | 7 => some (failure .transaction)
  | 8 => some (failure .state)
  | 9 => some (failure .invalidParameter)
  | 10 => some (failure .internal)
  | _ => none

@[simp] theorem ofCode?_code (s : Status) : ofCode? s.code = some s := by
  rcases s with _ | k
  · rfl
  · cases k <;> rfl

/-- The text of a status. -/
def text : Status → String
  | success => "Success"
  | failure .nullPointer => "Null pointer"
  | failure .invalidUtf8 => "Invalid UTF-8"
  | failure .serialization => "Serialization error"
  | failure .deserialization => "Deserialization error"
  | failure .blockchain => "Blockchain error"
  | failure .consensus => "Consensus error"
  | failure .transaction => "Transaction error"
  | failure .state => "State error"
  | failure .invalidParameter => "Invalid parameter"
  | failure .internal => "Internal error"

/-- Whether the call succeeded. -/
def isSuccess : Status → Bool
  | success => true
  | failure _ => false

end Status

/-- A kind of error with the details of one case. -/
structure Report where
  kind : ErrorKind
  detail : String
  deriving DecidableEq

/-- The text of a report: the heading of its kind, then the details. -/
def Report.text (r : Report) : String := r.kind.heading ++ ": " ++ r.detail

namespace EncodeError

/-- The details of the case. -/
def detail : EncodeError → String
  | lengthOverflow length => s!"length {decimal length} exceeds u32::MAX"
  | interiorNul position =>
    s!"string contains NUL: nul byte found in provided data at position: {decimal position}"

end EncodeError

namespace DecodeError

/-- The details of the case. -/
def detail : DecodeError → String
  | endOfData => "unexpected end of data"
  | invalidUtf8 => "invalid UTF-8"
  | countExceedsInput count => s!"sequence count {decimal count} exceeds remaining input"
  | trailingBytes count => s!"{decimal count} trailing bytes"
  | unknownRequestTag tag => s!"unknown request tag: 0x{Bytes.hex [tag]}"
  | unknownResponseTag tag => s!"unknown response tag: 0x{Bytes.hex [tag]}"

end DecodeError

namespace TransferError

/-- The details of the case. -/
def detail : TransferError → String
  | emptySender => "sender address is empty"
  | emptyRecipient => "recipient address is empty"
  | zeroAmount => "amount must be > 0"
  | unknownSender address => s!"unknown sender: {address}"
  | nonceMismatch expected actual =>
    s!"nonce mismatch: expected {decimal expected.toNat}, got {decimal actual.toNat}"
  | costOverflow => "amount + gas_fee overflows"
  | insufficientBalance balance cost =>
    s!"insufficient balance: have {decimal balance.toNat}, need {decimal cost.toNat}"
  | nonceOverflow => "sender nonce overflows"
  | recipientOverflow => "recipient balance overflow"

end TransferError

namespace SessionError

/-- The details of the case. -/
def detail : SessionError → String
  | alreadyOpen height => s!"block {decimal height.toNat} is already open"
  | beginHeight expected actual =>
    s!"begin_block height mismatch: expected {decimal expected.toNat}, got {decimal actual.toNat}"
  | deliverUnopened => "deliver_tx without an open block"
  | deliverEnded height => s!"deliver_tx after end_block for height {decimal height.toNat}"
  | endUnopened => "end_block without an open block"
  | endHeight openHeight actual =>
    s!"end_block height mismatch: open {decimal openHeight.toNat}, got {decimal actual.toNat}"
  | endRepeated height => s!"end_block repeated for height {decimal height.toNat}"
  | commitUnopened => "commit without an open block"

end SessionError

namespace ReadError

/-- What is said about the case where files are read. -/
def message : ReadError → String
  | system text => text
  | notText => "stream did not contain valid UTF-8"

end ReadError

namespace ConfigError

/-- The text of the case. -/
def message : ConfigError → String
  | unreadable file cause => s!"failed to read config file {file}: {cause.message}"
  | unparsable text => s!"failed to parse config: {text}"
  | unknownLogLevel level => s!"unknown log level {Text.quote level}"
  | zeroMinStake => "min_validator_stake must be > 0"
  | emptyGenesisAddress index => s!"genesis account {decimal index} has an empty address"

end ConfigError

namespace ParameterError

/-- The details of the case. -/
def detail : ParameterError → String
  | emptyAddress role => s!"{role} address must be non-empty"
  | emptyGenesisAddress index => s!"genesis account {decimal index} has an empty address"
  | zeroStake => "stake must be > 0"
  | stakeBelowMinimum stake minimum =>
    s!"stake {decimal stake.toNat} below minimum {decimal minimum.toNat}"
  | unknownHandle handle => s!"unknown or released handle {handle.text}"
  | wrongKind handle found expected =>
    s!"handle {handle.text} is a {found.name} handle, expected {expected.name}"
  | configuration cause => s!"configuration: {cause.message}"

end ParameterError

namespace Error

/-- The report on a cause. -/
def report : Error → Report
  | nullText argument => ⟨.nullPointer, argument⟩
  | nullBuffer argument length => ⟨.nullPointer, s!"{argument} ({decimal length.toNat} bytes)"⟩
  | invalidUtf8 argument fault => ⟨.invalidUtf8, s!"{argument}: {fault.message}"⟩
  | encode cause => ⟨.serialization, cause.detail⟩
  | decode cause => ⟨.deserialization, cause.detail⟩
  | emptyBlock => ⟨.blockchain, "no pending transactions and empty blocks are disallowed"⟩
  | unknownValidator address => ⟨.consensus, s!"unknown validator: {address}"⟩
  | noValidators => ⟨.consensus, "validator set is empty"⟩
  | transfer cause => ⟨.transaction, cause.detail⟩
  | session cause => ⟨.state, cause.detail⟩
  | uninitialised => ⟨.state, "bridge is not initialised"⟩
  | parameter cause => ⟨.invalidParameter, cause.detail⟩
  | uncoveredTarget target total =>
    ⟨.internal, s!"no validator covers target {decimal target} of {decimal total}"⟩
  | handlesExhausted => ⟨.internal, "handle table exhausted"⟩

/-- The kind of a cause. -/
def kind (e : Error) : ErrorKind := e.report.kind

/-- The text of the report on a cause. -/
def message (e : Error) : String := e.report.text

end Error

end HostedLedger

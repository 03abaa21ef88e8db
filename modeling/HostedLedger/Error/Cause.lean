import HostedLedger.Handle
import HostedLedger.Text.Utf8

/-!
# Causes of failure

Why a call is refused. Every refusal has one cause, and each part of the library has a type for
its own causes.

## Main definitions

* `EncodeError`, `DecodeError`: a value has no written form, or bytes are none
* `TransferError`: a transaction is rejected
* `SessionError`: a request does not fit the phase of the block
* `ConfigError`: a configuration is unreadable or not admitted
* `ParameterError`: an argument is malformed or names nothing
* `Error`: all of them
-/

namespace HostedLedger

/-- Why a value cannot be written out. -/
inductive EncodeError
  /-- A text, byte string or sequence is longer than a 32-bit length can say. -/
  | lengthOverflow (length : Nat)
  /-- A text holds the character that ends texts, at the given byte. -/
  | interiorNul (position : Nat)
  deriving DecidableEq

/-- Why bytes are not the written form of a value. -/
inductive DecodeError
  | endOfData
  | invalidUtf8
  | countExceedsInput (count : Nat)
  | trailingBytes (count : Nat)
  | unknownRequestTag (tag : UInt8)
  | unknownResponseTag (tag : UInt8)
  deriving DecidableEq

/-- Why a transaction is rejected. -/
inductive TransferError
  | emptySender
  | emptyRecipient
  | zeroAmount
  | unknownSender (address : String)
  | nonceMismatch (expected actual : UInt64)
  | costOverflow
  | insufficientBalance (balance cost : UInt64)
  | nonceOverflow
  | recipientOverflow
  deriving DecidableEq

/-- Why a request does not fit the phase of the block that is open or not. -/
inductive SessionError
  | alreadyOpen (height : UInt64)
  | beginHeight (expected actual : UInt64)
  | deliverUnopened
  | deliverEnded (height : UInt64)
  | endUnopened
  | endHeight (openHeight actual : UInt64)
  | endRepeated (height : UInt64)
  | commitUnopened
  deriving DecidableEq

/-- Why a configuration file cannot be read. -/
inductive ReadError
  /-- The system does not hand the file over, for the reason that the text tells. -/
  | system (text : String)
  /-- The bytes of the file are no UTF-8. -/
  | notText
  deriving DecidableEq

/-- Why there is no configuration. -/
inductive ConfigError
  | unreadable (file : String) (cause : ReadError)
  /-- No configuration can be made of the document, for the reason that the text tells. -/
  | unparsable (text : String)
  | unknownLogLevel (level : String)
  | zeroMinStake
  | emptyGenesisAddress (index : Nat)
  deriving DecidableEq

/-- Why an argument is not accepted. -/
inductive ParameterError
  | emptyAddress (role : String)
  | emptyGenesisAddress (index : Nat)
  | zeroStake
  | stakeBelowMinimum (stake minimum : UInt64)
  | unknownHandle (handle : Handle)
  | wrongKind (handle : Handle) (found expected : InstanceKind)
  | configuration (cause : ConfigError)
  deriving DecidableEq

/-- Why a call is refused. -/
inductive Error
  /-- An argument that has to be present is absent. -/
  | nullText (argument : String)
  /-- A buffer that claims a length is absent. -/
  | nullBuffer (argument : String) (length : UInt64)
  /-- An argument is not UTF-8. -/
  | invalidUtf8 (argument : String) (fault : Utf8.Fault)
  | encode (cause : EncodeError)
  | decode (cause : DecodeError)
  /-- There is nothing to seal, and empty blocks are disallowed. -/
  | emptyBlock
  | unknownValidator (address : String)
  | noValidators
  | transfer (cause : TransferError)
  | session (cause : SessionError)
  /-- The bridge has not been initialised. -/
  | uninitialised
  | parameter (cause : ParameterError)
  /-- No stake lies above the drawn target. -/
  | uncoveredTarget (target total : Nat)
  /-- Every slot number has been given out. -/
  | handlesExhausted
  deriving DecidableEq

end HostedLedger

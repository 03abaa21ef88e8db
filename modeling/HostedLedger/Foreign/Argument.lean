import HostedLedger.Error.Cause
import HostedLedger.Transaction

/-!
# Foreign arguments

What a foreign caller hands over: texts that end with a zero byte, and byte strings with a length.
Either may be absent. They are checked when they are used.

## Main definitions

* `ForeignText`, `ForeignText.read`: a text that ends with a zero byte
* `ForeignBuffer`, `ForeignBuffer.read`: a byte string with a length
* `ForeignTransaction`, `ForeignTransaction.read`: a transaction made of them
* `ForeignText.write`: a text to hand back
-/

namespace HostedLedger

/-- A text as a caller hands it over: the bytes in its memory, or nothing. -/
abbrev ForeignText := Option Bytes

namespace ForeignText

/-- The text up to the first zero byte. -/
def read (argument : String) : ForeignText → Except Error String
  | none => .error (.nullText argument)
  | some bs =>
    match Utf8.decode (bs.takeWhile (· ≠ 0)) with
    | .ok s => .ok s
    | .error fault => .error (.invalidUtf8 argument fault)

/-- A text to hand back; it may hold no zero byte. -/
def write (s : String) : Except Error String :=
  match (Utf8.encode s).findIdx? (· = 0) with
  | some position => .error (.encode (.interiorNul position))
  | none => .ok s

end ForeignText

/-- A byte string as a caller hands it over. -/
inductive ForeignBuffer
  | bytes (bs : Bytes)
  /-- No memory, with a length all the same. -/
  | null (length : UInt64)
  deriving DecidableEq

/-- The bytes of a buffer. No memory is as good as no bytes. -/
def ForeignBuffer.read (argument : String) : ForeignBuffer → Except Error Bytes
  | bytes bs => .ok bs
  | null length => if length = 0 then .ok [] else .error (.nullBuffer argument length)

/-- A transaction as a caller hands it over. -/
structure ForeignTransaction where
  sender : ForeignText
  recipient : ForeignText
  amount : UInt64
  gasFee : UInt64
  timestamp : UInt64
  nonce : UInt64
  signature : ForeignBuffer

/-- The transaction, whose fields are checked in order. -/
def ForeignTransaction.read (t : ForeignTransaction) : Except Error Transaction := do
  let sender ← ForeignText.read "from" t.sender
  let recipient ← ForeignText.read "to" t.recipient
  let signature ← t.signature.read "signature"
  return {
    sender, recipient, signature
    amount := t.amount
    gasFee := t.gasFee
    timestamp := t.timestamp
    nonce := t.nonce }

end HostedLedger

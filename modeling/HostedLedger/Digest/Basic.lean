import HostedLedger.Bytes

/-!
# Digests

A digest is a string of exactly 32 bytes: the result of a hash function, and what blocks, roots
and transactions are named by.

## Main definitions

* `Digest`: 32 bytes
* `Digest.zero`: the digest of zero bytes, which stands before the first block and for an empty
  tree
* `Digest.text`: the hexadecimal text with its `0x` mark
-/

namespace HostedLedger

/-- A string of 32 bytes. -/
structure Digest where
  /-- The bytes of the digest, in order. -/
  bytes : Bytes
  /-- There are 32 of them. -/
  length_bytes : bytes.length = 32
  deriving DecidableEq

namespace Digest

@[ext] theorem ext {x y : Digest} (h : x.bytes = y.bytes) : x = y := by
  cases x
  cases y
  simpa using h

/-- The digest of 32 zero bytes. -/
def zero : Digest := ⟨List.replicate 32 0, rfl⟩

instance : Inhabited Digest := ⟨zero⟩

/-- The digest with the given bytes, if there are 32 of them. -/
def ofBytes? (bs : Bytes) : Option Digest :=
  if h : bs.length = 32 then some ⟨bs, h⟩ else none

@[simp] theorem ofBytes?_bytes (d : Digest) : ofBytes? d.bytes = some d := by
  simp [ofBytes?, d.length_bytes]

/-- The text of a digest: `0x` and 64 lower-case hexadecimal digits. -/
def text (d : Digest) : String := "0x" ++ Bytes.hex d.bytes

end Digest

end HostedLedger

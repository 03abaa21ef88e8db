/-!
# Byte strings

Byte strings are lists of octets. Numbers are written in them with the least significant byte
first, in a fixed number of bytes.

## Main definitions

* `Bytes.ofNat width n`: the `width` little-endian bytes of `n`
* `Bytes.toNat bs`: the number that little-endian bytes stand for
* `Bytes.ofUInt32`, `Bytes.ofUInt64`: the four and the eight bytes of a word
* `Bytes.leadingUInt64?`: the word that a byte string starts with
* `Bytes.hex`: two lower-case hexadecimal digits a byte
-/

namespace HostedLedger

/-- A byte string. -/
abbrev Bytes := List UInt8

namespace Bytes

/-- The `width` little-endian bytes of `n`; what does not fit is dropped. -/
def ofNat : (width n : Nat) → Bytes
  | 0, _ => []
  | width + 1, n => n.toUInt8 :: ofNat width (n / 256)

/-- The number whose little-endian bytes are given. -/
def toNat : Bytes → Nat
  | [] => 0
  | b :: bs => b.toNat + 256 * toNat bs

@[simp] theorem length_ofNat (width n : Nat) : (ofNat width n).length = width := by
  induction width generalizing n with
  | zero => rfl
  | succ width ih => simp [ofNat, ih]

/-- The four little-endian bytes of a word. -/
def ofUInt32 (n : UInt32) : Bytes := ofNat 4 n.toNat

/-- The eight little-endian bytes of a word. -/
def ofUInt64 (n : UInt64) : Bytes := ofNat 8 n.toNat

@[simp] theorem length_ofUInt32 (n : UInt32) : (ofUInt32 n).length = 4 := length_ofNat 4 _

@[simp] theorem length_ofUInt64 (n : UInt64) : (ofUInt64 n).length = 8 := length_ofNat 8 _

/-- The word written in the first eight bytes, if there are as many. -/
def leadingUInt64? (bs : Bytes) : Option UInt64 :=
  if bs.length < 8 then none else some (UInt64.ofNat (toNat (bs.take 8)))

/-- The lower-case hexadecimal digits of a byte, always two. -/
def hexByte (b : UInt8) : List Char :=
  [Nat.digitChar (b.toNat / 16), Nat.digitChar (b.toNat % 16)]

/-- The lower-case hexadecimal text of a byte string. -/
def hex (bs : Bytes) : String := String.ofList (bs.flatMap hexByte)

/-- Cuts a byte string into pieces of `size` bytes; the last piece may be shorter. -/
def chunks (size : Nat) (bs : Bytes) : List Bytes :=
  if _ : 0 < size ∧ 0 < bs.length then
    bs.take size :: chunks size (bs.drop size)
  else
    []
termination_by bs.length
decreasing_by
  rw [List.length_drop]
  omega

end Bytes

end HostedLedger

import HostedLedger.Digest.Basic
import HostedLedger.Error.Cause

/-!
# Binary formats

How values are laid out in bytes. Words and digests have a fixed size and stand as they are; texts,
byte strings and sequences follow their length, which takes four bytes. Every number has its least
significant byte first.

A format writes values and reads them back from the front of a byte string. A lawful format has one
written form for each value that has any, and recognises it whatever follows.

## Main definitions

* `Format α`: a writer and a reader of `α`
* `Format.Lawful`: the writer and the reader agree
* `Format.word32`, `Format.word64`, `Format.digest`, `Format.blob`, `Format.text`: single values
* `Format.pair`, `Format.iso`, `Format.sequence`: one value after the other, another view of the
  same value, and counted sequences
* `Format.decode`: reads a value that takes up all the bytes
-/

namespace HostedLedger

/-- How values of a type are written to bytes and read from the front of bytes. -/
structure Format (α : Type) where
  /-- The written form of a value. -/
  write : α → Except EncodeError Bytes
  /-- The value at the front of a byte string, and the bytes that follow it. -/
  read : Bytes → Except DecodeError (α × Bytes)

namespace Format

variable {α β : Type}

/-- Reading finds what was written, whatever follows, and nothing else. -/
structure Lawful (f : Format α) : Prop where
  read_append {x : α} {bs : Bytes} (rest : Bytes) :
    f.write x = .ok bs → f.read (bs ++ rest) = .ok (x, rest)
  write_of_read {x : α} {bs rest : Bytes} :
    f.read bs = .ok (x, rest) → ∃ w, f.write x = .ok w ∧ bs = w ++ rest

/-- The first `n` bytes, and the others. -/
def take (n : Nat) (bs : Bytes) : Except DecodeError (Bytes × Bytes) :=
  if bs.length < n then .error .endOfData else .ok (bs.take n, bs.drop n)

/-- One byte. -/
def byte : Format UInt8 where
  write b := .ok [b]
  read
    | [] => .error .endOfData
    | b :: rest => .ok (b, rest)

/-- A 32-bit word in four bytes. -/
def word32 : Format UInt32 where
  write n := .ok (Bytes.ofUInt32 n)
  read bs := do
    let (w, rest) ← take 4 bs
    return (UInt32.ofNat w.toNat, rest)

/-- A 64-bit word in eight bytes. -/
def word64 : Format UInt64 where
  write n := .ok (Bytes.ofUInt64 n)
  read bs := do
    let (w, rest) ← take 8 bs
    return (UInt64.ofNat w.toNat, rest)

/-- A digest, without a length. -/
def digest : Format Digest where
  write d := .ok d.bytes
  read bs :=
    if h : 32 ≤ bs.length then
      .ok (⟨bs.take 32, List.length_take_of_le h⟩, bs.drop 32)
    else
      .error .endOfData

/-- A length, as a 32-bit word; larger lengths have no written form. -/
def size : Format Nat where
  write n := if n < UInt32.size then .ok (Bytes.ofNat 4 n) else .error (.lengthOverflow n)
  read bs := do
    let (w, rest) ← take 4 bs
    return (w.toNat, rest)

/-- A byte string after its length. -/
def blob : Format Bytes where
  write bs := do
    let n ← size.write bs.length
    return n ++ bs
  read bs := do
    let (n, rest) ← size.read bs
    take n rest

/-- A text: its UTF-8 bytes after their number. -/
def text : Format String where
  write s := blob.write (Utf8.encode s)
  read bs := do
    let (w, rest) ← blob.read bs
    match Utf8.decode w with
    | .ok s => return (s, rest)
    | .error _ => throw .invalidUtf8

/-- One value after the other. -/
def pair (f : Format α) (g : Format β) : Format (α × β) where
  write p := do
    let x ← f.write p.1
    let y ← g.write p.2
    return x ++ y
  read bs := do
    let (x, rest) ← f.read bs
    let (y, rest) ← g.read rest
    return ((x, y), rest)

/-- Another view of the values of a format. -/
def iso (f : Format α) (pack : α → β) (unpack : β → α) : Format β where
  write y := f.write (unpack y)
  read bs := do
    let (x, rest) ← f.read bs
    return (pack x, rest)

/-- The written forms of the values of a list, one after the other. -/
def writeAll (f : Format α) : List α → Except EncodeError Bytes
  | [] => return []
  | x :: xs => do
    let w ← f.write x
    let ws ← writeAll f xs
    return w ++ ws

/-- As many values as the count says. -/
def readAll (f : Format α) : Nat → Bytes → Except DecodeError (List α × Bytes)
  | 0, bs => return ([], bs)
  | n + 1, bs => do
    let (x, rest) ← f.read bs
    let (xs, rest) ← readAll f n rest
    return (x :: xs, rest)

/-- A sequence after its count. Every item takes at least `least` bytes, so a count that the rest
of the input cannot hold is refused before any item is read. -/
def sequence (least : Nat) (f : Format α) : Format (List α) where
  write xs := do
    let n ← size.write xs.length
    let w ← writeAll f xs
    return n ++ w
  read bs := do
    let (n, rest) ← size.read bs
    if n * max least 1 > rest.length then
      throw (.countExceedsInput n)
    readAll f n rest

/-- The value whose written form takes up all the bytes. -/
def decode (f : Format α) (bs : Bytes) : Except DecodeError α := do
  let (x, rest) ← f.read bs
  if rest.isEmpty then return x else throw (.trailingBytes rest.length)

end Format

end HostedLedger

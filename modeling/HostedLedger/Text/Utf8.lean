import HostedLedger.Bytes

/-!
# UTF-8

Texts as byte strings, and where a byte string stops being one.

## Main definitions

* `Utf8.encode`: the bytes of a text
* `Utf8.Fault`: the place and extent of the first ill-formed sequence
* `Utf8.fault?`: the first fault of a byte string
* `Utf8.decode`: the text that a byte string spells, or its first fault

## Main results

* `Utf8.decode_eq_ok_iff`: decoding accepts the bytes of texts and nothing else
-/

namespace HostedLedger

namespace Utf8

/-- The UTF-8 bytes of a text. -/
def encode (s : String) : Bytes := s.toUTF8.data.toList

theorem encode_ofList (cs : List Char) :
    encode (String.ofList cs) = cs.flatMap String.utf8EncodeChar := by
  simp [encode, List.utf8Encode]

/-- Every character takes a byte or more. -/
theorem length_le_length_encode (cs : List Char) :
    cs.length ≤ (encode (String.ofList cs)).length := by
  rw [encode_ofList]
  induction cs with
  | nil => exact Nat.le_refl 0
  | cons c cs ih =>
    have hc : 1 ≤ (String.utf8EncodeChar c).length := by
      rw [String.length_utf8EncodeChar]
      exact c.utf8Size_pos
    rw [List.flatMap_cons, List.length_append, List.length_cons]
    omega

/-- The first ill-formed sequence of a byte string. -/
structure Fault where
  /-- The number of well-formed bytes in front of it. -/
  index : Nat
  /-- Its number of bytes; none if the byte string ends inside a character. -/
  length : Option Nat
  deriving DecidableEq

/-- The text that describes a fault. -/
def Fault.message : Fault → String
  | ⟨index, some length⟩ =>
    "invalid utf-8 sequence of " ++ Nat.repr length ++ " bytes from index " ++ Nat.repr index
  | ⟨index, none⟩ => "incomplete utf-8 byte sequence from index " ++ Nat.repr index

/-- What a character still needs: a number of bytes, and the range of the next one. -/
structure Pending where
  start : Nat
  count : Nat
  low : UInt8
  high : UInt8

/-- What follows the first byte of a character that starts at `start`: nothing after an ASCII
byte, and no answer for a byte that starts no character. -/
def lead? (start : Nat) (b : UInt8) : Option (Option Pending) :=
  if b ≤ 0x7f then some none
  else if 0xc2 ≤ b ∧ b ≤ 0xdf then some (some ⟨start, 1, 0x80, 0xbf⟩)
  else if b = 0xe0 then some (some ⟨start, 2, 0xa0, 0xbf⟩)
  else if b = 0xed then some (some ⟨start, 2, 0x80, 0x9f⟩)
  else if 0xe1 ≤ b ∧ b ≤ 0xef then some (some ⟨start, 2, 0x80, 0xbf⟩)
  else if b = 0xf0 then some (some ⟨start, 3, 0x90, 0xbf⟩)
  else if 0xf1 ≤ b ∧ b ≤ 0xf3 then some (some ⟨start, 3, 0x80, 0xbf⟩)
  else if b = 0xf4 then some (some ⟨start, 3, 0x80, 0x8f⟩)
  else none

/-- The first fault of the bytes from `index` on, given the character that is open there. -/
def scan (index : Nat) : Option Pending → Bytes → Option Fault
  | none, [] => none
  | some p, [] => some ⟨p.start, none⟩
  | none, b :: bs =>
    match lead? index b with
    | some next => scan (index + 1) next bs
    | none => some ⟨index, some 1⟩
  | some p, b :: bs =>
    if p.low ≤ b ∧ b ≤ p.high then
      scan (index + 1) (if p.count = 1 then none else some ⟨p.start, p.count - 1, 0x80, 0xbf⟩) bs
    else
      some ⟨p.start, some (index - p.start)⟩

/-- The first fault of a byte string. -/
def fault? (bs : Bytes) : Option Fault := scan 0 none bs

/-- The text with the given UTF-8 bytes, or the place where they stop spelling one. -/
def decode (bs : Bytes) : Except Fault String :=
  match String.fromUTF8? ⟨bs.toArray⟩ with
  | some s => .ok s
  | none => .error ((fault? bs).getD ⟨0, none⟩)

@[simp] theorem decode_encode (s : String) : decode (encode s) = .ok s := by
  have : String.fromUTF8? s.toByteArray = some s := by
    simp [String.fromUTF8?, s.isValidUTF8, String.fromUTF8]
  simp [decode, encode, this]

theorem eq_encode_of_decode {bs : Bytes} {s : String} (h : decode bs = .ok s) : bs = encode s := by
  simp only [decode] at h
  split at h
  · next hs =>
    simp only [String.fromUTF8?] at hs
    split at hs
    · cases h
      cases hs
      simp [encode, String.fromUTF8]
    · simp at hs
  · simp at h

/-- Decoding accepts the bytes of texts and nothing else. -/
theorem decode_eq_ok_iff {bs : Bytes} {s : String} : decode bs = .ok s ↔ bs = encode s :=
  ⟨eq_encode_of_decode, fun h => h ▸ decode_encode s⟩

theorem encode_inj {s t : String} : encode s = encode t ↔ s = t := by
  refine ⟨fun h => ?_, fun h => h ▸ rfl⟩
  have := decode_encode s
  rw [h, decode_encode] at this
  cases this
  rfl

end Utf8

end HostedLedger

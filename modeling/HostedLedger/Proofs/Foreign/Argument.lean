import HostedLedger.Foreign.Argument
import Mathlib.Data.List.TakeWhile

/-!
# Texts across the border

A text can be handed back just if it holds no zero byte, which ends a text on the other side. Every
text that a caller hands over is of this kind, since it is read up to the first zero byte; and every
text of this kind can be handed over.

## Main definitions

* `ForeignText.Writable s`: the text `s` holds no zero byte
* `ForeignText.Spells t s`, `ForeignBuffer.Holds b bs`, `ForeignTransaction.Spells f tx`: a text, a
  byte string and a transaction as they are handed over

## Main results

* `ForeignText.write_eq_ok_iff`: which texts are handed back
* `ForeignText.writable_of_read`: what has been read can be handed back
* `ForeignText.writable_iff`: the texts without the character NUL
* `ForeignText.Spells.read_eq`, `ForeignTransaction.Spells.read_eq`: what has been handed over is
  read
-/

namespace HostedLedger

namespace ForeignText

/-- A text without a zero byte. -/
def Writable (s : String) : Prop := 0 ∉ Utf8.encode s

instance (s : String) : Decidable (Writable s) := inferInstanceAs (Decidable (0 ∉ Utf8.encode s))

theorem write_eq_ok_iff {s t : String} : write s = .ok t ↔ t = s ∧ Writable s := by
  have hnone : (Utf8.encode s).findIdx? (· = 0) = none ↔ Writable s := by
    rw [List.findIdx?_eq_none_iff, Writable]
    constructor
    · intro h hmem
      simpa using h 0 hmem
    · intro h b hb
      have hne : b ≠ 0 := fun hzero => h (hzero ▸ hb)
      simpa using hne
  unfold write
  split
  · next position hsome => simp [← hnone, hsome]
  · next h => simp [← hnone, h, eq_comm]

/-- What has been read up to the first zero byte holds none. -/
theorem writable_of_read {argument : String} {t : ForeignText} {s : String}
    (h : t.read argument = .ok s) : Writable s := by
  cases t with
  | none => cases h
  | some bs =>
    rw [read] at h
    split at h
    · next s' hdecode =>
      cases h
      rw [Writable, ← Utf8.eq_encode_of_decode hdecode]
      intro hmem
      simpa using List.mem_takeWhile_imp hmem
    · cases h

/-! ### Characters -/

theorem zero_mem_utf8EncodeChar_iff {c : Char} : 0 ∈ String.utf8EncodeChar c ↔ c = '\x00' := by
  have hzero (n : Nat) : (0 : UInt8) = UInt8.ofNat n ↔ n % 256 = 0 := by
    rw [← UInt8.toNat_inj, UInt8.toNat_ofNat', UInt8.toNat_zero, eq_comm]
  constructor
  · intro h
    simp only [String.utf8EncodeChar] at h
    split at h
    · rw [List.mem_singleton, hzero] at h
      apply Char.ext
      apply UInt32.toNat_inj.mp
      show c.val.toNat = 0
      omega
    · -- In the longer forms every byte has its highest bit set.
      exfalso
      split at h
      · simp only [List.mem_cons, List.not_mem_nil, or_false, hzero] at h
        omega
      split at h
      · simp only [List.mem_cons, List.not_mem_nil, or_false, hzero] at h
        omega
      · simp only [List.mem_cons, List.not_mem_nil, or_false, hzero] at h
        omega
  · rintro rfl
    decide

/-- The zero byte stands for the character NUL and for nothing else. -/
theorem writable_iff {s : String} : Writable s ↔ '\x00' ∉ s.toList := by
  have hencode : Utf8.encode s = s.toList.flatMap String.utf8EncodeChar := by
    rw [Utf8.encode, String.toUTF8, ← String.utf8Encode_toList, List.utf8Encode]
    simp
  rw [Writable, hencode, List.mem_flatMap]
  simp only [zero_mem_utf8EncodeChar_iff, exists_eq_right]

theorem writable_append_iff {s t : String} : Writable (s ++ t) ↔ Writable s ∧ Writable t := by
  rw [writable_iff, writable_iff, writable_iff, String.toList_append, List.mem_append, not_or]

/-! ### Handing over -/

/-- A text is handed over by its bytes and a zero byte behind them. -/
def Spells (t : ForeignText) (s : String) : Prop :=
  ∃ rest, t = some (Utf8.encode s ++ 0 :: rest)

/-- A text without a zero byte is read as it has been handed over. -/
theorem Spells.read_eq {t : ForeignText} {s : String} (h : t.Spells s) (writable : Writable s)
    (argument : String) : t.read argument = .ok s := by
  obtain ⟨rest, rfl⟩ := h
  have hprefix : (Utf8.encode s ++ 0 :: rest).takeWhile (· ≠ 0) = Utf8.encode s := by
    rw [List.takeWhile_append_of_pos fun b hb => ?_, List.takeWhile_cons_of_neg (by simp),
      List.append_nil]
    have hne : b ≠ 0 := fun hzero => writable (hzero ▸ hb)
    simpa using hne
  rw [read, hprefix, Utf8.decode_encode]

end ForeignText

/-- A byte string is handed over as it is; if it is empty, then perhaps without memory. -/
def ForeignBuffer.Holds (b : ForeignBuffer) (bs : Bytes) : Prop :=
  b = .bytes bs ∨ bs = [] ∧ b = .null 0

theorem ForeignBuffer.Holds.read_eq {b : ForeignBuffer} {bs : Bytes} (h : b.Holds bs)
    (argument : String) : b.read argument = .ok bs := by
  rcases h with rfl | ⟨rfl, rfl⟩ <;> rfl

/-- A transaction is handed over field by field. -/
structure ForeignTransaction.Spells (f : ForeignTransaction) (tx : Transaction) : Prop where
  sender : f.sender.Spells tx.sender
  recipient : f.recipient.Spells tx.recipient
  signature : f.signature.Holds tx.signature
  amount : f.amount = tx.amount
  gasFee : f.gasFee = tx.gasFee
  timestamp : f.timestamp = tx.timestamp
  nonce : f.nonce = tx.nonce

/-- A transaction whose addresses hold no zero byte is read as it has been handed over. -/
theorem ForeignTransaction.Spells.read_eq {f : ForeignTransaction} {tx : Transaction}
    (h : f.Spells tx) (sender : ForeignText.Writable tx.sender)
    (recipient : ForeignText.Writable tx.recipient) : f.read = .ok tx := by
  rw [ForeignTransaction.read, h.sender.read_eq sender, h.recipient.read_eq recipient,
    h.signature.read_eq, h.amount, h.gasFee, h.timestamp, h.nonce]
  rfl

end HostedLedger

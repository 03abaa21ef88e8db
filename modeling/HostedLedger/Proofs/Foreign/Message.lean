import HostedLedger.Foreign.Bridge
import HostedLedger.Proofs.Account.Requirement
import HostedLedger.Proofs.Foreign.Argument
import HostedLedger.Proofs.Ledger.Call
import Mathlib.Data.List.Basic

/-!
# Messages across the border

A message is handed back with its NUL characters replaced, so it is the message itself just if it
holds none. Digests have such texts, and so have the reasons for which a transaction is rejected, as
long as the sender, which one of them names, has been handed over as a text.

## Main results

* `CallReport.toList_escapeNul`, `CallReport.messageOf_eq`: how a message is handed back
* `CallReport.escapeNul_of_writable`: a message without NUL is handed back as it is
* `Reply.isSome_message_iff`, `Reply.exists_error_of_message`: when there is a message, and which
* `Digest.writable_text`: the text of a digest holds no NUL
* `Ledger.writable_message_of_apply`: nor does the reason for which a transaction is rejected
-/

namespace HostedLedger

open ForeignText

namespace ForeignText

theorem writable_decimal (n : Nat) : Writable (Text.decimal n) := by
  rw [writable_iff, Text.decimal, Nat.repr, String.toList_ofList]
  intro hmem
  have hdigit := Nat.isDigit_of_mem_toDigits (by decide) (by decide) hmem
  cases hdigit

end ForeignText

theorem Bytes.writable_hex (bs : Bytes) : Writable (hex bs) := by
  have hdigit : ∀ n < 16, Nat.digitChar n ≠ '\x00' := by decide
  rw [writable_iff, hex, String.toList_ofList, List.mem_flatMap]
  rintro ⟨b, -, hmem⟩
  have hb : b.toNat < 256 := b.toNat_lt
  simp only [hexByte, List.mem_cons, List.not_mem_nil, or_false] at hmem
  rcases hmem with h | h
  · exact hdigit (b.toNat / 16) (by omega) h.symm
  · exact hdigit (b.toNat % 16) (by omega) h.symm

theorem Digest.writable_text (d : Digest) : Writable d.text :=
  writable_append_iff.mpr ⟨by decide +kernel, Bytes.writable_hex d.bytes⟩

namespace CallReport

/-- A message is split at its NUL characters and put together again with the replacement. -/
theorem toList_escapeNul (s : String) :
    (escapeNul s).toList = ['\\', '0'].intercalate (s.toList.splitOn '\x00') := by
  rw [escapeNul, String.toList_ofList, List.splitOn]
  induction s.toList with
  | nil => rfl
  | cons c cs ih =>
    rw [List.flatMap_cons, ih, List.splitOnP_cons_eq_if_modifyHead]
    obtain ⟨piece, pieces, hpieces⟩ :=
      List.exists_cons_of_ne_nil (List.splitOn_ne_nil '\x00' cs)
    rw [List.splitOn] at hpieces
    rw [hpieces]
    by_cases hnul : c = '\x00'
    · simp [hnul]
    · cases pieces <;> simp [hnul]

/-- What is handed back holds no NUL. -/
theorem writable_escapeNul (s : String) : Writable (escapeNul s) := by
  rw [writable_iff, escapeNul, String.toList_ofList, List.mem_flatMap]
  rintro ⟨c, -, hmem⟩
  split at hmem
  · simp at hmem
  · next hnul => exact hnul (List.mem_singleton.mp hmem).symm

/-- Without NUL, every message can be handed back. -/
theorem messageOf_eq (s : String) : messageOf s = some (escapeNul s) := by
  rw [messageOf, write_eq_ok_iff.mpr ⟨rfl, writable_escapeNul s⟩]
  rfl

/-- A message without the character NUL is handed back as it is. -/
theorem escapeNul_of_writable {s : String} (h : Writable s) : escapeNul s = s := by
  rw [writable_iff] at h
  have hkept : (s.toList.flatMap fun c => if c = '\x00' then ['\\', '0'] else [c]) =
      s.toList.flatMap fun c => [c] :=
    List.flatMap_congr fun c hc => if_neg fun hnul : c = '\x00' => h (hnul ▸ hc)
  rw [escapeNul, hkept, List.flatMap_singleton', String.ofList_toList]

end CallReport

/-! ### Replies -/

namespace Reply

variable {fallback : Value} {result : Except Error Value}

/-- A failure is reported if and only if there has been an error. -/
theorem code_ne_zero_iff :
    (Reply.of fallback result).report.status.code ≠ 0 ↔ ∃ e, result = .error e := by
  cases result with
  | ok v =>
    constructor
    · intro hcode
      exact absurd rfl hcode
    · rintro ⟨e, ⟨⟩⟩
  | error e => exact ⟨fun _ => ⟨e, rfl⟩, fun _ => Status.code_failure_ne_zero e.kind⟩

theorem message_of_error (fallback : Value) (e : Error) :
    (Reply.of fallback (.error e)).report.message = some (CallReport.escapeNul e.message) :=
  CallReport.messageOf_eq e.message

/-- There is a message if and only if a failure is reported. -/
theorem isSome_message_iff :
    (Reply.of fallback result).report.message.isSome = true ↔
      (Reply.of fallback result).report.status.code ≠ 0 := by
  rw [code_ne_zero_iff]
  cases result with
  | ok v =>
    constructor
    · intro hmessage
      cases hmessage
    · rintro ⟨e, ⟨⟩⟩
  | error e => exact ⟨fun _ => ⟨e, rfl⟩, fun _ => by rw [message_of_error]; rfl⟩

/-- A message is that of the error. -/
theorem exists_error_of_message {message : String}
    (h : (Reply.of fallback result).report.message = some message) :
    ∃ e, result = .error e ∧ (Reply.of fallback result).report.status = .failure e.kind ∧
      message = CallReport.escapeNul e.message := by
  cases result with
  | ok v => cases h
  | error e => exact ⟨e, rfl, rfl, Option.some.inj (h.symm.trans (message_of_error fallback e))⟩

end Reply

/-! ### Rejections -/

/-- The reasons for a rejection hold no text but the address of the sender. -/
theorem TransferError.writable_detail {e : TransferError}
    (named : ∀ address, e = .unknownSender address → Writable address) : Writable e.detail := by
  cases e with
  | unknownSender address =>
    show Writable ("unknown sender: " ++ address)
    exact writable_append_iff.mpr ⟨by decide +kernel, named address rfl⟩
  | nonceMismatch expected actual =>
    show Writable ("nonce mismatch: expected " ++ Text.decimal expected.toNat ++ ", got " ++
      Text.decimal actual.toNat)
    simp only [writable_append_iff]
    exact ⟨⟨⟨by decide +kernel, writable_decimal expected.toNat⟩, by decide +kernel⟩,
      writable_decimal actual.toNat⟩
  | insufficientBalance balance cost =>
    show Writable ("insufficient balance: have " ++ Text.decimal balance.toNat ++ ", need " ++
      Text.decimal cost.toNat)
    simp only [writable_append_iff]
    exact ⟨⟨⟨by decide +kernel, writable_decimal balance.toNat⟩, by decide +kernel⟩,
      writable_decimal cost.toNat⟩
  | _ => decide +kernel

/-- An account is missed only for the sender. -/
theorem Overlay.eq_sender_of_transfer {o o' : Overlay} {tx : Transaction} {address : String}
    (h : o.transfer tx = (o', .error (.unknownSender address))) : address = tx.sender := by
  have hanswer := o.answer_transfer tx
  rw [h] at hanswer
  obtain ⟨r, hr, hrefusal⟩ := Requirement.exists_mem_of_checkAll hanswer.symm
  simp only [Accounts.requirements, Transaction.fieldRequirements, Transaction.paymentRequirements,
    List.cons_append, List.nil_append, List.mem_cons, List.not_mem_nil, or_false] at hr
  rcases hr with rfl | rfl | rfl | rfl | rfl | rfl | rfl | rfl | rfl
  all_goals cases hrefusal
  rfl

/-- The reason for which a transaction is rejected can be handed back, if its sender can. -/
theorem Ledger.writable_message_of_apply {l l' : Ledger} {tx : Transaction} {e : Error}
    (h : l.apply tx = (l', .error e)) (sender : Writable tx.sender) : Writable e.message := by
  rw [apply] at h
  split at h
  · next o e htransfer =>
    cases h
    have hdetail : Writable e.detail := TransferError.writable_detail fun address haddress => by
      subst haddress
      rwa [Overlay.eq_sender_of_transfer htransfer]
    show Writable ("transaction rejected" ++ ": " ++ e.detail)
    exact writable_append_iff.mpr ⟨by decide +kernel, hdetail⟩
  · cases h

end HostedLedger

import HostedLedger.Application.Lawful
import HostedLedger.Proofs.Wire.Written

/-!
# Canonical written forms

Transactions, requests and responses have exactly one written form each, as long as their lengths
fit in four bytes. Reading accepts these forms and nothing else, so a message that has been read
may be kept as a value or as bytes.

## Main definitions

* `Format.Canonical`: a writer and a reader agree on which bytes stand for which value
* `Transaction.Bounded`, `Request.Bounded`, `Response.Bounded`: every length of a message fits

## Main results

* `Transaction.writes_iff_bounded`, `Request.writes_iff_bounded`, `Response.writes_iff_bounded`:
  the messages that have a written form
* `canonical_messages`: written forms are canonical
-/

namespace HostedLedger

namespace Format

variable {α : Type}

/-- A writer and a reader agree on which bytes stand for which value. -/
structure Canonical (bounded : α → Prop) (write : α → Except EncodeError Bytes)
    (read : Bytes → Except DecodeError α) : Prop where
  /-- A value within the bounds is written, and read back from what has been written. -/
  read_write : ∀ x, bounded x → ∃ bs, write x = .ok bs ∧ read bs = .ok x
  /-- A value that has been read is written as the bytes that it has been read from. -/
  write_read : ∀ bs x, read bs = .ok x → write x = .ok bs
  /-- The bytes that are accepted are the written forms. -/
  accepts_iff : ∀ bs, (∃ x, read bs = .ok x) ↔ ∃ x, write x = .ok bs
  /-- No two byte strings are read as the same value. -/
  read_inj : ∀ bs bs' x, read bs = .ok x → read bs' = .ok x → bs = bs'

/-- A lawful format is canonical wherever it writes. -/
theorem Lawful.canonical {f : Format α} (hf : f.Lawful) {bounded : α → Prop}
    (writes : ∀ x, bounded x → f.Writes x) : Canonical bounded f.write f.decode where
  read_write x hx := by
    obtain ⟨bs, hbs⟩ := writes x hx
    exact ⟨bs, hbs, hf.decode_eq_ok_iff.mpr hbs⟩
  write_read bs x h := hf.decode_eq_ok_iff.mp h
  accepts_iff bs := exists_congr fun x => hf.decode_eq_ok_iff
  read_inj bs bs' x h h' := by
    have hbs := hf.decode_eq_ok_iff.mp h
    have hbs' := hf.decode_eq_ok_iff.mp h'
    exact Except.ok.inj (hbs.symm.trans hbs')

theorem writes_word32 (n : UInt32) : word32.Writes n := ⟨_, rfl⟩

/-- The text of every item fits, and so does their number. -/
def BoundedTexts (texts : List String) : Prop :=
  texts.length < UInt32.size ∧ ∀ s ∈ texts, (Utf8.encode s).length < UInt32.size

theorem writes_texts_iff {texts : List String} :
    (sequence 4 text).Writes texts ↔ BoundedTexts texts := by
  simp only [writes_sequence_iff, writes_text_iff, BoundedTexts]

end Format

open Format

/-! ### Transactions -/

/-- Both addresses and the signature fit. -/
structure Transaction.Bounded (tx : Transaction) : Prop where
  sender_lt : (Utf8.encode tx.sender).length < UInt32.size
  recipient_lt : (Utf8.encode tx.recipient).length < UInt32.size
  signature_lt : tx.signature.length < UInt32.size

theorem Transaction.writes_iff_bounded {tx : Transaction} :
    Transaction.format.Writes tx ↔ tx.Bounded := by
  rw [writes_iff, writes_text_iff, writes_text_iff, writes_blob_iff]
  exact ⟨fun ⟨hs, hr, hg⟩ => ⟨hs, hr, hg⟩, fun h => ⟨h.sender_lt, h.recipient_lt, h.signature_lt⟩⟩

/-! ### Requests -/

namespace Request

/-- Every text, byte string and sequence of a request fits. -/
def Bounded : Request → Prop
  | info | commit | endBlock _ => True
  | initChain validators accounts =>
    BoundedTexts validators ∧ accounts.length < UInt32.size ∧
      ∀ g ∈ accounts, (Utf8.encode g.address).length < UInt32.size
  | beginBlock _ proposer => (Utf8.encode proposer).length < UInt32.size
  | deliverTx tx => tx.length < UInt32.size
  | query path data => (Utf8.encode path).length < UInt32.size ∧ data.length < UInt32.size

theorem writes_genesisAccount_iff {g : GenesisAccount} :
    GenesisAccount.format.Writes g ↔ (Utf8.encode g.address).length < UInt32.size := by
  rw [GenesisAccount.format, writes_iso_iff, writes_pair_iff, writes_text_iff]
  exact and_iff_left (writes_word64 g.balance)

theorem writes_iff_bounded {r : Request} : Request.format.Writes r ↔ r.Bounded := by
  refine exists_bind_eq_ok_iff.trans ?_
  cases r with
  | info => exact iff_of_true ⟨_, rfl⟩ trivial
  | initChain validators accounts =>
    change initChainFields.Writes _ ↔ _
    rw [initChainFields, writes_pair_iff, writes_texts_iff, writes_sequence_iff]
    simp only [writes_genesisAccount_iff]
    rfl
  | beginBlock height proposer =>
    change beginBlockFields.Writes _ ↔ _
    rw [beginBlockFields, writes_pair_iff, writes_text_iff]
    exact and_iff_right (writes_word64 height)
  | deliverTx tx => exact writes_blob_iff
  | endBlock height => exact iff_of_true (writes_word64 height) trivial
  | commit => exact iff_of_true ⟨_, rfl⟩ trivial
  | query path data =>
    change queryFields.Writes _ ↔ _
    rw [queryFields, writes_pair_iff, writes_text_iff, writes_blob_iff]
    rfl

end Request

/-! ### Responses -/

namespace Response

/-- Every text, byte string and sequence of a response fits. -/
def Bounded : Response → Prop
  | info .. | initChain | beginBlock | commit .. => True
  | deliverTx _ log => (Utf8.encode log).length < UInt32.size
  | endBlock validatorUpdates => BoundedTexts validatorUpdates
  | query _ value log => value.length < UInt32.size ∧ (Utf8.encode log).length < UInt32.size

theorem writes_iff_bounded {r : Response} : Response.format.Writes r ↔ r.Bounded := by
  refine exists_bind_eq_ok_iff.trans ?_
  cases r with
  | info height latestHash appHash =>
    refine iff_of_true ?_ trivial
    exact writes_pair_iff.mpr ⟨writes_word64 height,
      writes_pair_iff.mpr ⟨writes_digest latestHash, writes_digest appHash⟩⟩
  | initChain => exact iff_of_true ⟨_, rfl⟩ trivial
  | beginBlock => exact iff_of_true ⟨_, rfl⟩ trivial
  | deliverTx code log =>
    change deliverTxFields.Writes _ ↔ _
    rw [deliverTxFields, writes_pair_iff, writes_text_iff]
    exact and_iff_right (writes_word32 code)
  | endBlock validatorUpdates => exact writes_texts_iff
  | commit height appHash =>
    refine iff_of_true ?_ trivial
    exact writes_pair_iff.mpr ⟨writes_word64 height, writes_digest appHash⟩
  | query code value log =>
    change queryFields.Writes _ ↔ _
    rw [queryFields, writes_pair_iff, writes_pair_iff, writes_blob_iff, writes_text_iff]
    exact and_iff_right (writes_word32 code)

end Response

/-- **Canonical written forms.** A transaction, request or response whose lengths fit is written
and read back as it was; and whatever bytes are read as one, they are what it is written as. So
reading accepts the written forms and nothing else, and no message has two of them. -/
theorem canonical_messages :
    Canonical Transaction.Bounded Transaction.encode Transaction.decode ∧
    Canonical Request.Bounded Request.encode Request.decode ∧
    Canonical Response.Bounded Response.encode Response.decode := by
  refine ⟨?_, ?_, ?_⟩
  · exact Transaction.lawful_format.canonical fun _ => Transaction.writes_iff_bounded.mpr
  · exact Request.lawful_format.canonical fun _ => Request.writes_iff_bounded.mpr
  · exact Response.lawful_format.canonical fun _ => Response.writes_iff_bounded.mpr

/-- A seeding request with nameless validators and accounts is read back, although its two
sequences hold nothing but lengths and balances. -/
theorem canonical_messages_namelessSeeding :
    let r : Request := .initChain ["", ""] [⟨"", 0⟩, ⟨"", 1⟩, ⟨"", 2⟩]
    r.Bounded ∧ ∃ bs, r.encode = .ok bs ∧ bs.length = 53 ∧ Request.decode bs = .ok r := by
  intro r
  have bounded : r.Bounded := by
    simp [r, Request.Bounded, BoundedTexts, Utf8.encode, UInt32.size]
  obtain ⟨-, hrequest, -⟩ := canonical_messages
  obtain ⟨bs, hbs, hr⟩ := hrequest.read_write r bounded
  have hlength : r.encode.toOption.map List.length = some 53 := by decide +kernel
  rw [hbs] at hlength
  exact ⟨bounded, bs, hbs, Option.some.inj hlength, hr⟩

end HostedLedger

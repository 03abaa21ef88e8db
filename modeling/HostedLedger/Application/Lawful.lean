import HostedLedger.Application.Message
import HostedLedger.Block
import HostedLedger.Wire.Lawful

/-!
# Written forms of messages

The formats of transactions, requests, responses and block preimages are lawful, so each of these
values has one written form, and nothing else is accepted for it.

## Main results

* `Transaction.lawful_format`, `Request.lawful_format`, `Response.lawful_format`: the formats of
  messages are lawful
* `Block.lawful_preimageFormat`: what is hashed for a block tells its contents
-/

namespace HostedLedger

open Format

theorem Transaction.lawful_format : Transaction.format.Lawful :=
  (lawful_text.pair <| lawful_text.pair <| lawful_word64.pair <| lawful_word64.pair <|
    lawful_word64.pair <| lawful_word64.pair lawful_blob).iso (fun _ => rfl) (fun _ => rfl)

theorem GenesisAccount.lawful_format : GenesisAccount.format.Lawful :=
  (lawful_text.pair lawful_word64).iso (fun _ => rfl) (fun _ => rfl)

/-! ### The least sizes of items -/

theorem Format.four_le_length_text {s : String} {w : Bytes} (h : Format.text.write s = .ok w) :
    4 ≤ w.length := by
  simp only [Format.text, Format.blob, bind_eq_ok_iff] at h
  obtain ⟨n, hn, h⟩ := h
  cases h
  simp only [Format.size] at hn
  split at hn
  · cases hn
    simp
  · cases hn

theorem GenesisAccount.twelve_le_length {g : GenesisAccount} {w : Bytes}
    (h : GenesisAccount.format.write g = .ok w) : 12 ≤ w.length := by
  simp only [GenesisAccount.format, Format.iso, Format.pair, bind_eq_ok_iff] at h
  obtain ⟨u, hu, v, hv, h⟩ := h
  cases h
  cases hv
  have := Format.four_le_length_text hu
  simp only [List.length_append, Bytes.length_ofUInt64]
  omega

theorem Format.lawful_texts : (Format.sequence 4 Format.text).Lawful :=
  lawful_text.sequence fun _ _ h => Format.four_le_length_text h

theorem Format.lawful_genesisAccounts : (Format.sequence 12 GenesisAccount.format).Lawful :=
  GenesisAccount.lawful_format.sequence fun _ _ h => GenesisAccount.twelve_le_length h

theorem Format.lawful_digests : (Format.sequence 32 Format.digest).Lawful :=
  lawful_digest.sequence fun d w h => by
    cases h
    exact Nat.le_of_eq d.length_bytes.symm

theorem Block.lawful_preimageFormat : Block.preimageFormat.Lawful :=
  lawful_digest.pair <| lawful_word64.pair <| lawful_text.pair lawful_digests

/-! ### Requests -/

namespace Request

theorem lawful_initChainFields : initChainFields.Lawful := lawful_texts.pair lawful_genesisAccounts

theorem lawful_beginBlockFields : beginBlockFields.Lawful := lawful_word64.pair lawful_text

theorem lawful_queryFields : queryFields.Lawful := lawful_text.pair lawful_blob

theorem readFields_append {r : Request} {w : Bytes} (rest : Bytes) (h : r.writeFields = .ok w) :
    readFields r.tag (w ++ rest) = .ok (r, rest) := by
  cases r with
  | info =>
    cases h
    rfl
  | initChain validators accounts =>
    exact bind_eq_ok_iff.2 ⟨_, lawful_initChainFields.read_append rest h, rfl⟩
  | beginBlock height proposer =>
    exact bind_eq_ok_iff.2 ⟨_, lawful_beginBlockFields.read_append rest h, rfl⟩
  | deliverTx tx => exact bind_eq_ok_iff.2 ⟨_, lawful_blob.read_append rest h, rfl⟩
  | endBlock height => exact bind_eq_ok_iff.2 ⟨_, lawful_word64.read_append rest h, rfl⟩
  | commit =>
    cases h
    rfl
  | query path data => exact bind_eq_ok_iff.2 ⟨_, lawful_queryFields.read_append rest h, rfl⟩

theorem writeFields_of_readFields {tag : UInt8} {r : Request} {bs rest : Bytes}
    (h : readFields tag bs = .ok (r, rest)) :
    r.tag = tag ∧ ∃ w, r.writeFields = .ok w ∧ bs = w ++ rest := by
  unfold readFields at h
  split at h
  · cases h
    exact ⟨rfl, [], rfl, rfl⟩
  · obtain ⟨⟨⟨validators, accounts⟩, r'⟩, hr, h⟩ := bind_eq_ok_iff.1 h
    cases h
    exact ⟨rfl, lawful_initChainFields.write_of_read hr⟩
  · obtain ⟨⟨⟨height, proposer⟩, r'⟩, hr, h⟩ := bind_eq_ok_iff.1 h
    cases h
    exact ⟨rfl, lawful_beginBlockFields.write_of_read hr⟩
  · obtain ⟨⟨tx, r'⟩, hr, h⟩ := bind_eq_ok_iff.1 h
    cases h
    exact ⟨rfl, lawful_blob.write_of_read hr⟩
  · obtain ⟨⟨height, r'⟩, hr, h⟩ := bind_eq_ok_iff.1 h
    cases h
    exact ⟨rfl, lawful_word64.write_of_read hr⟩
  · cases h
    exact ⟨rfl, [], rfl, rfl⟩
  · obtain ⟨⟨⟨path, data⟩, r'⟩, hr, h⟩ := bind_eq_ok_iff.1 h
    cases h
    exact ⟨rfl, lawful_queryFields.write_of_read hr⟩
  · cases h

theorem lawful_format : Request.format.Lawful where
  read_append {r bs} rest h := by
    obtain ⟨w, hw, h⟩ := bind_eq_ok_iff.1 h
    cases h
    exact bind_eq_ok_iff.2 ⟨(r.tag, w ++ rest), rfl, readFields_append rest hw⟩
  write_of_read {r bs rest} h := by
    obtain ⟨⟨tag, fields⟩, ht, h⟩ := bind_eq_ok_iff.1 h
    obtain ⟨rfl, w, hw, rfl⟩ := writeFields_of_readFields h
    obtain ⟨u, hu, rfl⟩ := lawful_byte.write_of_read ht
    cases hu
    exact ⟨r.tag :: w, bind_eq_ok_iff.2 ⟨w, hw, rfl⟩, rfl⟩

end Request

/-! ### Responses -/

namespace Response

theorem lawful_infoFields : infoFields.Lawful :=
  lawful_word64.pair <| lawful_digest.pair lawful_digest

theorem lawful_deliverTxFields : deliverTxFields.Lawful := lawful_word32.pair lawful_text

theorem lawful_commitFields : commitFields.Lawful := lawful_word64.pair lawful_digest

theorem lawful_queryFields : queryFields.Lawful :=
  lawful_word32.pair <| lawful_blob.pair lawful_text

theorem readFields_append {r : Response} {w : Bytes} (rest : Bytes) (h : r.writeFields = .ok w) :
    readFields r.tag (w ++ rest) = .ok (r, rest) := by
  cases r with
  | info height latestHash appHash =>
    exact bind_eq_ok_iff.2 ⟨_, lawful_infoFields.read_append rest h, rfl⟩
  | initChain =>
    cases h
    rfl
  | beginBlock =>
    cases h
    rfl
  | deliverTx code log =>
    exact bind_eq_ok_iff.2 ⟨_, lawful_deliverTxFields.read_append rest h, rfl⟩
  | endBlock updates => exact bind_eq_ok_iff.2 ⟨_, lawful_texts.read_append rest h, rfl⟩
  | commit height appHash =>
    exact bind_eq_ok_iff.2 ⟨_, lawful_commitFields.read_append rest h, rfl⟩
  | query code value log =>
    exact bind_eq_ok_iff.2 ⟨_, lawful_queryFields.read_append rest h, rfl⟩

theorem writeFields_of_readFields {tag : UInt8} {r : Response} {bs rest : Bytes}
    (h : readFields tag bs = .ok (r, rest)) :
    r.tag = tag ∧ ∃ w, r.writeFields = .ok w ∧ bs = w ++ rest := by
  unfold readFields at h
  split at h
  · obtain ⟨⟨⟨height, latestHash, appHash⟩, r'⟩, hr, h⟩ := bind_eq_ok_iff.1 h
    cases h
    exact ⟨rfl, lawful_infoFields.write_of_read hr⟩
  · cases h
    exact ⟨rfl, [], rfl, rfl⟩
  · cases h
    exact ⟨rfl, [], rfl, rfl⟩
  · obtain ⟨⟨⟨code, log⟩, r'⟩, hr, h⟩ := bind_eq_ok_iff.1 h
    cases h
    exact ⟨rfl, lawful_deliverTxFields.write_of_read hr⟩
  · obtain ⟨⟨updates, r'⟩, hr, h⟩ := bind_eq_ok_iff.1 h
    cases h
    exact ⟨rfl, lawful_texts.write_of_read hr⟩
  · obtain ⟨⟨⟨height, appHash⟩, r'⟩, hr, h⟩ := bind_eq_ok_iff.1 h
    cases h
    exact ⟨rfl, lawful_commitFields.write_of_read hr⟩
  · obtain ⟨⟨⟨code, value, log⟩, r'⟩, hr, h⟩ := bind_eq_ok_iff.1 h
    cases h
    exact ⟨rfl, lawful_queryFields.write_of_read hr⟩
  · cases h

theorem lawful_format : Response.format.Lawful where
  read_append {r bs} rest h := by
    obtain ⟨w, hw, h⟩ := bind_eq_ok_iff.1 h
    cases h
    exact bind_eq_ok_iff.2 ⟨(r.tag, w ++ rest), rfl, readFields_append rest hw⟩
  write_of_read {r bs rest} h := by
    obtain ⟨⟨tag, fields⟩, ht, h⟩ := bind_eq_ok_iff.1 h
    obtain ⟨rfl, w, hw, rfl⟩ := writeFields_of_readFields h
    obtain ⟨u, hu, rfl⟩ := lawful_byte.write_of_read ht
    cases hu
    exact ⟨r.tag :: w, bind_eq_ok_iff.2 ⟨w, hw, rfl⟩, rfl⟩

end Response

end HostedLedger

import HostedLedger.Application.Lawful
import HostedLedger.Error.Report

/-!
# Messages that delimit themselves

A written form tells where it ends, since every length stands in front of what it counts. So a
written form that has been cut off is not read as a shorter message, and one that is followed by
more bytes is not read as a longer one. What is missing is noticed where the input ends: a part is
shorter than its length says, or a count announces more than is left.

## Main definitions

* `DecodeError.EndsEarly`: there is less input than a length or a count announces
* `Format.Delimited`: a lawful format that refuses a written form without its end
* `Format.SelfDelimiting`: a reader refuses what it accepts when it is cut off or goes on

## Main results

* `Format.Delimited.pair`, `Format.Delimited.iso`, `Format.Delimited.sequence`: delimited formats
  are made of delimited formats
* `Transaction.delimited_format`, `Request.delimited_format`, `Response.delimited_format`: the
  formats of messages are delimited
* `messages_delimit_themselves`: written forms of messages are self-delimiting
-/

namespace HostedLedger

/-- There is less input than a length or a count announces. -/
inductive DecodeError.EndsEarly : DecodeError → Prop
  | endOfData : EndsEarly .endOfData
  | countExceedsInput (count : Nat) : EndsEarly (.countExceedsInput count)

namespace Format

variable {α β : Type}

/-- A lawful format that refuses a written form without its end, because the input ends early. -/
structure Delimited (f : Format α) : Prop extends Lawful f where
  read_cut {x : α} {cut missing : Bytes} : missing ≠ [] → f.write x = .ok (cut ++ missing) →
    ∃ e, f.read cut = .error e ∧ e.EndsEarly

/-- What a reader of whole byte strings owes to the writer of a self-delimiting form. -/
structure SelfDelimiting (write : α → Except EncodeError Bytes)
    (read : Bytes → Except DecodeError α) : Prop where
  /-- A byte string that is accepted is refused without its end, which is found missing. -/
  cut_refused : ∀ bs x, read bs = .ok x → ∀ cut, cut <+: bs → cut ≠ bs →
    ∃ e, read cut = .error e ∧ (Error.decode e).kind = .deserialization ∧ e.EndsEarly
  /-- A byte string that is accepted is refused with more bytes behind it, which are counted. -/
  extension_refused : ∀ bs x, read bs = .ok x → ∀ more, more ≠ [] →
    ∃ e, read (bs ++ more) = .error e ∧ (Error.decode e).kind = .deserialization ∧
      e = .trailingBytes more.length
  /-- No written form is the beginning of another one. -/
  eq_of_isPrefix : ∀ x y u v, write x = .ok u → write y = .ok v → u <+: v → u = v

/-! ### Cuts -/

/-- A byte string of two parts is cut in the first part, or after it. -/
theorem cut_append {u v cut missing : Bytes} (h : u ++ v = cut ++ missing) :
    (∃ rest, rest ≠ [] ∧ u = cut ++ rest) ∨ ∃ begun, cut = u ++ begun ∧ v = begun ++ missing := by
  rcases List.append_eq_append_iff.mp h with ⟨begun, hcut, hv⟩ | ⟨rest, hu, hrest⟩
  · exact .inr ⟨begun, hcut, hv⟩
  · cases rest with
    | nil => exact .inr ⟨[], by simpa using hu.symm, hrest.symm⟩
    | cons b rest => exact .inl ⟨b :: rest, List.cons_ne_nil b rest, hu⟩

theorem length_lt_of_cut {w cut missing : Bytes} (hmissing : missing ≠ [])
    (h : w = cut ++ missing) : cut.length < w.length := by
  rw [h, List.length_append]
  have := List.length_pos_iff.mpr hmissing
  omega

theorem nil_ne_cut {cut missing : Bytes} (hmissing : missing ≠ []) : [] ≠ cut ++ missing :=
  fun h => hmissing (List.append_eq_nil_iff.mp h.symm).2

theorem take_of_length_lt {n : Nat} {bs : Bytes} (h : bs.length < n) :
    take n bs = .error .endOfData := if_pos h

theorem bind_of_eq_ok {ε σ τ : Type} {x : Except ε σ} {f : σ → Except ε τ} {a : σ}
    (h : x = .ok a) : (x >>= f) = f a := by
  rw [h]
  rfl

theorem bind_of_eq_error {ε σ τ : Type} {x : Except ε σ} {f : σ → Except ε τ} {e : ε}
    (h : x = .error e) : (x >>= f) = .error e := by
  rw [h]
  rfl

/-- What is read after a part that has been cut off makes no difference. -/
theorem Delimited.bind_read_cut {f : Format α} (hf : f.Delimited) {σ : Type} {x : α}
    {cut missing : Bytes} {next : α × Bytes → Except DecodeError σ} (hmissing : missing ≠ [])
    (h : f.write x = .ok (cut ++ missing)) :
    ∃ e, (f.read cut >>= next) = .error e ∧ e.EndsEarly := by
  obtain ⟨e, he, hearly⟩ := hf.read_cut hmissing h
  exact ⟨e, bind_of_eq_error he, hearly⟩

/-! ### Single values -/

/-- A byte in front of fields is the first thing to be missing. -/
theorem bind_read_byte_cut {σ : Type} {b : UInt8} {fields cut missing : Bytes}
    {next : UInt8 × Bytes → Except DecodeError σ} (h : b :: fields = cut ++ missing)
    (hnext : ∀ begun, fields = begun ++ missing →
      ∃ e, next (b, begun) = .error e ∧ e.EndsEarly) :
    ∃ e, (byte.read cut >>= next) = .error e ∧ e.EndsEarly := by
  cases cut with
  | nil => exact ⟨_, rfl, .endOfData⟩
  | cons b' begun =>
    obtain ⟨rfl, hfields⟩ := List.cons.inj h
    exact hnext begun hfields

theorem delimited_word32 : word32.Delimited where
  toLawful := lawful_word32
  read_cut {x cut missing} hmissing h := by
    have hlt := length_lt_of_cut hmissing (Except.ok.inj h)
    rw [Bytes.length_ofUInt32] at hlt
    exact ⟨_, bind_of_eq_error (take_of_length_lt hlt), .endOfData⟩

theorem delimited_word64 : word64.Delimited where
  toLawful := lawful_word64
  read_cut {x cut missing} hmissing h := by
    have hlt := length_lt_of_cut hmissing (Except.ok.inj h)
    rw [Bytes.length_ofUInt64] at hlt
    exact ⟨_, bind_of_eq_error (take_of_length_lt hlt), .endOfData⟩

theorem delimited_digest : digest.Delimited where
  toLawful := lawful_digest
  read_cut {x cut missing} hmissing h := by
    have hlt := length_lt_of_cut hmissing (Except.ok.inj h)
    rw [x.length_bytes] at hlt
    exact ⟨_, dif_neg (by omega), .endOfData⟩

theorem delimited_size : size.Delimited where
  toLawful := lawful_size
  read_cut {x cut missing} hmissing h := by
    simp only [size] at h
    split at h
    · have hlt := length_lt_of_cut hmissing (Except.ok.inj h)
      rw [Bytes.length_ofNat] at hlt
      exact ⟨_, bind_of_eq_error (take_of_length_lt hlt), .endOfData⟩
    · cases h

theorem delimited_blob : blob.Delimited where
  toLawful := lawful_blob
  read_cut {x cut missing} hmissing h := by
    obtain ⟨n, hn, h⟩ := bind_eq_ok_iff.mp h
    rcases cut_append (Except.ok.inj h) with ⟨rest, hrest, rfl⟩ | ⟨begun, rfl, rfl⟩
    · exact delimited_size.bind_read_cut hrest hn
    · have hlt := length_lt_of_cut hmissing (rfl : begun ++ missing = begun ++ missing)
      exact ⟨_, (bind_of_eq_ok (lawful_size.read_append begun hn)).trans (take_of_length_lt hlt),
        .endOfData⟩

theorem delimited_text : text.Delimited where
  toLawful := lawful_text
  read_cut hmissing h := delimited_blob.bind_read_cut hmissing h

/-! ### Composite values -/

namespace Delimited

theorem pair {f : Format α} {g : Format β} (hf : f.Delimited) (hg : g.Delimited) :
    (f.pair g).Delimited where
  toLawful := hf.toLawful.pair hg.toLawful
  read_cut {x cut missing} hmissing h := by
    obtain ⟨u, hu, h⟩ := bind_eq_ok_iff.mp h
    obtain ⟨v, hv, h⟩ := bind_eq_ok_iff.mp h
    rcases cut_append (Except.ok.inj h) with ⟨rest, hrest, rfl⟩ | ⟨begun, rfl, rfl⟩
    · exact hf.bind_read_cut hrest hu
    · obtain ⟨e, he, hearly⟩ := hg.read_cut hmissing hv
      exact ⟨e, (bind_of_eq_ok (hf.read_append begun hu)).trans (bind_of_eq_error he), hearly⟩

theorem iso {f : Format α} {pack : α → β} {unpack : β → α} (hf : f.Delimited)
    (pack_unpack : ∀ y, pack (unpack y) = y) (unpack_pack : ∀ x, unpack (pack x) = x) :
    (f.iso pack unpack).Delimited where
  toLawful := hf.toLawful.iso pack_unpack unpack_pack
  read_cut hmissing h := hf.bind_read_cut hmissing h

/-- Of items that are cut off, the last one that is begun is refused. -/
theorem readAll_cut {f : Format α} (hf : f.Delimited) {xs : List α} {cut missing : Bytes}
    (hmissing : missing ≠ []) (h : writeAll f xs = .ok (cut ++ missing)) :
    ∃ e, readAll f xs.length cut = .error e ∧ e.EndsEarly := by
  induction xs generalizing cut with
  | nil => exact absurd (Except.ok.inj h) (nil_ne_cut hmissing)
  | cons x xs ih =>
    obtain ⟨u, hu, h⟩ := bind_eq_ok_iff.mp h
    obtain ⟨v, hv, h⟩ := bind_eq_ok_iff.mp h
    rcases cut_append (Except.ok.inj h) with ⟨rest, hrest, rfl⟩ | ⟨begun, rfl, rfl⟩
    · exact hf.bind_read_cut hrest hu
    · obtain ⟨e, he, hearly⟩ := ih hv
      exact ⟨e, (bind_of_eq_ok (hf.read_append begun hu)).trans (bind_of_eq_error he), hearly⟩

theorem sequence {f : Format α} {least : Nat} (hf : f.Delimited)
    (hl : ∀ x w, f.write x = .ok w → max least 1 ≤ w.length) : (sequence least f).Delimited where
  toLawful := hf.toLawful.sequence hl
  read_cut {xs cut missing} hmissing h := by
    obtain ⟨n, hn, h⟩ := bind_eq_ok_iff.mp h
    obtain ⟨ws, hws, h⟩ := bind_eq_ok_iff.mp h
    rcases cut_append (Except.ok.inj h) with ⟨rest, hrest, rfl⟩ | ⟨begun, rfl, rfl⟩
    · exact delimited_size.bind_read_cut hrest hn
    · -- The count is there. If the rest looks long enough for it, the items are read.
      by_cases hlong : xs.length * max least 1 > begun.length
      · exact ⟨_, (bind_of_eq_ok (lawful_size.read_append begun hn)).trans (if_pos hlong),
          .countExceedsInput _⟩
      · obtain ⟨e, he, hearly⟩ := hf.readAll_cut hmissing hws
        refine ⟨e, ?_, hearly⟩
        exact (bind_of_eq_ok (lawful_size.read_append begun hn)).trans ((if_neg hlong).trans he)

/-! ### Whole byte strings -/

theorem selfDelimiting {f : Format α} (hf : f.Delimited) : SelfDelimiting f.write f.decode where
  cut_refused bs x h cut hcut hne := by
    obtain ⟨missing, rfl⟩ := hcut
    have hmissing : missing ≠ [] := fun hnil => hne (by rw [hnil, List.append_nil])
    obtain ⟨e, he, hearly⟩ := hf.bind_read_cut hmissing (hf.decode_eq_ok_iff.mp h)
    exact ⟨e, he, rfl, hearly⟩
  extension_refused bs x h more hmore := by
    have hread := hf.read_append more (hf.decode_eq_ok_iff.mp h)
    have hnonempty : ¬more.isEmpty = true := by simpa using hmore
    exact ⟨_, (bind_of_eq_ok hread).trans (if_neg hnonempty), rfl, rfl⟩
  eq_of_isPrefix x y u v hu hv hprefix := by
    obtain ⟨rest, rfl⟩ := hprefix
    obtain ⟨-, heq, -⟩ := hf.eq_of_append_eq hu hv (List.append_nil _).symm
    exact heq

end Delimited

end Format

open Format

/-! ### Messages -/

theorem Transaction.delimited_format : Transaction.format.Delimited :=
  (delimited_text.pair <| delimited_text.pair <| delimited_word64.pair <| delimited_word64.pair <|
    delimited_word64.pair <| delimited_word64.pair delimited_blob).iso (fun _ => rfl) (fun _ => rfl)

theorem GenesisAccount.delimited_format : GenesisAccount.format.Delimited :=
  (delimited_text.pair delimited_word64).iso (fun _ => rfl) (fun _ => rfl)

theorem Format.delimited_texts : (Format.sequence 4 Format.text).Delimited :=
  delimited_text.sequence fun _ _ h => Format.four_le_length_text h

theorem Format.delimited_genesisAccounts : (Format.sequence 12 GenesisAccount.format).Delimited :=
  GenesisAccount.delimited_format.sequence fun _ _ h => GenesisAccount.twelve_le_length h

namespace Request

theorem readFields_cut {r : Request} {cut missing : Bytes} (hmissing : missing ≠ [])
    (h : r.writeFields = .ok (cut ++ missing)) :
    ∃ e, readFields r.tag cut = .error e ∧ e.EndsEarly := by
  cases r with
  | info | commit =>
    exact absurd (Except.ok.inj h) (nil_ne_cut hmissing)
  | initChain validators accounts =>
    exact (delimited_texts.pair delimited_genesisAccounts).bind_read_cut hmissing h
  | beginBlock height proposer =>
    exact (delimited_word64.pair delimited_text).bind_read_cut hmissing h
  | deliverTx tx => exact delimited_blob.bind_read_cut hmissing h
  | endBlock height => exact delimited_word64.bind_read_cut hmissing h
  | query path data => exact (delimited_text.pair delimited_blob).bind_read_cut hmissing h

theorem delimited_format : Request.format.Delimited where
  toLawful := lawful_format
  read_cut {r cut missing} hmissing h := by
    obtain ⟨fields, hfields, h⟩ := bind_eq_ok_iff.mp h
    exact bind_read_byte_cut (Except.ok.inj h) fun begun hbegun =>
      readFields_cut hmissing (hbegun ▸ hfields)

end Request

namespace Response

theorem readFields_cut {r : Response} {cut missing : Bytes} (hmissing : missing ≠ [])
    (h : r.writeFields = .ok (cut ++ missing)) :
    ∃ e, readFields r.tag cut = .error e ∧ e.EndsEarly := by
  cases r with
  | info height latestHash appHash =>
    exact (delimited_word64.pair <| delimited_digest.pair delimited_digest).bind_read_cut hmissing h
  | initChain | beginBlock =>
    exact absurd (Except.ok.inj h) (nil_ne_cut hmissing)
  | deliverTx code log => exact (delimited_word32.pair delimited_text).bind_read_cut hmissing h
  | endBlock updates => exact delimited_texts.bind_read_cut hmissing h
  | commit height appHash =>
    exact (delimited_word64.pair delimited_digest).bind_read_cut hmissing h
  | query code value log =>
    exact (delimited_word32.pair <| delimited_blob.pair delimited_text).bind_read_cut hmissing h

theorem delimited_format : Response.format.Delimited where
  toLawful := lawful_format
  read_cut {r cut missing} hmissing h := by
    obtain ⟨fields, hfields, h⟩ := bind_eq_ok_iff.mp h
    exact bind_read_byte_cut (Except.ok.inj h) fun begun hbegun =>
      readFields_cut hmissing (hbegun ▸ hfields)

end Response

/-- **Messages delimit themselves.** A byte string that is read as a transaction, a request or a
response is refused when any part of its end is missing, and when any bytes follow it. So no written
form of a message is the beginning of another one. -/
theorem messages_delimit_themselves :
    SelfDelimiting Transaction.encode Transaction.decode ∧
    SelfDelimiting Request.encode Request.decode ∧
    SelfDelimiting Response.encode Response.decode := by
  refine ⟨?_, ?_, ?_⟩
  · exact Transaction.delimited_format.selfDelimiting
  · exact Request.delimited_format.selfDelimiting
  · exact Response.delimited_format.selfDelimiting

/-- A seeding request with nameless entries is all counts and lengths. It is refused when it stops
after its first count, and when a byte follows it that could be one more length. -/
theorem messages_delimit_themselves_namelessSeeding :
    let bs : Bytes := [2, 2, 0, 0, 0] ++ List.replicate 8 0 ++ [2, 0, 0, 0] ++ List.replicate 24 0
    Request.decode bs = .ok (.initChain ["", ""] [⟨"", 0⟩, ⟨"", 0⟩]) ∧
      (∃ e, Request.decode (bs.take 5) = .error e ∧ (Error.decode e).kind = .deserialization ∧
        e.EndsEarly) ∧
      Request.decode (bs ++ [0]) = .error (.trailingBytes 1) := by
  intro bs
  have hread : Request.decode bs = .ok (.initChain ["", ""] [⟨"", 0⟩, ⟨"", 0⟩]) := by
    cbv
  obtain ⟨-, hrequest, -⟩ := messages_delimit_themselves
  have hcut := hrequest.cut_refused bs _ hread (bs.take 5) (List.take_prefix 5 bs) (by decide)
  obtain ⟨e, he, -, rfl⟩ := hrequest.extension_refused bs _ hread [0] (by decide)
  exact ⟨hread, hcut, he⟩

end HostedLedger

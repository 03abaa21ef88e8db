import HostedLedger.Bytes.Lemmas
import HostedLedger.Wire.Format

/-!
# Lawful formats

Every format of the library is lawful: what it writes it reads back, whatever follows, and what it
reads is what it would have written. A lawful format therefore accepts exactly the written forms of
its values.

## Main results

* `Format.Lawful.pair`, `Format.Lawful.iso`, `Format.Lawful.sequence`: lawful formats are made of
  lawful formats
* `Format.Lawful.decode_eq_ok_iff`: the bytes that are accepted are the written forms
* `Format.Lawful.write_inj`: values with one written form are equal
* `Format.Lawful.eq_of_append_eq`: no written form continues another one
-/

namespace HostedLedger

namespace Format

variable {α β : Type}

/-- A sequence of two steps succeeds if both do. -/
theorem bind_eq_ok_iff {ε σ τ : Type} {x : Except ε σ} {f : σ → Except ε τ} {b : τ} :
    (x >>= f) = .ok b ↔ ∃ a, x = .ok a ∧ f a = .ok b := by
  cases x with
  | error e => simp [bind, Except.bind]
  | ok a => simp [bind, Except.bind]

/-! ### Parts of byte strings -/

theorem take_append (w rest : Bytes) : take w.length (w ++ rest) = .ok (w, rest) := by
  simp [take]

theorem take_eq_ok_iff {n : Nat} {bs w rest : Bytes} :
    take n bs = .ok (w, rest) ↔ w.length = n ∧ bs = w ++ rest := by
  constructor
  · intro h
    simp only [take] at h
    split at h
    · cases h
    · next hn =>
      cases h
      exact ⟨List.length_take_of_le (by omega), (List.take_append_drop n bs).symm⟩
  · rintro ⟨rfl, rfl⟩
    exact take_append w rest

/-! ### Single values -/

theorem lawful_byte : byte.Lawful where
  read_append {x bs} rest h := by
    cases h
    rfl
  write_of_read {x bs rest} h := by
    cases bs with
    | nil => cases h
    | cons b bs =>
      cases h
      exact ⟨[x], rfl, rfl⟩

theorem lawful_word32 : word32.Lawful where
  read_append {x bs} rest h := by
    cases h
    have := take_append (Bytes.ofUInt32 x) rest
    rw [Bytes.length_ofUInt32] at this
    simp only [word32, bind_eq_ok_iff]
    exact ⟨_, this, by simp [Bytes.toNat_ofUInt32, pure, Except.pure]⟩
  write_of_read {x bs rest} h := by
    simp only [word32, bind_eq_ok_iff] at h
    obtain ⟨⟨w, r⟩, ht, h⟩ := h
    cases h
    obtain ⟨hw, rfl⟩ := take_eq_ok_iff.1 ht
    refine ⟨_, rfl, ?_⟩
    have hlt := Bytes.toNat_lt w
    rw [hw] at hlt
    have : (UInt32.ofNat w.toNat).toNat = w.toNat := by
      rw [UInt32.toNat_ofNat']
      omega
    rw [Bytes.ofUInt32, this, ← hw, Bytes.ofNat_toNat]

theorem lawful_word64 : word64.Lawful where
  read_append {x bs} rest h := by
    cases h
    have := take_append (Bytes.ofUInt64 x) rest
    rw [Bytes.length_ofUInt64] at this
    simp only [word64, bind_eq_ok_iff]
    exact ⟨_, this, by simp [Bytes.toNat_ofUInt64, pure, Except.pure]⟩
  write_of_read {x bs rest} h := by
    simp only [word64, bind_eq_ok_iff] at h
    obtain ⟨⟨w, r⟩, ht, h⟩ := h
    cases h
    obtain ⟨hw, rfl⟩ := take_eq_ok_iff.1 ht
    refine ⟨_, rfl, ?_⟩
    have hlt := Bytes.toNat_lt w
    rw [hw] at hlt
    have : (UInt64.ofNat w.toNat).toNat = w.toNat := by
      rw [UInt64.toNat_ofNat']
      omega
    rw [Bytes.ofUInt64, this, ← hw, Bytes.ofNat_toNat]

theorem lawful_digest : digest.Lawful where
  read_append {x bs} rest h := by
    cases h
    have hl := x.length_bytes
    simp only [digest]
    rw [dif_pos (by simp [hl])]
    simp [← hl]
  write_of_read {x bs rest} h := by
    simp only [digest] at h
    split at h
    · cases h
      exact ⟨_, rfl, (List.take_append_drop 32 bs).symm⟩
    · cases h

theorem lawful_size : size.Lawful where
  read_append {x bs} rest h := by
    simp only [size] at h
    split at h
    · next hx =>
      cases h
      have := take_append (Bytes.ofNat 4 x) rest
      rw [Bytes.length_ofNat] at this
      simp only [size, bind_eq_ok_iff]
      refine ⟨_, this, ?_⟩
      simp only [pure, Except.pure]
      rw [Bytes.toNat_ofNat (by simpa using hx)]
    · cases h
  write_of_read {x bs rest} h := by
    simp only [size, bind_eq_ok_iff] at h
    obtain ⟨⟨w, r⟩, ht, h⟩ := h
    cases h
    obtain ⟨hw, rfl⟩ := take_eq_ok_iff.1 ht
    have hlt := Bytes.toNat_lt w
    rw [hw] at hlt
    refine ⟨w, ?_, rfl⟩
    simp only [size]
    rw [if_pos (by simpa using hlt), ← hw, Bytes.ofNat_toNat]

theorem lawful_blob : blob.Lawful where
  read_append {x bs} rest h := by
    simp only [blob, bind_eq_ok_iff] at h
    obtain ⟨n, hn, h⟩ := h
    cases h
    simp only [blob, bind_eq_ok_iff]
    refine ⟨(x.length, x ++ rest), ?_, take_append x rest⟩
    rw [List.append_assoc]
    exact lawful_size.read_append _ hn
  write_of_read {x bs rest} h := by
    simp only [blob, bind_eq_ok_iff] at h
    obtain ⟨⟨n, r⟩, hn, ht⟩ := h
    obtain ⟨rfl, rfl⟩ := take_eq_ok_iff.1 ht
    obtain ⟨w, hw, rfl⟩ := lawful_size.write_of_read hn
    refine ⟨w ++ x, ?_, by simp⟩
    simp only [blob, bind_eq_ok_iff]
    exact ⟨w, hw, rfl⟩

theorem lawful_text : text.Lawful where
  read_append {x bs} rest h := by
    simp only [text, bind_eq_ok_iff]
    exact ⟨_, lawful_blob.read_append rest h, by simp [pure, Except.pure]⟩
  write_of_read {x bs rest} h := by
    simp only [text, bind_eq_ok_iff] at h
    obtain ⟨⟨w, r⟩, hw, h⟩ := h
    split at h
    · next s hs =>
      cases h
      obtain rfl := Utf8.eq_encode_of_decode hs
      exact lawful_blob.write_of_read hw
    · cases h

/-! ### Composite values -/

namespace Lawful

theorem pair {f : Format α} {g : Format β} (hf : f.Lawful) (hg : g.Lawful) :
    (f.pair g).Lawful where
  read_append {x bs} rest h := by
    simp only [Format.pair, bind_eq_ok_iff] at h
    obtain ⟨u, hu, v, hv, h⟩ := h
    cases h
    simp only [Format.pair, bind_eq_ok_iff]
    refine ⟨(x.1, v ++ rest), ?_, (x.2, rest), hg.read_append rest hv, rfl⟩
    rw [List.append_assoc]
    exact hf.read_append _ hu
  write_of_read {x bs rest} h := by
    simp only [Format.pair, bind_eq_ok_iff] at h
    obtain ⟨⟨a, r⟩, ha, ⟨b, r'⟩, hb, h⟩ := h
    cases h
    obtain ⟨v, hv, rfl⟩ := hg.write_of_read hb
    obtain ⟨u, hu, rfl⟩ := hf.write_of_read ha
    refine ⟨u ++ v, ?_, by simp⟩
    simp only [Format.pair, bind_eq_ok_iff]
    exact ⟨u, hu, v, hv, rfl⟩

theorem iso {f : Format α} {pack : α → β} {unpack : β → α} (hf : f.Lawful)
    (pack_unpack : ∀ y, pack (unpack y) = y) (unpack_pack : ∀ x, unpack (pack x) = x) :
    (f.iso pack unpack).Lawful where
  read_append {x bs} rest h := by
    simp only [Format.iso, bind_eq_ok_iff]
    exact ⟨_, hf.read_append rest h, by simp [pack_unpack, pure, Except.pure]⟩
  write_of_read {x bs rest} h := by
    simp only [Format.iso, bind_eq_ok_iff] at h
    obtain ⟨⟨a, r⟩, ha, h⟩ := h
    cases h
    simpa only [Format.iso, unpack_pack] using hf.write_of_read ha

theorem readAll_append {f : Format α} (hf : f.Lawful) {xs : List α} {ws : Bytes} (rest : Bytes)
    (h : writeAll f xs = .ok ws) : readAll f xs.length (ws ++ rest) = .ok (xs, rest) := by
  induction xs generalizing ws with
  | nil =>
    cases h
    rfl
  | cons x xs ih =>
    simp only [writeAll, bind_eq_ok_iff] at h
    obtain ⟨u, hu, v, hv, h⟩ := h
    cases h
    simp only [List.length_cons, readAll, bind_eq_ok_iff]
    refine ⟨(x, v ++ rest), ?_, (xs, rest), ih hv, rfl⟩
    rw [List.append_assoc]
    exact hf.read_append _ hu

theorem writeAll_of_readAll {f : Format α} (hf : f.Lawful) {n : Nat} {xs : List α}
    {bs rest : Bytes} (h : readAll f n bs = .ok (xs, rest)) :
    xs.length = n ∧ ∃ ws, writeAll f xs = .ok ws ∧ bs = ws ++ rest := by
  induction n generalizing xs bs with
  | zero =>
    cases h
    exact ⟨rfl, [], rfl, rfl⟩
  | succ n ih =>
    simp only [readAll, bind_eq_ok_iff] at h
    obtain ⟨⟨x, r⟩, hx, ⟨ys, r'⟩, hys, h⟩ := h
    cases h
    obtain ⟨hl, v, hv, rfl⟩ := ih hys
    obtain ⟨u, hu, rfl⟩ := hf.write_of_read hx
    refine ⟨by simp [hl], u ++ v, ?_, by simp⟩
    simp only [writeAll, bind_eq_ok_iff]
    exact ⟨u, hu, v, hv, rfl⟩

/-- Items that take at least `least` bytes each take at least that many bytes in all. -/
theorem le_length_writeAll {f : Format α} {least : Nat}
    (hl : ∀ x w, f.write x = .ok w → least ≤ w.length) {xs : List α} {ws : Bytes}
    (h : writeAll f xs = .ok ws) : xs.length * least ≤ ws.length := by
  induction xs generalizing ws with
  | nil => simp
  | cons x xs ih =>
    simp only [writeAll, bind_eq_ok_iff] at h
    obtain ⟨u, hu, v, hv, h⟩ := h
    cases h
    have := hl x u hu
    have := ih hv
    simp only [List.length_cons, List.length_append, Nat.succ_mul]
    omega

theorem sequence {f : Format α} {least : Nat} (hf : f.Lawful)
    (hl : ∀ x w, f.write x = .ok w → max least 1 ≤ w.length) : (sequence least f).Lawful where
  read_append {xs bs} rest h := by
    simp only [Format.sequence, bind_eq_ok_iff] at h
    obtain ⟨n, hn, ws, hws, h⟩ := h
    cases h
    have hsize := lawful_size.read_append (ws ++ rest) hn
    have hle := le_length_writeAll hl hws
    simp only [Format.sequence, bind_eq_ok_iff]
    refine ⟨_, by rwa [List.append_assoc], ?_⟩
    simp only
    rw [if_neg (by simp only [List.length_append]; omega)]
    exact readAll_append hf rest hws
  write_of_read {xs bs rest} h := by
    simp only [Format.sequence, bind_eq_ok_iff] at h
    obtain ⟨⟨n, r⟩, hn, h⟩ := h
    simp only at h
    split at h
    · cases h
    · obtain ⟨rfl, ws, hws, rfl⟩ := writeAll_of_readAll hf h
      obtain ⟨w, hw, rfl⟩ := lawful_size.write_of_read hn
      refine ⟨w ++ ws, ?_, by simp⟩
      simp only [Format.sequence, bind_eq_ok_iff]
      exact ⟨w, hw, ws, hws, rfl⟩

/-! ### Whole byte strings -/

/-- The bytes that are accepted are the written forms. -/
theorem decode_eq_ok_iff {f : Format α} (hf : f.Lawful) {bs : Bytes} {x : α} :
    f.decode bs = .ok x ↔ f.write x = .ok bs := by
  simp only [decode, bind_eq_ok_iff]
  constructor
  · rintro ⟨⟨y, rest⟩, hy, h⟩
    simp only at h
    split at h
    · next hr =>
      cases h
      obtain ⟨w, hw, rfl⟩ := hf.write_of_read hy
      simpa [List.isEmpty_iff.1 hr] using hw
    · cases h
  · intro h
    have := hf.read_append [] h
    rw [List.append_nil] at this
    exact ⟨_, this, rfl⟩

/-- Values with one written form are equal. -/
theorem write_inj {f : Format α} (hf : f.Lawful) {x y : α} {bs : Bytes} (hx : f.write x = .ok bs)
    (hy : f.write y = .ok bs) : x = y := by
  have hread := hf.decode_eq_ok_iff.mpr hx
  rw [hf.decode_eq_ok_iff.mpr hy] at hread
  exact (Except.ok.inj hread).symm

/-- No written form continues another one. -/
theorem eq_of_append_eq {f : Format α} (hf : f.Lawful) {x y : α} {u v r s : Bytes}
    (hu : f.write x = .ok u) (hv : f.write y = .ok v) (h : u ++ r = v ++ s) :
    x = y ∧ u = v ∧ r = s := by
  have hx := hf.read_append r hu
  rw [h, hf.read_append s hv] at hx
  cases hx
  exact ⟨rfl, List.append_cancel_right h, rfl⟩

end Lawful

end Format

end HostedLedger

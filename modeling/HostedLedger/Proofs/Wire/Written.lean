import HostedLedger.Transaction
import HostedLedger.Wire.Lawful

/-!
# Values with a written form

A length takes four bytes, so a value whose lengths are larger has no written form. All other
values have one. Each format says which of its values these are, by what it is made of.

## Main definitions

* `Format.Writes`: a value has a written form

## Main results

* `Format.writes_text_iff`, `Format.writes_pair_iff`, `Format.writes_sequence_iff`: the values that
  have one
* `Transaction.writes_iff`: the transactions that have one
* `exists_bind_eq_ok_iff`, `exists_bind₂_eq_ok_iff`, `exists_mapM_eq_ok_iff`: one step, two steps
  and a step for every item of a list go through if each of them does
-/

namespace HostedLedger

/-- A step after which nothing can fail goes through if it does. -/
theorem exists_bind_eq_ok_iff {ε σ τ : Type} {x : Except ε σ} {f : σ → τ} :
    (∃ b, (do let a ← x; return f a) = .ok b) ↔ ∃ a, x = .ok a := by
  simp only [Format.bind_eq_ok_iff]
  constructor
  · rintro ⟨-, a, ha, -⟩
    exact ⟨a, ha⟩
  · rintro ⟨a, ha⟩
    exact ⟨_, a, ha, rfl⟩

/-- Two steps that do not depend on each other go through together if each of them does. -/
theorem exists_bind₂_eq_ok_iff {ε σ τ υ : Type} {x : Except ε σ} {y : Except ε τ} {f : σ → τ → υ} :
    (∃ c, (do let a ← x; let b ← y; return f a b) = .ok c) ↔
      (∃ a, x = .ok a) ∧ ∃ b, y = .ok b := by
  simp only [Format.bind_eq_ok_iff]
  constructor
  · rintro ⟨-, a, ha, b, hb, -⟩
    exact ⟨⟨a, ha⟩, b, hb⟩
  · rintro ⟨⟨a, ha⟩, b, hb⟩
    exact ⟨_, a, ha, b, hb, rfl⟩

/-- A step for every item of a list goes through if it does for each item. -/
theorem exists_mapM_eq_ok_iff {α β ε : Type} {f : α → Except ε β} {xs : List α} :
    (∃ ys, xs.mapM f = .ok ys) ↔ ∀ x ∈ xs, ∃ y, f x = .ok y := by
  induction xs with
  | nil => exact iff_of_true ⟨[], rfl⟩ (by simp)
  | cons x xs ih => rw [List.mapM_cons, exists_bind₂_eq_ok_iff, ih, List.forall_mem_cons]

theorem length_of_mapM_eq_ok {α β ε : Type} {f : α → Except ε β} {xs : List α} {ys : List β}
    (h : xs.mapM f = .ok ys) : ys.length = xs.length := by
  induction xs generalizing ys with
  | nil =>
    cases h
    rfl
  | cons x xs ih =>
    simp only [List.mapM_cons, Format.bind_eq_ok_iff] at h
    obtain ⟨y, -, ys, hys, h⟩ := h
    cases h
    rw [List.length_cons, List.length_cons, ih hys]

namespace Format

variable {α β : Type}

/-- A value has a written form. -/
def Writes (f : Format α) (x : α) : Prop := ∃ w, f.write x = .ok w

theorem writes_word64 (n : UInt64) : word64.Writes n := ⟨_, rfl⟩

theorem writes_digest (d : Digest) : digest.Writes d := ⟨_, rfl⟩

theorem writes_size_iff {n : Nat} : size.Writes n ↔ n < UInt32.size := by
  simp only [Writes, size]
  split <;> simp [*]

theorem writes_blob_iff {bs : Bytes} : blob.Writes bs ↔ bs.length < UInt32.size := by
  rw [← writes_size_iff]
  exact exists_bind_eq_ok_iff

theorem writes_text_iff {s : String} :
    text.Writes s ↔ (Utf8.encode s).length < UInt32.size := writes_blob_iff

theorem writes_pair_iff {f : Format α} {g : Format β} {p : α × β} :
    (f.pair g).Writes p ↔ f.Writes p.1 ∧ g.Writes p.2 := exists_bind₂_eq_ok_iff

theorem writes_iso_iff {f : Format α} {pack : α → β} {unpack : β → α} {y : β} :
    (f.iso pack unpack).Writes y ↔ f.Writes (unpack y) := Iff.rfl

theorem exists_writeAll_iff {f : Format α} {xs : List α} :
    (∃ w, writeAll f xs = .ok w) ↔ ∀ x ∈ xs, f.Writes x := by
  induction xs with
  | nil => exact iff_of_true ⟨[], rfl⟩ (by simp)
  | cons x xs ih => rw [writeAll, exists_bind₂_eq_ok_iff, ih, List.forall_mem_cons, Writes]

theorem writes_sequence_iff {least : Nat} {f : Format α} {xs : List α} :
    (sequence least f).Writes xs ↔ xs.length < UInt32.size ∧ ∀ x ∈ xs, f.Writes x := by
  rw [← writes_size_iff, ← exists_writeAll_iff]
  exact exists_bind₂_eq_ok_iff

end Format

/-- A transaction has a written form if its addresses and its signature have one. -/
theorem Transaction.writes_iff {tx : Transaction} :
    Transaction.format.Writes tx ↔
      Format.text.Writes tx.sender ∧ Format.text.Writes tx.recipient ∧
        Format.blob.Writes tx.signature := by
  simp [Transaction.format, Format.writes_iso_iff, Format.writes_pair_iff, Format.writes_word64]

end HostedLedger

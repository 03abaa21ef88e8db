import HostedLedger.Bytes.Lemmas
import HostedLedger.Error.Report
import HostedLedger.Proofs.Validator.Call
import HostedLedger.Word.Lemmas
import Mathlib.Algebra.Order.Floor.Div
import Mathlib.Data.Nat.Count
import Mathlib.Order.Interval.Finset.Nat

/-!
# Draws in proportion to stakes

The stakes of a set, laid end to end in the order of the addresses, divide the numbers below the
total stake into one interval for each validator. A draw is reduced modulo the total stake and
falls into exactly one of them. So of the targets a validator owns as many as its stake, and of the
draws as many as its stake times the number of times that the total goes into them, rounded down or
up.

## Main definitions

* `ValidatorSet.stakes`: the stakes of a list of validators, together
* `ValidatorSet.stakeBelow`: the stakes of the addresses before an address
* `ValidatorSet.Owns`: a target lies in the interval of a validator

## Main results

* `ValidatorSet.coveringFrom?_eq_some_iff`: which validator of a list covers a target
* `ValidatorSet.Sound.covering?_eq_some_iff`: a target is covered by the validator that owns it
* `ValidatorSet.Sound.count_owns`: a validator owns as many targets as its stake
* `count_mod_mul`: of the numbers below a multiple of `n`, equally many have each remainder
* `ValidatorSet.selection_proportional`: selection on the sets that calls lead to
-/

namespace HostedLedger

/-- A property of remainders is had equally often in each of the first `q` rounds of `n` numbers. -/
theorem count_mod_mul (p : Nat → Prop) [DecidablePred p] (n q : Nat) :
    Nat.count (fun k => p (k % n)) (n * q) = q * Nat.count p n := by
  induction q with
  | zero => simp
  | succ q ih =>
    have hround : Nat.count (fun k => p ((n * q + k) % n)) n = Nat.count p n := by
      simp only [Nat.count_eq_card_filter_range]
      congr 1
      refine Finset.filter_congr fun k hk => ?_
      rw [Nat.mul_add_mod, Nat.mod_eq_of_lt (Finset.mem_range.mp hk)]
    rw [Nat.mul_succ, Nat.count_add, ih, hround, Nat.succ_mul]

namespace ValidatorSet

/-- The stakes of validators, together. -/
def stakes (vs : List Validator) : Nat := (vs.map (·.stake.toNat)).sum

@[simp] theorem stakes_nil : stakes [] = 0 := rfl

@[simp] theorem stakes_cons (v : Validator) (vs : List Validator) :
    stakes (v :: vs) = v.stake.toNat + stakes vs := List.sum_cons

@[simp] theorem stakes_append (vs ws : List Validator) :
    stakes (vs ++ ws) = stakes vs + stakes ws := by
  rw [stakes, List.map_append, List.sum_append]
  rfl

theorem totalStake_eq_stakes (s : ValidatorSet) : s.totalStake = stakes s.toList := by
  rw [totalStake]
  induction s.toList with
  | nil => rfl
  | cons v vs ih => rw [List.foldr_cons, ih, stakes_cons]

/-! ### Intervals laid end to end -/

section Intervals

variable {target start : Nat} {vs : List Validator} {v : Validator}

/-- The validator that covers a target is the one whose stake reaches from the stakes before it to
beyond the target. -/
theorem coveringFrom?_eq_some_iff (le : start ≤ target) :
    coveringFrom? target start vs = some v ↔
      ∃ before after, vs = before ++ v :: after ∧ start + stakes before ≤ target ∧
        target < start + stakes before + v.stake.toNat := by
  induction vs generalizing start with
  | nil => simp [coveringFrom?]
  | cons w vs ih =>
    rw [coveringFrom?]
    split
    · next hlt =>
      constructor
      · rintro ⟨⟩
        exact ⟨[], vs, rfl, le, hlt⟩
      · rintro ⟨before, after, heq, hle, -⟩
        rcases before with _ | ⟨u, before⟩
        · cases heq
          rfl
        · cases heq
          rw [stakes_cons] at hle
          omega
    · next hge =>
      rw [ih (by omega)]
      constructor
      · rintro ⟨before, after, rfl, hle, hlt⟩
        refine ⟨w :: before, after, rfl, ?_, ?_⟩ <;> rw [stakes_cons] <;> omega
      · rintro ⟨before, after, heq, hle, hlt⟩
        rcases before with _ | ⟨u, before⟩
        · cases heq
          rw [stakes_nil] at hlt
          omega
        · cases heq
          rw [stakes_cons] at hle hlt
          exact ⟨before, after, rfl, by omega, by omega⟩

/-- Below the sum of all stakes, every target is covered. -/
theorem exists_coveringFrom? (le : start ≤ target) (lt : target < start + stakes vs) :
    ∃ v, coveringFrom? target start vs = some v := by
  induction vs generalizing start with
  | nil =>
    rw [stakes_nil] at lt
    omega
  | cons w vs ih =>
    rw [coveringFrom?]
    split
    · exact ⟨w, rfl⟩
    · rw [stakes_cons] at lt
      exact ih (by omega) (by omega)

end Intervals

/-- The stakes of the addresses before an address, together. -/
def stakeBelow (s : ValidatorSet) (address : String) : Nat :=
  stakes (s.toList.filter fun v => compare v.address address = .lt)

/-- A target lies in the interval of a validator, which starts where the stakes of the addresses
before it end. -/
def Owns (s : ValidatorSet) (v : Validator) (target : Nat) : Prop :=
  s.stakeBelow v.address ≤ target ∧ target < s.stakeBelow v.address + v.stake.toNat

instance (s : ValidatorSet) (v : Validator) : DecidablePred (s.Owns v) :=
  fun target => inferInstanceAs (Decidable (_ ≤ target ∧ target < _))

theorem draw_lt (seed : UInt64) : draw seed < 2 ^ 128 := by
  have hlt := Bytes.toNat_lt ((sha256 (drawPreimage seed)).bytes.take 16)
  rw [List.length_take, (sha256 (drawPreimage seed)).length_bytes] at hlt
  exact hlt

/-- The digits of a draw are the bytes of a digest. -/
theorem draw_eq_ofDigits (seed : UInt64) :
    draw seed = Nat.ofDigits 256 (((sha256 (Utf8.encode "chainbridge/proposer" ++
      (List.range 8).map fun i => (seed.toNat / 256 ^ i).toUInt8)).bytes.take 16).map
        (·.toNat)) := by
  rw [draw, Bytes.toNat_eq_ofDigits, drawPreimage, Bytes.ofUInt64, Bytes.ofNat_eq_map_range]

theorem select_of_isEmpty {s : ValidatorSet} (empty : s.isEmpty = true) (seed : UInt64) :
    s.select seed = .error .noValidators := by
  have hentries : s.members.entries = [] := List.isEmpty_iff.mp empty
  have htotal : s.totalStake = 0 := by
    rw [totalStake, toList, SortedMap.values, hentries]
    rfl
  rw [select, if_pos htotal]

namespace Sound

variable {s : ValidatorSet} (sound : s.Sound) {v : Validator}
include sound

/-- In a set the addresses before an address are those of the validators in front. -/
theorem stakeBelow_eq {before after : List Validator} (h : s.toList = before ++ v :: after) :
    s.stakeBelow v.address = stakes before := by
  have hsorted := sound.pairwise_toList
  rw [h, List.pairwise_append, List.pairwise_cons] at hsorted
  obtain ⟨-, ⟨hafter, -⟩, hbefore⟩ := hsorted
  have hfront : before.filter (fun u => compare u.address v.address = .lt) = before := by
    refine List.filter_eq_self.mpr fun u hu => ?_
    simpa using hbefore u hu v List.mem_cons_self
  have hback : after.filter (fun u => compare u.address v.address = .lt) = [] := by
    refine List.filter_eq_nil_iff.mpr fun u hu => ?_
    simp [Std.OrientedCmp.gt_of_lt (hafter u hu)]
  rw [stakeBelow, h, List.filter_append, hfront, List.filter_cons_of_neg (by simp), hback,
    List.append_nil]

/-- A target is covered by the validator that owns it. -/
theorem covering?_eq_some_iff {target : Nat} :
    s.covering? target = some v ↔ v ∈ s.toList ∧ s.Owns v target := by
  rw [covering?, coveringFrom?_eq_some_iff (Nat.zero_le target)]
  simp only [Nat.zero_add, Owns]
  constructor
  · rintro ⟨before, after, heq, hle, hlt⟩
    rw [sound.stakeBelow_eq heq, heq]
    exact ⟨List.mem_append_right before List.mem_cons_self, hle, hlt⟩
  · rintro ⟨hmem, hle, hlt⟩
    obtain ⟨before, after, heq⟩ := List.append_of_mem hmem
    rw [sound.stakeBelow_eq heq] at hle hlt
    exact ⟨before, after, heq, hle, hlt⟩

/-- Every interval ends within the total stake. -/
theorem stakeBelow_add_le (hv : v ∈ s.toList) :
    s.stakeBelow v.address + v.stake.toNat ≤ s.totalStake := by
  obtain ⟨before, after, heq⟩ := List.append_of_mem hv
  rw [sound.stakeBelow_eq heq, totalStake_eq_stakes, heq, stakes_append, stakes_cons]
  omega

/-- A set that is not empty has a stake. -/
theorem totalStake_pos (nonempty : s.isEmpty = false) : 0 < s.totalStake := by
  have hentries : s.members.entries ≠ [] := fun h => by
    rw [isEmpty, SortedMap.isEmpty, h] at nonempty
    cases nonempty
  obtain ⟨e, he⟩ := List.exists_mem_of_ne_nil _ hentries
  have hpos := sound.stake_pos (s.members.get?_eq_some_iff.mpr he)
  have hle := sound.stakeBelow_add_le (List.mem_map_of_mem he)
  omega

/-! ### Draws -/

/-- A seed draws the validator that owns its target. -/
theorem select_eq_ok_iff (pos : 0 < s.totalStake) {seed : UInt64} :
    s.select seed = .ok v ↔ v ∈ s.toList ∧ s.Owns v (draw seed % s.totalStake) := by
  rw [← sound.covering?_eq_some_iff, select, if_neg (Nat.ne_of_gt pos)]
  dsimp only
  split
  · next w hw => rw [hw, Except.ok.injEq, Option.some.injEq]
  · next hnone => simp [hnone]

/-- No draw misses the intervals. -/
theorem exists_select (pos : 0 < s.totalStake) (seed : UInt64) :
    ∃ v, s.select seed = .ok v := by
  have hlt : draw seed % s.totalStake < 0 + stakes s.toList := by
    rw [Nat.zero_add, ← totalStake_eq_stakes]
    exact Nat.mod_lt (draw seed) pos
  obtain ⟨v, hv⟩ := exists_coveringFrom? (Nat.zero_le _) hlt
  exact ⟨v, (sound.select_eq_ok_iff pos).mpr (sound.covering?_eq_some_iff.mp hv)⟩

/-- A validator owns as many targets as its stake. -/
theorem count_owns (hv : v ∈ s.toList) : Nat.count (s.Owns v) s.totalStake = v.stake.toNat := by
  have hle := sound.stakeBelow_add_le hv
  have hinterval : (Finset.range s.totalStake).filter (s.Owns v) =
      Finset.Ico (s.stakeBelow v.address) (s.stakeBelow v.address + v.stake.toNat) := by
    ext target
    rw [Finset.mem_filter, Finset.mem_range, Finset.mem_Ico, Owns]
    omega
  rw [Nat.count_eq_card_filter_range, hinterval, Nat.card_Ico, Nat.add_sub_cancel_left]

/-- Of the draws below a number, a validator owns as many as its stake for each time that the total
stake goes into that number, rounded down or up. -/
theorem count_draws (pos : 0 < s.totalStake) (hv : v ∈ s.toList) (n : Nat) :
    v.stake.toNat * (n / s.totalStake) ≤ Nat.count (fun r => s.Owns v (r % s.totalStake)) n ∧
      Nat.count (fun r => s.Owns v (r % s.totalStake)) n ≤
        v.stake.toNat * (n ⌈/⌉ s.totalStake) := by
  have hrounds (q : Nat) : Nat.count (fun r => s.Owns v (r % s.totalStake)) (s.totalStake * q) =
      v.stake.toNat * q := by
    rw [count_mod_mul, sound.count_owns hv, Nat.mul_comm]
  rw [← hrounds, ← hrounds]
  exact ⟨Nat.count_monotone _ (Nat.mul_div_le n s.totalStake),
    Nat.count_monotone _ (le_smul_ceilDiv pos)⟩

end Sound

/-- **Selection is total and proportional.** Take any set that adding, removing and counting
proposals lead to. If it is empty, every selection fails for want of validators. Otherwise every
seed selects a validator, and it is the one in whose interval the draw lies, when the stakes are
laid end to end in the order of the addresses and the draw is reduced modulo their total. The draw
is the number with the first sixteen bytes of a digest as its digits, the lowest one first. So each
validator owns exactly as many of the targets as its stake, and of the `2 ^ 128` draws at least and
at most its stake times the number of times that the total goes into `2 ^ 128`, rounded down and up.
With fewer than `2 ^ 64` validators no sum of stakes needs more than 128 bits. -/
theorem selection_proportional (minStake : UInt64) (calls : List Call) :
    let s := perform.after (new minStake) calls
    (∀ v ∈ s.toList, 0 < v.stake.toNat ∧ minStake ≤ v.stake) ∧
    (s.isEmpty = true → ∀ seed, ∃ e, s.select seed = .error e ∧ e.kind = .consensus) ∧
    (s.isEmpty = false → 0 < s.totalStake ∧
      (∀ seed, draw seed < 2 ^ 128 ∧
        draw seed = Nat.ofDigits 256 (((sha256 (Utf8.encode "chainbridge/proposer" ++
          (List.range 8).map fun i => (seed.toNat / 256 ^ i).toUInt8)).bytes.take 16).map
            (·.toNat)) ∧
        (∃ v, s.select seed = .ok v) ∧
        ∀ v, s.select seed = .ok v ↔ v ∈ s.toList ∧ s.Owns v (draw seed % s.totalStake)) ∧
      ∀ v ∈ s.toList,
        Nat.count (s.Owns v) s.totalStake = v.stake.toNat ∧
        v.stake.toNat * (2 ^ 128 / s.totalStake) ≤
          Nat.count (fun r => s.Owns v (r % s.totalStake)) (2 ^ 128) ∧
        Nat.count (fun r => s.Owns v (r % s.totalStake)) (2 ^ 128) ≤
          v.stake.toNat * (2 ^ 128 ⌈/⌉ s.totalStake)) ∧
    (s.size < UInt64.size → s.totalStake < 2 ^ 128 ∧ ∀ n, stakes (s.toList.take n) < 2 ^ 128) := by
  intro s
  have sound : s.Sound := sound_after minStake calls
  refine ⟨fun v hv => ?_, fun empty seed => ?_, fun nonempty => ?_, fun hsize => ?_⟩
  · have hfound := sound.mem_toList_iff.mp hv
    have hle : s.minStake ≤ v.stake := sound.minStake_le hfound
    rw [minStake_after] at hle
    exact ⟨sound.stake_pos hfound, hle⟩
  · exact ⟨.noValidators, select_of_isEmpty empty seed, rfl⟩
  · have hpos := sound.totalStake_pos nonempty
    refine ⟨hpos, fun seed => ?_, fun v hv => ?_⟩
    · exact ⟨draw_lt seed, draw_eq_ofDigits seed, sound.exists_select hpos seed,
        fun v => sound.select_eq_ok_iff hpos⟩
    · exact ⟨sound.count_owns hv, sound.count_draws hpos hv (2 ^ 128)⟩
  · have hlength : s.toList.length < UInt64.size := by
      rwa [toList, SortedMap.values, List.length_map]
    have htake (n : Nat) : stakes (s.toList.take n) < 2 ^ 128 :=
      Word.sum_take_lt Validator.stake hlength n
    have htotal := htake s.toList.length
    rw [List.take_length, ← totalStake_eq_stakes] at htotal
    exact ⟨htotal, htake⟩

/-- Of three validators one has left, and of a hundred targets the first seventy are those of the
address `v1`, although it came in last. -/
theorem selection_proportional_seventyThirty :
    let s := perform.after (new 5)
      [.add "v2" 30, .add "v0" 9, .add "v3" 4, .recordProposal "v2", .remove "v0", .add "v1" 70]
    let v : Validator := ⟨"v1", 70, 0⟩
    s.isEmpty = false ∧ v ∈ s.toList ∧ s.totalStake = 100 ∧ Nat.count (s.Owns v) 100 = 70 ∧
      70 * (2 ^ 128 / 100) ≤ Nat.count (fun r => s.Owns v (r % 100)) (2 ^ 128) ∧
      s.select 3 = .ok v := by
  intro s v
  have hnonempty : s.isEmpty = false := by decide +kernel
  have hmem : v ∈ s.toList := by decide +kernel
  have htotal : s.totalStake = 100 := by decide +kernel
  obtain ⟨-, -, hdraws, -⟩ := selection_proportional 5
    [.add "v2" 30, .add "v0" 9, .add "v3" 4, .recordProposal "v2", .remove "v0", .add "v1" 70]
  obtain ⟨-, hselect, hcount⟩ := hdraws hnonempty
  obtain ⟨htargets, hle, -⟩ := hcount v hmem
  have howns : s.Owns v (draw 3 % s.totalStake) := by decide +kernel
  have hselected : s.select 3 = .ok v := ((hselect 3).2.2.2 v).mpr ⟨hmem, howns⟩
  change Nat.count (s.Owns v) s.totalStake = 70 at htargets
  rw [htotal] at htargets
  change 70 * (2 ^ 128 / s.totalStake) ≤
    Nat.count (fun r => s.Owns v (r % s.totalStake)) (2 ^ 128) at hle
  rw [htotal] at hle
  exact ⟨hnonempty, hmem, htotal, htargets, hle, hselected⟩

end ValidatorSet

end HostedLedger

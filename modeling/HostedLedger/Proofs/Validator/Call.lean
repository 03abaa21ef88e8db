import HostedLedger.Proofs.Machine
import HostedLedger.SortedMap.Lemmas
import HostedLedger.Validator.Rotation

/-!
# Calls on validator sets and rotations

Three calls may change a validator set: adding a validator or changing its stake, removing one, and
counting a proposal of one. What a call does is one of a few effects. The sets that calls lead to
are sound: every validator stands under its own address, with a stake that the set accepts. The
calls on a rotation are made of these, and a draw counts a proposal and a round.

## Main definitions

* `ValidatorSet.Call`, `ValidatorSet.perform`, `Rotation.Call`, `Rotation.perform`: the calls, and
  the machines that carry them out
* `ValidatorSet.Effect`, `Rotation.Effect`: what a call may do
* `ValidatorSet.Sound s`: what every validator set keeps

## Main results

* `ValidatorSet.obeys_effect`, `Rotation.obeys_effect`: every call has one of the effects
* `ValidatorSet.sound_after`: calls lead to sound sets
* `ValidatorSet.Sound.mem_toList_iff`: the validators of a sound set are found by their addresses
* `ValidatorSet.Sound.pairwise_toList`: they stand in the order of their addresses
* `Rotation.eq_of_refused`: a call that is refused leaves the rotation alone
-/

namespace HostedLedger

namespace ValidatorSet

/-- A call that may change a validator set. -/
inductive Call
  | add (address : String) (stake : UInt64)
  | remove (address : String)
  | recordProposal (address : String)

/-- The answer to a call: nothing, or the record of the validator that it has removed. -/
abbrev Answer : Type := Except Error (Option Validator)

/-- Carries out a call. -/
def perform : Machine ValidatorSet Call Answer
  | s, .add address stake => (s.add address stake).map id (·.map fun _ => none)
  | s, .remove address => (s.remove address).map id (·.map some)
  | s, .recordProposal address => (s.recordProposal address, .ok none)

/-- How often the validator at an address has proposed; never, if there is none. -/
def proposals (s : ValidatorSet) (address : String) : UInt64 :=
  ((s.get? address).map (·.blocksProposed)).getD 0

/-- What a call may do to a validator set. -/
inductive Effect (s : ValidatorSet) : Call → Answer → ValidatorSet → Prop
  | refused {call : Call} {e : Error} : Effect s call (.error e) s
  | added {address : String} {stake : UInt64} (address_ne : address ≠ "") (stake_ne : stake ≠ 0)
    (minStake_le : s.minStake ≤ stake) :
    Effect s (.add address stake) (.ok none)
      { s with members := s.members.insert address ⟨address, stake, s.proposals address⟩ }
  | removed {address : String} {v : Validator} (present : s.get? address = some v) :
    Effect s (.remove address) (.ok (some v)) { s with members := s.members.erase address }
  | recorded {address : String} {v : Validator} (present : s.get? address = some v) :
    Effect s (.recordProposal address) (.ok none)
      { s with
        members :=
          s.members.insert address ⟨v.address, v.stake, Word.saturatingSucc v.blocksProposed⟩ }
  | unrecorded {address : String} : Effect s (.recordProposal address) (.ok none) s

theorem effect_add (s : ValidatorSet) (address : String) (stake : UInt64) :
    Effect s (.add address stake) ((s.add address stake).2.map fun _ => none)
      (s.add address stake).1 := by
  rw [add]
  split
  · exact .refused
  next haddress =>
  split
  · exact .refused
  next hstake =>
  split
  · exact .refused
  next hle => exact .added ((Address.check_eq_ok_iff _).mp haddress) hstake (UInt64.not_lt.mp hle)

theorem effect_remove (s : ValidatorSet) (address : String) :
    Effect s (.remove address) ((s.remove address).2.map some) (s.remove address).1 := by
  rw [remove]
  split
  · exact .refused
  next v hv => exact .removed hv

theorem effect_recordProposal (s : ValidatorSet) (address : String) :
    Effect s (.recordProposal address) (.ok none) (s.recordProposal address) := by
  rw [recordProposal]
  split
  · exact .unrecorded
  next v hv => exact .recorded hv

theorem obeys_effect : perform.Obeys Effect := by
  intro s call
  cases call with
  | add address stake => exact s.effect_add address stake
  | remove address => exact s.effect_remove address
  | recordProposal address => exact s.effect_recordProposal address

/-- A set keeps the smallest stake that it was made with. -/
theorem minStake_after (minStake : UInt64) (calls : List Call) :
    (perform.after (new minStake) calls).minStake = minStake :=
  obeys_effect.after_induction (P := fun s => s.minStake = minStake)
    (fun effect h => by cases effect <;> exact h) rfl calls

/-! ### Sound sets -/

/-- What every validator set keeps: a validator stands under its own address, and has a stake that
is not zero and at least the smallest one. -/
structure Sound (s : ValidatorSet) : Prop where
  address_eq : ∀ {address v}, s.get? address = some v → v.address = address
  stake_pos : ∀ {address v}, s.get? address = some v → 0 < v.stake.toNat
  minStake_le : ∀ {address v}, s.get? address = some v → s.minStake ≤ v.stake

theorem sound_new (minStake : UInt64) : (new minStake).Sound where
  address_eq h := by cases h
  stake_pos h := by cases h
  minStake_le h := by cases h

theorem get?_insert (s : ValidatorSet) (address address' : String) (v : Validator) :
    get? { s with members := s.members.insert address v } address' =
      if address' = address then some v else s.get? address' :=
  s.members.get?_insert address address' v

theorem get?_erase (s : ValidatorSet) (address address' : String) :
    get? { s with members := s.members.erase address } address' =
      if address' = address then none else s.get? address' :=
  s.members.get?_erase address address'

namespace Sound

variable {s s' : ValidatorSet} (sound : s.Sound)
include sound

/-- A validator with an acceptable stake may be put under its address. -/
theorem insert {address : String} {v : Validator} (address_eq : v.address = address)
    (stake_pos : 0 < v.stake.toNat) (minStake_le : s.minStake ≤ v.stake) :
    Sound { s with members := s.members.insert address v } := by
  have hcases {a w} (h : get? { s with members := s.members.insert address v } a = some w) :
      (a = address ∧ w = v) ∨ s.get? a = some w := by
    rw [get?_insert] at h
    split at h
    · next ha => exact .inl ⟨ha, (Option.some.inj h).symm⟩
    · exact .inr h
  refine ⟨fun h => ?_, fun h => ?_, fun h => ?_⟩
  · rcases hcases h with ⟨rfl, rfl⟩ | h
    · exact address_eq
    · exact sound.address_eq h
  · rcases hcases h with ⟨-, rfl⟩ | h
    · exact stake_pos
    · exact sound.stake_pos h
  · rcases hcases h with ⟨-, rfl⟩ | h
    · exact minStake_le
    · exact sound.minStake_le h

theorem erase (address : String) : Sound { s with members := s.members.erase address } := by
  have hfound {a w} (h : get? { s with members := s.members.erase address } a = some w) :
      s.get? a = some w := by
    rw [get?_erase] at h
    split at h
    · cases h
    · exact h
  exact ⟨fun h => sound.address_eq (hfound h), fun h => sound.stake_pos (hfound h),
    fun h => sound.minStake_le (hfound h)⟩

theorem of_effect {call : Call} {answer : Answer} (effect : Effect s call answer s') :
    s'.Sound := by
  cases effect with
  | refused => exact sound
  | added _ stake_ne minStake_le =>
    refine sound.insert rfl (Nat.pos_of_ne_zero fun h => stake_ne ?_) minStake_le
    exact UInt64.toNat_inj.mp h
  | removed => exact sound.erase _
  | recorded present =>
    have haddress := sound.address_eq present
    have hpos := sound.stake_pos present
    have hle := sound.minStake_le present
    exact sound.insert haddress hpos hle
  | unrecorded => exact sound

/-- The validators of a sound set are found by their addresses. -/
theorem mem_toList_iff {v : Validator} : v ∈ s.toList ↔ s.get? v.address = some v := by
  constructor
  · intro h
    obtain ⟨⟨address, w⟩, hmem, rfl⟩ := List.mem_map.mp h
    have hfound : s.get? address = some w := s.members.get?_eq_some_iff.mpr hmem
    rw [sound.address_eq hfound]
    exact hfound
  · intro h
    exact List.mem_map_of_mem (s.members.get?_eq_some_iff.mp h)

/-- The validators of a sound set stand in the order of their addresses. -/
theorem pairwise_toList : s.toList.Pairwise fun v w => compare v.address w.address = .lt := by
  rw [toList, SortedMap.values, List.pairwise_map]
  refine s.members.sorted.imp_of_mem fun {x y} hx hy hlt => ?_
  have haddress {e : String × Validator} (he : e ∈ s.members.entries) : e.2.address = e.1 :=
    sound.address_eq (s.members.get?_eq_some_iff.mpr he)
  rw [haddress hx, haddress hy]
  exact hlt

end Sound

/-- **Calls lead to sound sets.** -/
theorem sound_after (minStake : UInt64) (calls : List Call) :
    (perform.after (new minStake) calls).Sound :=
  obeys_effect.after_induction (fun effect sound => sound.of_effect effect) (sound_new minStake)
    calls

end ValidatorSet

/-! ### Rotations -/

namespace Rotation

/-- A call on a rotation. -/
inductive Call
  | add (address : String) (stake : UInt64)
  | remove (address : String)
  | next
  | proposerAt (height : UInt64)

/-- What is answered to a call that is not refused. -/
inductive Reply
  | done
  | removed (v : Validator)
  | drawn (address : String)

/-- The answer to a call. -/
abbrev Answer : Type := Except Error Reply

/-- Carries out a call. -/
def perform : Machine Rotation Call Answer
  | r, .add address stake => (r.add address stake).map id (·.map fun _ => .done)
  | r, .remove address => (r.remove address).map id (·.map .removed)
  | r, .next => r.next.map id (·.map .drawn)
  | r, .proposerAt height => (r, (r.proposerAt height).map .drawn)

/-- What a call may do to a rotation. -/
inductive Effect (r : Rotation) : Call → Answer → Rotation → Prop
  | refused {call : Call} {e : Error} : Effect r call (.error e) r
  | added {address : String} {stake : UInt64} {s : ValidatorSet}
    (effect : r.validators.Effect (.add address stake) (.ok none) s) :
    Effect r (.add address stake) (.ok .done) { r with validators := s }
  | removed {address : String} {v : Validator} {s : ValidatorSet}
    (effect : r.validators.Effect (.remove address) (.ok (some v)) s) :
    Effect r (.remove address) (.ok (.removed v)) { r with validators := s }
  | drawn {v : Validator} (selects : r.validators.select r.round = .ok v) :
    Effect r .next (.ok (.drawn v.address))
      ⟨r.validators.recordProposal v.address, r.round + 1⟩
  | asked {height : UInt64} {address : String} :
    Effect r (.proposerAt height) (.ok (.drawn address)) r

theorem effect_add (r : Rotation) (address : String) (stake : UInt64) :
    Effect r (.add address stake) ((r.add address stake).2.map fun _ => .done)
      (r.add address stake).1 := by
  have heffect := r.validators.effect_add address stake
  rw [add]
  generalize r.validators.add address stake = outcome at heffect ⊢
  obtain ⟨s, e | ⟨⟩⟩ := outcome
  · cases heffect
    exact .refused
  · exact .added heffect

theorem effect_remove (r : Rotation) (address : String) :
    Effect r (.remove address) ((r.remove address).2.map .removed) (r.remove address).1 := by
  have heffect := r.validators.effect_remove address
  rw [remove]
  generalize r.validators.remove address = outcome at heffect ⊢
  obtain ⟨s, e | v⟩ := outcome
  · cases heffect
    exact .refused
  · exact .removed heffect

theorem effect_next (r : Rotation) : Effect r .next (r.next.2.map .drawn) r.next.1 := by
  rw [next]
  split
  · exact .refused
  next v hselect => exact .drawn hselect

theorem obeys_effect : perform.Obeys Effect := by
  intro r call
  cases call with
  | add address stake => exact r.effect_add address stake
  | remove address => exact r.effect_remove address
  | next => exact r.effect_next
  | proposerAt height =>
    rw [perform]
    rcases r.proposerAt height with e | address
    · exact .refused
    · exact .asked

/-- A call that is refused changes nothing. -/
theorem eq_of_refused {r : Rotation} {call : Call} {e : Error}
    (h : (perform r call).2 = .error e) : (perform r call).1 = r := by
  have heffect := obeys_effect r call
  rw [h] at heffect
  generalize (perform r call).1 = r' at heffect
  cases heffect
  rfl

end Rotation

end HostedLedger

import HostedLedger.Proofs.Validator.Membership
import HostedLedger.Proofs.Validator.Selection
import Mathlib.Algebra.Order.BigOperators.Group.List

/-!
# Accounts of rounds and proposals

A rotation counts its rounds, and each validator counts the rounds that it has won. Changing the
stake of a validator keeps its count, while a validator that is removed takes its count along and
starts again from nothing when it is added again. So the counts of the validators that are there,
and of those that have been removed, add up to the number of rounds.

## Main definitions

* `Rotation.draws`, `Rotation.wins`, `Rotation.inserts`, `Rotation.removed?`: what a step has done
* `Rotation.Credited`: how often an address has won since its validator was last inserted
* `Rotation.Tally`: what the steps of a run tell of the rotation after it

## Main results

* `Rotation.tally_after`: the steps of a run tell of the rotation after it
* `Rotation.rounds_account_for_proposals`: rounds, draws and counts of proposals after a run
-/

namespace HostedLedger

namespace Rotation

/-! ### Steps -/

/-- A call with the rotation that it was made on and its answer. -/
abbrev CallStep : Type := Step Rotation Call Answer

/-- Whether a step has drawn the proposer of a round. -/
def draws : CallStep → Bool
  | ⟨_, .next, .ok _⟩ => true
  | _ => false

/-- Whether a step has drawn an address as the proposer of a round. -/
def wins (address : String) : CallStep → Bool
  | ⟨_, .next, .ok (.drawn winner)⟩ => winner = address
  | _ => false

/-- Whether a step has put in a validator at an address where there was none. -/
def inserts (address : String) : CallStep → Bool
  | ⟨r, .add added _, .ok _⟩ => added = address && (r.validators.get? added).isNone
  | _ => false

/-- The record of the validator that a step has removed. -/
def removed? : CallStep → Option Validator
  | ⟨_, _, .ok (.removed v)⟩ => some v
  | _ => none

/-- How often validators have proposed, together. -/
def proposed (vs : List Validator) : Nat := (vs.map (·.blocksProposed.toNat)).sum

/-- The steps tell when a validator was last inserted at an address, and that the address has won
`n` rounds since. -/
def Credited (past : List CallStep) (address : String) (n : Nat) : Prop :=
  ∃ before insertion since, past = before ++ insertion :: since ∧
    inserts address insertion = true ∧ (∀ step ∈ since, inserts address step = false) ∧
    n = since.countP (wins address)

theorem credited_of_inserts {past : List CallStep} {step : CallStep} {address : String}
    (h : inserts address step = true) : Credited (past ++ [step]) address 0 :=
  ⟨past, step, [], rfl, h, by simp, rfl⟩

theorem Credited.snoc {past : List CallStep} {step : CallStep} {address : String} {n : Nat}
    (h : Credited past address n) (hstep : inserts address step = false) :
    Credited (past ++ [step]) address (n + if wins address step then 1 else 0) := by
  obtain ⟨before, insertion, since, rfl, hinsertion, hlast, rfl⟩ := h
  refine ⟨before, insertion, since ++ [step], by simp, hinsertion, fun s hs => ?_, ?_⟩
  · rcases List.mem_append.mp hs with hs | hs
    · exact hlast s hs
    · rw [List.mem_singleton.mp hs]
      exact hstep
  · rw [List.countP_append, List.countP_singleton]

/-! ### Counts of proposals -/

theorem toNat_proposals (s : ValidatorSet) (address : String) :
    (s.proposals address).toNat = ((s.get? address).map (·.blocksProposed.toNat)).getD 0 := by
  rw [ValidatorSet.proposals]
  cases s.get? address <;> rfl

@[simp] theorem proposed_nil : proposed [] = 0 := rfl

theorem proposed_append (vs ws : List Validator) :
    proposed (vs ++ ws) = proposed vs + proposed ws := by
  rw [proposed, List.map_append, List.sum_append]
  rfl

/-- Writing a validator replaces its count in the sum. -/
theorem proposed_insert (s : ValidatorSet) (address : String) (v : Validator) :
    proposed (ValidatorSet.toList { s with members := s.members.insert address v }) +
        (s.proposals address).toNat =
      proposed s.toList + v.blocksProposed.toNat := by
  rw [toNat_proposals]
  exact SortedMap.sum_insert (fun v : Validator => v.blocksProposed.toNat) s.members address v

/-- A validator that is removed takes its count out of the sum. -/
theorem proposed_erase {s : ValidatorSet} {address : String} {v : Validator}
    (present : s.get? address = some v) :
    proposed (ValidatorSet.toList { s with members := s.members.erase address }) +
        v.blocksProposed.toNat =
      proposed s.toList := by
  have herase := SortedMap.sum_erase (fun v : Validator => v.blocksProposed.toNat) s.members address
  rw [show s.members.get? address = some v from present] at herase
  exact herase

/-! ### Runs -/

/-- What the steps of a run tell of the rotation after it: the number of its rounds, what each of
them was seeded with, since when a validator counts and how much, and where the counts are. -/
structure Tally (past : List CallStep) (r : Rotation) : Prop where
  sound : r.validators.Sound
  round_eq : r.round.toNat = past.countP draws
  answer_eq : ∀ {k : Nat} {step : CallStep}, (past.filter draws)[k]? = some step →
    step.answer = (step.before.proposerAt (UInt64.ofNat k)).map .drawn
  credited : ∀ {address : String} {v : Validator}, r.validators.get? address = some v →
    Credited past address v.blocksProposed.toNat
  sum_eq : proposed r.validators.toList + proposed (past.filterMap removed?) = past.countP draws

theorem tally_new (policy : Policy) : Tally [] (new policy) where
  sound := ValidatorSet.sound_new policy.minValidatorStake
  round_eq := rfl
  answer_eq h := by cases h
  credited h := by cases h
  sum_eq := rfl

namespace Tally

variable {past : List CallStep} {r : Rotation} (tally : Tally past r)
include tally

/-- A further step is told by whether it has drawn, what it has made of each validator's count, and
what has become of their sum. -/
theorem snoc {r' : Rotation} {step : CallStep}
    (sound : r'.validators.Sound)
    (round_eq : r'.round.toNat = r.round.toNat + if draws step then 1 else 0)
    (answer_eq : draws step = true → step.answer = (step.before.proposerAt r.round).map .drawn)
    (credited : ∀ {address v}, r'.validators.get? address = some v →
      (inserts address step = true ∧ v.blocksProposed.toNat = 0) ∨
        inserts address step = false ∧ ∃ w, r.validators.get? address = some w ∧
          v.blocksProposed.toNat = w.blocksProposed.toNat + if wins address step then 1 else 0)
    (sum_eq : proposed r'.validators.toList + proposed (removed? step).toList =
      proposed r.validators.toList + if draws step then 1 else 0) :
    Tally (past ++ [step]) r' where
  sound := sound
  round_eq := by rw [round_eq, tally.round_eq, List.countP_append, List.countP_singleton]
  answer_eq {k s} hs := by
    rw [List.filter_append] at hs
    by_cases hk : k < (past.filter draws).length
    · rw [List.getElem?_append_left hk] at hs
      exact tally.answer_eq hs
    · rw [List.getElem?_append_right (Nat.not_lt.mp hk)] at hs
      by_cases hdraws : draws step = true
      · rw [List.filter_cons_of_pos hdraws, List.filter_nil, List.getElem?_singleton] at hs
        split at hs
        · next hzero =>
          cases hs
          have hround : UInt64.ofNat k = r.round := by
            rw [← List.countP_eq_length_filter, ← tally.round_eq] at hk hzero
            rw [show k = r.round.toNat by omega, UInt64.ofNat_toNat]
          rw [hround]
          exact answer_eq hdraws
        · cases hs
      · rw [List.filter_cons_of_neg hdraws] at hs
        cases hs
  credited {address v} hv := by
    rcases credited hv with ⟨hinserts, hzero⟩ | ⟨hinserts, w, hw, hcount⟩
    · rw [hzero]
      exact credited_of_inserts hinserts
    · rw [hcount]
      exact (tally.credited hw).snoc hinserts
  sum_eq := by
    have hpast := tally.sum_eq
    have hremoved : [step].filterMap removed? = (removed? step).toList := by
      cases h : removed? step <;> simp [h]
    rw [List.countP_append, List.countP_singleton, List.filterMap_append, hremoved,
      proposed_append]
    omega

/-- A call that leaves the rotation alone, draws nothing and inserts nothing is told by a step that
counts for nothing. -/
theorem idle {step : CallStep} (draws_eq : draws step = false)
    (inserts_eq : ∀ address, inserts address step = false)
    (wins_eq : ∀ address, wins address step = false) (removed?_eq : removed? step = none) :
    Tally (past ++ [step]) r := by
  refine tally.snoc tally.sound (by simp [draws_eq]) (by simp [draws_eq]) (fun {address v} hv => ?_)
    (by simp [draws_eq, removed?_eq, proposed])
  exact .inr ⟨inserts_eq address, v, hv, by simp [wins_eq]⟩

/-- A validator that is there has not proposed more often than rounds were drawn. -/
theorem blocksProposed_le {address : String} {v : Validator}
    (present : r.validators.get? address = some v) :
    v.blocksProposed.toNat ≤ past.countP draws := by
  have hmem := List.mem_map_of_mem (f := fun v : Validator => v.blocksProposed.toNat)
    (ValidatorSet.mem_toList_of_get? present)
  have hle : v.blocksProposed.toNat ≤ proposed r.validators.toList := List.le_sum_of_mem hmem
  have hsum := tally.sum_eq
  omega

theorem added {address : String} {stake : UInt64} {s : ValidatorSet}
    (effect : r.validators.Effect (.add address stake) (.ok none) s) :
    Tally (past ++ [⟨r, .add address stake, .ok .done⟩]) { r with validators := s } := by
  have hsound := tally.sound.of_effect effect
  cases effect with
  | added address_ne stake_ne minStake_le =>
  refine tally.snoc hsound rfl (fun h => by cases h) (fun {a v} hv => ?_) ?_
  · rw [ValidatorSet.get?_insert] at hv
    split at hv
    · next ha =>
      subst ha
      cases hv
      rcases hget : r.validators.get? a with _ | w
      · refine .inl ⟨by simp [inserts, hget], ?_⟩
        rw [toNat_proposals, hget]
        rfl
      · refine .inr ⟨by simp [inserts, hget], w, rfl, ?_⟩
        rw [toNat_proposals, hget]
        rfl
    · next ha => exact .inr ⟨by simp [inserts, Ne.symm ha], v, hv, rfl⟩
  · have hsum := proposed_insert r.validators address
      ⟨address, stake, r.validators.proposals address⟩
    exact Nat.add_right_cancel hsum

theorem removed {address : String} {v : Validator} {s : ValidatorSet}
    (effect : r.validators.Effect (.remove address) (.ok (some v)) s) :
    Tally (past ++ [⟨r, .remove address, .ok (.removed v)⟩]) { r with validators := s } := by
  have hsound := tally.sound.of_effect effect
  cases effect with
  | removed present =>
  refine tally.snoc hsound rfl (fun h => by cases h) (fun {a w} hw => ?_) ?_
  · rw [ValidatorSet.get?_erase] at hw
    split at hw
    · cases hw
    · exact .inr ⟨rfl, w, hw, rfl⟩
  · exact proposed_erase present

theorem drawn (bound : past.countP draws + 1 < UInt64.size) {v : Validator}
    (selects : r.validators.select r.round = .ok v) :
    Tally (past ++ [⟨r, .next, .ok (.drawn v.address)⟩])
      ⟨r.validators.recordProposal v.address, r.round + 1⟩ := by
  have hmem := ValidatorSet.mem_toList_of_select selects
  have hget : r.validators.get? v.address = some v := tally.sound.mem_toList_iff.mp hmem
  have hrecord : r.validators.Effect (.recordProposal v.address) (.ok none)
      (r.validators.recordProposal v.address) := ValidatorSet.effect_recordProposal _ _
  have hsound := tally.sound.of_effect hrecord
  have hcount : (Word.saturatingSucc v.blocksProposed).toNat = v.blocksProposed.toNat + 1 :=
    Word.toNat_saturatingSucc (by have := tally.blocksProposed_le hget; omega)
  rw [ValidatorSet.recordProposal, hget] at hsound ⊢
  refine tally.snoc hsound ?_ (fun _ => ?_) (fun {a w} hw => ?_) ?_
  · rw [UInt64.toNat_add, tally.round_eq]
    exact Nat.mod_eq_of_lt bound
  · rw [proposerAt, selects]
    rfl
  · rw [ValidatorSet.get?_insert] at hw
    split at hw
    · next ha =>
      cases hw
      exact .inr ⟨rfl, v, by rw [ha, hget], by simp [wins, ha, hcount]⟩
    · next ha => exact .inr ⟨rfl, w, hw, by simp [wins, Ne.symm ha]⟩
  · have hsum := proposed_insert r.validators v.address
      ⟨v.address, v.stake, Word.saturatingSucc v.blocksProposed⟩
    rw [toNat_proposals, hget, hcount] at hsum
    simp only [Option.map_some, Option.getD_some] at hsum
    simp only [removed?, draws, Option.toList_none, proposed_nil, if_true]
    omega

end Tally

/-- As long as the rounds can be numbered, every effect is told by the step that it makes. -/
theorem tally_of_effect {past : List CallStep} {r r' : Rotation} {call : Call} {answer : Answer}
    (effect : Effect r call answer r')
    (h : past.countP draws < UInt64.size → Tally past r)
    (bound : (past ++ [(⟨r, call, answer⟩ : CallStep)]).countP draws < UInt64.size) :
    Tally (past ++ [⟨r, call, answer⟩]) r' := by
  rw [List.countP_append, List.countP_singleton] at bound
  have tally := h (by omega)
  cases effect with
  | refused =>
    refine tally.idle ?_ (fun a => ?_) (fun a => ?_) rfl
    all_goals cases call <;> rfl
  | added effect => exact tally.added effect
  | removed effect => exact tally.removed effect
  | drawn selects => exact tally.drawn bound selects
  | asked => exact tally.idle rfl (fun _ => rfl) (fun _ => rfl) rfl

/-- The steps of a run tell of the rotation after it. -/
theorem tally_after (policy : Policy) (calls : List Call)
    (bound : (perform.steps (new policy) calls).countP draws < UInt64.size) :
    Tally (perform.steps (new policy) calls) (perform.after (new policy) calls) :=
  obeys_effect.steps_induction (P := fun past r => past.countP draws < UInt64.size → Tally past r)
    (fun effect h bound => tally_of_effect effect h bound) (fun _ => tally_new policy) calls bound

/-- **Rounds account for proposals.** Take any run of adding, removing, drawing and asking on a new
rotation in which fewer than `2 ^ 64` draws succeed. The number of the round is the number of draws
that have succeeded, and draw `k` of them, counted from zero, was answered with the proposer that
height `k` draws from the rotation as it was. A call that is refused changes nothing. The count of
every validator that is there is the number of rounds that its address has won since it was last
inserted, and these counts, with those in the records of the removed validators, add up to the
number of the round. -/
theorem rounds_account_for_proposals (policy : Policy) (calls : List Call)
    (bound : (perform.steps (new policy) calls).countP draws < UInt64.size) :
    let past := perform.steps (new policy) calls
    let r := perform.after (new policy) calls
    r.round.toNat = past.countP draws ∧
      (∀ (k : Nat) (step : CallStep), (past.filter draws)[k]? = some step →
        step.answer = (step.before.proposerAt (UInt64.ofNat k)).map .drawn) ∧
      (∀ call e, (perform r call).2 = .error e → (perform r call).1 = r) ∧
      (∀ v ∈ r.validators.toList, Credited past v.address v.blocksProposed.toNat) ∧
      proposed r.validators.toList + proposed (past.filterMap removed?) = r.round.toNat := by
  intro past r
  have tally : Tally past r := tally_after policy calls bound
  refine ⟨tally.round_eq, fun k step => tally.answer_eq, fun call e => eq_of_refused,
    fun v hv => ?_, ?_⟩
  · exact tally.credited (tally.sound.mem_toList_iff.mp hv)
  · rw [tally.round_eq]
    exact tally.sum_eq

/-- A validator wins two rounds, with another stake in the second, is removed, and wins a third
round after it was added again. The draw from the empty rotation counts for nothing. -/
theorem rounds_account_for_proposals_removedAndBack :
    let calls : List Call := [.next, .add "v1" 5, .next, .add "v1" 9, .next, .remove "v1",
      .add "v2" 0, .add "v1" 5, .next]
    let past := perform.steps (new ⟨false, 5⟩) calls
    let r := perform.after (new ⟨false, 5⟩) calls
    past.countP draws < UInt64.size ∧ r.round = 3 ∧ r.validators.toList = [⟨"v1", 5, 1⟩] ∧
      Credited past "v1" 1 ∧ 1 + proposed (past.filterMap removed?) = 3 := by
  intro calls past r
  have hbound : past.countP draws < UInt64.size := by decide +kernel
  have hround : r.round = 3 := by decide +kernel
  have hlist : r.validators.toList = [⟨"v1", 5, 1⟩] := by decide +kernel
  obtain ⟨-, -, -, hcredited, hsum⟩ := rounds_account_for_proposals ⟨false, 5⟩ calls hbound
  have hv := hcredited ⟨"v1", 5, 1⟩ (by rw [hlist]; exact List.mem_singleton_self _)
  rw [hlist, hround] at hsum
  exact ⟨hbound, hround, hlist, hv, hsum⟩

end Rotation

end HostedLedger

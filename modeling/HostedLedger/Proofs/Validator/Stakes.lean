import HostedLedger.Proofs.Validator.Selection
import HostedLedger.SortedMap.Insertions

/-!
# Selection by stakes

Which validator a seed draws is told by the addresses and the stakes of a set alone. How the set
came about, how often its validators have proposed and which least stake it asks for make no
difference. The stake at an address is the one of the last addition there that was accepted, if the
validator has not been removed since; so sets that have been built in different orders, with stakes
changed and validators removed on the way, draw the same proposers.

## Main definitions

* `ValidatorSet.stake?`: the stake at an address
* `ValidatorSet.shares`: the addresses of a set with their stakes
* `ValidatorSet.SelectsLike s s'`: two sets draw the same proposers and add up to the same
* `ValidatorSet.lastStake?`: the last word of calls on the stake at an address
* `ValidatorSet.Registers`: the addresses and stakes that calls come to

## Main results

* `ValidatorSet.Sound.shares_eq`: sets with the same stakes have the same shares
* `ValidatorSet.selectsLike_of_shares_eq`: the shares decide on selection
* `ValidatorSet.stake?_after`: a run leaves the stakes of which its calls have the last word
* `ValidatorSet.registers_additions`: additions in any order register what is added
* `ValidatorSet.selection_by_stakes`: selection on the sets that calls lead to
-/

namespace HostedLedger

namespace ValidatorSet

variable {s s' : ValidatorSet}

/-- The stake at an address. -/
def stake? (s : ValidatorSet) (address : String) : Option UInt64 := (s.get? address).map (·.stake)

/-- What counts of a validator in a draw. -/
def share (v : Validator) : String × UInt64 := (v.address, v.stake)

/-- The addresses with their stakes, in the order of the addresses. -/
def shares (s : ValidatorSet) : List (String × UInt64) := s.toList.map share

/-- Two sets draw the same proposers, and agree in all that their validators add up to. -/
structure SelectsLike (s s' : ValidatorSet) : Prop where
  /-- A seed draws the same address from both, or is refused by both for the same reason. -/
  select_eq : ∀ seed, (s.select seed).map (·.address) = (s'.select seed).map (·.address)
  totalStake_eq : s.totalStake = s'.totalStake
  size_eq : s.size = s'.size
  requiredSignatures_eq : s.requiredSignatures = s'.requiredSignatures
  addresses_eq : s.toList.map (·.address) = s'.toList.map (·.address)

/-! ### Shares -/

namespace Sound

variable (sound : s.Sound)
include sound

/-- The shares of a sound set are its stakes. -/
theorem mem_shares_iff {address : String} {stake : UInt64} :
    (address, stake) ∈ s.shares ↔ s.stake? address = some stake := by
  rw [shares, List.mem_map, stake?, Option.map_eq_some_iff]
  constructor
  · rintro ⟨v, hv, hshare⟩
    cases hshare
    exact ⟨v, sound.mem_toList_iff.mp hv, rfl⟩
  · rintro ⟨v, hv, rfl⟩
    obtain rfl := sound.address_eq hv
    exact ⟨v, sound.mem_toList_iff.mpr hv, rfl⟩

theorem pairwise_shares : s.shares.Pairwise fun x y => compare x.1 y.1 = .lt := by
  rw [shares, List.pairwise_map]
  exact sound.pairwise_toList

/-- Sets with the same stakes have the same shares, in the same order. -/
theorem shares_eq (sound' : s'.Sound) (h : ∀ address, s.stake? address = s'.stake? address) :
    s.shares = s'.shares := by
  refine SortedMap.eq_of_mem_iff sound.pairwise_shares sound'.pairwise_shares ?_
  rintro ⟨address, stake⟩
  rw [sound.mem_shares_iff, sound'.mem_shares_iff, h]

end Sound

theorem length_shares (s : ValidatorSet) : s.shares.length = s.size := by
  rw [shares, toList, SortedMap.values, List.length_map, List.length_map]
  rfl

/-- The stakes of validators with the same shares have the same sum. -/
theorem stakes_congr {vs ws : List Validator} (h : vs.map share = ws.map share) :
    stakes vs = stakes ws := by
  have hshares (us : List Validator) : stakes us = ((us.map share).map (·.2.toNat)).sum := by
    rw [stakes, List.map_map]
    rfl
  rw [hshares, hshares, h]

/-- Among validators with the same shares, a target is covered at the same address. -/
theorem coveringFrom?_congr {vs ws : List Validator} (h : vs.map share = ws.map share)
    (target start : Nat) :
    (coveringFrom? target start vs).map (·.address) =
      (coveringFrom? target start ws).map (·.address) := by
  induction vs generalizing ws start with
  | nil =>
    obtain rfl := List.map_eq_nil_iff.mp h.symm
    rfl
  | cons v vs ih =>
    rcases ws with _ | ⟨w, ws⟩
    · cases h
    · obtain ⟨hshare, hrest⟩ := List.cons.inj h
      obtain ⟨haddress, hstake⟩ := Prod.mk.inj hshare
      rw [coveringFrom?, coveringFrom?, hstake]
      split
      · exact congrArg some haddress
      · exact ih hrest _

theorem select_congr (h : s.shares = s'.shares) (seed : UInt64) :
    (s.select seed).map (·.address) = (s'.select seed).map (·.address) := by
  have htotal : s.totalStake = s'.totalStake := by
    rw [totalStake_eq_stakes, totalStake_eq_stakes, stakes_congr h]
  have hcovering := coveringFrom?_congr h (draw seed % s'.totalStake) 0
  rw [select, select, htotal]
  split
  · rfl
  · dsimp only [covering?]
    generalize coveringFrom? _ 0 s.toList = found at hcovering ⊢
    generalize coveringFrom? _ 0 s'.toList = found' at hcovering ⊢
    rcases found with _ | v <;> rcases found' with _ | w
    · rfl
    · cases hcovering
    · cases hcovering
    · exact congrArg Except.ok (Option.some.inj hcovering)

/-- **The shares decide on selection.** -/
theorem selectsLike_of_shares_eq (h : s.shares = s'.shares) : s.SelectsLike s' where
  select_eq := select_congr h
  totalStake_eq := by rw [totalStake_eq_stakes, totalStake_eq_stakes, stakes_congr h]
  size_eq := by rw [← length_shares, ← length_shares, h]
  requiredSignatures_eq := by
    rw [requiredSignatures, requiredSignatures, ← length_shares, ← length_shares, h]
  addresses_eq := by
    have haddresses := congrArg (List.map (·.1)) h
    rwa [shares, shares, List.map_map, List.map_map] at haddresses

/-! ### The last word on a stake -/

/-- Sets with a least stake accept an addition. -/
def Admits (minStake : UInt64) (address : String) (stake : UInt64) : Prop :=
  address ≠ "" ∧ stake ≠ 0 ∧ minStake ≤ stake

instance (minStake : UInt64) (address : String) (stake : UInt64) :
    Decidable (Admits minStake address stake) :=
  inferInstanceAs (Decidable (_ ≠ _ ∧ _ ≠ _ ∧ _ ≤ _))

/-- What a call says of the stake at an address: what it is from now on, or nothing. -/
def Call.word? (minStake : UInt64) (address : String) : Call → Option (Option UInt64)
  | .add address' stake =>
    if address' = address ∧ Admits minStake address' stake then some (some stake) else none
  | .remove address' => if address' = address then some none else none
  | .recordProposal _ => none

/-- The last word of calls on the stake at an address. -/
def lastStake? (minStake : UInt64) (calls : List Call) (address : String) : Option UInt64 :=
  (calls.filterMap (·.word? minStake address)).getLast?.join

theorem stake?_add (s : ValidatorSet) (address' : String) (stake : UInt64) (address : String) :
    (s.add address' stake).1.stake? address =
      if address' = address ∧ Admits s.minStake address' stake then some stake
      else s.stake? address := by
  rw [add]
  split
  · next e hcheck =>
    have hempty : address' = "" := by
      by_contra hne
      rw [(Address.check_eq_ok_iff "validator").mpr hne] at hcheck
      cases hcheck
    rw [if_neg fun h => h.2.1 hempty]
  next hcheck =>
  split
  · next hzero => rw [if_neg fun h => h.2.2.1 hzero]
  next hpos =>
  split
  · next hlt => rw [if_neg fun h => absurd hlt (UInt64.not_lt.mpr h.2.2.2)]
  next hle =>
  have hadmits : Admits s.minStake address' stake :=
    ⟨(Address.check_eq_ok_iff "validator").mp hcheck, hpos, UInt64.not_lt.mp hle⟩
  rw [stake?, get?_insert]
  by_cases haddress : address = address'
  · rw [if_pos haddress, if_pos ⟨haddress.symm, hadmits⟩]
    rfl
  · rw [if_neg haddress, if_neg fun h => haddress h.1.symm]
    rfl

theorem stake?_remove (s : ValidatorSet) (address' address : String) :
    (s.remove address').1.stake? address =
      if address' = address then none else s.stake? address := by
  rw [remove]
  split
  · next hnone =>
    split
    · next haddress => rw [stake?, ← haddress, hnone]; rfl
    · rfl
  · rw [stake?, get?_erase]
    by_cases haddress : address = address'
    · rw [if_pos haddress, if_pos haddress.symm]
      rfl
    · rw [if_neg haddress, if_neg (Ne.symm haddress)]
      rfl

theorem stake?_recordProposal (s : ValidatorSet) (address' address : String) :
    (s.recordProposal address').stake? address = s.stake? address := by
  rw [recordProposal]
  split
  · rfl
  · next v hv =>
    rw [stake?, get?_insert]
    split
    · next haddress => rw [stake?, haddress, hv]; rfl
    · rfl

/-- A call leaves the stake that it says, or the one that there has been. -/
theorem stake?_perform (s : ValidatorSet) (call : Call) (address : String) :
    (perform s call).1.stake? address =
      (call.word? s.minStake address).getD (s.stake? address) := by
  cases call with
  | add address' stake =>
    refine (s.stake?_add address' stake address).trans ?_
    rw [Call.word?]
    split <;> rfl
  | remove address' =>
    refine (s.stake?_remove address' address).trans ?_
    rw [Call.word?]
    split <;> rfl
  | recordProposal address' => exact s.stake?_recordProposal address' address

/-- **A run leaves the stakes of which its calls have the last word.** -/
theorem stake?_after (minStake : UInt64) (calls : List Call) (address : String) :
    (perform.after (new minStake) calls).stake? address = lastStake? minStake calls address := by
  induction calls using List.reverseRecOn with
  | nil => rfl
  | append_singleton calls call ih =>
    rw [Machine.after_append, Machine.after_cons, Machine.after_nil, stake?_perform,
      minStake_after, ih, lastStake?, lastStake?, List.filterMap_append, List.getLast?_append]
    cases hword : call.word? minStake address with
    | none => simp [hword]
    | some stake => simp [hword]

/-! ### Registration -/

/-- The addresses of which calls have the last word that there is a stake are those of a list, with
the stakes there. The order of the list does not count. -/
def Registers (minStake : UInt64) (calls : List Call) (stakes : List (String × UInt64)) : Prop :=
  ∀ address stake, lastStake? minStake calls address = some stake ↔ (address, stake) ∈ stakes

/-- Of additions that are accepted, the last one at an address has the last word there. -/
theorem lastStake?_additions {minStake : UInt64} {order : List (String × UInt64)}
    (admitted : ∀ e ∈ order, Admits minStake e.1 e.2) (address : String) :
    lastStake? minStake (order.map fun e => .add e.1 e.2) address =
      SortedMap.lastValue? order address := by
  have hwords : (order.map fun e => Call.add e.1 e.2).filterMap (·.word? minStake address) =
      (order.filter fun e => e.1 = address).map fun e => some e.2 := by
    induction order with
    | nil => rfl
    | cons e order ih =>
      obtain ⟨he, horder⟩ := List.forall_mem_cons.mp admitted
      rw [List.map_cons]
      by_cases haddress : e.1 = address
      · have hword : (Call.add e.1 e.2).word? minStake address = some (some e.2) :=
          if_pos ⟨haddress, he⟩
        rw [List.filterMap_cons_some hword, ih horder,
          List.filter_cons_of_pos (by simpa using haddress), List.map_cons]
      · have hword : (Call.add e.1 e.2).word? minStake address = none :=
          if_neg fun h => haddress h.1
        rw [List.filterMap_cons_none hword, ih horder,
          List.filter_cons_of_neg (by simpa using haddress)]
  rw [lastStake?, hwords, List.getLast?_map, SortedMap.lastValue?]
  cases (order.filter fun e => e.1 = address).getLast? <;> rfl

/-- Additions at different addresses register what is added, in whatever order they come. -/
theorem registers_additions {minStake : UInt64} {stakes order : List (String × UInt64)}
    (nodup : (stakes.map (·.1)).Nodup) (admitted : ∀ e ∈ stakes, Admits minStake e.1 e.2)
    (perm : order.Perm stakes) :
    Registers minStake (order.map fun e => .add e.1 e.2) stakes := by
  have hnodup : (order.map (·.1)).Nodup := (perm.map (·.1)).nodup_iff.mpr nodup
  have hadmitted : ∀ e ∈ order, Admits minStake e.1 e.2 := fun e he => admitted e (perm.subset he)
  intro address stake
  rw [lastStake?_additions hadmitted, SortedMap.lastValue?_eq_some_iff hnodup, perm.mem_iff]

theorem stake?_eq_of_registers {minStake minStake' : UInt64} {calls calls' : List Call}
    {stakes : List (String × UInt64)} (registers : Registers minStake calls stakes)
    (registers' : Registers minStake' calls' stakes) (address : String) :
    (perform.after (new minStake) calls).stake? address =
      (perform.after (new minStake') calls').stake? address := by
  apply Option.ext
  intro stake
  rw [stake?_after, stake?_after, registers, registers']

/-- **Selection depends on nothing but addresses and stakes.** Take two sets, each of which has been
made with some least stake and has been led to by adding, removing and counting proposals. If they
have the same stakes at all addresses, they draw the same proposer for every seed, and agree in the
total stake, the number of validators, the signatures required and the order of the addresses. They
have the same stakes if their calls register the same, whatever has been added, changed or removed
on the way; and additions at different addresses register what is added, in any order. -/
theorem selection_by_stakes (minStake minStake' : UInt64) (calls calls' : List Call) :
    let s := perform.after (new minStake) calls
    let s' := perform.after (new minStake') calls'
    ((∀ address, s.stake? address = s'.stake? address) → s.SelectsLike s') ∧
    (∀ stakes, Registers minStake calls stakes → Registers minStake' calls' stakes →
      s.SelectsLike s') ∧
    ∀ stakes order : List (String × UInt64), (stakes.map (·.1)).Nodup →
      (∀ e ∈ stakes, Admits minStake e.1 e.2) → order.Perm stakes →
      Registers minStake (order.map fun e => .add e.1 e.2) stakes := by
  intro s s'
  have hlike (h : ∀ address, s.stake? address = s'.stake? address) : s.SelectsLike s' := by
    have hshares := (sound_after minStake calls).shares_eq (sound_after minStake' calls') h
    exact selectsLike_of_shares_eq hshares
  refine ⟨hlike, fun stakes registers registers' => ?_, fun stakes order nodup admitted perm => ?_⟩
  · exact hlike (stake?_eq_of_registers registers registers')
  · exact registers_additions nodup admitted perm

/-- One set gets two validators; the other one, which accepts smaller stakes, gets them the other
way round, with another stake or a removal on the way, and a third one that leaves again. -/
theorem selection_by_stakes_changedOnTheWay :
    let stakes : List (String × UInt64) := [("v1", 70), ("v2", 30)]
    let calls : List Call := [.add "v2" 9, .add "v3" 4, .add "v1" 1, .recordProposal "v2",
      .remove "v1", .add "v2" 30, .remove "v3", .add "v1" 70, .add "v1" 0]
    let s := perform.after (new 5) (stakes.map fun e => .add e.1 e.2)
    let s' := perform.after (new 1) calls
    Registers 1 calls stakes ∧
      (s.select 3).map (·.address) = (s'.select 3).map (·.address) ∧
      s.totalStake = s'.totalStake := by
  intro stakes calls s s'
  have hregisters' : Registers 1 calls stakes := by
    intro address stake
    by_cases h1 : address = "v1"
    · subst h1
      have hlast : lastStake? 1 calls "v1" = some 70 := by decide
      simp [hlast, stakes, eq_comm]
    by_cases h2 : address = "v2"
    · subst h2
      have hlast : lastStake? 1 calls "v2" = some 30 := by decide
      simp [hlast, stakes, eq_comm]
    · have hlast : lastStake? 1 calls address = none := by
        by_cases h3 : address = "v3"
        · subst h3
          decide
        · simp [lastStake?, calls, Call.word?, Ne.symm h1, Ne.symm h2, Ne.symm h3]
      simp [hlast, stakes, h1, h2]
  obtain ⟨-, hsame, hadditions⟩ :=
    selection_by_stakes 5 1 (stakes.map fun e => .add e.1 e.2) calls
  have hregisters : Registers 5 (stakes.map fun e => .add e.1 e.2) stakes :=
    hadditions stakes stakes (by decide) (by decide) (.refl stakes)
  have hlike : s.SelectsLike s' := hsame stakes hregisters hregisters'
  exact ⟨hregisters', hlike.select_eq 3, hlike.totalStake_eq⟩

end ValidatorSet

end HostedLedger

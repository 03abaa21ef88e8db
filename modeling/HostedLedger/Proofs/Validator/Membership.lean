import HostedLedger.Proofs.Validator.Call

/-!
# The validators of a rotation

Which validators a rotation has after a call. A validator comes in by being added; drawing one
changes how often it has been drawn and leaves its address as it is.

## Main definitions

* `ValidatorSet.Named P s`, `Rotation.Named P r`: the addresses of the validators have the property
  `P`

## Main results

* `ValidatorSet.mem_toList_of_select`: a validator that is drawn is one of the set
* `ValidatorSet.Named.of_effect`, `Rotation.Named.of_effect`: what a call does to the addresses
* `Rotation.eq_of_add_error`, `Rotation.eq_of_remove_error`, `Rotation.eq_of_next_error`: a call
  that is refused leaves the rotation alone
-/

namespace HostedLedger

namespace ValidatorSet

variable {s s' : ValidatorSet} {P : String → Prop}

/-! ### Addresses -/

/-- The address of every validator has a property. -/
def Named (P : String → Prop) (s : ValidatorSet) : Prop := ∀ v ∈ s.toList, P v.address

theorem named_new (P : String → Prop) (minStake : UInt64) : (new minStake).Named P := by
  intro v hv
  cases hv

theorem mem_toList_of_get? {address : String} {v : Validator} (h : s.get? address = some v) :
    v ∈ s.toList := List.mem_map_of_mem (s.members.get?_eq_some_iff.mp h)

theorem Named.insert (named : s.Named P) {address : String} {v : Validator} (h : P v.address) :
    Named P { s with members := s.members.insert address v } := by
  intro w hw
  obtain ⟨e, he, rfl⟩ := List.mem_map.mp hw
  rcases SortedMap.mem_write he with rfl | he
  · exact h
  · exact named e.2 (List.mem_map_of_mem he)

/-- An address comes in only by being added. -/
theorem Named.of_effect (named : s.Named P) {call : Call} {answer : Answer}
    (effect : Effect s call answer s')
    (added : ∀ {address stake}, call = .add address stake → P address) : s'.Named P := by
  cases effect with
  | refused => exact named
  | added => exact named.insert (added rfl)
  | removed =>
    intro w hw
    obtain ⟨e, he, rfl⟩ := List.mem_map.mp hw
    exact named e.2 (List.mem_map_of_mem (List.mem_filter.mp he).1)
  | recorded present =>
    have haddress := named _ (mem_toList_of_get? present)
    exact named.insert haddress
  | unrecorded => exact named

/-! ### Draws -/

theorem mem_of_coveringFrom? {target start : Nat} {vs : List Validator} {v : Validator}
    (h : coveringFrom? target start vs = some v) : v ∈ vs := by
  induction vs generalizing start with
  | nil => cases h
  | cons w vs ih =>
    rw [coveringFrom?] at h
    split at h
    · cases h
      exact List.mem_cons_self
    · exact List.mem_cons_of_mem w (ih h)

/-- A validator that is drawn is one of the set. -/
theorem mem_toList_of_select {seed : UInt64} {v : Validator} (h : s.select seed = .ok v) :
    v ∈ s.toList := by
  rw [select] at h
  split at h
  · cases h
  · dsimp only at h
    split at h
    · next w hw =>
      cases h
      exact mem_of_coveringFrom? hw
    · cases h

end ValidatorSet

namespace Rotation

variable {r r' : Rotation} {P : String → Prop}

/-- The address of every validator has a property. -/
def Named (P : String → Prop) (r : Rotation) : Prop := r.validators.Named P

/-- An address comes in only by being added. -/
theorem Named.of_effect (named : r.Named P) {call : Call} {answer : Answer}
    (effect : Effect r call answer r')
    (added : ∀ {address stake}, call = .add address stake → P address) : r'.Named P := by
  cases effect with
  | refused => exact named
  | added effect =>
    refine ValidatorSet.Named.of_effect named effect fun h => ?_
    cases h
    exact added rfl
  | removed effect => exact ValidatorSet.Named.of_effect named effect fun h => by cases h
  | @drawn v =>
    have heffect := r.validators.effect_recordProposal v.address
    exact ValidatorSet.Named.of_effect named heffect fun h => by cases h
  | asked => exact named

theorem Named.add (named : r.Named P) {address : String} (h : P address) (stake : UInt64) :
    (r.add address stake).1.Named P := by
  refine named.of_effect (r.effect_add address stake) fun hadd => ?_
  cases hadd
  exact h

theorem Named.remove (named : r.Named P) (address : String) : (r.remove address).1.Named P :=
  named.of_effect (r.effect_remove address) fun h => by cases h

/-- A draw leaves the addresses as they are, and answers one of them. -/
theorem Named.next (named : r.Named P) :
    r.next.1.Named P ∧ ∀ address, r.next.2 = .ok address → P address := by
  have heffect := r.effect_next
  refine ⟨named.of_effect heffect fun h => (by cases h), fun address hnext => ?_⟩
  rw [hnext] at heffect
  generalize r.next.1 = r' at heffect
  change Effect r .next (.ok (.drawn address)) r' at heffect
  cases heffect with
  | drawn selects => exact named _ (ValidatorSet.mem_toList_of_select selects)

theorem Named.proposerAt (named : r.Named P) {height : UInt64} {address : String}
    (h : r.proposerAt height = .ok address) : P address := by
  rw [Rotation.proposerAt] at h
  cases hselect : r.validators.select height with
  | error e =>
    rw [hselect] at h
    cases h
  | ok v =>
    rw [hselect] at h
    cases h
    exact named v (ValidatorSet.mem_toList_of_select hselect)

/-! ### Refused calls -/

theorem eq_of_add_error {address : String} {stake : UInt64} {e : Error}
    (h : r.add address stake = (r', .error e)) : r' = r := by
  have hkept : (perform r (.add address stake)).1 = r := eq_of_refused (by rw [perform, h]; rfl)
  rwa [perform, h] at hkept

theorem eq_of_remove_error {address : String} {e : Error}
    (h : r.remove address = (r', .error e)) : r' = r := by
  have hkept : (perform r (.remove address)).1 = r := eq_of_refused (by rw [perform, h]; rfl)
  rwa [perform, h] at hkept

theorem eq_of_next_error {e : Error} (h : r.next = (r', .error e)) : r' = r := by
  have hkept : (perform r .next).1 = r := eq_of_refused (by rw [perform, h]; rfl)
  rwa [perform, h] at hkept

end Rotation

end HostedLedger

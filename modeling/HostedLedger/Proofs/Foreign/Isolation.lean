import HostedLedger.Proofs.Foreign.Effect
import HostedLedger.Proofs.Interleaving

/-!
# Callers do not interfere

Several callers use a bridge at the same time, each with a handle of its own, so that their calls
arrive in some interleaving. Each of them gets the replies that it would get alone, and finds the
instance behind its handle in the same state: a call changes nothing behind the handles of others,
even when it destroys an instance and gives its slot free.

## Main definitions

* `Bridge.AgreeAt h b b'`: two bridges look the same to the caller with the handle `h`

## Main results

* `Bridge.AgreeAt.own`: a call with the handle is answered alike by both, and they agree afterwards
* `Bridge.AgreeAt.other`: a call with another handle leaves them in agreement
* `Bridge.handles_do_not_interfere`: what a caller sees of an interleaving
-/

namespace HostedLedger

namespace Bridge

/-- Two bridges with the same configuration have the same behind a handle. -/
structure AgreeAt (h : Handle) (b b' : Bridge) : Prop where
  sound : b.Sound
  sound' : b'.Sound
  config_eq : b.config = b'.config
  get?_eq : b.table.get? h = b'.table.get? h

namespace AgreeAt

variable {h : Handle} {b b' : Bridge} (agree : AgreeAt h b b') (parse : Config.Reading) {c : Call}
include agree

/-- A call with the handle is answered alike, and has the same effect behind the handle. -/
theorem own (takes : c.handle? = some h) :
    (b.perform parse c).2 = (b'.perform parse c).2 ∧
      AgreeAt h (b.perform parse c).1 (b'.perform parse c).1 := by
  obtain ⟨react, hserves⟩ := exists_serves takes
  have hsound := agree.sound.fst_perform parse c
  have hsound' := agree.sound'.fst_perform parse c
  cases hset : b.config with
  | none =>
    rw [hserves.perform_of_unset hset, hserves.perform_of_unset (agree.config_eq ▸ hset)]
    exact ⟨rfl, agree⟩
  | some config =>
    have hset' : b'.config = some config := agree.config_eq ▸ hset
    cases hfound : b.table.get? h with
    | none =>
      rw [hserves.perform_of_unknown hset hfound,
        hserves.perform_of_unknown hset' (agree.get?_eq ▸ hfound)]
      exact ⟨rfl, agree⟩
    | some x =>
      obtain ⟨t, hperform, hputs⟩ := hserves.perform_of_get? hset agree.sound.tidy hfound
      obtain ⟨t', hperform', hputs'⟩ :=
        hserves.perform_of_get? hset' agree.sound'.tidy (agree.get?_eq ▸ hfound)
      rw [hperform] at hsound ⊢
      rw [hperform'] at hsound' ⊢
      refine ⟨rfl, hsound, hsound', agree.config_eq, ?_⟩
      rw [hputs.get?_eq, hputs'.get?_eq, if_pos rfl, if_pos rfl]

/-- A call with another handle has no effect behind the handle. -/
theorem other {k : Handle} (takes : c.handle? = some k) (ne : k ≠ h) :
    AgreeAt h (b.perform parse c).1 b' := by
  have heffect := agree.sound.effect parse c
  have hsound := heffect.sound agree.sound
  generalize (b.perform parse c).1 = b₁, (b.perform parse c).2 = result at heffect hsound
  cases heffect with
  | refused => exact agree
  | idle => exact agree
  | initialised => cases takes
  | shutdown => cases takes
  | created creates => rcases creates with rfl | rfl <;> cases takes
  | acted takes' set found puts =>
    cases takes.symm.trans takes'
    refine ⟨hsound, agree.sound', agree.config_eq, ?_⟩
    rw [puts.get?_eq, if_neg (Ne.symm ne), agree.get?_eq]

end AgreeAt

/-- **Callers do not interfere.** Let a bridge that calls have led to be given an interleaving of
lists of calls, one for each handle and all with this handle. What the calls of one list are
replied, and what is behind their handle in the end, are the same as if the list had been given
alone, however documents are read. -/
theorem handles_do_not_interfere (parse : Config.Reading) {lists : Handle → List Call}
    (own : ∀ h, ∀ c ∈ lists h, c.handle? = some h) {calls : List Call}
    (interleaves : Interleaves lists calls) (earlier : List Call) (h : Handle) :
    let b := Machine.after (call parse) fresh earlier
    ((Machine.steps (call parse) b calls).filter (·.input.handle? = some h)).map Step.exchange =
        (Machine.steps (call parse) b (lists h)).map Step.exchange ∧
      (Machine.after (call parse) b calls).table.get? h =
        (Machine.after (call parse) b (lists h)).table.get? h := by
  intro b
  have agree : AgreeAt h b b := ⟨sound_after parse earlier, sound_after parse earlier, rfl, rfl⟩
  have hlist : calls.filter (fun c => c.handle? = some h) = lists h :=
    interleaves.filter_eq own h
  have hother {b₁ b₂ : Bridge} : ∀ c ∈ calls, decide (c.handle? = some h) = false →
      AgreeAt h b₁ b₂ → AgreeAt h (b₁.call parse c).1 b₂ := by
    intro c hc hne agree
    obtain ⟨k, hk⟩ := interleaves.exists_mem hc
    have htakes := own k c hk
    refine agree.other parse htakes fun heq => ?_
    rw [htakes, heq] at hne
    simp at hne
  have hsame {b₁ b₂ : Bridge} {c : Call} (takes : decide (c.handle? = some h) = true)
      (agree : AgreeAt h b₁ b₂) :
      (b₁.call parse c).2 = (b₂.call parse c).2 ∧
        AgreeAt h (b₁.call parse c).1 (b₂.call parse c).1 := by
    obtain ⟨hresult, hagree⟩ := agree.own parse (of_decide_eq_true takes)
    exact ⟨congrArg (Reply.of c.fallback) hresult, hagree⟩
  obtain ⟨hsteps, hafter⟩ := Machine.map_exchange_filter_steps (call parse) hsame hother agree
  rw [hlist] at hsteps hafter
  exact ⟨hsteps, hafter.get?_eq⟩

/-- A blockchain is destroyed between two calls on a consensus, and asked for its height after
that. -/
theorem handles_do_not_interfere_destroyedNeighbour :
    let b := Machine.after (call Config.parse) fresh
      [.initialise .unset, .blockchainNew, .consensusNew]
    let calls : List Call :=
      [.addValidator 2 (some [97]) 5, .blockchainDestroy 1, .selectProposer 2, .height 1]
    let steps (calls : List Call) := Machine.steps (call Config.parse) b calls
    let seen (h : Handle) := ((steps calls).filter (·.input.handle? = some h)).map Step.exchange
    seen 1 = (steps [.blockchainDestroy 1, .height 1]).map Step.exchange ∧
      seen 2 = (steps [.addValidator 2 (some [97]) 5, .selectProposer 2]).map Step.exchange := by
  intro b calls steps seen
  let lists : Handle → List Call := fun h => calls.filter (·.handle? = some h)
  have own : ∀ h, ∀ c ∈ lists h, c.handle? = some h :=
    fun h c hc => of_decide_eq_true (List.mem_filter.mp hc).2
  have interleaves : Interleaves lists calls := .of_filter (by decide)
  have alone (h : Handle) := handles_do_not_interfere Config.parse own interleaves
    [.initialise .unset, .blockchainNew, .consensusNew] h
  exact ⟨(alone 1).1, (alone 2).1⟩

end Bridge

end HostedLedger

import HostedLedger.Proofs.Config.Validity
import HostedLedger.Proofs.Foreign.Call
import HostedLedger.Proofs.Machine

/-!
# What calls do to a bridge

A call that fails does nothing. A call that goes through loads the configuration, forgets it with
all instances, makes an instance, or acts on the instance behind its handle. The bridges that calls
lead to are sound, however documents are read: their configurations are valid, their tables are
tidy, they have no instances without a configuration, and their instances hold no text that could
not be handed back. Only on sound bridges does a call that fails do nothing.

## Main definitions

* `Bridge.Sound b`: what every bridge keeps
* `Bridge.Effect`: what a call may do to a bridge

## Main results

* `Bridge.Sound.effect`: every call on a sound bridge has one of the effects
* `Bridge.Effect.sound`: each of them keeps the bridge sound
* `Bridge.obeys_effect`, `Bridge.sound_after`: the same for replies, and for the bridges that calls
  lead to
-/

namespace HostedLedger

/-- A reply that does not tell of success tells of an error. -/
theorem Reply.exists_error_of_status_ne {fallback : Value} {result : Except Error Value}
    (h : (Reply.of fallback result).report.status ≠ .success) : ∃ e, result = .error e := by
  cases result with
  | ok v => exact absurd rfl h
  | error e => exact ⟨e, rfl⟩

namespace Bridge

/-- What every bridge that calls lead to keeps. -/
structure Sound (b : Bridge) : Prop where
  valid : ∀ {config}, b.config = some config → config.Valid
  tidy : b.table.Tidy
  vacant : b.config = none → ∀ h, b.table.get? h = none
  writable : ∀ {h x}, b.table.get? h = some x → x.Writable

/-- What a call may do to a bridge. -/
inductive Effect (b : Bridge) : Call → Except Error Value → Bridge → Prop
  | refused {c : Call} {e : Error} : Effect b c (.error e) b
  | idle : Effect b .releaseNothing (.ok .nothing) b
  | initialised {source : ConfigSource} {config : Config} (valid : config.Valid) :
    Effect b (.initialise source) (.ok .nothing) { b with config := some config }
  | shutdown {t : HandleTable} (loses : HandleTable.Loses b.table b.table.occupied t) :
    Effect b .shutdown (.ok .nothing) ⟨none, t⟩
  | created {c : Call} {config : Config} {x : Instance} {h : Handle} {t : HandleTable}
    (creates : c = .blockchainNew ∨ c = .consensusNew) (set : b.config = some config)
    (writable : x.Writable) (gains : HandleTable.Gains b.table x h t) :
    Effect b c (.ok (.handle h)) { b with table := t }
  | acted {c : Call} {h : Handle} {config : Config} {x : Instance} {y : Option Instance} {v : Value}
    {t : HandleTable} (takes : c.handle? = some h) (set : b.config = some config)
    (found : b.table.get? h = some x) (puts : HandleTable.Puts b.table h y t)
    (writable : ∀ z, y = some z → z.Writable) (gone : c.destroys = true → y = none) :
    Effect b c (.ok v) { b with table := t }

theorem Effect.eq_of_error {b b' : Bridge} {c : Call} {e : Error}
    (effect : Effect b c (.error e) b') : b' = b := by
  cases effect
  rfl

theorem sound_fresh : fresh.Sound where
  valid set := by cases set
  tidy := HandleTable.tidy_empty
  vacant _ := HandleTable.get?_empty
  writable {h x} found := by
    rw [fresh, HandleTable.get?_empty] at found
    cases found

/-! ### Single calls -/

theorem effect_initialise (parse : Config.Reading) {b : Bridge}
    (valid : ∀ {config}, b.config = some config → config.Valid) (source : ConfigSource) :
    Effect b (.initialise source) (b.initialise parse source).2 (b.initialise parse source).1 := by
  rw [initialise]
  split
  · next config hset =>
    have hkept : Effect b (.initialise source) (.ok .nothing) { b with config := some config } :=
      .initialised (valid hset)
    rwa [← hset] at hkept
  · split
    · exact .refused
    · next config hload => exact .initialised (Config.valid_of_load hload)

theorem writable_of_newBlockchain {config : Config} {x : Instance}
    (h : newBlockchain config = .ok x) : x.Writable := by
  rw [newBlockchain] at h
  split at h
  · cases h
  · cases h
    trivial

/-- A new rotation has no validators. -/
theorem writable_of_newConsensus {config : Config} {x : Instance}
    (h : newConsensus config = .ok x) : x.Writable := by
  cases h
  exact ValidatorSet.named_new _ _

theorem effect_create {b : Bridge} (tidy : b.table.Tidy) {c : Call}
    {make : Config → Except Error Instance} (creates : c = .blockchainNew ∨ c = .consensusNew)
    (writable : ∀ {config x}, make config = .ok x → x.Writable) :
    Effect b c (b.create make).2 (b.create make).1 := by
  rw [create]
  split
  · exact .refused
  next config hset =>
  split
  · exact .refused
  next x hmake =>
  rcases hinsert : b.table.insert x with ⟨t, e | h⟩
  · obtain rfl := HandleTable.eq_of_insert_error hinsert
    exact .refused
  · exact .created creates hset (writable hmake) (tidy.gains_insert hinsert)

/-- A call with a handle acts on the instance behind it, or is refused. -/
theorem Sound.effect_of_handle (parse : Config.Reading) {b : Bridge} (sound : b.Sound) {c : Call}
    {h : Handle} (takes : c.handle? = some h) :
    Effect b c (b.perform parse c).2 (b.perform parse c).1 := by
  obtain ⟨react, hserves⟩ := exists_serves takes
  cases hset : b.config with
  | none =>
    rw [hserves.perform_of_unset hset]
    exact .refused
  | some config =>
    cases hfound : b.table.get? h with
    | none =>
      rw [hserves.perform_of_unknown hset hfound]
      exact .refused
    | some x =>
      obtain ⟨t, hperform, hputs⟩ := hserves.perform_of_get? hset sound.tidy hfound
      have hwritable := sound.writable hfound
      rw [hperform]
      cases hreact : (react x).2 with
      | ok v =>
        refine .acted takes hset hfound hputs (fun z hz => hserves.writable hwritable hz) ?_
        exact fun hdestroys => hserves.eq_none_of_destroys hdestroys hreact
      | error e =>
        have hkept : b.table.get? h = (react x).1 := by
          rw [hfound, hserves.eq_of_error hwritable hreact]
        rw [hputs.eq_of_eq hkept]
        exact .refused

/-- **Every call on a sound bridge has one of the effects.** -/
theorem Sound.effect (parse : Config.Reading) {b : Bridge} (sound : b.Sound) (c : Call) :
    Effect b c (b.perform parse c).2 (b.perform parse c).1 := by
  cases htakes : c.handle? with
  | some h => exact sound.effect_of_handle parse htakes
  | none =>
    cases c with
    | initialise source => exact effect_initialise parse sound.valid source
    | shutdown => exact .shutdown sound.tidy.loses_clear
    | blockchainNew => exact effect_create sound.tidy (.inl rfl) writable_of_newBlockchain
    | consensusNew => exact effect_create sound.tidy (.inr rfl) writable_of_newConsensus
    | releaseNothing => exact .idle
    | _ => cases htakes

theorem Effect.sound {b b' : Bridge} {c : Call} {result : Except Error Value}
    (effect : Effect b c result b') (sound : b.Sound) : b'.Sound := by
  cases effect with
  | refused => exact sound
  | idle => exact sound
  | initialised valid =>
    refine ⟨fun {c} set => ?_, sound.tidy, fun hunset => (by cases hunset), sound.writable⟩
    cases set
    exact valid
  | shutdown loses =>
    have hvacant := sound.tidy.get?_of_loses_occupied loses
    refine ⟨fun set => (by cases set), loses.tidy, fun _ => hvacant, fun {h x} hx => ?_⟩
    rw [hvacant h] at hx
    cases hx
  | created creates set writable gains =>
    refine ⟨sound.valid, gains.tidy, fun hunset => ?_, fun {k z} hz => ?_⟩
    · cases set.symm.trans hunset
    · rcases gains.get?_eq_some_iff.mp hz with hnew | hold
      · cases hnew
        exact writable
      · exact sound.writable hold
  | @acted _ h _ _ _ _ _ takes set found puts writable =>
    refine ⟨sound.valid, puts.tidy, fun hunset => ?_, fun {k z} hz => ?_⟩
    · cases set.symm.trans hunset
    · rw [puts.get?_eq] at hz
      split at hz
      · exact writable z hz
      · exact sound.writable hz

/-- What a call makes of a sound bridge is sound. -/
theorem Sound.fst_perform (parse : Config.Reading) {b : Bridge} (sound : b.Sound) (c : Call) :
    (b.perform parse c).1.Sound :=
  (sound.effect parse c).sound sound

/-! ### Runs -/

/-- A reply tells the result of a call, and on a sound bridge the call has one of the effects. -/
theorem obeys_effect (parse : Config.Reading) : Machine.Obeys (call parse) fun b c reply b' =>
    ∃ result, reply = Reply.of c.fallback result ∧ (b.Sound → Effect b c result b') :=
  fun b c => ⟨(b.perform parse c).2, rfl, fun sound => sound.effect parse c⟩

/-- **Calls lead to sound bridges.** -/
theorem sound_after (parse : Config.Reading) (calls : List Call) :
    (Machine.after (call parse) fresh calls).Sound :=
  (obeys_effect parse).after_induction (fun ⟨_, _, effect⟩ sound => (effect sound).sound sound)
    sound_fresh calls

end Bridge

end HostedLedger

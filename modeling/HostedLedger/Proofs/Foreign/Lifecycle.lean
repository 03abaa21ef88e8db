import HostedLedger.Proofs.Foreign.Effect

/-!
# The lifecycle of a bridge

Whether a bridge is initialised, and which handles it will never know again, can be read off the
calls that it has been given. The last call among those that went through and initialise or shut
down tells the former. A handle has ended when its instance has been destroyed or was there at a
shutdown; it is spent, and stays so over later calls, although its slot may be used again.

## Main definitions

* `Bridge.CallStep`, `Bridge.succeeded`: a call with its reply, and whether it went through
* `Bridge.switched`: whether a step has initialised the bridge or shut it down
* `Bridge.ends`: whether a step has ended a handle
* `Bridge.Tracks`: a bridge is as the steps so far tell

## Main results

* `Bridge.tracks_after`: every run leads to a bridge that is as its steps tell
* `Bridge.bridge_lifecycle`: what follows for single calls
-/

namespace HostedLedger

/-- Whether a call initialises the bridge or shuts it down. -/
def Call.switches? : Call → Option Bool
  | initialise _ => some true
  | shutdown => some false
  | _ => none

theorem Call.switches?_of_handle {c : Call} {h : Handle} (takes : c.handle? = some h) :
    c.switches? = none := by
  cases c with
  | initialise => cases takes
  | shutdown => cases takes
  | _ => rfl

namespace Bridge

/-- A call with the bridge that it was made on and its reply. -/
abbrev CallStep : Type := Step Bridge Call Reply

/-- Whether a step went through. -/
def succeeded (step : CallStep) : Bool := step.answer.report.status.isSuccess

/-- Whether a step has initialised the bridge or has shut it down. -/
def switched (step : CallStep) : Option Bool :=
  if succeeded step then step.input.switches? else none

/-- Whether a step has destroyed the instance behind a handle, by a call for it or by a shutdown. -/
def ends (h : Handle) (step : CallStep) : Bool :=
  succeeded step &&
    match step.input with
    | .shutdown => (step.before.table.get? h).isSome
    | c => c.destroys && c.handle? = some h

/-- A bridge is as the steps so far tell: it is initialised if the last of them that initialised it
or shut it down did initialise it, and the handles that they have ended are spent. -/
structure Tracks (past : List CallStep) (b : Bridge) : Prop where
  sound : b.Sound
  isInitialised_iff : b.isInitialised = true ↔ (past.filterMap switched).getLast? = some true
  spent : ∀ {h}, (∃ step ∈ past, ends h step = true) → b.table.Spent h

theorem tracks_fresh : Tracks [] fresh where
  sound := sound_fresh
  isInitialised_iff := by decide
  spent h := by
    obtain ⟨step, hstep, -⟩ := h
    cases hstep

/-- A further step is told by what it has made of being initialised and by the handles that are
spent after it. -/
theorem Tracks.snoc {past : List CallStep} {b b' : Bridge} (tracks : Tracks past b)
    {step : CallStep} (sound : b'.Sound)
    (isInitialised_eq : b'.isInitialised = (switched step).getD b.isInitialised)
    (keeps : ∀ {h}, b.table.Spent h → b'.table.Spent h)
    (ended : ∀ {h}, ends h step = true → b'.table.Spent h) : Tracks (past ++ [step]) b' where
  sound := sound
  isInitialised_iff := by
    rw [isInitialised_eq, List.filterMap_append, List.getLast?_append]
    cases hswitched : switched step with
    | none => simpa [hswitched] using tracks.isInitialised_iff
    | some on => simp [hswitched]
  spent {h} hends := by
    obtain ⟨step', hmem, hends⟩ := hends
    rcases List.mem_append.mp hmem with hpast | hlast
    · exact keeps (tracks.spent ⟨step', hpast, hends⟩)
    · rw [List.mem_singleton] at hlast
      exact ended (hlast ▸ hends)

/-- What is behind a handle before a shutdown is spent by it. -/
theorem spent_of_shutdown {t t' : HandleTable} (tidy : t.Tidy)
    (loses : HandleTable.Loses t t.occupied t') {h : Handle} (found : (t.get? h).isSome = true) :
    t'.Spent h := by
  obtain ⟨x, hx⟩ := Option.isSome_iff_exists.mp found
  exact ⟨loses.used_of_used (tidy.used_of_get? hx), tidy.get?_of_loses_occupied loses h⟩

theorem tracks_of_effect {past : List CallStep} {b b' : Bridge} {c : Call}
    {result : Except Error Value} (effect : Effect b c result b') (tracks : Tracks past b) :
    Tracks (past ++ [⟨b, c, Reply.of c.fallback result⟩]) b' := by
  have hsound := effect.sound tracks.sound
  cases effect with
  | refused => exact tracks.snoc hsound rfl id fun hends => by cases hends
  | idle => exact tracks.snoc hsound rfl id fun hends => by cases hends
  | initialised => exact tracks.snoc hsound rfl id fun hends => by cases hends
  | shutdown loses =>
    refine tracks.snoc hsound rfl (·.loses loses) fun hends => ?_
    exact spent_of_shutdown tracks.sound.tidy loses hends
  | created creates set writable gains =>
    rcases creates with rfl | rfl
    all_goals exact tracks.snoc hsound rfl (·.gains gains) fun hends => by cases hends
  | acted takes set found puts writable gone =>
    refine tracks.snoc hsound ?_ (·.puts found puts) fun {k} hends => ?_
    · rw [switched]
      simp only [Call.switches?_of_handle takes, ite_self]
      rfl
    · have hdestroys : c.destroys = true ∧ c.handle? = some k := by
        simp only [ends, Bool.and_eq_true] at hends
        obtain ⟨-, hends⟩ := hends
        split at hends
        · cases takes
        · simpa using hends
      cases takes.symm.trans hdestroys.2
      refine ⟨puts.used_of_used (tracks.sound.tidy.used_of_get? found), ?_⟩
      rw [puts.get?_eq, if_pos rfl, gone hdestroys.1]

/-- **Every run leads to a bridge that is as its steps tell.** -/
theorem tracks_after (parse : Config.Reading) (calls : List Call) :
    Tracks (Machine.steps (call parse) fresh calls) (Machine.after (call parse) fresh calls) := by
  refine (obeys_effect parse).steps_induction (P := Tracks) ?_ tracks_fresh calls
  rintro past b c reply b' ⟨result, rfl, effect⟩ tracks
  exact tracks_of_effect (effect tracks.sound) tracks

/-! ### Single calls after a run -/

section Calls

variable {parse : Config.Reading}

theorem isInitialised_eq_false_iff {b : Bridge} : b.isInitialised = false ↔ b.config = none := by
  rw [isInitialised, Option.isSome_eq_false_iff, Option.isNone_iff_eq_none]

theorem initialise_of_set {b : Bridge} {config : Config} (set : b.config = some config)
    (source : ConfigSource) : b.initialise parse source = (b, .ok .nothing) := by
  rw [initialise, set]

/-- Initialising fails only without a configuration, and then there is none. -/
theorem config_of_initialise_error {b : Bridge} {source : ConfigSource} {e : Error}
    (h : (b.initialise parse source).2 = .error e) :
    (b.initialise parse source).1.config = none := by
  rw [initialise] at h ⊢
  split at h
  · cases h
  next hunset =>
  split at h
  · exact hunset
  · cases h

/-- Without a configuration nothing is done but initialising and shutting down. -/
theorem perform_of_unset {b : Bridge} (unset : b.config = none) {c : Call}
    (needs : c.needsBridge = true) : b.perform parse c = (b, .error .uninitialised) := by
  cases htakes : c.handle? with
  | some h =>
    obtain ⟨react, hserves⟩ := exists_serves htakes
    exact hserves.perform_of_unset unset
  | none =>
    cases c with
    | blockchainNew => rw [perform, create, unset]
    | consensusNew => rw [perform, create, unset]
    | initialise => cases needs
    | shutdown => cases needs
    | releaseNothing => cases needs
    | _ => cases htakes

/-- A spent handle is refused. -/
theorem perform_of_spent {b : Bridge} {config : Config} (set : b.config = some config) {h : Handle}
    (spent : b.table.Spent h) {c : Call} (takes : c.handle? = some h) :
    b.perform parse c = (b, .error (.parameter (.unknownHandle h))) := by
  obtain ⟨react, hserves⟩ := exists_serves takes
  exact hserves.perform_of_unknown set spent.get?_eq

end Calls

/-- **The lifecycle of a bridge.** After any calls, a bridge is initialised if and only if the last
call that went through among those that initialise and shut down was one that initialises. If it is
not initialised, it has no instances, and every call but those two and the releases is refused
without an effect. If it is, initialising succeeds without an effect, whatever the configuration;
and a handle whose instance has been destroyed, or was there at a shutdown, is refused by every
call. Where initialising fails, the bridge is not initialised. All this is so however documents are
read. -/
theorem bridge_lifecycle (parse : Config.Reading) (calls : List Call) :
    let b := Machine.after (call parse) fresh calls
    let past := Machine.steps (call parse) fresh calls
    (b.isInitialised = true ↔ (past.filterMap switched).getLast? = some true) ∧
    (b.isInitialised = false →
      (∀ c, c.needsBridge = true →
        (b.call parse c).1 = b ∧ (b.call parse c).2.report.status = .failure .state) ∧
      (∀ h, b.table.get? h = none) ∧ ∀ kind, b.table.count kind = 0) ∧
    (b.isInitialised = true →
      (∀ source, b.call parse (.initialise source) = (b, ⟨.nothing, CallReport.success⟩)) ∧
      ∀ h, (∃ step ∈ past, ends h step = true) → ∀ c, c.handle? = some h →
        (b.call parse c).1 = b ∧ (b.call parse c).2.report.status = .failure .invalidParameter) ∧
    ∀ source, (b.call parse (.initialise source)).2.report.status ≠ .success →
      (b.call parse (.initialise source)).1.isInitialised = false := by
  intro b past
  have tracks : Tracks past b := tracks_after parse calls
  refine ⟨tracks.isInitialised_iff, fun hunset => ?_, fun hset => ?_, fun source hstatus => ?_⟩
  · rw [isInitialised_eq_false_iff] at hunset
    have hvacant := tracks.sound.vacant hunset
    refine ⟨fun c needs => ?_, hvacant, tracks.sound.tidy.count_eq_zero hvacant⟩
    rw [call, perform_of_unset hunset needs]
    exact ⟨rfl, rfl⟩
  · obtain ⟨config, hconfig⟩ := Option.isSome_iff_exists.mp hset
    refine ⟨fun source => ?_, fun h hends c takes => ?_⟩
    · rw [call, perform, initialise_of_set hconfig]
      rfl
    · rw [call, perform_of_spent hconfig (tracks.spent hends) takes]
      exact ⟨rfl, rfl⟩
  · obtain ⟨e, herror⟩ := Reply.exists_error_of_status_ne hstatus
    exact isInitialised_eq_false_iff.mpr (config_of_initialise_error herror)

/-- Two instances are destroyed, one of them by a shutdown, and their slot is used again after a
failed initialisation and another one. -/
theorem bridge_lifecycle_reusedSlot :
    let absent := ConfigSource.file "absent.yaml" (.error "No such file or directory (os error 2)")
    let calls : List Call := [.initialise .unset, .blockchainNew, .blockchainDestroy 1,
      .consensusNew, .shutdown, .initialise absent, .initialise .unset, .blockchainNew]
    let b := Machine.after (call Config.parse) fresh calls
    let status (c : Call) := (b.call Config.parse c).2.report.status
    b.isInitialised = true ∧ status (.height 8589934593) = .success ∧
      status (.height 1) = .failure .invalidParameter ∧
      status (.selectProposer 4294967297) = .failure .invalidParameter := by
  intro absent calls b status
  obtain ⟨hinitialised, -, hset, -⟩ := bridge_lifecycle Config.parse calls
  have hon : b.isInitialised = true := hinitialised.mpr (by decide +kernel)
  obtain ⟨-, hended⟩ := hset hon
  refine ⟨hon, by decide +kernel, ?_, ?_⟩
  · exact (hended 1 (by decide +kernel) (.height 1) rfl).2
  · exact (hended 4294967297 (by decide +kernel) (.selectProposer 4294967297) rfl).2

end Bridge

end HostedLedger

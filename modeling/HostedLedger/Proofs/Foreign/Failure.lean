import HostedLedger.Proofs.Foreign.Effect

/-!
# Calls that fail

A call that reports an error has no effect, however documents are read. Drawing a proposer is the
one call that acts before it is known whether it can answer: the draw is counted first, and the
address of the winner is made a foreign text afterwards. It answers all the same, since no validator
that calls have brought in has an address with a zero byte.

## Main results

* `Bridge.perform_selectProposer`: what drawing a proposer does
* `Bridge.failed_calls_change_nothing`: calls that report an error have no effect
-/

namespace HostedLedger

namespace Bridge

variable {parse : Config.Reading} {b : Bridge} {h : Handle} {slot : Nat} {r : Rotation}

/-- The draw is counted before its winner is handed back. -/
theorem perform_selectProposer {config : Config} (set : b.config = some config)
    (found : b.table.consensus h = .ok (slot, r)) :
    b.perform parse (.selectProposer h) =
      ({ b with table := b.table.occupy slot (some (.consensus r.next.1)) },
        r.next.2.bind textValue) := by
  rw [perform, onRotation, onTable_of_set set]
  simp only [HandleTable.withConsensus, found]

/-- An instance that is found is there, so the bridge is initialised. -/
theorem Sound.exists_config (sound : b.Sound) {x : Instance} (found : b.table.get? h = some x) :
    ∃ config, b.config = some config := by
  rw [← Option.ne_none_iff_exists']
  intro hunset
  rw [sound.vacant hunset h] at found
  cases found

/-- **A call that reports an error changes nothing.** This holds of every bridge that calls lead to
and of every call, however documents are read. In particular no validator has an address with a zero
byte, so that a draw that finds a winner is always answered by its address. -/
theorem failed_calls_change_nothing (parse : Config.Reading) (calls : List Call) :
    let b := Machine.after (call parse) fresh calls
    (∀ c, (b.call parse c).2.report.status.code ≠ 0 → (b.call parse c).1 = b) ∧
    ∀ h slot r, b.table.consensus h = .ok (slot, r) →
      (∀ v ∈ r.validators.toList, 0 ∉ Utf8.encode v.address) ∧
      ∀ address, r.next.2 = .ok address →
        b.call parse (.selectProposer h) =
          ({ b with table := b.table.occupy slot (some (.consensus r.next.1)) },
            ⟨.text (some address), CallReport.success⟩) := by
  intro b
  have sound : b.Sound := sound_after parse calls
  refine ⟨fun c hcode => ?_, fun h slot r hfound => ?_⟩
  · have hstatus : (b.call parse c).2.report.status ≠ .success := fun hsuccess => by
      rw [hsuccess] at hcode
      exact hcode rfl
    obtain ⟨e, herror⟩ : ∃ e, (b.perform parse c).2 = .error e :=
      Reply.exists_error_of_status_ne hstatus
    have heffect := sound.effect parse c
    rw [herror] at heffect
    exact heffect.eq_of_error
  · have hget : b.table.get? h = some (.consensus r) :=
      HandleTable.get?_eq_some_iff.mpr ⟨slot, HandleTable.consensus_eq_ok_iff.mp hfound⟩
    have hnamed : r.Named ForeignText.Writable := sound.writable hget
    refine ⟨hnamed, fun address hnext => ?_⟩
    obtain ⟨config, hset⟩ := sound.exists_config hget
    have hvalue : r.next.2.bind textValue = .ok (.text (some address)) := by
      rw [hnext]
      exact textValue_of_next hnamed hnext
    rw [call, perform_selectProposer hset hfound, hvalue]
    rfl

/-- The address of a validator is handed over with bytes behind its end, and then drawn; a validator
without a stake is refused. -/
theorem failed_calls_change_nothing_trailingBytes :
    let b := Machine.after (call Config.parse) fresh
      [.initialise .unset, .consensusNew, .addValidator 1 (some [97, 0, 98]) 10]
    (b.call Config.parse (.addValidator 1 (some [99]) 0)).1 = b ∧
      (b.call Config.parse (.selectProposer 1)).2 = ⟨.text (some "a"), CallReport.success⟩ := by
  intro b
  obtain ⟨hfailed, hfound⟩ := failed_calls_change_nothing Config.parse
    [.initialise .unset, .consensusNew, .addValidator 1 (some [97, 0, 98]) 10]
  refine ⟨hfailed _ (by decide +kernel), ?_⟩
  have hdraw : (b.table.consensus 1).map (fun p => p.2.next.2) = .ok (.ok "a") := by
    decide +kernel
  cases hconsensus : b.table.consensus 1 with
  | error e =>
    rw [hconsensus] at hdraw
    cases hdraw
  | ok p =>
    rw [hconsensus] at hdraw
    obtain ⟨-, hdrawn⟩ := hfound 1 p.1 p.2 hconsensus
    rw [hdrawn "a" (Except.ok.inj hdraw)]

end Bridge

end HostedLedger

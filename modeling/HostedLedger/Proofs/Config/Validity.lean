import HostedLedger.Config.Document

/-!
# Valid configurations

The configurations that are let in are those that instances can be made with. Whichever
configuration a document is read as, it is let in only if it is valid, so that nothing about how
documents are read matters for what is found at a source.

## Main definitions

* `Config.Valid c`: instances can be made with the configuration `c`

## Main results

* `Config.validate_eq_ok_iff`: the configurations that are let in
* `Config.valid_of_load`: what is found at a source is valid, however documents are read
-/

namespace HostedLedger

namespace Config

/-- Instances can be made with a configuration: its level of logging is a known one in some case of
its letters, its minimal stake is not zero, and its genesis accounts have addresses. -/
structure Valid (c : Config) : Prop where
  known : c.logLevel.map Char.toLower ∈ logLevels
  minValidatorStake_pos : 0 < c.minValidatorStake
  named : ∀ g ∈ c.genesisAccounts, g.address ≠ ""

theorem isLogLevel_iff {s : String} : isLogLevel s = true ↔ s.map Char.toLower ∈ logLevels :=
  List.contains_iff_mem

/-- The configurations that are let in are the valid ones. -/
theorem validate_eq_ok_iff {c : Config} : c.validate = .ok () ↔ c.Valid := by
  rw [validate]
  split
  · next hunknown =>
    refine ⟨nofun, fun valid => ?_⟩
    rw [isLogLevel_iff.mpr valid.known] at hunknown
    cases hunknown
  next hknown =>
  split
  · next hzero =>
    refine ⟨nofun, fun valid => ?_⟩
    exact absurd hzero (UInt64.pos_iff_ne_zero.mp valid.minValidatorStake_pos)
  next hstake =>
  split
  · next index hunnamed =>
    refine ⟨nofun, fun valid => ?_⟩
    rw [GenesisAccount.firstUnnamed?_eq_none_iff.mpr valid.named] at hunnamed
    cases hunnamed
  · next hnamed =>
    refine ⟨fun _ => ?_, fun _ => rfl⟩
    exact {
      known := isLogLevel_iff.mp (by simpa using hknown)
      minValidatorStake_pos := UInt64.pos_iff_ne_zero.mpr hstake
      named := GenesisAccount.firstUnnamed?_eq_none_iff.mp hnamed }

/-- The defaults are valid. -/
theorem valid_default : Valid {} where
  known := by decide +kernel
  minValidatorStake_pos := by decide
  named := by simp

/-! ### Documents -/

variable {parse : Reading} {c : Config}

theorem valid_of_ofDocument {document : String} (h : ofDocument parse document = .ok c) :
    c.Valid := by
  rw [ofDocument] at h
  split at h
  · cases h
  split at h
  · cases h
  · next hvalidate =>
    cases h
    exact validate_eq_ok_iff.mp hvalidate

/-- **What is found at a source is valid**, however documents are read. -/
theorem valid_of_load {source : ConfigSource} (h : load parse source = .ok c) : c.Valid := by
  rcases source with _ | ⟨name, _ | contents⟩
  · cases h
    exact valid_default
  · cases h
  · rw [load] at h
    split at h
    · cases h
    · exact valid_of_ofDocument h

end Config

end HostedLedger

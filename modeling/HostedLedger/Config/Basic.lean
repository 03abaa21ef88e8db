import HostedLedger.Account.Genesis
import HostedLedger.Error.Cause
import HostedLedger.Policy

/-!
# Configurations

What a bridge is set up with: the policy and the genesis accounts of its instances, and how much it
logs.

## Main definitions

* `Config`: the settings, each with a default
* `Config.validate`: refuses settings that no instance could be made with
* `Config.policy`: the policy of new instances
-/

namespace HostedLedger

/-- The settings of a bridge. -/
structure Config where
  logLevel : String := "warn"
  allowEmptyBlocks : Bool := false
  minValidatorStake : UInt64 := 1
  genesisAccounts : List GenesisAccount := []
  deriving DecidableEq, Inhabited

namespace Config

/-- The levels of logging. -/
def logLevels : List String := ["trace", "debug", "info", "warn", "error", "off"]

/-- Whether a text names a level of logging; ASCII letters may have either case. -/
def isLogLevel (s : String) : Bool := logLevels.contains (s.map Char.toLower)

/-- Refuses an unknown level of logging, a minimal stake of zero, and a genesis account without an
address, in this order. -/
def validate (c : Config) : Except ConfigError Unit :=
  if !isLogLevel c.logLevel then .error (.unknownLogLevel c.logLevel)
  else if c.minValidatorStake = 0 then .error .zeroMinStake
  else
    match GenesisAccount.firstUnnamed? c.genesisAccounts with
    | some index => .error (.emptyGenesisAddress index)
    | none => .ok ()

/-- The policy of new instances. -/
def policy (c : Config) : Policy := ⟨c.allowEmptyBlocks, c.minValidatorStake⟩

end Config

end HostedLedger

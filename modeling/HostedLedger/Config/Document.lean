import HostedLedger.Config.Basic
import HostedLedger.Record
import HostedLedger.Yaml.Value

/-!
# Configuration documents

A configuration is written as a mapping of its settings. Settings that are not given have their
defaults, and there may be no others. What a bridge takes from a document is a matter of how the
document is read, so the reading is an argument here.

## Main definitions

* `Config.ofNode?`: the configuration that a node describes
* `Config.Reading`, `Config.parse`: ways to read documents, and that of this library
* `Config.ofDocument`: the valid configuration that a document describes
* `ConfigSource`, `Config.load`: where a bridge finds its configuration
-/

namespace HostedLedger

open Yaml (Node)

/-- The account that a node describes. -/
def GenesisAccount.ofNode? (n : Node) : Option GenesisAccount := do
  let fields ← n.fields?
  let address ← Record.required? fields "address" Node.text?
  let balance ← Record.required? fields "balance" Node.word?
  return ⟨address, balance⟩

namespace Config

/-- The names of the settings. -/
def settings : List String :=
  ["log_level", "allow_empty_blocks", "min_validator_stake", "genesis_accounts"]

/-- The accounts that the items of a node describe. -/
def genesisAccounts? (n : Node) : Option (List GenesisAccount) := do
  (← n.items?).mapM GenesisAccount.ofNode?

/-- The configuration that a node describes. -/
def ofNode? (n : Node) : Option Config := do
  let fields ← n.fields?
  if !fields.all fun f => settings.contains f.1 then none
  let c : Config := {}
  return {
    logLevel := ← Record.withDefault? fields "log_level" Node.text? c.logLevel
    allowEmptyBlocks :=
      ← Record.withDefault? fields "allow_empty_blocks" Node.bool? c.allowEmptyBlocks
    minValidatorStake :=
      ← Record.withDefault? fields "min_validator_stake" Node.word? c.minValidatorStake
    genesisAccounts :=
      ← Record.withDefault? fields "genesis_accounts" genesisAccounts? c.genesisAccounts }

/-- A way to read documents: the configuration that is made of one, or a text that tells why there
is none. -/
abbrev Reading : Type := String → Except String Config

/-- The way in which this library reads documents. -/
def parse : Reading := fun document =>
  match (Node.ofText? document).bind ofNode? with
  | none => .error "the document describes no settings"
  | some c => .ok c

/-- The valid configuration that a document describes. -/
def ofDocument (parse : Reading) (document : String) : Except ConfigError Config :=
  match parse document with
  | .error text => .error (.unparsable text)
  | .ok c =>
    match c.validate with
    | .error e => .error e
    | .ok () => .ok c

end Config

/-- Where a bridge finds its configuration. -/
inductive ConfigSource
  /-- No file is named; the defaults hold. -/
  | unset
  /-- A file is named. There are its contents, or a text that tells why the system does not hand
  them over. -/
  | file (name : String) (contents : Except String Bytes)

/-- The configuration found at a source. -/
def Config.load (parse : Reading) : ConfigSource → Except ConfigError Config
  | .unset => .ok {}
  | .file name (.error text) => .error (.unreadable name (.system text))
  | .file name (.ok contents) =>
    match Utf8.decode contents with
    | .error _ => .error (.unreadable name .notText)
    | .ok document => ofDocument parse document

end HostedLedger

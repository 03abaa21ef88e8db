import HostedLedger.Proofs.Application.Seeding
import HostedLedger.Proofs.Foreign.Answer
import HostedLedger.Proofs.Foreign.Isolation

/-!
# What a stored configuration sets up

A bridge stores only valid configurations, and a valid configuration is enough to make instances:
as long as the table has room, both kinds are made. A new ledger has the genesis accounts and
nothing else, a new rotation asks for the minimal stake, and the other instances are left alone.
All this does not depend on how documents are read.

## Main definitions

* `Ledger.SetUpBy`, `Rotation.SetUpBy`: a new ledger and a new rotation are as a configuration says
* `Bridge.Makes parse b c h x`: a call makes an instance and does nothing else

## Main results

* `Bridge.Sound.exists_makes`: where there is room, an instance that can be set up is made
* `Bridge.Sound.exists_makes_blockchain`, `Bridge.Sound.exists_makes_consensus`: both kinds are made
* `Bridge.stored_configuration_works`: what a stored configuration sets up
-/

namespace HostedLedger

/-! ### New instances -/

/-- A new ledger is as a configuration says: it has the policy, no blocks and no transactions, and
its accounts are the genesis accounts, each with the balance of its last entry. -/
structure Ledger.SetUpBy (l : Ledger) (config : Config) : Prop where
  policy_eq : l.policy = ⟨config.allowEmptyBlocks, config.minValidatorStake⟩
  chain_eq : l.chain = []
  height_eq : l.height = 0
  pending_eq : l.pending = []
  account?_of_last : ∀ before g after, config.genesisAccounts = before ++ g :: after →
    (∀ g' ∈ after, g'.address ≠ g.address) → l.account? g.address = some ⟨g.balance, 0⟩
  account?_of_unlisted : ∀ address, (∀ g ∈ config.genesisAccounts, g.address ≠ address) →
    l.account? address = none

/-- Genesis accounts with addresses set up a ledger. -/
theorem Ledger.setUpBy_seed {config : Config}
    (named : ∀ g ∈ config.genesisAccounts, g.address ≠ "") :
    SetUpBy ((new config.policy).seed config.genesisAccounts).1 config := by
  have hseed := (new config.policy).seed_eq_with_accounts named
  refine ⟨congrArg policy hseed, congrArg chain hseed, congrArg height hseed,
    congrArg pending hseed, ?_, fun address => ?_⟩
  · intro before g after hgenesis hlast
    rw [hgenesis] at named ⊢
    exact (new config.policy).account?_seed_of_last g named hlast
  · exact (new config.policy).account?_seed_of_unlisted named

/-- A new rotation is as a configuration says: it has no validators and no rounds, and accepts at an
address the stakes that are not below the minimal one. -/
structure Rotation.SetUpBy (r : Rotation) (config : Config) : Prop where
  toList_eq : r.validators.toList = []
  round_eq : r.round = 0
  add_eq : ∀ address stake, address ≠ "" → (r.add address stake).2 =
    if stake = 0 then .error (.parameter .zeroStake)
    else if stake < config.minValidatorStake then
      .error (.parameter (.stakeBelowMinimum stake config.minValidatorStake))
    else .ok ()

theorem Rotation.setUpBy_new (config : Config) : SetUpBy (new config.policy) config where
  toList_eq := rfl
  round_eq := rfl
  add_eq address stake address_ne := by
    have hmin : (new config.policy).validators.minStake = config.minValidatorStake := rfl
    rw [add, ValidatorSet.add, (Address.check_eq_ok_iff "validator").mpr address_ne, hmin]
    dsimp only
    split
    · rfl
    · split <;> rfl

namespace Bridge

/-- Valid configurations set up blockchains. -/
theorem newBlockchain_eq {config : Config} (valid : config.Valid) :
    newBlockchain config =
      .ok (.blockchain (.ofLedger ((Ledger.new config.policy).seed config.genesisAccounts).1)) := by
  rw [newBlockchain, Ledger.seed_eq _ valid.named]

/-- Every configuration sets up a consensus. -/
theorem newConsensus_eq (config : Config) :
    newConsensus config = .ok (.consensus (Rotation.new config.policy)) := rfl

/-! ### Making instances -/

/-- A call makes an instance and answers with its handle, behind which there was nothing. Everything
else is left as it is. -/
structure Makes (parse : Config.Reading) (b : Bridge) (c : Call) (h : Handle) (x : Instance) :
    Prop where
  reply_eq : (b.call parse c).2 = ⟨.handle h, CallReport.success⟩
  handle_ne : h ≠ 0
  vacant : b.table.get? h = none
  found : (b.call parse c).1.table.get? h = some x
  others : ∀ k, k ≠ h → (b.call parse c).1.table.get? k = b.table.get? k
  config_eq : (b.call parse c).1.config = b.config

namespace Sound

variable {parse : Config.Reading} {b : Bridge} (sound : b.Sound) {config : Config}
  (set : b.config = some config)
include sound set

/-- **Where there is room, an instance that can be set up is made.** -/
theorem exists_makes (room : b.table.HasRoom) {c : Call} {make : Config → Except Error Instance}
    {x : Instance} (performs : b.perform parse c = b.create make) (made : make config = .ok x) :
    ∃ h, b.Makes parse c h x := by
  obtain ⟨h, hinsert⟩ : ∃ h, (b.table.insert x).2 = .ok h := HandleTable.exists_insert_iff.mpr room
  have hgains : HandleTable.Gains b.table x h (b.table.insert x).1 :=
    sound.tidy.gains_insert (Prod.ext rfl hinsert)
  have hcall : b.call parse c =
      ({ b with table := (b.table.insert x).1 }, ⟨.handle h, CallReport.success⟩) := by
    rw [call, performs, create, set]
    simp only [made, hinsert]
    rfl
  refine ⟨h, ?_, hgains.tidy.ne_zero_of_used hgains.used, hgains.get?_before sound.tidy, ?_, ?_, ?_⟩
  · rw [hcall]
  · rw [hcall]
    exact hgains.get?_self
  · rw [hcall]
    exact fun k ne => hgains.get?_of_ne ne
  · rw [hcall]

/-- **A valid configuration sets up a ledger.** -/
theorem exists_makes_blockchain (room : b.table.HasRoom) :
    ∃ h l, b.Makes parse .blockchainNew h (.blockchain (.ofLedger l)) ∧ l.SetUpBy config := by
  have hvalid := sound.valid set
  obtain ⟨h, hmakes⟩ :=
    sound.exists_makes set room (c := .blockchainNew) rfl (newBlockchain_eq hvalid)
  exact ⟨h, _, hmakes, Ledger.setUpBy_seed hvalid.named⟩

/-- **A configuration sets up a rotation.** -/
theorem exists_makes_consensus (room : b.table.HasRoom) :
    ∃ h r, b.Makes parse .consensusNew h (.consensus r) ∧ r.SetUpBy config := by
  obtain ⟨h, hmakes⟩ :=
    sound.exists_makes set room (c := .consensusNew) rfl (newConsensus_eq config)
  exact ⟨h, _, hmakes, Rotation.setUpBy_new config⟩

end Sound

/-- A new rotation refuses the stakes below the minimal one, and no others. -/
theorem Sound.status_addValidator {parse : Config.Reading} {b : Bridge} (sound : b.Sound)
    {h : Handle} {r : Rotation} (found : b.table.get? h = some (.consensus r))
    {config : Config} (valid : config.Valid) (setUp : r.SetUpBy config)
    {t : ForeignText} {address : String} (reads : t.read "address" = .ok address)
    (address_ne : address ≠ "") (stake : UInt64) :
    (b.call parse (.addValidator h t stake)).2.report.status =
      if stake < config.minValidatorStake then .failure .invalidParameter else .success := by
  have hperform : (b.perform parse (.addValidator h t stake)).2 =
      ((r.add address stake).2.bind fun () => .ok (.flag true)) := by
    rw [perform, sound.snd_onRotation found, reads]
    rfl
  change (Reply.of _ (b.perform parse (.addValidator h t stake)).2).report.status = _
  rw [hperform, setUp.add_eq address stake address_ne]
  by_cases hlt : stake < config.minValidatorStake
  · rw [if_pos hlt, if_pos hlt]
    split <;> rfl
  · have hne : stake ≠ 0 := by
      rintro rfl
      exact hlt valid.minValidatorStake_pos
    rw [if_neg hlt, if_neg hlt, if_neg hne]
    rfl

/-- **What a stored configuration sets up.** Let a bridge be initialised after any calls with any
documents, however documents are read. Then its configuration is valid. If there is room, a call for
a blockchain makes a ledger that is as the configuration says, and a call for a consensus makes a
rotation that is as it says and refuses, at an address, just the stakes below the minimal one. None
of these calls reads a document or changes what is behind any other handle. -/
theorem stored_configuration_works (parse : Config.Reading) (calls : List Call) :
    let b := Machine.after (call parse) fresh calls
    ∀ config, b.config = some config → config.Valid ∧
      (b.table.HasRoom →
        (∃ h l, b.Makes parse .blockchainNew h (.blockchain (.ofLedger l)) ∧ l.SetUpBy config) ∧
        ∃ h r, b.Makes parse .consensusNew h (.consensus r) ∧ r.SetUpBy config ∧
          ∀ t address stake, ForeignText.read "address" t = .ok address → address ≠ "" →
            let added := (b.call parse .consensusNew).1.call parse (.addValidator h t stake)
            added.2.report.status =
              (if stake < config.minValidatorStake then .failure .invalidParameter
                else .success) ∧
            ∀ k, k ≠ h → added.1.table.get? k = b.table.get? k) := by
  intro b config set
  have sound : b.Sound := sound_after parse calls
  refine ⟨sound.valid set, fun room => ⟨sound.exists_makes_blockchain set room, ?_⟩⟩
  obtain ⟨h, r, hmakes, hsetUp⟩ := sound.exists_makes_consensus set room
  refine ⟨h, r, hmakes, hsetUp, fun t address stake reads address_ne => ?_⟩
  have hsound : (b.call parse .consensusNew).1.Sound := sound.fst_perform parse .consensusNew
  refine ⟨hsound.status_addValidator hmakes.found (sound.valid set) hsetUp reads address_ne stake,
    fun k ne => ?_⟩
  have hagree : AgreeAt k ((b.call parse .consensusNew).1.call parse (.addValidator h t stake)).1
      (b.call parse .consensusNew).1 :=
    AgreeAt.other ⟨hsound, hsound, rfl, rfl⟩ parse (c := .addValidator h t stake) rfl (Ne.symm ne)
  exact hagree.get?_eq.trans (hmakes.others k ne)

/-- A document is refused and the defaults are loaded; the bridge is shut down with two instances,
and initialised by a document that names an account twice. -/
theorem stored_configuration_works_reinitialised :
    let document (lines : List String) : ConfigSource :=
      .file "bridge.yaml" (.ok (Utf8.encode (String.intercalate "\n" lines)))
    let calls : List Call := [
      .initialise (document ["min_validator_stake: 0"]), .initialise .unset, .blockchainNew,
      .consensusNew, .shutdown,
      .initialise (document ["log_level: DEBUG", "min_validator_stake: 100", "genesis_accounts:",
        "  - address: alice", "    balance: 5", "  - address: alice", "    balance: 7"])]
    let b := Machine.after (call Config.parse) fresh calls
    (∃ h l, b.Makes Config.parse .blockchainNew h (.blockchain (.ofLedger l)) ∧
      l.account? "alice" = some ⟨7, 0⟩ ∧ l.account? "bob" = none) ∧
    let made := (b.call Config.parse .consensusNew).1
    ∃ h, ∀ stake,
      (made.call Config.parse (.addValidator h (some [97]) stake)).2.report.status =
        if stake < 100 then .failure .invalidParameter else .success := by
  intro document calls
  have hworks := stored_configuration_works Config.parse calls
  have hb : (Machine.after (call Config.parse) fresh calls).config =
        some ⟨"DEBUG", false, 100, [⟨"alice", 5⟩, ⟨"alice", 7⟩]⟩ ∧
      (Machine.after (call Config.parse) fresh calls).table.HasRoom := by
    decide +kernel
  have hreads : ForeignText.read "address" (some [97]) = .ok "a" := by decide +kernel
  generalize Machine.after (call Config.parse) fresh calls = b at hworks hb ⊢
  obtain ⟨hset, hroom⟩ := hb
  obtain ⟨⟨h, l, hmakes, hsetUp⟩, k, r, -, -, hadd⟩ := (hworks _ hset).2 hroom
  refine ⟨⟨h, l, hmakes, ?_, hsetUp.account?_of_unlisted "bob" (by decide)⟩, k, fun stake => ?_⟩
  · exact hsetUp.account?_of_last [⟨"alice", 5⟩] ⟨"alice", 7⟩ [] rfl (List.forall_mem_nil _)
  · exact (hadd (some [97]) "a" stake hreads (by decide)).1

end Bridge

end HostedLedger

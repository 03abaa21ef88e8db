import HostedLedger.Foreign.Bridge
import HostedLedger.Proofs.Application.Trace
import HostedLedger.Proofs.Foreign.Argument
import HostedLedger.Proofs.Foreign.Reaction
import HostedLedger.Proofs.Validator.Membership

/-!
# Calls with a handle

A call that is given a handle does what the instance behind the handle makes of it, and leaves the
instance alone if it fails. For most calls this is so since what they ask of the instance either
goes through or has no effect. Only the call that draws a proposer can fail after the draw, when the
address that has been drawn cannot be handed back; it does not fail there if the addresses in the
rotation have come in as foreign texts.

## Main definitions

* `Call.handle?`, `Call.needsBridge`, `Call.destroys`: what a call is given and what it is for
* `Instance.Writable`: what an instance answers can be handed back
* `Bridge.Serves c h react`: a call does to the instance behind its handle what `react` says

## Main results

* `Bridge.exists_serves`: every call with a handle is decided by the instance behind it
* `Bridge.Serves.perform_of_unset`, `Bridge.Serves.perform_of_unknown`,
  `Bridge.Serves.perform_of_get?`: what such a call does without a configuration, without an
  instance, and with one
-/

namespace HostedLedger

namespace Call

/-- The handle that a call is given. -/
def handle? : Call → Option Handle
  | blockchainDestroy h | height h | latestHash h | addTransaction h _ | balance h _ | nonce h _
  | initAccount h _ _ | createBlock h _ | consensusDestroy h | addValidator h _ _
  | removeValidator h _ | selectProposer h | selectProposerForHeight h _ | process h _ => some h
  | initialise _ | shutdown | blockchainNew | consensusNew | releaseNothing => none

/-- Whether a call is refused by a bridge that is not initialised. -/
def needsBridge : Call → Bool
  | initialise _ | shutdown | releaseNothing => false
  | _ => true

/-- Whether a call releases the instance behind its handle. -/
def destroys : Call → Bool
  | blockchainDestroy _ | consensusDestroy _ => true
  | _ => false

end Call

/-- Every text that an instance may answer can be handed back. -/
def Instance.Writable : Instance → Prop
  | blockchain _ => True
  | consensus r => r.Named ForeignText.Writable

namespace Bridge

/-- A call does to the instance behind its handle what a function of this instance says. If it fails
it leaves the instance as it is. -/
structure Serves (c : Call) (h : Handle) (react : Instance → Option Instance × Except Error Value) :
    Prop where
  exists_act : ∃ act, (∀ parse (b : Bridge), b.perform parse c = b.onTable act) ∧
    HandleTable.Reacts act h react
  eq_of_error : ∀ {x e}, x.Writable → (react x).2 = .error e → (react x).1 = some x
  writable : ∀ {x y}, x.Writable → (react x).1 = some y → y.Writable
  eq_none_of_destroys : c.destroys = true → ∀ {x v}, (react x).2 = .ok v → (react x).1 = none

/-! ### Calls on blockchains -/

section Blockchain

variable {c : Call} {h : Handle}

theorem serves_withBlockchain (act : Application → Application × Except Error Value)
    (perform_eq : ∀ parse (b : Bridge), b.perform parse c = b.onTable (·.withBlockchain h act))
    (keeps : c.destroys = false) (atomic : ∀ {a e}, (act a).2 = .error e → (act a).1 = a) :
    Serves c h (Instance.onBlockchain h act) where
  exists_act := ⟨_, perform_eq, HandleTable.reacts_withBlockchain h act⟩
  eq_of_error {x e} _ herror := by
    cases x with
    | blockchain a => exact congrArg (some ∘ Instance.blockchain) (atomic herror)
    | consensus r => rfl
  writable {x y} hx hy := by
    cases x with
    | blockchain a =>
      cases hy
      trivial
    | consensus r =>
      cases hy
      exact hx
  eq_none_of_destroys hdestroys := by
    rw [keeps] at hdestroys
    cases hdestroys

theorem serves_readLedger (read : Ledger → Except Error Value)
    (perform_eq : ∀ parse (b : Bridge), b.perform parse c = b.readLedger h read)
    (keeps : c.destroys = false) :
    Serves c h (Instance.onBlockchain h fun a => (a, read a.ledger)) :=
  serves_withBlockchain _ perform_eq keeps fun _ => rfl

theorem exists_serves_onLedger {α β : Type} (argument : Except Error α)
    (act : Ledger → α → Ledger × Except Error β) (value : β → Value)
    (perform_eq : ∀ parse (b : Bridge), b.perform parse c = b.onLedger h argument act value)
    (keeps : c.destroys = false)
    (atomic : ∀ {l l' x e}, act l x = (l', .error e) → l' = l) : ∃ react, Serves c h react := by
  refine ⟨_, serves_withBlockchain _ perform_eq keeps fun {a e} herror => ?_⟩
  cases argument with
  | error e' => rfl
  | ok x =>
    cases hact : (act a.ledger x).2 with
    | ok y =>
      change (act a.ledger x).2.map value = .error e at herror
      rw [hact] at herror
      cases herror
    | error e' =>
      have hledger : (act a.ledger x).1 = a.ledger := atomic (Prod.ext rfl hact)
      change { a with ledger := (act a.ledger x).1 } = a
      rw [hledger]

theorem exists_serves_process (h : Handle) (request : ForeignBuffer) :
    ∃ react, Serves (.process h request) h react := by
  refine ⟨_, serves_withBlockchain _ (fun _ _ => rfl) rfl fun {a e} herror => ?_⟩
  cases hread : request.read "request" with
  | error e' => rfl
  | ok bs =>
    simp only [hread] at herror
    cases hprocess : (a.process bs).2 with
    | error e' => exact Application.eq_of_process_error (Prod.ext rfl hprocess)
    | ok w =>
      rw [hprocess] at herror
      cases herror

end Blockchain

/-! ### Calls on rotations -/

section Consensus

variable {c : Call} {h : Handle}

theorem serves_withConsensus (act : Rotation → Rotation × Except Error Value)
    (perform_eq : ∀ parse (b : Bridge), b.perform parse c = b.onTable (·.withConsensus h act))
    (keeps : c.destroys = false)
    (named : ∀ {r}, r.Named ForeignText.Writable → (act r).1.Named ForeignText.Writable)
    (atomic : ∀ {r e}, r.Named ForeignText.Writable → (act r).2 = .error e → (act r).1 = r) :
    Serves c h (Instance.onConsensus h act) where
  exists_act := ⟨_, perform_eq, HandleTable.reacts_withConsensus h act⟩
  eq_of_error {x e} hx herror := by
    cases x with
    | consensus r => exact congrArg (some ∘ Instance.consensus) (atomic hx herror)
    | blockchain a => rfl
  writable {x y} hx hy := by
    cases x with
    | consensus r =>
      cases hy
      exact named hx
    | blockchain a =>
      cases hy
      exact hx
  eq_none_of_destroys hdestroys := by
    rw [keeps] at hdestroys
    cases hdestroys

theorem exists_serves_onRotation {α β : Type} (argument : Except Error α)
    (act : Rotation → α → Rotation × Except Error β) (value : β → Except Error Value)
    (perform_eq : ∀ parse (b : Bridge), b.perform parse c = b.onRotation h argument act value)
    (keeps : c.destroys = false)
    (named : ∀ {r x}, argument = .ok x → r.Named ForeignText.Writable →
      (act r x).1.Named ForeignText.Writable)
    (atomic : ∀ {r x e}, r.Named ForeignText.Writable → (act r x).2.bind value = .error e →
      (act r x).1 = r) : ∃ react, Serves c h react := by
  refine ⟨_, serves_withConsensus _ perform_eq keeps (fun {r} hr => ?_) fun {r e} hr herror => ?_⟩
  · cases hargument : argument with
    | error e => exact hr
    | ok x => exact named hargument hr
  · cases hargument : argument with
    | error e' => rfl
    | ok x =>
      rw [hargument] at herror
      exact atomic hr herror

/-- Where the value of a call cannot fail, the call fails as what it asks of the rotation. -/
theorem error_of_bind_ok {β : Type} {result : Except Error β} {v : β → Value} {e : Error}
    (herror : (result.bind fun y => .ok (v y)) = .error e) : result = .error e := by
  cases result with
  | error e' =>
    cases herror
    rfl
  | ok y => cases herror

theorem textValue_of_writable {s : String} (writable : ForeignText.Writable s) :
    textValue s = .ok (.text (some s)) := by
  rw [textValue, ForeignText.write_eq_ok_iff.mpr ⟨rfl, writable⟩]
  rfl

/-- A draw that goes through answers an address that can be handed back. -/
theorem textValue_of_next {r : Rotation} {address : String} (named : r.Named ForeignText.Writable)
    (hnext : r.next.2 = .ok address) : textValue address = .ok (.text (some address)) :=
  textValue_of_writable (named.next.2 address hnext)

theorem exists_serves_selectProposer (h : Handle) :
    ∃ react, Serves (.selectProposer h) h react := by
  refine exists_serves_onRotation (.ok ()) (fun r () => r.next) textValue (fun _ _ => rfl) rfl
    (fun _ hr => hr.next.1) fun {r x e} hr herror => ?_
  cases hnext : r.next.2 with
  | error e' => exact Rotation.eq_of_next_error (Prod.ext rfl hnext)
  | ok address =>
    rw [hnext] at herror
    change textValue address = .error e at herror
    rw [textValue_of_next hr hnext] at herror
    cases herror

end Consensus

/-! ### All calls -/

theorem serves_destroy {c : Call} {h : Handle} {kind : InstanceKind}
    (perform_eq : ∀ parse (b : Bridge), b.perform parse c = b.destroy h kind) :
    Serves c h fun x => (Instance.onRemoval h kind x).map id (·.map fun () => .nothing) where
  exists_act := by
    have hreacts := HandleTable.reacts_remove h kind
    refine ⟨_, perform_eq, ⟨fun hnone => ?_, fun {t x} tidy hsome => ?_⟩⟩
    · dsimp only
      rw [hreacts.unknown hnone]
      rfl
    · obtain ⟨hresult, hputs⟩ := hreacts.known tidy hsome
      exact ⟨congrArg (·.map fun () => Value.nothing) hresult, hputs⟩
  eq_of_error {x e} _ herror := by
    rw [Instance.onRemoval] at herror ⊢
    split at herror
    · cases herror
    · next hkind => rw [if_neg hkind]; rfl
  writable {x y} hx hy := by
    rw [Instance.onRemoval] at hy
    split at hy
    · cases hy
    · cases hy
      exact hx
  eq_none_of_destroys _ {x v} hok := by
    rw [Instance.onRemoval] at hok ⊢
    split at hok
    · next hkind => rw [if_pos hkind]; rfl
    · cases hok

/-- **Every call with a handle is decided by the instance behind it.** -/
theorem exists_serves {c : Call} {h : Handle} (takes : c.handle? = some h) :
    ∃ react, Serves c h react := by
  cases c with
  | initialise | shutdown | blockchainNew | consensusNew | releaseNothing => cases takes
  | blockchainDestroy | consensusDestroy =>
    cases takes
    exact ⟨_, serves_destroy fun _ _ => rfl⟩
  | height =>
    cases takes
    exact ⟨_, serves_readLedger (fun l => .ok (.word l.height)) (fun _ _ => rfl) rfl⟩
  | latestHash =>
    cases takes
    exact ⟨_, serves_readLedger (fun l => textValue l.latestHash.text) (fun _ _ => rfl) rfl⟩
  | balance h address =>
    cases takes
    exact ⟨_, serves_readLedger
      (fun l => (ForeignText.read "address" address).map fun a => .word (l.balance a))
      (fun _ _ => rfl) rfl⟩
  | nonce h address =>
    cases takes
    exact ⟨_, serves_readLedger
      (fun l => (ForeignText.read "address" address).map fun a => .word (l.nonce a))
      (fun _ _ => rfl) rfl⟩
  | addTransaction h tx =>
    cases takes
    exact exists_serves_onLedger tx.read Ledger.apply (fun () => .flag true) (fun _ _ => rfl) rfl
      Ledger.eq_of_apply_error
  | initAccount h address balance =>
    cases takes
    exact exists_serves_onLedger (ForeignText.read "address" address)
      (fun l a => l.initAccount a balance) (fun () => .flag true) (fun _ _ => rfl) rfl
      Ledger.eq_of_initAccount_error
  | createBlock h validator =>
    cases takes
    exact exists_serves_onLedger (ForeignText.read "validator" validator) Ledger.sealBlock
      (fun block => .word block.height) (fun _ _ => rfl) rfl Ledger.eq_of_sealBlock_error
  | addValidator h address stake =>
    cases takes
    refine exists_serves_onRotation (ForeignText.read "address" address)
      (fun r a => r.add a stake) (fun () => .ok (.flag true)) (fun _ _ => rfl) rfl
      (fun hread hr => ?_) fun _ herror => ?_
    · exact hr.add (ForeignText.writable_of_read hread) stake
    · exact Rotation.eq_of_add_error (Prod.ext rfl (error_of_bind_ok herror))
  | removeValidator h address =>
    cases takes
    refine exists_serves_onRotation (ForeignText.read "address" address) Rotation.remove
      (fun _ => .ok (.flag true)) (fun _ _ => rfl) rfl (fun _ hr => hr.remove _) fun _ herror => ?_
    exact Rotation.eq_of_remove_error (Prod.ext rfl (error_of_bind_ok herror))
  | selectProposer h =>
    cases takes
    exact exists_serves_selectProposer h
  | selectProposerForHeight h height =>
    cases takes
    exact exists_serves_onRotation (.ok ()) (fun r () => (r, r.proposerAt height)) textValue
      (fun _ _ => rfl) rfl (fun _ hr => hr) fun _ _ => rfl
  | process h request =>
    cases takes
    exact exists_serves_process h request

/-! ### What they do -/

theorem onTable_of_unset {b : Bridge} (unset : b.config = none)
    (act : HandleTable → HandleTable × Except Error Value) :
    b.onTable act = (b, .error .uninitialised) := by
  rw [onTable, unset]

theorem onTable_of_set {b : Bridge} {config : Config} (set : b.config = some config)
    (act : HandleTable → HandleTable × Except Error Value) :
    b.onTable act = ({ b with table := (act b.table).1 }, (act b.table).2) := by
  rw [onTable, set]

namespace Serves

variable {c : Call} {h : Handle} {react : Instance → Option Instance × Except Error Value}
  (serves : Serves c h react) {parse : Config.Reading} {b : Bridge}
include serves

theorem perform_of_unset (unset : b.config = none) :
    b.perform parse c = (b, .error .uninitialised) := by
  obtain ⟨act, hperform, -⟩ := serves.exists_act
  rw [hperform, onTable_of_unset unset]

theorem perform_of_unknown {config : Config} (set : b.config = some config)
    (unknown : b.table.get? h = none) :
    b.perform parse c = (b, .error (.parameter (.unknownHandle h))) := by
  obtain ⟨act, hperform, hreacts⟩ := serves.exists_act
  rw [hperform, onTable_of_set set, hreacts.unknown unknown]

theorem perform_of_get? {config : Config} (set : b.config = some config) (tidy : b.table.Tidy)
    {x : Instance} (found : b.table.get? h = some x) :
    ∃ t, b.perform parse c = ({ b with table := t }, (react x).2) ∧
      HandleTable.Puts b.table h (react x).1 t := by
  obtain ⟨act, hperform, hreacts⟩ := serves.exists_act
  obtain ⟨hresult, hputs⟩ := hreacts.known tidy found
  rw [hperform, onTable_of_set set, hresult]
  exact ⟨_, rfl, hputs⟩

end Serves

end Bridge

end HostedLedger

import HostedLedger.Proofs.Foreign.Failure
import HostedLedger.Proofs.Foreign.Message

/-!
# What an instance answers to a call

A call with a handle is for instances of one kind. The instance behind the handle is asked only
when all the arguments of the call have been read; the first one that cannot be read is the reason
for a refusal. What the instance is asked, and how the answer is made a value, is the same on every
bridge that calls lead to. In particular every text that an instance answers can be handed back.

## Main definitions

* `Call.kind?`: the kind of instance that a call is for
* `ForeignArgument`, `Call.arguments`: the arguments that have to be read, in order
* `ForeignArgument.IsNull`, `ForeignArgument.IsReadable`: what may be wrong with an argument
* `ForeignArgument.refusal?`: why an argument is refused
* `Instance.Answers x c result`: what an instance answers when all arguments have been read
* `Instance.Outcome x c result`: an argument is refused, or the instance answers
* `Bridge.Targets b c h x`: the instance `x` is behind the handle `h`, and of the kind that the call
  `c` is for

## Main results

* `ForeignArgument.refusal?_eq_none_iff`, `ForeignArgument.kind_of_refusal?`: which arguments are
  refused, and how
* `Bridge.Sound.outcome`: how a call ends that is made on an instance of its kind
* `Bridge.Sound.wrongKind`: how a call ends that is made on an instance of the other kind
* `Bridge.Sound.exists_answers_of_ok`: who has answered a call that goes through
-/

namespace HostedLedger

/-- The reason for which something is refused, if it is. -/
def refusalOf? {α : Type} : Except Error α → Option Error
  | .error e => some e
  | .ok _ => none

/-! ### Arguments -/

/-- An argument that has to be read before it can be used. It is named in reports. -/
inductive ForeignArgument
  | text (name : String) (t : ForeignText)
  | buffer (name : String) (b : ForeignBuffer)

namespace ForeignArgument

/-- The name of an argument. -/
def name : ForeignArgument → String
  | text name _ => name
  | buffer name _ => name

/-- Nothing has been handed over, although a text or some bytes are expected. -/
def IsNull : ForeignArgument → Prop
  | text _ t => t = none
  | buffer _ b => ∃ length, length ≠ 0 ∧ b = .null length

/-- The bytes up to the first zero byte are a text, or the bytes of a buffer are there. -/
def IsReadable : ForeignArgument → Prop
  | text _ t => ∃ bs s, t = some bs ∧ bs.takeWhile (· ≠ 0) = Utf8.encode s
  | buffer _ b => (∃ bs, b = .bytes bs) ∨ b = .null 0

/-- The reason for which an argument is refused, if it is. -/
def refusal? : ForeignArgument → Option Error
  | text name t => refusalOf? (t.read name)
  | buffer name b => refusalOf? (b.read name)

/-- An argument is refused if it cannot be read, and for no other reason. -/
theorem refusal?_eq_none_iff {g : ForeignArgument} : g.refusal? = none ↔ g.IsReadable := by
  cases g with
  | text name t =>
    rcases t with _ | bs
    · simp [refusal?, ForeignText.read, refusalOf?, IsReadable]
    · rw [refusal?, ForeignText.read]
      cases hdecode : Utf8.decode (bs.takeWhile (· ≠ 0)) with
      | error fault =>
        refine ⟨fun h => (by cases h), ?_⟩
        rintro ⟨bs', s, hbs, hs⟩
        cases hbs
        rw [hs, Utf8.decode_encode] at hdecode
        cases hdecode
      | ok s => exact ⟨fun _ => ⟨bs, s, rfl, Utf8.eq_encode_of_decode hdecode⟩, fun _ => rfl⟩
  | buffer name b =>
    cases b with
    | bytes bs => exact ⟨fun _ => .inl ⟨bs, rfl⟩, fun _ => rfl⟩
    | null length =>
      by_cases hlength : length = 0
      · simp [refusal?, ForeignBuffer.read, refusalOf?, IsReadable, hlength]
      · simp [refusal?, ForeignBuffer.read, refusalOf?, IsReadable, hlength]

end ForeignArgument

/-- The argument that an error names. -/
def Error.argument? : Error → Option String
  | nullText argument => some argument
  | nullBuffer argument _ => some argument
  | invalidUtf8 argument _ => some argument
  | _ => none

/-- An argument is refused by its name: as absent if nothing has been handed over, and otherwise
because it is no UTF-8. -/
theorem ForeignArgument.kind_of_refusal? {g : ForeignArgument} {e : Error}
    (h : g.refusal? = some e) :
    e.argument? = some g.name ∧ (g.IsNull → e.kind = .nullPointer) ∧
      (¬g.IsNull → e.kind = .invalidUtf8) := by
  cases g with
  | text name t =>
    rcases t with _ | bs
    · cases h
      exact ⟨rfl, fun _ => rfl, fun hnull => absurd rfl hnull⟩
    · rw [refusal?, ForeignText.read] at h
      split at h
      · cases h
      · cases h
        exact ⟨rfl, fun hnull => (by cases hnull), fun _ => rfl⟩
  | buffer name b =>
    cases b with
    | bytes bs => cases h
    | null length =>
      rw [refusal?, ForeignBuffer.read] at h
      split at h
      · cases h
      · next hlength =>
        cases h
        exact ⟨rfl, fun _ => rfl, fun hnull => absurd ⟨length, hlength, rfl⟩ hnull⟩

/-- The arguments of a transaction, in the order in which they are read. -/
def ForeignTransaction.arguments (f : ForeignTransaction) : List ForeignArgument :=
  [.text "from" f.sender, .text "to" f.recipient, .buffer "signature" f.signature]

open ForeignArgument (refusal?)

/-- A transaction is refused for the first of its arguments that is. -/
theorem ForeignTransaction.findSome?_refusal? (f : ForeignTransaction) :
    f.arguments.findSome? refusal? = refusalOf? f.read := by
  rw [arguments, read]
  simp only [List.findSome?_cons, refusal?]
  cases ForeignText.read "from" f.sender with
  | error e => rfl
  | ok sender =>
  cases ForeignText.read "to" f.recipient with
  | error e => rfl
  | ok recipient =>
  cases ForeignBuffer.read "signature" f.signature with
  | error e => rfl
  | ok signature => rfl

namespace Call

/-- The kind of instance that a call is for. -/
def kind? : Call → Option InstanceKind
  | blockchainDestroy _ | height _ | latestHash _ | addTransaction .. | balance .. | nonce ..
  | initAccount .. | createBlock .. | process .. => some .blockchain
  | consensusDestroy _ | addValidator .. | removeValidator .. | selectProposer _
  | selectProposerForHeight .. => some .consensus
  | initialise _ | shutdown | blockchainNew | consensusNew | releaseNothing => none

/-- A call with a handle is for instances of one kind. -/
theorem exists_kind? {c : Call} {h : Handle} (takes : c.handle? = some h) :
    ∃ kind, c.kind? = some kind := by
  cases c with
  | initialise | shutdown | blockchainNew | consensusNew | releaseNothing => cases takes
  | _ => exact ⟨_, rfl⟩

/-- The arguments of a call beside its handle that have to be read, in order. -/
def arguments : Call → List ForeignArgument
  | addTransaction _ f => f.arguments
  | balance _ address | nonce _ address | initAccount _ address _ | addValidator _ address _
  | removeValidator _ address => [.text "address" address]
  | createBlock _ validator => [.text "validator" validator]
  | process _ request => [.buffer "request" request]
  | _ => []

end Call

/-! ### Answers -/

namespace Instance

/-- What an instance answers to a call when all its arguments have been read. -/
inductive Answers : Instance → Call → Except Error Value → Prop
  | blockchainDestroy {a : Application} {h : Handle} :
    Answers (.blockchain a) (.blockchainDestroy h) (.ok .nothing)
  | height {a : Application} {h : Handle} :
    Answers (.blockchain a) (.height h) (.ok (.word a.ledger.height))
  | latestHash {a : Application} {h : Handle} :
    Answers (.blockchain a) (.latestHash h) (.ok (.text (some a.ledger.latestHash.text)))
  | addTransaction {a : Application} {h : Handle} {f : ForeignTransaction} {tx : Transaction}
    (reads : f.read = .ok tx) :
    Answers (.blockchain a) (.addTransaction h f) ((a.ledger.apply tx).2.map fun () => .flag true)
  | balance {a : Application} {h : Handle} {t : ForeignText} {address : String}
    (reads : t.read "address" = .ok address) :
    Answers (.blockchain a) (.balance h t) (.ok (.word (a.ledger.balance address)))
  | nonce {a : Application} {h : Handle} {t : ForeignText} {address : String}
    (reads : t.read "address" = .ok address) :
    Answers (.blockchain a) (.nonce h t) (.ok (.word (a.ledger.nonce address)))
  | initAccount {a : Application} {h : Handle} {t : ForeignText} {address : String}
    {balance : UInt64} (reads : t.read "address" = .ok address) :
    Answers (.blockchain a) (.initAccount h t balance)
      ((a.ledger.initAccount address balance).2.map fun () => .flag true)
  | createBlock {a : Application} {h : Handle} {t : ForeignText} {proposer : String}
    (reads : t.read "validator" = .ok proposer) :
    Answers (.blockchain a) (.createBlock h t)
      ((a.ledger.sealBlock proposer).2.map fun block => .word block.height)
  | process {a : Application} {h : Handle} {request : ForeignBuffer} {bs : Bytes}
    (reads : request.read "request" = .ok bs) :
    Answers (.blockchain a) (.process h request) ((a.process bs).2.map .buffer)
  | consensusDestroy {r : Rotation} {h : Handle} :
    Answers (.consensus r) (.consensusDestroy h) (.ok .nothing)
  | addValidator {r : Rotation} {h : Handle} {t : ForeignText} {address : String} {stake : UInt64}
    (reads : t.read "address" = .ok address) :
    Answers (.consensus r) (.addValidator h t stake)
      ((r.add address stake).2.map fun () => .flag true)
  | removeValidator {r : Rotation} {h : Handle} {t : ForeignText} {address : String}
    (reads : t.read "address" = .ok address) :
    Answers (.consensus r) (.removeValidator h t) ((r.remove address).2.map fun _ => .flag true)
  | selectProposer {r : Rotation} {h : Handle} :
    Answers (.consensus r) (.selectProposer h) (r.next.2.map fun address => .text (some address))
  | selectProposerForHeight {r : Rotation} {h : Handle} {height : UInt64} :
    Answers (.consensus r) (.selectProposerForHeight h height)
      ((r.proposerAt height).map fun address => .text (some address))

/-- How a call ends that is made on an instance: the first argument that cannot be read is refused,
or all are read and the instance answers. -/
inductive Outcome (x : Instance) (c : Call) : Except Error Value → Prop
  | refused {e : Error} (refuses : c.arguments.findSome? refusal? = some e) :
    Outcome x c (.error e)
  | answered {result : Except Error Value} (readable : c.arguments.findSome? refusal? = none)
    (answers : x.Answers c result) : Outcome x c result

/-- An argument is read, or the call is refused as reading it is. -/
theorem outcome_bind {α : Type} {x : Instance} {c : Call} {argument : Except Error α}
    {answer : α → Except Error Value}
    (reads : c.arguments.findSome? refusal? = refusalOf? argument)
    (answers : ∀ {y}, argument = .ok y → x.Answers c (answer y)) :
    x.Outcome c (argument.bind answer) := by
  cases argument with
  | error e => exact .refused reads
  | ok y => exact .answered reads (answers rfl)

namespace Outcome

variable {x : Instance} {c : Call} {result : Except Error Value}

theorem eq_error (outcome : x.Outcome c result) {e : Error}
    (refuses : c.arguments.findSome? refusal? = some e) : result = .error e := by
  cases outcome with
  | refused refuses' =>
    cases refuses.symm.trans refuses'
    rfl
  | answered readable => cases refuses.symm.trans readable

theorem answers (outcome : x.Outcome c result)
    (readable : ∀ g ∈ c.arguments, g.IsReadable) : x.Answers c result := by
  have hnone : c.arguments.findSome? refusal? = none := by
    rw [List.findSome?_eq_none_iff]
    exact fun g hg => ForeignArgument.refusal?_eq_none_iff.mpr (readable g hg)
  cases outcome with
  | refused refuses => cases hnone.symm.trans refuses
  | answered _ answers => exact answers

end Outcome

end Instance

namespace Bridge

/-- Texts that can be handed back make the values of calls. -/
theorem bind_textValue {result : Except Error String}
    (writable : ∀ s, result = .ok s → ForeignText.Writable s) :
    result.bind textValue = result.map fun s => .text (some s) := by
  cases result with
  | error e => rfl
  | ok s => exact textValue_of_writable (writable s rfl)

/-- An instance is behind a handle, and it is of the kind that a call is for. -/
structure Targets (b : Bridge) (c : Call) (h : Handle) (x : Instance) : Prop where
  found : b.table.get? h = some x
  kind_eq : c.kind? = some x.kind

namespace Sound

variable {parse : Config.Reading} {b : Bridge} {h : Handle} (sound : b.Sound)
include sound

theorem snd_withBlockchain {x : Instance} (found : b.table.get? h = some x)
    (act : Application → Application × Except Error Value) :
    (b.onTable (·.withBlockchain h act)).2 = (x.onBlockchain h act).2 := by
  obtain ⟨config, hset⟩ := sound.exists_config found
  rw [onTable_of_set hset]
  exact ((HandleTable.reacts_withBlockchain h act).known sound.tidy found).1

theorem snd_withConsensus {x : Instance} (found : b.table.get? h = some x)
    (act : Rotation → Rotation × Except Error Value) :
    (b.onTable (·.withConsensus h act)).2 = (x.onConsensus h act).2 := by
  obtain ⟨config, hset⟩ := sound.exists_config found
  rw [onTable_of_set hset]
  exact ((HandleTable.reacts_withConsensus h act).known sound.tidy found).1

theorem snd_destroy {x : Instance} (found : b.table.get? h = some x) (kind : InstanceKind) :
    (b.destroy h kind).2 = (x.onRemoval h kind).2.map fun () => .nothing := by
  obtain ⟨config, hset⟩ := sound.exists_config found
  have hremoved := ((HandleTable.reacts_remove h kind).known sound.tidy found).1
  rw [destroy, onTable_of_set hset]
  exact congrArg (·.map fun () => Value.nothing) hremoved

theorem snd_onLedger {α β : Type} {a : Application}
    (found : b.table.get? h = some (.blockchain a)) (argument : Except Error α)
    (act : Ledger → α → Ledger × Except Error β) (value : β → Value) :
    (b.onLedger h argument act value).2 =
      argument.bind fun y => (act a.ledger y).2.map value := by
  rw [onLedger, sound.snd_withBlockchain found]
  cases argument <;> rfl

theorem snd_onRotation {α β : Type} {r : Rotation}
    (found : b.table.get? h = some (.consensus r)) (argument : Except Error α)
    (act : Rotation → α → Rotation × Except Error β) (value : β → Except Error Value) :
    (b.onRotation h argument act value).2 = argument.bind fun y => (act r y).2.bind value := by
  rw [onRotation, sound.snd_withConsensus found]
  cases argument <;> rfl

/-- How a call ends that is made on a blockchain. -/
theorem outcome_blockchain {a : Application} (found : b.table.get? h = some (.blockchain a))
    {c : Call} (takes : c.handle? = some h) (kind_eq : c.kind? = some .blockchain) :
    (Instance.blockchain a).Outcome c (b.perform parse c).2 := by
  have hread (read : Ledger → Except Error Value) : (b.readLedger h read).2 = read a.ledger :=
    sound.snd_withBlockchain found _
  cases c with
  | initialise | shutdown | blockchainNew | consensusNew | releaseNothing => cases takes
  | consensusDestroy | addValidator | removeValidator | selectProposer
  | selectProposerForHeight => cases kind_eq
  | blockchainDestroy =>
    cases takes
    have hremoved : (b.destroy h .blockchain).2 = .ok .nothing := sound.snd_destroy found _
    rw [perform, hremoved]
    exact .answered rfl .blockchainDestroy
  | height =>
    cases takes
    rw [perform, hread]
    exact .answered rfl .height
  | latestHash =>
    cases takes
    rw [perform, hread, textValue_of_writable a.ledger.latestHash.writable_text]
    exact .answered rfl .latestHash
  | addTransaction h f =>
    cases takes
    rw [perform, sound.snd_onLedger found]
    exact Instance.outcome_bind f.findSome?_refusal? .addTransaction
  | balance h t =>
    cases takes
    rw [perform, hread]
    exact Instance.outcome_bind List.findSome?_singleton .balance
  | nonce h t =>
    cases takes
    rw [perform, hread]
    exact Instance.outcome_bind List.findSome?_singleton .nonce
  | initAccount h t balance =>
    cases takes
    rw [perform, sound.snd_onLedger found]
    exact Instance.outcome_bind List.findSome?_singleton .initAccount
  | createBlock h t =>
    cases takes
    rw [perform, sound.snd_onLedger found]
    exact Instance.outcome_bind List.findSome?_singleton .createBlock
  | process h request =>
    cases takes
    rw [perform, sound.snd_withBlockchain found]
    have hreads : (Call.process h request).arguments.findSome? refusal? =
        refusalOf? (request.read "request") := List.findSome?_singleton
    cases hread : request.read "request" with
    | error e => exact .refused (hreads.trans (by rw [hread]; rfl))
    | ok bs => exact .answered (hreads.trans (by rw [hread]; rfl)) (.process hread)

/-- How a call ends that is made on a rotation. -/
theorem outcome_consensus {r : Rotation} (found : b.table.get? h = some (.consensus r))
    {c : Call} (takes : c.handle? = some h) (kind_eq : c.kind? = some .consensus) :
    (Instance.consensus r).Outcome c (b.perform parse c).2 := by
  cases c with
  | initialise | shutdown | blockchainNew | consensusNew | releaseNothing => cases takes
  | blockchainDestroy | height | latestHash | addTransaction | balance | nonce | initAccount
  | createBlock | process => cases kind_eq
  | consensusDestroy =>
    cases takes
    have hremoved : (b.destroy h .consensus).2 = .ok .nothing := sound.snd_destroy found _
    rw [perform, hremoved]
    exact .answered rfl .consensusDestroy
  | addValidator h t stake =>
    cases takes
    rw [perform, sound.snd_onRotation found]
    exact Instance.outcome_bind List.findSome?_singleton .addValidator
  | removeValidator h t =>
    cases takes
    rw [perform, sound.snd_onRotation found]
    exact Instance.outcome_bind List.findSome?_singleton .removeValidator
  | selectProposer =>
    cases takes
    rw [perform, sound.snd_onRotation found]
    change Instance.Outcome _ _ (r.next.2.bind textValue)
    rw [bind_textValue (sound.writable found).next.2]
    exact .answered rfl .selectProposer
  | selectProposerForHeight h height =>
    cases takes
    rw [perform, sound.snd_onRotation found]
    change Instance.Outcome _ _ ((r.proposerAt height).bind textValue)
    have named : r.Named ForeignText.Writable := sound.writable found
    rw [bind_textValue fun _ => named.proposerAt]
    exact .answered rfl .selectProposerForHeight

/-- **How a call ends that is made on an instance of its kind.** -/
theorem outcome {c : Call} {x : Instance} (targets : b.Targets c h x)
    (takes : c.handle? = some h) : x.Outcome c (b.perform parse c).2 := by
  obtain ⟨hfound, hkind⟩ := targets
  cases x with
  | blockchain a => exact sound.outcome_blockchain hfound takes hkind
  | consensus r => exact sound.outcome_consensus hfound takes hkind

/-- A call for instances of another kind than the one behind its handle is refused, whatever its
arguments are. -/
theorem wrongKind {x : Instance} (found : b.table.get? h = some x) {c : Call}
    (takes : c.handle? = some h) {kind : InstanceKind} (kind_eq : c.kind? = some kind)
    (ne : x.kind ≠ kind) :
    (b.perform parse c).2 = .error (.parameter (.wrongKind h x.kind kind)) := by
  cases c with
  | initialise | shutdown | blockchainNew | consensusNew | releaseNothing => cases takes
  | blockchainDestroy | consensusDestroy =>
    cases takes
    cases kind_eq
    rw [perform, sound.snd_destroy found, Instance.onRemoval, if_neg ne]
    rfl
  | height | latestHash | addTransaction | balance | nonce | initAccount | createBlock
  | process =>
    cases takes
    cases kind_eq
    cases x with
    | blockchain a => exact absurd rfl ne
    | consensus r => exact sound.snd_withBlockchain found _
  | addValidator | removeValidator | selectProposer | selectProposerForHeight =>
    cases takes
    cases kind_eq
    cases x with
    | blockchain a => exact sound.snd_withConsensus found _
    | consensus r => exact absurd rfl ne

/-- A call with a handle that goes through is answered by an instance of its kind. -/
theorem exists_answers_of_ok {c : Call} (takes : c.handle? = some h) {v : Value}
    (ok : (b.perform parse c).2 = .ok v) : ∃ x, b.Targets c h x ∧ x.Answers c (.ok v) := by
  have heffect := sound.effect parse c
  rw [ok] at heffect
  generalize (b.perform parse c).1 = b' at heffect
  obtain ⟨x, hfound⟩ : ∃ x, b.table.get? h = some x := by
    cases heffect with
    | idle => cases takes
    | initialised => cases takes
    | shutdown => cases takes
    | created creates => rcases creates with rfl | rfl <;> cases takes
    | acted takes' set found =>
      cases takes.symm.trans takes'
      exact ⟨_, found⟩
  obtain ⟨kind, hkind⟩ := Call.exists_kind? takes
  obtain rfl : x.kind = kind := by
    by_contra hne
    cases ok.symm.trans (sound.wrongKind hfound takes hkind hne)
  have houtcome : x.Outcome c (b.perform parse c).2 := sound.outcome ⟨hfound, hkind⟩ takes
  rw [ok] at houtcome
  cases houtcome with
  | answered _ hanswers => exact ⟨x, ⟨hfound, hkind⟩, hanswers⟩

end Sound

end Bridge

end HostedLedger

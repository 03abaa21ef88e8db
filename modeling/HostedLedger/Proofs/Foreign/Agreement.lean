import HostedLedger.Bytes.Lemmas
import HostedLedger.Proofs.Application.Request
import HostedLedger.Proofs.Foreign.Failure
import HostedLedger.Proofs.Foreign.Message
import HostedLedger.Proofs.Wire.Canonical

/-!
# Two interfaces to one ledger

A ledger behind a handle is reached by calls with foreign arguments, and a hosted ledger by
requests. What is handed over to a call may as well be put into a request: the ledgers after both
are equal, and so are the answers.

## Main definitions

* `Bridge.ledger?`: the ledger behind a handle
* `Bridge.AnswersWord parse b c l path`: a call answers the word that a query for a path answers
* `Bridge.Agrees parse b h l`: calls on the ledger behind a handle agree with requests to it

## Main results

* `Bridge.Sound.call_onLedger`, `Bridge.Sound.call_readLedger`: what calls do to the ledger behind a
  handle, for each call in `Bridge.Sound.call_addTransaction`, `Bridge.Sound.call_initAccount` and
  `Bridge.Sound.call_createBlock`
* `Application.handle_deliverTx`, `Application.handle_initChain`,
  `Application.handle_commit_beginBlock`: what requests do to a hosted ledger
* `Bridge.interfaces_agree`: every blockchain that calls lead to agrees with requests to its ledger
-/

namespace HostedLedger

open ForeignText (Writable)

/-! ### Requests -/

namespace Application

/-- The response to a transaction tells what the ledger makes of it. -/
def deliverResponse : Except Error Unit → Response
  | .error e => .deliverTx ResponseCode.rejected e.message
  | .ok () => .deliverTx ResponseCode.ok ""

/-- A written transaction is carried out on an open block. -/
theorem handle_deliverTx (l : Ledger) {o : OpenBlock} (running : o.ended = false)
    {tx : Transaction} {raw : Bytes} (h : tx.encode = .ok raw) :
    handle ⟨l, some o⟩ (.deliverTx raw) =
      (⟨(l.apply tx).1, some o⟩, .ok (deliverResponse (l.apply tx).2)) := by
  have hdecode : Transaction.decode raw = .ok tx :=
    Transaction.lawful_format.decode_eq_ok_iff.mpr h
  rw [handle, deliverTx]
  dsimp only
  rw [if_neg (by simp [running]), hdecode]
  dsimp only
  rcases l.apply tx with ⟨l', e | ⟨⟩⟩ <;> rfl

/-- One account is set as a call on the ledger sets it. -/
theorem handle_initChain (l : Ledger) (session : Option OpenBlock) {address : String}
    (address_ne : address ≠ "") (balance : UInt64) :
    handle ⟨l, session⟩ (.initChain [] [⟨address, balance⟩]) =
      (⟨(l.initAccount address balance).1, session⟩, .ok .initChain) := by
  have haccounts : GenesisAccount.checkAll [⟨address, balance⟩] = .ok () :=
    GenesisAccount.checkAll_eq_ok_iff.mpr (by simpa using address_ne)
  have hcheck := (Address.check_eq_ok_iff "account").mpr address_ne
  rw [handle, initChain, checkValidators, haccounts]
  simp only [Ledger.seed, Ledger.initAccount, hcheck]

/-- A block that is opened and committed at once is one that the ledger seals. -/
theorem handle_commit_beginBlock (l : Ledger) {proposer : String} (proposer_ne : proposer ≠ "") :
    let begun := handle ⟨l, none⟩ (.beginBlock (l.height + 1) proposer)
    begun.2 = .ok .beginBlock ∧ (begun.1.handle .commit).1.ledger = (l.sealBlock proposer).1 ∧
      (begun.1.handle .commit).2 =
        (l.sealBlock proposer).2.map fun block => .commit block.height block.stateRoot := by
  have hbegun : handle ⟨l, none⟩ (.beginBlock (l.height + 1) proposer) =
      (⟨l, some ⟨l.height + 1, proposer, false⟩⟩, .ok .beginBlock) :=
    beginBlock_of_closed (a := ⟨l, none⟩) rfl proposer_ne
  rw [hbegun]
  refine ⟨rfl, ?_, ?_⟩
  · rw [handle, commit]
    dsimp only
    rcases l.sealBlock proposer with ⟨l', e | block⟩ <;> rfl
  · rw [handle, commit]
    dsimp only
    rcases l.sealBlock proposer with ⟨l', e | block⟩ <;> rfl

end Application

/-! ### Calls -/

namespace Bridge

/-- The ledger behind a handle. -/
def ledger? (b : Bridge) (h : Handle) : Option Ledger :=
  match b.table.get? h with
  | some (.blockchain a) => some a.ledger
  | _ => none

/-- The reply to a transaction tells what the ledger makes of it. -/
def transferReply : Except Error Unit → Reply
  | .error e => ⟨.flag false, .failure e.kind, some e.message⟩
  | .ok () => ⟨.flag true, CallReport.success⟩

/-- A reply and a response to one transaction tell the same. -/
theorem transferReply_agrees (result : Except Error Unit) :
    ∃ code log, Application.deliverResponse result = .deliverTx code log ∧
      (transferReply result).value = .flag (code = ResponseCode.ok) ∧
      (code ≠ ResponseCode.ok → (transferReply result).report.message = some log) := by
  cases result with
  | ok => exact ⟨ResponseCode.ok, "", rfl, rfl, fun h => absurd rfl h⟩
  | error e => exact ⟨ResponseCode.rejected, e.message, rfl, rfl, fun _ => rfl⟩

section Calls

variable {parse : Config.Reading} {b : Bridge} {h : Handle} {l : Ledger}

theorem exists_of_ledger? (live : b.ledger? h = some l) :
    ∃ a, b.table.get? h = some (.blockchain a) ∧ a.ledger = l := by
  unfold ledger? at live
  split at live
  · next a hfound => exact ⟨a, hfound, Option.some.inj live⟩
  · cases live

namespace Sound

variable (sound : b.Sound) (live : b.ledger? h = some l) {c : Call}
include sound live

/-- A call on a blockchain gives what its action answers, and puts back what the action leaves. -/
theorem call_withBlockchain {act : Application → Application × Except Error Value}
    (perform_eq : b.perform parse c = b.onTable (·.withBlockchain h act)) :
    ∃ a t, a.ledger = l ∧ b.call parse c = ({ b with table := t }, Reply.of c.fallback (act a).2) ∧
      b.table.get? h = some (.blockchain a) ∧
      HandleTable.Puts b.table h (some (.blockchain (act a).1)) t := by
  obtain ⟨a, hfound, hledger⟩ := exists_of_ledger? live
  obtain ⟨config, hset⟩ := sound.exists_config hfound
  obtain ⟨hresult, hputs⟩ := (HandleTable.reacts_withBlockchain h act).known sound.tidy hfound
  refine ⟨a, _, hledger, ?_, hfound, hputs⟩
  rw [call, perform_eq, onTable_of_set hset, hresult]
  rfl

/-- A call whose argument can be read lets the ledger act on it. -/
theorem call_onLedger {α β : Type} {argument : Except Error α} {x : α}
    (act : Ledger → α → Ledger × Except Error β) (value : β → Value)
    (perform_eq : b.perform parse c = b.onLedger h argument act value) (reads : argument = .ok x) :
    (b.call parse c).1.ledger? h = some (act l x).1 ∧
      (b.call parse c).2 = Reply.of c.fallback ((act l x).2.map value) := by
  subst reads
  obtain ⟨a, t, rfl, hcall, -, hputs⟩ := sound.call_withBlockchain live perform_eq
  have hfound : t.get? h = some (.blockchain { a with ledger := (act a.ledger x).1 }) :=
    (hputs.get?_eq h).trans (if_pos rfl)
  rw [hcall]
  refine ⟨?_, rfl⟩
  rw [ledger?, hfound]

/-- A call that reads a value of the ledger changes nothing. -/
theorem call_readLedger (read : Ledger → Except Error Value)
    (perform_eq : b.perform parse c = b.readLedger h read) :
    b.call parse c = (b, Reply.of c.fallback (read l)) := by
  obtain ⟨a, t, rfl, hcall, hfound, hputs⟩ := sound.call_withBlockchain live perform_eq
  rw [hcall, hputs.eq_of_eq hfound]

/-- A transaction that is handed over is carried out. The reason for a rejection is handed back as
it is, since the sender has no zero byte and the other reasons name no text. -/
theorem call_addTransaction {f : ForeignTransaction} {tx : Transaction} (spells : f.Spells tx)
    (sender : Writable tx.sender) (recipient : Writable tx.recipient) :
    (b.call parse (.addTransaction h f)).1.ledger? h = some (l.apply tx).1 ∧
      (b.call parse (.addTransaction h f)).2 = transferReply (l.apply tx).2 := by
  obtain ⟨hledger, hreply⟩ := sound.call_onLedger live (c := .addTransaction h f) Ledger.apply
    (fun () => .flag true) rfl (spells.read_eq sender recipient)
  refine ⟨hledger, hreply.trans ?_⟩
  cases hresult : (l.apply tx).2 with
  | ok => rfl
  | error e =>
    have hwritable : Writable e.message :=
      Ledger.writable_message_of_apply (Prod.ext rfl hresult) sender
    have hmessage : CallReport.messageOf e.message = some e.message := by
      rw [CallReport.messageOf_eq, CallReport.escapeNul_of_writable hwritable]
    exact congrArg (fun message => Reply.mk (.flag false) ⟨.failure e.kind, message⟩) hmessage

/-- An account that is handed over is set. -/
theorem call_initAccount {t : ForeignText} {address : String} (spells : t.Spells address)
    (writable : Writable address) (address_ne : address ≠ "") (balance : UInt64) :
    (b.call parse (.initAccount h t balance)).1.ledger? h = some (l.initAccount address balance).1 ∧
      (b.call parse (.initAccount h t balance)).2 = ⟨.flag true, CallReport.success⟩ := by
  obtain ⟨hledger, hreply⟩ := sound.call_onLedger live (c := .initAccount h t balance)
    (fun l a => l.initAccount a balance) (fun () => .flag true) rfl
    (spells.read_eq writable "address")
  have hcheck := (Address.check_eq_ok_iff "account").mpr address_ne
  have hresult : (l.initAccount address balance).2 = .ok () := by
    rw [Ledger.initAccount, hcheck]
  refine ⟨hledger, hreply.trans ?_⟩
  rw [hresult]
  rfl

/-- A block is sealed for the proposer that is handed over, and its height is answered. -/
theorem call_createBlock {t : ForeignText} {proposer : String} (spells : t.Spells proposer)
    (writable : Writable proposer) :
    (b.call parse (.createBlock h t)).1.ledger? h = some (l.sealBlock proposer).1 ∧
      (b.call parse (.createBlock h t)).2 =
        Reply.of (.word 0) ((l.sealBlock proposer).2.map fun block => .word block.height) :=
  sound.call_onLedger live Ledger.sealBlock (fun block => .word block.height) rfl
    (spells.read_eq writable "validator")

end Sound

end Calls

/-! ### Agreement -/

/-- A call answers the word that a query for a path answers in eight bytes, and changes nothing. -/
def AnswersWord (parse : Config.Reading) (b : Bridge) (c : Call) (l : Ledger) (path : String) :
    Prop :=
  ∃ value n, (∀ a : Application, a.ledger = l → a.Answers path value) ∧ value.length = 8 ∧
    Bytes.leadingUInt64? value = some n ∧ b.call parse c = (b, ⟨.word n, CallReport.success⟩)

/-- Calls on the ledger behind a handle agree with requests to an application on that ledger. -/
structure Agrees (parse : Config.Reading) (b : Bridge) (h : Handle) (l : Ledger) : Prop where
  /-- A transaction is carried out as its written form on an open block: it is accepted by both or
  by none, and the message on its rejection is the log of the response. -/
  addTransaction : ∀ {tx : Transaction} {f : ForeignTransaction} {o : OpenBlock}, f.Spells tx →
    Writable tx.sender → Writable tx.recipient → tx.Bounded → o.ended = false →
    ∃ raw code log, tx.encode = .ok raw ∧
      let direct := b.call parse (.addTransaction h f)
      let hosted := Application.handle ⟨l, some o⟩ (.deliverTx raw)
      direct.1.ledger? h = some hosted.1.ledger ∧ hosted.2 = .ok (.deliverTx code log) ∧
        direct.2.value = .flag (code = ResponseCode.ok) ∧
        (code ≠ ResponseCode.ok → direct.2.report.message = some log)
  /-- An account is set as by an initialisation with this account and no validators. -/
  initAccount : ∀ {address : String} {t : ForeignText} (balance : UInt64)
    (session : Option OpenBlock), t.Spells address → Writable address → address ≠ "" →
    let direct := b.call parse (.initAccount h t balance)
    let hosted := Application.handle ⟨l, session⟩ (.initChain [] [⟨address, balance⟩])
    direct.1.ledger? h = some hosted.1.ledger ∧ direct.2 = ⟨.flag true, CallReport.success⟩ ∧
      hosted.2 = .ok .initChain
  /-- A block is sealed as by opening and committing it: by both or by none, and with the same
  height. -/
  createBlock : ∀ {proposer : String} {t : ForeignText}, t.Spells proposer → Writable proposer →
    proposer ≠ "" →
    let direct := b.call parse (.createBlock h t)
    let begun := Application.handle ⟨l, none⟩ (.beginBlock (l.height + 1) proposer)
    let hosted := begun.1.handle .commit
    direct.1.ledger? h = some hosted.1.ledger ∧ begun.2 = .ok .beginBlock ∧
      (direct.2.report = CallReport.success ↔ ∃ response, hosted.2 = .ok response) ∧
      ∀ height root, hosted.2 = .ok (.commit height root) → direct.2.value = .word height
  balance : ∀ {address : String} {t : ForeignText}, t.Spells address → Writable address →
    b.AnswersWord parse (.balance h t) l ("/balance/" ++ address)
  nonce : ∀ {address : String} {t : ForeignText}, t.Spells address → Writable address →
    b.AnswersWord parse (.nonce h t) l ("/nonce/" ++ address)
  height : b.AnswersWord parse (.height h) l "/height"
  /-- The latest hash is told in a text: a mark, and two hexadecimal digits for each of the 32 bytes
  that are answered to a query. -/
  latestHash : ∃ value, (∀ a : Application, a.ledger = l → a.Answers "/latest_hash" value) ∧
    value.length = 32 ∧
    b.call parse (.latestHash h) =
      (b, ⟨.text (some ("0x" ++ String.ofList (value.flatMap fun byte =>
        [Nat.digitChar (byte.toNat / 16), Nat.digitChar (byte.toNat % 16)]))), CallReport.success⟩)

namespace Sound

variable {parse : Config.Reading} {b : Bridge} {h : Handle} {l : Ledger} (sound : b.Sound)
  (live : b.ledger? h = some l)
include sound live

theorem answersWord {c : Call} (p : Path) {n : UInt64} (read : Ledger → Except Error Value)
    (perform_eq : b.perform parse c = b.readLedger h read) (reads : read l = .ok (.word n))
    (value_eq : l.read p = Bytes.ofUInt64 n) : b.AnswersWord parse c l p.text := by
  refine ⟨Bytes.ofUInt64 n, n, ?_, Bytes.length_ofUInt64 n, ?_, ?_⟩
  · rintro a rfl
    rw [← value_eq]
    exact a.answers_text p
  · have hleading := Bytes.leadingUInt64?_ofUInt64_append n []
    rwa [List.append_nil] at hleading
  · rw [sound.call_readLedger live read perform_eq, reads]
    rfl

/-- **A live ledger agrees with requests to it.** -/
theorem agrees : b.Agrees parse h l where
  addTransaction {tx f o} spells sender recipient bounded running := by
    obtain ⟨raw, hraw⟩ := Transaction.writes_iff_bounded.mpr bounded
    obtain ⟨hledger, hreply⟩ := sound.call_addTransaction live spells sender recipient
    have hhosted := Application.handle_deliverTx l running hraw
    obtain ⟨code, log, hresponse, hvalue, hmessage⟩ := transferReply_agrees (l.apply tx).2
    refine ⟨raw, code, log, hraw, ?_⟩
    dsimp only
    rw [hreply, hhosted, hresponse]
    exact ⟨hledger, rfl, hvalue, hmessage⟩
  initAccount {address t} balance session spells writable address_ne := by
    obtain ⟨hledger, hreply⟩ := sound.call_initAccount live spells writable address_ne balance
    dsimp only
    rw [Application.handle_initChain l session address_ne balance]
    exact ⟨hledger, hreply, rfl⟩
  createBlock {proposer t} spells writable proposer_ne := by
    obtain ⟨hledger, hreply⟩ := sound.call_createBlock live spells writable
    obtain ⟨hbegun, hsealed, hcommitted⟩ := Application.handle_commit_beginBlock l proposer_ne
    refine ⟨by rw [hledger, hsealed], hbegun, ?_⟩
    rw [hreply, hcommitted]
    rcases (l.sealBlock proposer).2 with e | block
    · refine ⟨⟨?_, ?_⟩, ?_⟩
      · rintro ⟨⟩
      · rintro ⟨response, ⟨⟩⟩
      · rintro height root ⟨⟩
    · refine ⟨⟨fun _ => ⟨_, rfl⟩, fun _ => rfl⟩, ?_⟩
      rintro height root ⟨⟩
      rfl
  balance {address t} spells writable := by
    refine sound.answersWord live (.balance address)
      (fun l => (ForeignText.read "address" t).map fun a => .word (l.balance a)) rfl ?_ rfl
    rw [spells.read_eq writable]
    rfl
  nonce {address t} spells writable := by
    refine sound.answersWord live (.nonce address)
      (fun l => (ForeignText.read "address" t).map fun a => .word (l.nonce a)) rfl ?_ rfl
    rw [spells.read_eq writable]
    rfl
  height := sound.answersWord live .height (fun l => .ok (.word l.height)) rfl rfl rfl
  latestHash := by
    refine ⟨l.latestHash.bytes, ?_, l.latestHash.length_bytes, ?_⟩
    · rintro a rfl
      exact a.answers_text .latestHash
    · rw [sound.call_readLedger live (c := .latestHash h) (fun l => textValue l.latestHash.text)
        rfl, textValue_of_writable l.latestHash.writable_text]
      rfl

end Sound

/-- **The two interfaces agree.** Take any run of calls on a fresh bridge and a handle behind which
it has a ledger. Transactions, accounts and blocks that are handed to calls leave the ledger that
the requests of a host leave, and are accepted or rejected as these are, with the same message where
a transaction is rejected; and calls for a balance, a nonce, the height and the latest hash answer
what queries answer. This holds however documents are read, of all texts without a zero byte, and of
all transactions whose lengths fit. -/
theorem interfaces_agree (parse : Config.Reading) (calls : List Call) {h : Handle} {l : Ledger}
    (live : (Machine.after (call parse) fresh calls).ledger? h = some l) :
    (Machine.after (call parse) fresh calls).Agrees parse h l :=
  (sound_after parse calls).agrees live

/-- A transaction with another nonce than its sender's is rejected with the same text on both ways.
Its addresses are handed over with bytes behind their ends, and its signature without memory. -/
theorem interfaces_agree_wrongNonce :
    let b := Machine.after (call Config.parse) fresh
      [.initialise .unset, .blockchainNew, .initAccount 1 (some [97, 0]) 10]
    let tx : Transaction := ⟨"a", "b", 3, 1, 0, 7, []⟩
    let f : ForeignTransaction := ⟨some [97, 0, 98], some [98, 0], 3, 1, 0, 7, .null 0⟩
    let log := "transaction rejected: nonce mismatch: expected 0, got 7"
    ∃ l raw code, b.ledger? 1 = some l ∧ tx.encode = .ok raw ∧ code ≠ ResponseCode.ok ∧
      (Application.handle ⟨l, some ⟨1, "v1", false⟩⟩ (.deliverTx raw)).2 =
        .ok (.deliverTx code log) ∧
      (b.call Config.parse (.addTransaction 1 f)).2.report.message = some log := by
  intro b tx f log
  have hlive : (b.ledger? 1).isSome = true := by decide +kernel
  obtain ⟨l, hl⟩ := Option.isSome_iff_exists.mp hlive
  have hagrees : b.Agrees Config.parse 1 l := interfaces_agree Config.parse _ hl
  have hspells : f.Spells tx :=
    ⟨⟨[98], by decide +kernel⟩, ⟨[], by decide +kernel⟩, .inr ⟨rfl, rfl⟩, rfl, rfl, rfl, rfl⟩
  have hbounded : tx.Bounded := ⟨by decide +kernel, by decide +kernel, by decide +kernel⟩
  obtain ⟨raw, code, log', hraw, -, hhosted, hvalue, hlog⟩ := hagrees.addTransaction
    (o := ⟨1, "v1", false⟩) hspells (by decide +kernel) (by decide +kernel) hbounded rfl
  have hrefused : (b.call Config.parse (.addTransaction 1 f)).2.value = .flag false := by
    decide +kernel
  have hmessage : (b.call Config.parse (.addTransaction 1 f)).2.report.message = some log := by
    decide +kernel
  have hcode : code ≠ ResponseCode.ok := fun hok => by
    rw [hrefused, hok] at hvalue
    cases hvalue
  obtain rfl : log' = log := Option.some.inj ((hlog hcode).symm.trans hmessage)
  exact ⟨l, raw, code, hl, hraw, hcode, hhosted, hmessage⟩

end Bridge

end HostedLedger

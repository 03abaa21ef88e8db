import HostedLedger.Proofs.Foreign.Agreement
import HostedLedger.Proofs.Foreign.Answer
import HostedLedger.Proofs.Ledger.Chain

/-!
# Failures that are told in band

A caller who does not ask for reports still sees in the values of most calls whether they have
failed: a call that goes through never gives its fallback. No handle is zero, no block has the
height zero, no response is written in no bytes, and every text that an instance answers can be
handed back. What a report says about a failure is the message of the error, without NUL.

## Main definitions

* `Call.tells`: whether the value of a call tells that it has failed
* `Value.blanks`: the values of failures
* `Bridge.Bounded parse b c`: a chain to which a block is added stays as short as heights can tell

## Main results

* `Bridge.Sound.value_ne_fallback`: a call that goes through does not give its fallback
* `Bridge.values_tell_failures`: values, reports and messages after any calls
-/

namespace HostedLedger

/-- Whether the value of a call tells that it has failed. A balance, a nonce and a height may be
zero, and some calls have no values. -/
def Call.tells : Call → Bool
  | blockchainNew | consensusNew | latestHash _ | createBlock .. | addTransaction ..
  | initAccount .. | addValidator .. | removeValidator .. | selectProposer _
  | selectProposerForHeight .. | process .. => true
  | _ => false

/-- The values of failures: zero, false or nothing. -/
def Value.blanks : List Value := [.handle 0, .word 0, .flag false, .text none, .buffer []]

theorem Call.fallback_mem_blanks {c : Call} (tells : c.tells = true) :
    c.fallback ∈ Value.blanks := by
  cases c with
  | initialise | shutdown | blockchainDestroy | height | balance | nonce | consensusDestroy
  | releaseNothing => cases tells
  | _ => simp [fallback, Value.blanks]

/-! ### What instances answer -/

/-- A response is written with the byte of its kind. -/
theorem Response.encode_ne_nil {r : Response} {bs : Bytes} (h : r.encode = .ok bs) : bs ≠ [] := by
  obtain ⟨fields, -, hcons⟩ := Format.bind_eq_ok_iff.mp h
  cases hcons
  exact List.cons_ne_nil _ _

theorem Application.process_ne_nil {a : Application} {request bs : Bytes}
    (h : (a.process request).2 = .ok bs) : bs ≠ [] := by
  rw [process] at h
  split at h
  · cases h
  split at h
  · cases h
  next response _ =>
  cases hencode : response.encode with
  | error e =>
    rw [hencode] at h
    cases h
  | ok w =>
    rw [hencode] at h
    cases h
    exact Response.encode_ne_nil hencode

/-- The height of a block that is sealed is the length of the chain with it, which is not zero. -/
theorem Ledger.height_ne_zero_of_sealBlock {l : Ledger} {proposer : String} {block : Block}
    (h : (l.sealBlock proposer).2 = .ok block)
    (bounded : (l.sealBlock proposer).1.chain.length < UInt64.size) : block.height ≠ 0 := by
  obtain ⟨-, hblock, hledger⟩ := eq_of_sealBlock_ok (Prod.ext rfl h)
  have hchain : (l.sealBlock proposer).1.chain = l.chain ++ [block] := congrArg chain hledger
  rw [hchain, List.length_append, List.length_singleton] at bounded
  obtain ⟨hashes, preimage, -, -, rfl⟩ := nextBlock_eq_ok_iff.mp hblock
  show l.height + 1 ≠ 0
  intro hzero
  have htoNat : (l.height + 1).toNat = l.chain.length + 1 := by
    rw [height_add_one]
    exact UInt64.toNat_ofNat_of_lt' bounded
  rw [hzero] at htoNat
  cases htoNat

theorem exists_of_map_eq_ok {α β : Type} {result : Except Error α} {value : α → β} {v : β}
    (h : result.map value = .ok v) : ∃ y, result = .ok y ∧ value y = v := by
  cases result with
  | error e => cases h
  | ok y => exact ⟨y, rfl, Except.ok.inj h⟩

namespace Bridge

/-- No chain to which a call adds a block gets longer than a height can tell. -/
def Bounded (parse : Config.Reading) (b : Bridge) (c : Call) : Prop :=
  ∀ h t l, c = .createBlock h t → (b.call parse c).1.ledger? h = some l →
    l.chain.length < UInt64.size

namespace Sound

variable {parse : Config.Reading} {b : Bridge} (sound : b.Sound) {c : Call} {v : Value}
include sound

/-- A new instance has a handle that is not zero. -/
theorem ne_zero_of_created (creates : c = .blockchainNew ∨ c = .consensusNew)
    (ok : (b.perform parse c).2 = .ok v) : v ≠ .handle 0 := by
  have heffect := sound.effect parse c
  rw [ok] at heffect
  generalize (b.perform parse c).1 = b' at heffect
  cases heffect with
  | idle => rcases creates with h | h <;> cases h
  | initialised => rcases creates with h | h <;> cases h
  | shutdown => rcases creates with h | h <;> cases h
  | created _ _ _ gains =>
    intro hzero
    cases hzero
    exact gains.tidy.ne_zero_of_used gains.used rfl
  | acted takes => rcases creates with rfl | rfl <;> cases takes

/-- A block that is sealed has a height that is not zero. -/
theorem ne_zero_of_createBlock {h : Handle} {t : ForeignText} {a : Application}
    (found : b.table.get? h = some (.blockchain a)) {proposer : String}
    (reads : t.read "validator" = .ok proposer) (bounded : b.Bounded parse (.createBlock h t))
    {block : Block} (sealed : (a.ledger.sealBlock proposer).2 = .ok block) : block.height ≠ 0 := by
  have hlive : b.ledger? h = some a.ledger := by rw [ledger?, found]
  obtain ⟨hledger, -⟩ := sound.call_onLedger hlive (c := .createBlock h t) Ledger.sealBlock
    (fun block => .word block.height) rfl reads
  exact Ledger.height_ne_zero_of_sealBlock sealed (bounded h t _ rfl hledger)

/-- **A call that goes through does not give its fallback.** -/
theorem value_ne_fallback (tells : c.tells = true) (bounded : b.Bounded parse c)
    (ok : (b.perform parse c).2 = .ok v) : v ≠ c.fallback := by
  cases htakes : c.handle? with
  | none =>
    cases c with
    | blockchainNew => exact sound.ne_zero_of_created (.inl rfl) ok
    | consensusNew => exact sound.ne_zero_of_created (.inr rfl) ok
    | initialise | shutdown | releaseNothing => cases tells
    | _ => cases htakes
  | some h =>
    obtain ⟨x, ⟨hfound, -⟩, hanswers⟩ := sound.exists_answers_of_ok htakes ok
    generalize hresult : Except.ok v = result at hanswers
    cases hanswers with
    | height | blockchainDestroy | balance | nonce | consensusDestroy => cases tells
    | latestHash =>
      cases hresult
      intro hfallback
      cases hfallback
    | addTransaction | initAccount | addValidator | removeValidator | selectProposer
    | selectProposerForHeight =>
      obtain ⟨y, -, rfl⟩ := exists_of_map_eq_ok hresult.symm
      intro hfallback
      cases hfallback
    | createBlock reads =>
      obtain ⟨block, hsealed, rfl⟩ := exists_of_map_eq_ok hresult.symm
      intro hzero
      cases htakes
      exact sound.ne_zero_of_createBlock hfound reads bounded hsealed (Value.word.inj hzero)
    | process =>
      obtain ⟨bs, hprocess, rfl⟩ := exists_of_map_eq_ok hresult.symm
      intro hempty
      exact Application.process_ne_nil hprocess (Value.buffer.inj hempty)

end Sound

/-- **Values tell failures.** Take any run of calls on a fresh bridge, and one more call, however
documents are read. If it is one of those whose values tell, it gives its fallback, which is zero,
false or nothing, if and only if it reports a failure; a call that adds a block must leave a chain
whose length a height can tell. Every call comes with a message if and only if it reports a failure.
The message is that of the error, with a backslash and a zero wherever it holds a NUL, and so it
holds no zero byte. -/
theorem values_tell_failures (parse : Config.Reading) (calls : List Call) (c : Call) :
    let b := Machine.after (call parse) fresh calls
    let reply := (b.call parse c).2
    (c.tells = true → b.Bounded parse c →
      c.fallback ∈ Value.blanks ∧
        (reply.value = c.fallback ↔ reply.report.status.code ≠ 0)) ∧
    (reply.report.message.isSome = true ↔ reply.report.status.code ≠ 0) ∧
    ∀ message, reply.report.message = some message →
      0 ∉ Utf8.encode message ∧
      ∃ e, (b.perform parse c).2 = .error e ∧ reply.report.status = .failure e.kind ∧
        message.toList = ['\\', '0'].intercalate (e.message.toList.splitOn '\x00') := by
  intro b reply
  have sound : b.Sound := sound_after parse calls
  refine ⟨fun tells bounded => ⟨Call.fallback_mem_blanks tells, ?_⟩, Reply.isSome_message_iff,
    fun message hmessage => ?_⟩
  · refine Iff.trans ?_ Reply.code_ne_zero_iff.symm
    have hreply {result : Except Error Value} (h : (b.perform parse c).2 = result) :
        reply = Reply.of c.fallback result := congrArg (Reply.of c.fallback) h
    constructor
    · intro hvalue
      cases hperform : (b.perform parse c).2 with
      | error e => exact ⟨e, hperform⟩
      | ok v =>
        rw [hreply hperform] at hvalue
        exact absurd hvalue (sound.value_ne_fallback tells bounded hperform)
    · rintro ⟨e, herror⟩
      rw [hreply herror]
      rfl
  · obtain ⟨e, herror, hstatus, rfl⟩ := Reply.exists_error_of_message hmessage
    exact ⟨CallReport.writable_escapeNul _, e, herror, hstatus, CallReport.toList_escapeNul _⟩

/-- A first block is sealed. A document names a setting that there is not, and the name holds a
NUL. -/
theorem values_tell_failures_firstBlock :
    let text (name : String) := "unknown field `" ++ name ++ "`, expected one of `log_level`, " ++
      "`allow_empty_blocks`, `min_validator_stake`, `genesis_accounts` at line 1 column 1"
    let parse : Config.Reading := fun _ => .error (text "a\x00b")
    let calls : List Call := [.initialise .unset, .blockchainNew, .initAccount 1 (some [97]) 10,
      .addTransaction 1 ⟨some [97], some [98], 3, 1, 0, 0, .null 0⟩]
    let b := Machine.after (call parse) fresh calls
    let misnamed := fresh.call parse
      (.initialise (.file "bridge.yaml" (.ok (Utf8.encode "\"a\\0b\": 1"))))
    (b.call parse (.createBlock 1 (some [118]))).2.report.status.code = 0 ∧
      ∃ message, misnamed.2.report.message = some message ∧ 0 ∉ Utf8.encode message ∧
        message = "invalid parameter: configuration: failed to parse config: " ++ text "a\\0b" := by
  intro text parse calls b misnamed
  constructor
  · obtain ⟨hvalue, -, -⟩ := values_tell_failures parse calls (.createBlock 1 (some [118]))
    have hlength : ((b.call parse (.createBlock 1 (some [118]))).1.ledger? 1).map
        (·.chain.length) = some 1 := by
      decide +kernel
    have hbounded : b.Bounded parse (.createBlock 1 (some [118])) := by
      rintro h t l ⟨⟩ hledger
      rw [hledger] at hlength
      have hchain : l.chain.length = 1 := Option.some.inj hlength
      rw [hchain]
      decide
    obtain ⟨-, hiff⟩ := hvalue rfl hbounded
    by_contra hcode
    have hzero : (b.call parse (.createBlock 1 (some [118]))).2.value = .word 0 := hiff.mpr hcode
    have hone : (b.call parse (.createBlock 1 (some [118]))).2.value = .word 1 := by decide +kernel
    cases hone.symm.trans hzero
  · obtain ⟨-, -, hmessage⟩ := values_tell_failures parse []
      (.initialise (.file "bridge.yaml" (.ok (Utf8.encode "\"a\\0b\": 1"))))
    have htext : misnamed.2.report.message =
        some ("invalid parameter: configuration: failed to parse config: " ++ text "a\\0b") := by
      decide +kernel
    exact ⟨_, htext, (hmessage _ htext).1, rfl⟩

end Bridge

end HostedLedger

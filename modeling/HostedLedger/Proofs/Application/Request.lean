import HostedLedger.Application.Basic
import HostedLedger.Proofs.Ledger.Call

/-!
# Effects of requests

A request is refused and leaves the application alone, or it is answered and has the one effect of
its kind. Requests that change the ledger do it by calls of the ledger: an initialisation by a run,
an accepted transaction and a commit by one call.

## Main definitions

* `Application.Effect`: what a request may do
* `Application.Change`: what it may change, leaving aside request and answer
* `Application.Answers a path value`: queries for a path are answered with a value

## Main results

* `Application.obeys_effect`, `Application.obeys_change`: every request has one of the effects, and
  makes one of the changes
* `Application.beginBlock_of_closed`: opening the next block
* `Application.exists_calls_after`: a run of requests makes a run of calls on the ledger
* `Application.Effect.eq_of_encode_error`: an answer without a written form tells of no change
-/

namespace HostedLedger

theorem GenesisAccount.checkAll_eq_ok_iff {accounts : List GenesisAccount} :
    checkAll accounts = .ok () ↔ ∀ g ∈ accounts, g.address ≠ "" := by
  rw [← firstUnnamed?_eq_none_iff, checkAll]
  split <;> simp [*]

namespace Application

theorem checkValidators_eq_ok_iff {validators : List String} :
    checkValidators validators = .ok () ↔ ∀ v ∈ validators, v ≠ "" := by
  induction validators with
  | nil => simp [checkValidators]
  | cons v validators ih =>
    rw [List.forall_mem_cons, ← ih, ← Address.check_eq_ok_iff "validator",
      checkValidators]
    split <;> simp [*]

/-- What a request may do to an application. -/
inductive Effect (a : Application) : Request → Except Error Response → Application → Prop
  | refused {request : Request} {e : Error} : Effect a request (.error e) a
  | info : Effect a .info
      (.ok (.info a.ledger.height a.ledger.latestHash a.ledger.stateRoot)) a
  | initChain {validators : List String} {accounts : List GenesisAccount}
    (validators_ne : ∀ v ∈ validators, v ≠ "") (accounts_ne : ∀ g ∈ accounts, g.address ≠ "") :
    Effect a (.initChain validators accounts) (.ok .initChain)
      { a with ledger := Ledger.perform.after a.ledger (Ledger.seedCalls accounts) }
  | beginBlock {proposer : String} (closed : a.openBlock = none) (proposer_ne : proposer ≠ "") :
    Effect a (.beginBlock (a.ledger.height + 1) proposer) (.ok .beginBlock)
      { a with openBlock := some ⟨a.ledger.height + 1, proposer, false⟩ }
  | accept {b : OpenBlock} {raw : Bytes} {tx : Transaction} {ledger : Ledger}
    (opened : a.openBlock = some b) (running : b.ended = false)
    (decodes : Transaction.decode raw = .ok tx) (applies : a.ledger.apply tx = (ledger, .ok ())) :
    Effect a (.deliverTx raw) (.ok (.deliverTx ResponseCode.ok "")) { a with ledger }
  | reject {b : OpenBlock} {raw : Bytes} {tx : Transaction} {e : Error}
    (opened : a.openBlock = some b) (running : b.ended = false)
    (decodes : Transaction.decode raw = .ok tx)
    (applies : a.ledger.apply tx = (a.ledger, .error e)) :
    Effect a (.deliverTx raw) (.ok (.deliverTx ResponseCode.rejected e.message)) a
  | undecodable {b : OpenBlock} {raw : Bytes} {e : DecodeError} (opened : a.openBlock = some b)
    (running : b.ended = false) (decodes : Transaction.decode raw = .error e) :
    Effect a (.deliverTx raw)
      (.ok (.deliverTx ResponseCode.badEncoding (Error.decode e).message)) a
  | endBlock {b : OpenBlock} (opened : a.openBlock = some b) (running : b.ended = false) :
    Effect a (.endBlock b.height) (.ok (.endBlock []))
      { a with openBlock := some { b with ended := true } }
  | commit {b : OpenBlock} {block : Block} {ledger : Ledger} (opened : a.openBlock = some b)
    (seals : a.ledger.sealBlock b.proposer = (ledger, .ok block)) :
    Effect a .commit (.ok (.commit block.height block.stateRoot)) ⟨ledger, none⟩
  | query {path : String} {data : Bytes} :
    Effect a (.query path data) (.ok (a.ledger.query path)) a

theorem effect_initChain (a : Application) (validators : List String)
    (accounts : List GenesisAccount) :
    Effect a (.initChain validators accounts) (a.initChain validators accounts).2
      (a.initChain validators accounts).1 := by
  rw [Application.initChain]
  split
  · exact .refused
  next hvalidators =>
  split
  · exact .refused
  next haccounts =>
  have hvalidators := checkValidators_eq_ok_iff.mp hvalidators
  have haccounts := GenesisAccount.checkAll_eq_ok_iff.mp haccounts
  rw [Ledger.seed_eq a.ledger haccounts]
  exact .initChain hvalidators haccounts

/-- While no block is open, the next one can be opened for any proposer that has a name. -/
theorem beginBlock_of_closed {a : Application} (closed : a.openBlock = none) {proposer : String}
    (proposer_ne : proposer ≠ "") :
    a.beginBlock (a.ledger.height + 1) proposer =
      ({ a with openBlock := some ⟨a.ledger.height + 1, proposer, false⟩ }, .ok .beginBlock) := by
  rw [beginBlock, closed]
  simp only [ne_eq, not_true_eq_false, if_false,
    (Address.check_eq_ok_iff "proposer").mpr proposer_ne]

theorem effect_beginBlock (a : Application) (height : UInt64) (proposer : String) :
    Effect a (.beginBlock height proposer) (a.beginBlock height proposer).2
      (a.beginBlock height proposer).1 := by
  rw [Application.beginBlock]
  split
  · exact .refused
  next hclosed =>
  by_cases hheight : height = a.ledger.height + 1
  · subst hheight
    simp only [ne_eq, not_true_eq_false, if_false]
    split
    · exact .refused
    · next hproposer => exact .beginBlock hclosed ((Address.check_eq_ok_iff _).mp hproposer)
  · simp only [ne_eq, hheight, not_false_eq_true, if_true]
    exact .refused

theorem effect_deliverTx (a : Application) (raw : Bytes) :
    Effect a (.deliverTx raw) (a.deliverTx raw).2 (a.deliverTx raw).1 := by
  rw [Application.deliverTx]
  split
  · exact .refused
  next b hopened =>
  by_cases hended : b.ended = true
  · rw [if_pos hended]
    exact .refused
  rw [if_neg hended]
  have hrunning : b.ended = false := by simpa using hended
  split
  · next e hdecode => exact .undecodable hopened hrunning hdecode
  next tx hdecode =>
  split
  · next ledger e happly =>
    obtain rfl := Ledger.eq_of_apply_error happly
    exact .reject hopened hrunning hdecode happly
  · next ledger happly => exact .accept hopened hrunning hdecode happly

theorem effect_endBlock (a : Application) (height : UInt64) :
    Effect a (.endBlock height) (a.endBlock height).2 (a.endBlock height).1 := by
  rw [Application.endBlock]
  split
  · exact .refused
  next b hopened =>
  by_cases hheight : b.height = height
  · subst hheight
    simp only [ne_eq, not_true_eq_false, if_false]
    split
    · exact .refused
    · next hended => exact .endBlock hopened (by simpa using hended)
  · simp only [ne_eq, hheight, not_false_eq_true, if_true]
    exact .refused

theorem effect_commit (a : Application) : Effect a .commit a.commit.2 a.commit.1 := by
  rw [Application.commit]
  split
  · exact .refused
  next b hopened =>
  split
  · next ledger e hseal =>
    rw [Ledger.eq_of_sealBlock_error hseal]
    exact .refused
  · next ledger block hseal => exact .commit hopened hseal

theorem obeys_effect : Machine.Obeys handle Effect := by
  intro a request
  cases request with
  | info => exact .info
  | initChain validators accounts => exact a.effect_initChain validators accounts
  | beginBlock height proposer => exact a.effect_beginBlock height proposer
  | deliverTx raw => exact a.effect_deliverTx raw
  | endBlock height => exact a.effect_endBlock height
  | commit => exact a.effect_commit
  | query path data => exact .query

/-- What a request may change, whatever its answer: accounts, or one thing about the open block. -/
inductive Change (a : Application) : Application → Prop
  | accounts (accounts : Accounts) : Change a { a with ledger := { a.ledger with accounts } }
  | opened (closed : a.openBlock = none) (b : OpenBlock) : Change a { a with openBlock := some b }
  | accepted {b : OpenBlock} (opened : a.openBlock = some b) (running : b.ended = false)
    (accounts : Accounts) (tx : Transaction) :
    Change a { a with ledger := { a.ledger with accounts, pending := a.ledger.pending ++ [tx] } }
  | ended {b : OpenBlock} (opened : a.openBlock = some b) (running : b.ended = false) :
    Change a { a with openBlock := some { b with ended := true } }
  | committed {b : OpenBlock} {block : Block} (opened : a.openBlock = some b)
    (allowed : a.ledger.pending = [] → a.ledger.policy.allowEmptyBlocks = true)
    (block_eq : a.ledger.nextBlock b.proposer = .ok block) :
    Change a ⟨{ a.ledger with pending := [], chain := a.ledger.chain ++ [block] }, none⟩

theorem Change.refl (a : Application) : Change a a := .accounts a.ledger.accounts

theorem Effect.change {a a' : Application} {request : Request} {answer : Except Error Response}
    (h : Effect a request answer a') : Change a a' := by
  cases h with
  | refused => exact .refl a
  | info => exact .refl a
  | @initChain validators accounts =>
    obtain ⟨seeded, hseeded⟩ := Ledger.exists_after_seedCalls a.ledger accounts
    rw [hseeded]
    exact .accounts seeded
  | beginBlock closed => exact .opened closed _
  | accept opened running _ applies =>
    obtain ⟨accounts, -, rfl⟩ := Ledger.eq_of_apply_ok applies
    exact .accepted opened running accounts _
  | reject => exact .refl a
  | undecodable => exact .refl a
  | endBlock opened running => exact .ended opened running
  | commit opened seals =>
    obtain ⟨allowed, block_eq, rfl⟩ := Ledger.eq_of_sealBlock_ok seals
    exact .committed opened allowed block_eq
  | query => exact .refl a

/-- Every request changes accounts or one thing about the open block. -/
theorem obeys_change : Machine.Obeys handle fun a _ _ a' => Change a a' :=
  obeys_effect.mono Effect.change

/-- What a request does to the ledger, calls on the ledger do. -/
theorem Effect.exists_calls {a a' : Application} {request : Request}
    {answer : Except Error Response} (h : Effect a request answer a') :
    ∃ calls, a'.ledger = Ledger.perform.after a.ledger calls := by
  cases h with
  | refused => exact ⟨[], rfl⟩
  | info => exact ⟨[], rfl⟩
  | @initChain validators accounts => exact ⟨Ledger.seedCalls accounts, rfl⟩
  | beginBlock => exact ⟨[], rfl⟩
  | @accept b raw tx ledger _ _ _ applies =>
    refine ⟨[.apply tx], ?_⟩
    rw [Machine.after_cons, Ledger.perform, applies]
    rfl
  | reject => exact ⟨[], rfl⟩
  | undecodable => exact ⟨[], rfl⟩
  | endBlock => exact ⟨[], rfl⟩
  | @commit b block ledger _ seals =>
    refine ⟨[.sealBlock b.proposer], ?_⟩
    rw [Machine.after_cons, Ledger.perform, seals]
    rfl
  | query => exact ⟨[], rfl⟩

/-- A ledger that requests lead to is one that calls on the ledger lead to. -/
theorem exists_calls_after (a : Application) (requests : List Request) :
    ∃ calls, (Machine.after handle a requests).ledger = Ledger.perform.after a.ledger calls := by
  refine obeys_effect.after_induction
    (P := fun a' => ∃ calls, a'.ledger = Ledger.perform.after a.ledger calls) ?_ ⟨[], rfl⟩ requests
  rintro a₁ request answer a₂ heffect ⟨calls, hcalls⟩
  obtain ⟨more, hmore⟩ := heffect.exists_calls
  exact ⟨calls ++ more, by rw [hmore, hcalls, Machine.after_append]⟩

/-- Only the answers to questions and to transactions that are not accepted can be too long to be
written out. -/
theorem Effect.eq_of_encode_error {a a' : Application} {request : Request} {response : Response}
    {e : EncodeError} (h : Effect a request (.ok response) a')
    (hencode : response.encode = .error e) : a' = a := by
  cases h with
  | info => rfl
  | initChain => cases hencode
  | beginBlock => cases hencode
  | accept => cases hencode
  | reject => rfl
  | undecodable => rfl
  | endBlock => cases hencode
  | commit => cases hencode
  | query => rfl

/-- Queries for a path are answered with a value, whatever comes with them. -/
def Answers (a : Application) (path : String) (value : Bytes) : Prop :=
  ∀ data, a.handle (.query path data) = (a, .ok (.query ResponseCode.ok value ""))

theorem answers_text (a : Application) (p : Path) : a.Answers p.text (a.ledger.read p) := by
  intro data
  rw [handle, Ledger.query_text]

end Application

end HostedLedger

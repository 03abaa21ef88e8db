import HostedLedger.Proofs.Application.Trace
import HostedLedger.Proofs.Ledger.Chain

/-!
# The height of the open block

A host opens a block at the next height of the ledger. Whoever holds the ledger may seal blocks
directly while the host's block is open, and then the ledger is ahead of the open block: by as many
blocks as have been sealed directly since it was opened. The host's block is sealed on top of these.

## Main definitions

* `Application.carriedOut?`: the request that a step has carried out
* `Application.sealsDirectly`: the steps that seal a block by a call on the ledger
* `Request.LeavesOpen`: the requests that can be carried out while a block is open and stays open
* `Application.OpenSince`: the step that opened a block, and the steps since
* `Application.Lags`: how far the open block is behind the ledger, by the steps of a run

## Main results

* `Application.lags_after`: every run tells how far the open block is behind
* `Application.open_height_lags`: the open block and its sealing against the height of the ledger
-/

namespace HostedLedger

/-- A request that can be carried out while a block is open at the given height, and that leaves it
open: an end has to name this height, and a block is neither opened nor sealed. -/
def Request.LeavesOpen (height : UInt64) : Request → Prop
  | .beginBlock .. => False
  | .endBlock named => named = height
  | .commit => False
  | _ => True

namespace Application

/-- The request that a step has carried out: the one it makes, unless it is refused. -/
def carriedOut? : Step Application Call Answer → Option Request
  | ⟨_, call, .ok _⟩ => call.request?
  | ⟨_, _, .error _⟩ => none

@[simp] theorem carriedOut?_ok (a : Application) (call : Call) (reply : Reply) :
    carriedOut? ⟨a, call, .ok reply⟩ = call.request? := rfl

@[simp] theorem carriedOut?_error (a : Application) (call : Call) (e : Error) :
    carriedOut? ⟨a, call, .error e⟩ = none := rfl

/-- Whether a step seals a block by a call on the ledger. -/
def sealsDirectly : Step Application Call Answer → Bool
  | ⟨_, .ledger (.sealBlock _), .ok _⟩ => true
  | _ => false

theorem sealsDirectly_of_request? {a : Application} {call : Call} {request : Request}
    (h : call.request? = some request) (answer : Answer) :
    sealsDirectly ⟨a, call, answer⟩ = false := by
  cases call with
  | process bs => rfl
  | handle r => rfl
  | ledger c => cases h

/-- A step opened a block, at the next height of the ledger that it met, and the block has been
open through all the steps since. -/
structure OpenSince (height : UInt64) (proposer : String) (opening : Step Application Call Answer)
    (since : List (Step Application Call Answer)) : Prop where
  opens : carriedOut? opening = some (.beginBlock height proposer)
  height_eq : height = opening.before.ledger.height + 1
  leavesOpen : ∀ step ∈ since, ∀ request ∈ carriedOut? step, request.LeavesOpen height

theorem OpenSince.snoc {height : UInt64} {proposer : String}
    {opening step : Step Application Call Answer} {since : List (Step Application Call Answer)}
    (h : OpenSince height proposer opening since)
    (hstep : ∀ request ∈ carriedOut? step, request.LeavesOpen height) :
    OpenSince height proposer opening (since ++ [step]) where
  opens := h.opens
  height_eq := h.height_eq
  leavesOpen s hs := by
    rcases List.mem_append.mp hs with hs | hs
    · exact h.leavesOpen s hs
    · rw [List.mem_singleton.mp hs]
      exact hstep

/-- The steps of a run tell by which of them the open block was opened, and the chain has grown
since by the blocks that have been sealed directly. -/
def Lags (past : List (Step Application Call Answer)) (a : Application) : Prop :=
  ∀ b, a.openBlock = some b → ∃ before opening since,
    past = before ++ opening :: since ∧ OpenSince b.height b.proposer opening since ∧
      a.ledger.chain.length = opening.before.ledger.chain.length + since.countP sealsDirectly

/-! ### Steps -/

/-- A request opens a block, or it seals the open one, or it keeps the chain and leaves the block
open that is, at its height. -/
theorem Effect.openBlock_cases {a a' : Application} {request : Request} {response : Response}
    (h : Effect a request (.ok response) a') :
    (∃ proposer, request = .beginBlock (a.ledger.height + 1) proposer ∧
      a' = { a with openBlock := some ⟨a.ledger.height + 1, proposer, false⟩ }) ∨
    (request = .commit ∧ a'.openBlock = none) ∨
    (a'.ledger.chain = a.ledger.chain ∧ ∀ b', a'.openBlock = some b' → ∃ b,
      a.openBlock = some b ∧ b'.height = b.height ∧ b'.proposer = b.proposer ∧
        request.LeavesOpen b.height) := by
  cases h with
  | info => exact .inr (.inr ⟨rfl, fun b hb => ⟨b, hb, rfl, rfl, trivial⟩⟩)
  | query => exact .inr (.inr ⟨rfl, fun b hb => ⟨b, hb, rfl, rfl, trivial⟩⟩)
  | @initChain validators accounts =>
    obtain ⟨seeded, hseeded⟩ := Ledger.exists_after_seedCalls a.ledger accounts
    rw [hseeded]
    exact .inr (.inr ⟨rfl, fun b hb => ⟨b, hb, rfl, rfl, trivial⟩⟩)
  | beginBlock => exact .inl ⟨_, rfl, rfl⟩
  | accept _ _ _ applies =>
    obtain ⟨accounts, -, rfl⟩ := Ledger.eq_of_apply_ok applies
    exact .inr (.inr ⟨rfl, fun b hb => ⟨b, hb, rfl, rfl, trivial⟩⟩)
  | reject => exact .inr (.inr ⟨rfl, fun b hb => ⟨b, hb, rfl, rfl, trivial⟩⟩)
  | undecodable => exact .inr (.inr ⟨rfl, fun b hb => ⟨b, hb, rfl, rfl, trivial⟩⟩)
  | @endBlock b opened =>
    refine .inr (.inr ⟨rfl, ?_⟩)
    rintro b' ⟨⟩
    exact ⟨b, opened, rfl, rfl, rfl⟩
  | commit => exact .inr (.inl ⟨rfl, rfl⟩)

/-- A step that leaves the block open that is, and by which the chain grows only if it seals
directly. -/
theorem Lags.snoc {past : List (Step Application Call Answer)}
    {step : Step Application Call Answer} {a a' : Application} (h : Lags past a)
    (opened : ∀ b', a'.openBlock = some b' → ∃ b, a.openBlock = some b ∧ b'.height = b.height ∧
      b'.proposer = b.proposer ∧ ∀ request ∈ carriedOut? step, request.LeavesOpen b.height)
    (length_eq : a'.ledger.chain.length =
      a.ledger.chain.length + if sealsDirectly step then 1 else 0) :
    Lags (past ++ [step]) a' := by
  intro b' hb'
  obtain ⟨b, hb, hheight, hproposer, hleaves⟩ := opened b' hb'
  obtain ⟨before, opening, since, rfl, hopen, hlength⟩ := h b hb
  rw [hheight, hproposer]
  refine ⟨before, opening, since ++ [step], by simp, hopen.snoc hleaves, ?_⟩
  rw [length_eq, hlength, List.countP_append, List.countP_singleton, Nat.add_assoc]

theorem lags_of_callEffect {past : List (Step Application Call Answer)} {a a' : Application}
    {call : Call} {answer : Answer} (heffect : CallEffect a call answer a') (h : Lags past a) :
    Lags (past ++ [⟨a, call, answer⟩]) a' := by
  cases heffect with
  | @refused call e =>
    refine h.snoc (fun b hb => ⟨b, hb, rfl, rfl, by simp⟩) ?_
    cases call with
    | ledger c => cases c <;> rfl
    | _ => rfl
  | @request call request reply response a' asks tells effect =>
    rcases effect.openBlock_cases with ⟨proposer, rfl, rfl⟩ | ⟨rfl, hclosed⟩ | ⟨hchain, hopened⟩
    · rintro b ⟨⟩
      exact ⟨past, _, [], rfl, ⟨asks, rfl, by simp⟩, rfl⟩
    · intro b hb
      rw [hclosed] at hb
      cases hb
    · refine h.snoc (fun b' hb' => ?_) ?_
      · obtain ⟨b, hb, hheight, hproposer, hleaves⟩ := hopened b' hb'
        refine ⟨b, hb, hheight, hproposer, fun r hr => ?_⟩
        rw [carriedOut?_ok, asks] at hr
        cases hr
        exact hleaves
      · rw [hchain, sealsDirectly_of_request? asks]
        rfl
  | @ledger call block ledger effect =>
    refine h.snoc (fun b hb => ⟨b, hb, rfl, rfl, by simp [Call.request?]⟩) ?_
    cases effect with
    | initAccount => rfl
    | apply => rfl
    | sealBlock => exact List.length_append

/-- In every run, the steps tell how far the open block is behind the ledger. -/
theorem lags_after (policy : Policy) (calls : List Call) :
    Lags (perform.steps (ofLedger (.new policy)) calls)
      (perform.after (ofLedger (.new policy)) calls) :=
  obeys_callEffect.steps_induction lags_of_callEffect (fun _ closed => by cases closed) calls

/-! ### Heights -/

namespace OpenSince

variable {height : UInt64} {proposer : String} {opening : Step Application Call Answer}
  {since : List (Step Application Call Answer)} {l : Ledger} {n : Nat}

/-- As words, the next height of the ledger is ahead of the open one by the growth since. -/
theorem height_add_one (h : OpenSince height proposer opening since)
    (length_eq : l.chain.length = opening.before.ledger.chain.length + n) :
    l.height + 1 = height + UInt64.ofNat n := by
  rw [h.height_eq, Ledger.height, length_eq, UInt64.ofNat_add, UInt64.add_assoc,
    UInt64.add_comm (UInt64.ofNat n), ← UInt64.add_assoc]
  rfl

/-- As numbers too, where the next height is a word. -/
theorem toNat_height_add (h : OpenSince height proposer opening since)
    (length_eq : l.chain.length = opening.before.ledger.chain.length + n)
    (bounded : l.chain.length + 1 < UInt64.size) :
    height.toNat + n = l.chain.length + 1 := by
  have htoNat : height.toNat = opening.before.ledger.chain.length + 1 := by
    rw [h.height_eq, Ledger.height_add_one]
    exact UInt64.toNat_ofNat_of_lt' (by omega)
  omega

end OpenSince

/-- A commit that is answered seals a block for the proposer of the open one, reports its height and
its state root, and leaves no block open. -/
theorem perform_commit {a : Application} {call : Call} (asks : call.request? = some .commit)
    {reply : Reply} (answered : (perform a call).2 = .ok reply) :
    ∃ b block, a.openBlock = some b ∧ a.ledger.nextBlock b.proposer = .ok block ∧
      reply.response? = some (.commit block.height block.stateRoot) ∧
      (perform a call).1 =
        ⟨{ a.ledger with pending := [], chain := a.ledger.chain ++ [block] }, none⟩ := by
  have heffect := obeys_callEffect a call
  rw [answered] at heffect
  generalize (perform a call).1 = a' at heffect ⊢
  cases heffect with
  | request asks' tells effect =>
    rw [asks] at asks'
    cases asks'
    cases effect with
    | @commit b block ledger opened seals =>
      obtain ⟨-, block_eq, rfl⟩ := Ledger.eq_of_sealBlock_ok seals
      exact ⟨b, block, opened, block_eq, tells, rfl⟩
  | ledger => cases asks

/-- **The height of the open block.** Let requests and calls on the ledger come in any order. While
a block is open, the next height of the ledger is that of the block and as many more as have been
sealed directly since the block was opened. A commit that goes through seals and reports the height
that its opening and its end have named, if and only if none has been sealed directly in between,
and it never seals a lower one. -/
theorem open_height_lags (policy : Policy) (calls : List Call) :
    let past := perform.steps (ofLedger (.new policy)) calls
    let a := perform.after (ofLedger (.new policy)) calls
    (∀ b, a.openBlock = some b → ∃ before opening since,
      past = before ++ opening :: since ∧ OpenSince b.height b.proposer opening since ∧
      a.ledger.height + 1 = b.height + UInt64.ofNat (since.countP sealsDirectly) ∧
      (a.ledger.chain.length + 1 < UInt64.size →
        a.ledger.height.toNat + 1 = b.height.toNat + since.countP sealsDirectly)) ∧
    ∀ call reply, call.request? = some .commit → (perform a call).2 = .ok reply →
      (perform a call).1.ledger.chain.length < UInt64.size →
      ∃ b block before opening since, a.openBlock = some b ∧
        past = before ++ opening :: since ∧ OpenSince b.height b.proposer opening since ∧
        (perform a call).1.ledger.chain = a.ledger.chain ++ [block] ∧
        reply.response? = some (.commit block.height block.stateRoot) ∧
        (block.height = b.height ↔ since.countP sealsDirectly = 0) ∧ b.height ≤ block.height := by
  intro past a
  have hlags : Lags past a := lags_after policy calls
  refine ⟨fun b hb => ?_, fun call reply asks answered bounded => ?_⟩
  · obtain ⟨before, opening, since, hpast, hopen, hlength⟩ := hlags b hb
    refine ⟨before, opening, since, hpast, hopen, hopen.height_add_one hlength, fun bounded => ?_⟩
    rw [Ledger.toNat_height (by omega), hopen.toNat_height_add hlength bounded]
  · obtain ⟨b, block, hb, block_eq, hreply, hafter⟩ := perform_commit asks answered
    obtain ⟨before, opening, since, hpast, hopen, hlength⟩ := hlags b hb
    rw [hafter] at bounded ⊢
    rw [List.length_append, List.length_singleton] at bounded
    have hheight : block.height.toNat = b.height.toNat + since.countP sealsDirectly := by
      obtain ⟨_, _, -, -, rfl⟩ := Ledger.nextBlock_eq_ok_iff.mp block_eq
      rw [hopen.toNat_height_add hlength bounded, Ledger.height_add_one]
      exact UInt64.toNat_ofNat_of_lt' bounded
    refine ⟨b, block, before, opening, since, hb, hpast, hopen, rfl, hreply, ?_, ?_⟩
    · rw [← UInt64.toNat_inj, hheight]
      omega
    · rw [UInt64.le_iff_toNat_le, hheight]
      omega

/-- A run to try the law on: two blocks are sealed directly while a host has block 2 open. -/
def overtakenCalls : List Call :=
  [.ledger (.sealBlock "v1"), .handle (.beginBlock 2 "v2"), .ledger (.sealBlock ""),
   .ledger (.sealBlock "v3"), .handle (.endBlock 4), .handle (.endBlock 2),
   .ledger (.sealBlock "v4"), .handle (.beginBlock 4 "v2")]

/-- The host's block is open at height 2 while the next height is 4, since two blocks have been
sealed directly, and its commit seals a block on top of these. -/
theorem open_height_lags_overtakenCalls :
    let a := perform.after (ofLedger (.new { allowEmptyBlocks := true })) overtakenCalls
    a.openBlock = some ⟨2, "v2", true⟩ ∧
    (∃ before opening since,
      perform.steps (ofLedger (.new { allowEmptyBlocks := true })) overtakenCalls =
        before ++ opening :: since ∧
      OpenSince 2 "v2" opening since ∧ since.countP sealsDirectly = 2) ∧
    ∃ block, (perform a (.handle .commit)).1.ledger.chain = a.ledger.chain ++ [block] ∧
      2 ≤ block.height := by
  intro a
  have hopened : a.openBlock = some ⟨2, "v2", true⟩ := by decide +kernel
  have hlength : a.ledger.chain.length = 3 := by decide +kernel
  have hanswered : ((perform a (.handle .commit)).2).isOk = true := by decide +kernel
  have hbounded : (perform a (.handle .commit)).1.ledger.chain.length < UInt64.size := by
    decide +kernel
  obtain ⟨hopen, hseal⟩ := open_height_lags { allowEmptyBlocks := true } overtakenCalls
  refine ⟨hopened, ?_, ?_⟩
  · obtain ⟨before, opening, since, hpast, hsince, -, hlag⟩ := hopen _ hopened
    refine ⟨before, opening, since, hpast, hsince, ?_⟩
    have hbound : a.ledger.chain.length + 1 < UInt64.size := by
      rw [hlength]
      decide
    have hlag : a.ledger.height.toNat + 1 = 2 + since.countP sealsDirectly := hlag hbound
    rw [Ledger.toNat_height (by omega), hlength] at hlag
    omega
  · cases hreply : (perform a (.handle .commit)).2 with
    | error e => simp [hreply, Except.isOk, Except.toBool] at hanswered
    | ok reply =>
      obtain ⟨b, block, -, -, -, hb, -, -, hchain, -, -, hle⟩ :=
        hseal (.handle .commit) reply rfl hreply hbounded
      refine ⟨block, hchain, ?_⟩
      obtain rfl := Option.some.inj (hopened.symm.trans hb)
      exact hle

end Application

end HostedLedger

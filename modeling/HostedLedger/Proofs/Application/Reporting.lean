import HostedLedger.Proofs.Application.Lifecycle

/-!
# What is reported after a commit

Questions are answered from the ledger as it is at the time, and its accounts change while a block
is open. From a commit on, what is answered is what the block says that has been sealed, until a
transaction is accepted or balances are set. Between blocks there are no transactions, so that only
setting balances can make a difference then.

## Main definitions

* `Application.RequestStep`: a request with its answer
* `Application.commits`, `Application.accepts`, `Application.seeds`: the steps that seal a block,
  put a transaction into the pool, and set balances
* `Ledger.EndsIn l block`: the last block says how the ledger is
* `Application.Reports a height hash stateRoot`: what questions about the ledger are answered

## Main results

* `Application.Effect.endsIn`: what the steps make of the last block
* `Application.exists_endsIn_after`: a run that changes no accounts leaves the last block right
* `Application.not_accepts_of_closed`: a run that ends between blocks and seals none accepts nothing
* `Application.reported_state_is_sealed`: what is reported after a commit
-/

namespace HostedLedger

namespace Ledger

/-- The last block of a ledger says how it is: how long the chain is, and what the accounts are. -/
structure EndsIn (l : Ledger) (block : Block) : Prop where
  last_eq : l.chain.getLast? = some block
  height_eq : block.height = l.height
  stateRoot_eq : block.stateRoot = l.stateRoot

theorem EndsIn.hash_eq {l : Ledger} {block : Block} (h : l.EndsIn block) :
    block.hash = l.latestHash := by
  rw [latestHash, h.last_eq]
  rfl

/-- A block that is sealed says how the ledger is with it. -/
theorem endsIn_of_nextBlock {l : Ledger} {proposer : String} {block : Block}
    (h : l.nextBlock proposer = .ok block) :
    EndsIn { l with pending := [], chain := l.chain ++ [block] } block where
  last_eq := List.getLast?_concat
  height_eq := by
    obtain ⟨_, _, -, -, rfl⟩ := nextBlock_eq_ok_iff.mp h
    show l.height + 1 = UInt64.ofNat (l.chain ++ [_]).length
    rw [List.length_append, List.length_singleton]
    exact l.height_add_one
  stateRoot_eq := by
    obtain ⟨_, _, -, -, rfl⟩ := nextBlock_eq_ok_iff.mp h
    rfl

end Ledger

namespace Application

variable {a a' : Application} {request : Request} {answer : Except Error Response} {block : Block}

/-- A request with the application that it was made to and its answer. -/
abbrev RequestStep : Type := Step Application Request (Except Error Response)

/-- Whether a step seals a block. -/
def commits : RequestStep → Bool
  | ⟨_, .commit, .ok _⟩ => true
  | _ => false

/-- Whether a step puts a transaction into the pool. -/
def accepts : RequestStep → Bool
  | ⟨_, .deliverTx _, .ok response⟩ => response.accepts
  | _ => false

/-- Whether a step sets balances. -/
def seeds : RequestStep → Bool
  | ⟨_, .initChain .., .ok _⟩ => true
  | _ => false

/-! ### Answers -/

/-- What questions about the ledger are answered. -/
structure Reports (a : Application) (height : UInt64) (hash stateRoot : Digest) : Prop where
  info_eq : a.handle .info = (a, .ok (.info height hash stateRoot))
  answers_height : a.Answers "/height" (Bytes.ofUInt64 height)
  answers_latestHash : a.Answers "/latest_hash" hash.bytes
  answers_stateRoot : a.Answers "/state_root" stateRoot.bytes

theorem reports (a : Application) :
    a.Reports a.ledger.height a.ledger.latestHash a.ledger.stateRoot where
  info_eq := rfl
  answers_height := a.answers_text .height
  answers_latestHash := a.answers_text .latestHash
  answers_stateRoot := a.answers_text .stateRoot

/-- As long as the last block says how the ledger is, it is what is reported. -/
theorem reports_of_endsIn (h : a.ledger.EndsIn block) :
    a.Reports block.height block.hash block.stateRoot := by
  rw [h.height_eq, h.hash_eq, h.stateRoot_eq]
  exact a.reports

/-! ### Steps -/

/-- A step that seals a block answers its height and its state root. -/
theorem Effect.endsIn_of_commits (h : Effect a request answer a')
    (sealing : commits ⟨a, request, answer⟩ = true) :
    ∃ block, a'.ledger.EndsIn block ∧ answer = .ok (.commit block.height block.stateRoot) := by
  cases h with
  | @refused request => cases request <;> cases sealing
  | @commit b block ledger _ seals =>
    obtain ⟨-, block_eq, rfl⟩ := Ledger.eq_of_sealBlock_ok seals
    exact ⟨block, Ledger.endsIn_of_nextBlock block_eq, rfl⟩
  | _ => cases sealing

/-- A step that neither accepts a transaction nor sets balances nor seals a block leaves the ledger
as it is. -/
theorem Effect.ledger_eq (h : Effect a request answer a')
    (rejecting : accepts ⟨a, request, answer⟩ = false)
    (unseeding : seeds ⟨a, request, answer⟩ = false)
    (unsealing : commits ⟨a, request, answer⟩ = false) : a'.ledger = a.ledger := by
  cases h with
  | initChain => cases unseeding
  | accept => simp [accepts, Response.accepts] at rejecting
  | commit => cases unsealing
  | _ => rfl

/-- After a step that changes no accounts the last block says how the ledger is, if it did before;
it is the block that it was, unless the step has sealed one. -/
theorem Effect.endsIn (h : Effect a request answer a') (ends : a.ledger.EndsIn block)
    (rejecting : accepts ⟨a, request, answer⟩ = false)
    (unseeding : seeds ⟨a, request, answer⟩ = false) :
    ∃ block', a'.ledger.EndsIn block' ∧
      (commits ⟨a, request, answer⟩ = false → block' = block) := by
  cases hsealing : commits ⟨a, request, answer⟩ with
  | true =>
    obtain ⟨block', hends, -⟩ := h.endsIn_of_commits hsealing
    exact ⟨block', hends, nofun⟩
  | false =>
    rw [h.ledger_eq rejecting unseeding hsealing]
    exact ⟨block, ends, fun _ => rfl⟩

/-- A step that leaves no block open, and has not sealed one, finds none open and accepts
nothing. -/
theorem Effect.closed (h : Effect a request answer a') (closed : a'.openBlock = none)
    (unsealing : commits ⟨a, request, answer⟩ = false) :
    a.openBlock = none ∧ accepts ⟨a, request, answer⟩ = false := by
  cases h with
  | @refused request => exact ⟨closed, by cases request <;> rfl⟩
  | beginBlock => cases closed
  | accept opened => cases closed.symm.trans opened
  | reject opened => cases closed.symm.trans opened
  | undecodable opened => cases closed.symm.trans opened
  | endBlock => cases closed
  | commit => cases unsealing
  | info => exact ⟨closed, rfl⟩
  | query => exact ⟨closed, rfl⟩
  | initChain => exact ⟨closed, rfl⟩

/-! ### Runs -/

/-- A run in which no accounts change leaves the last block right; it is the one before the run,
unless the run has sealed another one. -/
theorem exists_endsIn_after (ends : a.ledger.EndsIn block) (requests : List Request)
    (still : ∀ step ∈ Machine.steps handle a requests,
      accepts step = false ∧ seeds step = false) :
    ∃ block', (Machine.after handle a requests).ledger.EndsIn block' ∧
      ((∀ step ∈ Machine.steps handle a requests, commits step = false) → block' = block) := by
  refine obeys_effect.steps_induction
    (P := fun past a' => (∀ step ∈ past, accepts step = false ∧ seeds step = false) →
      ∃ block', a'.ledger.EndsIn block' ∧
        ((∀ step ∈ past, commits step = false) → block' = block))
    ?_ (fun _ => ⟨block, ends, fun _ => rfl⟩) requests still
  intro past a₁ request answer a₂ heffect ih hstill
  rw [List.forall_mem_append, List.forall_mem_singleton] at hstill
  obtain ⟨block₁, hends₁, heq₁⟩ := ih hstill.1
  obtain ⟨block₂, hends₂, heq₂⟩ := heffect.endsIn hends₁ hstill.2.1 hstill.2.2
  refine ⟨block₂, hends₂, fun hsealing => ?_⟩
  rw [List.forall_mem_append, List.forall_mem_singleton] at hsealing
  exact (heq₂ hsealing.2).trans (heq₁ hsealing.1)

/-- A run that ends between blocks, and has sealed none, has accepted nothing: a block in which
something is accepted stays open until it is sealed. -/
theorem not_accepts_of_closed (a : Application) (requests : List Request)
    (unsealing : ∀ step ∈ Machine.steps handle a requests, commits step = false)
    (closed : (Machine.after handle a requests).openBlock = none) :
    ∀ step ∈ Machine.steps handle a requests, accepts step = false := by
  refine obeys_effect.steps_induction
    (P := fun past a' => (∀ step ∈ past, commits step = false) → a'.openBlock = none →
      ∀ step ∈ past, accepts step = false)
    ?_ (fun _ _ => List.forall_mem_nil _) requests unsealing closed
  intro past a₁ request answer a₂ heffect ih hsealing hclosed
  rw [List.forall_mem_append, List.forall_mem_singleton] at hsealing ⊢
  obtain ⟨hclosed₁, haccepts⟩ := heffect.closed hclosed hsealing.2
  exact ⟨ih hsealing.1 hclosed₁, haccepts⟩

/-- **What is reported is what has been sealed.** Take any run of requests on a fresh application
and any commit in it that went through. If no transaction has been accepted and no balances have
been set since, then questions about the ledger are answered the height, the hash and the state root
of the last block; and if it is the last commit, it has answered this height and this state root.
If it is the last commit, no block is open and no balances have been set since, then no transaction
has been accepted since either. -/
theorem reported_state_is_sealed (policy : Policy) (requests : List Request)
    {past since : List RequestStep} {sealing : RequestStep}
    (steps_eq : Machine.steps handle (ofLedger (.new policy)) requests = past ++ sealing :: since)
    (commits_eq : commits sealing = true) :
    let a := Machine.after handle (ofLedger (.new policy)) requests
    let isLast := ∀ step ∈ since, commits step = false
    ((∀ step ∈ since, accepts step = false ∧ seeds step = false) →
      ∃ block, a.ledger.chain.getLast? = some block ∧
        a.Reports block.height block.hash block.stateRoot ∧
        (isLast → sealing.answer = .ok (.commit block.height block.stateRoot))) ∧
    (isLast → a.openBlock = none → (∀ step ∈ since, seeds step = false) →
      ∀ step ∈ since, accepts step = false ∧ seeds step = false) := by
  intro a isLast
  obtain ⟨before, request, rest, hrequests, rfl, rfl⟩ := Machine.exists_of_steps_eq handle steps_eq
  have hafter : a =
      Machine.after handle (handle (Machine.after handle (ofLedger (.new policy)) before) request).1
        rest := by
    show Machine.after handle _ requests = _
    rw [hrequests, Machine.after_append, Machine.after_cons]
  rw [hafter]
  refine ⟨fun hstill => ?_, fun hlast hclosed hseeds step hstep => ?_⟩
  · obtain ⟨sealed, hsealed, hanswer⟩ := (obeys_effect _ request).endsIn_of_commits commits_eq
    obtain ⟨block, hends, heq⟩ := exists_endsIn_after hsealed rest hstill
    refine ⟨block, hends.last_eq, reports_of_endsIn hends, fun hlast => ?_⟩
    rw [heq hlast]
    exact hanswer
  · exact ⟨not_accepts_of_closed _ rest hlast hclosed step hstep, hseeds step hstep⟩

/-- After the first block has been sealed, everything is refused: a commit, a transaction, balances
and an opening at the wrong height. The block is still what is reported. -/
theorem reported_state_is_sealed_refusedSince :
    let written (tx : Transaction) : Bytes := (tx.encode.toOption).getD []
    let before : List Request := [.initChain ["v1"] [⟨"alice", 1000⟩], .beginBlock 1 "v1",
      .deliverTx (written (payment 100 0)), .endBlock 1]
    let later : List Request := [.commit, .deliverTx (written (payment 7 1)),
      .initChain [""] [⟨"alice", 5⟩], .query "/height" [], .beginBlock 1 "v2"]
    let b := Machine.after handle (ofLedger (.new default)) before
    let a := Machine.after handle (ofLedger (.new default)) (before ++ .commit :: later)
    ∃ block, a.ledger.chain.getLast? = some block ∧
      a.Reports block.height block.hash block.stateRoot ∧
      (b.handle .commit).2 = .ok (.commit block.height block.stateRoot) := by
  intro written before later b a
  have hsteps : Machine.steps handle (ofLedger (.new default)) (before ++ .commit :: later) =
      Machine.steps handle (ofLedger (.new default)) before ++
        Machine.step handle b .commit :: Machine.steps handle (b.handle .commit).1 later :=
    Machine.steps_append handle _ before (.commit :: later)
  obtain ⟨hreports, hclosed⟩ := reported_state_is_sealed default _ hsteps (by decide +kernel)
  have hlast : ∀ step ∈ Machine.steps handle (b.handle .commit).1 later, commits step = false := by
    decide +kernel
  have hstill := hclosed hlast (by decide +kernel) (by decide +kernel)
  obtain ⟨block, hblock, hreported, hanswer⟩ := hreports hstill
  exact ⟨block, hblock, hreported, hanswer hlast⟩

end Application

end HostedLedger

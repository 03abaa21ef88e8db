import HostedLedger.Application.Lawful
import HostedLedger.Proofs.Application.Lifecycle
import HostedLedger.Proofs.Ledger.Acceptance

/-!
# Progress

A host that does nothing but make requests can always have one more block sealed, unless it has
ended an empty block where empty blocks are not allowed: such a block takes no transactions any
more, cannot be sealed and is never given up. The one other limit is that of the written form: a
length takes four bytes, so a block whose pool or whose proposer is too long for them has no hash.

## Main definitions

* `Application.Stuck`: an empty block has ended and must not be sealed
* `Application.Fits`: the lengths of the open block can be written
* `Application.Grows`: requests can have one more block sealed
* `Application.Hosted`: what requests keep true of an application

## Main results

* `Application.Hosted.grows`: a host that is not stuck can have one more block sealed
* `Application.Stuck.exists_accounts`: a host that is stuck changes nothing but accounts
* `Application.chain_after_of_not_fits`: a block whose lengths cannot be written is never sealed
* `Application.progress_iff_not_stuck`: when the chain of a host can grow
-/

namespace HostedLedger

namespace Application

/-- The open block has ended without a transaction, and empty blocks are not allowed. -/
structure Stuck (a : Application) : Prop where
  ended : ∃ b, a.openBlock = some b ∧ b.ended = true
  pending_eq : a.ledger.pending = []
  forbidden : a.ledger.policy.allowEmptyBlocks = false

/-- The lengths that the open block is hashed with can be written: that of its proposer and the
number of its transactions. -/
def Fits (a : Application) : Prop :=
  ∀ b, a.openBlock = some b →
    (Utf8.encode b.proposer).length < UInt32.size ∧ a.ledger.pending.length < UInt32.size

/-- Requests can have one more block sealed. -/
def Grows (a : Application) : Prop :=
  ∃ more block, (Machine.after handle a more).ledger.chain = a.ledger.chain ++ [block]

variable {a a' : Application} {b : OpenBlock}

theorem fits_of_open (opened : a.openBlock = some b)
    (proposer_lt : (Utf8.encode b.proposer).length < UInt32.size)
    (pending_lt : a.ledger.pending.length < UInt32.size) : a.Fits := by
  intro b' opened'
  obtain rfl := Option.some.inj (opened.symm.trans opened')
  exact ⟨proposer_lt, pending_lt⟩

/-! ### Hosts that are stuck -/

theorem not_stuck_of_running (opened : a.openBlock = some b) (running : b.ended = false) :
    ¬ a.Stuck := by
  rintro ⟨⟨b', opened', hended⟩, -, -⟩
  obtain rfl := Option.some.inj (opened.symm.trans opened')
  simp [running] at hended

theorem Stuck.with_accounts (stuck : a.Stuck) (accounts : Accounts) :
    Stuck { a with ledger := { a.ledger with accounts } } :=
  ⟨stuck.ended, stuck.pending_eq, stuck.forbidden⟩

/-- A host that is stuck changes nothing but accounts. -/
theorem Stuck.exists_accounts (stuck : a.Stuck) (change : Change a a') :
    ∃ accounts, a' = { a with ledger := { a.ledger with accounts } } := by
  obtain ⟨b, hopened, hended⟩ := stuck.ended
  cases change with
  | accounts accounts => exact ⟨accounts, rfl⟩
  | opened closed => simp [hopened] at closed
  | accepted opened running =>
    obtain rfl := Option.some.inj (hopened.symm.trans opened)
    simp [hended] at running
  | ended opened running =>
    obtain rfl := Option.some.inj (hopened.symm.trans opened)
    simp [hended] at running
  | committed _ allowed =>
    have hallowed := allowed stuck.pending_eq
    simp [stuck.forbidden] at hallowed

theorem Stuck.exists_accounts_after (stuck : a.Stuck) (more : List Request) :
    ∃ accounts, Machine.after handle a more = { a with ledger := { a.ledger with accounts } } := by
  refine obeys_change.after_induction
    (P := fun a' => ∃ accounts, a' = { a with ledger := { a.ledger with accounts } })
    ?_ ⟨a.ledger.accounts, rfl⟩ more
  rintro _ _ _ a' change ⟨accounts, rfl⟩
  obtain ⟨accounts', rfl⟩ := (stuck.with_accounts accounts).exists_accounts change
  exact ⟨accounts', rfl⟩

/-- A host that is stuck is refused every commit, for want of a transaction. -/
theorem Stuck.commit_eq (stuck : a.Stuck)
    (proposer_ne : ∀ b, a.openBlock = some b → b.proposer ≠ "") :
    a.commit = (a, .error .emptyBlock) := by
  obtain ⟨b, hopened, -⟩ := stuck.ended
  rw [commit, hopened]
  simp only [Ledger.sealBlock_of_forbidden (proposer_ne b hopened) stuck.pending_eq
    stuck.forbidden, ← hopened]

/-! ### Blocks without a written form -/

/-- A block that is too large to be written stays open, stays too large and is never sealed. -/
theorem chain_eq_of_not_fits (change : Change a a') (large : ¬ a.Fits) :
    ¬ a'.Fits ∧ a'.ledger.chain = a.ledger.chain := by
  cases change with
  | accounts => exact ⟨large, rfl⟩
  | opened closed => exact absurd (by simp [Fits, closed]) large
  | accepted =>
    refine ⟨fun fits => large fun b hb => ?_, rfl⟩
    obtain ⟨hproposer, hpending⟩ := fits b hb
    rw [List.length_append] at hpending
    exact ⟨hproposer, by omega⟩
  | @ended b opened =>
    refine ⟨fun fits => large ?_, rfl⟩
    obtain ⟨hproposer, hpending⟩ := fits { b with ended := true } rfl
    exact fits_of_open opened hproposer hpending
  | committed opened _ block_eq =>
    obtain ⟨-, hproposer, hpending⟩ := Ledger.exists_nextBlock_iff.mp ⟨_, block_eq⟩
    exact absurd (fits_of_open opened (Format.writes_text_iff.mp hproposer) hpending) large

theorem chain_after_of_not_fits (large : ¬ a.Fits) (more : List Request) :
    (Machine.after handle a more).ledger.chain = a.ledger.chain := by
  refine (obeys_change.after_induction
    (P := fun a' => ¬ a'.Fits ∧ a'.ledger.chain = a.ledger.chain) ?_ ⟨large, rfl⟩ more).2
  rintro a₁ _ _ a₂ change ⟨hlarge, hchain⟩
  obtain ⟨hlarge', hchain'⟩ := chain_eq_of_not_fits change hlarge
  exact ⟨hlarge', hchain'.trans hchain⟩

/-! ### What requests keep -/

/-- What requests keep true of an application, as far as progress depends on it. -/
structure Hosted (a : Application) : Prop where
  proposer_ne : ∀ b, a.openBlock = some b → b.proposer ≠ ""
  /-- What waits has been read, so it can be written. -/
  writes : ∀ tx ∈ a.ledger.pending, Transaction.format.Writes tx
  pending_eq_nil : a.openBlock = none → a.ledger.pending = []
  nonce_le : ∀ address, (a.ledger.nonce address).toNat ≤ a.ledger.history.length

theorem Told.proposer_ne_of_open {courses : List Course} {current : Option Course}
    (h : Told courses current a) (opened : a.openBlock = some b) : b.proposer ≠ "" := by
  obtain ⟨c, rfl, rfl⟩ := h.exists_current opened
  exact h.proposer_ne c rfl

theorem Told.writes_of_mem_pending {courses : List Course} {current : Option Course}
    (h : Told courses current a) {tx : Transaction} (htx : tx ∈ a.ledger.pending) :
    Transaction.format.Writes tx := by
  have hmem : .ok tx ∈ (current.elim [] Course.accepted).map Transaction.decode := by
    rw [h.pending_eq]
    exact List.mem_map_of_mem htx
  obtain ⟨raw, -, hraw⟩ := List.mem_map.mp hmem
  exact ⟨raw, Transaction.lawful_format.decode_eq_ok_iff.mp hraw⟩

theorem hosted_after (policy : Policy) (requests : List Request) :
    Hosted (Machine.after handle (ofLedger (.new policy)) requests) := by
  obtain ⟨courses, current, htold, -⟩ := told_after policy requests
  obtain ⟨calls, hcalls⟩ := exists_calls_after (ofLedger (.new policy)) requests
  exact {
    proposer_ne _ opened := htold.proposer_ne_of_open opened
    writes _ htx := htold.writes_of_mem_pending htx
    pending_eq_nil := htold.pending_eq_nil
    nonce_le address := by
      rw [hcalls]
      exact (Ledger.recorded_after policy calls).nonce_le address }

/-! ### Hosts that are not stuck -/

/-- Requests that keep the chain may come first. -/
theorem Grows.of_after {more : List Request} (h : Grows (Machine.after handle a more))
    (chain_eq : (Machine.after handle a more).ledger.chain = a.ledger.chain) : a.Grows := by
  obtain ⟨rest, block, hgrows⟩ := h
  rw [← Machine.after_append, chain_eq] at hgrows
  exact ⟨more ++ rest, block, hgrows⟩

/-- A block with a transaction, or one that may be empty, can be sealed. -/
theorem grows_of_allowed (opened : a.openBlock = some b) (proposer_ne : b.proposer ≠ "")
    (allowed : a.ledger.pending = [] → a.ledger.policy.allowEmptyBlocks = true)
    (writes : ∀ tx ∈ a.ledger.pending, Transaction.format.Writes tx) (fits : a.Fits) :
    a.Grows := by
  obtain ⟨hproposer, hpending⟩ := fits b opened
  obtain ⟨block, hseal⟩ := Ledger.exists_sealBlock proposer_ne allowed
    (Ledger.exists_nextBlock_iff.mpr ⟨writes, Format.writes_text_iff.mpr hproposer, hpending⟩)
  refine ⟨[.commit], block, ?_⟩
  rw [Machine.after_cons, handle, commit, opened]
  simp only [hseal]
  rfl

/-- The payment of one by an address to itself, without a fee. -/
def selfPayment (address : String) (nonce : UInt64) : Transaction :=
  ⟨address, address, 1, 0, 0, nonce, []⟩

/-- While a block has not ended, an account can be given one to pay to itself. -/
theorem exists_accepted (opened : a.openBlock = some b) (running : b.ended = false)
    (nonce_lt : (a.ledger.nonce "a").toNat + 1 < UInt64.size) :
    ∃ more accounts tx, Transaction.format.Writes tx ∧ Machine.after handle a more =
      { a with ledger := { a.ledger with accounts, pending := a.ledger.pending ++ [tx] } } := by
  -- Setting a balance keeps the nonce, so the payment has to carry the one that is there by now.
  let account : Account := ⟨1, a.ledger.nonce "a"⟩
  let funded : Ledger := { a.ledger with accounts := a.ledger.accounts.insert "a" account }
  let tx := selfPayment "a" account.nonce
  have hfund : a.initChain [] [⟨"a", 1⟩] = ({ a with ledger := funded }, .ok .initChain) := rfl
  have haccount : funded.account? tx.sender = some account := by
    rw [Ledger.account?, SortedMap.get?_insert]
    exact if_pos rfl
  obtain ⟨accounts, happly⟩ : ∃ accounts, funded.apply tx =
      ({ funded with accounts, pending := funded.pending ++ [tx] }, .ok ()) :=
    Ledger.exists_apply_self (by decide : "a" ≠ "") rfl (by decide : (1 : UInt64) ≠ 0) haccount rfl
      nonce_lt (by decide : (1 : UInt64).toNat + (0 : UInt64).toNat ≤ (1 : UInt64).toNat)
  obtain ⟨raw, hraw⟩ : Transaction.format.Writes tx :=
    Transaction.writes_iff.mpr ⟨⟨_, rfl⟩, ⟨_, rfl⟩, ⟨_, rfl⟩⟩
  have hdecode : Transaction.decode raw = .ok tx :=
    Transaction.lawful_format.decode_eq_ok_iff.mpr hraw
  refine ⟨[.initChain [] [⟨"a", 1⟩], .deliverTx raw], accounts, tx, ⟨raw, hraw⟩, ?_⟩
  rw [Machine.after_cons, Machine.after_cons, handle, hfund, handle, deliverTx]
  simp [opened, running, hdecode, happly, funded]

/-- A block that has not ended can be given a transaction and sealed. -/
theorem grows_of_running (opened : a.openBlock = some b) (running : b.ended = false)
    (proposer_ne : b.proposer ≠ "") (proposer_lt : (Utf8.encode b.proposer).length < UInt32.size)
    (pending_eq : a.ledger.pending = [])
    (nonce_lt : (a.ledger.nonce "a").toNat + 1 < UInt64.size) : a.Grows := by
  obtain ⟨more, accounts, tx, hwrites, hafter⟩ := exists_accepted opened running nonce_lt
  refine Grows.of_after ?_ (congrArg (·.ledger.chain) hafter)
  rw [hafter, pending_eq]
  refine grows_of_allowed opened proposer_ne (by simp) ?_
    (fits_of_open opened proposer_lt (by decide : 1 < UInt32.size))
  intro tx' htx'
  rwa [List.mem_singleton.mp htx']

/-- The next block can be opened, and then given a transaction and sealed. -/
theorem grows_of_closed (closed : a.openBlock = none) (pending_eq : a.ledger.pending = [])
    (nonce_lt : (a.ledger.nonce "a").toNat + 1 < UInt64.size) : a.Grows := by
  have hopen : Machine.after handle a [.beginBlock (a.ledger.height + 1) "v"] =
      { a with openBlock := some ⟨a.ledger.height + 1, "v", false⟩ } := by
    rw [Machine.after_cons, handle, beginBlock_of_closed closed (by decide)]
    rfl
  refine Grows.of_after ?_ (congrArg (·.ledger.chain) hopen)
  rw [hopen]
  exact grows_of_running rfl rfl (by decide : "v" ≠ "")
    (by decide : (Utf8.encode "v").length < UInt32.size) pending_eq nonce_lt

/-- A host that is not stuck can have one more block sealed. -/
theorem Hosted.grows (h : a.Hosted) (fits : a.Fits) (free : ¬ a.Stuck)
    (transactions : a.ledger.history.length < UInt64.size - 1) : a.Grows := by
  have hnonce : (a.ledger.nonce "a").toNat + 1 < UInt64.size := by
    have hle := h.nonce_le "a"
    omega
  cases hopened : a.openBlock with
  | none => exact grows_of_closed hopened (h.pending_eq_nil hopened) hnonce
  | some b =>
    have hproposer := h.proposer_ne b hopened
    by_cases hallowed : a.ledger.pending = [] → a.ledger.policy.allowEmptyBlocks = true
    · exact grows_of_allowed hopened hproposer hallowed h.writes fits
    · obtain ⟨hpending, hforbidden⟩ := Classical.not_imp.mp hallowed
      have hrunning : b.ended = false := by
        by_contra hended
        exact free ⟨⟨b, hopened, by simpa using hended⟩, hpending, by simpa using hforbidden⟩
      exact grows_of_running hopened hrunning hproposer (fits b hopened).1 hpending hnonce

/-- A chain that grows by a block makes the height grow, unless it is the last height. -/
theorem Grows.exists_height_lt (h : a.Grows) (blocks : a.ledger.chain.length < UInt64.size - 1) :
    ∃ more, a.ledger.height < (Machine.after handle a more).ledger.height := by
  obtain ⟨more, block, hchain⟩ := h
  have hlength := congrArg List.length hchain
  rw [List.length_append, List.length_singleton] at hlength
  refine ⟨more, ?_⟩
  rw [UInt64.lt_iff_toNat_lt, Ledger.toNat_height (by omega), Ledger.toNat_height (by omega)]
  omega

/-- **Progress.** Take any application that requests lead to, with blocks and accepted transactions
that a word can still count. There are requests that make its height grow, if and only if it is not
the case that its open block has ended without a transaction where empty blocks are not allowed.
This is said of open blocks that have a written form; one whose proposer or whose pool is too long
for the four bytes of a length has none and is never sealed. A host that is stuck stays so: whatever
it asks, block, pool and chain are what they were, and every commit is refused. -/
theorem progress_iff_not_stuck {policy : Policy} {requests : List Request} {a : Application}
    (reached : Machine.after handle (ofLedger (.new policy)) requests = a)
    (blocks : a.ledger.chain.length < UInt64.size - 1)
    (transactions : a.ledger.history.length < UInt64.size - 1) :
    (a.Fits →
      ((∃ more, a.ledger.height < (Machine.after handle a more).ledger.height) ↔ ¬ a.Stuck)) ∧
    (¬ a.Fits → ∀ more, (Machine.after handle a more).ledger.chain = a.ledger.chain) ∧
    (a.Stuck → ∀ more,
      let a' := Machine.after handle a more
      a'.openBlock = a.openBlock ∧ a'.ledger.pending = a.ledger.pending ∧
      a'.ledger.chain = a.ledger.chain ∧
      ∀ step ∈ Machine.steps handle a more, step.input = .commit →
        ∃ e, step.answer = .error e ∧ e.kind = .blockchain) := by
  have hosted : a.Hosted := reached ▸ hosted_after policy requests
  refine ⟨fun fits => ⟨?_, fun free => ?_⟩, chain_after_of_not_fits, fun stuck more => ?_⟩
  · rintro ⟨more, hlt⟩ stuck
    obtain ⟨accounts, hafter⟩ := stuck.exists_accounts_after more
    rw [hafter] at hlt
    exact Nat.lt_irrefl _ (UInt64.lt_iff_toNat_lt.mp hlt)
  · exact (hosted.grows fits free transactions).exists_height_lt blocks
  · obtain ⟨accounts, hafter⟩ := stuck.exists_accounts_after more
    refine ⟨?_, ?_, ?_, fun step hstep hcommit => ?_⟩
    · rw [hafter]
    · rw [hafter]
    · rw [hafter]
    obtain ⟨before, hmade⟩ := Machine.exists_of_mem_steps handle hstep
    obtain ⟨accounts, hbefore⟩ := stuck.exists_accounts_after before
    have hrefused := (stuck.with_accounts accounts).commit_eq hosted.proposer_ne
    refine ⟨.emptyBlock, ?_, rfl⟩
    rw [hmade, Machine.step, hcommit, hbefore, handle, hrefused]

/-- The next block may be opened for a proposer whose length cannot be written. The host is not
stuck then, and yet no requests make its height grow. -/
theorem not_progress_of_overlong (closed : a.openBlock = none) {height : UInt64}
    (next : height = a.ledger.height + 1) {proposer : String}
    (overlong : UInt32.size ≤ (Utf8.encode proposer).length) :
    let a' := Machine.after handle a [.beginBlock height proposer]
    a'.ledger = a.ledger ∧
      ¬((∃ more, a'.ledger.height < (Machine.after handle a' more).ledger.height) ↔
        ¬ a'.Stuck) := by
  intro a'
  have proposer_ne : proposer ≠ "" := by
    rintro rfl
    exact absurd overlong (by decide +kernel)
  have ha' : a' = { a with openBlock := some ⟨height, proposer, false⟩ } := by
    subst next
    exact congrArg Prod.fst (beginBlock_of_closed closed proposer_ne)
  have hopened : a'.openBlock = some ⟨height, proposer, false⟩ := congrArg openBlock ha'
  clear_value a'
  have large : ¬ a'.Fits := fun fits => absurd overlong (Nat.not_le.mpr (fits _ hopened).1)
  refine ⟨by rw [ha'], fun hiff => ?_⟩
  obtain ⟨more, hgrows⟩ := hiff.mpr (not_stuck_of_running hopened rfl)
  rw [Ledger.height, Ledger.height, chain_after_of_not_fits large] at hgrows
  exact UInt64.lt_irrefl _ hgrows

/-- That the lengths fit cannot be left out: a proposer may have a name of `2 ^ 32` letters. -/
theorem progress_iff_not_stuck_overlongProposer :
    let proposer := String.ofList (List.replicate UInt32.size 'p')
    let a := Machine.after handle (ofLedger (.new default)) [.beginBlock 1 proposer]
    a.ledger.chain.length < UInt64.size - 1 ∧ a.ledger.history.length < UInt64.size - 1 ∧
      ¬((∃ more, a.ledger.height < (Machine.after handle a more).ledger.height) ↔ ¬ a.Stuck) := by
  have hlength := Utf8.length_le_length_encode (List.replicate UInt32.size 'p')
  rw [List.length_replicate] at hlength
  obtain ⟨hledger, hstays⟩ := not_progress_of_overlong (a := ofLedger (.new default)) rfl
    (by decide : 1 = (ofLedger (.new default)).ledger.height + 1) hlength
  refine ⟨?_, ?_, hstays⟩
  · rw [hledger]
    decide
  · rw [hledger]
    decide

/-- A run to try the law on: one block is sealed, and another one is opened and has no transaction
when its sealing is refused. -/
def emptyHandedRequests : List Request :=
  let written (tx : Transaction) : Bytes := (tx.encode.toOption).getD []
  [.initChain [] [⟨"alice", 1000⟩], .beginBlock 1 "v1", .deliverTx (written (payment 100 0)),
   .commit, .beginBlock 2 "v2", .deliverTx (written (payment 100 0)), .commit]

/-- As long as block 2 has not ended, requests can make the height grow. Once it has, none can, and
a commit is refused. -/
theorem progress_iff_not_stuck_emptyHandedRequests :
    let a := Machine.after handle (ofLedger (.new default)) emptyHandedRequests
    let ended :=
      Machine.after handle (ofLedger (.new default)) (emptyHandedRequests ++ [.endBlock 2])
    (a.ledger.chain.length < UInt64.size - 1 ∧ a.ledger.history.length < UInt64.size - 1 ∧ a.Fits ∧
      ∃ more, a.ledger.height < (Machine.after handle a more).ledger.height) ∧
    (ended.ledger.chain.length < UInt64.size - 1 ∧
      ended.ledger.history.length < UInt64.size - 1 ∧ ended.Stuck ∧
      (¬ ∃ more, ended.ledger.height < (Machine.after handle ended more).ledger.height) ∧
      ∃ e, (ended.handle .commit).2 = .error e ∧ e.kind = .blockchain) := by
  intro a ended
  have hopened : a.openBlock = some ⟨2, "v2", false⟩ := by decide +kernel
  have hpending : a.ledger.pending = [] := by decide +kernel
  have hlengths : a.ledger.chain.length = 1 ∧ a.ledger.history.length = 1 := by decide +kernel
  have hended : ended.openBlock = some ⟨2, "v2", true⟩ := by decide +kernel
  have hleft : ended.ledger.pending = [] := by decide +kernel
  have hforbidden : ended.ledger.policy.allowEmptyBlocks = false := by decide +kernel
  have hlengths' : ended.ledger.chain.length = 1 ∧ ended.ledger.history.length = 1 := by
    decide +kernel
  have hreached : Machine.after handle (ofLedger (.new default)) emptyHandedRequests = a := rfl
  have hreached' : Machine.after handle (ofLedger (.new default))
    (emptyHandedRequests ++ [.endBlock 2]) = ended := rfl
  clear_value a ended
  have hone : 1 < UInt64.size - 1 := by decide
  have fits : a.Fits := fits_of_open hopened (by decide) (by rw [hpending]; decide)
  have fits' : ended.Fits := fits_of_open hended (by decide) (by rw [hleft]; decide)
  have free : ¬ a.Stuck := not_stuck_of_running hopened rfl
  have stuck : ended.Stuck := ⟨⟨_, hended, rfl⟩, hleft, hforbidden⟩
  obtain ⟨hgrows, -⟩ :=
    progress_iff_not_stuck hreached (hlengths.1 ▸ hone) (hlengths.2 ▸ hone)
  obtain ⟨hgrows', -, hstuck⟩ :=
    progress_iff_not_stuck hreached' (hlengths'.1 ▸ hone) (hlengths'.2 ▸ hone)
  refine ⟨⟨hlengths.1 ▸ hone, hlengths.2 ▸ hone, fits, (hgrows fits).mpr free⟩,
    hlengths'.1 ▸ hone, hlengths'.2 ▸ hone, stuck, fun h => (hgrows' fits').mp h stuck, ?_⟩
  obtain ⟨-, -, -, hcommit⟩ := hstuck stuck [.commit]
  exact hcommit (Machine.step handle ended .commit) (List.mem_singleton_self _) rfl

end Application

end HostedLedger

import HostedLedger.Proofs.Ledger.Call

/-!
# Replaying a chain

The blocks and the pool of a ledger say by which calls they came about: every block by its
transactions and then by its sealing, the pool by its transactions. Making these calls again, on
the accounts that the ledger was seeded with, leads to the same ledger, and none of them is refused.

## Main definitions

* `Block.calls`: the calls that a block came about by
* `Ledger.recordedCalls`: the calls that the blocks and the pool of a ledger came about by
* `Ledger.refused`: the steps that are refused

## Main results

* `Ledger.recordedCalls_after`: a run adds the calls that go through to the recorded calls
* `Ledger.chain_replays`: the recorded calls lead to the same ledger
-/

namespace HostedLedger

/-- The calls that a block came about by: those of its transactions, and then its sealing. -/
def Block.calls (b : Block) : List Ledger.Call :=
  b.transactions.map .apply ++ [.sealBlock b.proposer]

namespace Ledger

variable {l l' : Ledger} {call : Call} {answer : Answer}

/-- The calls that the blocks of a ledger came about by, and then those of its pool. -/
def recordedCalls (l : Ledger) : List Call :=
  l.chain.flatMap Block.calls ++ l.pending.map .apply

/-- Whether a step is refused. -/
def refused (step : Step Ledger Call Answer) : Bool :=
  match step.answer with
  | .error _ => true
  | .ok _ => false

theorem eq_of_refused (h : Effect l call answer l') (idle : refused ⟨l, call, answer⟩ = true) :
    l' = l := by
  cases answer with
  | error e => exact h.eq_of_error
  | ok block => cases idle

/-- The call of a step, if it goes through and is one that the chain or the pool tells of. -/
def recorded : Step Ledger Call Answer → List Call
  | ⟨_, .apply tx, .ok _⟩ => [.apply tx]
  | ⟨_, .sealBlock proposer, .ok _⟩ => [.sealBlock proposer]
  | _ => []

theorem recordedCalls_of_effect (h : Effect l call answer l') :
    l'.recordedCalls = l.recordedCalls ++ recorded ⟨l, call, answer⟩ := by
  cases h with
  | @refused call e => cases call <;> exact (List.append_nil _).symm
  | initAccount => exact (List.append_nil _).symm
  | apply => simp [recordedCalls, recorded]
  | sealBlock _ _ block_eq =>
    obtain ⟨_, _, -, -, rfl⟩ := nextBlock_eq_ok_iff.mp block_eq
    simp [recordedCalls, recorded, Block.calls]

/-- A run adds the calls that go through, in their order. -/
theorem recordedCalls_after (l : Ledger) (calls : List Call) :
    (perform.after l calls).recordedCalls =
      l.recordedCalls ++ (perform.steps l calls).flatMap recorded :=
  obeys_effect.after_eq_append (f := recordedCalls) recordedCalls_of_effect l calls

/-- Seeding is not told of by the chain and the pool. -/
theorem recordedCalls_seeded (policy : Policy) (accounts : List GenesisAccount) :
    (perform.after (new policy) (seedCalls accounts)).recordedCalls = [] := by
  obtain ⟨seeded, h⟩ := exists_after_seedCalls (new policy) accounts
  rw [h]
  rfl

/-- Among steps that set no balance, the recorded calls are those that are not refused. -/
theorem flatMap_recorded {steps : List (Step Ledger Call Answer)}
    (h : ∀ step ∈ steps, ∀ address balance, step.input ≠ .initAccount address balance) :
    steps.flatMap recorded = (steps.filter (!refused ·)).map (·.input) := by
  induction steps with
  | nil => rfl
  | cons step steps ih =>
    obtain ⟨hstep, hsteps⟩ := List.forall_mem_cons.mp h
    rw [List.flatMap_cons, ih hsteps, List.filter_cons]
    obtain ⟨before, call, answer⟩ := step
    cases answer with
    | error e => cases call <;> rfl
    | ok block =>
      cases call with
      | initAccount address balance => exact absurd rfl (hstep address balance)
      | apply tx => rfl
      | sealBlock proposer => rfl

/-- **The chain replays.** Seed a ledger and let it go through any transactions and sealings, of
which some may be refused. Seed another one alike, and make the calls that the blocks and the pool
of the first one tell of: none is refused, and they lead to the same ledger. -/
theorem chain_replays (policy : Policy) (accounts : List GenesisAccount) (calls : List Call)
    (seeds : ∀ step ∈ perform.steps (new policy) (seedCalls accounts), refused step = false)
    (unseeded : ∀ address balance, .initAccount address balance ∉ calls) :
    let l := perform.after (new policy) (seedCalls accounts ++ calls)
    (∀ step ∈ perform.steps (new policy) (seedCalls accounts ++ l.recordedCalls),
      refused step = false) ∧
    perform.after (new policy) (seedCalls accounts ++ l.recordedCalls) = l := by
  intro l
  let start := perform.after (new policy) (seedCalls accounts)
  have hl : l = perform.after start calls := perform.after_append ..
  have hrecorded : l.recordedCalls =
      ((perform.steps start calls).filter (!refused ·)).map (·.input) := by
    rw [hl, recordedCalls_after, recordedCalls_seeded, List.nil_append]
    apply flatMap_recorded
    rintro step hstep address balance hinput
    apply unseeded address balance
    rw [← hinput, ← perform.map_input_steps start calls]
    exact List.mem_map_of_mem hstep
  obtain ⟨hafter, hsteps⟩ := obeys_effect.steps_filter eq_of_refused start calls
  rw [← hrecorded] at hafter hsteps
  constructor
  · intro step hstep
    rw [Machine.steps_append, List.mem_append] at hstep
    rcases hstep with hstep | hstep
    · exact seeds step hstep
    · change step ∈ perform.steps start l.recordedCalls at hstep
      rw [hsteps, List.mem_filter] at hstep
      simpa using hstep.2
  · rw [Machine.after_append]
    exact hafter.trans hl.symm

/-- Five trades of which two are refused, and two sealings of which one is, lead to a block of two
transactions and a waiting one, which are made again by four calls. -/
theorem chain_replays_trades :
    let accounts : List GenesisAccount := [⟨"alice", 1000⟩, ⟨"bob", 5⟩]
    let trades : List Call :=
      [.sealBlock "v1", .apply ⟨"alice", "bob", 100, 1, 0, 0, []⟩,
       .apply ⟨"alice", "bob", 100, 1, 0, 0, []⟩, .apply ⟨"bob", "bob", 7, 2, 0, 0, [1]⟩,
       .sealBlock "v2", .apply ⟨"carol", "bob", 1, 0, 0, 0, []⟩,
       .apply ⟨"alice", "carol", 50, 0, 0, 1, []⟩]
    let l := perform.after (new default) (seedCalls accounts ++ trades)
    (∀ step ∈ perform.steps (new default) (seedCalls accounts), refused step = false) ∧
    (∀ address balance, .initAccount address balance ∉ trades) ∧
    (l.recordedCalls.length = 4 ∧
      ∀ step ∈ perform.steps (new default) (seedCalls accounts ++ l.recordedCalls),
        refused step = false) ∧
    perform.after (new default) (seedCalls accounts ++ l.recordedCalls) = l := by
  intro accounts trades l
  have seeds : ∀ step ∈ perform.steps (new default) (seedCalls accounts), refused step = false := by
    intro step hstep
    simp only [accounts, seedCalls, List.map_cons, List.map_nil, Machine.steps_cons,
      Machine.steps_nil, List.mem_cons, List.not_mem_nil, or_false] at hstep
    rcases hstep with rfl | rfl <;> rfl
  have unseeded : ∀ address balance, Call.initAccount address balance ∉ trades := by
    simp [trades]
  obtain ⟨hanswers, hafter⟩ := chain_replays default accounts trades seeds unseeded
  refine ⟨seeds, unseeded, ⟨?_, hanswers⟩, hafter⟩
  decide +kernel

end Ledger

end HostedLedger

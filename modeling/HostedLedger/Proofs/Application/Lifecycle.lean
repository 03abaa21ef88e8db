import HostedLedger.Proofs.Application.Request
import HostedLedger.Proofs.Ledger.Chain
import Mathlib.Data.List.Forall2

/-!
# The lifecycle of blocks

A host that does nothing but make requests takes one block after the other through the same course:
the block is opened at the next height, transactions are handed over, it may be ended, and it is
sealed. Refused requests may come in between at any place and change nothing. The sealed block
holds the transactions of its own course that have been accepted, and no others.

## Main definitions

* `Application.Mark`, `Application.mark?`: what an answered request tells of the course of a block
* `Application.Course`: what has been done with a block since it was opened
* `Application.Course.marks`, `Application.Course.word`: the course of a block in marks, without
  and with its sealing
* `Application.Course.Makes`: the block that a course leads to
* `Application.Told`: the courses of all blocks agree with an application

## Main results

* `Application.told_after`: the marks of a run are the courses of its blocks, one after the other
* `Application.host_driven_lifecycle`: the lifecycle of the blocks of every host
-/

namespace HostedLedger

/-- Whether a response tells that a transaction is accepted. -/
def Response.accepts : Response → Bool
  | .deliverTx code _ => code = ResponseCode.ok
  | _ => false

namespace Application

/-! ### Marks and courses -/

/-- What an answered request tells of the course of a block. -/
inductive Mark
  | beginBlock (height : UInt64) (proposer : String)
  /-- A transaction is handed over, and accepted or not. -/
  | deliverTx (raw : Bytes) (accepted : Bool)
  | endBlock (height : UInt64)
  | commit

/-- The mark of a step; a refused step has none, and neither has one that concerns no block. -/
def mark? : Step Application Request (Except Error Response) → Option Mark
  | ⟨_, .beginBlock height proposer, .ok _⟩ => some (.beginBlock height proposer)
  | ⟨_, .deliverTx raw, .ok response⟩ => some (.deliverTx raw response.accepts)
  | ⟨_, .endBlock height, .ok _⟩ => some (.endBlock height)
  | ⟨_, .commit, .ok _⟩ => some .commit
  | _ => none

/-- What has been done with a block since it was opened. -/
structure Course where
  height : UInt64
  proposer : String
  /-- What has been handed over, and whether it was accepted. -/
  deliveries : List (Bytes × Bool)
  ended : Bool

namespace Course

/-- The open block that a course stands for. -/
def openBlock (c : Course) : OpenBlock := ⟨c.height, c.proposer, c.ended⟩

/-- The course in marks: opening, transactions, and the end if it has been told. -/
def marks (c : Course) : List Mark :=
  .beginBlock c.height c.proposer :: c.deliveries.map (fun d => .deliverTx d.1 d.2) ++
    if c.ended then [.endBlock c.height] else []

/-- The marks of a course, and then the sealing. -/
def word (c : Course) : List Mark := c.marks ++ [.commit]

/-- What has been handed over and accepted. -/
def accepted (c : Course) : List Bytes := (c.deliveries.filter (·.2)).map (·.1)

/-- A course leads to a block: it is opened with the height and the proposer of the block, and what
is accepted in it are the transactions of the block, each in its written form. -/
structure Makes (c : Course) (b : Block) : Prop where
  height_eq : b.height = c.height
  proposer_eq : b.proposer = c.proposer
  transactions_eq : c.accepted.map Transaction.decode = b.transactions.map .ok

/-- The course after something has been handed over. -/
def deliver (c : Course) (raw : Bytes) (accepted : Bool) : Course :=
  { c with deliveries := c.deliveries ++ [(raw, accepted)] }

theorem marks_deliver {c : Course} (running : c.ended = false) (raw : Bytes) (accepted : Bool) :
    (c.deliver raw accepted).marks = c.marks ++ [.deliverTx raw accepted] := by
  simp [marks, deliver, running]

theorem accepted_deliver (c : Course) (raw : Bytes) (accepted : Bool) :
    (c.deliver raw accepted).accepted = c.accepted ++ if accepted then [raw] else [] := by
  cases accepted <;> simp [Course.accepted, deliver]

end Course

/-- The marks of the courses of sealed blocks, and then those of the course of the open one. -/
def marksOf (courses : List Course) (current : Option Course) : List Mark :=
  courses.flatMap Course.word ++ current.elim [] Course.marks

/-- The courses of the sealed blocks, and that of the open one, agree with an application. -/
structure Told (courses : List Course) (current : Option Course) (a : Application) : Prop where
  heights_eq : courses.map (·.height) = (List.range' 1 courses.length).map UInt64.ofNat
  makes : List.Forall₂ Course.Makes courses a.ledger.chain
  openBlock_eq : a.openBlock = current.map Course.openBlock
  height_eq : ∀ c ∈ current, c.height = UInt64.ofNat (courses.length + 1)
  proposer_ne : ∀ c ∈ current, c.proposer ≠ ""
  /-- What waits is what has been accepted for the open block; nothing waits if there is none. -/
  pending_eq : (current.elim [] Course.accepted).map Transaction.decode = a.ledger.pending.map .ok

namespace Told

variable {a : Application} {courses : List Course} {current : Option Course}

theorem length_eq (h : Told courses current a) : courses.length = a.ledger.chain.length :=
  h.makes.length_eq

/-- The heights of the sealed blocks are the numbers from one on. -/
theorem map_toNat_height (h : Told courses current a)
    (bounded : a.ledger.chain.length < UInt64.size) :
    courses.map (·.height.toNat) = List.range' 1 courses.length := by
  have hmap := congrArg (List.map UInt64.toNat) h.heights_eq
  rw [List.map_map, List.map_map] at hmap
  refine hmap.trans (List.map_congr_left ?_ |>.trans (List.map_id _))
  intro n hn
  have hlt : n < UInt64.size := by
    have := List.mem_range'_1.mp hn
    have := h.length_eq
    omega
  exact UInt64.toNat_ofNat_of_lt' hlt

/-- The course of the open block. -/
theorem exists_current (h : Told courses current a) {b : OpenBlock}
    (opened : a.openBlock = some b) : ∃ c, current = some c ∧ c.openBlock = b := by
  rw [h.openBlock_eq] at opened
  exact Option.map_eq_some_iff.mp opened

theorem current_eq_none (h : Told courses current a) (closed : a.openBlock = none) :
    current = none := by
  rw [h.openBlock_eq] at closed
  exact Option.map_eq_none_iff.mp closed

theorem pending_eq_nil (h : Told courses current a) (closed : a.openBlock = none) :
    a.ledger.pending = [] := by
  have hpending := h.pending_eq
  rw [h.current_eq_none closed] at hpending
  exact List.map_eq_nil_iff.mp hpending.symm

/-- Accounts are no part of the agreement. -/
theorem seed (h : Told courses current a) (accounts : Accounts) :
    Told courses current { a with ledger := { a.ledger with accounts } } :=
  ⟨h.heights_eq, h.makes, h.openBlock_eq, h.height_eq, h.proposer_ne, h.pending_eq⟩

theorem beginBlock (h : Told courses current a) (closed : a.openBlock = none) {proposer : String}
    (proposer_ne : proposer ≠ "") :
    Told courses (some ⟨a.ledger.height + 1, proposer, [], false⟩)
      { a with openBlock := some ⟨a.ledger.height + 1, proposer, false⟩ } where
  heights_eq := h.heights_eq
  makes := h.makes
  openBlock_eq := rfl
  height_eq := by
    rintro c ⟨⟩
    rw [h.length_eq]
    exact a.ledger.height_add_one
  proposer_ne := by
    rintro c ⟨⟩
    exact proposer_ne
  pending_eq := by
    rw [h.pending_eq_nil closed]
    rfl

/-- A delivery that leaves the ledger as it is. -/
theorem reject {c : Course} (h : Told courses (some c) a) (raw : Bytes) :
    Told courses (some (c.deliver raw false)) a where
  heights_eq := h.heights_eq
  makes := h.makes
  openBlock_eq := h.openBlock_eq
  height_eq := by
    rintro _ ⟨⟩
    exact h.height_eq c rfl
  proposer_ne := by
    rintro _ ⟨⟩
    exact h.proposer_ne c rfl
  pending_eq := by simpa [Course.accepted_deliver] using h.pending_eq

/-- A delivery that is accepted into the pool. -/
theorem accept {c : Course} (h : Told courses (some c) a) {raw : Bytes} {tx : Transaction}
    (decodes : Transaction.decode raw = .ok tx) (accounts : Accounts) :
    Told courses (some (c.deliver raw true))
      { a with ledger := { a.ledger with accounts, pending := a.ledger.pending ++ [tx] } } where
  heights_eq := h.heights_eq
  makes := h.makes
  openBlock_eq := h.openBlock_eq
  height_eq := by
    rintro _ ⟨⟩
    exact h.height_eq c rfl
  proposer_ne := by
    rintro _ ⟨⟩
    exact h.proposer_ne c rfl
  pending_eq := by
    have hpending := h.pending_eq
    simp only [Option.elim_some] at hpending ⊢
    rw [Course.accepted_deliver, if_pos rfl, List.map_append, List.map_append, hpending,
      List.map_singleton, List.map_singleton, decodes]

theorem endBlock {c : Course} (h : Told courses (some c) a) :
    Told courses (some { c with ended := true })
      { a with openBlock := some { c.openBlock with ended := true } } where
  heights_eq := h.heights_eq
  makes := h.makes
  openBlock_eq := rfl
  height_eq := by
    rintro _ ⟨⟩
    exact h.height_eq c rfl
  proposer_ne := by
    rintro _ ⟨⟩
    exact h.proposer_ne c rfl
  pending_eq := h.pending_eq

theorem commit {c : Course} (h : Told courses (some c) a) {block : Block}
    (block_eq : a.ledger.nextBlock c.proposer = .ok block) :
    Told (courses ++ [c]) none
      ⟨{ a.ledger with pending := [], chain := a.ledger.chain ++ [block] }, none⟩ where
  heights_eq := by
    rw [List.map_append, h.heights_eq, List.length_append, List.length_singleton,
      List.range'_1_concat, List.map_append, List.map_singleton, List.map_singleton,
      h.height_eq c rfl, Nat.add_comm 1]
  makes := by
    obtain ⟨_, _, -, -, rfl⟩ := Ledger.nextBlock_eq_ok_iff.mp block_eq
    refine List.rel_append h.makes (.cons ⟨?_, rfl, h.pending_eq⟩ .nil)
    rw [h.height_eq c rfl, h.length_eq]
    exact a.ledger.height_add_one
  openBlock_eq := rfl
  height_eq := nofun
  proposer_ne := nofun
  pending_eq := rfl

end Told

/-! ### Runs -/

/-- What a request does to the courses: the marks of the courses after it are those before it, and
the mark of its step. -/
theorem told_of_effect {a a' : Application} {request : Request} {answer : Except Error Response}
    (heffect : Effect a request answer a') {courses : List Course} {current : Option Course}
    (h : Told courses current a) :
    ∃ courses' current', Told courses' current' a' ∧
      marksOf courses' current' =
        marksOf courses current ++ (mark? ⟨a, request, answer⟩).toList := by
  cases heffect with
  | @refused request e =>
    exact ⟨courses, current, h, by cases request <;> exact (List.append_nil _).symm⟩
  | info => exact ⟨courses, current, h, (List.append_nil _).symm⟩
  | query => exact ⟨courses, current, h, (List.append_nil _).symm⟩
  | @initChain validators accounts =>
    obtain ⟨seeded, hseeded⟩ := Ledger.exists_after_seedCalls a.ledger accounts
    rw [hseeded]
    exact ⟨courses, current, h.seed seeded, (List.append_nil _).symm⟩
  | beginBlock closed proposer_ne =>
    refine ⟨courses, _, h.beginBlock closed proposer_ne, ?_⟩
    rw [h.current_eq_none closed]
    simp [marksOf, mark?, Course.marks]
  | @accept b raw tx ledger opened running decodes applies =>
    obtain ⟨c, rfl, rfl⟩ := h.exists_current opened
    obtain ⟨accounts, -, rfl⟩ := Ledger.eq_of_apply_ok applies
    refine ⟨courses, _, h.accept decodes accounts, ?_⟩
    simp [marksOf, mark?, Course.marks_deliver running, Response.accepts]
  | @reject b raw tx e opened running =>
    obtain ⟨c, rfl, rfl⟩ := h.exists_current opened
    refine ⟨courses, _, h.reject raw, ?_⟩
    simp [marksOf, mark?, Course.marks_deliver running, Response.accepts, ResponseCode.ok,
      ResponseCode.rejected]
  | @undecodable b raw e opened running =>
    obtain ⟨c, rfl, rfl⟩ := h.exists_current opened
    refine ⟨courses, _, h.reject raw, ?_⟩
    simp [marksOf, mark?, Course.marks_deliver running, Response.accepts, ResponseCode.ok,
      ResponseCode.badEncoding]
  | endBlock opened running =>
    obtain ⟨c, rfl, rfl⟩ := h.exists_current opened
    refine ⟨courses, _, h.endBlock, ?_⟩
    have hrunning : c.ended = false := running
    simp [marksOf, mark?, Course.marks, Course.openBlock, hrunning]
  | commit opened seals =>
    obtain ⟨c, rfl, rfl⟩ := h.exists_current opened
    obtain ⟨-, block_eq, rfl⟩ := Ledger.eq_of_sealBlock_ok seals
    refine ⟨courses ++ [c], none, h.commit block_eq, ?_⟩
    simp [marksOf, mark?, Course.word]

theorem told_new (policy : Policy) : Told [] none (ofLedger (.new policy)) where
  heights_eq := rfl
  makes := .nil
  openBlock_eq := rfl
  height_eq := nofun
  proposer_ne := nofun
  pending_eq := rfl

/-- The marks of a run are those of the courses of its blocks. -/
theorem told_after (policy : Policy) (requests : List Request) :
    let start := ofLedger (.new policy)
    ∃ courses current, Told courses current (Machine.after handle start requests) ∧
      (Machine.steps handle start requests).filterMap mark? = marksOf courses current := by
  intro start
  refine obeys_effect.steps_induction
    (P := fun past a => ∃ courses current, Told courses current a ∧
      past.filterMap mark? = marksOf courses current) ?_ ?_ requests
  · rintro past a request answer a' heffect ⟨courses, current, htold, hmarks⟩
    obtain ⟨courses', current', htold', hmarks'⟩ := told_of_effect heffect htold
    refine ⟨courses', current', htold', ?_⟩
    rw [List.filterMap_append, hmarks, hmarks', List.filterMap_cons, List.filterMap_nil]
    cases mark? ⟨a, request, answer⟩ <;> rfl
  · exact ⟨[], none, told_new policy, rfl⟩

/-- **The lifecycle of blocks.** The marks of a run of requests are the courses of its blocks, one
after the other: opened at the next height, handed transactions, ended or not, and sealed, except
that the last of them may still be open. The sealed blocks have the heights and the proposers that
they were opened with and hold, in order, the transactions that were accepted in their courses;
what waits has been accepted for the open block, and nothing waits if there is none. -/
theorem host_driven_lifecycle (policy : Policy) (requests : List Request)
    (bounded : (Machine.after handle (ofLedger (.new policy)) requests).ledger.chain.length <
      UInt64.size) :
    let start := ofLedger (.new policy)
    let a := Machine.after handle start requests
    ∃ (courses : List Course) (current : Option Course),
      (Machine.steps handle start requests).filterMap mark? =
        courses.flatMap Course.word ++ current.elim [] Course.marks ∧
      courses.map (·.height.toNat) = List.range' 1 courses.length ∧
      (∀ c ∈ current, c.height = UInt64.ofNat (courses.length + 1)) ∧
      List.Forall₂ Course.Makes courses a.ledger.chain ∧
      a.openBlock = current.map Course.openBlock ∧
      (current.elim [] Course.accepted).map Transaction.decode = a.ledger.pending.map .ok ∧
      (a.openBlock = none → a.ledger.pending = []) := by
  intro start a
  obtain ⟨courses, current, htold, hmarks⟩ := told_after policy requests
  exact ⟨courses, current, hmarks, htold.map_toNat_height bounded, htold.height_eq, htold.makes,
    htold.openBlock_eq, htold.pending_eq, htold.pending_eq_nil⟩

/-- A payment of alice to bob, with a fee of one. -/
def payment (amount nonce : UInt64) : Transaction := ⟨"alice", "bob", amount, 1, 0, nonce, []⟩

/-- A run to try the laws on: requests out of phase, a transaction that is accepted, one that is
rejected and one that cannot be read, a block that is sealed after its end and one that stays
open, with a transaction accepted after its sealing was refused. -/
def hostedRequests : List Request :=
  let written (tx : Transaction) : Bytes := (tx.encode.toOption).getD []
  [.commit, .initChain ["v1"] [⟨"alice", 1000⟩], .beginBlock 2 "v1", .beginBlock 1 "v1",
   .deliverTx (written (payment 100 0)), .deliverTx (written (payment 100 0)), .deliverTx [1],
   .endBlock 2, .endBlock 1, .deliverTx (written (payment 7 1)), .commit, .query "/height" [],
   .beginBlock 2 "v2", .commit, .deliverTx (written (payment 7 1))]

/-- The first block was opened at height one and has the one payment that was accepted in its
course; the second one is open. -/
theorem host_driven_lifecycle_hostedRequests :
    let a := Machine.after handle (ofLedger (.new default)) hostedRequests
    a.ledger.chain.length < UInt64.size ∧
    ∃ first second : Course,
      (Machine.steps handle (ofLedger (.new default)) hostedRequests).filterMap mark? =
        first.word ++ second.marks ∧
      first.height.toNat = 1 ∧ first.accepted.map Transaction.decode = [.ok (payment 100 0)] ∧
      second.height = 2 ∧ second.accepted.map Transaction.decode = [.ok (payment 7 1)] := by
  intro a
  have htransactions : a.ledger.chain.map (·.transactions) = [[payment 100 0]] := by
    decide +kernel
  have hwaiting : a.ledger.pending = [payment 7 1] := by decide +kernel
  have hlength : a.ledger.chain.length = 1 := by
    rw [← List.length_map (·.transactions), htransactions]
    rfl
  have bounded : a.ledger.chain.length < UInt64.size := by
    rw [hlength]
    decide
  obtain ⟨courses, current, hmarks, hheights, hheight, hmakes, -, hpending, -⟩ :=
    host_driven_lifecycle default hostedRequests bounded
  change List.Forall₂ Course.Makes courses a.ledger.chain at hmakes
  change (current.elim [] Course.accepted).map Transaction.decode = a.ledger.pending.map .ok
    at hpending
  refine ⟨bounded, ?_⟩
  clear_value a
  obtain ⟨block, hchain⟩ := List.length_eq_one_iff.mp hlength
  rw [hchain] at hmakes htransactions
  rw [hwaiting] at hpending
  cases hmakes with
  | @cons first _ _ _ hfirst hrest =>
    cases hrest
    cases current with
    | none => cases hpending
    | some second =>
      have hblock : block.transactions = [payment 100 0] := by simpa using htransactions
      refine ⟨first, second, by simpa using hmarks, by simpa using hheights, ?_,
        by simpa using hheight second rfl, by simpa using hpending⟩
      rw [hfirst.transactions_eq, hblock]
      rfl

end Application

end HostedLedger

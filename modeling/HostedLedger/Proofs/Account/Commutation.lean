import HostedLedger.Proofs.Account.Transfer

/-!
# Transfers that commute

A transfer rewrites two accounts one after the other: the sender's, which pays, and the recipient's,
which is credited. Each rewriting looks at no other account, so rewritings of different addresses
commute. Credits to one address commute as well, since a sum that fits in the end fits in every
order. Two transfers are therefore free to change places unless one of them pays from an address
that the other one writes.

## Main definitions

* `Accounts.rewrite?`: one account is replaced by what a partial function makes of it
* `Accounts.transfer?`: a transfer as two rewritings

## Main results

* `Overlay.commit_transfer`: a transfer on an overlay is this transfer on the accounts
* `Accounts.rewrite?_comm`: rewritings of different addresses commute
* `Accounts.credit_comm`: credits commute, to one address or to two
* `Accounts.transfer?_comm`: transfers commute if neither pays from what the other one writes
-/

namespace HostedLedger

/-- A sum of three words fits if the whole fits, in whichever order. -/
theorem Word.bind_add?_eq_some_iff {x y z w : UInt64} :
    (add? x y).bind (add? · z) = some w ↔ x.toNat + y.toNat + z.toNat = w.toNat := by
  have hw : w.toNat < UInt64.size := w.toNat_lt
  rw [Option.bind_eq_some_iff]
  constructor
  · rintro ⟨v, hv, hw⟩
    rw [add?_eq_some_iff] at hv hw
    omega
  · intro h
    obtain ⟨v, hv⟩ : ∃ v, add? x y = some v := by
      rw [← Option.isSome_iff_exists, Option.isSome_iff_ne_none, Ne, add?_eq_none_iff]
      omega
    have hsum := add?_eq_some_iff.mp hv
    exact ⟨v, hv, add?_eq_some_iff.mpr (by omega)⟩

theorem Word.bind_add?_comm (x y z : UInt64) :
    (add? x y).bind (add? · z) = (add? x z).bind (add? · y) := by
  apply Option.ext
  intro w
  rw [bind_add?_eq_some_iff, bind_add?_eq_some_iff, Nat.add_right_comm]

namespace Transaction

/-- What paying makes of the sender's account, if it is there and can pay. -/
def payer? (tx : Transaction) (account : Option Account) : Option Account :=
  match tx.checkFields with
  | .error _ => none
  | .ok () => account.bind fun sender => (tx.debit sender).toOption

/-- What crediting makes of the recipient's account, which need not be there. -/
def credited? (tx : Transaction) (account : Option Account) : Option Account :=
  let recipient := account.getD (Account.fresh 0)
  (Word.add? recipient.balance tx.amount).map fun balance => ⟨balance, recipient.nonce⟩

end Transaction

namespace Accounts

/-- The accounts in which one address has what a partial function makes of what it had. -/
def rewrite? (m : Accounts) (address : String) (f : Option Account → Option Account) :
    Option Accounts :=
  (f (m.get? address)).map (m.insert address)

/-- The accounts after a transfer, if it goes through: the sender pays, then the recipient is
credited. -/
def transfer? (m : Accounts) (tx : Transaction) : Option Accounts :=
  (m.rewrite? tx.sender tx.payer?).bind (·.rewrite? tx.recipient tx.credited?)

end Accounts

/-- A transfer on an overlay goes through just if it does on the accounts that the overlay stands
for, and then leads to the same accounts. -/
theorem Overlay.commit_transfer (o : Overlay) (tx : Transaction) :
    o.commit.transfer? tx =
      match o.transfer tx with
      | (o', .ok ()) => some o'.commit
      | (_, .error _) => none := by
  rcases h : o.transfer tx with ⟨o', answer⟩
  rw [Accounts.transfer?, Accounts.rewrite?, Transaction.payer?]
  cases outcome_of_transfer h with
  | malformed fields => simp [fields]
  | unknown fields absent => simp [fields, absent]
  | unpaid fields present debit => simp [fields, present, debit, Except.toOption]
  | @overflow sender payer fields present debit full =>
    have hcredit : tx.credited? ((o.commit.insert tx.sender payer).get? tx.recipient) = none :=
      Option.map_eq_none_iff.mpr (Word.add?_eq_none_iff.mpr full)
    simp [fields, present, debit, Except.toOption, Accounts.rewrite?, hcredit]
  | @accepted sender payer credited fields present debit credited_nonce credited_balance =>
    have hadd := Word.add?_eq_some_iff.mpr credited_balance.symm
    have hcredit :
        tx.credited? ((o.commit.insert tx.sender payer).get? tx.recipient) = some credited :=
      Option.map_eq_some_iff.mpr
        ⟨credited.balance, hadd, by rw [← Accounts.accountOf, ← credited_nonce]⟩
    simp [fields, present, debit, Except.toOption, Accounts.rewrite?, hcredit, commit_set]

namespace Accounts

/-- Rewritings of different addresses commute. -/
theorem rewrite?_comm (m : Accounts) {a b : String} (h : a ≠ b)
    (f g : Option Account → Option Account) :
    (m.rewrite? a f).bind (·.rewrite? b g) = (m.rewrite? b g).bind (·.rewrite? a f) := by
  have hb (x : Account) : (m.insert a x).get? b = m.get? b := m.get?_insert_of_ne (Ne.symm h) x
  have ha (y : Account) : (m.insert b y).get? a = m.get? a := m.get?_insert_of_ne h y
  unfold rewrite?
  cases hf : f (m.get? a) <;> cases hg : g (m.get? b) <;>
    simp [hf, hg, ha, hb, m.insert_comm h]

/-- Two rewritings of one address are one. -/
theorem rewrite?_self (m : Accounts) (a : String) (f g : Option Account → Option Account) :
    (m.rewrite? a f).bind (·.rewrite? a g) = m.rewrite? a fun x => (f x).bind (g ∘ some) := by
  simp only [rewrite?]
  cases f (m.get? a) with
  | none => rfl
  | some x =>
    simp only [Option.map_some, Option.bind_some, SortedMap.get?_insert_self, Function.comp]
    cases g (some x) <;> simp [SortedMap.insert_insert]

/-- Credits commute: if they are to one address, the sum fits in both orders or in none. -/
theorem credit_comm (m : Accounts) (t u : Transaction) :
    (m.rewrite? t.recipient t.credited?).bind (·.rewrite? u.recipient u.credited?) =
      (m.rewrite? u.recipient u.credited?).bind (·.rewrite? t.recipient t.credited?) := by
  by_cases h : t.recipient = u.recipient
  · have hcredits (x : Option Account) :
        (t.credited? x).bind (u.credited? ∘ some) = (u.credited? x).bind (t.credited? ∘ some) := by
      have hcomm := Word.bind_add?_comm (x.getD (Account.fresh 0)).balance t.amount u.amount
      have hmap := congrArg (Option.map fun balance : UInt64 =>
        (⟨balance, (x.getD (Account.fresh 0)).nonce⟩ : Account)) hcomm
      rw [Option.map_bind, Option.map_bind] at hmap
      simpa [Transaction.credited?, Function.comp_def, Option.bind_map] using hmap
    rw [h, rewrite?_self, rewrite?_self]
    congr 1
    funext x
    exact hcredits x
  · exact m.rewrite?_comm h _ _

/-- **Transfers commute** if they have different senders and neither is to the other one's
sender. -/
theorem transfer?_comm (m : Accounts) {t u : Transaction} (senders : t.sender ≠ u.sender)
    (apart : t.recipient ≠ u.sender) (apart' : u.recipient ≠ t.sender) :
    (m.transfer? t).bind (·.transfer? u) = (m.transfer? u).bind (·.transfer? t) := by
  let pay (t : Transaction) (m : Accounts) := m.rewrite? t.sender t.payer?
  let credit (t : Transaction) (m : Accounts) := m.rewrite? t.recipient t.credited?
  -- One after the other, the payment of `u` and its credit pass those of `t`.
  calc (m.transfer? t).bind (·.transfer? u)
      = (pay t m).bind fun m => ((credit t m).bind (pay u)).bind (credit u) := by
        simp only [transfer?, pay, credit, Option.bind_assoc]
    _ = (pay t m).bind fun m => ((pay u m).bind (credit t)).bind (credit u) := by
        congr 1
        funext m
        rw [m.rewrite?_comm apart]
    _ = ((pay t m).bind (pay u)).bind fun m => (credit t m).bind (credit u) := by
        simp only [Option.bind_assoc]
    _ = ((pay u m).bind (pay t)).bind fun m => (credit u m).bind (credit t) := by
        rw [m.rewrite?_comm senders]
        congr 1
        funext m
        exact m.credit_comm t u
    _ = (pay u m).bind fun m => ((pay t m).bind (credit u)).bind (credit t) := by
        simp only [Option.bind_assoc]
    _ = (pay u m).bind fun m => ((credit u m).bind (pay t)).bind (credit t) := by
        congr 1
        funext m
        rw [m.rewrite?_comm (Ne.symm apart')]
    _ = (m.transfer? u).bind (·.transfer? t) := by
        simp only [transfer?, pay, credit, Option.bind_assoc]

end Accounts

end HostedLedger

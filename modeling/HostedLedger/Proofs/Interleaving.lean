import Mathlib.Logic.Function.Basic

/-!
# Interleavings

Several lists are interleaved by taking, again and again, the first element of any of them. Where
elements of different lists commute, all interleavings come to the same: the element that one
interleaving takes first can be brought to the front of another, past elements of other lists only.

## Main definitions

* `Interleaves parts whole`: the list `whole` interleaves the lists of the family `parts`
* `Commutes step a b`: two partial steps may change places

## Main results

* `Interleaves.filter_eq`: elements that tell the list they are from give it back
* `Interleaves.of_filter`: such elements are interleaved in any list of them
* `Interleaves.exists_front`: the first element of a list is brought to the front
* `Interleaves.foldlM_eq`: interleavings of lists whose elements commute come to the same
-/

namespace HostedLedger

variable {ι α σ : Type}

/-- A list takes the elements of a family of lists, from the front of each, until all are taken. -/
inductive Interleaves [DecidableEq ι] : (ι → List α) → List α → Prop
  | nil {parts : ι → List α} (empty : ∀ i, parts i = []) : Interleaves parts []
  | cons {parts : ι → List α} {i : ι} {a : α} {rest whole : List α} (front : parts i = a :: rest)
    (others : Interleaves (Function.update parts i rest) whole) : Interleaves parts (a :: whole)

namespace Interleaves

variable [DecidableEq ι] {parts : ι → List α} {whole : List α}

theorem mem_of_mem_update {i j : ι} {a b : α} {rest : List α} (front : parts i = a :: rest)
    (h : b ∈ Function.update parts i rest j) : b ∈ parts j := by
  by_cases hj : j = i
  · subst hj
    rw [Function.update_self] at h
    rw [front]
    exact List.mem_cons_of_mem a h
  · rwa [Function.update_of_ne hj] at h

/-- Every element is from one of the lists. -/
theorem exists_mem (h : Interleaves parts whole) {a : α} (ha : a ∈ whole) : ∃ i, a ∈ parts i := by
  induction h with
  | nil => cases ha
  | @cons parts i b rest whole front _ ih =>
    rcases List.mem_cons.mp ha with rfl | ha
    · exact ⟨i, front ▸ List.mem_cons_self⟩
    · obtain ⟨j, hj⟩ := ih ha
      exact ⟨j, mem_of_mem_update front hj⟩

/-- Where every element tells the list that it is from, the elements from one list are that list. -/
theorem filter_eq {owner : α → Option ι} (h : Interleaves parts whole)
    (own : ∀ i, ∀ a ∈ parts i, owner a = some i) (i : ι) :
    whole.filter (owner · = some i) = parts i := by
  induction h with
  | nil empty => rw [empty, List.filter_nil]
  | @cons parts j a rest whole front _ ih =>
    have ha : owner a = some j := own j a (front ▸ List.mem_cons_self)
    have hrest := ih fun k b hb => own k b (mem_of_mem_update front hb)
    by_cases hj : j = i
    · subst hj
      rw [List.filter_cons_of_pos (by simpa using ha), hrest, Function.update_self, front]
    · rw [List.filter_cons_of_neg (by simpa [ha] using hj), hrest,
        Function.update_of_ne (Ne.symm hj)]

/-- Where every element tells a list that it is from, a list interleaves the lists that it is made
of. -/
theorem of_filter {owner : α → Option ι} {whole : List α}
    (owned : ∀ a ∈ whole, (owner a).isSome = true) :
    Interleaves (fun i => whole.filter (owner · = some i)) whole := by
  induction whole with
  | nil => exact .nil fun _ => rfl
  | cons a whole ih =>
    obtain ⟨ha, howned⟩ := List.forall_mem_cons.mp owned
    obtain ⟨i, hi⟩ := Option.isSome_iff_exists.mp ha
    have hfront : (a :: whole).filter (owner · = some i) = a :: whole.filter (owner · = some i) :=
      List.filter_cons_of_pos (by simpa using hi)
    refine .cons hfront ?_
    have hothers : Function.update (fun j => (a :: whole).filter (owner · = some j)) i
        (whole.filter (owner · = some i)) = fun j => whole.filter (owner · = some j) := by
      funext j
      by_cases hj : j = i
      · subst hj
        rw [Function.update_self]
      · rw [Function.update_of_ne hj]
        exact List.filter_cons_of_neg (by simpa [hi] using Ne.symm hj)
    rw [hothers]
    exact ih howned

/-- The first element of a list is taken at some time. What is taken before is from other lists, and
taking it at once leaves an interleaving of what is left. -/
theorem exists_front (h : Interleaves parts whole) {i : ι} {a : α} {rest : List α}
    (front : parts i = a :: rest) :
    ∃ before after, whole = before ++ a :: after ∧ (∀ b ∈ before, ∃ j ≠ i, b ∈ parts j) ∧
      Interleaves (Function.update parts i rest) (before ++ after) := by
  induction h with
  | nil empty =>
    rw [empty] at front
    cases front
  | @cons parts j b rest' whole front' others ih =>
    by_cases hj : j = i
    · subst hj
      rw [front] at front'
      cases front'
      exact ⟨[], whole, rfl, by simp, others⟩
    · have hfront : Function.update parts j rest' i = a :: rest := by
        rw [Function.update_of_ne (Ne.symm hj), front]
      obtain ⟨before, after, rfl, hbefore, hothers⟩ := ih hfront
      refine ⟨b :: before, after, rfl, ?_, ?_⟩
      · intro c hc
        rcases List.mem_cons.mp hc with rfl | hc
        · exact ⟨j, hj, front' ▸ List.mem_cons_self⟩
        · obtain ⟨k, hk, hmem⟩ := hbefore c hc
          exact ⟨k, hk, mem_of_mem_update front' hmem⟩
      · have hfront' : Function.update parts i rest j = b :: rest' := by
          rw [Function.update_of_ne hj, front']
        refine .cons hfront' ?_
        rwa [Function.update_comm (Ne.symm hj)]

end Interleaves

/-! ### Steps that commute -/

/-- Two partial steps may change places: they go through in both orders or in none, and lead to the
same state. -/
def Commutes (step : σ → α → Option σ) (a b : α) : Prop :=
  ∀ s, (step s a).bind (step · b) = (step s b).bind (step · a)

/-- A step is brought to the front past steps that it commutes with. -/
theorem foldlM_front {step : σ → α → Option σ} {a : α} {before : List α}
    (commutes : ∀ b ∈ before, Commutes step b a) (after : List α) (s : σ) :
    (before ++ a :: after).foldlM step s = (a :: before ++ after).foldlM step s := by
  induction before generalizing s with
  | nil => rfl
  | cons b before ih =>
    obtain ⟨hb, hbefore⟩ := List.forall_mem_cons.mp commutes
    calc (b :: before ++ a :: after).foldlM step s
        = (step s b).bind fun s => (before ++ a :: after).foldlM step s := List.foldlM_cons
      _ = (step s b).bind fun s => (a :: before ++ after).foldlM step s := by
        congr 1
        funext s
        exact ih hbefore s
      _ = ((step s b).bind (step · a)).bind fun s => (before ++ after).foldlM step s := by
        rw [Option.bind_assoc]
        rfl
      _ = ((step s a).bind (step · b)).bind fun s => (before ++ after).foldlM step s := by
        rw [hb s]
      _ = (a :: b :: before ++ after).foldlM step s := by
        rw [Option.bind_assoc]
        rfl

/-- **Interleavings come to the same** where elements of different lists commute. -/
theorem Interleaves.foldlM_eq [DecidableEq ι] {step : σ → α → Option σ} {parts : ι → List α}
    (commutes : ∀ i j, i ≠ j → ∀ a ∈ parts i, ∀ b ∈ parts j, Commutes step a b)
    {xs ys : List α} (hx : Interleaves parts xs) (hy : Interleaves parts ys) (s : σ) :
    xs.foldlM step s = ys.foldlM step s := by
  -- The induction is on the second interleaving, whose first element is found in the other one.
  induction hy generalizing xs s with
  | nil empty =>
    cases hx with
    | nil => rfl
    | cons front => rw [empty] at front; cases front
  | @cons parts i a rest ys front _ ih =>
    obtain ⟨before, after, rfl, hbefore, hothers⟩ := hx.exists_front front
    have hfront : ∀ b ∈ before, Commutes step b a := by
      intro b hb
      obtain ⟨j, hj, hmem⟩ := hbefore b hb
      exact commutes j i hj b hmem a (front ▸ List.mem_cons_self)
    rw [foldlM_front hfront, List.cons_append, List.foldlM_cons, List.foldlM_cons]
    congr 1
    funext s'
    refine ih (fun j k hjk b hb c hc => ?_) hothers s'
    exact commutes j k hjk b (mem_of_mem_update front hb) c (mem_of_mem_update front hc)

end HostedLedger

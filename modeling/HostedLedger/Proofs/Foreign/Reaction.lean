import HostedLedger.Proofs.Foreign.HandleTable

/-!
# Acting on what is behind a handle

An action on a table that is given a handle asks for the instance behind it, and all that it does is
decided by this instance: what it answers, and what is behind the handle afterwards. It leaves the
instances behind all other handles alone. A handle that has been used and has no instance any more
is spent, and no action brings an instance back to it.

## Main definitions

* `HandleTable.Puts t h x t'`: what is behind the handle `h` has become `x`
* `HandleTable.Spent t h`: the handle `h` has been used and has no instance any more
* `HandleTable.Reacts act h react`: what an action does to the instance behind a handle

## Main results

* `HandleTable.Spent.puts`, `HandleTable.Spent.gains`, `HandleTable.Spent.loses`: a spent handle
  stays spent
* `HandleTable.reacts_withBlockchain`, `HandleTable.reacts_withConsensus`,
  `HandleTable.reacts_remove`: what the actions on a table do to the instance behind a handle
-/

namespace HostedLedger

namespace HandleTable

variable {t t' : HandleTable} {h k : Handle} {x y : Instance}

/-! ### Look-up -/

theorem get?_eq_some_iff : t.get? h = some x ↔ ∃ i, t.find? h = some (i, x) := by
  simp [get?]

theorem get?_eq_none_iff : t.get? h = none ↔ t.find? h = none := by
  simp [get?]

/-- Nothing is found in a table without slots. -/
theorem get?_empty (h : Handle) : (∅ : HandleTable).get? h = none := by
  rw [get?_eq_none_iff, Option.eq_none_iff_forall_ne_some]
  rintro ⟨i, x⟩ hfound
  obtain ⟨g, hs, -⟩ := tidy_empty.find?_eq_some_iff.mp hfound
  cases hs

theorem Gains.get?_eq_some_iff (gains : Gains t x h t') :
    t'.get? k = some y ↔ (k, y) = (h, x) ∨ t.get? k = some y := by
  rw [HandleTable.get?_eq_some_iff, HandleTable.get?_eq_some_iff, gains.find?_iff]

theorem Gains.get?_self (gains : Gains t x h t') : t'.get? h = some x :=
  gains.get?_eq_some_iff.mpr (.inl rfl)

theorem Gains.get?_of_ne (gains : Gains t x h t') (ne : k ≠ h) : t'.get? k = t.get? k := by
  apply Option.ext
  intro y
  rw [gains.get?_eq_some_iff, Prod.mk.injEq]
  simp [ne]

/-- What is found after slots have been vacated has been found before. -/
theorem Loses.get?_of_get? {slots : List Nat} (loses : Loses t slots t')
    (found : t'.get? k = some y) : t.get? k = some y := by
  obtain ⟨i, hi⟩ := get?_eq_some_iff.mp found
  exact get?_eq_some_iff.mpr ⟨i, (loses.find?_iff.mp hi).1⟩

/-- Nothing is found after every slot that is occupied has been vacated. -/
theorem Tidy.get?_of_loses_occupied (tidy : t.Tidy) (loses : Loses t t.occupied t') (k : Handle) :
    t'.get? k = none := by
  rw [Option.eq_none_iff_forall_ne_some]
  intro y hy
  obtain ⟨i, hi⟩ := get?_eq_some_iff.mp hy
  obtain ⟨hfound, hnot⟩ := loses.find?_iff.mp hi
  exact hnot (tidy.mem_occupied_of_find? hfound)

/-- A table in which nothing is found counts no instance of any kind. -/
theorem Tidy.count_eq_zero (tidy : t.Tidy) (vacant : ∀ k, t.get? k = none) (kind : InstanceKind) :
    t.count kind = 0 := by
  have hoccupied : t.occupied = [] := by
    rw [List.eq_nil_iff_forall_not_mem]
    intro i hi
    obtain ⟨g, x, hs⟩ := mem_occupied_iff.mp hi
    have hfound := tidy.find?_eq_some_iff.mpr ⟨g, hs, rfl⟩
    rw [get?_eq_none_iff.mp (vacant _)] at hfound
    cases hfound
  have hclear : t.occupied.length = t.count .blockchain + t.count .consensus := clear_snd t
  rw [hoccupied, List.length_nil] at hclear
  cases kind <;> omega

theorem Tidy.used_of_get? (tidy : t.Tidy) (found : t.get? h = some x) : t.Used h := by
  obtain ⟨i, hi⟩ := get?_eq_some_iff.mp found
  obtain ⟨g, hs, rfl⟩ := tidy.find?_eq_some_iff.mp hi
  exact ⟨i, _, g, hs, rfl, Nat.le_refl g, fun hfree => absurd hfree (tidy.not_mem_free hs)⟩

/-- Nothing is behind the handle that an instance gets before the instance is placed. -/
theorem Gains.get?_before (gains : Gains t x h t') (tidy : t.Tidy) : t.get? h = none := by
  rw [Option.eq_none_iff_forall_ne_some]
  exact fun y hfound => gains.not_used (tidy.used_of_get? hfound)

/-! ### Replacing what is behind a handle -/

/-- What is behind a handle has become another instance, or none; nothing else is changed, and
nothing at all if it is what it was. -/
structure Puts (t : HandleTable) (h : Handle) (x : Option Instance) (t' : HandleTable) : Prop where
  tidy : t'.Tidy
  used_of_used : ∀ {k}, t.Used k → t'.Used k
  get?_eq : ∀ k, t'.get? k = if k = h then x else t.get? k
  eq_of_eq : t.get? h = x → t' = t

theorem Tidy.puts_self (tidy : t.Tidy) {x : Option Instance} (found : t.get? h = x) :
    Puts t h x t where
  tidy := tidy
  used_of_used used := used
  get?_eq k := by
    split
    · next hk => rw [hk, found]
    · rfl
  eq_of_eq _ := rfl

section Occupy

variable {i g : Nat} (tidy : t.Tidy) (hs : t.slots[i]? = some ⟨g, some x⟩)
include tidy hs

theorem Tidy.tidy_occupy (y : Instance) : (t.occupy i (some y)).Tidy where
  slot_lt {j s} hs' := by
    have hwrites := writes_occupy hs (some y)
    by_cases hj : j = i
    · subst hj
      cases hwrites.getElem?_self.symm.trans hs'
      exact ⟨(tidy.slot_lt hs).1, (tidy.slot_lt hs).2⟩
    · rw [hwrites.getElem?_of_ne hj] at hs'
      exact tidy.slot_lt hs'
  free_nodup := tidy.free_nodup
  free_vacant j hj := by
    have hne : j ≠ i := fun he => tidy.not_mem_free hs (he ▸ hj)
    rw [(writes_occupy hs (some y)).getElem?_of_ne hne]
    exact tidy.free_vacant j hj

omit tidy in
/-- The generation of a slot is not changed by its occupant. -/
theorem used_occupy (y : Instance) (used : t.Used k) : (t.occupy i (some y)).Used k := by
  have hwrites := writes_occupy hs (some y)
  obtain ⟨j, s, g', hs', rfl, hle, hfree⟩ := used
  by_cases hj : j = i
  · subst hj
    cases hs.symm.trans hs'
    exact ⟨j, _, g', hwrites.getElem?_self, rfl, hle, hfree⟩
  · exact ⟨j, s, g', (hwrites.getElem?_of_ne hj).trans hs', rfl, hle, hfree⟩

omit tidy in
/-- A slot may be given what it holds. -/
theorem occupy_self : t.occupy i (some x) = t := by
  have hslots : (t.occupy i (some x)).slots = t.slots := by
    apply List.ext_getElem?
    intro j
    rw [writes_occupy hs (some x) j]
    split
    · next hj => rw [hj, hs]
    · rfl
  calc t.occupy i (some x) = ⟨(t.occupy i (some x)).slots, t.free⟩ := rfl
    _ = t := by rw [hslots]

/-- The new occupant of a slot is found under the handle of the old one. -/
theorem Tidy.get?_occupy (y : Instance) (k : Handle) :
    (t.occupy i (some y)).get? k = if k = Handle.pack i g then some y else t.get? k := by
  have hfound := tidy.find?_eq_some_iff.mpr ⟨g, hs, rfl⟩
  have hiff {z : Instance} {j : Nat} : (t.occupy i (some y)).find? k = some (j, z) ↔
      j = i ∧ some y = some z ∧ k = Handle.pack i g ∨ j ≠ i ∧ t.find? k = some (j, z) :=
    (writes_occupy hs (some y)).find?_eq_some_iff tidy (tidy.tidy_occupy hs y)
  apply Option.ext
  intro z
  rw [get?_eq_some_iff]
  simp only [hiff]
  by_cases hk : k = Handle.pack i g
  · subst hk
    rw [if_pos rfl]
    constructor
    · rintro ⟨j, ⟨-, hz, -⟩ | ⟨hj, hother⟩⟩
      · exact hz
      · cases hfound.symm.trans hother
        exact absurd rfl hj
    · intro hz
      exact ⟨i, .inl ⟨rfl, hz, rfl⟩⟩
  · rw [if_neg hk, get?_eq_some_iff]
    constructor
    · rintro ⟨j, ⟨-, -, hk'⟩ | ⟨-, hold⟩⟩
      · exact absurd hk' hk
      · exact ⟨j, hold⟩
    · rintro ⟨j, hold⟩
      refine ⟨j, .inr ⟨?_, hold⟩⟩
      rintro rfl
      exact hk (tidy.find?_inj hold hfound)

end Occupy

/-- An instance takes the place of the one behind a handle. -/
theorem Tidy.puts_occupy (tidy : t.Tidy) {i : Nat} (found : t.find? h = some (i, x))
    (y : Instance) : Puts t h (some y) (t.occupy i (some y)) := by
  obtain ⟨g, hs, rfl⟩ := tidy.find?_eq_some_iff.mp found
  refine ⟨tidy.tidy_occupy hs y, used_occupy hs y, tidy.get?_occupy hs y, fun heq => ?_⟩
  obtain ⟨j, hj⟩ := get?_eq_some_iff.mp heq
  cases found.symm.trans hj
  exact occupy_self hs

/-- The instance behind a handle is taken away. -/
theorem Tidy.puts_of_loses (tidy : t.Tidy) {i : Nat} (found : t.find? h = some (i, x))
    (loses : Loses t [i] t') : Puts t h none t' where
  tidy := loses.tidy
  used_of_used := loses.used_of_used
  get?_eq k := by
    apply Option.ext
    intro y
    rw [get?_eq_some_iff]
    simp only [loses.find?_iff, List.mem_singleton]
    by_cases hk : k = h
    · subst hk
      rw [if_pos rfl]
      constructor
      · rintro ⟨j, hfound, hj⟩
        cases found.symm.trans hfound
        exact absurd rfl hj
      · intro hnone
        cases hnone
    · rw [if_neg hk, get?_eq_some_iff]
      constructor
      · rintro ⟨j, hfound, -⟩
        exact ⟨j, hfound⟩
      · rintro ⟨j, hfound⟩
        refine ⟨j, hfound, ?_⟩
        rintro rfl
        exact hk (tidy.find?_inj hfound found)
  eq_of_eq hnone := by
    rw [get?_eq_some_iff.mpr ⟨i, found⟩] at hnone
    cases hnone

/-! ### Spent handles -/

/-- A handle that has been used and has no instance any more. -/
structure Spent (t : HandleTable) (h : Handle) : Prop where
  used : t.Used h
  get?_eq : t.get? h = none

namespace Spent

variable (spent : t.Spent k)
include spent

theorem puts {x' : Option Instance} (found : t.get? h = some x) (puts : Puts t h x' t') :
    t'.Spent k where
  used := puts.used_of_used spent.used
  get?_eq := by
    have hne : k ≠ h := by
      rintro rfl
      rw [spent.get?_eq] at found
      cases found
    rw [puts.get?_eq, if_neg hne, spent.get?_eq]

/-- A handle that is issued has not been used before. -/
theorem gains (gains : Gains t x h t') : t'.Spent k where
  used := gains.used_of_used spent.used
  get?_eq := by
    rw [Option.eq_none_iff_forall_ne_some]
    intro y hy
    rcases gains.get?_eq_some_iff.mp hy with hnew | hold
    · cases hnew
      exact gains.not_used spent.used
    · rw [spent.get?_eq] at hold
      cases hold

theorem loses {slots : List Nat} (loses : Loses t slots t') : t'.Spent k where
  used := loses.used_of_used spent.used
  get?_eq := by
    rw [Option.eq_none_iff_forall_ne_some]
    intro y hy
    have hold := loses.get?_of_get? hy
    rw [spent.get?_eq] at hold
    cases hold

end Spent

/-! ### Reactions -/

variable {α : Type}

/-- An action on a table does to the instance behind a handle what a function of this instance says,
and answers what it says. Without an instance the handle is refused. -/
structure Reacts (act : HandleTable → HandleTable × Except Error α) (h : Handle)
    (react : Instance → Option Instance × Except Error α) : Prop where
  unknown : ∀ {t}, t.get? h = none → act t = (t, .error (.parameter (.unknownHandle h)))
  known : ∀ {t x}, t.Tidy → t.get? h = some x →
    (act t).2 = (react x).2 ∧ Puts t h (react x).1 (act t).1

end HandleTable

namespace Instance

variable {α : Type}

/-- How an instance reacts to an action for blockchains. -/
def onBlockchain (h : Handle) (act : Application → Application × Except Error α) :
    Instance → Option Instance × Except Error α
  | blockchain a => (act a).map (some ∘ blockchain) id
  | consensus r => (some (consensus r), .error (.parameter (.wrongKind h .consensus .blockchain)))

/-- How an instance reacts to an action for rotations. -/
def onConsensus (h : Handle) (act : Rotation → Rotation × Except Error α) :
    Instance → Option Instance × Except Error α
  | consensus r => (act r).map (some ∘ consensus) id
  | blockchain a => (some (blockchain a), .error (.parameter (.wrongKind h .blockchain .consensus)))

/-- How an instance reacts to its removal. -/
def onRemoval (h : Handle) (kind : InstanceKind) (x : Instance) :
    Option Instance × Except Error Unit :=
  if x.kind = kind then (none, .ok ())
  else (some x, .error (.parameter (.wrongKind h x.kind kind)))

end Instance

namespace HandleTable

variable {α : Type}

theorem reacts_withBlockchain (h : Handle) (act : Application → Application × Except Error α) :
    Reacts (·.withBlockchain h act) h (Instance.onBlockchain h act) where
  unknown {t} hnone := by
    simp only [withBlockchain, blockchain, get?_eq_none_iff.mp hnone]
  known {t x} tidy hsome := by
    obtain ⟨i, hfound⟩ := get?_eq_some_iff.mp hsome
    cases x with
    | blockchain a =>
      simp only [withBlockchain, blockchain, hfound]
      exact ⟨rfl, tidy.puts_occupy hfound (.blockchain (act a).1)⟩
    | consensus r =>
      simp only [withBlockchain, blockchain, hfound]
      exact ⟨rfl, tidy.puts_self hsome⟩

theorem reacts_withConsensus (h : Handle) (act : Rotation → Rotation × Except Error α) :
    Reacts (·.withConsensus h act) h (Instance.onConsensus h act) where
  unknown {t} hnone := by
    simp only [withConsensus, consensus, get?_eq_none_iff.mp hnone]
  known {t x} tidy hsome := by
    obtain ⟨i, hfound⟩ := get?_eq_some_iff.mp hsome
    cases x with
    | consensus r =>
      simp only [withConsensus, consensus, hfound]
      exact ⟨rfl, tidy.puts_occupy hfound (.consensus (act r).1)⟩
    | blockchain a =>
      simp only [withConsensus, consensus, hfound]
      exact ⟨rfl, tidy.puts_self hsome⟩

theorem reacts_remove (h : Handle) (kind : InstanceKind) :
    Reacts (·.remove h kind) h (Instance.onRemoval h kind) where
  unknown {t} hnone := by
    simp only [remove, get?_eq_none_iff.mp hnone]
  known {t x} tidy hsome := by
    obtain ⟨i, hfound⟩ := get?_eq_some_iff.mp hsome
    simp only [remove, hfound, Instance.onRemoval]
    split
    · exact ⟨rfl, tidy.puts_of_loses hfound (tidy.loses_release hfound)⟩
    · exact ⟨rfl, tidy.puts_self hsome⟩

end HandleTable

end HostedLedger

import HostedLedger.Error.Report
import HostedLedger.Foreign.HandleTable
import Mathlib.Data.List.Nodup

/-!
# What the calls of a handle table do

A table is tidy when its free slots are empty and are named once. Each call is described by what
becomes of look-up and of the handles that have ever been used: placing an instance answers one new
handle, and vacating slots takes away the handles of their instances and no others.

A handle counts as used once the generation of its slot has come up to its own; while a slot is
free, its present generation is still to be used. That is what keeps a handle from coming back.

## Main definitions

* `HandleTable.Tidy`: slots and free slots are in order
* `HandleTable.Used`: a handle that may have been issued
* `HandleTable.Writes`: one slot has been replaced
* `HandleTable.Gains`: an instance is found under a new handle
* `HandleTable.HasRoom`: there is a slot for one more instance
* `HandleTable.Loses`: the instances of some slots are no longer found

## Main results

* `HandleTable.Tidy.find?_eq_some_iff`: what look-up finds
* `HandleTable.Tidy.gains_insert`: inserting answers a handle that has not been used
* `HandleTable.exists_insert_iff`: when an instance is inserted
* `HandleTable.Tidy.loses_release`: releasing a slot takes its instance away
* `HandleTable.Tidy.loses_clear`: clearing takes all instances away
* `HandleTable.clear_snd`: clearing counts the instances of both kinds
* `HandleTable.remove_eq_ok_iff`, `HandleTable.eq_of_remove_error`: what is removed, and that
  nothing else happens
-/

namespace HostedLedger

namespace HandleTable

/-! ### Tidy tables -/

/-- Slots and generations fit in the halves of a handle, and the free slots are empty and different
from one another. -/
structure Tidy (t : HandleTable) : Prop where
  slot_lt : ∀ {i s}, t.slots[i]? = some s → i < capacity ∧ s.generation < generations
  free_nodup : t.free.Nodup
  free_vacant : ∀ i ∈ t.free, ∃ g, t.slots[i]? = some ⟨g, none⟩

/-- A handle of a slot whose generation has come up to that of the handle; if the slot is free, it
has gone on. -/
def Used (t : HandleTable) (h : Handle) : Prop :=
  ∃ i s g, t.slots[i]? = some s ∧ h = Handle.pack i g ∧ g ≤ s.generation ∧
    (i ∈ t.free → g < s.generation)

theorem tidy_empty : Tidy ∅ where
  slot_lt h := by cases h
  free_nodup := .nil
  free_vacant _ h := by cases h

theorem add_one_lt_of_lt_capacity {i : Nat} (h : i < capacity) : i + 1 < UInt32.size :=
  Nat.add_lt_of_lt_sub h

namespace Tidy

variable {t : HandleTable} (tidy : t.Tidy)
include tidy

/-- A used handle is not zero. -/
theorem ne_zero_of_used {h : Handle} (used : t.Used h) : h ≠ 0 := by
  obtain ⟨i, s, g, hs, rfl, hle, -⟩ := used
  obtain ⟨hi, hg⟩ := tidy.slot_lt hs
  exact Handle.pack_ne_zero (add_one_lt_of_lt_capacity hi) (Nat.lt_of_le_of_lt hle hg)

/-- The generation of a slot is the one up to which its handles have been used. -/
theorem used_pack_iff {i g : Nat} (hi : i < capacity) (hg : g < generations) :
    t.Used (Handle.pack i g) ↔
      ∃ s, t.slots[i]? = some s ∧ g ≤ s.generation ∧ (i ∈ t.free → g < s.generation) := by
  constructor
  · rintro ⟨j, s, g', hs, hpack, hle, hfree⟩
    obtain ⟨hj, hs'⟩ := tidy.slot_lt hs
    obtain ⟨rfl, rfl⟩ := Handle.pack_inj (add_one_lt_of_lt_capacity hi) hg
      (add_one_lt_of_lt_capacity hj) (Nat.lt_of_le_of_lt hle hs') hpack
    exact ⟨s, hs, hle, hfree⟩
  · rintro ⟨s, hs, hle, hfree⟩
    exact ⟨i, s, g, hs, rfl, hle, hfree⟩

/-- Look-up finds the instances in the slots, each under the handle of its slot's generation. -/
theorem find?_eq_some_iff {h : Handle} {i : Nat} {x : Instance} :
    t.find? h = some (i, x) ↔
      ∃ g, t.slots[i]? = some ⟨g, some x⟩ ∧ h = Handle.pack i g := by
  have hfind : t.find? h = some (i, x) ↔ Handle.slot? h = some i ∧
      t.slots[i]? = some ⟨Handle.generation h, some x⟩ := by
    simp only [find?, Option.bind_eq_bind, Option.bind_eq_some_iff]
    constructor
    · rintro ⟨j, hj, ⟨g, occupant⟩, hs, h⟩
      split at h
      · next hg =>
        obtain ⟨y, hy, h⟩ := Option.bind_eq_some_iff.mp h
        cases h
        cases hg
        cases hy
        exact ⟨hj, hs⟩
      · cases h
    · rintro ⟨hi, hs⟩
      exact ⟨i, hi, _, hs, by rw [if_pos rfl]; rfl⟩
  rw [hfind]
  constructor
  · rintro ⟨hi, hs⟩
    exact ⟨_, hs, (Handle.pack_generation hi).symm⟩
  · rintro ⟨g, hs, rfl⟩
    obtain ⟨hi, hg⟩ := tidy.slot_lt hs
    rw [Handle.slot?_pack (add_one_lt_of_lt_capacity hi) hg,
      Handle.generation_pack (add_one_lt_of_lt_capacity hi) hg]
    exact ⟨rfl, hs⟩

/-- What is found in one slot is found under one handle. -/
theorem find?_inj {h k : Handle} {i : Nat} {x y : Instance} (hx : t.find? h = some (i, x))
    (hy : t.find? k = some (i, y)) : h = k := by
  obtain ⟨g, hs, rfl⟩ := tidy.find?_eq_some_iff.mp hx
  obtain ⟨g', hs', rfl⟩ := tidy.find?_eq_some_iff.mp hy
  cases hs.symm.trans hs'
  rfl

/-- A slot that holds an instance is not free. -/
theorem not_mem_free {i g : Nat} {x : Instance} (hs : t.slots[i]? = some ⟨g, some x⟩) :
    i ∉ t.free := by
  intro hi
  obtain ⟨g', hs'⟩ := tidy.free_vacant i hi
  cases hs'.symm.trans hs

end Tidy

/-! ### Replacing a slot -/

/-- The tables differ in nothing but one slot, which the second one has. -/
def Writes (t : HandleTable) (i : Nat) (s : Slot) (t' : HandleTable) : Prop :=
  ∀ j, t'.slots[j]? = if j = i then some s else t.slots[j]?

namespace Writes

variable {t t' : HandleTable} {i : Nat} {s : Slot} (writes : t.Writes i s t')
include writes

theorem getElem?_self : t'.slots[i]? = some s := by rw [writes, if_pos rfl]

theorem getElem?_of_ne {j : Nat} (h : j ≠ i) : t'.slots[j]? = t.slots[j]? := by
  rw [writes, if_neg h]

/-- In the slot that has been replaced its new occupant is found, and in the others what was found
there. -/
theorem find?_eq_some_iff (tidy : t.Tidy) (tidy' : t'.Tidy) {h : Handle} {j : Nat} {x : Instance} :
    t'.find? h = some (j, x) ↔
      j = i ∧ s.occupant = some x ∧ h = Handle.pack i s.generation ∨
        j ≠ i ∧ t.find? h = some (j, x) := by
  rw [tidy'.find?_eq_some_iff, tidy.find?_eq_some_iff]
  by_cases hj : j = i
  · subst hj
    rw [writes.getElem?_self]
    obtain ⟨g, occupant⟩ := s
    simp
  · rw [writes.getElem?_of_ne hj]
    simp [hj]

end Writes

theorem writes_occupy {t : HandleTable} {i : Nat} {s : Slot} (hs : t.slots[i]? = some s)
    (occupant : Option Instance) :
    t.Writes i { s with occupant } (t.occupy i occupant) := by
  intro j
  rw [occupy, List.getElem?_modify]
  by_cases hj : j = i
  · subst hj
    simp [hs]
  · simp [hj, Ne.symm hj]

/-! ### Placing an instance -/

/-- An instance is found under a handle that has not been used, and nothing else is changed. -/
structure Gains (t : HandleTable) (x : Instance) (h : Handle) (t' : HandleTable) : Prop where
  tidy : t'.Tidy
  not_used : ¬ t.Used h
  used : t'.Used h
  used_of_used : ∀ {k}, t.Used k → t'.Used k
  find?_iff : ∀ {k y}, (∃ j, t'.find? k = some (j, y)) ↔
    (k, y) = (h, x) ∨ ∃ j, t.find? k = some (j, y)

/-- An instance is put into a slot that is free, or into a new one. -/
structure Places (t : HandleTable) (x : Instance) (i g : Nat) (t' : HandleTable) : Prop where
  writes : t.Writes i ⟨g, some x⟩ t'
  bounds : i < capacity ∧ g < generations
  vacant : t.slots[i]? = some ⟨g, none⟩ ∧ i ∈ t.free ∨ t.slots[i]? = none
  free_nodup : t'.free.Nodup
  mem_free : ∀ {j}, j ∈ t'.free → j ∈ t.free ∧ j ≠ i

namespace Places

variable {t t' : HandleTable} {x : Instance} {i g : Nat}

theorem tidy' (places : Places t x i g t') (tidy : t.Tidy) : t'.Tidy where
  slot_lt {j s} hs := by
    by_cases hj : j = i
    · subst hj
      cases places.writes.getElem?_self.symm.trans hs
      exact places.bounds
    · rw [places.writes.getElem?_of_ne hj] at hs
      exact tidy.slot_lt hs
  free_nodup := places.free_nodup
  free_vacant j hj := by
    obtain ⟨hfree, hne⟩ := places.mem_free hj
    rw [places.writes.getElem?_of_ne hne]
    exact tidy.free_vacant j hfree

/-- Nothing has been found in the slot before. -/
theorem find?_ne (places : Places t x i g t') (tidy : t.Tidy) (h : Handle) (y : Instance) :
    t.find? h ≠ some (i, y) := by
  intro hfound
  obtain ⟨g', hs, -⟩ := tidy.find?_eq_some_iff.mp hfound
  rcases places.vacant with ⟨hvacant, -⟩ | hnone
  · cases hvacant.symm.trans hs
  · cases hnone.symm.trans hs

theorem gains (places : Places t x i g t') (tidy : t.Tidy) :
    Gains t x (Handle.pack i g) t' where
  tidy := places.tidy' tidy
  not_used used := by
    obtain ⟨s, hs, -, hfree⟩ := (tidy.used_pack_iff places.bounds.1 places.bounds.2).mp used
    rcases places.vacant with ⟨hvacant, hi⟩ | hnone
    · cases hvacant.symm.trans hs
      exact absurd (hfree hi) (Nat.lt_irrefl g)
    · cases hnone.symm.trans hs
  used := ⟨i, _, g, places.writes.getElem?_self, rfl, Nat.le_refl g,
    fun hi => absurd rfl (places.mem_free hi).2⟩
  used_of_used {k} used := by
    obtain ⟨j, s, g', hs, rfl, hle, hfree⟩ := used
    have hfree' : j ∈ t'.free → g' < s.generation := fun hj => hfree (places.mem_free hj).1
    by_cases hj : j = i
    · subst hj
      rcases places.vacant with ⟨hvacant, -⟩ | hnone
      · cases hvacant.symm.trans hs
        exact ⟨j, _, g', places.writes.getElem?_self, rfl, hle, hfree'⟩
      · cases hnone.symm.trans hs
    · exact ⟨j, s, g', (places.writes.getElem?_of_ne hj).trans hs, rfl, hle, hfree'⟩
  find?_iff {k y} := by
    have hfind {j : Nat} : t'.find? k = some (j, y) ↔
        j = i ∧ some x = some y ∧ k = Handle.pack i g ∨ j ≠ i ∧ t.find? k = some (j, y) :=
      places.writes.find?_eq_some_iff tidy (places.tidy' tidy)
    constructor
    · rintro ⟨j, hj⟩
      rcases hfind.mp hj with ⟨-, hx, rfl⟩ | ⟨-, hj⟩
      · cases hx
        exact .inl rfl
      · exact .inr ⟨j, hj⟩
    · rintro (hnew | ⟨j, hj⟩)
      · cases hnew
        exact ⟨i, hfind.mpr (.inl ⟨rfl, rfl, rfl⟩)⟩
      · have hne : j ≠ i := by
          rintro rfl
          exact places.find?_ne tidy k y hj
        exact ⟨j, hfind.mpr (.inr ⟨hne, hj⟩)⟩

end Places

/-- An instance that is inserted is placed, in the slot released last if there is one. -/
theorem Tidy.places_insert {t t' : HandleTable} (tidy : t.Tidy) {x : Instance} {h : Handle}
    (eq : t.insert x = (t', .ok h)) : ∃ i g, h = Handle.pack i g ∧ Places t x i g t' := by
  unfold insert at eq
  split at eq
  · next i free hfree =>
    cases eq
    have hi : i ∈ t.free := by rw [hfree]; exact List.mem_cons_self ..
    obtain ⟨g, hs⟩ := tidy.free_vacant i hi
    have hnodup := tidy.free_nodup
    rw [hfree] at hnodup
    obtain ⟨hnotmem, hnodup⟩ := List.nodup_cons.mp hnodup
    refine ⟨i, g, by rw [List.getD_eq_getElem?_getD, hs]; rfl, ?_⟩
    exact {
      writes := writes_occupy (t := { t with free }) hs (some x)
      bounds := tidy.slot_lt hs
      vacant := .inl ⟨hs, hi⟩
      free_nodup := hnodup
      mem_free := fun {j} hj => by
        rw [hfree]
        refine ⟨List.mem_cons_of_mem _ hj, ?_⟩
        rintro rfl
        exact hnotmem hj }
  · next hfree =>
    split at eq
    · next hlength =>
      cases eq
      refine ⟨t.slots.length, 0, rfl, ?_⟩
      exact {
        writes := fun j => by
          rw [List.getElem?_append]
          grind
        bounds := ⟨hlength, by decide⟩
        vacant := .inr (List.getElem?_eq_none (Nat.le_refl _))
        free_nodup := tidy.free_nodup
        mem_free := fun {j} hj => by
          rw [hfree] at hj
          cases hj }
    · cases eq

/-- **Inserting answers a handle that has not been used**, and changes nothing else. -/
theorem Tidy.gains_insert {t t' : HandleTable} (tidy : t.Tidy) {x : Instance} {h : Handle}
    (eq : t.insert x = (t', .ok h)) : Gains t x h t' := by
  obtain ⟨i, g, rfl, hplaces⟩ := tidy.places_insert eq
  exact hplaces.gains tidy

theorem length_insert_le (t : HandleTable) (x : Instance) :
    (t.insert x).1.slots.length ≤ t.slots.length + 1 := by
  unfold insert
  split
  · simp [occupy]
  · split <;> simp

theorem eq_of_insert_error {t t' : HandleTable} {x : Instance} {e : Error}
    (h : t.insert x = (t', .error e)) : t' = t := by
  unfold insert at h
  split at h
  · cases h
  · split at h
    · cases h
    · exact (Prod.mk.inj h).1.symm

/-- There is a slot for one more instance: one that is free, or a new one. -/
def HasRoom (t : HandleTable) : Prop := t.free ≠ [] ∨ t.slots.length < capacity

instance (t : HandleTable) : Decidable t.HasRoom := inferInstanceAs (Decidable (_ ∨ _))

/-- An instance is inserted just if there is room. -/
theorem exists_insert_iff {t : HandleTable} {x : Instance} :
    (∃ h, (t.insert x).2 = .ok h) ↔ t.HasRoom := by
  unfold insert
  split
  · next hfree => exact ⟨fun _ => .inl (by simp [hfree]), fun _ => ⟨_, rfl⟩⟩
  next hfree =>
  split
  · next hlength => exact ⟨fun _ => .inr hlength, fun _ => ⟨_, rfl⟩⟩
  · next hlength =>
    refine ⟨nofun, ?_⟩
    rintro (hsome | hlt)
    · exact absurd hfree hsome
    · exact absurd hlt hlength

/-- There is room for an instance as long as not all slots are in use. -/
theorem exists_insert {t : HandleTable} (room : t.slots.length < capacity) (x : Instance) :
    ∃ h, (t.insert x).2 = .ok h :=
  exists_insert_iff.mpr (.inr room)

/-! ### Vacating slots -/

/-- The instances of some slots are no longer found, and nothing else is changed. -/
structure Loses (t : HandleTable) (slots : List Nat) (t' : HandleTable) : Prop where
  tidy : t'.Tidy
  used_of_used : ∀ {k}, t.Used k → t'.Used k
  find?_iff : ∀ {k i x}, t'.find? k = some (i, x) ↔ t.find? k = some (i, x) ∧ i ∉ slots
  length_eq : t'.slots.length = t.slots.length

theorem Tidy.loses_nil {t : HandleTable} (tidy : t.Tidy) : Loses t [] t where
  tidy := tidy
  used_of_used used := used
  find?_iff := by simp
  length_eq := rfl

theorem Loses.trans {t t' t'' : HandleTable} {xs ys : List Nat} (h : Loses t xs t')
    (h' : Loses t' ys t'') : Loses t (xs ++ ys) t'' where
  tidy := h'.tidy
  used_of_used used := h'.used_of_used (h.used_of_used used)
  find?_iff {k i x} := by
    rw [h'.find?_iff, h.find?_iff, List.mem_append, not_or, and_assoc]
  length_eq := h'.length_eq.trans h.length_eq

/-- A slot is emptied, and if it is free afterwards, its generation has gone on. -/
structure Vacates (t : HandleTable) (i g g' : Nat) (t' : HandleTable) : Prop where
  writes : t.Writes i ⟨g', none⟩ t'
  le : g ≤ g'
  lt : g' < generations
  free_nodup : t'.free.Nodup
  mem_free : ∀ {j}, j ∈ t'.free → j ∈ t.free ∨ j = i
  lt_of_mem_free : i ∈ t'.free → g < g'
  length_eq : t'.slots.length = t.slots.length

theorem Vacates.loses {t t' : HandleTable} {i g g' : Nat} {x : Instance}
    (vacates : Vacates t i g g' t') (tidy : t.Tidy) (hs : t.slots[i]? = some ⟨g, some x⟩) :
    Loses t [i] t' := by
  have htidy : t'.Tidy := {
    slot_lt := fun {j s} hs' => by
      by_cases hj : j = i
      · subst hj
        cases vacates.writes.getElem?_self.symm.trans hs'
        exact ⟨(tidy.slot_lt hs).1, vacates.lt⟩
      · rw [vacates.writes.getElem?_of_ne hj] at hs'
        exact tidy.slot_lt hs'
    free_nodup := vacates.free_nodup
    free_vacant := fun j hj => by
      by_cases hj' : j = i
      · subst hj'
        exact ⟨g', vacates.writes.getElem?_self⟩
      · rw [vacates.writes.getElem?_of_ne hj']
        exact tidy.free_vacant j ((vacates.mem_free hj).resolve_right hj') }
  refine ⟨htidy, ?_, ?_, vacates.length_eq⟩
  · rintro k ⟨j, s, g₀, hs₀, rfl, hle, hfree⟩
    by_cases hj : j = i
    · subst hj
      cases hs.symm.trans hs₀
      exact ⟨j, _, g₀, vacates.writes.getElem?_self, rfl, Nat.le_trans hle vacates.le,
        fun hj => Nat.lt_of_le_of_lt hle (vacates.lt_of_mem_free hj)⟩
    · exact ⟨j, s, g₀, (vacates.writes.getElem?_of_ne hj).trans hs₀, rfl, hle,
        fun hj' => hfree ((vacates.mem_free hj').resolve_right hj)⟩
  · intro k j y
    rw [vacates.writes.find?_eq_some_iff tidy htidy, List.mem_singleton]
    simp [and_comm]

/-- **Releasing a slot takes its instance away**, and nothing else. -/
theorem Tidy.loses_release {t : HandleTable} (tidy : t.Tidy) {h : Handle} {i : Nat} {x : Instance}
    (found : t.find? h = some (i, x)) : Loses t [i] (t.release i) := by
  obtain ⟨g, hs, -⟩ := tidy.find?_eq_some_iff.mp found
  have hnotfree : i ∉ t.free := tidy.not_mem_free hs
  have hgetD : t.slots.getD i default = ⟨g, some x⟩ := by
    rw [List.getD_eq_getElem?_getD, hs]
    rfl
  simp only [release, hgetD]
  split
  · next hg =>
    have hvacates : Vacates t i g (g + 1) ⟨t.slots.set i ⟨g + 1, none⟩, i :: t.free⟩ := {
      writes := fun j => by
        rw [List.getElem?_set]
        grind
      le := Nat.le_succ g
      lt := hg
      free_nodup := List.nodup_cons.mpr ⟨hnotfree, tidy.free_nodup⟩
      mem_free := fun hj => (List.mem_cons.mp hj).symm
      lt_of_mem_free := fun _ => Nat.lt_succ_self g
      length_eq := List.length_set }
    exact hvacates.loses tidy hs
  · have hvacates : Vacates t i g g (t.occupy i none) := {
      writes := writes_occupy hs none
      le := Nat.le_refl g
      lt := (tidy.slot_lt hs).2
      free_nodup := tidy.free_nodup
      mem_free := .inl
      lt_of_mem_free := fun hi => absurd hi hnotfree
      length_eq := List.length_modify _ _ _ }
    exact hvacates.loses tidy hs

/-- Slots that are released one after the other lose their instances. -/
theorem Tidy.loses_foldl_release {t : HandleTable} (tidy : t.Tidy) {slots : List Nat}
    (nodup : slots.Nodup) (found : ∀ i ∈ slots, ∃ h x, t.find? h = some (i, x)) :
    Loses t slots (slots.foldl release t) := by
  induction slots generalizing t with
  | nil => exact tidy.loses_nil
  | cons i slots ih =>
    obtain ⟨hi, hnodup⟩ := List.nodup_cons.mp nodup
    obtain ⟨⟨h, x, hx⟩, hfound⟩ := List.forall_mem_cons.mp found
    have hloses := tidy.loses_release hx
    have hrest : Loses (t.release i) slots (slots.foldl release (t.release i)) := by
      refine ih hloses.tidy hnodup fun j hj => ?_
      obtain ⟨k, y, hy⟩ := hfound j hj
      refine ⟨k, y, hloses.find?_iff.mpr ⟨hy, ?_⟩⟩
      rw [List.mem_singleton]
      rintro rfl
      exact hi hj
    exact hloses.trans hrest

theorem mem_occupied_iff {t : HandleTable} {i : Nat} :
    i ∈ t.occupied ↔ ∃ g x, t.slots[i]? = some ⟨g, some x⟩ := by
  rw [occupied, List.mem_filter, List.mem_range, List.getD_eq_getElem?_getD]
  constructor
  · rintro ⟨hi, hsome⟩
    rw [List.getElem?_eq_getElem hi] at hsome ⊢
    obtain ⟨x, hx⟩ : ∃ x, t.slots[i].occupant = some x := Option.isSome_iff_exists.mp hsome
    exact ⟨t.slots[i].generation, x, by rw [← hx]⟩
  · rintro ⟨g, x, hs⟩
    obtain ⟨hi, -⟩ := List.getElem?_eq_some_iff.mp hs
    exact ⟨hi, by rw [hs]; rfl⟩

theorem Tidy.mem_occupied_of_find? {t : HandleTable} (tidy : t.Tidy) {h : Handle} {i : Nat}
    {x : Instance} (found : t.find? h = some (i, x)) : i ∈ t.occupied := by
  obtain ⟨g, hs, -⟩ := tidy.find?_eq_some_iff.mp found
  exact mem_occupied_iff.mpr ⟨g, x, hs⟩

/-- **Clearing takes all instances away.** -/
theorem Tidy.loses_clear {t : HandleTable} (tidy : t.Tidy) : Loses t t.occupied t.clear.1 := by
  apply tidy.loses_foldl_release (List.nodup_range.filter _)
  intro i hi
  obtain ⟨g, x, hs⟩ := mem_occupied_iff.mp hi
  exact ⟨_, x, tidy.find?_eq_some_iff.mpr ⟨g, hs, rfl⟩⟩

/-! ### Counting -/

/-- Every occupant is of one of the two kinds. -/
theorem countP_isSome_occupant (slots : List Slot) :
    slots.countP (·.occupant.isSome) =
      slots.countP (fun s => s.occupant.any fun x => x.kind = .blockchain) +
        slots.countP fun s => s.occupant.any fun x => x.kind = .consensus := by
  induction slots with
  | nil => rfl
  | cons s slots ih =>
    rw [List.countP_cons, List.countP_cons, List.countP_cons, ih]
    rcases s with ⟨g, _ | _ | _⟩ <;> simp [Instance.kind] <;> omega

/-- Clearing counts the instances of both kinds. -/
theorem clear_snd (t : HandleTable) : t.clear.2 = t.count .blockchain + t.count .consensus := by
  have hslots : (List.range t.slots.length).map (t.slots.getD · default) = t.slots := by
    apply List.ext_getElem
    · simp
    · intro i _ hi
      simp [hi]
  have hoccupied : t.occupied.length = t.slots.countP (·.occupant.isSome) := by
    rw [occupied, ← List.countP_eq_length_filter]
    conv => rhs; rw [← hslots]
    rw [List.countP_map]
    rfl
  exact hoccupied.trans (countP_isSome_occupant t.slots)

/-! ### Look-up and removal -/

theorem blockchain_eq_ok_iff {t : HandleTable} {h : Handle} {slot : Nat} {a : Application} :
    t.blockchain h = .ok (slot, a) ↔ t.find? h = some (slot, .blockchain a) := by
  unfold blockchain
  split <;> simp_all

theorem consensus_eq_ok_iff {t : HandleTable} {h : Handle} {slot : Nat} {r : Rotation} :
    t.consensus h = .ok (slot, r) ↔ t.find? h = some (slot, .consensus r) := by
  unfold consensus
  split <;> simp_all

theorem kind_report_of_blockchain_error {t : HandleTable} {h : Handle} {e : Error}
    (he : t.blockchain h = .error e) : e.report.kind = .invalidParameter := by
  unfold blockchain at he
  split at he <;> cases he <;> rfl

theorem kind_report_of_consensus_error {t : HandleTable} {h : Handle} {e : Error}
    (he : t.consensus h = .error e) : e.report.kind = .invalidParameter := by
  unfold consensus at he
  split at he <;> cases he <;> rfl

theorem remove_eq_ok_iff {t : HandleTable} {h : Handle} {kind : InstanceKind} :
    (t.remove h kind).2 = .ok () ↔ ∃ slot x, t.find? h = some (slot, x) ∧ x.kind = kind := by
  unfold remove
  split
  · simp_all
  · split <;> simp_all

/-- A removal that is refused changes nothing. -/
theorem eq_of_remove_error {t t' : HandleTable} {h : Handle} {kind : InstanceKind} {e : Error}
    (he : t.remove h kind = (t', .error e)) : t' = t ∧ e.report.kind = .invalidParameter := by
  unfold remove at he
  split at he
  · cases he
    exact ⟨rfl, rfl⟩
  · split at he
    · cases he
    · cases he
      exact ⟨rfl, rfl⟩

end HandleTable

end HostedLedger

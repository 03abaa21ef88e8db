import HostedLedger.SortedMap.Lemmas
import Mathlib.Data.Finset.Card

/-!
# Insertions one after the other

A map that is built by insertions holds for each key the value that has been inserted last. So it
depends on these values alone, not on the order of the insertions or on what has been overwritten.

## Main definitions

* `SortedMap.lastValue?`: the last value for a key in a list of entries

## Main results

* `SortedMap.lastValue?_of_last`, `SortedMap.lastValue?_eq_some_iff`: the entry with the last value
* `SortedMap.get?_insertMany_empty`: look-up finds the last value
* `SortedMap.insertMany_empty_eq`: entries with the same last values make the same map
* `SortedMap.size_insertMany_empty`: there are as many entries as different keys
-/

namespace HostedLedger

namespace SortedMap

variable {κ ν : Type} [DecidableEq κ]

/-- The last value that a list of entries has for a key. -/
def lastValue? (es : List (κ × ν)) (k : κ) : Option ν :=
  (es.filter fun e => e.1 = k).getLast?.map (·.2)

theorem lastValue?_append_singleton (es : List (κ × ν)) (e : κ × ν) (k : κ) :
    lastValue? (es ++ [e]) k = if k = e.1 then some e.2 else lastValue? es k := by
  rw [lastValue?, List.filter_append]
  by_cases hk : k = e.1
  · simp [hk]
  · simp [hk, Ne.symm hk, lastValue?]

theorem exists_lastValue?_iff {es : List (κ × ν)} {k : κ} :
    (∃ v, lastValue? es k = some v) ↔ k ∈ es.map (·.1) := by
  induction es using List.reverseRecOn with
  | nil => simp [lastValue?]
  | append_singleton es e ih =>
    rw [lastValue?_append_singleton, List.map_append, List.mem_append, ← ih]
    split <;> simp [*]

theorem lastValue?_eq_none_iff {es : List (κ × ν)} {k : κ} :
    lastValue? es k = none ↔ ∀ e ∈ es, e.1 ≠ k := by
  constructor
  · intro hnone e he hk
    obtain ⟨v, hv⟩ := exists_lastValue?_iff.mpr (List.mem_map.mpr ⟨e, he, hk⟩)
    rw [hnone] at hv
    cases hv
  · intro h
    rw [Option.eq_none_iff_forall_ne_some]
    intro v hv
    obtain ⟨e, he, hk⟩ := List.mem_map.mp (exists_lastValue?_iff.mp ⟨v, hv⟩)
    exact h e he hk

/-- An entry has the last value of its key, if the key does not come again behind it. -/
theorem lastValue?_of_last {k : κ} (v : ν) (before : List (κ × ν)) {after : List (κ × ν)}
    (h : ∀ e ∈ after, e.1 ≠ k) : lastValue? (before ++ (k, v) :: after) k = some v := by
  have hafter : after.filter (fun e => e.1 = k) = [] := by
    rw [List.filter_eq_nil_iff]
    intro e he
    simpa using h e he
  rw [lastValue?, List.filter_append, List.filter_cons_of_pos (by simp), hafter]
  simp

/-- Among entries with different keys, each one has the last value of its key. -/
theorem lastValue?_eq_some_iff {es : List (κ × ν)} (nodup : (es.map (·.1)).Nodup) {k : κ} {v : ν} :
    lastValue? es k = some v ↔ (k, v) ∈ es := by
  induction es using List.reverseRecOn with
  | nil => simp [lastValue?]
  | append_singleton es e ih =>
    rw [List.map_append, List.nodup_append] at nodup
    obtain ⟨hnodup, -, hdisjoint⟩ := nodup
    rw [lastValue?_append_singleton, List.mem_append, List.mem_singleton]
    by_cases hk : k = e.1
    · subst hk
      have hnew : (e.1, v) ∉ es := fun hmem =>
        hdisjoint e.1 (List.mem_map.mpr ⟨_, hmem, rfl⟩) e.1 (by simp) rfl
      simp [hnew, Prod.ext_iff, eq_comm]
    · simp [hk, ih hnodup, Prod.ext_iff]

variable [Ord κ] [Std.TransOrd κ] [Std.LawfulEqOrd κ]

/-- A map that has been built from entries holds the last value of each key. -/
theorem get?_insertMany_empty (es : List (κ × ν)) (k : κ) :
    (insertMany ∅ es).get? k = lastValue? es k := by
  induction es using List.reverseRecOn with
  | nil => rfl
  | append_singleton es e ih =>
    rw [lastValue?_append_singleton, ← ih, ← get?_insert, insertMany, List.foldl_append]
    rfl

/-- Entries with the same last values make the same map. -/
theorem insertMany_empty_eq {es fs : List (κ × ν)} (h : ∀ k, lastValue? es k = lastValue? fs k) :
    (insertMany ∅ es : SortedMap κ ν) = insertMany ∅ fs := by
  apply ext_get?
  intro k
  rw [get?_insertMany_empty, get?_insertMany_empty, h]

/-- A map that has been built from entries has as many entries as there are different keys. -/
theorem size_insertMany_empty (es : List (κ × ν)) :
    (insertMany ∅ es).size = (es.map (·.1)).toFinset.card := by
  have hnodup : (insertMany ∅ es).keys.Nodup := List.pairwise_map.mpr (pairwise_ne _)
  have hsize : (insertMany ∅ es).keys.length = (insertMany ∅ es).size := List.length_map _
  rw [← hsize, ← List.toFinset_card_of_nodup hnodup]
  congr 1
  ext k
  rw [List.mem_toFinset, List.mem_toFinset, ← exists_lastValue?_iff]
  simp [← get?_insertMany_empty, get?_eq_some_iff, keys]

end SortedMap

end HostedLedger

import HostedLedger.SortedMap.Basic
import Mathlib.Algebra.GroupWithZero.Nat

/-!
# Look-up in sorted maps

What look-up answers after writing and removal, that a map is known by its answers, and how a sum
over its values changes when one is written.

## Main results

* `SortedMap.get?_insert`, `SortedMap.get?_erase`: look-up after writing and removal
* `SortedMap.get?_insertMany`: look-up after entries with different keys have been written
* `SortedMap.get?_eq_some_iff`: look-up finds the entries
* `SortedMap.ext_get?`: maps that answer every look-up alike are equal
* `SortedMap.insert_insert`, `SortedMap.insert_comm`: two writes, to one key or to two
* `SortedMap.sum_insert`, `SortedMap.sum_erase`: writing a value replaces one summand, and erasing
  a key takes one away
-/

namespace HostedLedger

namespace SortedMap

variable {κ ν : Type} [Ord κ]

@[simp] theorem get?_empty (k : κ) : (∅ : SortedMap κ ν).get? k = none := rfl

section Lookup

variable [Std.LawfulEqOrd κ]

theorem lookup_write_of_ne {k k' : κ} (h : k' ≠ k) (v : ν) (es : List (κ × ν)) :
    lookup k' (write k v es) = lookup k' es := by
  induction es with
  | nil => simp [write, lookup, h]
  | cons e es ih =>
    rw [write]
    split
    · simp [lookup, h]
    · next heq =>
      have : k = e.1 := by simpa using heq
      simp [lookup, h, ← this]
    · simp [lookup, ih]

theorem lookup_filter_ne [DecidableEq κ] (k k' : κ) (es : List (κ × ν)) :
    lookup k' (es.filter fun e => compare k e.1 ≠ .eq) =
      if k' = k then none else lookup k' es := by
  induction es with
  | nil => simp [lookup]
  | cons e es ih =>
    by_cases hk : k = e.1
    · simp [hk, lookup]
      grind
    · by_cases hk' : k' = e.1
      · simp [hk', hk, lookup, Ne.symm hk]
      · simp [hk, hk', lookup, ← ih]

theorem get?_erase [DecidableEq κ] (m : SortedMap κ ν) (k k' : κ) :
    (m.erase k).get? k' = if k' = k then none else m.get? k' :=
  lookup_filter_ne k k' m.entries

end Lookup

variable [Std.TransOrd κ] [Std.LawfulEqOrd κ]

omit [Std.TransOrd κ] in
theorem lookup_write_self (k : κ) (v : ν) (es : List (κ × ν)) :
    lookup k (write k v es) = some v := by
  induction es with
  | nil => simp [write, lookup]
  | cons e es ih =>
    rw [write]
    split
    · simp [lookup]
    · simp [lookup]
    · next hgt => simp [lookup, hgt, ih]

@[simp] theorem get?_insert_self (m : SortedMap κ ν) (k : κ) (v : ν) :
    (m.insert k v).get? k = some v := lookup_write_self k v m.entries

theorem get?_insert_of_ne (m : SortedMap κ ν) {k k' : κ} (h : k' ≠ k) (v : ν) :
    (m.insert k v).get? k' = m.get? k' := lookup_write_of_ne h v m.entries

theorem get?_insert [DecidableEq κ] (m : SortedMap κ ν) (k k' : κ) (v : ν) :
    (m.insert k v).get? k' = if k' = k then some v else m.get? k' := by
  split
  · next h => rw [h, get?_insert_self]
  · next h => exact get?_insert_of_ne m h v

omit [Std.TransOrd κ] in
theorem lookup_eq_some_iff {es : List (κ × ν)}
    (h : es.Pairwise fun x y => compare x.1 y.1 = .lt) {k : κ} {v : ν} :
    lookup k es = some v ↔ (k, v) ∈ es := by
  induction es with
  | nil => simp [lookup]
  | cons e es ih =>
    obtain ⟨k', v'⟩ := e
    rw [List.pairwise_cons] at h
    by_cases hk : k = k'
    · subst hk
      have : (k, v) ∉ es := fun hv => by simpa using h.1 _ hv
      simp [lookup, this, eq_comm]
    · simp [lookup, hk, ih h.2]

omit [Std.TransOrd κ] in
theorem get?_eq_some_iff (m : SortedMap κ ν) {k : κ} {v : ν} :
    m.get? k = some v ↔ (k, v) ∈ m.entries := lookup_eq_some_iff m.sorted

omit [Std.TransOrd κ] [Std.LawfulEqOrd κ] in
/-- A list holds nothing for a key that is not the key of an entry. -/
theorem lookup_eq_none {k : κ} {es : List (κ × ν)} (h : ∀ x ∈ es, compare k x.1 ≠ .eq) :
    lookup k es = none := by
  induction es with
  | nil => rfl
  | cons e es ih =>
    rw [lookup, if_neg (h e (List.mem_cons_self ..))]
    exact ih fun x hx => h x (List.mem_cons_of_mem _ hx)

omit [Std.TransOrd κ] in
/-- Giving keys other names and values another form does not change what is found. -/
theorem lookup_map {κ' ν' : Type} [Ord κ'] [Std.LawfulEqOrd κ'] {f : κ → κ'}
    (hf : Function.Injective f) (g : ν → ν') (k : κ) (es : List (κ × ν)) :
    lookup (f k) (es.map fun e => (f e.1, g e.2)) = (lookup k es).map g := by
  induction es with
  | nil => rfl
  | cons e es ih =>
    by_cases hk : k = e.1
    · simp [lookup, hk]
    · simp [lookup, hk, hf.ne hk, ih]

omit [Std.TransOrd κ] in
/-- No two entries of a map have one key. -/
theorem pairwise_ne (m : SortedMap κ ν) : m.entries.Pairwise fun x y => x.1 ≠ y.1 :=
  m.sorted.imp fun hlt heq => by simp [heq] at hlt

/-- Writing entries with different keys puts them in front of what was there. -/
theorem get?_insertMany (m : SortedMap κ ν) {es : List (κ × ν)}
    (h : es.Pairwise fun x y => x.1 ≠ y.1) (k : κ) :
    (m.insertMany es).get? k = (lookup k es <|> m.get? k) := by
  induction es generalizing m with
  | nil => rfl
  | cons e es ih =>
    obtain ⟨k', v⟩ := e
    rw [List.pairwise_cons] at h
    have ih := ih (m.insert k' v) h.2
    by_cases hk : k = k'
    · subst hk
      have absent : lookup k es = none := lookup_eq_none fun x hx => by simpa using h.1 x hx
      rw [absent, get?_insert_self] at ih
      simpa [lookup, insertMany] using ih
    · rw [get?_insert_of_ne m hk] at ih
      simpa [lookup, insertMany, hk] using ih

omit [Std.LawfulEqOrd κ] in
/-- Writing entries adds no entry but these. -/
theorem mem_entries_insertMany {m : SortedMap κ ν} {es : List (κ × ν)} {x : κ × ν}
    (h : x ∈ (m.insertMany es).entries) : x ∈ es ∨ x ∈ m.entries := by
  induction es generalizing m with
  | nil => exact .inr h
  | cons e es ih =>
    rcases ih h with hx | hx
    · exact .inl (List.mem_cons_of_mem _ hx)
    · rcases mem_write hx with rfl | hx
      · exact .inl (List.mem_cons_self ..)
      · exact .inr hx

omit [Std.LawfulEqOrd κ] in
theorem sum_write (f : ν → Nat) (k : κ) (v : ν) {es : List (κ × ν)}
    (h : es.Pairwise fun x y => compare x.1 y.1 = .lt) :
    ((write k v es).map fun e => f e.2).sum + ((lookup k es).map f).getD 0 =
      (es.map fun e => f e.2).sum + f v := by
  induction es with
  | nil => simp [write, lookup]
  | cons e es ih =>
    obtain ⟨k', v'⟩ := e
    rw [List.pairwise_cons] at h
    rw [write]
    split
    · next hlt =>
      have absent : lookup k ((k', v') :: es) = none := lookup_eq_none fun x hx => by
        have hx : compare k x.1 = .lt := by
          rcases List.mem_cons.mp hx with rfl | hx
          · exact hlt
          · exact Std.TransCmp.lt_trans hlt (h.1 x hx)
        simp [hx]
      rw [absent]
      simp only [List.map_cons, List.sum_cons, Option.map_none, Option.getD_none]
      omega
    · next heq =>
      simp only [lookup, heq, if_true, List.map_cons, List.sum_cons, Option.map_some,
        Option.getD_some]
      omega
    · next hgt =>
      have ih := ih h.2
      rw [lookup, if_neg (by simp [hgt])]
      simp only [List.map_cons, List.sum_cons]
      omega

omit [Std.LawfulEqOrd κ] in
/-- A sum over the values of a map loses the old value of the key that is written, if it has one,
and gains the new one. -/
theorem sum_insert (f : ν → Nat) (m : SortedMap κ ν) (k : κ) (v : ν) :
    ((m.insert k v).values.map f).sum + ((m.get? k).map f).getD 0 =
      (m.values.map f).sum + f v := by
  have := sum_write f k v m.sorted
  simpa only [values, List.map_map, insert, get?, Function.comp_def] using this

omit [Std.TransOrd κ] in
theorem sum_filter_ne (f : ν → Nat) (k : κ) {es : List (κ × ν)}
    (h : es.Pairwise fun x y => compare x.1 y.1 = .lt) :
    ((es.filter fun e => compare k e.1 ≠ .eq).map fun e => f e.2).sum +
        ((lookup k es).map f).getD 0 =
      (es.map fun e => f e.2).sum := by
  induction es with
  | nil => simp [lookup]
  | cons e es ih =>
    obtain ⟨k', v'⟩ := e
    rw [List.pairwise_cons] at h
    have ih := ih h.2
    by_cases hk : k = k'
    · subst hk
      have absent : lookup k es = none := lookup_eq_none fun x hx => by simp [h.1 x hx]
      rw [absent] at ih
      simp only [Option.map_none, Option.getD_none, Nat.add_zero] at ih
      rw [List.filter_cons_of_neg (by simp), ih]
      simp [lookup, Nat.add_comm]
    · rw [List.filter_cons_of_pos (by simp [hk]), lookup, if_neg (by simp [hk])]
      simp only [List.map_cons, List.sum_cons]
      omega

omit [Std.TransOrd κ] in
/-- A sum over the values of a map loses the value of the key that is erased, if it has one. -/
theorem sum_erase (f : ν → Nat) (m : SortedMap κ ν) (k : κ) :
    ((m.erase k).values.map f).sum + ((m.get? k).map f).getD 0 = (m.values.map f).sum := by
  have := sum_filter_ne f k m.sorted
  simpa only [values, List.map_map, erase, get?, Function.comp_def] using this

/-- Lists in strictly ascending key order with the same members are equal. -/
theorem eq_of_mem_iff {es fs : List (κ × ν)}
    (hes : es.Pairwise fun x y => compare x.1 y.1 = .lt)
    (hfs : fs.Pairwise fun x y => compare x.1 y.1 = .lt) (h : ∀ x, x ∈ es ↔ x ∈ fs) : es = fs := by
  induction es generalizing fs with
  | nil =>
    cases fs with
    | nil => rfl
    | cons f fs => simpa using h f
  | cons e es ih =>
    cases fs with
    | nil => simpa using h e
    | cons f fs =>
      rw [List.pairwise_cons] at hes hfs
      have hne : ∀ {x y : κ × ν}, compare x.1 y.1 = .lt → x ≠ y := fun hlt hxy => by
        simp [hxy] at hlt
      have head : e = f := by
        rcases List.mem_cons.mp ((h e).mp (List.mem_cons_self ..)) with he | he
        · exact he
        · rcases List.mem_cons.mp ((h f).mpr (List.mem_cons_self ..)) with hf | hf
          · exact hf.symm
          · have := Std.TransCmp.lt_trans (hfs.1 e he) (hes.1 f hf)
            simp at this
      subst head
      congr 1
      refine ih hes.2 hfs.2 fun x => ⟨fun hx => ?_, fun hx => ?_⟩
      · rcases List.mem_cons.mp ((h x).mp (List.mem_cons_of_mem _ hx)) with he | he
        · exact absurd he.symm (hne (hes.1 x hx))
        · exact he
      · rcases List.mem_cons.mp ((h x).mpr (List.mem_cons_of_mem _ hx)) with he | he
        · exact absurd he.symm (hne (hfs.1 x hx))
        · exact he

/-- Maps that answer every look-up alike are equal. -/
theorem ext_get? {m n : SortedMap κ ν} (h : ∀ k, m.get? k = n.get? k) : m = n := by
  refine SortedMap.ext (eq_of_mem_iff m.sorted n.sorted fun ⟨k, v⟩ => ?_)
  rw [← get?_eq_some_iff, ← get?_eq_some_iff, h]

/-- Of two writes to one key the second counts. -/
theorem insert_insert [DecidableEq κ] (m : SortedMap κ ν) (k : κ) (v w : ν) :
    (m.insert k v).insert k w = m.insert k w := by
  apply ext_get?
  intro k'
  rw [get?_insert, get?_insert, get?_insert]
  split <;> rfl

/-- Writes to different keys may change places. -/
theorem insert_comm [DecidableEq κ] (m : SortedMap κ ν) {k l : κ} (h : k ≠ l) (v w : ν) :
    (m.insert k v).insert l w = (m.insert l w).insert k v := by
  apply ext_get?
  intro k'
  rw [get?_insert, get?_insert, get?_insert, get?_insert]
  by_cases hk : k' = k
  · rw [if_pos hk, if_pos hk, if_neg (hk ▸ h)]
  · rw [if_neg hk, if_neg hk]

end SortedMap

end HostedLedger

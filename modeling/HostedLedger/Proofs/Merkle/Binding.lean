import HostedLedger.Bytes.Lemmas
import HostedLedger.Merkle
import HostedLedger.Proofs.Digest.Collision
import Mathlib.Data.List.Basic

/-!
# What a Merkle root commits to

A root is a digest of digests of entries. Going down from two equal roots in step, either the byte
strings that are hashed agree at every node, and then the entries are the same, or two different
byte strings have one digest. The shapes of the trees are not compared: an inner node cannot pass
for a leaf, because their byte strings start differently, and a node that has moved up without a
neighbour is still the node that it was.

A tree without leaves is given the zero digest, which nothing has been hashed for, so an empty and a
nonempty tree may also share a root when the byte string of the latter's root has the zero digest.

## Main definitions

* `Merkle.hashed`: the byte strings that are hashed for a list of entries, the root's as the last
* `Merkle.Node`, `Merkle.Level`: the entries below a digest, and below the digests of a level
* `Merkle.EqUpToDigests`: two values are equal, up to what the digests of their trees cannot tell

## Main results

* `Merkle.Level.node_root`: the entries below the root are all the entries
* `Merkle.Node.entries_eq`: without a collision a digest tells the entries below it
* `Merkle.eqUpToDigests_of_root_eq`: lists of entries with one root are equal, up to a collision
* `Merkle.eqUpToDigests_of_orderedRoot_eq`, `MerkleTree.eqUpToDigests_of_root_eq`: the same for
  lists of digests and for maps
-/

namespace HostedLedger

open Digest

namespace Merkle

/-! ### What is hashed -/

/-- What is hashed for the nodes of the level above a level. -/
def pairPreimages : List Digest → List Bytes
  | left :: right :: rest => innerPreimage left right :: pairPreimages rest
  | _ => []

/-- What is hashed for the inner nodes above a list of leaves, level by level. -/
def innerPreimages : List Digest → List Bytes
  | [] => []
  | [_] => []
  | left :: right :: rest =>
    pairPreimages (left :: right :: rest) ++ innerPreimages (pairUp (left :: right :: rest))
termination_by level => level.length
decreasing_by
  simp only [length_pairUp, List.length_cons]
  omega

/-- The leaves of a list of entries. -/
def leaves (entries : List (Bytes × Bytes)) : List Digest := entries.map fun e => leaf e.1 e.2

/-- What is hashed for a list of entries: the leaves, then the inner nodes. -/
def hashed (entries : List (Bytes × Bytes)) : List Bytes :=
  (entries.map fun e => leafPreimage e.1 e.2) ++ innerPreimages (leaves entries)

/-- The byte string that is hashed for the root has the zero digest. -/
def ZeroRoot (entries : List (Bytes × Bytes)) : Prop :=
  ∃ top, (hashed entries).getLast? = some top ∧ blake3 top = Digest.zero

theorem innerPreimages_eq_nil_of_length_le_one {level : List Digest} (h : level.length ≤ 1) :
    innerPreimages level = [] := by
  match level, h with
  | [], _ => rw [innerPreimages]
  | [_], _ => rw [innerPreimages]

/-- With two leaves or more, the root is hashed last. -/
theorem exists_getLast?_innerPreimages {level : List Digest} (h : 2 ≤ level.length) :
    ∃ top, (innerPreimages level).getLast? = some top ∧ blake3 top = root level := by
  fun_induction root level with
  | case1 => simp at h
  | case2 => simp at h
  | case3 left right rest ih =>
    rw [innerPreimages]
    have hlength := length_pairUp (left :: right :: rest)
    simp only [List.length_cons] at hlength
    rcases Nat.lt_or_ge (pairUp (left :: right :: rest)).length 2 with hone | htwo
    · obtain rfl : rest = [] := List.eq_nil_of_length_eq_zero (by omega)
      refine ⟨innerPreimage left right, ?_, by simp [pairUp, root, inner]⟩
      rw [innerPreimages_eq_nil_of_length_le_one (by omega)]
      rfl
    · obtain ⟨top, hlast, htop⟩ := ih htwo
      exact ⟨top, by rw [List.getLast?_append, hlast]; rfl, htop⟩

/-- The root is hashed last, unless nothing is hashed at all. -/
theorem exists_getLast?_hashed {entries : List (Bytes × Bytes)} (h : entries ≠ []) :
    ∃ top, (hashed entries).getLast? = some top ∧ blake3 top = root (leaves entries) := by
  match entries, h with
  | [e], _ =>
    refine ⟨leafPreimage e.1 e.2, ?_, by simp [leaves, root, leaf]⟩
    rw [hashed, innerPreimages_eq_nil_of_length_le_one (by simp [leaves])]
    rfl
  | e :: f :: rest, _ =>
    have htwo : 2 ≤ (leaves (e :: f :: rest)).length := by simp [leaves]
    obtain ⟨top, hlast, htop⟩ := exists_getLast?_innerPreimages htwo
    exact ⟨top, by rw [hashed, List.getLast?_append, hlast]; rfl, htop⟩

/-! ### Byte strings of nodes -/

theorem leafPreimage_ne_innerPreimage (key value : Bytes) (left right : Digest) :
    leafPreimage key value ≠ innerPreimage left right := by
  intro h
  have hfirst := (List.cons.inj h).1
  simp at hfirst

/-- The length in front of the key tells where it ends, as long as it fits in its four bytes. -/
theorem leafPreimage_inj {key key' value value' : Bytes} (short : key.length < UInt32.size)
    (short' : key'.length < UInt32.size) (h : leafPreimage key value = leafPreimage key' value') :
    key = key' ∧ value = value' := by
  have htail := (List.cons.inj h).2
  rw [List.append_assoc, List.append_assoc] at htail
  obtain ⟨hsize, hrest⟩ := List.append_inj htail (by simp)
  have hlength : key.length = key'.length := by
    have hread : Bytes.toNat (Bytes.ofNat 4 key.length) = key.length := Bytes.toNat_ofNat short
    rw [← hread, hsize, Bytes.toNat_ofNat short']
  exact List.append_inj hrest hlength

theorem innerPreimage_inj {left right left' right' : Digest}
    (h : innerPreimage left right = innerPreimage left' right') :
    left = left' ∧ right = right' := by
  have htail := (List.cons.inj h).2
  obtain ⟨hleft, hright⟩ :=
    List.append_inj htail (left.length_bytes.trans left'.length_bytes.symm)
  exact ⟨Digest.ext hleft, Digest.ext hright⟩

/-! ### The entries below a digest -/

/-- A digest has been made of entries, by hashing byte strings of a set. -/
inductive Node (strings : Set Bytes) : Digest → List (Bytes × Bytes) → Prop
  | leaf {key value : Bytes} (mem : leafPreimage key value ∈ strings) :
    Node strings (leaf key value) [(key, value)]
  | inner {left right : Digest} {xs ys : List (Bytes × Bytes)}
    (mem : innerPreimage left right ∈ strings) (below_left : Node strings left xs)
    (below_right : Node strings right ys) : Node strings (inner left right) (xs ++ ys)

/-- The digests of a level have been made of entries, in their order. -/
inductive Level (strings : Set Bytes) : List Digest → List (Bytes × Bytes) → Prop
  | nil : Level strings [] []
  | cons {d : Digest} {ds : List Digest} {xs ys : List (Bytes × Bytes)}
    (node : Node strings d xs) (level : Level strings ds ys) : Level strings (d :: ds) (xs ++ ys)

variable {strings : Set Bytes}

theorem Level.leaves {entries : List (Bytes × Bytes)}
    (h : ∀ e ∈ entries, leafPreimage e.1 e.2 ∈ strings) :
    Level strings (leaves entries) entries := by
  induction entries with
  | nil => exact .nil
  | cons e entries ih =>
    obtain ⟨he, hentries⟩ := List.forall_mem_cons.mp h
    exact .cons (.leaf he) (ih hentries)

/-- The level above a level is made of the same entries. -/
theorem Level.pairUp {level : List Digest} {entries : List (Bytes × Bytes)}
    (mem : ∀ s ∈ pairPreimages level, s ∈ strings) (h : Level strings level entries) :
    Level strings (pairUp level) entries := by
  fun_induction Merkle.pairUp level generalizing entries with
  | case1 left right rest ih =>
    obtain ⟨hmem, hrest⟩ := List.forall_mem_cons.mp mem
    cases h with
    | @cons _ _ xs _ hleft h =>
    cases h with
    | @cons _ _ ys zs hright h =>
    rw [← List.append_assoc]
    exact .cons (.inner hmem hleft hright) (ih hrest h)
  | case2 => exact h

/-- The entries below the root are those of the level. -/
theorem Level.node_root {level : List Digest} {entries : List (Bytes × Bytes)}
    (nonempty : level ≠ []) (mem : ∀ s ∈ innerPreimages level, s ∈ strings)
    (h : Level strings level entries) : Node strings (root level) entries := by
  fun_induction root level with
  | case1 => exact absurd rfl nonempty
  | case2 top =>
    cases h with
    | cons hnode hnil =>
    cases hnil
    rwa [List.append_nil]
  | case3 left right rest ih =>
    rw [innerPreimages] at mem
    obtain ⟨hlevel, habove⟩ := List.forall_mem_append.mp mem
    have hne : Merkle.pairUp (left :: right :: rest) ≠ [] := by simp [Merkle.pairUp]
    exact ih hne habove (h.pairUp hlevel)

/-- **Without a collision a digest tells the entries below it.** -/
theorem Node.entries_eq (distinct : ¬ Collides blake3 strings) {d d' : Digest}
    {xs ys : List (Bytes × Bytes)} (hx : Node strings d xs) (hy : Node strings d' ys)
    (shortx : ∀ e ∈ xs, e.1.length < UInt32.size) (shorty : ∀ e ∈ ys, e.1.length < UInt32.size)
    (h : d = d') : xs = ys := by
  -- Both digests are taken apart at once; a leaf above an inner node would be a collision.
  induction hx generalizing d' ys with
  | @leaf key value hmem =>
    cases hy with
    | @leaf key' value' hmem' =>
      have hsame := eq_of_not_collides distinct hmem hmem' h
      obtain ⟨rfl, rfl⟩ := leafPreimage_inj (shortx _ (List.mem_singleton_self _))
        (shorty _ (List.mem_singleton_self _)) hsame
      rfl
    | inner hmem' =>
      have hsame := eq_of_not_collides distinct hmem hmem' h
      exact absurd hsame (leafPreimage_ne_innerPreimage _ _ _ _)
  | inner hmem _ _ ihleft ihright =>
    cases hy with
    | leaf hmem' =>
      have hsame := eq_of_not_collides distinct hmem hmem' h
      exact absurd hsame.symm (leafPreimage_ne_innerPreimage _ _ _ _)
    | inner hmem' hleft' hright' =>
      have hsame := eq_of_not_collides distinct hmem hmem' h
      obtain ⟨rfl, rfl⟩ := innerPreimage_inj hsame
      obtain ⟨shortx, shortx'⟩ := List.forall_mem_append.mp shortx
      obtain ⟨shorty, shorty'⟩ := List.forall_mem_append.mp shorty
      rw [ihleft hleft' shortx shorty rfl, ihright hright' shortx' shorty' rfl]

/-! ### Equal roots -/

/-- Two values with entries are equal; or two different byte strings that are hashed for them have
one digest; or just one of them is empty, and the byte string of the other one's root has the zero
digest. -/
def EqUpToDigests {α : Type} [EmptyCollection α] (entries : α → List (Bytes × Bytes)) (x y : α) :
    Prop :=
  x = y ∨ Collides blake3 {s | s ∈ hashed (entries x) ∨ s ∈ hashed (entries y)} ∨
    x = ∅ ∧ y ≠ ∅ ∧ ZeroRoot (entries y) ∨ x ≠ ∅ ∧ y = ∅ ∧ ZeroRoot (entries x)

theorem node_root_leaves {entries : List (Bytes × Bytes)} (nonempty : entries ≠ [])
    (h : ∀ s ∈ hashed entries, s ∈ strings) : Node strings (root (leaves entries)) entries := by
  obtain ⟨hleaves, hinner⟩ := List.forall_mem_append.mp h
  have hlevel : Level strings (leaves entries) entries :=
    .leaves fun e he => hleaves _ (List.mem_map_of_mem he)
  exact hlevel.node_root (by simpa [leaves] using nonempty) hinner

theorem zeroRoot_of_root_eq {entries : List (Bytes × Bytes)} (nonempty : entries ≠ [])
    (h : root (leaves entries) = Digest.zero) : ZeroRoot entries := by
  obtain ⟨top, hlast, htop⟩ := exists_getLast?_hashed nonempty
  exact ⟨top, hlast, htop.trans h⟩

/-- Lists of entries with one root are equal, up to what digests cannot tell. -/
theorem eqUpToDigests_of_root_eq {xs ys : List (Bytes × Bytes)}
    (shortx : ∀ e ∈ xs, e.1.length < UInt32.size) (shorty : ∀ e ∈ ys, e.1.length < UInt32.size)
    (h : root (leaves xs) = root (leaves ys)) : EqUpToDigests id xs ys := by
  have hroot : root (leaves []) = Digest.zero := by rw [leaves, List.map_nil, root]
  rcases eq_or_ne xs [] with rfl | hxs <;> rcases eq_or_ne ys [] with rfl | hys
  · exact .inl rfl
  · exact .inr (.inr (.inl ⟨rfl, hys, zeroRoot_of_root_eq hys (h.symm.trans hroot)⟩))
  · exact .inr (.inr (.inr ⟨hxs, rfl, zeroRoot_of_root_eq hxs (h.trans hroot)⟩))
  · rcases Classical.em (Collides blake3 {s | s ∈ hashed xs ∨ s ∈ hashed ys}) with
      hcollides | distinct
    · exact .inr (.inl hcollides)
    · have hx : Node {s | s ∈ hashed xs ∨ s ∈ hashed ys} (root (leaves xs)) xs :=
        node_root_leaves hxs fun s hs => .inl hs
      have hy : Node {s | s ∈ hashed xs ∨ s ∈ hashed ys} (root (leaves ys)) ys :=
        node_root_leaves hys fun s hs => .inr hs
      exact .inl (hx.entries_eq distinct hy shortx shorty h)

/-- What holds of two values holds of those that they stand for. -/
theorem EqUpToDigests.of_injective {α β : Type} [EmptyCollection α] [EmptyCollection β]
    {entries : β → List (Bytes × Bytes)} {f : α → β} (inj : Function.Injective f)
    (map_empty : f ∅ = ∅) {x y : α} (h : EqUpToDigests entries (f x) (f y)) :
    EqUpToDigests (fun z => entries (f z)) x y := by
  have hempty (z : α) : f z = ∅ ↔ z = ∅ := by rw [← map_empty, inj.eq_iff]
  rcases h with heq | hcollides | ⟨hx, hy, hzero⟩ | ⟨hx, hy, hzero⟩
  · exact .inl (inj heq)
  · exact .inr (.inl hcollides)
  · exact .inr (.inr (.inl ⟨(hempty x).mp hx, mt (hempty y).mpr hy, hzero⟩))
  · exact .inr (.inr (.inr ⟨mt (hempty x).mpr hx, (hempty y).mp hy, hzero⟩))

/-- The entries of a list of digests: digests under empty keys. -/
def unkeyed (items : List Digest) : List (Bytes × Bytes) := items.map fun d => ([], d.bytes)

theorem unkeyed_injective : Function.Injective unkeyed := by
  apply List.map_injective_iff.mpr
  intro d d' h
  exact Digest.ext (Prod.mk.inj h).2

/-- Lists of digests with one root are equal, up to what digests cannot tell. -/
theorem eqUpToDigests_of_orderedRoot_eq {ds es : List Digest}
    (h : orderedRoot ds = orderedRoot es) : EqUpToDigests unkeyed ds es := by
  have hroot (items : List Digest) : orderedRoot items = root (leaves (unkeyed items)) := by
    rw [orderedRoot, leaves, unkeyed, List.map_map]
    rfl
  have short (items : List Digest) : ∀ e ∈ unkeyed items, e.1.length < UInt32.size := by
    intro e he
    obtain ⟨d, -, rfl⟩ := List.mem_map.mp he
    show 0 < UInt32.size
    decide
  rw [hroot, hroot] at h
  exact .of_injective unkeyed_injective rfl (eqUpToDigests_of_root_eq (short ds) (short es) h)

end Merkle

/-- Maps with one root are equal, up to what digests cannot tell. -/
theorem MerkleTree.eqUpToDigests_of_root_eq {t u : MerkleTree}
    (short : ∀ k ∈ t.keys, k.length < UInt32.size) (short' : ∀ k ∈ u.keys, k.length < UInt32.size)
    (h : t.root = u.root) : Merkle.EqUpToDigests SortedMap.entries t u := by
  have hentries : Merkle.EqUpToDigests id t.entries u.entries :=
    Merkle.eqUpToDigests_of_root_eq (fun e he => short e.1 (List.mem_map_of_mem he))
      (fun e he => short' e.1 (List.mem_map_of_mem he)) h
  exact hentries.of_injective (fun _ _ => SortedMap.ext) rfl

end HostedLedger

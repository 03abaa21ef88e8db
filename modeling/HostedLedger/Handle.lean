import HostedLedger.Text.Numeral

/-!
# Handles

A handle is the word by which a caller names an instance. The low half holds the number of the
slot, counted from one, and the high half the generation of the slot, so the word zero is no
handle and a slot that is used again gets a new handle.

## Main definitions

* `InstanceKind`: what a handle may name
* `Handle.pack`: the handle of a slot in a generation
* `Handle.slot?`, `Handle.generation`: the two halves

## Main results

* `Handle.slot?_pack`, `Handle.generation_pack`: the halves of a packed handle
* `Handle.pack_generation`: a handle is packed from its halves
* `Handle.pack_inj`: a handle tells what it has been packed from
* `Handle.pack_ne_zero`: a packed handle is not the word zero
-/

namespace HostedLedger

/-- What a handle may name. -/
inductive InstanceKind
  | blockchain
  | consensus
  deriving DecidableEq, Repr

/-- The word for a kind of instance in messages. -/
def InstanceKind.name : InstanceKind → String
  | .blockchain => "blockchain"
  | .consensus => "consensus"

/-- The word by which a caller names an instance. -/
abbrev Handle := UInt64

namespace Handle

/-- The handle of a slot in a generation. -/
def pack (slot generation : Nat) : Handle := UInt64.ofNat (generation * UInt32.size + (slot + 1))

/-- The slot of a handle; none if the low half is zero. -/
def slot? (h : Handle) : Option Nat :=
  if h.toNat % UInt32.size = 0 then none else some (h.toNat % UInt32.size - 1)

/-- The generation of a handle. -/
def generation (h : Handle) : Nat := h.toNat / UInt32.size

theorem toNat_pack {slot generation : Nat} (hs : slot + 1 < UInt32.size)
    (hg : generation < UInt32.size) :
    (pack slot generation).toNat = generation * UInt32.size + (slot + 1) := by
  rw [pack, UInt64.toNat_ofNat']
  simp only [UInt32.size] at *
  omega

theorem slot?_pack {slot generation : Nat} (hs : slot + 1 < UInt32.size)
    (hg : generation < UInt32.size) : slot? (pack slot generation) = some slot := by
  rw [slot?, toNat_pack hs hg]
  simp only [UInt32.size] at *
  rw [if_neg (by omega)]
  congr 1
  omega

theorem generation_pack {slot g : Nat} (hs : slot + 1 < UInt32.size) (hg : g < UInt32.size) :
    generation (pack slot g) = g := by
  rw [generation, toNat_pack hs hg]
  simp only [UInt32.size] at *
  omega

theorem pack_generation {h : Handle} {slot : Nat} (hs : slot? h = some slot) :
    pack slot (generation h) = h := by
  unfold slot? at hs
  split at hs
  · cases hs
  next hlow =>
  cases hs
  have htoNat : generation h * UInt32.size + (h.toNat % UInt32.size - 1 + 1) = h.toNat := by
    simp only [generation, UInt32.size] at *
    omega
  rw [pack, htoNat, UInt64.ofNat_toNat]

theorem pack_inj {slot g slot' g' : Nat} (hs : slot + 1 < UInt32.size) (hg : g < UInt32.size)
    (hs' : slot' + 1 < UInt32.size) (hg' : g' < UInt32.size) (h : pack slot g = pack slot' g') :
    slot = slot' ∧ g = g' := by
  have htoNat := congrArg UInt64.toNat h
  rw [toNat_pack hs hg, toNat_pack hs' hg'] at htoNat
  simp only [UInt32.size] at *
  omega

theorem pack_ne_zero {slot generation : Nat} (hs : slot + 1 < UInt32.size)
    (hg : generation < UInt32.size) : pack slot generation ≠ 0 := by
  intro h
  have hn := toNat_pack hs hg
  rw [h, UInt64.toNat_zero] at hn
  omega

/-- The text of a handle: `0x` and its hexadecimal digits. -/
def text (h : Handle) : String := "0x" ++ Text.hexadecimal h.toNat

end Handle

end HostedLedger

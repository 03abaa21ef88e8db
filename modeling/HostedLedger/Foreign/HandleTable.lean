import HostedLedger.Application.Basic
import HostedLedger.Validator.Rotation

/-!
# Handle tables

The instances that callers know by handles. A slot that is released gets a new generation before it
is used again, so the handles of its former instances stay unknown; a slot in its last generation is
not used again.

## Main definitions

* `Instance`: a blockchain or a consensus
* `HandleTable`: slots and the ones among them that are free
* `HandleTable.insert`, `HandleTable.remove`, `HandleTable.clear`: membership
* `HandleTable.get?`: the instance behind a handle
* `HandleTable.blockchain`, `HandleTable.consensus`: the instance, if it is of the kind
* `HandleTable.count`: the number of instances of a kind
-/

namespace HostedLedger

/-- What a handle may stand for. -/
inductive Instance
  | blockchain (application : Application)
  | consensus (rotation : Rotation)

namespace Instance

/-- The kind of an instance. -/
def kind : Instance → InstanceKind
  | blockchain _ => .blockchain
  | consensus _ => .consensus

end Instance

/-- A place for an instance. -/
structure Slot where
  generation : Nat
  occupant : Option Instance

instance : Inhabited Slot := ⟨⟨0, none⟩⟩

/-- The instances that callers know by handles. -/
structure HandleTable where
  slots : List Slot
  /-- The numbers of the free slots; the last one released comes first. -/
  free : List Nat

namespace HandleTable

/-- The table without slots. -/
def empty : HandleTable := ⟨[], []⟩

instance : EmptyCollection HandleTable := ⟨empty⟩

instance : Inhabited HandleTable := ⟨empty⟩

/-- The number of slots that a table may have. -/
def capacity : Nat := UInt32.size - 1

/-- The number of generations that a slot may have. -/
def generations : Nat := UInt32.size

/-- The table in which a slot holds an instance, or none. -/
def occupy (t : HandleTable) (slot : Nat) (occupant : Option Instance) : HandleTable :=
  { t with slots := t.slots.modify slot fun s => { s with occupant } }

/-- Gives an instance a slot, a free one if there is any. -/
def insert (t : HandleTable) (x : Instance) : HandleTable × Except Error Handle :=
  match t.free with
  -- The slot has left its former generation when it was released.
  | slot :: free =>
    let generation := (t.slots.getD slot default).generation
    ({ t with free }.occupy slot (some x), .ok (Handle.pack slot generation))
  | [] =>
    if t.slots.length < capacity then
      ({ t with slots := t.slots ++ [⟨0, some x⟩] }, .ok (Handle.pack t.slots.length 0))
    else
      (t, .error .handlesExhausted)

/-- The slot and the instance behind a handle. -/
def find? (t : HandleTable) (h : Handle) : Option (Nat × Instance) := do
  let slot ← Handle.slot? h
  let s ← t.slots[slot]?
  if s.generation = Handle.generation h then
    let x ← s.occupant
    return (slot, x)
  else
    none

/-- The instance behind a handle. -/
def get? (t : HandleTable) (h : Handle) : Option Instance := (t.find? h).map (·.2)

/-- The slot and the application behind a handle. -/
def blockchain (t : HandleTable) (h : Handle) : Except Error (Nat × Application) :=
  match t.find? h with
  | none => .error (.parameter (.unknownHandle h))
  | some (slot, .blockchain a) => .ok (slot, a)
  | some (_, x) => .error (.parameter (.wrongKind h x.kind .blockchain))

/-- The slot and the rotation behind a handle. -/
def consensus (t : HandleTable) (h : Handle) : Except Error (Nat × Rotation) :=
  match t.find? h with
  | none => .error (.parameter (.unknownHandle h))
  | some (slot, .consensus r) => .ok (slot, r)
  | some (_, x) => .error (.parameter (.wrongKind h x.kind .consensus))

/-- Lets the application behind a handle act. -/
def withBlockchain {α : Type} (t : HandleTable) (h : Handle)
    (act : Application → Application × Except Error α) : HandleTable × Except Error α :=
  match t.blockchain h with
  | .error e => (t, .error e)
  | .ok (slot, a) =>
    match act a with
    | (a, result) => (t.occupy slot (some (.blockchain a)), result)

/-- Lets the rotation behind a handle act. -/
def withConsensus {α : Type} (t : HandleTable) (h : Handle)
    (act : Rotation → Rotation × Except Error α) : HandleTable × Except Error α :=
  match t.consensus h with
  | .error e => (t, .error e)
  | .ok (slot, r) =>
    match act r with
    | (r, result) => (t.occupy slot (some (.consensus r)), result)

/-- Empties a slot. It is free in its next generation, if there is one. -/
def release (t : HandleTable) (slot : Nat) : HandleTable :=
  let s := t.slots.getD slot default
  if s.generation + 1 < generations then
    ⟨t.slots.set slot ⟨s.generation + 1, none⟩, slot :: t.free⟩
  else
    t.occupy slot none

/-- Releases the instance of a kind behind a handle. -/
def remove (t : HandleTable) (h : Handle) (kind : InstanceKind) : HandleTable × Except Error Unit :=
  match t.find? h with
  | none => (t, .error (.parameter (.unknownHandle h)))
  | some (slot, x) =>
    if x.kind = kind then (t.release slot, .ok ())
    else (t, .error (.parameter (.wrongKind h x.kind kind)))

/-- The numbers of the slots that hold an instance. -/
def occupied (t : HandleTable) : List Nat :=
  (List.range t.slots.length).filter fun slot => (t.slots.getD slot default).occupant.isSome

/-- Releases every instance, and tells how many there were. -/
def clear (t : HandleTable) : HandleTable × Nat :=
  (t.occupied.foldl release t, t.occupied.length)

/-- The number of instances of a kind. -/
def count (t : HandleTable) (kind : InstanceKind) : Nat :=
  t.slots.countP fun s => s.occupant.any fun x => x.kind = kind

end HandleTable

end HostedLedger

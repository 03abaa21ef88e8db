import HostedLedger.Proofs.Foreign.HandleTable
import HostedLedger.Proofs.Machine

/-!
# Handles over the runs of a table

Inserting, removing and clearing are the inputs of one machine. Its steps tell which handles have
been issued, and which of them are live: neither removed nor cleared since. A table is at any time
exactly the map from the live handles to the instances that they were issued for.

## Main definitions

* `HandleTable.Call`, `HandleTable.perform`: the calls, and the machine that carries them out
* `HandleTable.issued`, `HandleTable.ends`: the handle that a step issues, and those that it ends
* `HandleTable.live`: the handles that a run leaves live
* `HandleTable.Tracks`: a table holds what the steps so far leave live
* `HandleTable.held`: the instances of a table with their handles

## Main results

* `HandleTable.obeys_effect`: what a call does to a tidy table
* `HandleTable.tracks_after`: every run leads to a table that holds its live handles
* `HandleTable.Tracks.count_eq`: the instances of a kind are counted by the live handles
* `HandleTable.live_handles_exact`: the table as an exact map
-/

namespace HostedLedger

namespace HandleTable

/-- A call that may change which handles a table knows. -/
inductive Call
  | insert (x : Instance)
  | remove (h : Handle) (kind : InstanceKind)
  | clear

/-- What a call answers that goes through. -/
inductive Answer
  | issued (h : Handle)
  | removed
  | cleared (count : Nat)

/-- Carries out a call. -/
def perform : Machine HandleTable Call (Except Error Answer)
  | t, .insert x => (t.insert x).map id (·.map .issued)
  | t, .remove h kind => (t.remove h kind).map id (·.map fun _ => .removed)
  | t, .clear => t.clear.map id (.ok ∘ .cleared)

/-- A call with the table that it was made on and its answer. -/
abbrev CallStep : Type := Step HandleTable Call (Except Error Answer)

/-- The handle that a step issues, with its instance. -/
def issued : CallStep → List (Handle × Instance)
  | ⟨_, .insert x, .ok (.issued h)⟩ => [(h, x)]
  | _ => []

/-- Whether a step removes a handle or clears the table. -/
def ends (h : Handle) : CallStep → Bool
  | ⟨_, .remove h' _, .ok _⟩ => h' = h
  | ⟨_, .clear, .ok _⟩ => true
  | _ => false

/-- The handles that are issued by some steps and not ended by a later one, with their instances. -/
def live : List CallStep → List (Handle × Instance)
  | [] => []
  | step :: later => (issued step).filter (fun e => later.all (!ends e.1 ·)) ++ live later

/-- A further step ends some of the live handles and may issue one. -/
theorem live_snoc (past : List CallStep) (step : CallStep) :
    live (past ++ [step]) = (live past).filter (!ends ·.1 step) ++ issued step := by
  induction past with
  | nil => simp [live]
  | cons first later ih =>
    rw [List.cons_append, live, ih, live, List.filter_append, List.filter_filter,
      List.append_assoc]
    simp [Bool.and_comm]

theorem live_sublist (past : List CallStep) : (live past).Sublist (past.flatMap issued) := by
  induction past with
  | nil => exact .slnil
  | cons step later ih => exact List.filter_sublist.append ih

/-! ### Single calls -/

/-- What a call may do to a table. -/
inductive Effect (t : HandleTable) : Call → Except Error Answer → HandleTable → Prop
  | refused {call : Call} {e : Error} : Effect t call (.error e) t
  | inserted {x : Instance} {h : Handle} {t' : HandleTable} (gains : Gains t x h t')
    (length_le : t'.slots.length ≤ t.slots.length + 1) :
    Effect t (.insert x) (.ok (.issued h)) t'
  | removed {h : Handle} {kind : InstanceKind} {slot : Nat} {x : Instance} {t' : HandleTable}
    (found : t.find? h = some (slot, x)) (kind_eq : x.kind = kind) (loses : Loses t [slot] t') :
    Effect t (.remove h kind) (.ok .removed) t'
  | cleared {t' : HandleTable} (loses : Loses t t.occupied t') :
    Effect t .clear (.ok (.cleared (t.count .blockchain + t.count .consensus))) t'

theorem obeys_effect : perform.Obeys fun t call answer t' => t.Tidy → Effect t call answer t' := by
  intro t call tidy
  cases call with
  | insert x =>
    rw [perform]
    have hlength := length_insert_le t x
    rcases hinsert : t.insert x with ⟨t', e | h⟩
    · rw [eq_of_insert_error hinsert]
      exact .refused
    · rw [hinsert] at hlength
      exact .inserted (tidy.gains_insert hinsert) hlength
  | remove h kind =>
    rw [perform, remove]
    split
    · exact .refused
    · next slot x hfound =>
      split
      · next hkind => exact .removed hfound hkind (tidy.loses_release hfound)
      · exact .refused
  | clear =>
    have heffect := Effect.cleared tidy.loses_clear
    rwa [← clear_snd] at heffect

/-! ### Runs -/

/-- The steps so far have led to a table that holds the live handles, and all that have been issued
are used and different. -/
structure Tracks (past : List CallStep) (t : HandleTable) : Prop where
  tidy : t.Tidy
  used : ∀ e ∈ past.flatMap issued, t.Used e.1
  nodup : ((past.flatMap issued).map (·.1)).Nodup
  length_le : t.slots.length ≤ (past.flatMap issued).length
  mem_live_iff : ∀ {h x}, (h, x) ∈ live past ↔ ∃ slot, t.find? h = some (slot, x)

namespace Tracks

variable {past : List CallStep} {t t' : HandleTable} {step : CallStep}

/-- A step that issues a handle. -/
theorem gain (tracks : Tracks past t) {x : Instance} {h : Handle} (gains : Gains t x h t')
    (length_le : t'.slots.length ≤ t.slots.length + 1) (issued_eq : issued step = [(h, x)])
    (ends_eq : ∀ k, ends k step = false) : Tracks (past ++ [step]) t' := by
  have hissued : (past ++ [step]).flatMap issued = past.flatMap issued ++ [(h, x)] := by
    rw [List.flatMap_append, List.flatMap_singleton, issued_eq]
  have hlive : live (past ++ [step]) = live past ++ [(h, x)] := by
    rw [live_snoc, issued_eq]
    simp [ends_eq]
  refine ⟨gains.tidy, ?_, ?_, ?_, ?_⟩
  · intro e he
    rw [hissued, List.mem_append, List.mem_singleton] at he
    rcases he with he | rfl
    · exact gains.used_of_used (tracks.used e he)
    · exact gains.used
  · rw [hissued, List.map_append, List.map_singleton]
    have hnew : h ∉ (past.flatMap issued).map (·.1) := by
      intro hmem
      obtain ⟨e, he, rfl⟩ := List.mem_map.mp hmem
      exact gains.not_used (tracks.used e he)
    rw [← List.concat_eq_append]
    exact List.Nodup.concat hnew tracks.nodup
  · rw [hissued, List.length_append, List.length_singleton]
    exact Nat.le_trans length_le (Nat.succ_le_succ tracks.length_le)
  · intro k y
    rw [hlive, List.mem_append, List.mem_singleton, gains.find?_iff, tracks.mem_live_iff, or_comm]

/-- A step that ends the handles of some slots. -/
theorem lose (tracks : Tracks past t) {slots : List Nat} (loses : Loses t slots t')
    (issued_eq : issued step = [])
    (ends_iff : ∀ k slot x, t.find? k = some (slot, x) → (ends k step = true ↔ slot ∈ slots)) :
    Tracks (past ++ [step]) t' := by
  have hissued : (past ++ [step]).flatMap issued = past.flatMap issued := by
    rw [List.flatMap_append, List.flatMap_singleton, issued_eq, List.append_nil]
  have hlive : live (past ++ [step]) = (live past).filter (!ends ·.1 step) := by
    rw [live_snoc, issued_eq, List.append_nil]
  refine ⟨loses.tidy, ?_, hissued ▸ tracks.nodup, ?_, ?_⟩
  · rw [hissued]
    exact fun e he => loses.used_of_used (tracks.used e he)
  · rw [hissued, loses.length_eq]
    exact tracks.length_le
  · intro k y
    rw [hlive, List.mem_filter, tracks.mem_live_iff]
    constructor
    · rintro ⟨⟨slot, hslot⟩, hends⟩
      have hnot : slot ∉ slots := by
        rw [← ends_iff k slot y hslot]
        simpa using hends
      exact ⟨slot, loses.find?_iff.mpr ⟨hslot, hnot⟩⟩
    · rintro ⟨slot, hslot⟩
      obtain ⟨hslot, hnot⟩ := loses.find?_iff.mp hslot
      rw [← ends_iff k slot y hslot] at hnot
      exact ⟨⟨slot, hslot⟩, by simpa using hnot⟩

end Tracks

theorem tracks_empty : Tracks [] ∅ where
  tidy := tidy_empty
  used e he := by cases he
  nodup := .nil
  length_le := Nat.le_refl 0
  mem_live_iff := by
    intro h x
    constructor
    · intro hmem
      cases hmem
    · rintro ⟨slot, hslot⟩
      obtain ⟨g, hs, -⟩ := tidy_empty.find?_eq_some_iff.mp hslot
      cases hs

theorem tracks_of_effect {past : List CallStep} {t t' : HandleTable} {call : Call}
    {answer : Except Error Answer} (effect : t.Tidy → Effect t call answer t')
    (tracks : Tracks past t) : Tracks (past ++ [⟨t, call, answer⟩]) t' := by
  cases effect tracks.tidy with
  | refused =>
    refine tracks.lose tracks.tidy.loses_nil ?_ ?_
    · cases call <;> rfl
    · intro k slot x _
      cases call <;> simp [ends]
  | inserted gains length_le => exact tracks.gain gains length_le rfl fun _ => rfl
  | @removed h _ slot x _ found _ loses =>
    refine tracks.lose loses rfl fun k slot' y hk => ?_
    rw [List.mem_singleton]
    simp only [ends, decide_eq_true_eq]
    constructor
    · rintro rfl
      cases found.symm.trans hk
      rfl
    · rintro rfl
      exact tracks.tidy.find?_inj found hk
  | cleared loses =>
    refine tracks.lose loses rfl fun k slot x hk => ?_
    exact ⟨fun _ => tracks.tidy.mem_occupied_of_find? hk, fun _ => rfl⟩

/-- Every run leads to a table that holds its live handles. -/
theorem tracks_after (calls : List Call) :
    Tracks (perform.steps ∅ calls) (perform.after ∅ calls) :=
  obeys_effect.steps_induction tracks_of_effect tracks_empty calls

/-! ### Counting -/

/-- The instances of a table with their handles, slot by slot. -/
def held (t : HandleTable) : List (Handle × Instance) :=
  t.slots.zipIdx.filterMap fun e => e.1.occupant.map fun x => (Handle.pack e.2 e.1.generation, x)

theorem Tidy.mem_held_iff {t : HandleTable} (tidy : t.Tidy) {h : Handle} {x : Instance} :
    (h, x) ∈ t.held ↔ ∃ slot, t.find? h = some (slot, x) := by
  rw [held, List.mem_filterMap]
  constructor
  · rintro ⟨⟨⟨g, occupant⟩, slot⟩, hmem, heq⟩
    rw [List.mem_zipIdx_iff_getElem?] at hmem
    obtain ⟨y, rfl, hy⟩ := Option.map_eq_some_iff.mp heq
    cases hy
    exact ⟨slot, tidy.find?_eq_some_iff.mpr ⟨g, hmem, rfl⟩⟩
  · rintro ⟨slot, hslot⟩
    obtain ⟨g, hs, rfl⟩ := tidy.find?_eq_some_iff.mp hslot
    exact ⟨(⟨g, some x⟩, slot), List.mem_zipIdx_iff_getElem?.mpr hs, rfl⟩

/-- Different slots have different handles. -/
theorem Tidy.nodup_held {t : HandleTable} (tidy : t.Tidy) : t.held.Nodup := by
  have hplaces : t.slots.zipIdx.Pairwise fun e e' => e.2 ≠ e'.2 := by
    rw [← List.pairwise_map, List.zipIdx_map_snd]
    exact List.nodup_range'
  rw [held, List.Nodup, List.pairwise_filterMap]
  refine hplaces.imp_of_mem fun {e e'} he he' hne b hb b' hb' heq => hne ?_
  obtain ⟨x, -, rfl⟩ := Option.map_eq_some_iff.mp hb
  obtain ⟨x', -, rfl⟩ := Option.map_eq_some_iff.mp hb'
  obtain ⟨hi, hg⟩ := tidy.slot_lt (List.mem_zipIdx_iff_getElem?.mp he)
  obtain ⟨hi', hg'⟩ := tidy.slot_lt (List.mem_zipIdx_iff_getElem?.mp he')
  exact (Handle.pack_inj (add_one_lt_of_lt_capacity hi) hg (add_one_lt_of_lt_capacity hi') hg'
    (Prod.mk.inj heq).1).1

/-- The table holds the live handles and no others. -/
theorem Tracks.perm_held {past : List CallStep} {t : HandleTable} (tracks : Tracks past t) :
    t.held.Perm (live past) := by
  have hnodup : (live past).Nodup := tracks.nodup.of_map.sublist (live_sublist past)
  rw [List.perm_ext_iff_of_nodup tracks.tidy.nodup_held hnodup]
  rintro ⟨h, x⟩
  rw [tracks.tidy.mem_held_iff, tracks.mem_live_iff]

theorem count_eq_countP_held (t : HandleTable) (kind : InstanceKind) :
    t.count kind = t.held.countP fun e => e.2.kind = kind := by
  have hslots : t.slots = t.slots.zipIdx.map (·.1) := (List.zipIdx_map_fst 0 t.slots).symm
  rw [count, held, List.countP_filterMap]
  conv => lhs; rw [hslots]
  rw [List.countP_map]
  congr 1
  funext ⟨⟨g, occupant⟩, i⟩
  cases occupant <;> rfl

/-- The instances of a kind are counted by the live handles of the kind. -/
theorem Tracks.count_eq {past : List CallStep} {t : HandleTable} (tracks : Tracks past t)
    (kind : InstanceKind) :
    t.count kind = ((live past).filter fun e => e.2.kind = kind).length := by
  rw [count_eq_countP_held, tracks.perm_held.countP_eq, List.countP_eq_length_filter]

/-- **The table is exactly the map from live handles to instances.** Over every run on a fresh table
the handles that are issued are different and not zero. A handle is found under a kind just if it
is live with an instance of the kind, and then that instance is found; it is removed under just the
same condition, and otherwise nothing is changed. The instances of a kind are counted by the live
handles, and clearing counts both kinds. There is room until as many handles have been issued as
there may be slots. -/
theorem live_handles_exact (calls : List Call) :
    let t := perform.after ∅ calls
    let past := perform.steps ∅ calls
    (∀ e ∈ past.flatMap issued, e.1 ≠ 0) ∧ ((past.flatMap issued).map (·.1)).Nodup ∧
    (∀ h a, (h, .blockchain a) ∈ live past ↔ ∃ slot, t.blockchain h = .ok (slot, a)) ∧
    (∀ h r, (h, .consensus r) ∈ live past ↔ ∃ slot, t.consensus h = .ok (slot, r)) ∧
    (∀ h e, t.blockchain h = .error e ∨ t.consensus h = .error e →
      e.report.kind = .invalidParameter) ∧
    (∀ h kind, (t.remove h kind).2 = .ok () ↔ ∃ x, (h, x) ∈ live past ∧ x.kind = kind) ∧
    (∀ h kind e, (t.remove h kind).2 = .error e →
      (t.remove h kind).1 = t ∧ e.report.kind = .invalidParameter) ∧
    (∀ kind, t.count kind = ((live past).filter fun e => e.2.kind = kind).length) ∧
    t.clear.2 = t.count .blockchain + t.count .consensus ∧
    ((past.flatMap issued).length < capacity → ∀ x, ∃ h, (t.insert x).2 = .ok h) := by
  intro t past
  have tracks : Tracks past t := tracks_after calls
  refine ⟨?_, tracks.nodup, ?_, ?_, ?_, ?_, ?_, tracks.count_eq, clear_snd t, ?_⟩
  · exact fun e he => tracks.tidy.ne_zero_of_used (tracks.used e he)
  · intro h a
    simp only [tracks.mem_live_iff, blockchain_eq_ok_iff]
  · intro h r
    simp only [tracks.mem_live_iff, consensus_eq_ok_iff]
  · rintro h e (he | he)
    · exact kind_report_of_blockchain_error he
    · exact kind_report_of_consensus_error he
  · intro h kind
    rw [remove_eq_ok_iff, exists_comm]
    simp only [tracks.mem_live_iff, exists_and_right]
  · exact fun h kind e he => eq_of_remove_error (Prod.ext rfl he)
  · exact fun room => exists_insert (Nat.lt_of_le_of_lt tracks.length_le room)

/-- Slots are used again, by a call and after clearing, and one handle is removed twice. -/
theorem live_handles_exact_reusedSlots :
    let t := perform.after ∅ [.insert (.blockchain default), .insert (.consensus default),
      .remove 1 .blockchain, .insert (.blockchain default), .remove 1 .blockchain, .clear,
      .insert (.consensus default)]
    (∃ slot, t.consensus 4294967298 = .ok (slot, default)) ∧
      ∀ x, ∃ h, (t.insert x).2 = .ok h := by
  intro t
  obtain ⟨-, -, -, hconsensus, -, -, -, -, -, hroom⟩ := live_handles_exact
    [.insert (.blockchain default), .insert (.consensus default), .remove 1 .blockchain,
      .insert (.blockchain default), .remove 1 .blockchain, .clear, .insert (.consensus default)]
  exact ⟨(hconsensus 4294967298 default).mp (List.mem_singleton.mpr rfl), hroom (by decide)⟩

end HandleTable

end HostedLedger

/-!
# Machines and their runs

A machine answers an input in a state and goes over to the next state. A run gives it a sequence
of inputs; the steps of the run say what was given in which state and how it was answered.

## Main definitions

* `Machine σ ι ο`: a machine with states `σ`, inputs `ι` and answers `ο`
* `Step.exchange`: the input of a step and its answer
* `Machine.after`: the state after a run
* `Machine.steps`, `Machine.answers`: the steps of a run, and its answers
* `Machine.Obeys`: every step of a machine has an effect that a relation allows

## Main results

* `Machine.exists_of_steps_eq`: the inputs of a run are divided where its steps are
* `Machine.Obeys.after_induction`: what every effect keeps, a run keeps
* `Machine.Obeys.steps_induction`: what every effect carries on from the steps before it, holds of
  the steps of a run
* `Machine.Obeys.after_eq_append`: what every effect extends, a run extends by all the parts
* `Machine.Obeys.steps_filter`: steps without effect may be left out
* `Machine.map_exchange_filter_steps`: what one party sees of a run is the run of its own inputs
* `Machine.answers_eq_map`: machines that answer alike in related states answer runs alike
-/

namespace HostedLedger

/-- What is done with an input in a state: the state after it, and the answer. -/
abbrev Machine (σ ι ο : Type) : Type := σ → ι → σ × ο

/-- An input that is given in a state, and the answer to it. -/
structure Step (σ ι ο : Type) where
  before : σ
  input : ι
  answer : ο

/-- The input of a step and the answer to it. -/
def Step.exchange {σ ι ο : Type} (step : Step σ ι ο) : ι × ο := (step.input, step.answer)

namespace Machine

variable {σ ι ο α : Type} (m : Machine σ ι ο)

/-- The step that an input makes in a state. -/
def step (s : σ) (i : ι) : Step σ ι ο := ⟨s, i, (m s i).2⟩

/-- The state after a sequence of inputs. -/
def after (s : σ) : List ι → σ
  | [] => s
  | i :: is => after (m s i).1 is

/-- The steps that a sequence of inputs makes, in order. -/
def steps (s : σ) : List ι → List (Step σ ι ο)
  | [] => []
  | i :: is => m.step s i :: steps (m s i).1 is

@[simp] theorem after_nil (s : σ) : m.after s [] = s := rfl

@[simp] theorem after_cons (s : σ) (i : ι) (is : List ι) :
    m.after s (i :: is) = m.after (m s i).1 is := rfl

@[simp] theorem steps_nil (s : σ) : m.steps s [] = [] := rfl

@[simp] theorem steps_cons (s : σ) (i : ι) (is : List ι) :
    m.steps s (i :: is) = m.step s i :: m.steps (m s i).1 is := rfl

/-- The answers that a sequence of inputs gets, in order. -/
def answers (s : σ) (is : List ι) : List ο := (m.steps s is).map (·.answer)

@[simp] theorem answers_nil (s : σ) : m.answers s [] = [] := rfl

@[simp] theorem answers_cons (s : σ) (i : ι) (is : List ι) :
    m.answers s (i :: is) = (m s i).2 :: m.answers (m s i).1 is := rfl

theorem after_append (s : σ) (is js : List ι) :
    m.after s (is ++ js) = m.after (m.after s is) js := by
  induction is generalizing s with
  | nil => rfl
  | cons i is ih => exact ih _

theorem steps_append (s : σ) (is js : List ι) :
    m.steps s (is ++ js) = m.steps s is ++ m.steps (m.after s is) js := by
  induction is generalizing s with
  | nil => rfl
  | cons i is ih => exact congrArg _ (ih _)

/-- The steps of a run are made by its inputs. -/
theorem map_input_steps (s : σ) (is : List ι) : (m.steps s is).map (·.input) = is := by
  induction is generalizing s with
  | nil => rfl
  | cons i is ih => exact congrArg _ (ih _)

/-- Where the steps of a run are divided at one of them, its inputs are divided at the input of this
step. -/
theorem exists_of_steps_eq {s : σ} {is : List ι} {past later : List (Step σ ι ο)}
    {step : Step σ ι ο} (h : m.steps s is = past ++ step :: later) :
    ∃ before i rest, is = before ++ i :: rest ∧ step = m.step (m.after s before) i ∧
      later = m.steps (m (m.after s before) i).1 rest := by
  induction is generalizing s past with
  | nil => simp at h
  | cons i is ih =>
    rw [steps_cons] at h
    rcases past with _ | ⟨first, past⟩
    · obtain ⟨hstep, hlater⟩ := List.cons.inj h
      exact ⟨[], i, is, rfl, hstep.symm, hlater.symm⟩
    · obtain ⟨before, j, rest, rfl, hstep, hlater⟩ := ih (List.cons.inj h).2
      exact ⟨i :: before, j, rest, rfl, hstep, hlater⟩

/-- A step of a run is made in the state that the inputs before it lead to. -/
theorem exists_of_mem_steps {s : σ} {is : List ι} {step : Step σ ι ο} (h : step ∈ m.steps s is) :
    ∃ before, step = m.step (m.after s before) step.input := by
  obtain ⟨past, later, hsteps⟩ := List.append_of_mem h
  obtain ⟨before, i, rest, -, rfl, -⟩ := m.exists_of_steps_eq hsteps
  exact ⟨before, rfl⟩

/-- Every step of a machine stands in the relation `effect before input answer after`. -/
def Obeys (effect : σ → ι → ο → σ → Prop) : Prop := ∀ s i, effect s i (m s i).2 (m s i).1

namespace Obeys

variable {m} {effect : σ → ι → ο → σ → Prop}

theorem mono {effect' : σ → ι → ο → σ → Prop} (obeys : m.Obeys effect)
    (h : ∀ {s i o s'}, effect s i o s' → effect' s i o s') : m.Obeys effect' :=
  fun s i => h (obeys s i)

/-- What every effect keeps, a run keeps. -/
theorem after_induction (obeys : m.Obeys effect) {P : σ → Prop}
    (keep : ∀ {s i o s'}, effect s i o s' → P s → P s') {s : σ} (h : P s) (is : List ι) :
    P (m.after s is) := by
  induction is generalizing s with
  | nil => exact h
  | cons i is ih => exact ih (keep (obeys s i) h)

/-- What holds at first and is carried on by every effect from the steps before it to the steps
with it, holds of the steps of a run and the state after it. -/
theorem steps_induction (obeys : m.Obeys effect) {P : List (Step σ ι ο) → σ → Prop}
    (carry : ∀ {past s i o s'}, effect s i o s' → P past s → P (past ++ [⟨s, i, o⟩]) s') {s : σ}
    (h : P [] s) (is : List ι) : P (m.steps s is) (m.after s is) := by
  suffices ∀ past s, P past s → P (past ++ m.steps s is) (m.after s is) from this [] s h
  clear h
  -- The steps made before are part of the statement, since the first input is added to them.
  induction is with
  | nil =>
    intro past s h
    rwa [steps_nil, List.append_nil]
  | cons i is ih =>
    intro past s h
    have hnext := ih (past ++ [m.step s i]) (m s i).1 (carry (obeys s i) h)
    rwa [List.append_assoc] at hnext

/-- A list that every step extends has been extended by the parts of all steps. -/
theorem after_eq_append (obeys : m.Obeys effect) {f : σ → List α} {part : Step σ ι ο → List α}
    (extend : ∀ {s i o s'}, effect s i o s' → f s' = f s ++ part ⟨s, i, o⟩) (s : σ)
    (is : List ι) : f (m.after s is) = f s ++ (m.steps s is).flatMap part := by
  induction is generalizing s with
  | nil => simp
  | cons i is ih =>
    rw [after_cons, ih, extend (obeys s i), steps_cons, List.flatMap_cons, List.append_assoc]
    rfl

/-- Steps that leave the state as it is may be left out: the other inputs meet the same states,
get the same answers and lead to the same state. -/
theorem steps_filter (obeys : m.Obeys effect) {idle : Step σ ι ο → Bool}
    (still : ∀ {s i o s'}, effect s i o s' → idle ⟨s, i, o⟩ = true → s' = s) (s : σ)
    (is : List ι) :
    m.after s (((m.steps s is).filter (!idle ·)).map (·.input)) = m.after s is ∧
      m.steps s (((m.steps s is).filter (!idle ·)).map (·.input)) =
        (m.steps s is).filter (!idle ·) := by
  induction is generalizing s with
  | nil => exact ⟨rfl, rfl⟩
  | cons i is ih =>
    obtain ⟨hafter, hsteps⟩ := ih (m s i).1
    rw [after_cons, steps_cons]
    by_cases hi : idle (m.step s i) = true
    · rw [List.filter_cons_of_neg (by simp [hi])]
      rw [still (obeys s i) hi] at hafter hsteps ⊢
      exact ⟨hafter, hsteps⟩
    · rw [List.filter_cons_of_pos (by simpa using hi), List.map_cons]
      refine ⟨hafter, ?_⟩
      rw [steps_cons]
      exact congrArg _ hsteps

end Obeys

/-! ### Parties of a run -/

/-- Let a relation between states be kept by the inputs of one party, which get the same answers in
related states, and by the other inputs in the first state alone. Then the party gets the answers of
a run that are given to its own inputs alone, and the states after both are related. -/
theorem map_exchange_filter_steps {R : σ → σ → Prop} {own : ι → Bool}
    (same : ∀ {s s' i}, own i = true → R s s' →
      (m s i).2 = (m s' i).2 ∧ R (m s i).1 (m s' i).1)
    {is : List ι} (other : ∀ {s s'}, ∀ i ∈ is, own i = false → R s s' → R (m s i).1 s')
    {s s' : σ} (related : R s s') :
    ((m.steps s is).filter (own ·.input)).map Step.exchange =
        (m.steps s' (is.filter own)).map Step.exchange ∧
      R (m.after s is) (m.after s' (is.filter own)) := by
  induction is generalizing s s' with
  | nil => exact ⟨rfl, related⟩
  | cons i is ih =>
    have hother {s s' : σ} : ∀ j ∈ is, own j = false → R s s' → R (m s j).1 s' :=
      fun j hj => other j (List.mem_cons_of_mem i hj)
    rw [steps_cons, after_cons]
    by_cases hi : own i = true
    · obtain ⟨hanswer, hrelated⟩ := same hi related
      obtain ⟨hsteps, hafter⟩ := ih hother hrelated
      rw [List.filter_cons_of_pos (by exact hi), List.filter_cons_of_pos hi, List.map_cons, hsteps]
      refine ⟨?_, hafter⟩
      rw [steps_cons, List.map_cons, Step.exchange, Step.exchange, step, step, hanswer]
    · rw [List.filter_cons_of_neg (by exact hi), List.filter_cons_of_neg hi]
      exact ih hother (other i List.mem_cons_self (by simpa using hi) related)

/-! ### Two machines -/

/-- Let two machines answer alike in related states, and go over to related states where the answer
is of a certain kind. Then they answer a run alike and end in related states, if one of them gives
only such answers. -/
theorem answers_eq_map {σ' ο' : Type} {n : Machine σ' ι ο'} {R : σ → σ' → Prop} {f : ο → ο'}
    {P : ο' → Prop} (same : ∀ {s s'} i, R s s' → (n s' i).2 = f (m s i).2)
    (next : ∀ {s s'} i, R s s' → P (n s' i).2 → R (m s i).1 (n s' i).1) {is : List ι}
    {s : σ} {s' : σ'} (related : R s s')
    (kept : (∀ a ∈ m.answers s is, P (f a)) ∨ ∀ a ∈ n.answers s' is, P a) :
    n.answers s' is = (m.answers s is).map f ∧ R (m.after s is) (n.after s' is) := by
  induction is generalizing s s' with
  | nil => exact ⟨rfl, related⟩
  | cons i is ih =>
    have hanswer := same i related
    simp only [answers_cons, List.forall_mem_cons, ← hanswer] at kept
    have hkept : P (n s' i).2 := kept.elim And.left And.left
    obtain ⟨hanswers, hafter⟩ := ih (next i related hkept) (kept.imp And.right And.right)
    refine ⟨?_, hafter⟩
    rw [answers_cons, answers_cons, List.map_cons, hanswer, hanswers]

end Machine

end HostedLedger

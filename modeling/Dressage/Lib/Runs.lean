/-
Runs of a deterministic step function.

A run folds a list of events over a start state. An invariant that every
admissible step preserves holds after every prefix of an admissible run; the
admissibility of an event may depend on the state it meets.
-/

import Mathlib.Data.List.Basic

namespace Dressage.Lib.Runs

variable {σ ε : Type}

def run (step : σ → ε → σ) (start : σ) (events : List ε) : σ := events.foldl step start

/-- Every event of the list is admissible in the state it meets. -/
def Admits (step : σ → ε → σ) (admissible : σ → ε → Prop) : σ → List ε → Prop
  | _, [] => True
  | state, event :: rest =>
    admissible state event ∧ Admits step admissible (step state event) rest

instance decidableAdmits (step : σ → ε → σ) (admissible : σ → ε → Prop)
    [∀ state event, Decidable (admissible state event)] :
    (state : σ) → (events : List ε) → Decidable (Admits step admissible state events)
  | _, [] => inferInstanceAs (Decidable True)
  | state, event :: rest =>
    have : Decidable (Admits step admissible (step state event) rest) :=
      decidableAdmits step admissible (step state event) rest
    inferInstanceAs (Decidable (admissible state event ∧
      Admits step admissible (step state event) rest))

@[simp] theorem run_nil (step : σ → ε → σ) (start : σ) : run step start [] = start := rfl

@[simp] theorem run_cons (step : σ → ε → σ) (start : σ) (event : ε) (rest : List ε) :
    run step start (event :: rest) = run step (step start event) rest := rfl

theorem run_append (step : σ → ε → σ) (start : σ) (first second : List ε) :
    run step start (first ++ second) = run step (run step start first) second :=
  List.foldl_append

theorem run_snoc (step : σ → ε → σ) (start : σ) (past : List ε) (event : ε) :
    run step start (past ++ [event]) = step (run step start past) event := by
  rw [run_append, run_cons, run_nil]

theorem admits_append (step : σ → ε → σ) (admissible : σ → ε → Prop) (start : σ)
    (first second : List ε) :
    Admits step admissible start (first ++ second) ↔
      Admits step admissible start first ∧
        Admits step admissible (run step start first) second := by
  induction first generalizing start with
  | nil => simp [Admits]
  | cons event rest ih =>
    simp only [List.cons_append, Admits, run_cons, ih]
    exact and_assoc.symm

variable {step : σ → ε → σ} {start : σ} {events : List ε} {admissible : σ → ε → Prop}
variable {invariant : σ → Prop}

theorem admits_and {first second : σ → ε → Prop} (admitsFirst : Admits step first start events)
    (admitsSecond : Admits step second start events) :
    Admits step (fun state event => first state event ∧ second state event) start events := by
  induction events generalizing start with
  | nil => trivial
  | cons event rest ih =>
    exact ⟨⟨admitsFirst.1, admitsSecond.1⟩, ih admitsFirst.2 admitsSecond.2⟩

theorem admits_of_forall {allowed : ε → Prop} (all : ∀ event ∈ events, allowed event) :
    Admits step (fun _ event => allowed event) start events := by
  induction events generalizing start with
  | nil => trivial
  | cons event rest ih =>
    exact ⟨all event List.mem_cons_self,
      ih (fun later member => all later (List.mem_cons_of_mem event member))⟩

theorem admits_of_prefixes
    (each : ∀ past event, past ++ [event] <+: events → admissible (run step start past) event) :
    Admits step admissible start events := by
  induction events generalizing start with
  | nil => trivial
  | cons event rest ih =>
    refine ⟨each [] event (by simp), ih (fun past later early => ?_)⟩
    have longer : event :: past ++ [later] <+: event :: rest := by
      rw [List.cons_append, List.cons_prefix_cons]
      exact ⟨rfl, early⟩
    exact each (event :: past) later longer

theorem run_invariant {step : σ → ε → σ} {admissible : σ → ε → Prop} {invariant : σ → Prop}
    (preserved : ∀ state event, invariant state → admissible state event →
      invariant (step state event))
    {start : σ} (initially : invariant start) {events : List ε}
    (admitted : Admits step admissible start events) : invariant (run step start events) := by
  induction events generalizing start with
  | nil => exact initially
  | cons event rest ih =>
    exact ih (preserved start event initially admitted.1) admitted.2

theorem run_preserves {step : σ → ε → σ} {invariant : σ → Prop}
    (preserved : ∀ state event, invariant state → invariant (step state event))
    {start : σ} (initially : invariant start) (events : List ε) :
    invariant (run step start events) := by
  induction events generalizing start with
  | nil => exact initially
  | cons event rest ih => exact ih (preserved start event initially)

theorem run_invariant_of_forall {allowed : ε → Prop}
    (preserved : ∀ state event, invariant state → allowed event → invariant (step state event))
    (initially : invariant start) (all : ∀ event ∈ events, allowed event) :
    invariant (run step start events) :=
  run_invariant preserved initially (admits_of_forall all)

theorem prefix_invariant
    (preserved : ∀ state event, invariant state → admissible state event →
      invariant (step state event)) (initially : invariant start)
    (admitted : Admits step admissible start events) {past : List ε} (early : past <+: events) :
    invariant (run step start past) := by
  obtain ⟨later, rfl⟩ := early
  exact run_invariant preserved initially ((admits_append step admissible start past later).mp
    admitted).1

/-- Where the invariant gives the property, and a step outside the condition breaks the
property, a run has the property throughout exactly when all its steps meet the condition. -/
theorem holds_iff_admits {property : σ → Prop}
    (preserved : ∀ state event, invariant state → admissible state event →
      invariant (step state event)) (holds : ∀ state, invariant state → property state)
    (sharp : ∀ state event, invariant state → property (step state event) →
      admissible state event) (initially : invariant start) (events : List ε) :
    (∀ past, past <+: events → property (run step start past)) ↔
      Admits step admissible start events := by
  constructor
  · intro throughout
    induction events generalizing start with
    | nil => trivial
    | cons event rest ih =>
      have admitted : admissible start event := by
        apply sharp start event initially
        exact throughout [event] (by simp)
      refine ⟨admitted, ih (preserved start event initially admitted) ?_⟩
      intro past early
      exact throughout (event :: past) (List.cons_prefix_cons.mpr ⟨rfl, early⟩)
  · intro admitted past early
    exact holds _ (prefix_invariant preserved initially admitted early)

end Dressage.Lib.Runs

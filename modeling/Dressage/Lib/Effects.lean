/-
Computations that change a state and may fail part-way.

A failure keeps the state changes made before it: nothing is rolled back. The
rules below reason about such a computation forwards, with one postcondition
for a return and one for a failure.
-/

import Mathlib.Data.List.Forall2
import Mathlib.Logic.Basic

namespace Dressage.Lib

def Effect (σ ε α : Type) : Type := σ → Except ε α × σ

namespace Effect

variable {σ ε α β : Type}

theorem except_bind_eq_ok {first : Except ε α} {next : α → Except ε β} {result : β} :
    first >>= next = .ok result ↔ ∃ value, first = .ok value ∧ next value = .ok result := by
  cases first with
  | error failure =>
    constructor
    · intro impossible
      cases impossible
    · rintro ⟨value, impossible, _⟩
      cases impossible
  | ok value =>
    constructor
    · exact fun returned => ⟨value, rfl, returned⟩
    · rintro ⟨_, same, returned⟩
      cases same
      exact returned

variable {failure : ε}

theorem except_bind_eq_error {first : Except ε α} {next : α → Except ε β} :
    first >>= next = .error failure ↔
      first = .error failure ∨ ∃ value, first = .ok value ∧ next value = .error failure := by
  cases first with
  | error other =>
    constructor
    · intro failed
      cases failed
      exact .inl rfl
    · rintro (failed | ⟨value, impossible, _⟩)
      · cases failed
        rfl
      · cases impossible
  | ok value =>
    constructor
    · exact fun failed => .inr ⟨value, rfl, failed⟩
    · rintro (impossible | ⟨_, same, failed⟩)
      · cases impossible
      · cases same
        exact failed

theorem except_mapM_eq_ok {step : α → Except ε β} {items : List α} {results : List β}
    (returned : items.mapM step = .ok results) :
    List.Forall₂ (fun item result => step item = .ok result) items results := by
  induction items generalizing results with
  | nil =>
    cases returned
    exact List.Forall₂.nil
  | cons item rest ih =>
    rw [List.mapM_cons] at returned
    obtain ⟨result, isFirst, returned⟩ := except_bind_eq_ok.mp returned
    obtain ⟨others, areRest, returned⟩ := except_bind_eq_ok.mp returned
    cases returned
    exact List.Forall₂.cons isFirst (ih areRest)

theorem except_mapM_eq_error {step : α → Except ε β} {items : List α}
    (failed : items.mapM step = .error failure) : ∃ item ∈ items, step item = .error failure := by
  induction items with
  | nil => cases failed
  | cons item rest ih =>
    rw [List.mapM_cons] at failed
    rcases except_bind_eq_error.mp failed with atFirst | ⟨result, _isFirst, failed⟩
    · exact ⟨item, List.mem_cons_self, atFirst⟩
    · rcases except_bind_eq_error.mp failed with inRest | ⟨others, _areRest, failed⟩
      · obtain ⟨other, member, atOther⟩ := ih inRest
        exact ⟨other, List.mem_cons_of_mem _ member, atOther⟩
      · cases failed

instance : Monad (Effect σ ε) where
  pure value := fun state => (.ok value, state)
  bind first next := fun state =>
    match first state with
    | (.ok value, middle) => next value middle
    | (.error failure, middle) => (.error failure, middle)

instance : LawfulMonad (Effect σ ε) :=
  LawfulMonad.mk' (Effect σ ε)
    (fun computation => funext fun state => by
      change (match computation state with
        | (.ok value, middle) => (.ok value, middle)
        | (.error failure, middle) => (.error failure, middle)) = computation state
      rcases computation state with ⟨_ | _, _⟩ <;> rfl)
    (fun _ _ => rfl)
    (fun first second third => funext fun state => by
      change (match (match first state with
          | (.ok value, middle) => second value middle
          | (.error failure, middle) => (.error failure, middle)) with
        | (.ok value, middle) => third value middle
        | (.error failure, middle) => (.error failure, middle)) =
          (match first state with
            | (.ok value, middle) => (second value >>= third) middle
            | (.error failure, middle) => (.error failure, middle))
      rcases first state with ⟨_ | _, _⟩ <;> rfl)

def fail (failure : ε) : Effect σ ε α := fun state => (.error failure, state)

def get : Effect σ ε σ := fun state => (.ok state, state)

def modify (change : σ → σ) : Effect σ ε Unit := fun state => (.ok (), change state)

def ofExcept (result : Except ε α) : Effect σ ε α := fun state => (result, state)

def failIf (condition : Prop) [Decidable condition] (failure : ε) : Effect σ ε Unit :=
  if condition then fail failure else pure ()

def attempt (computation : Effect σ ε α) : Effect σ ε (Except ε α) := fun state =>
  match computation state with
  | (result, final) => (.ok result, final)

theorem bind_of_ok {computation : Effect σ ε α} {next : α → Effect σ ε β} {start middle : σ}
    {value : α} (returned : computation start = (.ok value, middle)) :
    (computation >>= next) start = next value middle := by
  change (match computation start with
    | (.ok value, middle) => next value middle
    | (.error failure, middle) => (.error failure, middle)) = next value middle
  rw [returned]

def Ensures (computation : Effect σ ε α) (start : σ) (returns : α → σ → Prop)
    (fails : ε → σ → Prop) : Prop :=
  match computation start with
  | (.ok value, final) => returns value final
  | (.error failure, final) => fails failure final

variable {computation : Effect σ ε α} {start : σ}
variable {returns returns' : α → σ → Prop} {fails fails' : ε → σ → Prop}

theorem Ensures.mono (ensured : Ensures computation start returns fails)
    (onReturn : ∀ value final, returns value final → returns' value final)
    (onFailure : ∀ failure final, fails failure final → fails' failure final) :
    Ensures computation start returns' fails' := by
  unfold Ensures at *
  revert ensured
  rcases computation start with ⟨result, final⟩
  cases result with
  | ok value => exact onReturn value final
  | error failure => exact onFailure failure final

theorem ensures_outcome (computation : Effect σ ε α) (start : σ) :
    Ensures computation start (fun value final => computation start = (.ok value, final))
      (fun failure final => computation start = (.error failure, final)) := by
  unfold Ensures
  rcases computation start with ⟨result, final⟩
  cases result with
  | ok value => rfl
  | error failure => rfl

theorem Ensures.and (ensured : Ensures computation start returns fails)
    (ensured' : Ensures computation start returns' fails') :
    Ensures computation start (fun value final => returns value final ∧ returns' value final)
      (fun failure final => fails failure final ∧ fails' failure final) := by
  unfold Ensures at *
  revert ensured ensured'
  rcases computation start with ⟨result, final⟩
  cases result with
  | ok value => exact And.intro
  | error failure => exact And.intro

theorem Ensures.final {invariant : σ → Prop}
    (ensured : Ensures computation start (fun _ final => invariant final)
      (fun _ final => invariant final)) : invariant (computation start).2 := by
  unfold Ensures at ensured
  revert ensured
  rcases computation start with ⟨result, final⟩
  cases result with
  | ok value => exact id
  | error failure => exact id

theorem ensures_pure {value : α} (holds : returns value start) :
    Ensures (pure value) start returns fails :=
  holds

theorem ensures_fail (holds : fails failure start) : Ensures (fail failure) start returns fails :=
  holds

theorem ensures_get {returns : σ → σ → Prop} (holds : returns start start) :
    Ensures get start returns fails :=
  holds

theorem ensures_modify {change : σ → σ} {returns : Unit → σ → Prop}
    (holds : returns () (change start)) : Ensures (modify change) start returns fails :=
  holds

theorem ensures_ofExcept {result : Except ε α}
    (onReturn : ∀ value, result = .ok value → returns value start)
    (onFailure : ∀ failure, result = .error failure → fails failure start) :
    Ensures (ofExcept result) start returns fails := by
  cases result with
  | ok value => exact onReturn value rfl
  | error failure => exact onFailure failure rfl

theorem ensures_failIf {condition : Prop} [Decidable condition] {returns : Unit → σ → Prop}
    (onReturn : ¬ condition → returns () start) (onFailure : condition → fails failure start) :
    Ensures (failIf condition failure) start returns fails := by
  unfold failIf
  by_cases holds : condition
  · rw [if_pos holds]
    exact onFailure holds
  · rw [if_neg holds]
    exact onReturn holds

theorem ensures_bind {next : α → Effect σ ε β} {returns : β → σ → Prop}
    (first : Ensures computation start
      (fun value middle => Ensures (next value) middle returns fails) fails) :
    Ensures (computation >>= next) start returns fails := by
  have unfolded : (computation >>= next) start =
    match computation start with
    | (.ok value, middle) => next value middle
    | (.error failure, middle) => (.error failure, middle) := rfl
  revert first
  unfold Ensures
  rw [unfolded]
  rcases computation start with ⟨result, middle⟩
  cases result with
  | ok value => exact id
  | error failure => exact id

theorem ensures_attempt {returns : Except ε α → σ → Prop}
    (tried : Ensures computation start (fun value final => returns (.ok value) final)
      (fun failure final => returns (.error failure) final)) :
    Ensures (attempt computation) start returns fails := by
  revert tried
  unfold Ensures attempt
  rcases computation start with ⟨result, final⟩
  cases result with
  | ok value => exact id
  | error failure => exact id

def Preserves (invariant : σ → Prop) (computation : Effect σ ε α) : Prop :=
  ∀ start, invariant start → invariant (computation start).2

section Preserving

variable {invariant : σ → Prop}

theorem preserves_pure (value : α) :
    Preserves invariant (pure value : Effect σ ε α) := fun _ holds => holds

theorem preserves_fail (failure : ε) :
    Preserves invariant (fail failure : Effect σ ε α) := fun _ holds => holds

theorem preserves_get : Preserves invariant (get : Effect σ ε σ) := fun _ holds => holds

theorem preserves_modify {change : σ → σ}
    (kept : ∀ state, invariant state → invariant (change state)) :
    Preserves invariant (modify change : Effect σ ε Unit) :=
  kept

theorem preserves_failIf (condition : Prop) [Decidable condition] (failure : ε) :
    Preserves invariant (failIf condition failure) := by
  unfold failIf
  split
  · exact preserves_fail failure
  · exact preserves_pure ()

theorem preserves_attempt (kept : Preserves invariant computation) :
    Preserves invariant (attempt computation) := fun start holds => kept start holds

theorem preserves_bind {next : α → Effect σ ε β} (first : Preserves invariant computation)
    (later : ∀ value, Preserves invariant (next value)) :
    Preserves invariant (computation >>= next) := by
  intro start holds
  have middle := first start holds
  change invariant (match computation start with
    | (.ok value, middle) => next value middle
    | (.error failure, middle) => (.error failure, middle)).2
  revert middle
  rcases computation start with ⟨result, state⟩
  cases result with
  | ok value => exact later value state
  | error failure => exact id

theorem Preserves.ensures (kept : Preserves invariant computation) (holds : invariant start) :
    Ensures computation start (fun _ => invariant) (fun _ => invariant) := by
  have after := kept start holds
  unfold Ensures
  revert after
  rcases computation start with ⟨result, final⟩
  cases result with
  | ok value => exact id
  | error failure => exact id

end Preserving

end Effect

end Dressage.Lib

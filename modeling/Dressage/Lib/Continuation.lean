/-
Deterministic token generators.

A generator picks the next symbol from the context alone. Its continuation of a
context runs until a stop symbol or an exhausted budget, and can be cut at any
symbol that is not a stop and taken up again from the longer context.
-/

import Mathlib.Data.List.Basic

namespace Dressage.Lib

open List

/-- The next symbol of every context with its score, and which symbols end a run. -/
structure Generator (τ ν : Type) where
  next : List τ → τ × ν
  isStop : τ → Bool

namespace Generator

variable {τ ν : Type} (generator : Generator τ ν)

def continuation : Nat → List τ → List (τ × ν)
  | 0, _ => []
  | budget + 1, context =>
    generator.next context ::
      if generator.isStop (generator.next context).1 then []
      else continuation budget (context ++ [(generator.next context).1])

def stopped (output : List (τ × ν)) : Bool := output.any (fun step => generator.isStop step.1)

theorem stopped_append (first second : List (τ × ν)) :
    generator.stopped (first ++ second) = (generator.stopped first || generator.stopped second) :=
  any_append

theorem continuation_length_le (budget : Nat) (context : List τ) :
    (generator.continuation budget context).length ≤ budget := by
  induction budget generalizing context with
  | zero => exact Nat.le_refl 0
  | succ budget ih =>
    rw [continuation, length_cons]
    split
    · exact Nat.succ_le_succ (Nat.zero_le budget)
    · exact Nat.succ_le_succ (ih _)

theorem continuation_length_eq (budget : Nat) (context : List τ)
    (unstopped : generator.stopped (generator.continuation budget context) = false) :
    (generator.continuation budget context).length = budget := by
  induction budget generalizing context with
  | zero => rfl
  | succ budget ih =>
    simp only [continuation, stopped, any_cons, Bool.or_eq_false_iff] at unstopped ⊢
    obtain ⟨goesOn, restUnstopped⟩ := unstopped
    have noStop : ¬ generator.isStop (generator.next context).1 = true := by
      rw [goesOn]
      exact Bool.false_ne_true
    rw [if_neg noStop] at restUnstopped ⊢
    rw [length_cons, ih _ restUnstopped]

theorem continuation_split {budget : Nat} {context : List τ} {output : List (τ × ν)}
    (cut : output <+: generator.continuation budget context)
    (unstopped : generator.stopped output = false) :
    generator.continuation budget context =
      output ++ generator.continuation (budget - output.length)
        (context ++ output.map Prod.fst) := by
  induction output generalizing budget context with
  | nil => simp
  | cons step rest ih =>
    cases budget with
    | zero => exact absurd (prefix_nil.mp cut) (cons_ne_nil _ _)
    | succ budget =>
      rw [continuation, cons_prefix_cons] at cut
      obtain ⟨atHead, cutRest⟩ := cut
      simp only [stopped, any_cons, Bool.or_eq_false_iff] at unstopped
      rw [← atHead, if_neg (by rw [unstopped.1]; exact Bool.false_ne_true)] at cutRest
      have tail := ih cutRest unstopped.2
      rw [continuation, ← atHead, if_neg (by rw [unstopped.1]; exact Bool.false_ne_true), tail]
      simp only [length_cons, map_cons, append_assoc, cons_append,
        nil_append, Nat.add_sub_add_right]

theorem eq_of_stopped {budget : Nat} {context : List τ} {output : List (τ × ν)}
    (cut : output <+: generator.continuation budget context)
    (isStopped : generator.stopped output = true) :
    output = generator.continuation budget context := by
  induction output generalizing budget context with
  | nil => cases isStopped
  | cons step rest ih =>
    cases budget with
    | zero => exact absurd (prefix_nil.mp cut) (cons_ne_nil _ _)
    | succ budget =>
      rw [continuation, cons_prefix_cons] at cut
      obtain ⟨atHead, cutRest⟩ := cut
      rw [continuation, ← atHead]
      rw [← atHead] at cutRest
      by_cases stops : generator.isStop step.1 = true
      · rw [if_pos stops] at cutRest ⊢
        rw [prefix_nil.mp cutRest]
      · rw [if_neg stops] at cutRest ⊢
        rw [Bool.not_eq_true] at stops
        simp only [stopped, any_cons, stops, Bool.false_or] at isStopped
        exact congrArg _ (ih cutRest isStopped)

end Generator

end Dressage.Lib

/-
Loops that look at their neighbours.

A step is given the index of an item, the item before it, the item and the item
after it, and writes a piece of text or raises. A walk over a list concatenates
the pieces. Walks of one list in two surroundings are the same as far as the
steps do not tell the surroundings apart.
-/

import Mathlib.Data.List.Basic
import Dressage.Lib.Effects

namespace Dressage.Lib.Neighbours

variable {α β ε : Type}

def walk (step : Nat → Option α → α → Option α → Except ε (List β)) :
    Nat → Option α → List α → Option α → Except ε (List β)
  | _, _, [], _ => .ok []
  | index, before, item :: rest, after => do
    let piece ← step index before item (rest.head?.or after)
    let others ← walk step (index + 1) (some item) rest after
    .ok (piece ++ others)

variable {step : Nat → Option α → α → Option α → Except ε (List β)}

variable {before after : Option α} {index : Nat} {text : List β}

theorem walk_cons_eq_ok {item : α} {rest : List α} :
    walk step index before (item :: rest) after = .ok text ↔
      ∃ piece, step index before item (rest.head?.or after) = .ok piece ∧
        ∃ others, walk step (index + 1) (some item) rest after = .ok others ∧
          piece ++ others = text := by
  rw [walk, Effect.except_bind_eq_ok]
  constructor
  · rintro ⟨piece, written, continued⟩
    obtain ⟨others, walked, joined⟩ := Effect.except_bind_eq_ok.mp continued
    exact ⟨piece, written, others, walked, Except.ok.inj joined⟩
  · rintro ⟨piece, written, others, walked, joined⟩
    exact ⟨piece, written, Effect.except_bind_eq_ok.mpr ⟨others, walked, congrArg _ joined⟩⟩

theorem walk_append_eq_ok {first second : List α} :
    walk step index before (first ++ second) after = .ok text ↔
      ∃ opening, walk step index before first (second.head?.or after) = .ok opening ∧
        ∃ closing, walk step (index + first.length) (first.getLast?.or before) second after =
          .ok closing ∧ opening ++ closing = text := by
  induction first generalizing index before text with
  | nil =>
    constructor
    · intro walked
      exact ⟨[], rfl, text, walked, rfl⟩
    · rintro ⟨opening, walked, closing, closed, joined⟩
      cases walked
      rw [List.nil_append] at joined
      exact joined ▸ closed
  | cons item rest ih =>
    have next : (rest ++ second).head?.or after = rest.head?.or (second.head?.or after) := by
      rw [List.head?_append, Option.or_assoc]
    have last : (item :: rest).getLast?.or before = rest.getLast?.or (some item) := by
      rw [List.getLast?_cons]
      cases rest.getLast? <;> rfl
    have further : index + (item :: rest).length = index + 1 + rest.length := by
      rw [List.length_cons]
      omega
    rw [List.cons_append, walk_cons_eq_ok, next, last, further]
    constructor
    · rintro ⟨piece, written, others, walked, joined⟩
      obtain ⟨opening, opened, closing, closed, rejoined⟩ := ih.mp walked
      refine ⟨piece ++ opening, walk_cons_eq_ok.mpr ⟨piece, written, opening, opened, rfl⟩,
        closing, closed, ?_⟩
      rw [List.append_assoc, rejoined, joined]
    · rintro ⟨opening, walked, closing, closed, joined⟩
      obtain ⟨piece, written, others, opened, split⟩ := walk_cons_eq_ok.mp walked
      refine ⟨piece, written, others ++ closing, ih.mpr ⟨others, opened, closing, closed, rfl⟩, ?_⟩
      rw [← joined, ← split, List.append_assoc]

theorem written_of_walk {items : List α} (walked : walk step index before items after = .ok text) :
    ∀ item ∈ items, ∃ index before after piece, step index before item after = .ok piece := by
  induction items generalizing index before text with
  | nil =>
    intro item listed
    cases listed
  | cons first rest ih =>
    obtain ⟨piece, written, others, continued, -⟩ := walk_cons_eq_ok.mp walked
    intro item listed
    cases listed with
    | head => exact ⟨index, before, _, piece, written⟩
    | tail _ later => exact ih continued item later

section Surroundings

variable {γ δ : Type} {step' : Nat → Option α → α → Option α → Except ε (List β)}
  {classBefore : Option α → γ} {classAfter : Option α → δ}

/-- Where the items look at their neighbours only through a class, two surroundings of the same
classes give the same text. -/
theorem walk_eq_of_same_surroundings {items : List α}
    (looks : ∀ item ∈ items, ∀ index index' before before' after after',
      classBefore before = classBefore before' → classAfter after = classAfter after' →
        step index before item after = step' index' before' item after')
    {index index' : Nat} {before before' after after' : Option α}
    (sameBefore : classBefore before = classBefore before')
    (sameAfter : classAfter after = classAfter after') :
    walk step index before items after = walk step' index' before' items after' := by
  induction items generalizing index index' before before' with
  | nil => rfl
  | cons item rest ih =>
    have next : classAfter (rest.head?.or after) = classAfter (rest.head?.or after') := by
      cases rest with
      | nil => exact sameAfter
      | cons second others => rfl
    have piece := looks item List.mem_cons_self index index' before before' _ _ sameBefore next
    have others : walk step (index + 1) (some item) rest after =
        walk step' (index' + 1) (some item) rest after' :=
      ih (fun other listed => looks other (List.mem_cons_of_mem item listed)) rfl
    rw [walk, walk, piece, others]

end Surroundings

theorem walk_eq_of_last {items : List α} {last : α} (ends : items.getLast? = some last)
    (blind : ∀ index before after after',
      step index before last after = step index before last after')
    (index : Nat) (before after after' : Option α) :
    walk step index before items after = walk step index before items after' := by
  induction items generalizing index before with
  | nil => cases ends
  | cons item rest ih =>
    cases rest with
    | nil =>
      have same : item = last := Option.some.inj ends
      subst same
      rw [walk, walk, blind index before _ (([] : List α).head?.or after')]
      rfl
    | cons second others =>
      rw [List.getLast?_cons_cons] at ends
      have continued := ih ends (index + 1) (some item)
      rw [walk, continued]
      rfl

end Dressage.Lib.Neighbours

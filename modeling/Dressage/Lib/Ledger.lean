/-
Positions in concatenated lists, and order-preserving bijections.

A list built block by block is read back by block and offset. A list of lists
that is strictly sorted as a whole orders its entries by block and place. A
relation that never runs against two strict orders, and covers both sides, is
an order-preserving bijection.
-/

import Mathlib.Data.List.Basic
import Mathlib.Data.Set.Function

namespace Dressage.Lib.Ledger

open List

theorem getElem?_flatMap {α β : Type} (block : α → List β) (items : List α) (position : Nat)
    (value : β) :
    (items.flatMap block)[position]? = some value ↔
      ∃ before item after offset, items = before ++ item :: after ∧
        (block item)[offset]? = some value ∧ position = (before.flatMap block).length + offset := by
  induction items generalizing position with
  | nil =>
    constructor
    · intro found
      simp at found
    · rintro ⟨before, item, after, offset, split, _⟩
      have sizes := congrArg List.length split
      simp at sizes
  | cons first rest ih =>
    rw [flatMap_cons]
    constructor
    · intro found
      by_cases inside : position < (block first).length
      · rw [getElem?_append_left inside] at found
        exact ⟨[], first, rest, position, rfl, found, by simp⟩
      · rw [getElem?_append_right (by omega)] at found
        obtain ⟨before, item, after, offset, split, here, place⟩ := (ih _).mp found
        refine ⟨first :: before, item, after, offset, by rw [split]; rfl, here, ?_⟩
        rw [flatMap_cons, length_append]
        omega
    · rintro ⟨before, item, after, offset, split, here, place⟩
      cases before with
      | nil =>
        cases split
        have inside : offset < (block first).length := (List.getElem_of_getElem? here).1
        rw [place, flatMap_nil, length_nil, Nat.zero_add, getElem?_append_left inside]
        exact here
      | cons head tail =>
        cases split
        rw [flatMap_cons, length_append] at place
        rw [getElem?_append_right (by omega)]
        exact (ih _).mpr ⟨tail, item, after, offset, rfl, here, by omega⟩

def Earlier (first second : Nat × Nat) : Prop :=
  first.1 < second.1 ∨ first.1 = second.1 ∧ first.2 < second.2

theorem earlier_trichotomy (first second : Nat × Nat) :
    Earlier first second ∨ first = second ∨ Earlier second first := by
  rcases first with ⟨block, index⟩
  rcases second with ⟨other, place⟩
  unfold Earlier
  simp only [Prod.mk.injEq]
  omega

variable {α : Type} {below : α → α → Prop}

variable {left right : List α} {second first : Nat × Nat} {item : α} {blocks : List (List α)}

section

variable (sorted : blocks.flatten.Pairwise below)
include sorted

theorem below_of_earlier {other : α} (leftBlock : blocks[first.1]? = some left)
    (leftItem : left[first.2]? = some item) (rightBlock : blocks[second.1]? = some right)
    (rightItem : right[second.2]? = some other) (earlier : Earlier first second) :
    below item other := by
  rw [pairwise_flatten] at sorted
  obtain ⟨leftInside, leftIs⟩ := List.getElem_of_getElem? leftBlock
  obtain ⟨rightInside, rightIs⟩ := List.getElem_of_getElem? rightBlock
  obtain ⟨itemInside, itemIs⟩ := List.getElem_of_getElem? leftItem
  obtain ⟨otherInside, otherIs⟩ := List.getElem_of_getElem? rightItem
  rcases earlier with blockBefore | ⟨sameBlock, indexBefore⟩
  · have across := pairwise_iff_getElem.mp sorted.2 first.1 second.1 leftInside rightInside
      blockBefore
    rw [leftIs, rightIs] at across
    exact across item (mem_of_getElem? leftItem) other (mem_of_getElem? rightItem)
  · have same : left = right := by
      rw [sameBlock, rightBlock] at leftBlock
      exact (Option.some_inj.mp leftBlock).symm
    subst same
    have inBlock := sorted.1 left (mem_of_getElem? leftBlock)
    have ordered := pairwise_iff_getElem.mp inBlock first.2 second.2 itemInside otherInside
      indexBefore
    rw [itemIs, otherIs] at ordered
    exact ordered

theorem earlier_of_below (irreflexive : ∀ item, ¬ below item item)
    (asymmetric : ∀ item other, below item other → ¬ below other item) {other : α}
    (leftBlock : blocks[first.1]? = some left) (leftItem : left[first.2]? = some item)
    (rightBlock : blocks[second.1]? = some right) (rightItem : right[second.2]? = some other)
    (ordered : below item other) : Earlier first second := by
  rcases earlier_trichotomy first second with earlier | same | later
  · exact earlier
  · subst same
    rw [leftBlock] at rightBlock
    cases rightBlock
    rw [leftItem] at rightItem
    cases rightItem
    exact absurd ordered (irreflexive item)
  · exact absurd (below_of_earlier sorted rightBlock rightItem leftBlock leftItem later)
      (asymmetric item other ordered)

theorem place_unique (irreflexive : ∀ item, ¬ below item item)
    (leftBlock : blocks[first.1]? = some left) (leftItem : left[first.2]? = some item)
    (rightBlock : blocks[second.1]? = some right) (rightItem : right[second.2]? = some item) :
    first = second := by
  rcases earlier_trichotomy first second with earlier | same | later
  · exact absurd (below_of_earlier sorted leftBlock leftItem rightBlock rightItem earlier)
      (irreflexive item)
  · exact same
  · exact absurd (below_of_earlier sorted rightBlock rightItem leftBlock leftItem later)
      (irreflexive item)

end

section Bijection

variable {σ τ : Type} {slots : Set σ} {tokens : Set τ} {related : σ → τ → Prop}
variable {slotBefore : σ → σ → Prop} {tokenBefore : τ → τ → Prop}

/-- A relation that covers both sides, gives each token one slot and carries the order of
tokens over to slots is a strictly increasing bijection. -/
theorem exists_increasing_bijection (fallback : τ)
    (covered : ∀ slot ∈ slots, ∃ token ∈ tokens, related slot token)
    (placed : ∀ token ∈ tokens, ∃ slot ∈ slots, related slot token)
    (oneSlot : ∀ slot other token, related slot token → related other token → slot = other)
    (carried : ∀ slot other token later, related slot token → related other later →
      tokenBefore token later → slotBefore slot other)
    (trichotomous : ∀ token ∈ tokens, ∀ later ∈ tokens,
      tokenBefore token later ∨ token = later ∨ tokenBefore later token)
    (irreflexive : ∀ slot, ¬ slotBefore slot slot)
    (asymmetric : ∀ slot other, slotBefore slot other → ¬ slotBefore other slot) :
    ∃ origin : σ → τ, Set.BijOn origin slots tokens ∧
      (∀ slot ∈ slots, related slot (origin slot)) ∧
      ∀ slot ∈ slots, ∀ other ∈ slots, slotBefore slot other →
        tokenBefore (origin slot) (origin other) := by
  classical
  let origin : σ → τ := fun slot =>
    if inside : slot ∈ slots then (covered slot inside).choose else fallback
  have spec : ∀ slot ∈ slots, origin slot ∈ tokens ∧ related slot (origin slot) := by
    intro slot inside
    simp only [origin, dif_pos inside]
    exact (covered slot inside).choose_spec
  -- Two tokens of one slot would put the slot before itself.
  have oneToken : ∀ slot token later, token ∈ tokens → later ∈ tokens → related slot token →
      related slot later → token = later := by
    intro slot token later inTokens laterIn relatedToken relatedLater
    rcases trichotomous token inTokens later laterIn with before | same | after
    · exact absurd (carried slot slot token later relatedToken relatedLater before)
        (irreflexive slot)
    · exact same
    · exact absurd (carried slot slot later token relatedLater relatedToken after)
        (irreflexive slot)
  refine ⟨origin, ⟨fun slot inside => (spec slot inside).1, ?_, ?_⟩,
    fun slot inside => (spec slot inside).2, ?_⟩
  · intro slot inside other otherInside same
    have relatedOther := (spec other otherInside).2
    rw [← same] at relatedOther
    exact oneSlot slot other (origin slot) (spec slot inside).2 relatedOther
  · intro token inTokens
    obtain ⟨slot, inside, relatedHere⟩ := placed token inTokens
    refine ⟨slot, inside, ?_⟩
    exact oneToken slot (origin slot) token (spec slot inside).1 inTokens (spec slot inside).2
      relatedHere
  · intro slot inside other otherInside before
    have here := spec slot inside
    have there := spec other otherInside
    rcases trichotomous (origin slot) here.1 (origin other) there.1 with ordered | same | reversed
    · exact ordered
    · have relatedOther := there.2
      rw [← same] at relatedOther
      have equal := oneSlot slot other (origin slot) here.2 relatedOther
      rw [equal] at before
      exact absurd before (irreflexive other)
    · exact absurd (carried other slot (origin other) (origin slot) there.2 here.2 reversed)
        (asymmetric slot other before)

end Bijection

end Dressage.Lib.Ledger

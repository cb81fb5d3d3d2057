/-
Cutting a list at its boundary elements.

A boundary element opens a new segment unless the current one is still empty.
The open segment of a list is the part from its last boundary on. Every prefix
of every segment is the open segment of a prefix of the list, which is how a
fact kept about open segments turns into one about the finished cut.
-/

import Mathlib.Data.List.Basic

namespace Dressage.Lib.Boundary

open List

variable {α : Type} (boundary : α → Bool)

/-- The segment that is open after reading a list, from what was open before it. -/
def openFrom : List α → List α → List α
  | current, [] => current
  | current, item :: rest =>
    openFrom (if boundary item then [item] else current ++ [item]) rest

def openSegment (items : List α) : List α := openFrom boundary [] items

def segmentsFrom : List α → List α → List (List α)
  | current, [] => if current = [] then [] else [current]
  | current, item :: rest =>
    if boundary item = true ∧ current ≠ [] then current :: segmentsFrom [item] rest
    else segmentsFrom (current ++ [item]) rest

def segments (items : List α) : List (List α) := segmentsFrom boundary [] items

variable {boundary}

theorem openFrom_append (current first second : List α) :
    openFrom boundary current (first ++ second) =
      openFrom boundary (openFrom boundary current first) second := by
  induction first generalizing current with
  | nil => rfl
  | cons item rest ih => exact ih _

theorem openSegment_snoc (items : List α) (item : α) :
    openSegment boundary (items ++ [item]) =
      if boundary item then [item] else openSegment boundary items ++ [item] := by
  unfold openSegment
  rw [openFrom_append]
  rfl

theorem segmentsFrom_flatten (current items : List α) :
    (segmentsFrom boundary current items).flatten = current ++ items := by
  induction items generalizing current with
  | nil =>
    by_cases empty : current = []
    · simp [segmentsFrom, empty]
    · simp [segmentsFrom, empty]
  | cons item rest ih =>
    by_cases cut : boundary item = true ∧ current ≠ []
    · rw [segmentsFrom, if_pos cut, flatten_cons, ih]
      rfl
    · rw [segmentsFrom, if_neg cut, ih, append_assoc]
      rfl

theorem segments_flatten (items : List α) : (segments boundary items).flatten = items :=
  segmentsFrom_flatten [] items

variable {segment current items before : List α} {item : α}

theorem segmentsFrom_ne_nil (member : segment ∈ segmentsFrom boundary current items) :
    segment ≠ [] := by
  induction items generalizing current with
  | nil =>
    by_cases empty : current = []
    · simp [segmentsFrom, empty] at member
    · simp only [segmentsFrom, if_neg empty, mem_singleton] at member
      rw [member]
      exact empty
  | cons item rest ih =>
    by_cases cut : boundary item = true ∧ current ≠ []
    · rw [segmentsFrom, if_pos cut, mem_cons] at member
      rcases member with atHead | inRest
      · rw [atHead]
        exact cut.2
      · exact ih inRest
    · rw [segmentsFrom, if_neg cut] at member
      exact ih member

theorem segments_ne_nil (member : segment ∈ segments boundary items) : segment ≠ [] :=
  segmentsFrom_ne_nil member

private theorem snoc_split {kept tail : List α} {first : α}
    (same : kept ++ [first] = before ++ item :: tail) :
    (item = first ∧ kept = before) ∨ ∃ front, kept = before ++ item :: front := by
  rcases eq_nil_or_concat tail with rfl | ⟨front, last, rfl⟩
  · obtain ⟨whole, ends⟩ := append_inj' same rfl
    exact .inl ⟨(List.cons.inj ends).1.symm, whole⟩
  · rw [concat_eq_append, ← cons_append, ← append_assoc] at same
    exact .inr ⟨front, (append_inj' same rfl).1⟩

private theorem segmentsFrom_prefix (past : List α) (opened : openSegment boundary past = current)
    (member : segment ∈ segmentsFrom boundary current items) {after : List α}
    (here : segment = before ++ item :: after) :
    (∃ late later, items = late ++ item :: later ∧
        openSegment boundary (past ++ late ++ [item]) = before ++ [item]) ∨
      ∃ rest, current = before ++ item :: rest := by
  induction items generalizing past current with
  | nil =>
    by_cases empty : current = []
    · simp [segmentsFrom, empty] at member
    · simp only [segmentsFrom, if_neg empty, mem_singleton] at member
      exact .inr ⟨after, by rw [← member, here]⟩
  | cons first rest ih =>
    have openedNext : openSegment boundary (past ++ [first]) =
        if boundary first then [first] else current ++ [first] := by
      rw [openSegment_snoc, opened]
    -- Whatever is found behind `first` is found behind it in the whole list.
    have lift : ∀ kept : List α, openSegment boundary (past ++ [first]) = kept ++ [first] →
        segment ∈ segmentsFrom boundary (kept ++ [first]) rest →
        (∃ late later, first :: rest = late ++ item :: later ∧
            openSegment boundary (past ++ late ++ [item]) = before ++ [item]) ∨
          ∃ front, kept = before ++ item :: front := by
      intro kept openedNow inRest
      rcases ih (past ++ [first]) openedNow inRest with
        ⟨late, later, split, openedAt⟩ | ⟨tail, nowSplit⟩
      · refine .inl ⟨first :: late, later, by rw [split]; rfl, ?_⟩
        rw [← openedAt]
        simp only [append_assoc, cons_append, nil_append]
      · rcases snoc_split nowSplit with ⟨isFirst, isBefore⟩ | ⟨front, inKept⟩
        · refine .inl ⟨[], rest, by rw [isFirst]; rfl, ?_⟩
          rw [append_nil, isFirst, openedNow, isBefore]
        · exact .inr ⟨front, inKept⟩
    by_cases isBoundary : boundary first = true
    · rw [if_pos isBoundary] at openedNext
      by_cases empty : current = []
      · rw [segmentsFrom, if_neg (fun cut => cut.2 empty), empty] at member
        rw [empty]
        exact lift [] openedNext member
      · rw [segmentsFrom, if_pos ⟨isBoundary, empty⟩, mem_cons] at member
        rcases member with atHead | inRest
        · exact .inr ⟨after, by rw [← atHead, here]⟩
        · rcases lift [] openedNext inRest with found | ⟨front, impossible⟩
          · exact .inl found
          · exact absurd impossible (by simp)
    · rw [if_neg isBoundary] at openedNext
      rw [segmentsFrom, if_neg (fun cut => isBoundary cut.1)] at member
      exact lift current openedNext member

theorem openSegment_of_mem_segments {after : List α} (member : segment ∈ segments boundary items)
    (here : segment = before ++ item :: after) :
    ∃ past later, items = past ++ item :: later ∧
      openSegment boundary (past ++ [item]) = before ++ [item] := by
  rcases segmentsFrom_prefix [] rfl member here with
    ⟨late, later, split, opened⟩ | ⟨rest, impossible⟩
  · exact ⟨late, later, split, opened⟩
  · have sizes := congrArg List.length impossible
    simp [openSegment, openFrom] at sizes

private theorem openFrom_mem_segmentsFrom (nonempty : current ++ items ≠ []) :
    openFrom boundary current items ∈ segmentsFrom boundary current items := by
  induction items generalizing current with
  | nil =>
    rw [append_nil] at nonempty
    rw [openFrom, segmentsFrom, if_neg nonempty]
    exact mem_singleton_self current
  | cons item rest ih =>
    rw [openFrom, segmentsFrom]
    by_cases isBoundary : boundary item = true
    · rw [if_pos isBoundary]
      by_cases empty : current = []
      · rw [if_neg (fun cut => cut.2 empty), empty]
        exact ih (by simp)
      · rw [if_pos ⟨isBoundary, empty⟩]
        exact mem_cons_of_mem current (ih (by simp))
    · rw [if_neg isBoundary, if_neg (fun cut => isBoundary cut.1)]
      exact ih (by simp)

theorem openSegment_mem_segments (nonempty : items ≠ []) :
    openSegment boundary items ∈ segments boundary items :=
  openFrom_mem_segmentsFrom nonempty

def lastBoundary (boundary : α → Bool) : Nat → Nat → List α → Nat
  | start, _, [] => start
  | start, index, item :: rest =>
    lastBoundary boundary (if boundary item then index else start) (index + 1) rest

private theorem drop_lastBoundary (past items : List α) (start : Nat)
    (early : start ≤ past.length) :
    (past ++ items).drop (lastBoundary boundary start past.length items) =
      openFrom boundary (past.drop start) items := by
  induction items generalizing past start with
  | nil => rw [append_nil]; rfl
  | cons item rest ih =>
    have here : past ++ item :: rest = (past ++ [item]) ++ rest := by simp
    have size : (past ++ [item]).length = past.length + 1 := by simp
    rw [lastBoundary, openFrom, here, ← size]
    by_cases isBoundary : boundary item = true
    · rw [if_pos isBoundary, if_pos isBoundary, ih _ _ (by rw [size]; omega)]
      rw [drop_left]
    · rw [if_neg isBoundary, if_neg isBoundary, ih _ _ (by rw [size]; omega),
        drop_append_of_le_length early]

theorem openSegment_eq_drop (items : List α) :
    items.drop (lastBoundary boundary 0 0 items) = openSegment boundary items := by
  have whole : ([] ++ items).drop (lastBoundary boundary 0 0 items) = openFrom boundary [] items :=
    drop_lastBoundary [] items 0 (Nat.le_refl 0)
  rwa [nil_append] at whole

end Dressage.Lib.Boundary

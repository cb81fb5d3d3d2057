/-
The order of the lineage view.

Lineages come in the order they were opened and the steps of one in the order
they were recorded, so the segments of a served session, read one after
another, list every recorded step once and in that order.
-/

import Dressage.Proxy.FinalizedRecords

namespace Dressage.Proxy

open Lib List

variable {Message Tool Call : Type} {config : ProxyConfig} {state : ProxyState Message Tool}

def stepBefore (first second : StepRecord Message Tool) : Prop :=
  first.lineageIndex < second.lineageIndex ∨
    first.lineageIndex = second.lineageIndex ∧ first.stepId < second.stepId

theorem stepBefore_irrefl (step : StepRecord Message Tool) : ¬ stepBefore step step := by
  rintro (impossible | ⟨_, impossible⟩)
  · exact absurd impossible (Nat.lt_irrefl _)
  · exact absurd impossible (Nat.lt_irrefl _)

theorem stepBefore_asymm (first second : StepRecord Message Tool)
    (ordered : stepBefore first second) : ¬ stepBefore second first := by
  rcases ordered with less | ⟨same, less⟩
  · rintro (back | ⟨equal, _⟩)
    · exact absurd back (Nat.lt_asymm less)
    · exact absurd equal (Nat.ne_of_gt less)
  · rintro (back | ⟨_, back⟩)
    · exact absurd same (Nat.ne_of_gt back)
    · exact absurd back (Nat.lt_asymm less)

theorem WellRecorded.sortedLineages (recorded : WellRecorded config Call state) :
    sortedLineages state.session = state.session.lineages.values := by
  have indices : state.session.lineages.values.map Lineage.index =
      List.range state.session.lineageCounter := by
    have shown := congrArg (List.map (fun entry => entry.2.2)) recorded.numbered
    rw [map_map, map_map] at shown
    unfold OrderedDict.values
    rw [map_map]
    apply shown.trans
    exact map_id _
  apply List.Pairwise.insertionSort_eq
  have increasing : (state.session.lineages.values.map Lineage.index).Pairwise (· ≤ ·) := by
    rw [indices]
    exact pairwise_le_range
  exact pairwise_map.mp increasing

theorem WellRecorded.lineage_ids (recorded : WellRecorded config Call state) :
    state.session.lineages.values.map (fun lineage => (lineage.id, lineage.index)) =
      (List.range state.session.lineageCounter).map (fun index => (index + 1, index)) := by
  have shown := congrArg (List.map (fun entry : LineageId × LineageId × Nat => entry.2))
    recorded.numbered
  rw [map_map, map_map] at shown
  unfold OrderedDict.values
  rw [map_map]
  exact shown

theorem splitSessionIntoLineageSegments_flatten (session : Session Message Tool) :
    ((splitSessionIntoLineageSegments session).map Segment.steps).flatten =
      (sortedLineages session).flatMap (fun lineage => session.lineageSteps lineage.id) := by
  unfold splitSessionIntoLineageSegments
  induction sortedLineages session with
  | nil => rfl
  | cons lineage rest ih =>
    rw [flatMap_cons, flatMap_cons, map_append, flatten_append, ih, splitLineage_steps]
    congr 1
    exact Boundary.segments_flatten _

section

variable (recorded : WellRecorded config Call state)
include recorded

theorem WellRecorded.segments_sorted :
    ((splitSessionIntoLineageSegments state.session).map Segment.steps).flatten.Pairwise
      stepBefore := by
  rw [splitSessionIntoLineageSegments_flatten, recorded.sortedLineages]
  have lineageOf : ∀ lineage ∈ state.session.lineages.values,
      ∀ step ∈ state.session.lineageSteps lineage.id, step.lineageIndex = lineage.index := by
    intro lineage listed step inside
    have kept := mem_filter.mp inside
    have sameId : step.lineageId = lineage.id := by simpa using kept.2
    have place := (recorded.placed step kept.1).1
    have pair : (lineage.id, lineage.index) ∈
        (List.range state.session.lineageCounter).map (fun index => (index + 1, index)) := by
      rw [← recorded.lineage_ids]
      exact mem_map_of_mem listed
    obtain ⟨index, _inRange, same⟩ := mem_map.mp pair
    simp only [Prod.mk.injEq] at same
    have successors : step.lineageIndex + 1 = lineage.index + 1 := by
      rw [← place, sameId, ← same.1, same.2]
    exact Nat.succ.inj successors
  rw [flatMap_def, pairwise_flatten]
  constructor
  · intro steps isLineage
    obtain ⟨lineage, listed, rfl⟩ := mem_map.mp isLineage
    have increasing : (state.session.lineageSteps lineage.id).Pairwise
        (fun first second => first.stepId < second.stepId) :=
      recorded.increasing.sublist filter_sublist
    refine increasing.imp_of_mem (fun inFirst inSecond ordered => .inr ⟨?_, ordered⟩)
    rw [lineageOf lineage listed _ inFirst, lineageOf lineage listed _ inSecond]
  · have increasing : (state.session.lineages.values.map
        (fun lineage => (lineage.id, lineage.index))).Pairwise
          (fun first second => first.2 < second.2) := by
      rw [recorded.lineage_ids, pairwise_map]
      exact pairwise_lt_range
    rw [pairwise_map] at increasing ⊢
    refine increasing.imp_of_mem (fun inFirst inSecond ordered first firstIn second secondIn => ?_)
    apply Or.inl
    rw [lineageOf _ inFirst first firstIn, lineageOf _ inSecond second secondIn]
    exact ordered

theorem WellRecorded.eq_of_stepId {first second : StepRecord Message Tool}
    (firstIn : first ∈ state.session.steps) (secondIn : second ∈ state.session.steps)
    (same : first.stepId = second.stepId) :
    first = second := by
  obtain ⟨i, iInside, rfl⟩ := mem_iff_getElem.mp firstIn
  obtain ⟨j, jInside, rfl⟩ := mem_iff_getElem.mp secondIn
  have ordered := pairwise_iff_getElem.mp recorded.increasing
  rcases Nat.lt_trichotomy i j with before | equal | after
  · exact absurd same (Nat.ne_of_lt (ordered i j iInside jInside before))
  · subst equal
    rfl
  · exact absurd same.symm (Nat.ne_of_lt (ordered j i jInside iInside after))

theorem WellRecorded.mem_segment {step : StepRecord Message Tool}
    (member : step ∈ state.session.steps) :
    ∃ segment ∈ splitSessionIntoLineageSegments state.session, step ∈ segment.steps := by
  have place := recorded.placed step member
  have pair : (step.lineageId, step.lineageIndex) ∈ state.session.lineages.values.map
      (fun lineage => (lineage.id, lineage.index)) := by
    have bound : step.lineageIndex + 1 ≤ state.session.lineageCounter := by
      rw [← place.1]
      exact place.2
    rw [recorded.lineage_ids, mem_map]
    exact ⟨step.lineageIndex, mem_range.mpr bound, by rw [place.1]⟩
  obtain ⟨lineage, listed, same⟩ := mem_map.mp pair
  simp only [Prod.mk.injEq] at same
  have inFlat : step ∈
      ((splitSessionIntoLineageSegments state.session).map Segment.steps).flatten := by
    rw [splitSessionIntoLineageSegments_flatten, recorded.sortedLineages, mem_flatMap]
    refine ⟨lineage, listed, mem_filter.mpr ⟨member, ?_⟩⟩
    simpa using same.1.symm
  obtain ⟨steps, isSegment, inside⟩ := mem_flatten.mp inFlat
  obtain ⟨segment, inSegments, rfl⟩ := mem_map.mp isSegment
  exact ⟨segment, inSegments, inside⟩

end

end Dressage.Proxy

/-
The token stream of a lineage segment.

A segment read up to any of its steps carries exactly the ids that were sent to
the engine for that step, followed by the ids recorded from it.
-/

import Dressage.Proxy.PlainFormat
import Dressage.Proxy.Segments
import Dressage.Proxy.StepOrigins

namespace Dressage.Proxy

open Lib Transport List

variable {Message Tool Call : Type}

theorem splitLineage_steps (lineage : Lineage) (current : List (StepRecord Message Tool))
    (reasons : List String) (steps : List (StepRecord Message Tool)) :
    (splitLineage lineage current reasons steps).map Segment.steps =
      Boundary.segmentsFrom lineageBoundary current steps := by
  induction steps generalizing current reasons with
  | nil =>
    rw [splitLineage, Boundary.segmentsFrom, flushSegment]
    by_cases empty : current = []
    · rw [if_pos empty, if_pos empty]
      rfl
    · rw [if_neg empty, if_neg empty]
      rfl
  | cons step rest ih =>
    rw [splitLineage, Boundary.segmentsFrom]
    by_cases cut : step.lineageSegmentBoundaryBefore = true ∧ current ≠ []
    · rw [if_pos cut, if_pos cut, map_append, ih, flushSegment, if_neg cut.2]
      rfl
    · rw [if_neg cut, if_neg cut, ih]

theorem splitLineage_lineage {lineage : Lineage} {current : List (StepRecord Message Tool)}
    {reasons : List String} {steps : List (StepRecord Message Tool)}
    {segment : Segment Message Tool}
    (member : segment ∈ splitLineage lineage current reasons steps) :
    segment.lineageId = lineage.id ∧ segment.lineageIndex = lineage.index := by
  have flushed : ∀ {open_ : List (StepRecord Message Tool)} {why : List String},
      segment ∈ flushSegment lineage open_ why →
        segment.lineageId = lineage.id ∧ segment.lineageIndex = lineage.index := by
    intro open_ why inFlush
    unfold flushSegment at inFlush
    split at inFlush
    · cases inFlush
    · rw [mem_singleton.mp inFlush]
      exact ⟨rfl, rfl⟩
  induction steps generalizing current reasons with
  | nil => exact flushed member
  | cons step rest ih =>
    rw [splitLineage] at member
    split at member
    · rcases mem_append.mp member with inFlush | inRest
      · exact flushed inFlush
      · exact ih inRest
    · exact ih member

theorem mem_splitSessionIntoLineageSegments {session : Session Message Tool}
    {segment : Segment Message Tool}
    (member : segment ∈ splitSessionIntoLineageSegments session) :
    ∃ lineage ∈ session.lineages.values, segment.lineageId = lineage.id ∧
      segment.lineageIndex = lineage.index ∧
      segment.steps ∈ Boundary.segments lineageBoundary (session.lineageSteps lineage.id) := by
  obtain ⟨lineage, sorted, inLineage⟩ := mem_flatMap.mp member
  have shape := splitLineage_lineage inLineage
  refine ⟨lineage, (mem_insertionSort _).mp sorted, shape.1, shape.2, ?_⟩
  unfold Boundary.segments
  rw [← splitLineage_steps lineage [] initialReasons]
  exact mem_map.mpr ⟨segment, inLineage, rfl⟩

theorem filter_split {α : Type} {keep : α → Bool} {items past later : List α} {item : α}
    (split : items.filter keep = past ++ item :: later) :
    ∃ before after, items = before ++ item :: after ∧ before.filter keep = past ∧
      after.filter keep = later := by
  obtain ⟨first, rest, rfl, firstKept, restKept⟩ := filter_eq_append_iff.mp split
  obtain ⟨gap, after, rfl, gapDropped, _kept, afterKept⟩ := filter_eq_cons_iff.mp restKept
  refine ⟨first ++ gap, after, ?_, ?_, afterKept⟩
  · rw [append_assoc]
  · rw [filter_append, firstKept, filter_eq_nil_iff.mpr gapDropped, append_nil]

variable {step : StepRecord Message Tool}

theorem Origin.concatTokenIds {config : ProxyConfig} {state : ProxyState Message Tool}
    {past : List (StepRecord Message Tool)} {draft : StepDraft Message Tool Call}
    (tito : config.tokenBuildMode = .tito) (origin : Origin config state past step draft) :
    step.concatTokenIds = draft.prepared.payload.contextDeltaIds ++ step.responseTokenIds := by
  obtain ⟨refOf, _index, shape, _reads⟩ := origin.built
  rw [shape]
  simp only [StepDraft.step, StepDraft.concat, tito]
  rfl

theorem Origin.openSegment {config : ProxyConfig} {state : ProxyState Message Tool}
    {past : List (StepRecord Message Tool)} {draft : StepDraft Message Tool Call}
    (tito : config.tokenBuildMode = .tito) (origin : Origin config state past step draft) :
    (Boundary.openSegment lineageBoundary
        (past.filter (fun other => other.lineageId = step.lineageId) ++ [step])).flatMap
          StepRecord.concatTokenIds =
      step.promptTokenIds ++ step.responseTokenIds := by
  have concat := origin.concatTokenIds tito
  have fits := origin.fits.prompt tito
  obtain ⟨refOf, _index, shape, _reads⟩ := origin.built
  have lineage : draft.routed.route.lineageId = step.lineageId := by rw [shape]; rfl
  have boundary : draft.prepared.lineageSegmentBoundaryBefore = lineageBoundary step := by
    rw [shape]
    rfl
  have prompt : draft.prepared.payload.inputIds = step.promptTokenIds := by rw [shape]; rfl
  rw [lineage, boundary] at fits
  rw [Boundary.openSegment_snoc]
  rcases fits with ⟨whole, bounded | fresh⟩ | ⟨notBounded, grown⟩
  · rw [if_pos bounded, flatMap_singleton, concat, whole, prompt]
  · have empty : past.filter (fun other => other.lineageId = step.lineageId) = [] := by
      rw [filter_eq_nil_iff]
      intro other member same
      exact fresh other member (by simpa using same)
    rw [empty]
    have alone : (if lineageBoundary step then [step]
        else Boundary.openSegment lineageBoundary [] ++ [step]) = [step] := by
      split <;> rfl
    rw [alone, flatMap_singleton, concat, whole, prompt]
  · rw [if_neg (by rw [notBounded]; decide), flatMap_append, flatMap_singleton, concat,
      ← append_assoc, ← grown, prompt]

theorem lineageSteps_split {session : Session Message Tool} {lineageId : LineageId}
    {early late : List (StepRecord Message Tool)}
    (split : session.lineageSteps lineageId = early ++ step :: late) :
    ∃ past later, session.steps = past ++ step :: later ∧ step.lineageId = lineageId ∧
      past.filter (fun other => other.lineageId = step.lineageId) = early := by
  have inLineage : step ∈ session.lineageSteps lineageId := by
    rw [split]
    exact mem_append_right early mem_cons_self
  have same : step.lineageId = lineageId := by
    simpa [Session.lineageSteps] using (mem_filter.mp inLineage).2
  obtain ⟨past, later, whole, pastKept, _laterKept⟩ := filter_split split
  exact ⟨past, later, whole, same, same ▸ pastKept⟩

theorem segment_step_split {session : Session Message Tool} {segment : Segment Message Tool}
    (member : segment ∈ splitSessionIntoLineageSegments session)
    {before after : List (StepRecord Message Tool)} {step : StepRecord Message Tool}
    (here : segment.steps = before ++ step :: after) :
    ∃ past later, session.steps = past ++ step :: later ∧ step.lineageId = segment.lineageId ∧
      Boundary.openSegment lineageBoundary
        (past.filter (fun other => other.lineageId = step.lineageId) ++ [step]) =
          before ++ [step] := by
  obtain ⟨lineage, _listed, lineageId, _index, cut⟩ := mem_splitSessionIntoLineageSegments member
  obtain ⟨early, late, split, opened⟩ := Boundary.openSegment_of_mem_segments cut here
  obtain ⟨past, later, whole, same, pastKept⟩ := lineageSteps_split split
  refine ⟨past, later, whole, same.trans lineageId.symm, ?_⟩
  rw [pastKept]
  exact opened

theorem WellRecorded.segment_stream {config : ProxyConfig} {state : ProxyState Message Tool}
    (tito : config.tokenBuildMode = .tito) (recorded : WellRecorded config Call state)
    {segment : Segment Message Tool}
    (member : segment ∈ splitSessionIntoLineageSegments state.session)
    {before after : List (StepRecord Message Tool)} {step : StepRecord Message Tool}
    (here : segment.steps = before ++ step :: after) :
    (before ++ [step]).flatMap StepRecord.concatTokenIds =
      step.promptTokenIds ++ step.responseTokenIds := by
  obtain ⟨past, later, split, _lineage, opened⟩ := segment_step_split member here
  obtain ⟨draft, origin⟩ := recorded.origins past step later split
  rw [← opened]
  exact origin.openSegment tito

/-- Every segment of every tito session, read up to any of its steps, is that step's prompt
followed by its recorded response. -/
theorem lineage_segments_token_exact [BEq Message] {config : ProxyConfig}
    {format : ChatFormat Message Tool Call} (tito : config.tokenBuildMode = .tito)
    (sessionId instanceId : String) (now : ℚ) (events : List (ChatEvent Message Tool Call))
    {segment : Segment Message Tool}
    (member : segment ∈ splitSessionIntoLineageSegments
      (Runs.run (serve config format) (ProxyState.initial sessionId instanceId now) events).session)
    {k : Nat} {step : StepRecord Message Tool} (here : segment.steps[k]? = some step) :
    (segment.steps.take (k + 1)).flatMap StepRecord.concatTokenIds =
      step.promptTokenIds ++ step.responseTokenIds := by
  have recorded : WellRecorded config Call
      (Runs.run (serve config format) (ProxyState.initial sessionId instanceId now) events) :=
    wellRecorded_run sessionId instanceId now events
  obtain ⟨inside, rfl⟩ := List.getElem_of_getElem? here
  have split : segment.steps =
      segment.steps.take k ++ segment.steps[k] :: segment.steps.drop (k + 1) := by
    rw [← drop_eq_getElem_cons inside, take_append_drop]
  rw [take_succ_eq_append_getElem inside]
  exact recorded.segment_stream tito member split

def followUp : List (ChatEvent PlainFormat.PlainMessage String String) :=
  [PlainFormat.asked [⟨"user", "hi"⟩] "yo" "v1",
    PlainFormat.asked [⟨"user", "hi"⟩, ⟨"assistant", "yo"⟩, ⟨"user", "ok"⟩] "k" "v1"]

theorem lineage_segments_token_exact_followUp :
    ∃ segment ∈ splitSessionIntoLineageSegments
        (Runs.run (serve PlainFormat.config PlainFormat.format) PlainFormat.start followUp).session,
      ∃ step, segment.steps[1]? = some step ∧
        (segment.steps.take 2).flatMap StepRecord.concatTokenIds =
          step.promptTokenIds ++ step.responseTokenIds := by
  have ids : (splitSessionIntoLineageSegments
      (Runs.run (serve PlainFormat.config PlainFormat.format) PlainFormat.start
        followUp).session).map (fun segment => segment.steps.map StepRecord.stepId) =
      [[1, 2]] := by
    decide +kernel
  have listed : [1, 2] ∈ (splitSessionIntoLineageSegments
      (Runs.run (serve PlainFormat.config PlainFormat.format) PlainFormat.start
        followUp).session).map (fun segment => segment.steps.map StepRecord.stepId) := by
    rw [ids]
    exact mem_singleton_self _
  obtain ⟨segment, member, shape⟩ := mem_map.mp listed
  have second : 1 < segment.steps.length := by
    have sizes := congrArg List.length shape
    rw [length_map] at sizes
    rw [sizes]
    decide
  have here : segment.steps[1]? = some segment.steps[1] := getElem?_eq_getElem second
  exact ⟨segment, member, segment.steps[1], here,
    lineage_segments_token_exact rfl "session" "instance" 0 followUp member here⟩

end Dressage.Proxy

/-
The routed-expert rows of published records.

A record's field holds the rows of its steps, or says where they are stored. Read
either way it is the rows of the steps one after another, and the steps of a
record are a chain whose tokens are the record's own.
-/

import Dressage.Proxy.ExpertRows
import Dressage.Proxy.PlainFormat

namespace Dressage.Proxy

open Lib Transport Generation List

variable {Message Tool Call : Type} {config : TrainingConfig}

def fragmentRows (store : OrderedDict Nat StepColumns) (fragment : Fragments.Fragment ColumnRef) :
    List (List Int) :=
  ((((store.get? fragment.ref.key).map fun columns =>
    columns.routedExperts.flatMap ExpertChunk.rows).getD []).drop fragment.sourceStart).take
      fragment.length

def expertRows (store : OrderedDict Nat StepColumns) :
    Option (RecordField (List ExpertChunk)) → List (List Int)
  | none => []
  | some (.values chunks) => chunks.flatMap ExpertChunk.rows
  | some (.layout plan) => plan.fragments.flatMap (fragmentRows store)

variable {step : StepRecord Message Tool} {state : TrainingState Message Tool}
variable {steps : List (StepRecord Message Tool)} {segment : Segment Message Tool}
variable {session : Session Message Tool} {fieldsOf : StepId → Option StepFields}
variable {placement : Placement} {entry : TrainingRecord Message Tool} {proxy : ProxyConfig}

theorem StoredAt.columnRows (stored : StoredAt config state step) :
    columnRows state step =
      (recordedColumns state step).routedExperts.flatMap ExpertChunk.rows := by
  unfold Proxy.columnRows
  rw [stored.recorded]
  rfl

theorem StoredAt.fragmentRows (stored : StoredAt config state step) {length offset : Nat}
    (long : (Proxy.columnRows state step).length ≤ length) :
    Proxy.fragmentRows state.store
        { ref :=
            { key := placeOf state.proxy.session step
              field := .routedExperts }
          sourceStart := 0
          targetStart := offset
          length := length } =
      Proxy.columnRows state step := by
  rw [stored.columnRows] at long ⊢
  unfold Proxy.fragmentRows
  rw [stored.stored]
  exact take_of_length_le long

section

variable (stored : ∀ step ∈ steps, StoredAt config state step)
include stored

theorem linear_rows {lengthOf : StepRecord Message Tool → Nat}
    (long : ∀ step ∈ steps, (columnRows state step).length ≤ lengthOf step) (offset : Nat) :
    (Fragments.linear offset ((steps.map (fun step =>
        ({ key := placeOf state.proxy.session step, field := .routedExperts } : ColumnRef))).zip
          (steps.map lengthOf))).flatMap (fragmentRows state.store) =
      steps.flatMap (columnRows state) := by
  induction steps generalizing offset with
  | nil => rfl
  | cons step rest ih =>
    rw [map_cons, map_cons, zip_cons_cons, Fragments.linear, flatMap_cons,
      flatMap_cons,
      (stored step mem_cons_self).fragmentRows (long step mem_cons_self),
      ih (fun other member => stored other (mem_cons_of_mem step member))
        (fun other member => long other (mem_cons_of_mem step member))]

theorem routedExperts_fields :
    steps.filterMap (fun step => (state.fields.get? step.stepId).map StepFields.routedExperts) =
      steps.map (fun step => keptIf config.offloadsRoutedExperts
        (placeOf state.proxy.session step) .routedExperts
          (recordedColumns state step).routedExperts) :=
  filterMap_fields stored StepFields.routedExperts

theorem buildRoutedExpertsField_rows {tokenCount : Nat}
    {field : Option (RecordField (List ExpertChunk))}
    (long : ∀ step ∈ steps, (columnRows state step).length ≤
      stepRoutedExpertsRowCount config.proxy.tokenBuildMode step)
    (built : buildRoutedExpertsField config state.fields.get? steps tokenCount = .ok field) :
    expertRows state.store field = steps.flatMap (columnRows state) := by
  unfold buildRoutedExpertsField at built
  rw [routedExperts_fields stored] at built
  unfold buildConcatenatedRoutedExperts at built
  dsimp only at built
  cases offloads : config.offloadsRoutedExperts with
  | false =>
    rw [offloads, filterMap_ref?_resident, if_pos rfl, filterMap_value?_resident] at built
    cases built
    have rows : steps.flatMap (columnRows state) =
        (steps.map (fun step => (recordedColumns state step).routedExperts)).flatten.flatMap
          ExpertChunk.rows := by
      rw [← flatMap_def, flatMap_assoc]
      exact flatMap_congr (fun step member => (stored step member).columnRows)
    rw [rows]
    split
    · next none_ =>
        rw [none_]
        rfl
    · rfl
  | true =>
    rw [offloads, filterMap_ref?_keptIf] at built
    split at built
    · next noRefs =>
        have empty : steps = [] := map_eq_nil_iff.mp noRefs
        rw [empty] at built ⊢
        cases built
        rfl
    · split at built
      · cases built
      · split at built
        · cases built
        · split at built
          · cases built
          · cases built
            exact linear_rows stored long 0

end

theorem length_concatResponseLogprobs (tito : config.proxy.tokenBuildMode = .tito)
    (kept : ColumnsKept config Call state) (member : step ∈ state.proxy.session.steps) :
    (recordedColumns state step).concatResponseLogprobs.length = step.concatTokenIds.length := by
  obtain ⟨past, later, split⟩ := append_of_mem member
  obtain ⟨_carried, columnsOf⟩ := kept.columnsOf split
  obtain ⟨draft, origin⟩ := kept.steps.origins past step later split
  have tokens := origin.concatTokenIds tito
  obtain ⟨refOf, _index, shape, _reads⟩ := origin.built
  have context : step.concatContextTokenCount =
      draft.prepared.payload.contextDeltaIds.length := by
    rw [shape, tito]
    rfl
  rw [columnsOf.concat, tito]
  unfold concatLogprobs normalizeEntries
  dsimp only
  rw [length_append, length_replicate, Fragments.fit_length, tokens, length_append, context]

structure LineagePublished (config : TrainingConfig) (session : Session Message Tool)
    (fieldsOf : StepId → Option StepFields) (segment : Segment Message Tool)
    (placement : Placement) (entry : TrainingRecord Message Tool) : Prop where
  record : buildTitoLineageSegmentRecord config.proxy session segment placement = .ok entry.record
  steps : entry.steps = segment.steps
  logprobs : buildConcatenatedEntries
    (entry.steps.filterMap (fun step =>
      (fieldsOf step.stepId).map StepFields.concatResponseLogprobs))
    (entry.steps.map (fun step => step.concatTokenIds.length)) entry.record.tokens.length =
      .ok entry.fullLogprobs
  experts : buildRoutedExpertsField config fieldsOf entry.steps entry.record.tokens.length =
    .ok entry.routedExperts

theorem publishLineage_iff :
    publishLineage config session fieldsOf segment placement = .ok entry ↔
      LineagePublished config session fieldsOf segment placement entry := by
  unfold publishLineage
  rw [Effect.except_bind_eq_ok]
  constructor
  · rintro ⟨record, built, rest⟩
    obtain ⟨logprobs, concatenated, rest⟩ := Effect.except_bind_eq_ok.mp rest
    obtain ⟨experts, field, made⟩ := Effect.except_bind_eq_ok.mp rest
    cases made
    exact
      { record := built
        steps := rfl
        logprobs := concatenated
        experts := field }
  · rintro ⟨built, steps, logprobs, experts⟩
    rw [steps] at logprobs experts
    refine ⟨entry.record, built, Effect.except_bind_eq_ok.mpr
      ⟨entry.fullLogprobs, logprobs, Effect.except_bind_eq_ok.mpr
        ⟨entry.routedExperts, experts, ?_⟩⟩⟩
    rw [← steps]

structure StepPublished (config : TrainingConfig) (session : Session Message Tool)
    (fieldsOf : StepId → Option StepFields) (segment : Segment Message Tool)
    (placement : Placement) (step : StepRecord Message Tool)
    (entry : TrainingRecord Message Tool) : Prop where
  record : buildStepSnapshotRecord config.proxy session segment placement = .ok entry.record
  steps : entry.steps = routedExpertsSteps config.proxy.tokenBuildMode session step
  logprobs : ∃ fields, fieldsOf step.stepId = some fields ∧
    buildSnapshotEntries fields.responseLogprobs
        (min step.promptTokenIds.length step.allTokenIds.length)
        (step.allTokenIds.length - min step.promptTokenIds.length step.allTokenIds.length)
        entry.record.tokens.length =
      .ok entry.fullLogprobs
  experts : buildRoutedExpertsField config fieldsOf entry.steps entry.record.tokens.length =
    .ok entry.routedExperts

theorem publishStep_iff (last : segment.steps.getLast? = some step) :
    publishStep config session fieldsOf segment placement = .ok entry ↔
      StepPublished config session fieldsOf segment placement step entry := by
  have named : ∀ fields, timelineFields fieldsOf step = .ok fields ↔
      fieldsOf step.stepId = some fields := by
    intro fields
    unfold timelineFields
    cases fieldsOf step.stepId with
    | none => simp
    | some found => simp
  unfold publishStep
  rw [last]
  dsimp only
  rw [Effect.except_bind_eq_ok]
  constructor
  · rintro ⟨record, built, rest⟩
    obtain ⟨fields, found, rest⟩ := Effect.except_bind_eq_ok.mp rest
    obtain ⟨logprobs, laid, rest⟩ := Effect.except_bind_eq_ok.mp rest
    obtain ⟨experts, field, made⟩ := Effect.except_bind_eq_ok.mp rest
    cases made
    exact
      { record := built
        steps := rfl
        logprobs := ⟨fields, (named fields).mp found, laid⟩
        experts := field }
  · rintro ⟨built, steps, ⟨fields, found, laid⟩, experts⟩
    rw [steps] at experts
    refine ⟨entry.record, built, Effect.except_bind_eq_ok.mpr
      ⟨fields, (named fields).mpr found, Effect.except_bind_eq_ok.mpr
        ⟨entry.fullLogprobs, laid, Effect.except_bind_eq_ok.mpr
          ⟨entry.routedExperts, experts, ?_⟩⟩⟩⟩
    rw [← steps]

theorem buildTitoLineageSegmentRecord_tokens {record : SegmentRecord Message Tool}
    (built : buildTitoLineageSegmentRecord proxy session segment placement = .ok record) :
    record.tokens = segment.steps.flatMap StepRecord.concatTokenIds := by
  unfold buildTitoLineageSegmentRecord at built
  split at built
  · cases built
  · dsimp only at built
    split at built
    · cases built
    · split at built
      · cases built
      · split at built
        · cases built
        · cases built
          rfl

theorem buildStepSnapshotRecord_tokens {record : SegmentRecord Message Tool}
    (last : segment.steps.getLast? = some step)
    (built : buildStepSnapshotRecord proxy session segment placement = .ok record) :
    record.tokens = step.allTokenIds := by
  unfold buildStepSnapshotRecord at built
  rw [last] at built
  dsimp only at built
  split at built
  · cases built
  · cases built
    rfl

theorem chained_segment (member : segment ∈ splitSessionIntoLineageSegments session) :
    Chained session segment.steps := by
  intro before step after here
  obtain ⟨past, later, split, _lineage, opened⟩ := segment_step_split member here
  exact ⟨past, later, split, opened⟩

theorem WellRecorded.routedExpertsSteps {state : ProxyState Message Tool}
    (recorded : WellRecorded proxy Call state) {past later : List (StepRecord Message Tool)}
    (split : state.session.steps = past ++ step :: later) :
    routedExpertsSteps .tito state.session step =
      Boundary.openSegment lineageBoundary
        (past.filter (fun other => other.lineageId = step.lineageId) ++ [step]) := by
  have lineage : state.session.lineageSteps step.lineageId =
      past.filter (fun other => other.lineageId = step.lineageId) ++
        step :: later.filter (fun other => other.lineageId = step.lineageId) := by
    unfold Session.lineageSteps
    rw [split, filter_append, filter_cons, if_pos (by simp)]
  have place : (state.session.lineageSteps step.lineageId).findIdx
      (fun other => decide (other.stepId = step.stepId)) =
        (past.filter (fun other => other.lineageId = step.lineageId)).length := by
    rw [lineage]
    exact findIdx_stepId (fun other member =>
      recorded.older split other (mem_filter.mp member).1)
  unfold Proxy.routedExpertsSteps
  dsimp only
  rw [place, lineage, take_length_add_append, Boundary.openSegment_eq_drop]
  rfl

theorem WellRecorded.chained_routedExpertsSteps {state : ProxyState Message Tool}
    (recorded : WellRecorded proxy Call state) {past later : List (StepRecord Message Tool)}
    (split : state.session.steps = past ++ step :: later) :
    Chained state.session (Proxy.routedExpertsSteps .tito state.session step) := by
  intro before earlier after here
  rw [recorded.routedExpertsSteps split] at here
  have cut : Boundary.openSegment lineageBoundary
      (past.filter (fun other => other.lineageId = step.lineageId) ++ [step]) ∈
        Boundary.segments lineageBoundary
          (past.filter (fun other => other.lineageId = step.lineageId) ++ [step]) :=
    Boundary.openSegment_mem_segments (append_ne_nil_of_right_ne_nil _ (cons_ne_nil step []))
  obtain ⟨early, late, splitHere, opened⟩ := Boundary.openSegment_of_mem_segments cut here
  have lineage : state.session.lineageSteps step.lineageId = early ++ earlier ::
      (late ++ later.filter (fun other => other.lineageId = step.lineageId)) := by
    unfold Session.lineageSteps
    rw [split, filter_append, filter_cons, if_pos (by simp), ← cons_append,
      ← append_assoc, ← splitHere, append_assoc]
    rfl
  obtain ⟨pastHere, laterHere, whole, _same, kept⟩ := lineageSteps_split lineage
  refine ⟨pastHere, laterHere, whole, ?_⟩
  rw [kept]
  exact opened

/-- A record's rows line up with its tokens. Each step of the record was made from a request that
starts with the record's tokens, so that a row of its payloads is the row of that position. -/
structure RowsLineUp (mode : TokenBuildMode) (state : TrainingState Message Tool)
    (entry : TrainingRecord Message Tool) : Prop where
  tokens : entry.record.tokens = entry.steps.flatMap (stepTokens mode)
  requests : ∀ before step after, entry.steps = before ++ step :: after →
    step.allTokenIds = (before ++ [step]).flatMap (stepTokens mode)
  count : (expertRows state.store entry.routedExperts).length = entry.record.tokens.length - 1
  rows : ∀ row < entry.record.tokens.length - 1,
    (expertRows state.store entry.routedExperts)[row]? =
      originRow mode (rawChunks state) 0 entry.steps row

theorem rowsLineUp_of_steps {mode : TokenBuildMode}
    (tokens : entry.record.tokens = entry.steps.flatMap (stepTokens mode))
    (requests : ∀ before step after, entry.steps = before ++ step :: after →
      step.allTokenIds = (before ++ [step]).flatMap (stepTokens mode))
    (behind : ∀ before step after, entry.steps = before ++ step :: after →
      RowsBehind mode state (before.flatMap (stepTokens mode)).length step)
    (rows : expertRows state.store entry.routedExperts = entry.steps.flatMap (columnRows state)) :
    RowsLineUp mode state entry := by
  have all : (expertRows state.store entry.routedExperts).map some =
      (List.range (entry.record.tokens.length - 1)).map
        (originRow mode (rawChunks state) 0 entry.steps) := by
    rw [rows, tokens, range_eq_range']
    have whole := flatMap_columnRows behind [] entry.steps rfl
    rw [flatMap_nil, length_nil, Nat.zero_add] at whole
    exact whole
  refine
    { tokens := tokens
      requests := requests
      count := ?_
      rows := ?_ }
  · have sizes := congrArg List.length all
    rw [length_map, length_map, length_range] at sizes
    exact sizes
  · intro row inside
    have here : ((expertRows state.store entry.routedExperts).map some)[row]? =
        ((List.range (entry.record.tokens.length - 1)).map
          (originRow mode (rawChunks state) 0 entry.steps))[row]? := by
      rw [all]
    rw [getElem?_map, getElem?_map, getElem?_range inside] at here
    cases found : (expertRows state.store entry.routedExperts)[row]? with
    | none =>
      rw [found] at here
      cases here
    | some cells =>
      rw [found] at here
      exact Option.some.inj here

theorem ColumnsKept.expertRows_field (kept : ColumnsKept config Call state)
    (recorded : ∀ step ∈ steps, step ∈ state.proxy.session.steps) {tokenCount : Nat}
    {field : Option (RecordField (List ExpertChunk))}
    (built : buildRoutedExpertsField config state.fields.get? steps tokenCount = .ok field) :
    expertRows state.store field = steps.flatMap (columnRows state) := by
  refine buildRoutedExpertsField_rows (fun step member => kept.storedAt (recorded step member))
    (fun step member => ?_) built
  obtain ⟨count, least⟩ := kept.length_columnRows (recorded step member)
  rw [count]
  exact least

theorem ColumnsKept.linesUp_chain (tito : config.proxy.tokenBuildMode = .tito)
    (kept : ColumnsKept config Call state) (payloads : PayloadsCarried state)
    (chained : Chained state.proxy.session entry.steps)
    (tokens : entry.record.tokens = entry.steps.flatMap StepRecord.concatTokenIds)
    (experts : buildRoutedExpertsField config state.fields.get? entry.steps
      entry.record.tokens.length = .ok entry.routedExperts) :
    RowsLineUp .tito state entry := by
  have recorded : ∀ step ∈ entry.steps, step ∈ state.proxy.session.steps := by
    intro step member
    obtain ⟨before, after, here⟩ := append_of_mem member
    obtain ⟨past, later, split, _opened⟩ := chained before step after here
    rw [split]
    exact mem_append_right past mem_cons_self
  exact rowsLineUp_of_steps tokens
    (fun before step after here => (kept.chained tito payloads chained here).2)
    (fun before step after here => (kept.chained tito payloads chained here).1)
    (kept.expertRows_field recorded experts)

theorem ColumnsKept.linesUp_snapshot (snapshot : config.proxy.tokenBuildMode = .snapshot)
    (kept : ColumnsKept config Call state) (payloads : PayloadsCarried state)
    (member : step ∈ state.proxy.session.steps) (alone : entry.steps = [step])
    (tokens : entry.record.tokens = step.allTokenIds)
    (experts : buildRoutedExpertsField config state.fields.get? entry.steps
      entry.record.tokens.length = .ok entry.routedExperts) :
    RowsLineUp .snapshot state entry := by
  have first : ∀ before other after, entry.steps = before ++ other :: after →
      before = [] ∧ other = step := by
    intro before other after here
    rw [alone] at here
    cases before with
    | nil => exact ⟨rfl, (List.cons.inj here).1.symm⟩
    | cons _ _ => simp at here
  refine rowsLineUp_of_steps ?_ (fun before other after here => ?_)
    (fun before other after here => ?_) (kept.expertRows_field (fun other inside => ?_) experts)
  · rw [alone, flatMap_singleton, tokens]
    rfl
  · obtain ⟨rfl, rfl⟩ := first before other after here
    rw [nil_append, flatMap_singleton]
    rfl
  · obtain ⟨rfl, rfl⟩ := first before other after here
    exact kept.alone snapshot payloads member
  · rw [alone, mem_singleton] at inside
    rw [inside]
    exact member

theorem mem_finalizeTraining {instanceId : Option String}
    {published : List (TrainingRecord Message Tool)}
    (finalized : finalizeTraining config session fieldsOf instanceId = .ok published)
    (member : entry ∈ published) :
    (config.proxy.tokenBuildMode = .tito ∧
        ∃ segment ∈ splitSessionIntoLineageSegments session, ∃ placement,
          LineagePublished config session fieldsOf segment placement entry) ∨
      ∃ step ∈ session.steps, ∃ segment placement, segment.steps = [step] ∧
        StepPublished config session fieldsOf segment placement step entry := by
  have ofTimeline : ∀ {records}, publishTimeline config session fieldsOf instanceId = .ok records →
      entry ∈ records → ∃ step ∈ session.steps, ∃ segment placement, segment.steps = [step] ∧
        StepPublished config session fieldsOf segment placement step entry := by
    intro records built inside
    obtain ⟨item, inItems, isBuilt⟩ := mem_buildAll built inside
    obtain ⟨step, inSteps, shape⟩ := mem_map.mp (fst_mem_of_mem_zipIdx inItems)
    have alone : item.1.steps = [step] := by rw [← shape]
    exact ⟨step, inSteps, item.1, _, alone, (publishStep_iff (by rw [alone]; rfl)).mp isBuilt⟩
  unfold finalizeTraining at finalized
  split at finalized
  · cases finalized
  · cases mode : config.proxy.tokenBuildMode with
    | snapshot =>
      rw [mode] at finalized
      exact .inr (ofTimeline finalized member)
    | tito =>
      rw [mode] at finalized
      obtain ⟨lineages, built, rest⟩ := Effect.except_bind_eq_ok.mp finalized
      obtain ⟨timeline, others, made⟩ := Effect.except_bind_eq_ok.mp rest
      cases made
      rcases mem_append.mp member with inLineages | inTimeline
      · obtain ⟨item, inItems, isBuilt⟩ := mem_buildAll built inLineages
        exact .inl ⟨rfl, item.1, fst_mem_of_mem_zipIdx inItems, _, publishLineage_iff.mp isBuilt⟩
      · exact .inr (ofTimeline others inTimeline)

/-- Every record a session run publishes has one row for each token but the last, each from the
first request that processed its position past the rows of the steps before. -/
theorem routed_expert_rows_line_up [BEq Message] (config : TrainingConfig)
    (format : ChatFormat Message Tool Call) (sessionId instanceId : String) (now : ℚ)
    (events : List (TrainingEvent Message Tool Call)) (publisher : Option String)
    {published : List (TrainingRecord Message Tool)}
    (payloads : PayloadsCarried (trainingRun config format sessionId instanceId now events))
    (finalized : finalizeTraining config
      (trainingRun config format sessionId instanceId now events).proxy.session
      (trainingRun config format sessionId instanceId now events).fields.get? publisher =
        .ok published)
    {entry : TrainingRecord Message Tool} (member : entry ∈ published) :
    RowsLineUp config.proxy.tokenBuildMode
      (trainingRun config format sessionId instanceId now events) entry := by
  have kept : ColumnsKept config Call (trainingRun config format sessionId instanceId now events) :=
    columnsKept_trainingRun format sessionId instanceId now events
  rcases mem_finalizeTraining finalized member with
    ⟨tito, segment, inSegments, placement, made⟩ | ⟨step, inSteps, segment, placement, alone, made⟩
  · rw [tito]
    refine kept.linesUp_chain tito payloads ?_ ?_ made.experts
    · rw [made.steps]
      exact chained_segment inSegments
    · rw [made.steps]
      exact buildTitoLineageSegmentRecord_tokens made.record
  · have tokens : entry.record.tokens = step.allTokenIds :=
      buildStepSnapshotRecord_tokens (by rw [alone]; rfl) made.record
    cases mode : config.proxy.tokenBuildMode with
    | snapshot =>
      refine kept.linesUp_snapshot mode payloads inSteps ?_ tokens made.experts
      rw [made.steps, mode]
      rfl
    | tito =>
      obtain ⟨past, later, split⟩ := append_of_mem inSteps
      have steps := made.steps
      rw [mode] at steps
      have chained : Chained
          (trainingRun config format sessionId instanceId now events).proxy.session
            entry.steps := by
        rw [steps]
        exact kept.steps.chained_routedExpertsSteps split
      refine kept.linesUp_chain mode payloads chained ?_ made.experts
      obtain ⟨draft, origin⟩ := kept.steps.origins past step later split
      rw [tokens, (origin.shape mode).allTokens, steps, kept.steps.routedExpertsSteps split]
      exact (origin.openSegment mode).symm

def offloading : TrainingConfig :=
  { proxy :=
      { PlainFormat.config with
        transferQueue := some
          { storeId := "store"
            logprobs := true } }
    routedExpertsDtype := .uint8
    transferRoutedExperts := true }

def numberedRows (first count : Nat) : List Int :=
  (List.range count).map (fun row => Int.ofNat (first + row))

def resumedThenAsked : List (TrainingEvent PlainFormat.PlainMessage String String) :=
  [{ chat :=
      { request := { PlainFormat.request [⟨"user", "hi"⟩] with maxTokens := some 8 }
        answers := PlainFormat.answers
          [.answered 0
            { PlainFormat.response "a" "v1" with
              finishReason := "abort"
              metaFinishReason := some "abort" } true,
           .answered 0 (PlainFormat.response "b#" "v1") false] "ab" [] }
     responseLogprobs := [.number 1, .unparsable]
     payloads := [some (numberedRows 0 19), some (numberedRows 100 21)]
     leftover := none },
   { chat := PlainFormat.asked [⟨"user", "hi"⟩, ⟨"assistant", "ab"⟩, ⟨"user", "ok"⟩] "k" "v1"
     responseLogprobs := [.number 2]
     payloads := [some (numberedRows 200 43)]
     leftover := none }]

theorem resumedThenAsked_rows_line_up :
    ∃ published, finalizeTraining offloading
        (trainingRun offloading PlainFormat.format "session" "instance" 0
          resumedThenAsked).proxy.session
        (trainingRun offloading PlainFormat.format "session" "instance" 0
          resumedThenAsked).fields.get? none = .ok published ∧
      published.map (fun entry => entry.record.tokens.length) = [44, 22, 44] ∧
      ∀ entry ∈ published, RowsLineUp .tito
        (trainingRun offloading PlainFormat.format "session" "instance" 0 resumedThenAsked)
        entry := by
  have carried : PayloadsCarried
      (trainingRun offloading PlainFormat.format "session" "instance" 0 resumedThenAsked) := by
    decide +kernel
  have sizes : (finalizeTraining offloading
      (trainingRun offloading PlainFormat.format "session" "instance" 0
        resumedThenAsked).proxy.session
      (trainingRun offloading PlainFormat.format "session" "instance" 0
        resumedThenAsked).fields.get? none).toOption.map
        (fun published => published.map (fun entry => entry.record.tokens.length)) =
      some [44, 22, 44] := by
    decide +kernel
  cases finalized : finalizeTraining offloading
    (trainingRun offloading PlainFormat.format "session" "instance" 0
      resumedThenAsked).proxy.session
    (trainingRun offloading PlainFormat.format "session" "instance" 0
      resumedThenAsked).fields.get? none with
  | error message =>
    rw [finalized] at sizes
    cases sizes
  | ok published =>
    rw [finalized] at sizes
    exact ⟨published, rfl, Option.some.inj sizes, fun entry member =>
      routed_expert_rows_line_up offloading PlainFormat.format "session" "instance" 0
        resumedThenAsked none carried finalized member⟩

end Dressage.Proxy

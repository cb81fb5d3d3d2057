/-
Segments of a finished session and the records finalize publishes.

The lineage view has one record per segment of a lineage, the timeline view one
per step. Builders check that their arrays line up and raise otherwise. Labels,
uids, timestamps and request metrics travel with a record and are left out, as
are routed experts.
-/

import Mathlib.Algebra.GroupWithZero.Nat
import Mathlib.Data.List.Sort
import Dressage.Proxy.ChatPipeline

namespace Dressage.Proxy

open Lib Transport

variable {Message Tool : Type}

structure Segment (Message Tool : Type) where
  steps : List (StepRecord Message Tool)
  segmentReason : String
  segmentReasons : List String
  turnIds : List String
  lineageId : LineageId
  lineageIndex : Nat
  branchFromStepId : Option StepId

def orderedTurnIds (steps : List (StepRecord Message Tool)) : List String :=
  steps.foldl (fun turnIds step =>
    if step.turnId ∈ turnIds then turnIds else turnIds ++ [step.turnId]) []

def initialReasons : List String := ["initial"]

def reasonsOrInitial (reasons : List String) : List String :=
  if reasons = [] then initialReasons else reasons

def flushSegment (lineage : Lineage) (current : List (StepRecord Message Tool))
    (reasons : List String) : List (Segment Message Tool) :=
  if current = [] then []
  else
    [{ steps := current
       segmentReason := reasons.headD "initial"
       segmentReasons := reasons
       turnIds := orderedTurnIds current
       lineageId := lineage.id
       lineageIndex := lineage.index
       branchFromStepId := lineage.branchFromStepId }]

def splitLineage (lineage : Lineage) :
    List (StepRecord Message Tool) → List String → List (StepRecord Message Tool) →
      List (Segment Message Tool)
  | current, reasons, [] => flushSegment lineage current reasons
  | current, reasons, step :: rest =>
    if step.lineageSegmentBoundaryBefore = true ∧ current ≠ [] then
      flushSegment lineage current reasons ++
        splitLineage lineage [step] (reasonsOrInitial step.lineageSegmentReasonsBefore) rest
    else splitLineage lineage (current ++ [step]) reasons rest

def sortedLineages (session : Session Message Tool) : List Lineage :=
  session.lineages.values.insertionSort (fun left right => left.index ≤ right.index)

def splitSessionIntoLineageSegments (session : Session Message Tool) :
    List (Segment Message Tool) :=
  (sortedLineages session).flatMap fun lineage =>
    splitLineage lineage [] initialReasons (session.lineageSteps lineage.id)

/-- `_split_session_into_timeline_segments`: the route keys are read off the step itself. -/
def splitSessionIntoTimelineSegments (session : Session Message Tool) :
    List (Segment Message Tool) :=
  session.steps.map fun step =>
    { steps := [step]
      segmentReason := step.segmentReasonBefore.getD "initial"
      segmentReasons := reasonsOrInitial step.segmentReasonsBefore
      turnIds := [step.turnId]
      lineageId := step.lineageId
      lineageIndex := step.lineageIndex
      branchFromStepId := step.routeBaseStepId }

inductive SegmentView
  | lineage
  | timeline
deriving DecidableEq, Repr

structure RecordInfo where
  alignmentMethod : String
  tokenBuildMode : TokenBuildMode
  segmentView : SegmentView
  contextTokenCount : Nat
  outputTokenCount : Nat
  turnIds : List String
  stepIds : List StepId
  lineageId : LineageId
  lineageIndex : Nat
  routeType : Option RouteType
  branchFromStepId : Option StepId
  historyRewritten : Bool
  segmentReason : String
  segmentReasons : List String
  logprobsInvalid : Bool
  incrementalTokenizationFailed : Bool
  maskNonlastVersionTokens : Bool
  toolCallHooks : List (List HookFailure)
deriving DecidableEq

structure SegmentRecord (Message Tool : Type) where
  trajectoryId : String
  turnId : String
  instanceId : String
  segmentIndex : Nat
  segmentCount : Nat
  messages : List Message
  tools : Option (List Tool)
  tokens : List Nat
  fullLogprobs : SegmentField
  fullLossMask : List Nat
  alignedResponseLength : Nat
  finishReason : String
  fullVersions : Option (List String)
  extraInfo : RecordInfo

/-- Where a record stands among the records of its view. -/
structure Placement where
  trajectoryId : String
  instanceId : String
  segmentIndex : Nat
  segmentCount : Nat

def titoMisaligned (tokens mask : Nat) : String :=
  s!"tito segment arrays are not aligned: tokens={tokens}, full_loss_mask={mask}"

def titoVersionsMisaligned (tokens mask versions : Nat) : String :=
  s!"tito segment arrays are not aligned: tokens={tokens}, full_loss_mask={mask}, " ++
    s!"full_versions={versions}"

def hookMetadata (steps : List (StepRecord Message Tool)) : List (List HookFailure) :=
  (steps.map StepRecord.toolCallHookMetadata).filter (fun failures => failures ≠ [])

def titoLineageInfo (config : ProxyConfig) (session : Session Message Tool)
    (segment : Segment Message Tool) : RecordInfo :=
  { alignmentMethod := "tito"
    tokenBuildMode := .tito
    segmentView := .lineage
    contextTokenCount := (segment.steps.map StepRecord.concatContextTokenCount).sum
    outputTokenCount := (segment.steps.map StepRecord.concatOutputTokenCount).sum
    turnIds := segment.turnIds
    stepIds := segment.steps.map StepRecord.stepId
    lineageId := segment.lineageId
    lineageIndex := segment.lineageIndex
    routeType := none
    branchFromStepId := segment.branchFromStepId
    historyRewritten := session.historyRewritten
    segmentReason := segment.segmentReason
    segmentReasons := segment.segmentReasons
    logprobsInvalid := segment.steps.any StepRecord.concatLogprobsInvalid
    incrementalTokenizationFailed :=
      segment.steps.any StepRecord.concatIncrementalTokenizationFailed
    maskNonlastVersionTokens := config.maskNonlastVersionTokens
    toolCallHooks := hookMetadata segment.steps }

/-- The record of a lineage segment: its steps' concat arrays, one after another. -/
def titoLineageRecord (config : ProxyConfig) (session : Session Message Tool)
    (segment : Segment Message Tool) (placement : Placement)
    (baseStep : StepRecord Message Tool) (logprobs : SegmentField) : SegmentRecord Message Tool :=
  let mask := segment.steps.flatMap StepRecord.concatResponseMask
  { trajectoryId := placement.trajectoryId
    turnId := segment.turnIds.getLast?.getD ""
    instanceId := placement.instanceId
    segmentIndex := placement.segmentIndex
    segmentCount := placement.segmentCount
    messages := baseStep.messagesSnapshot
    tools := baseStep.tools
    tokens := segment.steps.flatMap StepRecord.concatTokenIds
    fullLogprobs := logprobs
    fullLossMask := mask
    alignedResponseLength := mask.sum
    finishReason := baseStep.finishReason
    fullVersions :=
      if config.recordTokenVersions then some (segment.steps.flatMap StepRecord.concatVersions)
      else none
    extraInfo := titoLineageInfo config session segment }

def buildTitoLineageSegmentRecord (config : ProxyConfig) (session : Session Message Tool)
    (segment : Segment Message Tool) (placement : Placement) :
    Except String (SegmentRecord Message Tool) :=
  match segment.steps.getLast? with
  | none => .error "list index out of range"
  | some baseStep =>
    let tokens := segment.steps.flatMap StepRecord.concatTokenIds
    let mask := segment.steps.flatMap StepRecord.concatResponseMask
    let versions := segment.steps.flatMap StepRecord.concatVersions
    match buildConcatenatedLogprobs (segment.steps.map StepRecord.concatResponseLogprobs)
      (segment.steps.map (fun step => step.concatTokenIds.length)) tokens.length with
    | .error message => .error message
    | .ok logprobs =>
      if tokens.length ≠ mask.length then .error (titoMisaligned tokens.length mask.length)
      else if config.recordTokenVersions = true ∧ versions.length ≠ tokens.length then
        .error (titoVersionsMisaligned tokens.length mask.length versions.length)
      else .ok (titoLineageRecord config session segment placement baseStep logprobs)

def stepResponseVersion (step : StepRecord Message Tool) : String :=
  let truthy : Option String → Option String := fun value =>
    value.filter (fun text => text ≠ "")
  ((truthy step.responseVersion).orElse fun _ =>
    (truthy step.responseVersions.getLast?).orElse fun _ =>
      truthy step.requestVersion).getD "unknown"

def stepSnapshotInfo (config : ProxyConfig) (session : Session Message Tool)
    (segment : Segment Message Tool) (step : StepRecord Message Tool) (promptLen responseLen : Nat)
    (invalid : Bool) : RecordInfo :=
  { alignmentMethod := "snapshot_step"
    tokenBuildMode := config.tokenBuildMode
    segmentView := .timeline
    contextTokenCount := promptLen
    outputTokenCount := responseLen
    turnIds := segment.turnIds
    stepIds := [step.stepId]
    lineageId := step.lineageId
    lineageIndex := step.lineageIndex
    routeType := some step.routeType
    branchFromStepId := step.routeBaseStepId
    historyRewritten := session.historyRewritten
    segmentReason := segment.segmentReason
    segmentReasons := segment.segmentReasons
    logprobsInvalid := invalid
    incrementalTokenizationFailed := false
    maskNonlastVersionTokens := config.maskNonlastVersionTokens
    toolCallHooks := hookMetadata [step] }

/-- The record of one step: its prompt masked out, its response under one version. -/
def stepSnapshotRecord (config : ProxyConfig) (session : Session Message Tool)
    (segment : Segment Message Tool) (placement : Placement) (step : StepRecord Message Tool)
    (logprobs : SegmentField) (invalid : Bool) : SegmentRecord Message Tool :=
  let promptLen := min step.promptTokenIds.length step.allTokenIds.length
  let responseLen := step.allTokenIds.length - promptLen
  let mask := List.replicate promptLen 0 ++ List.replicate responseLen 1
  { trajectoryId := placement.trajectoryId
    turnId := step.turnId
    instanceId := placement.instanceId
    segmentIndex := placement.segmentIndex
    segmentCount := placement.segmentCount
    messages := step.messagesSnapshot
    tools := step.tools
    tokens := step.allTokenIds
    fullLogprobs := logprobs
    fullLossMask := mask
    alignedResponseLength := mask.sum
    finishReason := step.finishReason
    fullVersions :=
      if config.recordTokenVersions then
        some (List.replicate promptLen inputTokenVersion ++
          List.replicate responseLen (stepResponseVersion step))
      else none
    extraInfo := stepSnapshotInfo config session segment step promptLen responseLen invalid }

def buildStepSnapshotRecord (config : ProxyConfig) (session : Session Message Tool)
    (segment : Segment Message Tool) (placement : Placement) :
    Except String (SegmentRecord Message Tool) :=
  match segment.steps.getLast? with
  | none => .error "list index out of range"
  | some step =>
    let promptLen := min step.promptTokenIds.length step.allTokenIds.length
    let responseLen := step.allTokenIds.length - promptLen
    match buildSnapshotLogprobs step.responseLogprobs promptLen responseLen
      step.allTokenIds.length step.allLogprobsInvalid with
    | .error message => .error message
    | .ok (logprobs, invalid) =>
      .ok (stepSnapshotRecord config session segment placement step logprobs invalid)

def buildAll {α β : Type} (build : α → Except String β) : List α → Except String (List β)
  | [] => .ok []
  | item :: rest =>
    match build item with
    | .error message => .error message
    | .ok record =>
      match buildAll build rest with
      | .error message => .error message
      | .ok records => .ok (record :: records)

theorem buildAll_iff {α β : Type} {build : α → Except String β} {items : List α}
    {records : List β} :
    buildAll build items = .ok records ↔
      List.Forall₂ (fun item record => build item = .ok record) items records := by
  induction items generalizing records with
  | nil =>
    rw [List.forall₂_nil_left_iff]
    constructor
    · intro built
      cases built
      rfl
    · intro empty
      rw [empty]
      rfl
  | cons item rest ih =>
    rw [buildAll]
    constructor
    · intro built
      split at built
      · cases built
      · next first isFirst =>
          split at built
          · cases built
          · next others areOthers =>
              cases built
              exact List.Forall₂.cons isFirst (ih.mp areOthers)
    · intro each
      cases each with
      | cons isFirst others =>
        rw [isFirst]
        dsimp only
        rw [ih.mpr others]

theorem mem_buildAll {α β : Type} {build : α → Except String β} {items : List α}
    {records : List β} (built : buildAll build items = .ok records) {record : β}
    (member : record ∈ records) : ∃ item ∈ items, build item = .ok record := by
  obtain ⟨sizes, each⟩ := List.forall₂_iff_get.mp (buildAll_iff.mp built)
  obtain ⟨⟨index, inside⟩, rfl⟩ := List.mem_iff_get.mp member
  exact ⟨_, List.get_mem items ⟨index, by omega⟩, each index (by omega) inside⟩

def placementOf (session : Session Message Tool) (instanceId : Option String)
    (segmentIndex segmentCount : Nat) : Placement :=
  { trajectoryId := session.sessionId
    instanceId :=
      match instanceId with
      | none => session.instanceId
      | some text => if text = "" then session.instanceId else text
    segmentIndex := segmentIndex
    segmentCount := segmentCount }

def lineageRecords (config : ProxyConfig) (session : Session Message Tool)
    (instanceId : Option String) : Except String (List (SegmentRecord Message Tool)) :=
  let segments := splitSessionIntoLineageSegments session
  buildAll (fun entry => buildTitoLineageSegmentRecord config session entry.1
    (placementOf session instanceId entry.2 segments.length)) segments.zipIdx

def timelineRecords (config : ProxyConfig) (session : Session Message Tool)
    (instanceId : Option String) : Except String (List (SegmentRecord Message Tool)) :=
  let segments := splitSessionIntoTimelineSegments session
  buildAll (fun entry => buildStepSnapshotRecord config session entry.1
    (placementOf session instanceId entry.2 segments.length)) segments.zipIdx

def finalizeSession (config : ProxyConfig) (session : Session Message Tool)
    (instanceId : Option String) : Except String (List (SegmentRecord Message Tool)) :=
  if session.steps = [] then .error "Session has no turns"
  else
    match config.tokenBuildMode with
    | .snapshot => timelineRecords config session instanceId
    | .tito =>
      match lineageRecords config session instanceId with
      | .error message => .error message
      | .ok lineages =>
        match timelineRecords config session instanceId with
        | .error message => .error message
        | .ok timeline => .ok (lineages ++ timeline)

def ofView (view : SegmentView) (records : List (SegmentRecord Message Tool)) :
    List (SegmentRecord Message Tool) :=
  records.filter (fun record => record.extraInfo.segmentView = view)

end Dressage.Proxy

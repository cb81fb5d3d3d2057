/-
The columns of a recorded step that training reads.

A step is recorded with the log-probabilities of its response, as the engine gave them, and with
its routed-expert rows. Each column stays with the step or is stored in TransferQueue under the
step's key. Cutting the rows may raise, and then the request fails before its step is recorded.

What each step was recorded with is also kept in a journal of the model, which the proxy does
not have.
-/

import Dressage.Lib.Runs
import Dressage.Proxy.RoutedExperts

namespace Dressage.Proxy

open Lib Transport Generation

variable {Message Tool Call : Type}

inductive LogprobEntry
  | number (value : Logprob)
  | unparsable
deriving DecidableEq

def LogprobEntry.toFloat : LogprobEntry → Logprob
  | .number value => value
  | .unparsable => 0

def normalizeEntries (entries : List LogprobEntry) (tokenCount : Nat) : List Logprob :=
  Fragments.fit 0 tokenCount (entries.map LogprobEntry.toFloat)

structure StepColumns where
  responseLogprobs : List LogprobEntry
  concatResponseLogprobs : List Logprob
  routedExperts : List ExpertChunk
deriving DecidableEq

inductive TrainingColumn
  | responseLogprobs
  | concatResponseLogprobs
  | routedExperts
deriving DecidableEq

/-- `TQFieldRef` within one session: its key is the place of the step. -/
structure ColumnRef where
  key : Nat
  field : TrainingColumn
deriving DecidableEq

inductive Kept (α : Type)
  | resident (value : α)
  | remote (ref : ColumnRef)
deriving DecidableEq

structure StepFields where
  responseLogprobs : Kept (List LogprobEntry)
  concatResponseLogprobs : Kept (List Logprob)
  routedExperts : Kept (List ExpertChunk)
deriving DecidableEq

def StepColumns.resident (columns : StepColumns) : StepFields :=
  { responseLogprobs := .resident columns.responseLogprobs
    concatResponseLogprobs := .resident columns.concatResponseLogprobs
    routedExperts := .resident columns.routedExperts }

structure TrainingConfig where
  proxy : ProxyConfig
  routedExpertsDtype : ExpertDtype
  transferRoutedExperts : Bool
deriving DecidableEq

def TrainingConfig.offloadsLogprobs (config : TrainingConfig) : Bool :=
  match config.proxy.transferQueue with
  | none => false
  | some queue => queue.logprobs

def TrainingConfig.offloadsRoutedExperts (config : TrainingConfig) : Bool :=
  config.proxy.transferQueue.isSome && config.transferRoutedExperts

structure TrainingEvent (Message Tool Call : Type) where
  chat : ChatEvent Message Tool Call
  responseLogprobs : List LogprobEntry
  payloads : List (Option (List Int))
  leftover : Option StepColumns

structure TrainingState (Message Tool : Type) where
  proxy : ProxyState Message Tool
  fields : OrderedDict StepId StepFields
  store : OrderedDict Nat StepColumns
  recorded : OrderedDict StepId StepColumns
  payloads : OrderedDict StepId (List (Option (List Int)))

def TrainingState.initial (sessionId instanceId : String) (now : ℚ) : TrainingState Message Tool :=
  { proxy := ProxyState.initial sessionId instanceId now
    fields := OrderedDict.empty
    store := OrderedDict.empty
    recorded := OrderedDict.empty
    payloads := OrderedDict.empty }

def keptIf {α : Type} (offloaded : Bool) (key : Nat) (field : TrainingColumn) (value : α) :
    Kept α :=
  if offloaded then
    .remote
      { key := key
        field := field }
  else .resident value

/-- The columns as they stand in the step: those that are selected are stored under its key. -/
def TrainingConfig.fieldsOf (config : TrainingConfig) (key : Nat) (columns : StepColumns) :
    StepFields :=
  { responseLogprobs :=
      keptIf config.offloadsLogprobs key .responseLogprobs columns.responseLogprobs
    concatResponseLogprobs :=
      keptIf (config.offloadsLogprobs && decide (config.proxy.tokenBuildMode = .tito)) key
        .concatResponseLogprobs columns.concatResponseLogprobs
    routedExperts :=
      keptIf config.offloadsRoutedExperts key .routedExperts columns.routedExperts }

def concatLogprobs (mode : TokenBuildMode) (step : StepRecord Message Tool)
    (entries : List LogprobEntry) : List Logprob :=
  match mode with
  | .snapshot => []
  | .tito => List.replicate step.concatContextTokenCount 0 ++
    normalizeEntries entries step.responseTokenIds.length

def addedStep (before after : ProxyState Message Tool) : Option (StepRecord Message Tool) :=
  if after.session.steps.length = before.session.steps.length then none
  else after.session.steps.getLast?

def generationOf (state : ProxyState Message Tool) (step : StepRecord Message Tool) :
    List GenerationChunk :=
  (state.journal.generations.get? step.stepId).getD []

def cutRoutedExperts (config : TrainingConfig) (before after : ProxyState Message Tool)
    (step : StepRecord Message Tool) (payloads : List (Option (List Int))) :
    Except String (List ExpertChunk) :=
  let target := routedExpertsTarget config.proxy.tokenBuildMode before.session step
  canonicalizeRoutedExperts
    (routedExpertsChunks step.promptTokenIds.length 0 (generationOf after step) payloads)
    target.1 target.2 config.routedExpertsDtype

def recordColumns (config : TrainingConfig) (state : TrainingState Message Tool)
    (after : ProxyState Message Tool) (step : StepRecord Message Tool)
    (event : TrainingEvent Message Tool Call) (experts : List ExpertChunk) :
    TrainingState Message Tool :=
  let columns : StepColumns :=
    { responseLogprobs := event.responseLogprobs
      concatResponseLogprobs :=
        concatLogprobs config.proxy.tokenBuildMode step event.responseLogprobs
      routedExperts := experts }
  let key := state.proxy.session.steps.length
  { proxy := after
    fields := state.fields.set step.stepId (config.fieldsOf key columns)
    store := state.store.set key columns
    recorded := state.recorded.set step.stepId columns
    payloads := state.payloads.set step.stepId event.payloads }

/-- A request that recorded nothing may have left columns behind. -/
def keepLeftover (state : TrainingState Message Tool) (after : ProxyState Message Tool)
    (event : TrainingEvent Message Tool Call) : TrainingState Message Tool :=
  { state with
    proxy := after
    store :=
      match event.leftover with
      | none => state.store
      | some columns => state.store.set state.proxy.session.steps.length columns }

def TrainingEvent.withRows (event : TrainingEvent Message Tool Call)
    (outcome : Except String Unit) : ChatEvent Message Tool Call :=
  { event.chat with answers := { event.chat.answers with routedExperts := outcome } }

def serveTraining [BEq Message] (config : TrainingConfig) (format : ChatFormat Message Tool Call)
    (state : TrainingState Message Tool) (event : TrainingEvent Message Tool Call) :
    TrainingState Message Tool :=
  let after := serve config.proxy format state.proxy (event.withRows (.ok ()))
  match addedStep state.proxy after with
  | none => keepLeftover state after event
  | some step =>
    match cutRoutedExperts config state.proxy after step event.payloads with
    | .ok experts => recordColumns config state after step event experts
    -- The rows are cut before the step is recorded, so the request ends here.
    | .error message =>
      keepLeftover state
        (serve config.proxy format state.proxy (event.withRows (.error message))) event

def trainingRun [BEq Message] (config : TrainingConfig) (format : ChatFormat Message Tool Call)
    (sessionId instanceId : String) (now : ℚ) (events : List (TrainingEvent Message Tool Call)) :
    TrainingState Message Tool :=
  Runs.run (serveTraining config format) (TrainingState.initial sessionId instanceId now) events

structure Layout where
  logicalField : String
  codec : String
  fragments : List (Fragments.Fragment ColumnRef)
  tokenCount : Nat
  shape : List Nat
deriving DecidableEq

inductive RecordField (α : Type)
  | values (values : α)
  | layout (plan : Layout)
deriving DecidableEq

def Kept.ref? {α : Type} : Kept α → Option ColumnRef
  | .resident _ => none
  | .remote ref => some ref

def Kept.value? {α : Type} : Kept α → Option α
  | .resident value => some value
  | .remote _ => none

def tqRoutedExpertsCodec : String := "routed_experts_chunks"

def expertsLayout (refs : List ColumnRef) (lengths : List Nat) (tokenCount : Nat) : Layout :=
  { logicalField := "routed_experts"
    codec := tqRoutedExpertsCodec
    fragments := Fragments.linear 0 (refs.zip lengths)
    tokenCount := tokenCount
    shape := [tokenCount - 1] }

def buildConcatenatedRoutedExperts (values : List (Kept (List ExpertChunk))) (lengths : List Nat)
    (tokenCount : Nat) : Except String (Option (RecordField (List ExpertChunk))) :=
  let refs := values.filterMap Kept.ref?
  if refs = [] then
    let chunks := (values.filterMap Kept.value?).flatten
    .ok (if chunks = [] then none else some (.values chunks))
  else if refs.length ≠ values.length then
    .error "routed experts cannot mix local values and TransferQueue refs"
  else if lengths.sum ≠ tokenCount - 1 then
    .error ("routed experts layout is not aligned with trajectory tokens: " ++
      s!"rows={lengths.sum}, expected={tokenCount - 1}")
  else if refs.length ≠ lengths.length then .error "zip() arguments have different lengths"
  else .ok (some (.layout (expertsLayout refs lengths tokenCount)))

def buildRoutedExpertsField (config : TrainingConfig) (fieldsOf : StepId → Option StepFields)
    (steps : List (StepRecord Message Tool)) (tokenCount : Nat) :
    Except String (Option (RecordField (List ExpertChunk))) :=
  buildConcatenatedRoutedExperts
    (steps.filterMap (fun step => (fieldsOf step.stepId).map StepFields.routedExperts))
    (steps.map (stepRoutedExpertsRowCount config.proxy.tokenBuildMode)) tokenCount

/-- The steps whose rows the record of one step carries: in tito mode its lineage from the last
boundary on. -/
def routedExpertsSteps (mode : TokenBuildMode) (session : Session Message Tool)
    (step : StepRecord Message Tool) : List (StepRecord Message Tool) :=
  match mode with
  | .snapshot => [step]
  | .tito =>
    let lineageSteps := session.lineageSteps step.lineageId
    let targetIndex := lineageSteps.findIdx (fun item => item.stepId = step.stepId)
    let upTo := lineageSteps.take (targetIndex + 1)
    upTo.drop (Boundary.lastBoundary lineageBoundary 0 0 upTo)

def logprobsLayout (refs : List ColumnRef) (lengths : List Nat) (targetStart tokenCount : Nat) :
    Layout :=
  { logicalField := "full_logprobs"
    codec := tqLogprobsCodec
    fragments := Fragments.linear targetStart (refs.zip lengths)
    tokenCount := tokenCount
    shape := [tokenCount] }

def buildSnapshotEntries (value : Kept (List LogprobEntry))
    (promptLength responseLength tokenCount : Nat) : Except String (RecordField (List Logprob)) :=
  if promptLength + responseLength ≠ tokenCount then
    .error "snapshot logprobs are not aligned with trajectory tokens"
  else
    match value with
    | .remote ref => .ok (.layout (logprobsLayout [ref] [responseLength] promptLength tokenCount))
    | .resident entries =>
      .ok (.values (List.replicate promptLength 0 ++ normalizeEntries entries responseLength))

def buildConcatenatedEntries (values : List (Kept (List Logprob))) (lengths : List Nat)
    (tokenCount : Nat) : Except String (RecordField (List Logprob)) :=
  if lengths.sum ≠ tokenCount then
    .error "TITO logprobs are not aligned with trajectory tokens"
  else
    let refs := values.filterMap Kept.ref?
    if refs = [] then
      let result := (values.filterMap Kept.value?).flatten
      if result.length ≠ tokenCount then
        .error "TITO logprobs are not aligned with trajectory tokens"
      else .ok (.values result)
    else if refs.length ≠ values.length then
      .error "TITO logprobs cannot mix local values and TransferQueue refs"
    else if refs.length ≠ lengths.length then .error "zip() arguments have different lengths"
    else .ok (.layout (logprobsLayout refs lengths 0 tokenCount))

section Layouts

variable (place : ColumnRef → TQFieldRef)

def Kept.fieldValue : Kept (List Logprob) → FieldValue
  | .resident column => .resident column
  | .remote ref => .remote (place ref)

def Kept.floats : Kept (List LogprobEntry) → Kept (List Logprob)
  | .resident entries => .resident (entries.map LogprobEntry.toFloat)
  | .remote ref => .remote ref

def fieldFragment (fragment : Fragments.Fragment ColumnRef) : TQFieldFragment :=
  { ref := place fragment.ref
    sourceStart := fragment.sourceStart
    targetStart := fragment.targetStart
    length := fragment.length }

def RecordField.segmentField : RecordField (List Logprob) → SegmentField
  | .values column => .resident column
  | .layout plan =>
    .layout
      { logicalField := plan.logicalField
        codec := plan.codec
        fragments := plan.fragments.map (fieldFragment place)
        tokenCount := plan.tokenCount
        shape := some plan.shape }

theorem linear_fieldFragment (offset : Nat) (refs : List ColumnRef) (lengths : List Nat) :
    (Fragments.linear offset (refs.zip lengths)).map (fieldFragment place) =
      linearFragments offset ((refs.map place).zip lengths) := by
  induction refs generalizing offset lengths with
  | nil => rfl
  | cons ref rest ih =>
    cases lengths with
    | nil => rfl
    | cons length lengths => exact congrArg (_ :: ·) (ih (offset + length) lengths)

/-- With the refs placed in a store, the fields of a record are those of its segment. -/
theorem buildConcatenatedEntries_segmentField (values : List (Kept (List Logprob)))
    (lengths : List Nat) (tokenCount : Nat) :
    (buildConcatenatedEntries values lengths tokenCount).map (RecordField.segmentField place) =
      buildConcatenatedLogprobs (values.map (Kept.fieldValue place)) lengths tokenCount := by
  have refs : (values.map (Kept.fieldValue place)).filterMap FieldValue.ref? =
      (values.filterMap Kept.ref?).map place := by
    rw [List.filterMap_map, List.map_filterMap]
    exact List.filterMap_congr (fun value _ => by cases value <;> rfl)
  have residents : (values.map (Kept.fieldValue place)).filterMap FieldValue.resident? =
      values.filterMap Kept.value? := by
    rw [List.filterMap_map]
    exact List.filterMap_congr (fun value _ => by cases value <;> rfl)
  unfold buildConcatenatedEntries buildConcatenatedLogprobs buildLinearLayout
  rw [refs, residents]
  simp only [List.map_eq_nil_iff, List.length_map]
  split
  · rfl
  · split
    · split <;> rfl
    · split
      · rfl
      · split
        · rfl
        next same =>
          rw [if_pos (not_not.mp same), ← linear_fieldFragment]
          rfl

theorem buildSnapshotEntries_segmentField (value : Kept (List LogprobEntry))
    (promptLength responseLength tokenCount : Nat) (remoteInvalid : Bool) :
    (buildSnapshotEntries value promptLength responseLength tokenCount).map
        (RecordField.segmentField place) =
      (buildSnapshotLogprobs (value.floats.fieldValue place) promptLength responseLength
        tokenCount remoteInvalid).map Prod.fst := by
  unfold buildSnapshotEntries buildSnapshotLogprobs
  split
  · rfl
  · cases value <;> rfl

end Layouts

/-- A published record with its training columns and the steps its rows come from. -/
structure TrainingRecord (Message Tool : Type) where
  record : SegmentRecord Message Tool
  steps : List (StepRecord Message Tool)
  fullLogprobs : RecordField (List Logprob)
  routedExperts : Option (RecordField (List ExpertChunk))

def publishLineage (config : TrainingConfig) (session : Session Message Tool)
    (fieldsOf : StepId → Option StepFields) (segment : Segment Message Tool)
    (placement : Placement) : Except String (TrainingRecord Message Tool) := do
  let record ← buildTitoLineageSegmentRecord config.proxy session segment placement
  let logprobs ← buildConcatenatedEntries
    (segment.steps.filterMap (fun step =>
      (fieldsOf step.stepId).map StepFields.concatResponseLogprobs))
    (segment.steps.map (fun step => step.concatTokenIds.length)) record.tokens.length
  let experts ← buildRoutedExpertsField config fieldsOf segment.steps record.tokens.length
  .ok
    { record := record
      steps := segment.steps
      fullLogprobs := logprobs
      routedExperts := experts }

def timelineFields (fieldsOf : StepId → Option StepFields) (step : StepRecord Message Tool) :
    Except String StepFields :=
  match fieldsOf step.stepId with
  | none => .error "step has no columns"
  | some fields => .ok fields

def publishStep (config : TrainingConfig) (session : Session Message Tool)
    (fieldsOf : StepId → Option StepFields) (segment : Segment Message Tool)
    (placement : Placement) : Except String (TrainingRecord Message Tool) :=
  match segment.steps.getLast? with
  | none => .error "list index out of range"
  | some step => do
    let record ← buildStepSnapshotRecord config.proxy session segment placement
    let promptLen := min step.promptTokenIds.length step.allTokenIds.length
    let fields ← timelineFields fieldsOf step
    let logprobs ← buildSnapshotEntries fields.responseLogprobs promptLen
      (step.allTokenIds.length - promptLen) record.tokens.length
    let steps := routedExpertsSteps config.proxy.tokenBuildMode session step
    let experts ← buildRoutedExpertsField config fieldsOf steps record.tokens.length
    .ok
      { record := record
        steps := steps
        fullLogprobs := logprobs
        routedExperts := experts }

def publishLineages (config : TrainingConfig) (session : Session Message Tool)
    (fieldsOf : StepId → Option StepFields) (instanceId : Option String) :
    Except String (List (TrainingRecord Message Tool)) :=
  let segments := splitSessionIntoLineageSegments session
  buildAll (fun entry => publishLineage config session fieldsOf entry.1
    (placementOf session instanceId entry.2 segments.length)) segments.zipIdx

def publishTimeline (config : TrainingConfig) (session : Session Message Tool)
    (fieldsOf : StepId → Option StepFields) (instanceId : Option String) :
    Except String (List (TrainingRecord Message Tool)) :=
  let segments := splitSessionIntoTimelineSegments session
  buildAll (fun entry => publishStep config session fieldsOf entry.1
    (placementOf session instanceId entry.2 segments.length)) segments.zipIdx

def finalizeTraining (config : TrainingConfig) (session : Session Message Tool)
    (fieldsOf : StepId → Option StepFields) (instanceId : Option String) :
    Except String (List (TrainingRecord Message Tool)) :=
  if session.steps = [] then .error "Session has no turns"
  else
    match config.proxy.tokenBuildMode with
    | .snapshot => publishTimeline config session fieldsOf instanceId
    | .tito => do
      let lineages ← publishLineages config session fieldsOf instanceId
      let timeline ← publishTimeline config session fieldsOf instanceId
      .ok (lineages ++ timeline)

end Dressage.Proxy

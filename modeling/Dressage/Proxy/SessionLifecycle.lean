/-
Sessions over their life: admission, recording, discard, finalize and expiry.

The proxy runs on one event loop, so an action here is what one request does
from one await to the next. `Session` objects live in a heap and are named by
their position; the manager's dictionaries map a session id to an object. A
request keeps the object it was given at admission, while `record_step` and
`mark_history_rewritten` look the session up by its id again.

A waiting request may take a free `request_lock` in any order, which includes
the order asyncio wakes its waiters in. Checks of the pipeline that only refuse
a request (rollout epoch, budget, versions, hooks, the engine itself) are the
environment's: `abandon` ends a request wherever it waits. Requests without a
session id get a session of their own and are left out.

The four logs are bookkeeping of the model; the proxy keeps none of them.
-/

import Dressage.Proxy.Segments
import Dressage.Proxy.TrajectoryStore

namespace Dressage.Proxy.Lifecycle

open Lib Transport Generation
open TrajectoryStore (Store SegmentDict Uuids)

abbrev ObjectRef := Nat

abbrev TaskId := Nat

structure SessionObject (Message Tool : Type) where
  session : Session Message Tool
  lastActive : ℚ
  requestLock : Option TaskId

structure FinalizationResult where
  sessionId : String
  trajectoryId : String
  instanceId : String
  finalizationId : String
  numSteps : Nat
  numTurns : Nat
  numSegments : Nat
  numTimelineSegments : Nat
  historyRewritten : Bool
  tokenBuildMode : TokenBuildMode
  tokenBuildModel : TitoModel
  recordTokenVersions : Bool
  maskNonlastVersionTokens : Bool
deriving DecidableEq

inductive Reply
  | refused (status : Nat) (detail : String)
  | cancelled
  | completed
  | finalized (result : FinalizationResult)
  | discarded (sessionRemoved : Bool)
deriving DecidableEq

inductive ChatPhase (Message Tool : Type)
  | queued
  | admitted (admission : Admission Message Tool)
  | generating (admission : Admission Message Tool) (routed : Routed Message Tool)
  | storing (step : StepRecord Message Tool) (cache : SnapshotCache)

inductive Task (Message Tool : Type)
  | chat (ref : ObjectRef) (request : ChatRequest Message Tool) (phase : ChatPhase Message Tool)
  | finalize (ref : ObjectRef) (sessionId : String) (instanceId : Option String)
    (published : Option FinalizationResult)
  | discard (ref : ObjectRef) (sessionId : String) (removed : Option Bool)

variable {Message Tool Call : Type}

namespace Task

def ref : Task Message Tool → ObjectRef
  | .chat ref _ _ => ref
  | .finalize ref _ _ _ => ref
  | .discard ref _ _ => ref

def holds : Task Message Tool → Bool
  | .chat _ _ .queued => false
  | .chat _ _ _ => true
  | .finalize _ _ _ published => published.isSome
  | .discard _ _ removed => removed.isSome

def generates : Task Message Tool → Bool
  | .chat _ _ .queued => false
  | .chat _ _ _ => true
  | _ => false

end Task

/-- A step appended by `record_step`: which request produced it, and where it went. -/
structure Recording where
  task : TaskId
  object : ObjectRef
  stepId : StepId
deriving DecidableEq

structure FinalizeUuids where
  finalizationId : String
  uids : List String

structure Publication (Message Tool : Type) where
  object : ObjectRef
  steps : List (StepRecord Message Tool)
  records : List (SegmentRecord Message Tool)
  uuids : FinalizeUuids
  publishedAt : ℚ
  result : FinalizationResult

structure Success where
  task : TaskId
  sessionId : String
  result : FinalizationResult
deriving DecidableEq

structure State (Message Tool : Type) where
  now : ℚ
  nextTask : TaskId
  objects : List (SessionObject Message Tool)
  tasks : OrderedDict TaskId (Task Message Tool)
  active : OrderedDict String ObjectRef
  finalizedSessionIds : OrderedDict String ℚ
  finalizationResults : OrderedDict String FinalizationResult
  store : Store
  replies : List (TaskId × Reply)
  admissions : List (TaskId × ObjectRef)
  recordings : List Recording
  publications : List (Publication Message Tool)
  successes : List Success

structure Server (Message Tool Call : Type) where
  config : ProxyConfig
  format : ChatFormat Message Tool Call
  sessionTimeout : ℚ

def State.initial (now : ℚ) (store : Store) : State Message Tool :=
  { now := now
    nextTask := 0
    objects := []
    tasks := OrderedDict.empty
    active := OrderedDict.empty
    finalizedSessionIds := OrderedDict.empty
    finalizationResults := OrderedDict.empty
    store := store
    replies := []
    admissions := []
    recordings := []
    publications := []
    successes := [] }

namespace State

def modifyObject (state : State Message Tool) (ref : ObjectRef)
    (change : SessionObject Message Tool → SessionObject Message Tool) : State Message Tool :=
  { state with objects := state.objects.modify ref change }

def setSession (state : State Message Tool) (ref : ObjectRef) (session : Session Message Tool) :
    State Message Tool :=
  state.modifyObject ref (fun object => { object with session := session })

def touch (state : State Message Tool) (ref : ObjectRef) : State Message Tool :=
  state.modifyObject ref (fun object => { object with lastActive := state.now })

def lock (state : State Message Tool) (ref : ObjectRef) (task : TaskId) : State Message Tool :=
  state.modifyObject ref (fun object => { object with requestLock := some task })

def setTask (state : State Message Tool) (id : TaskId) (task : Task Message Tool) :
    State Message Tool :=
  { state with tasks := state.tasks.set id task }

def reply (state : State Message Tool) (id : TaskId) (answer : Reply) : State Message Tool :=
  { state with replies := state.replies ++ [(id, answer)] }

def arrive (state : State Message Tool) : State Message Tool :=
  { state with nextTask := state.nextTask + 1 }

def leave (state : State Message Tool) (id : TaskId) (ref : ObjectRef) (answer : Reply) :
    State Message Tool :=
  ({ state.modifyObject ref (fun object => { object with requestLock := none }) with
    tasks := state.tasks.pop id }).reply id answer

def drop (state : State Message Tool) (id : TaskId) (answer : Reply) : State Message Tool :=
  ({ state with tasks := state.tasks.pop id }).reply id answer

def idle (server : Server Message Tool Call) (now : ℚ) (object : SessionObject Message Tool) :
    Bool :=
  decide (server.sessionTimeout < now - object.lastActive)

def expiredSessions (server : Server Message Tool Call) (state : State Message Tool) :
    List String :=
  state.active.keys.filter fun sessionId =>
    match (state.active.get? sessionId).bind (fun ref => state.objects[ref]?) with
    | none => false
    | some object => idle server state.now object && object.requestLock.isNone

/-- A request can outlive the idle timeout: its session counts as active while it is locked. -/
def refreshLocked (server : Server Message Tool Call) (state : State Message Tool) :
    List (SessionObject Message Tool) :=
  state.objects.mapIdx fun ref object =>
    if ref ∈ state.active.values ∧ idle server state.now object = true ∧
        object.requestLock.isSome = true then
      { object with lastActive := state.now }
    else object

def expiredFinalized (server : Server Message Tool Call) (state : State Message Tool) :
    List String :=
  state.finalizedSessionIds.keys.filter fun sessionId =>
    match state.finalizedSessionIds.get? sessionId with
    | none => false
    | some finalizedAt => decide (server.sessionTimeout < state.now - finalizedAt)

def cleanupExpired (server : Server Message Tool Call) (state : State Message Tool) :
    State Message Tool :=
  { state with
    objects := refreshLocked server state
    active := state.active.popAll (expiredSessions server state)
    finalizedSessionIds := state.finalizedSessionIds.popAll (expiredFinalized server state)
    finalizationResults := state.finalizationResults.popAll (expiredFinalized server state) }

def sessionActive (state : State Message Tool) (sessionId : String) (ref : ObjectRef) : Bool :=
  (state.finalizedSessionIds.get? sessionId).isNone &&
    decide (state.active.get? sessionId = some ref)

def opens (state : State Message Tool) (sessionId : String) : Bool :=
  (state.finalizedSessionIds.get? sessionId).isNone && (state.active.get? sessionId).isNone

def openSession (state : State Message Tool) (sessionId instanceId : String) : State Message Tool :=
  { state with
    objects := state.objects ++
      [{ session := Session.new sessionId instanceId
         lastActive := state.now
         requestLock := none }]
    active := state.active.set sessionId state.objects.length }

def markHistoryRewritten (state : State Message Tool) (sessionId reason : String) :
    State Message Tool :=
  match state.active.get? sessionId with
  | none => state
  | some target =>
    state.modifyObject target (fun object =>
      { object with session := object.session.markHistoryRewritten reason })

def recordStep (state : State Message Tool) (fingerprint : List Message → String)
    (sessionId : String) (task : TaskId) (step : StepRecord Message Tool)
    (cache : SnapshotCache) : State Message Tool :=
  match state.active.get? sessionId with
  -- The source warns that it drops the step.
  | none => state
  | some target =>
    { state.modifyObject target (fun object =>
        { object with
          session := object.session.recordStep fingerprint step cache
          lastActive := state.now }) with
      recordings := state.recordings ++
        [{ task := task
           object := target
           stepId := step.stepId }] }

def discardSession (state : State Message Tool) (sessionId : String) : State Message Tool :=
  { state with
    active := state.active.pop sessionId
    finalizedSessionIds := state.finalizedSessionIds.pop sessionId
    finalizationResults := state.finalizationResults.pop sessionId
    store := (state.store.popTrajectory state.now sessionId none none).2 }

def discardable (state : State Message Tool) (sessionId : String) : Bool :=
  (state.active.get? sessionId).isSome ||
    (state.finalizedSessionIds.get? sessionId).isSome ||
    (state.finalizationResults.get? sessionId).isSome

end State

section Handlers

variable (server : Server Message Tool Call)

def finalizedText (sessionId : String) : String :=
  "Session " ++ sessionId ++ " has already been finalized."

def inactiveText (sessionId : String) : String :=
  "Session " ++ sessionId ++ " is no longer active."

def notFoundText (sessionId : String) : String := "Session " ++ sessionId ++ " not found"

/-- `get_or_create_session`. An existing session adopts the request's instance id; a new one
without an instance id draws a uuid. -/
def arriveChat (sessionId : String) (request : ChatRequest Message Tool) (uuid : String)
    (state : State Message Tool) : State Message Tool :=
  let swept := state.arrive.cleanupExpired server
  if (swept.finalizedSessionIds.get? sessionId).isSome then
    swept.reply state.nextTask (.refused 409 (finalizedText sessionId))
  else
    match swept.active.get? sessionId with
    | some ref =>
      ((swept.modifyObject ref (fun object =>
          { object with session := adoptInstanceId request object.session })).touch ref).setTask
        state.nextTask (.chat ref request .queued)
    | none =>
      (swept.openSession sessionId
          ((TrajectoryStore.orElse request.instanceId none).getD uuid)).setTask
        state.nextTask (.chat swept.objects.length request .queued)

def admissionOf [BEq Message] (request : ChatRequest Message Tool)
    (session : Session Message Tool) (turnId : String) (normalized : List Message) :
    Admission Message Tool :=
  { instanceId := effectiveInstanceId request session
    turnId := turnId
    previousStep := session.latestStep
    normalizedMessages := normalized
    metadata := []
    appendOnly :=
      match session.latestStep with
      | none => true
      | some previous => isAppendOnlyContinuation server.format previous.messagesSnapshot
        request.messages
    toolsHash := toolsHash server.format server.config.noneEqualsEmptyTools request.tools }

def admitChat [BEq Message] (task : TaskId) (ref : ObjectRef) (request : ChatRequest Message Tool)
    (uuidHex : String) (state : State Message Tool) : State Message Tool :=
  match state.objects[ref]? with
  | none => state
  | some object =>
    let sessionId := object.session.sessionId
    if state.sessionActive sessionId ref = false then
      state.leave task ref (.refused 409
        (if (state.finalizedSessionIds.get? sessionId).isSome then finalizedText sessionId
          else inactiveText sessionId))
    else
      let resolved := object.session.resolveTurnId request.turnId uuidHex
      let resumed := (state.setSession ref resolved.2).touch ref
      match resolved.1 with
      | .error message => resumed.leave task ref (.refused 400 message)
      | .ok turnId =>
        match server.format.normalizeTemplateMessages request.messages with
        | .error message => resumed.leave task ref (.refused 500 message)
        | .ok normalized =>
          { resumed.setTask task (.chat ref request
              (.admitted (admissionOf server request resolved.2 turnId normalized))) with
            admissions := state.admissions ++ [(task, ref)] }

def enterChat [BEq Message] (task : TaskId) (uuidHex : String) (state : State Message Tool) :
    State Message Tool :=
  match state.tasks.get? task with
  | some (.chat ref request .queued) =>
    if ((state.objects[ref]?).bind SessionObject.requestLock).isSome then state
    else admitChat server task ref request uuidHex
      ((state.lock ref task).cleanupExpired server)
  | _ => state

/-- From the hooks to the engine: routing happens on the request's own object, the rewrite mark
goes to the session of that id. -/
def routeChat [BEq Message] (task : TaskId) (metadata : List HookFailure)
    (state : State Message Tool) : State Message Tool :=
  match state.tasks.get? task with
  | some (.chat ref request (.admitted entered)) =>
    match state.objects[ref]? with
    | none => state
    | some object =>
      let admission := { entered with metadata := metadata }
      let chosen := chooseRoute server.config server.format request admission object.session
      let routedState := state.setSession ref chosen.2
      match chosen.1 with
      | .error message => routedState.leave task ref (.refused 500 message)
      | .ok routing =>
        (if rewriteDetected admission = true then
            routedState.markHistoryRewritten object.session.sessionId rewriteText
          else routedState).setTask task
            (.chat ref request (.generating admission
              (routedOf server.config server.format request admission chosen.2 routing.1
                routing.2)))
  | _ => state

def acceptChat (task : TaskId) (result : PreemptibleGenerateResult)
    (state : State Message Tool) : State Message Tool :=
  match state.tasks.get? task with
  | some (.chat ref _ (.generating _ _)) =>
    state.modifyObject ref (fun object =>
      { object with session := stampRolloutEpoch result object.session })
  | _ => state

/-- The recording of a step whose ids were drawn from the request's own object. -/
def recordChat (task : TaskId) (draft : StepDraft Message Tool Call)
    (values : StepField → FieldValue) (state : State Message Tool) : State Message Tool :=
  match state.tasks.get? task with
  | some (.chat ref request (.generating admission routed)) =>
    match state.objects[ref]? with
    | none => state
    | some object =>
      let own := { draft with admission := admission, routed := routed }
      let numbered := object.session.nextStepId
      let counted := state.setSession ref numbered.2
      match numbered.2.lineages.get? routed.route.lineageId with
      | none => counted.leave task ref (.refused 500 "KeyError")
      | some lineage =>
        let step := own.step server.config.tokenBuildMode numbered.1 lineage.index values
        let cache := snapshotCache server.format own.normalizedFullMessages own.tools
          admission.toolsHash
        match server.config.transferQueue with
        | none =>
          (counted.recordStep (fingerprint server.format) object.session.sessionId task step
            cache).leave task ref .completed
        | some _ => counted.setTask task (.chat ref request (.storing step cache))
  | _ => state

def disappearedText : String := "session disappeared while recording trajectory step"

def commitChat (task : TaskId) (stored : Bool) (state : State Message Tool) : State Message Tool :=
  match state.tasks.get? task with
  | some (.chat ref _ (.storing step cache)) =>
    match state.objects[ref]? with
    | none => state
    | some object =>
      if stored = false then state.leave task ref (.refused 500 "TransferQueue")
      else if (state.active.get? object.session.sessionId).isNone then
        state.leave task ref (.refused 500 disappearedText)
      else
        (state.recordStep (fingerprint server.format) object.session.sessionId task step
          cache).leave task ref .completed
  | _ => state

def segmentDict (finalizationId : String) (uid : String) (record : SegmentRecord Message Tool) :
    SegmentDict :=
  { uid := some uid
    trajectoryId := some record.trajectoryId
    sessionId := none
    turnId := some record.turnId
    instanceId := some record.instanceId
    segmentIndex := some record.segmentIndex
    segmentCount := some record.segmentCount
    tokens := some record.tokens
    fullLogprobs := some record.fullLogprobs
    fullLossMask := some record.fullLossMask
    alignedResponseLength := some record.alignedResponseLength
    fullVersions := record.fullVersions
    finishReason := some record.finishReason
    extraInfo := some
      { segmentView := some
          (match record.extraInfo.segmentView with
          | .lineage => "lineage"
          | .timeline => "timeline")
        tokenBuildMode := some
          (match record.extraInfo.tokenBuildMode with
          | .tito => "tito"
          | .snapshot => "snapshot")
        finalizationId := some finalizationId
        finalizationComplete := some true } }

def batchOf (uuids : FinalizeUuids) (records : List (SegmentRecord Message Tool)) :
    List (SegmentDict × Uuids) :=
  records.zipIdx.map fun entry =>
    (segmentDict uuids.finalizationId (uuids.uids.getD entry.2 "") entry.1,
      { uid := ""
        trajectoryId := ""
        instanceId := "" })

def finalizationResult (session : Session Message Tool) (sessionId : String)
    (instanceId : Option String) (finalizationId : String) : FinalizationResult :=
  { sessionId := sessionId
    trajectoryId := session.sessionId
    instanceId := (TrajectoryStore.orElse instanceId none).getD session.instanceId
    finalizationId := finalizationId
    numSteps := session.steps.length
    numTurns := session.turnIds.length
    numSegments :=
      match server.config.tokenBuildMode with
      | .tito => (splitSessionIntoLineageSegments session).length
      | .snapshot => (splitSessionIntoTimelineSegments session).length
    numTimelineSegments := (splitSessionIntoTimelineSegments session).length
    historyRewritten := session.historyRewritten
    tokenBuildMode := server.config.tokenBuildMode
    tokenBuildModel := server.config.titoModel
    recordTokenVersions := server.config.recordTokenVersions
    maskNonlastVersionTokens := server.config.maskNonlastVersionTokens }

def State.finalizeSession (state : State Message Tool) (sessionId : String)
    (result : FinalizationResult) : State Message Tool :=
  { state with
    active := state.active.pop sessionId
    finalizedSessionIds := state.finalizedSessionIds.set sessionId state.now
    finalizationResults := state.finalizationResults.set sessionId result }

def State.succeed (state : State Message Tool) (task : TaskId) (sessionId : String)
    (result : FinalizationResult) : State Message Tool :=
  { state with
    successes := state.successes ++
      [{ task := task
         sessionId := sessionId
         result := result }] }

def arriveFinalize (sessionId : String) (instanceId : Option String)
    (state : State Message Tool) : State Message Tool :=
  let swept := state.arrive.cleanupExpired server
  match swept.finalizationResults.get? sessionId with
  | some result => (swept.succeed state.nextTask sessionId result).reply state.nextTask
    (.finalized result)
  | none =>
    match swept.active.get? sessionId with
    | none => swept.reply state.nextTask (.refused 404 (notFoundText sessionId))
    | some ref => swept.setTask state.nextTask (.finalize ref sessionId instanceId none)

def buildBatch (session : Session Message Tool) (instanceId : Option String)
    (uuids : FinalizeUuids) (fault : Option String) (now : ℚ) (store : Store) :
    Except String (List (SegmentRecord Message Tool) × Store) :=
  match fault with
  | some message => .error message
  | none =>
    match Proxy.finalizeSession server.config session instanceId with
    | .error message => .error message
    | .ok records =>
      match store.writeMany now (batchOf uuids records) with
      | (.error message, _) => .error message
      | (.ok _, written) => .ok (records, written)

/-- Publish the batch and take the session out of the active map; there is no await between the
two. The rebalancer is told before the lock is released. -/
def publishBatch (task : TaskId) (ref : ObjectRef) (session : Session Message Tool)
    (sessionId : String) (instanceId : Option String) (uuids : FinalizeUuids)
    (records : List (SegmentRecord Message Tool)) (written : Store)
    (state : State Message Tool) : State Message Tool :=
  let result := finalizationResult server session sessionId instanceId uuids.finalizationId
  let published : Publication Message Tool :=
    { object := ref
      steps := session.steps
      records := records
      uuids := uuids
      publishedAt := state.now
      result := result }
  (({ state.finalizeSession sessionId result with
      store := written
      publications := state.publications ++ [published] }).succeed task sessionId result).setTask
    task (.finalize ref sessionId instanceId (some result))

def publish (task : TaskId) (ref : ObjectRef) (sessionId : String)
    (instanceId : Option String) (uuids : FinalizeUuids) (fault : Option String)
    (state : State Message Tool) : State Message Tool :=
  match state.finalizationResults.get? sessionId with
  | some result => (state.succeed task sessionId result).leave task ref (.finalized result)
  | none =>
    match state.objects[ref]? with
    | none => state
    | some object =>
      if state.active.get? sessionId ≠ some ref then
        state.leave task ref (.refused 404 (notFoundText sessionId))
      else if object.session.steps = [] then
        state.leave task ref (.refused 400 "Session has no turns")
      else
        match buildBatch server object.session instanceId uuids fault state.now
          state.store with
        | .error message => state.leave task ref (.refused 500 message)
        | .ok batch => publishBatch server task ref object.session sessionId instanceId uuids
          batch.1 batch.2 state

def enterFinalize (task : TaskId) (uuids : FinalizeUuids) (fault : Option String)
    (state : State Message Tool) : State Message Tool :=
  match state.tasks.get? task with
  | some (.finalize ref sessionId instanceId none) =>
    if ((state.objects[ref]?).bind SessionObject.requestLock).isSome then state
    else publish server task ref sessionId instanceId uuids fault
      ((state.lock ref task).cleanupExpired server)
  | _ => state

def settleFinalize (task : TaskId) (state : State Message Tool) : State Message Tool :=
  match state.tasks.get? task with
  | some (.finalize ref _ _ (some result)) => state.leave task ref (.finalized result)
  | _ => state

def arriveDiscard (sessionId : String) (state : State Message Tool) : State Message Tool :=
  let arrived := state.arrive
  let discarded := (arrived.discardSession sessionId).reply state.nextTask
    (.discarded (state.discardable sessionId))
  match server.config.transferQueue with
  | none => discarded
  | some _ =>
    match state.active.get? sessionId with
    | none => discarded
    | some ref => arrived.setTask state.nextTask (.discard ref sessionId none)

def enterDiscard (task : TaskId) (state : State Message Tool) : State Message Tool :=
  match state.tasks.get? task with
  | some (.discard ref sessionId none) =>
    if ((state.objects[ref]?).bind SessionObject.requestLock).isSome then state
    else ((state.lock ref task).discardSession sessionId).setTask task
      (.discard ref sessionId (some (state.discardable sessionId)))
  | _ => state

def settleDiscard (task : TaskId) (state : State Message Tool) : State Message Tool :=
  match state.tasks.get? task with
  | some (.discard ref _ (some removed)) => state.leave task ref (.discarded removed)
  | _ => state

/-- A request ends where it waits: refused with a status, or cancelled. A request whose columns
are being stored waits for them first. -/
def abandon (task : TaskId) (status : Option Nat) (state : State Message Tool) :
    State Message Tool :=
  let answer : Reply := status.elim .cancelled (fun code => .refused code "")
  match state.tasks.get? task with
  | none => state
  | some (.chat _ _ (.storing _ _)) => state
  | some pending =>
    if pending.holds = true then state.leave task pending.ref answer else state.drop task answer

inductive Action (Message Tool Call : Type)
  | tick (now : ℚ)
  | sweep
  | arriveChat (sessionId : String) (request : ChatRequest Message Tool) (uuid : String)
  | enterChat (task : TaskId) (uuidHex : String)
  | routeChat (task : TaskId) (metadata : List HookFailure)
  | acceptChat (task : TaskId) (result : PreemptibleGenerateResult)
  | recordChat (task : TaskId) (draft : StepDraft Message Tool Call)
    (values : StepField → FieldValue)
  | commitChat (task : TaskId) (stored : Bool)
  | arriveFinalize (sessionId : String) (instanceId : Option String)
  | enterFinalize (task : TaskId) (uuids : FinalizeUuids) (fault : Option String)
  | settleFinalize (task : TaskId)
  | arriveDiscard (sessionId : String)
  | enterDiscard (task : TaskId)
  | settleDiscard (task : TaskId)
  | abandon (task : TaskId) (status : Option Nat)

def step [BEq Message] (state : State Message Tool) :
    Action Message Tool Call → State Message Tool
  | .tick now => { state with now := now }
  | .sweep => state.cleanupExpired server
  | .arriveChat sessionId request uuid => arriveChat server sessionId request uuid state
  | .enterChat task uuidHex => enterChat server task uuidHex state
  | .routeChat task metadata => routeChat server task metadata state
  | .acceptChat task result => acceptChat task result state
  | .recordChat task draft values => recordChat server task draft values state
  | .commitChat task stored => commitChat server task stored state
  | .arriveFinalize sessionId instanceId => arriveFinalize server sessionId instanceId state
  | .enterFinalize task uuids fault => enterFinalize server task uuids fault state
  | .settleFinalize task => settleFinalize task state
  | .arriveDiscard sessionId => arriveDiscard server sessionId state
  | .enterDiscard task => enterDiscard task state
  | .settleDiscard task => settleDiscard task state
  | .abandon task status => abandon task status state

end Handlers

end Dressage.Proxy.Lifecycle

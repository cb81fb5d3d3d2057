/-
Session tracking for proxy-mediated agent conversations.

A session owns its recorded steps, the lineages they belong to and the state
of its turns. Messages and tools are opaque: the session files them and never
looks inside.

Step and lineage ids are the counters their texts are formatted from. The three
fields of a step that routing rewrites in place (the rendered snapshot, its
length and the tools hash it was rendered with) are kept beside the step list,
so that the list itself only grows. `steps_by_id` holds the same objects as
`steps` and is a lookup in it.

Timestamps, latencies, token texts and routed experts are left out.
-/

import Dressage.Lib.OrderedDict
import Dressage.Proxy.ToolCallHooks
import Dressage.Transport.Layouts

namespace Dressage.Proxy

open Lib Transport

inductive RouteType
  | append
  | branch
  | create
deriving DecidableEq, Repr

abbrev StepId := Nat

abbrev LineageId := Nat

structure Lineage where
  id : LineageId
  index : Nat
  latestStepId : Option StepId
  branchFromStepId : Option StepId
deriving DecidableEq, Repr

structure Route where
  lineageId : LineageId
  type : RouteType
  baseStepId : Option StepId
deriving DecidableEq, Repr

structure StepRecord (Message Tool : Type) where
  turnId : String
  promptTokenIds : List Nat
  promptTokenLogprobs : FieldValue
  snapshotTokenIds : List Nat
  responseTokenIds : List Nat
  responseLogprobs : FieldValue
  allTokenIds : List Nat
  allLogprobs : FieldValue
  messagesSnapshot : List Message
  stepId : StepId
  lineageId : LineageId
  lineageIndex : Nat
  routeType : RouteType
  routeBaseStepId : Option StepId
  normalizedMessagesSnapshot : List Message
  lineageSegmentBoundaryBefore : Bool
  lineageSegmentReasonsBefore : List String
  promptVersions : List String
  responseVersions : List String
  allVersions : List String
  allLogprobsInvalid : Bool
  concatTokenIds : List Nat
  concatResponseLogprobs : FieldValue
  concatResponseMask : List Nat
  concatVersions : List String
  concatContextTokenCount : Nat
  concatOutputTokenCount : Nat
  concatLogprobsInvalid : Bool
  concatIncrementalTokenizationFailed : Bool
  tools : Option (List Tool)
  segmentBoundaryBefore : Bool
  rewriteReason : Option String
  segmentReasonBefore : Option String
  segmentReasonsBefore : List String
  finishReason : String
  requestVersion : Option String
  responseVersion : Option String
  toolCallHookMetadata : List HookFailure

structure SnapshotCache where
  rendered : String
  renderedLen : Nat
  toolsHash : String
deriving DecidableEq, Repr

/-- Message-prefix candidate index for lineage routing. A set of step ids is kept as the
list of its members. -/
structure SessionPrefixTree where
  byFingerprint : OrderedDict String (List StepId)
  allStepIds : List StepId

inductive TurnMode
  | implicit
  | explicit
deriving DecidableEq, Repr

structure Session (Message Tool : Type) where
  sessionId : String
  instanceId : String
  incarnationId : Option String
  steps : List (StepRecord Message Tool)
  historyRewritten : Bool
  rewriteReason : Option String
  turnMode : Option TurnMode
  implicitTurnId : Option String
  turnIds : List String
  activeTurnId : Option String
  rolloutEpoch : Option Nat
  lineages : OrderedDict LineageId Lineage
  prefixTree : SessionPrefixTree
  snapshotCaches : OrderedDict StepId SnapshotCache
  stepCounter : Nat
  lineageCounter : Nat

variable {Message Tool : Type}

namespace SessionPrefixTree

def empty : SessionPrefixTree :=
  { byFingerprint := OrderedDict.empty
    allStepIds := [] }

def insert (tree : SessionPrefixTree) (fingerprint : String) (stepId : StepId) :
    SessionPrefixTree :=
  let members := tree.byFingerprint.getD fingerprint []
  { byFingerprint := tree.byFingerprint.set fingerprint
      (if stepId ∈ members then members else members ++ [stepId])
    allStepIds := tree.allStepIds ++ [stepId] }

def addUnseen (candidates : List StepId) (stepIds : List StepId) : List StepId :=
  stepIds.foldl (fun seen stepId => if stepId ∈ seen then seen else seen ++ [stepId]) candidates

/-- Steps whose snapshot is a message prefix first, shortest prefix first, then all others.
`iterate` is the order in which a set of step ids is walked. -/
def candidates (tree : SessionPrefixTree) (fingerprint : List Message → String)
    (iterate : List StepId → List StepId) (messages : List Message) : List StepId :=
  let matching := (List.range (messages.length + 1)).foldl
    (fun found prefixLen =>
      addUnseen found (iterate (tree.byFingerprint.getD
        (fingerprint (messages.take prefixLen)) [])))
    []
  addUnseen matching tree.allStepIds

end SessionPrefixTree

namespace Session

def new (sessionId instanceId : String) : Session Message Tool :=
  { sessionId := sessionId
    instanceId := instanceId
    incarnationId := none
    steps := []
    historyRewritten := false
    rewriteReason := none
    turnMode := none
    implicitTurnId := none
    turnIds := []
    activeTurnId := none
    rolloutEpoch := none
    lineages := OrderedDict.empty
    prefixTree := SessionPrefixTree.empty
    snapshotCaches := OrderedDict.empty
    stepCounter := 0
    lineageCounter := 0 }

def nextStepId (session : Session Message Tool) : StepId × Session Message Tool :=
  (session.stepCounter + 1, { session with stepCounter := session.stepCounter + 1 })

def createLineage (session : Session Message Tool) (branchFromStepId : Option StepId) :
    Lineage × Session Message Tool :=
  let counter := session.lineageCounter + 1
  let lineage : Lineage :=
    { id := counter
      index := counter - 1
      latestStepId := none
      branchFromStepId := branchFromStepId }
  (lineage,
    { session with
      lineageCounter := counter
      lineages := session.lineages.set lineage.id lineage })

def latestStep (session : Session Message Tool) : Option (StepRecord Message Tool) :=
  session.steps.getLast?

def stepById (session : Session Message Tool) (stepId : StepId) :
    Option (StepRecord Message Tool) :=
  session.steps.find? (fun step => step.stepId = stepId)

def lineageSteps (session : Session Message Tool) (lineageId : LineageId) :
    List (StepRecord Message Tool) :=
  session.steps.filter (fun step => step.lineageId = lineageId)

def implicitTurnIdPrefix : String := "__implicit_turn__:"

def isReservedTurnId (turnId : String) : Bool :=
  implicitTurnIdPrefix.toList.isPrefixOf turnId.toList

/-- `resolve_turn_id`; `uuidHex` is the fresh uuid an implicit turn is named after. -/
def resolveTurnId (session : Session Message Tool) (requestedTurnId : Option String)
    (uuidHex : String) : Except String String × Session Message Tool :=
  match requestedTurnId with
  | none =>
    match session.turnMode with
    | some .explicit =>
      (.error "turn_id is required once the session starts using explicit turns.", session)
    | some .implicit => (.ok (session.implicitTurnId.getD ""), session)
    | none =>
      let turnId := implicitTurnIdPrefix ++ uuidHex
      (.ok turnId,
        { session with
          turnMode := some .implicit
          implicitTurnId := some turnId
          turnIds := session.turnIds ++ [turnId]
          activeTurnId := some turnId })
  | some requested =>
    if isReservedTurnId requested then
      (.error "turn_id uses a reserved implicit-turn prefix.", session)
    else if session.turnMode = some .implicit then
      (.error ("Cannot provide explicit turn_id after the session started in implicit " ++
        "single-turn mode."), session)
    else
      let explicit := { session with turnMode := some .explicit }
      let advanced :=
        { explicit with
          turnIds := session.turnIds ++ [requested]
          activeTurnId := some requested }
      match session.activeTurnId with
      | none => (.ok requested, advanced)
      | some active =>
        if requested = active then (.ok requested, explicit)
        else if requested ∈ session.turnIds then
          (.error ("Cannot return to a previous turn_id after the session has advanced to " ++
            "a newer turn."), explicit)
        else (.ok requested, advanced)

def markHistoryRewritten (session : Session Message Tool) (reason : String) :
    Session Message Tool :=
  if session.historyRewritten then session
  else
    { session with
      historyRewritten := true
      rewriteReason := some reason }

def recordStep (session : Session Message Tool) (fingerprint : List Message → String)
    (step : StepRecord Message Tool) (cache : SnapshotCache) : Session Message Tool :=
  { session with
    steps := session.steps ++ [step]
    snapshotCaches := session.snapshotCaches.set step.stepId cache
    prefixTree :=
      if step.normalizedMessagesSnapshot = [] then session.prefixTree
      else session.prefixTree.insert (fingerprint step.normalizedMessagesSnapshot) step.stepId
    lineages :=
      match session.lineages.get? step.lineageId with
      | none => session.lineages
      | some lineage =>
        session.lineages.set step.lineageId
          { lineage with latestStepId := some step.stepId } }

end Session

end Dressage.Proxy

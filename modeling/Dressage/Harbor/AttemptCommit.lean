/-
The commit of one Harbor attempt.

An END finalizes the session, reads the trajectory, validates it, builds the bundle, writes
it, drains the trajectory and writes the bundle again. What the proxy, the disk and the trial
answer is given; an exception of the proxy becomes a failure of the bundle, an exception of
the checks or of the bundle's construction leaves the commit.

`float | int` reads the rewards of the bundle: which values it reads, and as what, is a
parameter. The legacy payload writer, whose exceptions are swallowed, and the fields of
the bundle that name its place and time are left out.
-/

import Dressage.Harbor.AttemptValidation

namespace Dressage.Harbor

open Lib

structure Raised where
  type : String
  message : String
  deriving DecidableEq, Repr

def isLineBoundary (char : Char) : Bool :=
  let code := char.toNat
  (10 ≤ code && code ≤ 13) || (28 ≤ code && code ≤ 30) || code == 0x85 || code == 0x2028 ||
    code == 0x2029

def joinLines : List Char → List Char
  | [] => []
  | '\r' :: '\n' :: rest => ' ' :: joinLines rest
  | char :: rest => (if isLineBoundary char then ' ' else char) :: joinLines rest

def oneLine (text : String) : String := Text.strip (String.ofList (joinLines text.toList))

def AttemptFailure.fromException (code : String) (stage : FailureStage) (exc : Raised)
    (fatal : Bool) : AttemptFailure :=
  { code := code
    stage := stage
    message := if oneLine exc.message = "" then exc.type else oneLine exc.message
    fatal := fatal }

def deduplicateFailures (failures : List AttemptFailure) : List AttemptFailure :=
  failures.foldl
    (fun kept failure =>
      if kept.any (fun earlier => earlier.code = failure.code ∧ earlier.stage = failure.stage ∧
        earlier.message = failure.message)
      then kept else kept ++ [failure])
    []

structure ExceptionInfo where
  exceptionType : Option String
  exceptionMessage : Option String

inductive RewardsAttribute where
  | absent
  | mapping (entries : List (Value × Value))
  | other

def RewardsAttribute.isPresent : RewardsAttribute → Bool
  | .absent => false
  | .mapping _ | .other => true

structure StepResult where
  rewards : RewardsAttribute
  exceptionInfo : Option ExceptionInfo

structure TrialResult where
  rewards : RewardsAttribute
  stepResults : List StepResult
  exceptionInfo : Option ExceptionInfo

def extractRewards (result : TrialResult) : List (Value × Value) :=
  match (result.rewards :: result.stepResults.reverse.map StepResult.rewards).find?
    RewardsAttribute.isPresent with
  | some (.mapping entries) => entries
  | _ => []

def exceptionInfoFailure (info : ExceptionInfo) : AttemptFailure :=
  let exceptionType :=
    match info.exceptionType with
    | none | some "" => "HarborException"
    | some name => name
  let message :=
    match info.exceptionMessage with
    | none | some "" => exceptionType
    | some text => text
  { code := "HARBOR_TRIAL_EXCEPTION"
    stage := .agent
    message := oneLine message
    fatal := true }

def harborResultFailures (result : TrialResult) : List AttemptFailure :=
  (result.exceptionInfo.toList ++
    result.stepResults.filterMap StepResult.exceptionInfo).map exceptionInfoFailure

def payloadSegments : Value → List Segment
  | .dict entries =>
    match Segment.get entries "data" with
    | .list items =>
      items.filterMap (fun item =>
        match item with
        | .dict segment => some segment
        | _ => none)
    | _ => []
  | _ => []

def payloadIsComplete (payload : Value) (expectedTrajectoryId expectedInstanceId : String) :
    Bool :=
  !(payloadSegments payload).isEmpty &&
    (trajectoryFinalizationFailures (payloadSegments payload) (some expectedTrajectoryId)
      (some expectedInstanceId)).isEmpty

inductive FinalizationCheckpoint where
  | notStarted
  | sessionFinalized
  | trajectorySnapshotted
  | artifactCommitted
  | storeDrained
  deriving DecidableEq, Repr

/-- What an END hands to the store. The plugin records fatal failures only. -/
structure AttemptRequest where
  trialName : String
  trialId : String
  sessionId : String
  instanceId : String
  attemptOrdinal : Nat
  trialResult : TrialResult
  failures : List AttemptFailure
  fatal : ∀ failure ∈ failures, failure.fatal = true
  cancelled : Bool
  expectedWeightVersion : Option String

structure CommitAnswers where
  finalize : Option Raised
  finalizeAgain : Option Raised
  recoveryRead : Except Raised Value
  read : Except Raised Value
  drain : Option Raised
  outsideTrialDir : Bool
  firstWrite : Option Raised
  checkpointWrite : Option Raised
  lastWrite : Option Raised

structure Snapshot where
  checkpoint : FinalizationCheckpoint
  payload : Value
  failures : List AttemptFailure

def isNone : Value → Bool
  | .null => true
  | _ => false

/-- The two calls of `finalize_session`, and the read that proves a lost response. -/
def finalizeSession (request : AttemptRequest) (answers : CommitAnswers) : Snapshot :=
  let finalized : Snapshot :=
    { checkpoint := .sessionFinalized
      payload := .null
      failures := request.failures }
  match answers.finalize with
  | none => finalized
  | some exc =>
    let failed : Snapshot :=
      { checkpoint := .notStarted
        payload := .null
        failures :=
          request.failures ++ [.fromException "FINALIZE_FAILED" .finalize exc true] }
    match answers.finalizeAgain with
    | none => finalized
    | some _ =>
      match answers.recoveryRead with
      | .error _ => failed
      | .ok recovery =>
        if payloadIsComplete recovery request.sessionId request.instanceId then
          { finalized with payload := recovery }
        else failed

def readTrajectory (answers : CommitAnswers) (finalized : Snapshot) : Snapshot :=
  if isNone finalized.payload ∧ finalized.checkpoint = .sessionFinalized then
    match answers.read with
    | .ok payload => { finalized with payload := payload }
    | .error exc =>
      { finalized with
        failures := finalized.failures ++ [.fromException "TRAJECTORY_READ_FAILED" .read exc true] }
  else finalized

def snapshot (request : AttemptRequest) (answers : CommitAnswers) : Snapshot :=
  let read := readTrajectory answers (finalizeSession request answers)
  if isNone read.payload then read
  else { read with checkpoint := .trajectorySnapshotted }

structure Bundle where
  sessionId : String
  instanceId : String
  attemptOrdinal : Nat
  cancelled : Bool
  superseded : Bool
  rewards : List (String × Value)
  rewardKey : String
  reward : Option Value
  segments : List Segment
  trainableTokenCount : Nat
  expectedWeightVersion : Option String
  observedWeightVersions : List String
  failures : List AttemptFailure
  trainable : Bool
  finalizationCheckpoint : FinalizationCheckpoint

inductive ArtifactMode where
  | disk
  | memory
  | both
  deriving DecidableEq, Repr

structure StoreSettings where
  validation : ValidationSettings
  mode : ArtifactMode

def StoreSettings.persists (settings : StoreSettings) : Bool := settings.mode ≠ .memory

def textRewards (rewards : List (Value × Value)) : List (String × Value) :=
  rewards.filterMap (fun (key, value) =>
    match key with
    | .text name => some (name, value)
    | _ => none)

def readRewards (reader : Value → Option Value) :
    List (Value × Value) → Option (List (String × Value))
  | [] => some []
  | (.text name, value) :: rest =>
    (reader value).bind (fun number => (readRewards reader rest).map ((name, number) :: ·))
  | _ :: _ => none

inductive CommitError where
  | overflowError
  | validationError
  | artifactCommitError (cause : Option Raised)
  | raised (exc : Raised)
  deriving DecidableEq, Repr

def validateSnapshot (settings : StoreSettings) (request : AttemptRequest) (read : Snapshot) :
    Option Validation :=
  validateAttempt settings.validation (textRewards (extractRewards request.trialResult))
    (payloadSegments read.payload) request.expectedWeightVersion (some request.sessionId)
    (some request.instanceId)

def trainable (cancelled : Bool) (checkpoint : FinalizationCheckpoint)
    (failures : List AttemptFailure) (tokenCount : Nat) : Bool :=
  !cancelled && checkpoint = .trajectorySnapshotted && !failures.any AttemptFailure.fatal &&
    0 < tokenCount

def buildBundle (reader : Value → Option Value) (settings : StoreSettings)
    (request : AttemptRequest) (read : Snapshot) : Except CommitError Bundle :=
  match validateSnapshot settings request read with
  | none => .error .overflowError
  | some validation =>
    match readRewards reader (extractRewards request.trialResult) with
    | none => .error .validationError
    | some rewards =>
      let failures := deduplicateFailures
        (read.failures ++ harborResultFailures request.trialResult ++ validation.failures)
      .ok
        { sessionId := request.sessionId
          instanceId := request.instanceId
          attemptOrdinal := request.attemptOrdinal
          cancelled := request.cancelled
          superseded := true
          rewards := rewards
          rewardKey := settings.validation.rewardKey
          reward := OrderedDict.lookup settings.validation.rewardKey rewards
          segments := payloadSegments read.payload
          trainableTokenCount := validation.trainableCount
          expectedWeightVersion := request.expectedWeightVersion
          observedWeightVersions := validation.observedVersions
          failures := failures
          trainable :=
            trainable request.cancelled read.checkpoint failures validation.trainableCount
          finalizationCheckpoint := read.checkpoint }

def persistBundle (settings : StoreSettings) (answers : CommitAnswers) : Except CommitError Unit :=
  if settings.persists then
    if answers.outsideTrialDir then
      match answers.firstWrite, answers.checkpointWrite with
      | some exc, _ => .error (.artifactCommitError (some exc))
      | none, some exc => .error (.raised exc)
      | none, none => .ok ()
    else .error (.artifactCommitError none)
  else .ok ()

def drainTrajectory (answers : CommitAnswers) (payload : Value) (bundle : Bundle) : Bundle :=
  if isNone payload then bundle
  else
    match answers.drain with
    | none => { bundle with finalizationCheckpoint := .storeDrained }
    | some exc =>
      { bundle with
        failures := bundle.failures ++
          [.fromException "TRAJECTORY_DRAIN_FAILED" .cleanup exc false] }

/-- `_commit_attempt_once`, up to the entry in `_bundles` -/
def commitBundle (reader : Value → Option Value) (settings : StoreSettings)
    (request : AttemptRequest) (answers : CommitAnswers) : Except CommitError Bundle :=
  let read := snapshot request answers
  match buildBundle reader settings request read with
  | .error error => .error error
  | .ok bundle =>
    match persistBundle settings answers with
    | .error error => .error error
    | .ok () =>
      let drained := drainTrajectory answers read.payload
        { bundle with finalizationCheckpoint := .artifactCommitted }
      match settings.persists, answers.lastWrite with
      | true, some exc => .error (.raised exc)
      | _, _ => .ok drained

abbrev AttemptKey := String × String

def AttemptRequest.key (request : AttemptRequest) : AttemptKey :=
  (request.trialName, request.trialId)

structure ArtifactStore where
  bundles : OrderedDict AttemptKey Bundle
  commitTasks : OrderedDict AttemptKey (Except CommitError Bundle)

def ArtifactStore.commitAttemptOnce (reader : Value → Option Value) (settings : StoreSettings)
    (store : ArtifactStore) (request : AttemptRequest) (answers : CommitAnswers) :
    ArtifactStore × Except CommitError Bundle :=
  match commitBundle reader settings request answers with
  | .error error => (store, .error error)
  | .ok bundle => ({ store with bundles := store.bundles.set request.key bundle }, .ok bundle)

def ArtifactStore.commitAttempt (reader : Value → Option Value) (settings : StoreSettings)
    (store : ArtifactStore) (request : AttemptRequest) (answers : CommitAnswers) :
    ArtifactStore × Except CommitError Bundle :=
  match store.commitTasks.get? request.key with
  | some outcome => (store, outcome)
  | none =>
    let committed := store.commitAttemptOnce reader settings request answers
    ({ committed.1 with commitTasks := committed.1.commitTasks.set request.key committed.2 },
      committed.2)

end Dressage.Harbor

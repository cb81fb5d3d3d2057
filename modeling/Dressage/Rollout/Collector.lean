/-
The collection loop shared by the fully and the partially asynchronous rollout.

A worker thread dispatches groups under worker-local ids and puts each finished
one on an output queue. A rollout call drains the whole queue in every pass of
its loop and walks the drained groups until it has enough. The worker only
appends to the queue, so one pass is one step.

The two rollouts differ in how they annotate groups and in what they do with
groups drained but not needed; a `Mode` carries the difference. Log texts,
metrics and the failure summaries inside error texts are left out.
-/

import Mathlib.Data.List.Sort
import Dressage.Lib.Runs
import Dressage.Rollout.Staleness

namespace Dressage.Rollout

open Lib

structure CompletedGroup where
  groupId : Nat
  originalGroup : Group
  result : Option Group
  error : Option String
deriving DecidableEq, Repr

def isAbortedGroup (group : Group) : Bool := group.any (fun sample => sample.status = .aborted)

def CompletedGroup.isFailed (completed : CompletedGroup) : Bool :=
  match completed.error, completed.result with
  | some _, _ => true
  | none, none => true
  | none, some result => isAbortedGroup result

def sampleHasTrainableTokens (sample : Sample) : Bool :=
  if sample.removeSample then false
  else if sample.responseLength ≤ 0 then false
  else
    match sample.lossMask with
    | none => true
    | some mask => mask.any (fun value => value ≠ 0)

def groupHasTrainableTokens (group : Group) : Bool := group.any sampleHasTrainableTokens

def sampleRetryCount (sample : Sample) : Int := sample.metadata.retryCount.getD 0

def retryCount (group : Group) : Int :=
  match group with
  | [] => 0
  | sample :: _ => sampleRetryCount sample

def previousSessionId (sample : Sample) : Option String :=
  match sample.metadata.sessionId with
  | some id => if id = "" then sample.sessionId else some id
  | none => sample.sessionId

def incrementRetrySample (sample : Sample) : Sample :=
  { sample with
    sessionId := none
    removeSample := false
    metadata :=
      { sample.metadata with
        lastRetrySessionId := (previousSessionId sample).or sample.metadata.lastRetrySessionId
        sessionId := none
        parentTrajId := none
        segmentIndex := none
        retryCount := some (sampleRetryCount sample + 1) } }

def incrementRetry (group : Group) : Group := group.map incrementRetrySample

theorem incrementRetry_counts (group : Group) :
    (incrementRetry group).map sampleRetryCount =
      group.map (fun sample => sampleRetryCount sample + 1) := by
  unfold incrementRetry
  rw [List.map_map]
  rfl

inductive CollectError
  | unknownVersion
  | missingKey
  | tooManyDropped (count : Nat)
  | emptyGroup
  | noTrainableSamples
deriving DecidableEq, Repr

structure Rules where
  target : Int
  maxRetries : Int
  maxDroppedFailedGroups : Int
  rolloutId : Int
  allowEmptyTrainBatch : Bool
  drainFinalWorker : Bool
deriving DecidableEq, Repr

/-- Where groups went: the log lines, the retry buffer and the returned batches. A
stale entry keeps the tracker that dropped it, an exhausted one the bound it met. -/
structure Account where
  returned : List PendingGroup
  retried : List (Nat × Group)
  stale : List (Nat × StalenessTracker)
  exhausted : List (Nat × Int)
deriving DecidableEq, Repr

structure Collection where
  completedById : OrderedDict Nat CompletedGroup
  data : List PendingGroup
  droppedFailedGroups : Nat
  account : Account

structure Marking where
  submitted : Int → Nat → Group → Group
  returned : Int → Nat → Group → Group
  sameVersions : ∀ rolloutId groupId group,
    trajectoryVersionInfos (returned rolloutId groupId group) = trajectoryVersionInfos group

def consumeOne (marking : Marking) (rules : Rules) (tracker : StalenessTracker) (groupId : Nat)
    (completed : CompletedGroup) (state : Collection) : Except CollectError Collection :=
  if completed.isFailed then
    if retryCount completed.originalGroup < rules.maxRetries then
      .ok { state with
        account :=
          { state.account with
            retried := state.account.retried ++
              [(groupId, incrementRetry completed.originalGroup)] } }
    else if rules.maxDroppedFailedGroups ≤ state.droppedFailedGroups + 1 then
      .error (.tooManyDropped (state.droppedFailedGroups + 1))
    else
      .ok { state with
        droppedFailedGroups := state.droppedFailedGroups + 1
        account :=
          { state.account with
            exhausted := state.account.exhausted ++ [(groupId, rules.maxRetries)] } }
  else
    match tracker.keepGroup (completed.result.getD []) with
    | none => .error .unknownVersion
    | some false =>
      .ok { state with
        account :=
          { state.account with stale := state.account.stale ++ [(groupId, tracker)] } }
    | some true =>
      .ok { state with
        data := state.data ++
          [{ groupId := groupId
             samples := marking.returned rules.rolloutId groupId (completed.result.getD []) }] }

def consume (marking : Marking) (rules : Rules) (tracker : StalenessTracker) :
    List Nat → Collection → Except CollectError Collection
  | [], state => .ok state
  | groupId :: rest, state =>
    if rules.target ≤ state.data.length then .ok state
    else
      match state.completedById.get? groupId with
      | none => .error .missingKey
      | some completed => do
        let next ← consumeOne marking rules tracker groupId completed
          { state with completedById := state.completedById.pop groupId }
        consume marking rules tracker rest next

def observeCompleted (tracker : StalenessTracker) (batch : List CompletedGroup) :
    StalenessTracker × Bool :=
  batch.foldl (fun seen completed =>
    match completed.result with
    | none => seen
    | some result =>
      let observed := seen.1.observeGroup result
      (observed.1, seen.2 || observed.2)) (tracker, false)

def refreshPending (observed : StalenessTracker × Bool) (data : List PendingGroup) :
    Option (List PendingGroup × List Nat) :=
  if observed.2 ∧ data ≠ [] then observed.1.filterPending data else some (data, [])

def loadCompleted (dict : OrderedDict Nat CompletedGroup) (batch : List CompletedGroup) :
    OrderedDict Nat CompletedGroup :=
  batch.foldl (fun current completed => current.set completed.groupId completed) dict

def collectPass (marking : Marking) (rules : Rules) (tracker : StalenessTracker)
    (batch : List CompletedGroup) (state : Collection) : Except CollectError Collection :=
  let observed := observeCompleted tracker batch
  match refreshPending observed state.data with
  | none => .error .unknownVersion
  | some (data, dropped) =>
    let loaded := loadCompleted state.completedById batch
    consume marking rules observed.1 loaded.keys
      { state with
        completedById := loaded
        data := data
        account :=
          { state.account with
            stale := state.account.stale ++ dropped.map (fun id => (id, observed.1)) } }

structure Worker where
  queueSize : Nat
  highWatermark : Nat
  maxActiveGroups : Nat
  outputQueue : List CompletedGroup
  prefetched : List (Nat × Group)
  nextGroupId : Nat
  active : List (Nat × Group)
  running : Bool
  currentRolloutId : Int
  staleness : StalenessTracker
deriving DecidableEq, Repr

/-- `queue.Queue` treats a size of zero as unbounded. -/
def Worker.hasRoom (worker : Worker) : Bool :=
  worker.queueSize = 0 || worker.outputQueue.length < worker.queueSize

/-- `_put_completed`: `none` while the queue is full and the worker runs. -/
def Worker.putCompleted (worker : Worker) (completed : CompletedGroup) : Option Worker :=
  if worker.hasRoom then some { worker with outputQueue := worker.outputQueue ++ [completed] }
  else if worker.running then none
  else some worker

structure Call where
  rules : Rules
  completedById : OrderedDict Nat CompletedGroup
  data : List PendingGroup
  droppedFailedGroups : Nat

structure Machine where
  worker : Worker
  call : Option Call
  account : Account
  completed : List CompletedGroup
  outputs : List (List Group)
  failures : List CollectError

inductive Event
  | prefetch (group : Group)
  | dispatch (fresh : Option Group)
  | finish (groupId : Nat) (outcome : Except String Group)
  | begin (rules : Rules)
  | pass
  | settle

def Machine.fail (machine : Machine) (error : CollectError) : Machine :=
  { machine with
    call := none
    failures := machine.failures ++ [error] }

def Machine.dispatch (marking : Marking) (machine : Machine) (fresh : Option Group) : Machine :=
  let worker := machine.worker
  if worker.running ∧ worker.active.length < worker.maxActiveGroups ∧
      worker.outputQueue.length < worker.highWatermark then
    match worker.prefetched, fresh with
    | (groupId, group) :: rest, _ =>
      { machine with
        worker :=
          { worker with
            prefetched := rest
            active := worker.active ++
              [(groupId, marking.submitted worker.currentRolloutId groupId group)] } }
    | [], some group =>
      { machine with
        worker :=
          { worker with
            nextGroupId := worker.nextGroupId + 1
            active := worker.active ++
              [(worker.nextGroupId,
                marking.submitted worker.currentRolloutId worker.nextGroupId group)] } }
    | [], none => machine
  else machine

def completedOf (groupId : Nat) (group : Group) (outcome : Except String Group) :
    CompletedGroup :=
  match outcome with
  | .ok result =>
    { groupId := groupId
      originalGroup := group
      result := some result
      error := none }
  | .error message =>
    { groupId := groupId
      originalGroup := group
      result := none
      error := some message }

def Machine.finish (machine : Machine) (groupId : Nat) (outcome : Except String Group) :
    Machine :=
  match machine.worker.active.find? (fun entry => entry.1 = groupId) with
  | none => machine
  | some entry =>
    match machine.worker.putCompleted (completedOf groupId entry.2 outcome) with
    | none => machine
    | some worker =>
      { machine with
        worker :=
          { worker with
            active := worker.active.filter (fun other => other.1 ≠ groupId) }
        completed := machine.completed ++ [completedOf groupId entry.2 outcome] }

def Machine.begin (machine : Machine) (rules : Rules) : Machine :=
  match machine.call with
  | some _ => machine
  | none =>
    { machine with
      worker := { machine.worker with currentRolloutId := rules.rolloutId }
      call := some
        { rules := rules
          completedById := OrderedDict.empty
          data := []
          droppedFailedGroups := 0 } }

def Call.collecting (call : Call) : Bool := (call.data.length : Int) < call.rules.target

def Machine.collection (machine : Machine) (call : Call) : Collection :=
  { completedById := call.completedById
    data := call.data
    droppedFailedGroups := call.droppedFailedGroups
    account := machine.account }

/-- The queue is emptied and its versions observed whatever the pass then does. -/
def Machine.drained (machine : Machine) : Machine :=
  { machine with
    worker :=
      { machine.worker with
        outputQueue := []
        staleness := (observeCompleted machine.worker.staleness machine.worker.outputQueue).1 } }

def Machine.resume (machine : Machine) (rules : Rules) (collection : Collection) : Machine :=
  { machine with
    account := collection.account
    call := some
      { rules := rules
        completedById := collection.completedById
        data := collection.data
        droppedFailedGroups := collection.droppedFailedGroups } }

def Machine.pass (marking : Marking) (machine : Machine) (call : Call) : Machine :=
  match collectPass marking call.rules machine.worker.staleness machine.worker.outputQueue
    (machine.collection call) with
  | .error error => machine.drained.fail error
  | .ok collection => machine.drained.resume call.rules collection

/-- Order by the index of the first sample; empty groups are rejected before this. -/
def firstIndexLe (left right : Group) : Prop :=
  (left.head?.map Sample.index).getD 0 ≤ (right.head?.map Sample.index).getD 0

instance : DecidableRel firstIndexLe := fun left right =>
  inferInstanceAs (Decidable ((left.head?.map Sample.index).getD 0 ≤
    (right.head?.map Sample.index).getD 0))

def dataGroups (data : List PendingGroup) : List Group :=
  (data.map PendingGroup.samples).insertionSort firstIndexLe

def Machine.finishCall (machine : Machine) (call : Call) : Machine :=
  if call.data.any (fun group => group.samples = []) then machine.fail .emptyGroup
  else if ¬ call.rules.allowEmptyTrainBatch ∧
    ¬ (dataGroups call.data).any groupHasTrainableTokens then machine.fail .noTrainableSamples
  else
    { machine with
      call := none
      account :=
        { machine.account with returned := machine.account.returned ++ call.data }
      outputs := machine.outputs ++ [dataGroups call.data] }

def Machine.step (marking : Marking) (settle : Machine → Call → Machine) (machine : Machine)
    (event : Event) : Machine :=
  match event with
  | .prefetch group =>
    { machine with
      worker :=
        { machine.worker with
          prefetched := machine.worker.prefetched ++ [(machine.worker.nextGroupId, group)]
          nextGroupId := machine.worker.nextGroupId + 1 } }
  | .dispatch fresh => machine.dispatch marking fresh
  | .finish groupId outcome => machine.finish groupId outcome
  | .begin rules => machine.begin rules
  | .pass =>
    match machine.call with
    | none => machine
    | some call => if call.collecting then machine.pass marking call else machine
  | .settle =>
    match machine.call with
    | none => machine
    | some call => if call.collecting then machine else settle machine call

def emptyAccount : Account :=
  { returned := []
    retried := []
    stale := []
    exhausted := [] }

def Machine.initial (queueSize highWatermark maxActiveGroups : Nat)
    (keepVersions : Option Nat) : Machine :=
  { worker :=
      { queueSize := queueSize
        highWatermark := highWatermark
        maxActiveGroups := maxActiveGroups
        outputQueue := []
        prefetched := []
        nextGroupId := 0
        active := []
        running := true
        currentRolloutId := 0
        staleness :=
          { keepVersions := keepVersions
            versions := [] } }
    call := none
    account := emptyAccount
    completed := []
    outputs := []
    failures := [] }

def emptyMetadata : Metadata :=
  { parentTrajId := none
    segmentIndex := none
    endTokenVersion := none
    sessionId := none
    retryCount := none
    lastRetrySessionId := none
    startRolloutId := none
    asyncGroupId := none
    partialRollout := false
    returnRolloutId := none
    returnAsyncGroupId := none
    partialRolloutReturned := false }

def trainableSample (index : Int) : Sample :=
  { index := index
    status := .completed
    removeSample := false
    responseLength := 1
    lossMask := some [1]
    sessionId := none
    metadata := emptyMetadata }

end Dressage.Rollout

/-
The proxy's in-memory trajectory store.

Segments are filed under two dictionaries, by instance and by trajectory, with
a commit time per instance. Writes append to both; `pop_trajectory` and
`read_batch` drain them. Every method body runs under one lock, so a method is
one step here. The clock and fresh uuids are arguments.

Messages, tools and labels travel with a segment and are read by no method of the
store; they are left out. So are the routed-expert chunks, of which the store only
compares the token count of a layout with the tokens: `itemFromRecord` makes that
check for the records that a finalize call writes.
-/

import Mathlib.Data.List.Dedup
import Mathlib.Data.List.Sort
import Dressage.Lib.OrderedDict
import Dressage.Transport.Layouts

namespace Dressage.TrajectoryStore

open Lib Transport

structure ExtraInfo where
  segmentView : Option String
  tokenBuildMode : Option String
  finalizationId : Option String
  finalizationComplete : Option Bool
deriving DecidableEq

structure TrajectorySegment where
  uid : String
  trajectoryId : String
  turnId : String
  instanceId : String
  segmentIndex : Int
  segmentCount : Int
  tokens : List Nat
  fullLogprobs : SegmentField
  fullLossMask : List Nat
  alignedResponseLength : Nat
  fullVersions : Option (List String)
  finishReason : String
  timestamp : ℚ
  extraInfo : ExtraInfo
deriving DecidableEq

/-- A record handed to `write_many`; a missing dictionary key is `none`. -/
structure SegmentDict where
  uid : Option String
  trajectoryId : Option String
  sessionId : Option String
  turnId : Option String
  instanceId : Option String
  segmentIndex : Option Int
  segmentCount : Option Int
  tokens : Option (List Nat)
  fullLogprobs : Option SegmentField
  fullLossMask : Option (List Nat)
  alignedResponseLength : Option Nat
  fullVersions : Option (List String)
  finishReason : Option String
  extraInfo : Option ExtraInfo
deriving DecidableEq

structure Uuids where
  uid : String
  trajectoryId : String
  instanceId : String
deriving DecidableEq

/-- Python's `left or right` on optional strings: the empty string is falsy. -/
def orElse (left right : Option String) : Option String :=
  match left with
  | some text => if text = "" then right else some text
  | none => right

def fieldLength : SegmentField → Nat
  | .resident values => values.length
  | .layout plan => plan.tokenCount

def missingField (key : String) : String := s!"trajectory segment missing required field: {key}"

def lengthMismatch (key : String) (count tokenCount : Nat) : String :=
  s!"trajectory segment field length mismatch: {key} has {count}, tokens has {tokenCount}"

def logprobsName : SegmentField → String
  | .resident _ => "full_logprobs"
  | .layout _ => "full_logprobs layout"

def itemFromDict (now : ℚ) (data : SegmentDict) (fresh : Uuids) :
    Except String TrajectorySegment := do
  let trajectoryId := (orElse data.trajectoryId data.sessionId).getD fresh.trajectoryId
  let tokens ← data.tokens.elim (.error (missingField "tokens")) .ok
  let fullLogprobs ← data.fullLogprobs.elim (.error (missingField "full_logprobs")) .ok
  let fullLossMask ← data.fullLossMask.elim (.error (missingField "full_loss_mask")) .ok
  if fieldLength fullLogprobs ≠ tokens.length then
    .error (lengthMismatch (logprobsName fullLogprobs) (fieldLength fullLogprobs) tokens.length)
  if fullLossMask.length ≠ tokens.length then
    .error (lengthMismatch "full_loss_mask" fullLossMask.length tokens.length)
  if (data.fullVersions.getD []).length ≠ tokens.length ∧ data.fullVersions.isSome then
    .error (lengthMismatch "full_versions" (data.fullVersions.getD []).length tokens.length)
  let turnId ← data.turnId.elim (.error "turn_id") .ok
  return {
    uid := data.uid.getD fresh.uid
    trajectoryId := trajectoryId
    turnId := turnId
    instanceId := data.instanceId.getD fresh.instanceId
    segmentIndex := data.segmentIndex.getD 0
    segmentCount := data.segmentCount.getD 1
    tokens := tokens
    fullLogprobs := fullLogprobs
    fullLossMask := fullLossMask
    alignedResponseLength := data.alignedResponseLength.getD 0
    fullVersions := data.fullVersions
    finishReason := data.finishReason.getD "stop"
    timestamp := now
    extraInfo := data.extraInfo.getD
      { segmentView := none
        tokenBuildMode := none
        finalizationId := none
        finalizationComplete := none } }

def single {α : Type} [DecidableEq α] (values : List α) : Bool :=
  match values with
  | [] => false
  | first :: rest => rest.all (fun value => value = first)

def completeView (items : List TrajectorySegment) : Bool :=
  single (items.map TrajectorySegment.segmentCount) &&
    items.all (fun item => item.segmentCount = items.length) &&
    decide (items.map TrajectorySegment.segmentIndex).Nodup &&
    items.all (fun item => 0 ≤ item.segmentIndex ∧ item.segmentIndex < items.length)

def itemsOfView (items : List TrajectorySegment) (view : String) : List TrajectorySegment :=
  items.filter (fun item => item.extraInfo.segmentView = some view)

def validateFinalizedBatch (items : List TrajectorySegment) : Except String Unit :=
  if ¬ items.any (fun item =>
      item.extraInfo.finalizationId.isSome || item.extraInfo.finalizationComplete.isSome) then
    .ok ()
  else if ¬ single (items.map (fun item => item.extraInfo.finalizationId)) ∨
      items.any (fun item => (item.extraInfo.finalizationId.getD "") = "") ∨
      items.any (fun item => item.extraInfo.finalizationComplete ≠ some true) then
    .error "finalized trajectory batch has inconsistent markers"
  else if ¬ single (items.map TrajectorySegment.trajectoryId) ∨
      ¬ single (items.map TrajectorySegment.instanceId) then
    .error "finalized trajectory batch mixes trajectory identities"
  else if items.any (fun item =>
      item.extraInfo.segmentView ≠ some "lineage" ∧
        item.extraInfo.segmentView ≠ some "timeline") then
    .error "finalized trajectory batch has invalid segment_view"
  else
    match ["lineage", "timeline"].find? (fun view =>
      itemsOfView items view ≠ [] ∧ ¬ completeView (itemsOfView items view)) with
    | some view =>
      .error s!"finalized trajectory {view} segments are not the complete 0..N-1 set"
    | none => .ok ()

def defaultSegmentView (items : List TrajectorySegment) : Option String :=
  if items.any (fun item => item.extraInfo.tokenBuildMode = some "tito") then some "lineage"
  else if items.any (fun item => item.extraInfo.tokenBuildMode = some "snapshot") then
    some "timeline"
  else none

def filterSegmentView (items : List TrajectorySegment) (segmentView : Option String) :
    List TrajectorySegment :=
  match orElse segmentView (defaultSegmentView items) with
  | none => items
  | some view => items.filter (fun item => item.extraInfo.segmentView = some view)

def indexOrder (left right : TrajectorySegment) : Prop :=
  left.segmentIndex < right.segmentIndex ∨
    left.segmentIndex = right.segmentIndex ∧ left.timestamp ≤ right.timestamp

instance : DecidableRel indexOrder := fun left right =>
  inferInstanceAs (Decidable (left.segmentIndex < right.segmentIndex ∨
    left.segmentIndex = right.segmentIndex ∧ left.timestamp ≤ right.timestamp))

def batchOrder (left right : TrajectorySegment) : Prop :=
  left.trajectoryId < right.trajectoryId ∨
    left.trajectoryId = right.trajectoryId ∧ indexOrder left right

instance : DecidableRel batchOrder := fun left right =>
  inferInstanceAs (Decidable (left.trajectoryId < right.trajectoryId ∨
    left.trajectoryId = right.trajectoryId ∧ indexOrder left right))

structure Store where
  byInstance : OrderedDict String (List TrajectorySegment)
  byTrajectory : OrderedDict String (List TrajectorySegment)
  instanceTimestamps : OrderedDict String ℚ
  minGroupSize : Int
  groupTimeout : ℚ

def Store.initial (minGroupSize : Int) (groupTimeout : ℚ) : Store :=
  { byInstance := OrderedDict.empty
    byTrajectory := OrderedDict.empty
    instanceTimestamps := OrderedDict.empty
    minGroupSize := minGroupSize
    groupTimeout := groupTimeout }

def Store.instanceItems (store : Store) (instanceId : String) : List TrajectorySegment :=
  store.byInstance.getD instanceId []

def Store.trajectoryItems (store : Store) (trajectoryId : String) : List TrajectorySegment :=
  store.byTrajectory.getD trajectoryId []

def appendTo (dict : OrderedDict String (List TrajectorySegment)) (key : String)
    (item : TrajectorySegment) : OrderedDict String (List TrajectorySegment) :=
  dict.set key (dict.getD key [] ++ [item])

def Store.fileItem (store : Store) (item : TrajectorySegment) : Store :=
  { store with
    byInstance := appendTo store.byInstance item.instanceId item
    byTrajectory := appendTo store.byTrajectory item.trajectoryId item }

def Store.touch (store : Store) (now : ℚ) (instanceId : String) : Store :=
  { store with instanceTimestamps := store.instanceTimestamps.set instanceId now }

/-- `_write_items`. The restore branch of the source returns the store it started from. -/
def Store.writeItems (store : Store) (now : ℚ) (items : List TrajectorySegment) : Store :=
  (items.map TrajectorySegment.instanceId).foldl (fun current id => current.touch now id)
    (items.foldl Store.fileItem store)

def Store.write (store : Store) (now : ℚ) (item : TrajectorySegment) : Store :=
  store.writeItems now [item]

def preparedItems (now : ℚ) (records : List (SegmentDict × Uuids)) :
    Except String (List TrajectorySegment) := do
  let items ← records.mapM (fun record => itemFromDict now record.1 record.2)
  validateFinalizedBatch items
  return items

def Store.writeMany (store : Store) (now : ℚ) (records : List (SegmentDict × Uuids)) :
    Except String (List TrajectorySegment) × Store :=
  match preparedItems now records with
  | .error message => (.error message, store)
  | .ok items => (.ok items, store.writeItems now items)

def matching (items : List TrajectorySegment) (instanceId : Option String) :
    List TrajectorySegment :=
  match instanceId with
  | none => items
  | some id => items.filter (fun item => item.instanceId = id)

def Store.readTrajectory (store : Store) (trajectoryId : String) (instanceId : Option String)
    (segmentView : Option String) : List TrajectorySegment :=
  (filterSegmentView (matching (store.trajectoryItems trajectoryId) instanceId)
    segmentView).insertionSort indexOrder

def Store.forgetInInstance (uids : List String) (now : ℚ) (store : Store)
    (instanceId : String) : Store :=
  let remaining := (store.instanceItems instanceId).filter (fun item => item.uid ∉ uids)
  if remaining = [] then
    { store with
      byInstance := store.byInstance.pop instanceId
      instanceTimestamps := store.instanceTimestamps.pop instanceId }
  else
    { store with
      byInstance := store.byInstance.set instanceId remaining
      instanceTimestamps := store.instanceTimestamps.set instanceId now }

def Store.popped (store : Store) (trajectoryId : String) (instanceId : Option String) :
    List TrajectorySegment :=
  matching (store.trajectoryItems trajectoryId) instanceId

def remainingByTrajectory (existing : List TrajectorySegment) (instanceId : Option String) :
    List TrajectorySegment :=
  match instanceId with
  | none => []
  | some id => existing.filter (fun item => item.instanceId ≠ id)

def Store.keepInTrajectory (store : Store) (trajectoryId : String)
    (remaining : List TrajectorySegment) : Store :=
  { store with
    byTrajectory :=
      if remaining = [] then store.byTrajectory.pop trajectoryId
      else store.byTrajectory.set trajectoryId remaining }

def Store.popTrajectory (store : Store) (now : ℚ) (trajectoryId : String)
    (instanceId : Option String) (segmentView : Option String) :
    List TrajectorySegment × Store :=
  if store.popped trajectoryId instanceId = [] then ([], store)
  else
    ((filterSegmentView (store.popped trajectoryId instanceId) segmentView).insertionSort
        indexOrder,
      ((store.popped trajectoryId instanceId).map TrajectorySegment.instanceId).dedup.foldl
        (Store.forgetInInstance
          ((store.popped trajectoryId instanceId).map TrajectorySegment.uid) now)
        (store.keepInTrajectory trajectoryId
          (remainingByTrajectory (store.trajectoryItems trajectoryId) instanceId)))

def Store.readyInstances (store : Store) (now : ℚ) : List String :=
  store.byInstance.keys.filter fun instanceId =>
    let trajectories :=
      ((store.instanceItems instanceId).map TrajectorySegment.trajectoryId).dedup
    decide (store.minGroupSize ≤ trajectories.length) ||
      decide (store.groupTimeout < now - store.instanceTimestamps.getD instanceId now)

def sliceTo {α : Type} (values : List α) (stop : Int) : List α :=
  if 0 ≤ stop then values.take stop.toNat
  else values.take (values.length + stop).toNat

/-- The loop body of `read_batch` over one drained item: the trajectory list is
written back only while it is nonempty. -/
def removeItem (byTrajectory : OrderedDict String (List TrajectorySegment))
    (item : TrajectorySegment) : OrderedDict String (List TrajectorySegment) :=
  let remaining :=
    (byTrajectory.getD item.trajectoryId []).filter (fun existing => existing.uid ≠ item.uid)
  if remaining = [] then byTrajectory else byTrajectory.set item.trajectoryId remaining

/-- The `else` of the source belongs to the `for`: it runs once, after the last
item, and drops that item's whole trajectory. -/
def dropLastTrajectory (byTrajectory : OrderedDict String (List TrajectorySegment))
    (items : List TrajectorySegment) : OrderedDict String (List TrajectorySegment) :=
  match items.getLast? with
  | some item => byTrajectory.pop item.trajectoryId
  | none => byTrajectory

def batchGroup (items : List TrajectorySegment) : List TrajectorySegment :=
  (((items.map TrajectorySegment.trajectoryId).dedup.flatMap fun trajectoryId =>
    filterSegmentView (items.filter (fun item => item.trajectoryId = trajectoryId)) none)
  ).insertionSort batchOrder

def Store.drainInstance (store : Store) (instanceId : String) : List TrajectorySegment × Store :=
  let items := (store.instanceItems instanceId).insertionSort batchOrder
  (batchGroup items,
    { store with
      byInstance := store.byInstance.pop instanceId
      byTrajectory := dropLastTrajectory (items.foldl removeItem store.byTrajectory) items
      instanceTimestamps := store.instanceTimestamps.pop instanceId })

def Store.drainInstances : Store → List String → List (List TrajectorySegment) × Store
  | store, [] => ([], store)
  | store, instanceId :: rest =>
    let first := store.drainInstance instanceId
    let later := first.2.drainInstances rest
    (first.1 :: later.1, later.2)

def Store.batchInstances (store : Store) (now : ℚ) (maxGroups : Option Int) : List String :=
  match maxGroups with
  | none => store.readyInstances now
  | some stop => sliceTo (store.readyInstances now) stop

def Store.readBatch (store : Store) (now : ℚ) (maxGroups : Option Int) :
    List (List TrajectorySegment) × Store :=
  store.drainInstances (store.batchInstances now maxGroups)

inductive Op
  | write (item : TrajectorySegment)
  | writeMany (records : List (SegmentDict × Uuids))
  | readTrajectory (trajectoryId : String) (instanceId segmentView : Option String)
  | popTrajectory (trajectoryId : String) (instanceId segmentView : Option String)
  | readBatch (maxGroups : Option Int)

structure Event where
  now : ℚ
  op : Op

def Event.written (event : Event) : List TrajectorySegment :=
  match event.op with
  | .write item => [item]
  | .writeMany records => (preparedItems event.now records).toOption.getD []
  | .readTrajectory _ _ _ => []
  | .popTrajectory _ _ _ => []
  | .readBatch _ => []

def Store.step (store : Store) (event : Event) : Store :=
  match event.op with
  | .write item => store.write event.now item
  | .writeMany records => (store.writeMany event.now records).2
  | .readTrajectory _ _ _ => store
  | .popTrajectory trajectoryId instanceId segmentView =>
    (store.popTrajectory event.now trajectoryId instanceId segmentView).2
  | .readBatch maxGroups => (store.readBatch event.now maxGroups).2

def Store.reply (store : Store) (event : Event) : List TrajectorySegment :=
  match event.op with
  | .write _ => []
  | .writeMany _ => []
  | .readTrajectory trajectoryId instanceId segmentView =>
    store.readTrajectory trajectoryId instanceId segmentView
  | .popTrajectory trajectoryId instanceId segmentView =>
    (store.popTrajectory event.now trajectoryId instanceId segmentView).1
  | .readBatch maxGroups => (store.readBatch event.now maxGroups).1.flatten

def Store.drainedBy (store : Store) (event : Event) : List TrajectorySegment :=
  match event.op with
  | .write _ => []
  | .writeMany _ => []
  | .readTrajectory _ _ _ => []
  | .popTrajectory trajectoryId instanceId _ => store.popped trajectoryId instanceId
  | .readBatch maxGroups =>
    (store.batchInstances event.now maxGroups).flatMap store.instanceItems

end Dressage.TrajectoryStore

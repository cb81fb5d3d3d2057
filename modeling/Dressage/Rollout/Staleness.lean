/-
Trajectory-level version staleness of the asynchronous rollouts.

A group's trajectories are dated by the end-token version of their
highest-numbered segment. The tracker keeps the versions it has seen in the
order it saw them, and a group is stale when one of its trajectories is dated
before the last `keep_versions` of them.

A sample whose metadata is missing reads like one with empty metadata, so the
metadata is a record of optional keys.
-/

import Dressage.Lib.OrderedDict
import Dressage.Lib.Text

namespace Dressage.Rollout

open Lib

inductive Status
  | pending
  | completed
  | truncated
  | aborted
  | failed
deriving DecidableEq, Repr

structure Metadata where
  parentTrajId : Option String
  segmentIndex : Option Int
  endTokenVersion : Option String
  sessionId : Option String
  retryCount : Option Int
  lastRetrySessionId : Option String
  startRolloutId : Option Int
  asyncGroupId : Option Nat
  partialRollout : Bool
  returnRolloutId : Option Int
  returnAsyncGroupId : Option Nat
  partialRolloutReturned : Bool
deriving DecidableEq, Repr

structure Sample where
  index : Int
  status : Status
  removeSample : Bool
  responseLength : Int
  lossMask : Option (List Int)
  sessionId : Option String
  metadata : Metadata
deriving DecidableEq, Repr

abbrev Group := List Sample

structure TrajectoryVersionInfo where
  key : String
  version : String
deriving DecidableEq, Repr

structure PendingGroup where
  groupId : Nat
  samples : Group
deriving DecidableEq, Repr

def nonRealVersions : List String := ["", "-1", "unknown", "none"]

def realVersion (value : Option String) : Option String :=
  value.bind fun text =>
    if Text.lower (Text.strip text) ∈ nonRealVersions then none else some (Text.strip text)

def trajectoryKey (sample : Sample) : String := sample.metadata.parentTrajId.getD ""

def segmentIndex (sample : Sample) (order : Nat) : Int × Nat :=
  (sample.metadata.segmentIndex.getD 0, order)

def positionLe (left right : Int × Nat) : Bool :=
  decide (left.1 < right.1 ∨ left.1 = right.1 ∧ left.2 ≤ right.2)

abbrev LatestByKey := OrderedDict String ((Int × Nat) × String)

def noteVersion (latest : LatestByKey) (order : Nat) (sample : Sample) : LatestByKey :=
  match realVersion sample.metadata.endTokenVersion with
  | none => latest
  | some version =>
    if trajectoryKey sample = "" then latest
    else
      match latest.get? (trajectoryKey sample) with
      | none => latest.set (trajectoryKey sample) (segmentIndex sample order, version)
      | some (position, _) =>
        if positionLe position (segmentIndex sample order) then
          latest.set (trajectoryKey sample) (segmentIndex sample order, version)
        else latest

def noteVersions : LatestByKey → Nat → Group → LatestByKey
  | latest, _, [] => latest
  | latest, order, sample :: rest =>
    noteVersions (noteVersion latest order sample) (order + 1) rest

def trajectoryVersionInfos (group : Group) : List TrajectoryVersionInfo :=
  (noteVersions OrderedDict.empty 0 group).entries.map fun entry =>
    { key := entry.1
      version := entry.2.2 }

theorem trajectoryVersionInfos_map {mark : Sample → Sample}
    (unread : ∀ latest order sample,
      noteVersion latest order (mark sample) = noteVersion latest order sample)
    (group : Group) : trajectoryVersionInfos (group.map mark) = trajectoryVersionInfos group := by
  have same : ∀ latest order,
      noteVersions latest order (group.map mark) = noteVersions latest order group := by
    induction group with
    | nil =>
      intro latest order
      rfl
    | cons sample rest ih =>
      intro latest order
      rw [List.map_cons, noteVersions, noteVersions, unread, ih]
  unfold trajectoryVersionInfos
  rw [same]

structure StalenessTracker where
  keepVersions : Option Nat
  versions : List String
deriving DecidableEq, Repr

def StalenessTracker.cutoffVersionIndex (tracker : StalenessTracker) : Option Nat :=
  match tracker.keepVersions with
  | none => none
  | some keep => if tracker.versions = [] then none else some (tracker.versions.length - keep)

def observeVersion (versions : List String) (info : TrajectoryVersionInfo) : List String :=
  if info.version ∈ versions then versions else versions ++ [info.version]

def StalenessTracker.observeGroup (tracker : StalenessTracker) (group : Group) :
    StalenessTracker × Bool :=
  match tracker.keepVersions with
  | none => (tracker, false)
  | some _ =>
    let versions := (trajectoryVersionInfos group).foldl observeVersion tracker.versions
    ({ tracker with versions := versions }, versions.length != tracker.versions.length)

/-- `version_index`; a version never observed is a `ValueError`. -/
def StalenessTracker.versionIndex (tracker : StalenessTracker) (version : String) : Option Nat :=
  if version ∈ tracker.versions then some (tracker.versions.idxOf version) else none

/-- The `any` of `should_drop_group`, left to right; `none` is the `ValueError`. -/
def StalenessTracker.anyBefore (tracker : StalenessTracker) (cutoff : Nat) :
    List TrajectoryVersionInfo → Option Bool
  | [] => some false
  | info :: rest => do
    let index ← tracker.versionIndex info.version
    if index < cutoff then some true else tracker.anyBefore cutoff rest

def StalenessTracker.shouldDropGroup (tracker : StalenessTracker) (group : Group) : Option Bool :=
  match tracker.cutoffVersionIndex with
  | none => some false
  | some cutoff => tracker.anyBefore cutoff (trajectoryVersionInfos group)

def StalenessTracker.keepGroup (tracker : StalenessTracker) (group : Group) : Option Bool :=
  match tracker.keepVersions with
  | none => some true
  | some _ => (tracker.shouldDropGroup group).map not

def StalenessTracker.filterPending (tracker : StalenessTracker) :
    List PendingGroup → Option (List PendingGroup × List Nat)
  | [] => some ([], [])
  | group :: rest => do
    let keep ← tracker.keepGroup group.samples
    let later ← tracker.filterPending rest
    if keep then some (group :: later.1, later.2)
    else some (later.1, group.groupId :: later.2)

end Dressage.Rollout

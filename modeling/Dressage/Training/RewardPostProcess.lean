/-
Reward post-processing of a training batch.

Rewards are normalized once per trajectory: the segment with the highest
segment index is the trajectory's anchor, it enters the statistics of its
group, and its normalized reward is copied to the other live segments. Samples
without a parent trajectory stand for themselves, removed samples stand aside.

Arithmetic is exact: rewards are elements of an ordered field, and the square
root of the standard deviation is a function of that field, given with the
arguments. A sample's metadata that is missing or empty reads like a record of
absent keys. An empty parent id is no parent id.
-/

import Dressage.Lib.Buckets
import Mathlib.Algebra.Order.Field.Basic

namespace Dressage.Training

open Lib

inductive Reward (K : Type)
  | none
  | value (reward : K)
  | table (rewards : List (String × Option K))
deriving DecidableEq, Repr

structure Sample (K : Type) where
  index : Option Int
  reward : Reward K
  groupIndex : Option Int
  removeSample : Bool
  parentTrajId : Option String
  segmentIndex : Option Int
  instanceId : Option String
  rolloutId : Option Int
  tokens : List Nat
  responseLength : Nat
  lossMask : Option (List Int)
  truncated : Bool
deriving DecidableEq, Repr

structure Args (K : Type) where
  rewardKey : Option String
  advantageEstimator : String
  rewardsNormalization : Bool
  grpoStdNormalization : Bool
  globalBatchSize : Int
  sqrt : K → K

namespace Sample

variable {K : Type}

def live (sample : Sample K) : Bool := !sample.removeSample

def parent (sample : Sample K) : Option String :=
  if sample.parentTrajId = some "" then none else sample.parentTrajId

def liveParent (sample : Sample K) : Option String :=
  if sample.removeSample then none else sample.parent

def segment (sample : Sample K) : Int := sample.segmentIndex.getD 0

def group (sample : Sample K) : Int := sample.groupIndex.getD (-1)

end Sample

variable {K : Type} [Field K] [LinearOrder K]

def rawReward (args : Args K) (sample : Sample K) : Option K :=
  match sample.reward with
  | .none => some 0
  | .value reward => some reward
  | .table rewards =>
    match args.rewardKey with
    | none => some 0
    | some key =>
      if key = "" then some 0
      else (OrderedDict.lookup key rewards).map (fun reward => reward.getD 0)

/-- `max(indices, key=_segment_index_of)`: the first index with the highest segment. -/
def highestSegment (samples : List (Sample K)) : List Nat → Option Nat
  | [] => none
  | first :: rest =>
    some (rest.foldl
      (fun best index =>
        if ((samples[best]?).elim 0 Sample.segment) < ((samples[index]?).elim 0 Sample.segment)
        then index else best)
      first)

def parentGroups (samples : List (Sample K)) : OrderedDict String (List Nat) :=
  bucketBy (fun entry : Sample K × Nat => entry.1.liveParent) Prod.snd samples.zipIdx

def parentAnchor (samples : List (Sample K)) (parent : String) : Option Nat :=
  ((parentGroups samples).get? parent).bind (highestSegment samples)

def broadcastTo (samples : List (Sample K)) (values : List K) (entry : String × List Nat) :
    List K :=
  match (parentAnchor samples entry.1).bind (fun anchor => values[anchor]?) with
  | none => values
  | some representative => fillAt values entry.2 representative

def broadcastToSegments (samples : List (Sample K)) (values : List K) : List K :=
  (parentGroups samples).entries.foldl (broadcastTo samples) values

def parentRepresentativeIndices (samples : List (Sample K)) : List Nat :=
  (parentGroups samples).keys.filterMap (parentAnchor samples)

/-- Whether a sample enters its group: it is live and is an anchor or has no parent. -/
def representative (samples : List (Sample K)) (entry : Sample K × Nat) : Bool :=
  entry.1.live && (entry.2 ∈ parentRepresentativeIndices samples || entry.1.parent.isNone)

def groupEntered (samples : List (Sample K)) (entry : Sample K × Nat) : Option Int :=
  if representative samples entry then some entry.1.group else none

def rewardGroups (samples : List (Sample K)) (rawRewards : List K) :
    OrderedDict Int (List (Nat × K)) :=
  bucketBy (groupEntered samples)
    (fun entry => (entry.2, (rawRewards[entry.2]?).getD 0)) samples.zipIdx

def mean (values : List K) : K := values.sum / values.length

def variance (values : List K) : K :=
  (values.map (fun value => (value - mean values) ^ 2)).sum / values.length

def usesStd (args : Args K) : Bool :=
  (args.advantageEstimator = "grpo" || args.advantageEstimator = "gspo") &&
    args.grpoStdNormalization

def normalizedIn (args : Args K) (values : List K) (value : K) : K :=
  if usesStd args ∧ 1 / 10 ^ 6 < args.sqrt (variance values) then
    (value - mean values) / args.sqrt (variance values)
  else value - mean values

def normalizeGroup (args : Args K) (members : List (Nat × K)) : List (Nat × K) :=
  members.map (fun member => (member.1, normalizedIn args (members.map Prod.snd) member.2))

def subtractsMean (args : Args K) : Bool :=
  (args.advantageEstimator = "grpo" || args.advantageEstimator = "gspo" ||
      args.advantageEstimator = "reinforce_plus_plus_baseline") &&
    args.rewardsNormalization

def normalizeRewards (args : Args K) (samples : List (Sample K)) (rawRewards : List K) : List K :=
  (rewardGroups samples rawRewards).entries.foldl
    (fun rewards members => writeAll rewards (normalizeGroup args members.2)) rawRewards

def rewardPostProcess (args : Args K) (samples : List (Sample K)) : Option (List K × List K) := do
  let rawRewards ← samples.mapM (rawReward args)
  if subtractsMean args then
    some (rawRewards, broadcastToSegments samples (normalizeRewards args samples rawRewards))
  else some (rawRewards, broadcastToSegments samples rawRewards)

end Dressage.Training

/-
Conversion of a batch of samples into training data.

The part that gives each sample its loss mask and the denominator its mask is divided by. A
failed assertion is `none`. The keys that are copied through from the samples are left out, and
so are the reward overrides behind the denominators.
-/

import Dressage.Training.Segmentation
import Mathlib.Data.Finset.Card

namespace Dressage.Training

open Lib

variable {K : Type}

def promptEqualEstimators : List String := ["grpo", "reinforce_plus_plus_baseline"]

structure PromptCounts where
  promptTokenCounts : OrderedDict String Int
  realPromptIds : Finset String

def PromptCounts.empty : PromptCounts :=
  { promptTokenCounts := OrderedDict.empty
    realPromptIds := ∅ }

def countPrompt (counts : PromptCounts) (entry : Sample K × List Int) : Option PromptCounts :=
  match entry.1.parentTrajId, entry.1.instanceId with
  | some _, some prompt =>
    if entry.1.removeSample then some counts
    else if entry.1.groupIndex = none then none
    else some
      { promptTokenCounts := counts.promptTokenCounts.set prompt
          (counts.promptTokenCounts.getD prompt 0 + entry.2.sum)
        realPromptIds := insert prompt counts.realPromptIds }
  | _, _ => none

variable [Field K]

/-- The factor `N_P / gbs`, zero without live prompts or without a batch size. -/
def promptScale (args : Args K) (counts : PromptCounts) : K :=
  if 0 < args.globalBatchSize ∧ 0 < counts.realPromptIds.card then
    (counts.realPromptIds.card : K) / (args.globalBatchSize : K)
  else 0

def promptEqualRolloutMaskSums (args : Args K) (samples : List (Sample K))
    (lossMasks : List (List Int)) : Option (List K) := do
  let counts ← (samples.zip lossMasks).foldlM countPrompt PromptCounts.empty
  some (samples.map (fun sample =>
    ((counts.promptTokenCounts.getD (sample.instanceId.getD "") 0 : Int) : K) *
      promptScale args counts))

def lossMaskOf (sample : Sample K) : Option (List Int) :=
  let mask := sample.lossMask.getD (List.replicate sample.responseLength 1)
  if mask.length = sample.responseLength then
    some (if sample.removeSample then List.replicate sample.responseLength 0 else mask)
  else none

def freeId (next : Int) (taken : List Int) : Int :=
  (((List.range (taken.length + 1)).map (fun offset => next + (offset : Int))).find?
    (fun candidate => candidate ∉ taken)).getD next

def fillRolloutIds : Int → List Int → List (Option Int) → List Int
  | _, _, [] => []
  | next, taken, some id :: rest => id :: fillRolloutIds next taken rest
  | next, taken, none :: rest =>
    freeId next taken :: fillRolloutIds (freeId next taken) (freeId next taken :: taken) rest

def rolloutTotalMask (rolloutIds : List Int) (lossMasks : List (List Int)) : OrderedDict Int Int :=
  (rolloutIds.zip (lossMasks.map List.sum)).foldl
    (fun totals entry => totals.set entry.1 (totals.getD entry.1 0 + entry.2)) OrderedDict.empty

structure TrainData (K : Type) where
  tokens : List (List Nat)
  responseLengths : List Nat
  rewards : List K
  rawReward : List K
  truncated : List Nat
  sampleIndices : List (Option Int)
  rolloutIds : List Int
  lossMasks : List (List Int)
  rolloutMaskSums : List K
deriving DecidableEq

def rolloutMaskSums (args : Args K) (samples : List (Sample K)) (rolloutIds : List Int)
    (lossMasks : List (List Int)) : Option (List K) :=
  if args.advantageEstimator ∈ promptEqualEstimators then
    promptEqualRolloutMaskSums args samples lossMasks
  else
    some (rolloutIds.map (fun id =>
      (((rolloutTotalMask rolloutIds lossMasks).getD id 0 : Int) : K)))

variable [LinearOrder K]

def convertSamplesToTrainData (args : Args K) (samples : List (Sample K)) :
    Option (TrainData K) := do
  let (rawRewards, rewards) ← rewardPostProcess args samples
  let rolloutIds := fillRolloutIds 0 (samples.filterMap Sample.rolloutId)
    (samples.map Sample.rolloutId)
  let lossMasks ← samples.mapM lossMaskOf
  let maskSums ← rolloutMaskSums args samples rolloutIds lossMasks
  some
    { tokens := samples.map Sample.tokens
      responseLengths := samples.map Sample.responseLength
      rewards := rewards
      rawReward := rawRewards
      truncated := samples.map (fun sample => if sample.truncated then 1 else 0)
      sampleIndices := samples.map Sample.index
      rolloutIds := rolloutIds
      lossMasks := lossMasks
      rolloutMaskSums := maskSums }

end Dressage.Training

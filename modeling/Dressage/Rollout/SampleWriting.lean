/-
Writing a training sample from a published segment.

The rollout cuts a segment to the trainer's token cap and fills the sample from
it. A column that was offloaded stays where it is: the sample keeps the layout
that says where its values lie, under the name of the field.

Of a sample only what training reads is kept: message texts and the version
spans in its metadata are left out. Routed experts are rows of int32 cells, one
row for each token but the last.
-/

import Dressage.Proxy.TrainingColumns
import Dressage.Proxy.TrajectoryStore

namespace Dressage.Rollout

open Lib Transport Proxy

variable {Message Tool : Type}

structure SampleArgs where
  maxTokensPerGpu : Option Int
  contextParallelSize : Option Int
  cpSize : Option Int
  numLayers : Option Nat
  moeRouterTopk : Option Nat
  useRolloutRoutingReplay : Bool
deriving DecidableEq

inductive SampleStatus
  | completed
  | truncated
deriving DecidableEq

abbrev LayoutBundle := OrderedDict String Layout

structure TrainingSample where
  tokens : List Nat
  responseLength : Nat
  lossMask : List Nat
  rolloutLogProbs : Option (List Logprob)
  rolloutRoutedExperts : Option (List (List Int))
  /-- `metadata["dressage_tq_sample_ref"]`, empty when the key is absent. -/
  layouts : LayoutBundle
  truncated : Bool
  status : SampleStatus

structure SegmentArrays where
  tokens : List Nat
  fullLossMask : List Nat
  fullLogprobs : RecordField (List Logprob)
  fullVersions : Option (List String)

def tokensMismatch (count : Nat) (name : String) (other : Nat) : String :=
  s!"tokens length {count} != {name} length {other}"

def normalizeSegmentLossMask (mask : List Nat) : Except String (List Nat) :=
  match mask.zipIdx.find? (fun entry => entry.1 ≠ 0 ∧ entry.1 ≠ 1) with
  | none => .ok mask
  | some (value, index) => .error s!"full_loss_mask[{index}] is not 0 or 1: {value}"

def logprobsCount : RecordField (List Logprob) → Nat
  | .values values => values.length
  | .layout plan => plan.tokenCount

def logprobsName : RecordField (List Logprob) → String
  | .values _ => "full_logprobs"
  | .layout _ => "full_logprobs layout"

def segmentArrays (segment : TrainingRecord Message Tool) : Except String SegmentArrays := do
  let tokens := segment.record.tokens
  let mask ← normalizeSegmentLossMask segment.record.fullLossMask
  if tokens = [] then .error "selected segment has empty tokens"
  else if tokens.length ≠ mask.length then
    .error (tokensMismatch tokens.length "full_loss_mask" mask.length)
  else if tokens.length ≠ logprobsCount segment.fullLogprobs then
    .error (tokensMismatch tokens.length (logprobsName segment.fullLogprobs)
      (logprobsCount segment.fullLogprobs))
  else if segment.record.fullVersions.any (fun versions => versions.length ≠ tokens.length) then
    .error (tokensMismatch tokens.length "full_versions"
      (segment.record.fullVersions.getD []).length)
  else
    .ok
      { tokens := tokens
        fullLossMask := mask
        fullLogprobs := segment.fullLogprobs
        fullVersions := segment.record.fullVersions }

def segmentTokenCap (args : SampleArgs) : Option Int :=
  args.maxTokensPerGpu.map fun tokens =>
    tokens * (args.contextParallelSize.getD (args.cpSize.getD 1))

def isTruncated (cap : Option Int) (count : Nat) : Bool :=
  match cap with
  | none => false
  | some stop => decide (stop < (count : Int))

def capped {α : Type} (cap : Option Int) (count : Nat) (values : List α) : List α :=
  match cap with
  | none => values
  | some stop => if stop < (count : Int) then TrajectoryStore.sliceTo values stop else values

/-- A layout keeps its fragments: it is cut when it is read. -/
def cappedLogprobs (cap : Option Int) (count : Nat) :
    RecordField (List Logprob) → RecordField (List Logprob)
  | .values values => .values (capped cap count values)
  | .layout plan => .layout plan

def cappedArrays (args : SampleArgs) (arrays : SegmentArrays) : SegmentArrays :=
  let cap := segmentTokenCap args
  let count := arrays.tokens.length
  { tokens := capped cap count arrays.tokens
    fullLossMask := capped cap count arrays.fullLossMask
    fullLogprobs := cappedLogprobs cap count arrays.fullLogprobs
    fullVersions := arrays.fullVersions.map (capped cap count) }

def isRealOutputVersion (version : String) : Bool :=
  decide (Text.lower (Text.strip version) ∉ nonRealTokenVersions)

def trainableOutputVersions (mask : List Nat) (versions : List String) : List String :=
  ((mask.zip versions).filter (fun entry =>
    decide (entry.1 = 1) && isRealOutputVersion entry.2)).map Prod.snd

def maskNonlastVersionTokens (mask : List Nat) (versions : List String) : List Nat :=
  let trainable := trainableOutputVersions mask versions
  match trainable.getLast? with
  | none => mask
  | some last =>
    if trainable.all (fun version => version = last) then mask
    else (mask.zip versions).map (fun entry =>
      if entry.1 = 1 ∧ isRealOutputVersion entry.2 = true ∧ entry.2 = last then 1 else 0)

def trainFullLossMask (segment : TrainingRecord Message Tool) (arrays : SegmentArrays) : List Nat :=
  match arrays.fullVersions with
  | none => arrays.fullLossMask
  | some versions =>
    if segment.record.extraInfo.maskNonlastVersionTokens then
      maskNonlastVersionTokens arrays.fullLossMask versions
    else arrays.fullLossMask

def responseStart (arrays : SegmentArrays) : Nat :=
  (arrays.fullLossMask.findIdx? (fun value => value = 1)).getD arrays.tokens.length

def rowsOfWidth (width count : Nat) (data : List Int) : List (List Int) :=
  (List.range count).map (fun row => (data.drop (row * width)).take width)

def decodeChunk (numLayers topk : Nat) (chunk : ExpertChunk) : Except String (List (List Int)) :=
  let width := numLayers * topk
  if width = 0 ∨ chunk.data.length % width ≠ 0 then
    .error (s!"cannot reshape array of size {chunk.data.length} " ++
      s!"into shape ({numLayers},{topk})")
  else if chunk.data.length / width ≠ chunk.rowCount then
    .error ("routed_experts chunk row count does not match its payload: " ++
      s!"expected={chunk.rowCount}, actual={chunk.data.length / width}")
  else .ok (rowsOfWidth width chunk.rowCount chunk.data)

def extractRoutedExperts (args : SampleArgs) (chunks : List ExpertChunk)
    (expectedTokenCount : Nat) : Except String (Option (List (List Int))) :=
  match args.numLayers, args.moeRouterTopk with
  | some numLayers, some topk =>
    if chunks = [] then .ok none
    else do
      let arrays ← buildAll (decodeChunk numLayers topk) chunks
      let result := arrays.flatten
      -- Without an expected count the rows are neither checked nor cut.
      if expectedTokenCount = 0 then .ok (some result)
      else if result.length < expectedTokenCount - 1 then
        .error ("routed_experts length does not match trajectory tokens: " ++
          s!"expected_at_least={expectedTokenCount - 1}, actual={result.length}")
      else .ok (some (result.take (expectedTokenCount - 1)))
  | _, _ => .ok none

def missingExperts : String :=
  "use_rollout_routing_replay is enabled but segment contains no routed_experts. " ++
    "Pass --use-rollout-routing-replay when starting the Dressage proxy."

def writtenExperts (args : SampleArgs) (field : Option (RecordField (List ExpertChunk)))
    (tokenCount : Nat) : Except String (Option (List (List Int))) :=
  match field with
  | some (.layout _) => .ok none
  | some (.values chunks) => do
    let rows ← extractRoutedExperts args chunks tokenCount
    if rows.isNone && args.useRolloutRoutingReplay then .error missingExperts else .ok rows
  | none => if args.useRolloutRoutingReplay then .error missingExperts else .ok none

def logprobLayouts : RecordField (List Logprob) → LayoutBundle
  | .values _ => OrderedDict.empty
  | .layout plan => OrderedDict.empty.set plan.logicalField plan

def keptLayouts (logprobs : RecordField (List Logprob))
    (experts : Option (RecordField (List ExpertChunk))) : LayoutBundle :=
  match experts with
  | some (.layout plan) => (logprobLayouts logprobs).set plan.logicalField plan
  | _ => logprobLayouts logprobs

def writtenLogprobs (arrays : SegmentArrays) : Option (List Logprob) :=
  match arrays.fullLogprobs with
  | .layout _ => none
  | .values values => some (values.drop (responseStart arrays))

def writeSampleFromSegment (args : SampleArgs) (segment : TrainingRecord Message Tool) :
    Except String TrainingSample := do
  let whole ← segmentArrays segment
  let arrays := cappedArrays args whole
  let start := responseStart arrays
  let responseLength := arrays.tokens.length - start
  let lossMask := (trainFullLossMask segment arrays).drop start
  let logprobs := writtenLogprobs arrays
  if lossMask.length ≠ responseLength then
    .error s!"loss_mask length {lossMask.length} != response_length {responseLength}"
  else if logprobs.any (fun values => values.length ≠ responseLength) then
    .error (s!"rollout_log_probs length {(logprobs.getD []).length} " ++
      s!"!= response_length {responseLength}")
  else do
    let experts ← writtenExperts args segment.routedExperts arrays.tokens.length
    .ok
      { tokens := arrays.tokens
        responseLength := responseLength
        lossMask := lossMask
        rolloutLogProbs := logprobs
        rolloutRoutedExperts := experts
        layouts := keptLayouts arrays.fullLogprobs segment.routedExperts
        truncated := isTruncated (segmentTokenCap args) whole.tokens.length
        status :=
          if segment.record.finishReason = "length" then .truncated else .completed }

end Dressage.Rollout

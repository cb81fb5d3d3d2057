/-
Reading offloaded columns back for training.

The trainer hydrates a shard of samples: for each field that is remote it reads
the columns the samples' layouts refer to and copies them, fragment by fragment,
into arrays of zeros that are as long as the samples were cut. Float tensors are
lists of rationals and the shapes of tensors are left to their widths.

TransferQueue itself is the store the proxy wrote: a batch that asks for a key
it does not have comes back short.
-/

import Dressage.Rollout.SampleWriting

namespace Dressage.Training

open Lib Transport Proxy Rollout

inductive ColumnValue
  | logprobs (entries : List LogprobEntry)
  | experts (chunks : List ExpertChunk)
deriving DecidableEq

def readColumn (store : OrderedDict Nat StepColumns) (ref : ColumnRef) : Option ColumnValue :=
  (store.get? ref.key).map fun columns =>
    match ref.field with
    | .responseLogprobs => .logprobs columns.responseLogprobs
    | .concatResponseLogprobs => .logprobs (columns.concatResponseLogprobs.map .number)
    | .routedExperts => .experts columns.routedExperts

def fullLogprobsField : String := "full_logprobs"

def routedExpertsField : String := "routed_experts"

def decodeLayoutBundle (bundle : LayoutBundle) : Except String LayoutBundle :=
  if bundle.entries.any (fun entry => entry.2.logicalField ≠ entry.1) then
    .error "TransferQueue layout logical field does not match"
  else .ok bundle

def remoteFieldsFromLayouts (bundles : List LayoutBundle) : List String :=
  bundles.flatMap OrderedDict.keys

def requestedRefs (bundles : List LayoutBundle) (fields : List String) : List ColumnRef :=
  bundles.flatMap fun bundle =>
    fields.flatMap fun field =>
      match bundle.get? field with
      | none => []
      | some plan => plan.fragments.map Fragments.Fragment.ref

def readLayoutValues (store : OrderedDict Nat StepColumns) (bundles : List LayoutBundle)
    (fields : List String) : Except String (ColumnRef → Option ColumnValue) :=
  if (requestedRefs bundles fields).all (fun ref => (readColumn store ref).isSome) then
    .ok (readColumn store)
  else .error "TransferQueue returned an unexpected field value count"

def logprobColumn (values : ColumnRef → Option ColumnValue) (ref : ColumnRef) :
    Except String (List LogprobEntry) :=
  match values ref with
  | some (.logprobs entries) => .ok entries
  | some (.experts _) => .error "TypeError"
  | none => .error "KeyError"

/-- The copy of one fragment; one that starts behind the sample is not read. -/
def copyLogprobs (values : ColumnRef → Option ColumnValue) (tokenCount : Nat)
    (fragment : Fragments.Fragment ColumnRef) (output : List Logprob) :
    Except String (List Logprob) :=
  let copyLength := fragment.copyLength tokenCount
  if copyLength = 0 then .ok output
  else do
    let entries ← logprobColumn values fragment.ref
    let source := ((entries.drop fragment.sourceStart).take copyLength).map LogprobEntry.toFloat
    .ok (Fragments.overwrite output fragment.targetStart source)

def copyAllLogprobs (values : ColumnRef → Option ColumnValue) (tokenCount : Nat) :
    List (Fragments.Fragment ColumnRef) → List Logprob → Except String (List Logprob)
  | [], output => .ok output
  | fragment :: rest, output => do
    let next ← copyLogprobs values tokenCount fragment output
    copyAllLogprobs values tokenCount rest next

def materializeLogprobs (plan : Layout) (values : ColumnRef → Option ColumnValue)
    (tokenCount : Nat) : Except String (List Logprob) :=
  if plan.codec ≠ tqLogprobsCodec then
    .error "TransferQueue logprob layout codec does not match"
  else if plan.tokenCount < tokenCount then
    .error "TransferQueue logprob layout is shorter than the sample"
  else copyAllLogprobs values tokenCount plan.fragments (List.replicate tokenCount 0)

def decodeStoredChunk (width : Nat) (chunk : ExpertChunk) : Except String (List (List Int)) :=
  if chunk.data.length ≠ chunk.rowCount * width then
    .error "TransferQueue routed experts chunk shape does not match"
  else .ok (rowsOfWidth width chunk.rowCount chunk.data)

def decodeRoutedExpertsChunks (chunks : List ExpertChunk) (width : Nat) :
    Except String (List (List Int)) := do
  let arrays ← buildAll (decodeStoredChunk width) chunks
  .ok arrays.flatten

def expertsColumn (values : ColumnRef → Option ColumnValue) (ref : ColumnRef) :
    Except String (List ExpertChunk) :=
  match values ref with
  | some (.experts chunks) => .ok chunks
  | some (.logprobs _) => .error "TypeError"
  | none => .error "KeyError"

def copyExperts (values : ColumnRef → Option ColumnValue) (width targetRows : Nat)
    (fragment : Fragments.Fragment ColumnRef) (output : List (List Int)) :
    Except String (List (List Int)) := do
  let chunks ← expertsColumn values fragment.ref
  let source ← decodeRoutedExpertsChunks chunks width
  if source.length < fragment.sourceStart + fragment.length then
    .error "TransferQueue routed experts fragment is shorter than its layout"
  else
    .ok (Fragments.overwrite output fragment.targetStart
      ((source.drop fragment.sourceStart).take (fragment.copyLength targetRows)))

def copyAllExperts (values : ColumnRef → Option ColumnValue) (width targetRows : Nat) :
    List (Fragments.Fragment ColumnRef) → List (List Int) → Except String (List (List Int))
  | [], output => .ok output
  | fragment :: rest, output => do
    let next ← copyExperts values width targetRows fragment output
    copyAllExperts values width targetRows rest next

def zeroRow (width : Nat) : List Int := List.replicate width 0

def materializeRoutedExperts (plan : Layout) (values : ColumnRef → Option ColumnValue)
    (tokenCount numLayers topk : Nat) : Except String (List (List Int)) :=
  if plan.codec ≠ tqRoutedExpertsCodec then
    .error "TransferQueue routed experts layout codec does not match"
  else if plan.tokenCount < tokenCount then
    .error "TransferQueue routed experts layout is shorter than the sample"
  else
    copyAllExperts values (numLayers * topk) (tokenCount - 1) plan.fragments
      (List.replicate (tokenCount - 1) (zeroRow (numLayers * topk)))

abbrev LogprobTransform := List Logprob → Nat → Nat → List Logprob

/-- What hydration reads of one sample of the shard. -/
structure ShardRow where
  bundle : LayoutBundle
  totalLength : Nat
  responseLength : Nat

def shardRow (sample : TrainingSample) : ShardRow :=
  { bundle := sample.layouts
    totalLength := sample.tokens.length
    responseLength := sample.responseLength }

structure Hydrated where
  rolloutLogProbs : Option (List (List Logprob))
  rolloutRoutedExperts : Option (List (List (List Int)))
deriving DecidableEq

def transformed (transform : Option LogprobTransform) (response : List Logprob)
    (totalLength responseLength : Nat) : List Logprob :=
  match transform with
  | none => response
  | some change => change response totalLength responseLength

def hydrateLogprobs (values : ColumnRef → Option ColumnValue)
    (transform : Option LogprobTransform) (row : ShardRow) : Except String (List Logprob) := do
  let response ←
    match row.bundle.get? fullLogprobsField with
    | none => .ok (List.replicate row.responseLength 0)
    | some plan => do
      let full ← materializeLogprobs plan values row.totalLength
      .ok ((full.take row.totalLength).drop (row.totalLength - row.responseLength))
  .ok (transformed transform response row.totalLength row.responseLength)

def hydrateExperts (values : ColumnRef → Option ColumnValue) (numLayers topk : Nat)
    (row : ShardRow) : Except String (List (List Int)) :=
  match row.bundle.get? routedExpertsField with
  | none => .ok (List.replicate (row.totalLength - 1) (zeroRow (numLayers * topk)))
  | some plan => materializeRoutedExperts plan values row.totalLength numLayers topk

def expertShape (args : SampleArgs) : Except String (Nat × Nat) :=
  match args.numLayers, args.moeRouterTopk with
  | some numLayers, some topk => .ok (numLayers, topk)
  | _, _ => .error "int() argument must be a string, a bytes-like object or a real number"

def fieldsToRead (args : SampleArgs) (remoteFields : List String) : List String :=
  if args.useRolloutRoutingReplay then remoteFields
  else remoteFields.filter (fun field => field ≠ routedExpertsField)

def shardLogprobs (values : ColumnRef → Option ColumnValue) (transform : Option LogprobTransform)
    (fields : List String) (rows : List ShardRow) : Except String (Option (List (List Logprob))) :=
  if fullLogprobsField ∈ fields then do
    let lists ← buildAll (hydrateLogprobs values transform) rows
    .ok (some lists)
  else .ok none

def shardExperts (args : SampleArgs) (values : ColumnRef → Option ColumnValue)
    (fields : List String) (rows : List ShardRow) :
    Except String (Option (List (List (List Int)))) :=
  if routedExpertsField ∈ fields then do
    let shape ← expertShape args
    let lists ← buildAll (hydrateExperts values shape.1 shape.2) rows
    .ok (some lists)
  else .ok none

def hydrateTrainingLayouts (args : SampleArgs) (store : OrderedDict Nat StepColumns)
    (rows : List ShardRow) (remoteFields : List String) (transform : Option LogprobTransform) :
    Except String Hydrated := do
  let bundles ← buildAll decodeLayoutBundle (rows.map ShardRow.bundle)
  let fields := fieldsToRead args remoteFields
  let values ← readLayoutValues store bundles fields
  let logprobs ← shardLogprobs values transform fields rows
  let experts ← shardExperts args values fields rows
  .ok
    { rolloutLogProbs := logprobs
      rolloutRoutedExperts := experts }

/-- Hydrated values where there are some, and those of the samples otherwise. -/
def trainedOn {α : Type} (hydrated : Option (List α)) (written : List (Option α)) :
    List (Option α) :=
  match hydrated with
  | some values => values.map some
  | none => written

end Dressage.Training

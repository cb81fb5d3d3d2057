/-
The prompt source of synchronous Harbor training.

A source walks its registry of task-agent entries epoch by epoch, in an order
recomputed from the seed and the epoch on every draw, and hands out groups of
samples under consecutive indices. Its cursor is saved as JSON; loading checks
the file against the configuration before it touches the source.

Hashes, file locations and the generator behind `random.Random` are answered
by the runtime. How a configuration is read and resolved, runtime fingerprints
and counts that are no integers are left out; a configuration is one the
constructor accepted.
-/

import Dressage.Lib.Effects
import Dressage.Lib.OrderedDict
import Dressage.Lib.Text

namespace Dressage.Harbor.DataSource

open Lib Lib.Effect

structure HarborPromptSpec where
  specId : String
  taskId : String
  agentId : String
  taskUri : String
  publicFingerprint : String
  integrationFingerprint : String
  occurrenceIndex : Nat
  scope : String
deriving DecidableEq, Repr

structure HarborConfig (Job : Type) where
  job : Job
  evalJob : Option Job
  specs : List HarborPromptSpec
  evalSpecs : List HarborPromptSpec
  integrationFingerprint : String
  nSamplesPerPrompt : Nat
  nSamplesPerEvalPrompt : Nat
  rolloutSeed : Int
  rolloutShuffle : Bool
  runId : Option String
  harborDataSourceCheckpointDir : Option String
  save : Option String
  load : Option String
  resolved : specs ≠ []
  evalResolved : evalSpecs = [] ↔ evalJob = none
  distinct : ((specs ++ evalSpecs).map HarborPromptSpec.specId).Nodup
  positive : 0 < nSamplesPerPrompt
  evalPositive : 0 < nSamplesPerEvalPrompt

structure Runtime (Job : Type) where
  /-- `_source_digest` of a job, the samples of a prompt, the seed and whether to shuffle. -/
  sourceDigest : Job → Nat → Int → Bool → String
  registryDigest : List HarborPromptSpec → String
  sha256 : String → String
  locate : String → List String → String
  /-- `randbelow(index + 1)` while a list of this length is shuffled from this seed. -/
  randbelow : Int → Nat → (index : Nat) → Fin (index + 1)

inductive Json
  | null
  | bool (value : Bool)
  | integer (value : Int)
  | float (literal : String)
  | text (value : String)
  | array (items : List Json)
  | object (entries : List (String × Json))

def field (entries : List (String × Json)) (key : String) : Json :=
  match entries.find? (fun entry => entry.1 = key) with
  | none => .null
  | some entry => entry.2

def optionalText : Option String → Json
  | none => .null
  | some text => .text text

def Json.equals : Json → Option String → Bool
  | .null, none => true
  | .text value, some expected => decide (value = expected)
  | _, _ => false

inductive Operation
  | save
  | load
deriving DecidableEq, Repr

inductive RolloutId
  | integer (value : Int)
  | text (value : String)
deriving DecidableEq, Repr

def RolloutId.label : RolloutId → String
  | .integer value => toString value
  | .text value => value

inductive SourceFailure
  | negativeCount
  | evalNotConfigured
  | emptyString (name : String)
  | indexError
  | rolloutIdRequired
  | invalidRolloutId (rolloutId : RolloutId)
  | rootRequired (operation : Operation)
  | checkpointMissing (path : String)
  | checkpointUnreadable (path message : String)
  | rootNotObject
  | drift (key : String)
  | runIdInvalid
  | runIdMismatch
  | lastBatchNotObject
  | lastBatchInvalid (key : String)
  | stateNotObject
  | stateInvalid (key : String)
  | cursorExceedsRegistry
  | uncaught (message : String)
deriving DecidableEq, Repr

structure HarborDataSource (Job : Type) where
  config : HarborConfig Job
  runId : String
  epochId : Nat
  sampleOffset : Nat
  sampleGroupIndex : Nat
  sampleIndex : Nat
  lastBatchWeightVersion : Option String
  lastRuntimeIncarnation : Option String

variable {Job : Type} (runtime : Runtime Job)

def HarborConfig.runIdExplicit (config : HarborConfig Job) : Bool :=
  match config.runId with
  | none => false
  | some runId => decide (runId ≠ "")

/-- `HarborDataSource(args)`; an unnamed run is named by a fresh uuid. -/
def HarborDataSource.create (config : HarborConfig Job) (uuidHex : String) : HarborDataSource Job :=
  { config := config
    runId := if config.runIdExplicit then config.runId.getD "" else uuidHex
    epochId := 0
    sampleOffset := 0
    sampleGroupIndex := 0
    sampleIndex := 0
    lastBatchWeightVersion := none
    lastRuntimeIncarnation := none }

/-- `shuffle` below an index: from the back, each place is swapped with one not behind it. -/
def shuffleFrom (randbelow : (index : Nat) → Fin (index + 1)) : Nat → Array Nat → Array Nat
  | 0, order => order
  | index + 1, order =>
    shuffleFrom randbelow index (order.swapIfInBounds (index + 1) (randbelow (index + 1)))

def shuffle (seed : Int) (order : Array Nat) : Array Nat :=
  shuffleFrom (runtime.randbelow seed order.size) (order.size - 1) order

def epochOrder (config : HarborConfig Job) (epochId : Nat) : Array Nat :=
  if config.rolloutShuffle then
    shuffle runtime (config.rolloutSeed + epochId) (Array.range config.specs.length)
  else Array.range config.specs.length

structure Sample where
  groupIndex : Int
  index : Int
  prompt : String
  harborSpecId : String
  harborTaskId : String
  harborAgentId : String
  harborAttemptSlot : Nat
  harborInstanceId : String
deriving DecidableEq, Repr

abbrev Group := List Sample

def instanceId (runId scope : String) (groupIndex : Nat) (specId : String) : String :=
  "instance-" ++ String.ofList ((runtime.sha256 (runId ++ "\x00" ++ scope ++ "\x00" ++
    toString groupIndex ++ "\x00" ++ specId)).toList.take 24)

/-- `_sample_group`; evaluation counts its indices downwards. -/
def sampleGroup (spec : HarborPromptSpec) (nAttempts : Nat) (groupIndex firstSampleIndex : Int)
    (instanceId : String) (descendingIndices : Bool) : Group :=
  (List.range nAttempts).map (fun attemptSlot : Nat =>
    { groupIndex := groupIndex
      index :=
        if descendingIndices then firstSampleIndex - attemptSlot
        else firstSampleIndex + attemptSlot
      prompt := spec.taskUri
      harborSpecId := spec.specId
      harborTaskId := spec.taskId
      harborAgentId := spec.agentId
      harborAttemptSlot := attemptSlot
      harborInstanceId := instanceId })

abbrev SourceEffect (Job α : Type) : Type := Effect (HarborDataSource Job) SourceFailure α

def nextTrainingSpec : SourceEffect Job HarborPromptSpec := do
  Effect.modify (fun source =>
    if source.config.specs.length ≤ source.sampleOffset then
      { source with
        epochId := source.epochId + 1
        sampleOffset := 0 }
    else source)
  let source ← Effect.get
  match (epochOrder runtime source.config source.epochId)[source.sampleOffset]?.bind
    (fun position => source.config.specs[position]?) with
  | none => Effect.fail .indexError
  | some spec => do
    Effect.modify (fun current => { current with sampleOffset := current.sampleOffset + 1 })
    pure spec

def nextGroup : SourceEffect Job Group := do
  let spec ← nextTrainingSpec runtime
  let source ← Effect.get
  let group := sampleGroup spec source.config.nSamplesPerPrompt source.sampleGroupIndex
    source.sampleIndex
    (instanceId runtime source.runId "train" source.sampleGroupIndex spec.specId) false
  Effect.modify (fun current =>
    { current with
      sampleGroupIndex := current.sampleGroupIndex + 1
      sampleIndex := current.sampleIndex + group.length })
  pure group

def nextGroups : Nat → SourceEffect Job (List Group)
  | 0 => pure []
  | count + 1 => do
    let group ← nextGroup runtime
    let groups ← nextGroups count
    pure (group :: groups)

def nonnegativeCount (value : Int) : Except SourceFailure Nat :=
  if value < 0 then .error .negativeCount else .ok value.toNat

def getSamples (numSamples : Int) : SourceEffect Job (List Group) := do
  let count ← Effect.ofExcept (nonnegativeCount numSamples)
  nextGroups runtime count

def evalGroup (source : HarborDataSource Job) (position : Nat) : Except SourceFailure Group :=
  match source.config.evalSpecs[position % source.config.evalSpecs.length]? with
  | none => .error .indexError
  | some spec =>
    .ok (sampleGroup spec source.config.nSamplesPerEvalPrompt (-(position + 1))
      (-(position * source.config.nSamplesPerEvalPrompt + 1))
      (instanceId runtime source.runId "eval" position spec.specId) true)

def getEvalSamples (numSamples : Option Int) : SourceEffect Job (List Group) := do
  let source ← Effect.get
  Effect.failIf (source.config.evalSpecs = []) .evalNotConfigured
  let count ← Effect.ofExcept
    (match numSamples with
    | none => .ok source.config.evalSpecs.length
    | some count => nonnegativeCount count)
  Effect.ofExcept ((List.range count).mapM (evalGroup runtime source))

def optionalNonemptyString (value : Option String) (name : String) :
    Except SourceFailure (Option String) :=
  match value with
  | none => .ok none
  | some text =>
    if Text.strip text = "" then .error (.emptyString name) else .ok (some text)

def recordBatchState (weightVersion runtimeIncarnation : Option String) :
    SourceEffect Job Unit := do
  let validatedWeightVersion ← Effect.ofExcept
    (optionalNonemptyString weightVersion "weight_version")
  let validatedRuntimeIncarnation ← Effect.ofExcept
    (optionalNonemptyString runtimeIncarnation "runtime_incarnation")
  Effect.modify (fun source =>
    { source with
      lastBatchWeightVersion := validatedWeightVersion
      lastRuntimeIncarnation := validatedRuntimeIncarnation })

def checkpointSchemaVersion : String := "dressage.harbor.data-source/v1"

def HarborDataSource.evalSourceDigest (source : HarborDataSource Job) : Option String :=
  source.config.evalJob.map (fun job =>
    runtime.sourceDigest job source.config.nSamplesPerEvalPrompt source.config.rolloutSeed false)

def HarborDataSource.evalResolvedDigest (source : HarborDataSource Job) : Option String :=
  if source.config.evalSpecs = [] then none
  else some (runtime.registryDigest source.config.evalSpecs)

def HarborDataSource.expected (source : HarborDataSource Job) : List (String × Option String) :=
  [("schema_version", some checkpointSchemaVersion),
    ("source_digest", some (runtime.sourceDigest source.config.job
      source.config.nSamplesPerPrompt source.config.rolloutSeed source.config.rolloutShuffle)),
    ("integration_fingerprint", some source.config.integrationFingerprint),
    ("resolved_digest", some (runtime.registryDigest source.config.specs)),
    ("eval_source_digest", source.evalSourceDigest runtime),
    ("eval_resolved_digest", source.evalResolvedDigest runtime)]

def HarborDataSource.payload (source : HarborDataSource Job) : Json :=
  .object ((source.expected runtime).map (fun entry => (entry.1, optionalText entry.2)) ++
    [("run_id", .text source.runId),
      ("last_batch", .object
        [("weight_version", optionalText source.lastBatchWeightVersion),
          ("runtime_incarnation", optionalText source.lastRuntimeIncarnation)]),
      ("state", .object
        [("epoch", .integer source.epochId),
          ("cursor", .integer source.sampleOffset),
          ("group_index", .integer source.sampleGroupIndex),
          ("sample_index", .integer source.sampleIndex)])])

def safeCheckpointChar (char : Char) : Bool :=
  char.isAlphanum || char = '_' || char = '.' || char = '-'

def safeCheckpointId (label : String) : Bool :=
  !label.isEmpty && label.toList.all safeCheckpointChar && label ≠ "." && label ≠ ".."

def givenRoot : Option String → Option String
  | none => none
  | some root => if root = "" then none else some root

def HarborDataSource.checkpointPath (source : HarborDataSource Job) (rolloutId : RolloutId)
    (operation : Operation) : Except SourceFailure String :=
  let filename := "harbor_data_source_state_" ++ rolloutId.label ++ ".json"
  if safeCheckpointId rolloutId.label then
    match givenRoot source.config.harborDataSourceCheckpointDir with
    | some root => .ok (runtime.locate root [filename])
    | none =>
      match givenRoot (match operation with
        | .save => source.config.save
        | .load => source.config.load) with
      | some root => .ok (runtime.locate root ["rollout", filename])
      | none => .error (.rootRequired operation)
  else .error (.invalidRolloutId rolloutId)

/-- What reading and decoding a file gives. Some exceptions of reading are wrapped, others
leave `load` as they are. -/
inductive FileContent
  | decoded (value : Json)
  | unreadable (message : String)
  | raises (message : String)

abbrev Files := OrderedDict String FileContent

def save (source : HarborDataSource Job) (rolloutId : RolloutId) (written : Except String Unit)
    (files : Files) : Except SourceFailure Files := do
  let path ← source.checkpointPath runtime rolloutId .save
  match written with
  | .error message => .error (.uncaught message)
  | .ok () => .ok (files.set path (.decoded (source.payload runtime)))

structure Restored where
  runId : String
  epoch : Nat
  cursor : Nat
  groupIndex : Nat
  sampleIndex : Nat
  weightVersion : Option String
  runtimeIncarnation : Option String
deriving DecidableEq

def readFile (files : Files) (path : String) : Except SourceFailure Json :=
  match files.get? path with
  | none => .error (.checkpointMissing path)
  | some (.decoded value) => .ok value
  | some (.unreadable message) => .error (.checkpointUnreadable path message)
  | some (.raises message) => .error (.uncaught message)

def asObject (failure : SourceFailure) : Json → Except SourceFailure (List (String × Json))
  | .object entries => .ok entries
  | _ => .error failure

def checkExpected (payload : List (String × Json)) :
    List (String × Option String) → Except SourceFailure Unit
  | [] => .ok ()
  | (key, value) :: rest =>
    if (field payload key).equals value then checkExpected payload rest else .error (.drift key)

def checkpointRunId (source : HarborDataSource Job) (payload : List (String × Json)) :
    Except SourceFailure String :=
  match field payload "run_id" with
  | .text runId =>
    if runId = "" then .error .runIdInvalid
    else if source.config.runIdExplicit = true ∧ runId ≠ source.runId then .error .runIdMismatch
    else .ok runId
  | _ => .error .runIdInvalid

def checkpointOptionalString (state : List (String × Json)) (key : String) :
    Except SourceFailure (Option String) :=
  match field state key with
  | .null => .ok none
  | .text text => if Text.strip text = "" then .error (.lastBatchInvalid key) else .ok (some text)
  | _ => .error (.lastBatchInvalid key)

def checkpointInt (state : List (String × Json)) (key : String) : Except SourceFailure Nat :=
  match field state key with
  | .integer value => if value < 0 then .error (.stateInvalid key) else .ok value.toNat
  | _ => .error (.stateInvalid key)

def parseCheckpoint (source : HarborDataSource Job) (value : Json) :
    Except SourceFailure Restored := do
  let payload ← asObject .rootNotObject value
  checkExpected payload (source.expected runtime)
  let runId ← checkpointRunId source payload
  let lastBatch ← asObject .lastBatchNotObject (field payload "last_batch")
  let weightVersion ← checkpointOptionalString lastBatch "weight_version"
  let runtimeIncarnation ← checkpointOptionalString lastBatch "runtime_incarnation"
  let state ← asObject .stateNotObject (field payload "state")
  let epoch ← checkpointInt state "epoch"
  let cursor ← checkpointInt state "cursor"
  let groupIndex ← checkpointInt state "group_index"
  let sampleIndex ← checkpointInt state "sample_index"
  if source.config.specs.length < cursor then .error .cursorExceedsRegistry
  else
    .ok
      { runId := runId
        epoch := epoch
        cursor := cursor
        groupIndex := groupIndex
        sampleIndex := sampleIndex
        weightVersion := weightVersion
        runtimeIncarnation := runtimeIncarnation }

def HarborDataSource.restore (restored : Restored) (source : HarborDataSource Job) :
    HarborDataSource Job :=
  { source with
    runId := restored.runId
    epochId := restored.epoch
    sampleOffset := restored.cursor
    sampleGroupIndex := restored.groupIndex
    sampleIndex := restored.sampleIndex
    lastBatchWeightVersion := restored.weightVersion
    lastRuntimeIncarnation := restored.runtimeIncarnation }

/-- Restore a source from the file of a rollout. A brand-new run is loaded as rollout `-1`, for
which there is no state. -/
def load (files : Files) (rolloutId : Option RolloutId) : SourceEffect Job Unit := do
  match rolloutId with
  | none => Effect.fail .rolloutIdRequired
  | some rolloutId =>
    if rolloutId.label = "-1" then pure ()
    else do
      let source ← Effect.get
      let path ← Effect.ofExcept (source.checkpointPath runtime rolloutId .load)
      let value ← Effect.ofExcept (readFile files path)
      let restored ← Effect.ofExcept (parseCheckpoint runtime source value)
      Effect.modify (HarborDataSource.restore restored)

end Dressage.Harbor.DataSource

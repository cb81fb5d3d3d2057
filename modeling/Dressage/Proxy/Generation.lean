/-
One generation as the proxy assembles it from chunks.

A generation asks the engine for the rest of its budget, appends what comes
back, and asks again after a preemption. Everything between two engine calls
is here; who may pause, abort or resume in between is the controller's affair.

`generated_ids` and `output_ids` of the source grow together and are one list
here. Routed experts and the untouched keys of `meta_info` are left out.
-/

import Dressage.Lib.Text
import Dressage.Transport.Layouts

namespace Dressage.Generation

open Lib Transport

/-- `SGLangResponse`. The finish reason inside `meta_info` is its `type` when it is a
dictionary and its text otherwise; the weight version is read from `meta_info`. -/
structure SGLangResponse where
  inputTokenLogprobsRaw : List Logprob
  inputTokenTexts : List String
  outputIds : List Nat
  outputTokenLogprobs : List Logprob
  outputTokenTexts : List String
  text : String
  metaFinishReason : Option String
  weightVersion : Option String
  finishReason : String
  inputLogprobsInvalid : Bool
  allLogprobsInvalid : Bool
deriving DecidableEq

structure GenerationChunk where
  outputIds : List Nat
  outputLogprobs : List Logprob
  outputTokenTexts : List String
  text : String
  version : String
  finishReason : String
  preempted : Bool
deriving DecidableEq

structure ContextOverflow where
  phase : String
  contextWindow : Nat
  inputTokens : Nat
  outputTokens : Nat
  totalTokens : Nat
  maxTokens : Int
  sessionId : Option String
  turnId : Option String
  lastProxyStepRecorded : Bool
deriving DecidableEq

structure PreemptibleGenerateResult where
  inputTokenIds : List Nat
  inputTokenLogprobsRaw : List Logprob
  inputTokenTexts : List String
  outputIds : List Nat
  outputTokenLogprobs : List Logprob
  outputTokenTexts : List String
  outputVersions : List String
  allTokenIds : List Nat
  allLogprobs : List Logprob
  text : String
  metaWeightVersion : Option String
  contextOverflow : Option ContextOverflow
  finishReason : String
  allLogprobsInvalid : Bool
  rolloutEpoch : Option Nat
  chunks : List GenerationChunk
deriving DecidableEq

def PreemptibleGenerateResult.weightVersion (result : PreemptibleGenerateResult) : Option String :=
  match result.outputVersions.getLast? with
  | some version => some version
  | none => result.metaWeightVersion

inductive GenerateError
  | proxyShuttingDown
  | generationPreempted
  | staleEpoch (expectedEpoch currentEpoch : Nat)
  | versionUnavailable
  | versionMismatch (expected observed : String)
  | upstream (message : String)
deriving DecidableEq

structure Request where
  inputIds : List Nat
  maxNewTokens : Int
  sessionId : Option String
  instanceId : Option String
  turnId : Option String
  expectedVersion : Option String
  expectedEpoch : Option Nat
  logprobStartLen : Int
  contextWindow : Option Nat
deriving DecidableEq

/-- The locals the loop carries from chunk to chunk. -/
structure Progress where
  outputIds : List Nat
  outputLogprobs : List Logprob
  outputTexts : List String
  outputVersions : List String
  textParts : List String
  chunks : List GenerationChunk
  inputLogprobs : List Logprob
  inputTexts : List String
  inputLogprobsCaptured : Bool
  finishReason : String
  metaWeightVersion : Option String
  contextOverflow : Option ContextOverflow
  allLogprobsInvalid : Bool
  rolloutEpoch : Option Nat
deriving DecidableEq

def Request.expectInputLogprobs (request : Request) : Bool := request.logprobStartLen = 0

def Progress.initial (request : Request) : Progress :=
  { outputIds := []
    outputLogprobs := []
    outputTexts := []
    outputVersions := []
    textParts := []
    chunks := []
    inputLogprobs := []
    inputTexts := []
    inputLogprobsCaptured := !request.expectInputLogprobs || request.inputIds.length = 0
    finishReason := "stop"
    metaWeightVersion := none
    contextOverflow := none
    allLogprobsInvalid := false
    rolloutEpoch := none }

def wantsMore (request : Request) (progress : Progress) : Bool :=
  decide (request.maxNewTokens ≤ 0) ||
    decide ((progress.outputIds.length : Int) < request.maxNewTokens)

def remaining (request : Request) (progress : Progress) : Option Int :=
  if request.maxNewTokens ≤ 0 then none
  else some (request.maxNewTokens - progress.outputIds.length)

def preemptFinishReasons : List String :=
  ["abort", "aborted", "preempt", "preempted", "cancel", "cancelled", "canceled"]

def isPreempted (response : SGLangResponse) : Bool :=
  decide (Text.lower response.finishReason ∈ preemptFinishReasons) ||
    decide (Text.lower (response.metaFinishReason.getD "") ∈ preemptFinishReasons)

def interruptedResponse : SGLangResponse :=
  { inputTokenLogprobsRaw := []
    inputTokenTexts := []
    outputIds := []
    outputTokenLogprobs := []
    outputTokenTexts := []
    text := ""
    metaFinishReason := some "preempted"
    weightVersion := none
    finishReason := "preempted"
    inputLogprobsInvalid := true
    allLogprobsInvalid := true }

def versionError (request : Request) (response : SGLangResponse) : Option GenerateError :=
  match request.expectedVersion, response.weightVersion with
  | none, _ => none
  | some _, none => some .versionUnavailable
  | some expected, some observed =>
    if observed = expected then none else some (.versionMismatch expected observed)

def chunkVersion (response : SGLangResponse) : String :=
  match response.weightVersion with
  | none => "unknown"
  | some version => if version = "" then "unknown" else version

def updateInputLogprobs (request : Request) (response : SGLangResponse) (progress : Progress) :
    List Logprob :=
  let taken := response.inputTokenLogprobsRaw.take request.inputIds.length
  if taken ≠ [] ∧ (progress.inputLogprobs = [] ∨
    (request.expectInputLogprobs ∧ ¬ progress.inputLogprobsCaptured ∧
      ¬ response.inputLogprobsInvalid)) then taken
  else progress.inputLogprobs

def updateCaptured (request : Request) (response : SGLangResponse) (progress : Progress) : Bool :=
  let taken := response.inputTokenLogprobsRaw.take request.inputIds.length
  progress.inputLogprobsCaptured ||
    (request.expectInputLogprobs && decide (taken.length = request.inputIds.length) &&
      !response.inputLogprobsInvalid)

def chunkOf (response : SGLangResponse) (preempted : Bool) : GenerationChunk :=
  { outputIds := response.outputIds
    outputLogprobs := response.outputTokenLogprobs
    outputTokenTexts := response.outputTokenTexts
    text := response.text
    version := chunkVersion response
    finishReason := response.finishReason
    preempted := preempted }

def absorb (request : Request) (response : SGLangResponse) (preempted : Bool)
    (progress : Progress) : Progress :=
  { outputIds := progress.outputIds ++ response.outputIds
    outputLogprobs := progress.outputLogprobs ++ response.outputTokenLogprobs
    outputTexts := progress.outputTexts ++ response.outputTokenTexts
    outputVersions := progress.outputVersions ++
      List.replicate response.outputIds.length (chunkVersion response)
    textParts := progress.textParts ++ [response.text]
    chunks := progress.chunks ++ [chunkOf response preempted]
    inputLogprobs := updateInputLogprobs request response progress
    inputTexts :=
      if progress.inputTexts = [] then response.inputTokenTexts.take request.inputIds.length
      else progress.inputTexts
    inputLogprobsCaptured := updateCaptured request response progress
    finishReason := response.finishReason
    metaWeightVersion := response.weightVersion
    contextOverflow := none
    allLogprobsInvalid := progress.allLogprobsInvalid || response.allLogprobsInvalid
    rolloutEpoch := progress.rolloutEpoch }

def overflowOf (request : Request) (progress : Progress) (window : Nat) : ContextOverflow :=
  { phase := "input_output"
    contextWindow := window
    inputTokens := request.inputIds.length
    outputTokens := progress.outputIds.length
    totalTokens := request.inputIds.length + progress.outputIds.length
    maxTokens := request.maxNewTokens
    sessionId := request.sessionId
    turnId := request.turnId
    lastProxyStepRecorded := false }

def overflowedWindow (request : Request) (progress : Progress) : Option Nat :=
  match request.contextWindow with
  | none => none
  | some window =>
    if window < request.inputIds.length + progress.outputIds.length then some window else none

inductive Next
  | raises (error : GenerateError)
  | breaks (progress : Progress)
  | suspends (progress : Progress)
deriving DecidableEq

def afterChunk (partialRollout : Bool) (request : Request) (progress : Progress)
    (preempted : Bool) : Next :=
  if preempted ∧ ¬ partialRollout then .raises .generationPreempted
  else
    match overflowedWindow request progress with
    | some window =>
      .breaks
        { progress with
          contextOverflow := some (overflowOf request progress window)
          finishReason := "length" }
    | none => if preempted then .suspends progress else .breaks progress

def normalizeLength {α : Type} (values : List α) (length : Nat) (filler : α) : List α :=
  values.take length ++ List.replicate (length - values.length) filler

def resultOf (request : Request) (progress : Progress) : PreemptibleGenerateResult :=
  let inputLogprobs := normalizeLength progress.inputLogprobs request.inputIds.length 0
  { inputTokenIds := request.inputIds
    inputTokenLogprobsRaw := inputLogprobs
    inputTokenTexts := normalizeLength progress.inputTexts request.inputIds.length ""
    outputIds := progress.outputIds
    outputTokenLogprobs := progress.outputLogprobs
    outputTokenTexts := progress.outputTexts
    outputVersions := progress.outputVersions
    allTokenIds := request.inputIds ++ progress.outputIds
    allLogprobs := inputLogprobs ++ progress.outputLogprobs
    text := String.join progress.textParts
    metaWeightVersion :=
      match progress.outputVersions.getLast? with
      | some version => some version
      | none => progress.metaWeightVersion
    contextOverflow := progress.contextOverflow
    finishReason := progress.finishReason
    allLogprobsInvalid := progress.allLogprobsInvalid
    rolloutEpoch := progress.rolloutEpoch
    chunks := progress.chunks }

def publicFinishReason (result : PreemptibleGenerateResult) : String :=
  if result.contextOverflow.isSome ∨ result.finishReason = "length" then "length" else "stop"

/-- What one pass of the loop meets: the gate refuses, the engine answers, or the
engine call raises. `aborted` says whether the request's abort succeeded. -/
inductive ChunkEvent
  | shutDown
  | staleEpoch (currentEpoch : Nat)
  | answered (epoch : Nat) (response : SGLangResponse) (aborted : Bool)
  | raised (epoch : Nat) (message : String) (aborted shuttingDown : Bool)
deriving DecidableEq

def stampEpoch (progress : Progress) (epoch : Nat) : Progress :=
  { progress with rolloutEpoch := some (progress.rolloutEpoch.getD epoch) }

def takeResponse (partialRollout : Bool) (request : Request) (progress : Progress)
    (response : SGLangResponse) (forced : Bool) : Next :=
  match versionError request response with
  | some error => .raises error
  | none =>
    let preempted := forced || isPreempted response
    afterChunk partialRollout request (absorb request response preempted progress) preempted

def passLoop (partialRollout : Bool) (request : Request) (progress : Progress)
    (event : ChunkEvent) : Next :=
  match event with
  | .shutDown => .raises .proxyShuttingDown
  | .staleEpoch current => .raises (.staleEpoch (request.expectedEpoch.getD current) current)
  | .answered epoch response aborted =>
    takeResponse partialRollout request (stampEpoch progress epoch) response aborted
  | .raised epoch message aborted shuttingDown =>
    if shuttingDown then .raises .proxyShuttingDown
    else if aborted then
      takeResponse partialRollout request (stampEpoch progress epoch) interruptedResponse true
    else .raises (.upstream message)

def generateFrom (partialRollout : Bool) (request : Request) :
    Progress → List ChunkEvent → Option (Except GenerateError PreemptibleGenerateResult)
  | _, [] => none
  | progress, event :: rest =>
    match passLoop partialRollout request progress event with
    | .raises error => some (.error error)
    | .breaks final => some (.ok (resultOf request final))
    | .suspends next =>
      -- A suspended call that wakes up in a shutdown raises even with a full budget.
      if rest.head? = some .shutDown then some (.error .proxyShuttingDown)
      else if wantsMore request next then generateFrom partialRollout request next rest
      else some (.ok (resultOf request next))

def generatePreemptible (partialRollout : Bool) (request : Request) (events : List ChunkEvent) :
    Option (Except GenerateError PreemptibleGenerateResult) :=
  generateFrom partialRollout request (Progress.initial request) events

def chunkVersions (chunks : List GenerationChunk) : List String :=
  chunks.flatMap fun chunk => List.replicate chunk.outputIds.length chunk.version

/-- Outputs and versions so far are those of the chunks so far. -/
structure Stitched (progress : Progress) : Prop where
  outputIds : progress.outputIds = progress.chunks.flatMap GenerationChunk.outputIds
  outputVersions : progress.outputVersions = chunkVersions progress.chunks
  named : ∀ chunk ∈ progress.chunks, chunk.version ≠ ""

structure FromChunks (inputIds : List Nat) (result : PreemptibleGenerateResult) : Prop where
  outputIds : result.outputIds = result.chunks.flatMap GenerationChunk.outputIds
  outputVersions : result.outputVersions = chunkVersions result.chunks
  allTokenIds : result.allTokenIds = inputIds ++ result.outputIds
  named : ∀ chunk ∈ result.chunks, chunk.version ≠ ""

theorem chunkVersion_ne_empty (response : SGLangResponse) : chunkVersion response ≠ "" := by
  unfold chunkVersion
  cases response.weightVersion with
  | none => decide
  | some version =>
    dsimp only
    split
    · decide
    · assumption

variable {progress : Progress} {request : Request} {partialRollout : Bool}

private theorem stitched_absorb {response : SGLangResponse} {preempted : Bool}
    (stitched : Stitched progress) :
    Stitched (absorb request response preempted progress) := by
  constructor
  · simp only [absorb, List.flatMap_append, ← stitched.outputIds]
    simp [chunkOf]
  · simp only [absorb, chunkVersions, List.flatMap_append, stitched.outputVersions]
    simp [chunkOf]
  · intro chunk member
    rcases List.mem_append.mp member with old | new
    · exact stitched.named chunk old
    · rw [List.mem_singleton.mp new]
      exact chunkVersion_ne_empty response

private def NextStitched : Next → Prop
  | .raises _ => True
  | .breaks progress => Stitched progress
  | .suspends progress => Stitched progress

private theorem stitched_takeResponse (response : SGLangResponse) (forced : Bool)
    (stitched : Stitched progress) :
    NextStitched (takeResponse partialRollout request progress response forced) := by
  unfold takeResponse
  split
  · trivial
  · have absorbed : Stitched (absorb request response (forced || isPreempted response) progress) :=
      stitched_absorb stitched
    dsimp only
    unfold afterChunk
    split
    · trivial
    · split
      · exact
          { outputIds := absorbed.outputIds
            outputVersions := absorbed.outputVersions
            named := absorbed.named }
      · split <;> exact absorbed

private theorem stitched_passLoop (event : ChunkEvent) (stitched : Stitched progress) :
    NextStitched (passLoop partialRollout request progress event) := by
  have stamped : ∀ epoch, Stitched (stampEpoch progress epoch) := fun _ =>
    { outputIds := stitched.outputIds
      outputVersions := stitched.outputVersions
      named := stitched.named }
  cases event with
  | shutDown => trivial
  | staleEpoch current => trivial
  | answered epoch response aborted => exact stitched_takeResponse response aborted (stamped epoch)
  | raised epoch message aborted shuttingDown =>
    rw [passLoop]
    split
    · trivial
    · split
      · exact stitched_takeResponse interruptedResponse true (stamped epoch)
      · trivial

private theorem fromChunks_resultOf (stitched : Stitched progress) :
    FromChunks request.inputIds (resultOf request progress) :=
  { stitched with
    allTokenIds := rfl }

private theorem fromChunks_generateFrom {events : List ChunkEvent}
    {result : PreemptibleGenerateResult} (stitched : Stitched progress)
    (returned : generateFrom partialRollout request progress events = some (.ok result)) :
    FromChunks request.inputIds result := by
  induction events generalizing progress with
  | nil => cases returned
  | cons event rest ih =>
    have next : NextStitched (passLoop partialRollout request progress event) :=
      stitched_passLoop event stitched
    rw [generateFrom] at returned
    cases passed : passLoop partialRollout request progress event with
    | raises error =>
      rw [passed] at returned
      cases returned
    | breaks final =>
      rw [passed] at returned next
      cases returned
      exact fromChunks_resultOf next
    | suspends resumed =>
      rw [passed] at returned next
      dsimp only at returned
      split at returned
      · cases returned
      · split at returned
        · exact ih next returned
        · cases returned
          exact fromChunks_resultOf next

theorem fromChunks_generatePreemptible {events : List ChunkEvent}
    {result : PreemptibleGenerateResult}
    (returned : generatePreemptible partialRollout request events = some (.ok result)) :
    FromChunks request.inputIds result :=
  fromChunks_generateFrom
    { outputIds := rfl
      outputVersions := rfl
      named := fun chunk member => by cases member }
    returned

end Dressage.Generation

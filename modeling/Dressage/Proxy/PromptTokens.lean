/-
The token ids of a request and the payload a step adds to its lineage.

In tito mode a request that continues recorded context reuses the token ids the
engine has already seen; everything else is tokenized in full. A step stores
only what it adds to its lineage's open segment.
-/

import Dressage.Lib.Boundary
import Dressage.Proxy.Routing

namespace Dressage.Proxy

open Lib Transport

inductive TokenBuildMode
  | snapshot
  | tito
deriving DecidableEq, Repr

def TokenBuildMode.text : TokenBuildMode → String
  | .snapshot => "snapshot"
  | .tito => "tito"

def inputTokenVersion : String := "-1"

variable {Message Tool Call : Type}

abbrev lineageBoundary (step : StepRecord Message Tool) : Bool := step.lineageSegmentBoundaryBefore

def lineageTitoPrefixTokenIds (session : Session Message Tool) (lineageId : LineageId) : List Nat :=
  let lineageSteps := session.lineageSteps lineageId
  let startIndex := Boundary.lastBoundary lineageBoundary 0 0 lineageSteps
  (lineageSteps.drop startIndex).flatMap StepRecord.concatTokenIds

structure PromptPayload where
  inputIds : List Nat
  contextDeltaIds : List Nat
  usedTitoForPrompt : Bool
  titoIncrementalTokenizationFailed : Bool
deriving DecidableEq

def fullPromptPayload (format : ChatFormat Message Tool Call) (messages : List Message)
    (tools : Option (List Tool)) (failed : Bool) : Except String PromptPayload := do
  let inputIds ← format.tokenizeMessages messages tools true
  .ok
    { inputIds := inputIds
      contextDeltaIds := inputIds
      usedTitoForPrompt := false
      titoIncrementalTokenizationFailed := failed }

/-- The ids the merge extends: the base snapshot for a branch, the lineage's open segment
otherwise. -/
def prefixTokens (session : Session Message Tool) (route : Route)
    (baseStep : StepRecord Message Tool) : List Nat :=
  match route.type with
  | .branch => baseStep.snapshotTokenIds
  | _ => lineageTitoPrefixTokenIds session route.lineageId

def buildPromptTokens (format : ChatFormat Message Tool Call) (mode : TokenBuildMode)
    (model : TitoModel) (session : Session Message Tool) (route : Route) (boundary : Bool)
    (messages : List Message) (tools : Option (List Tool)) : Except String PromptPayload :=
  match route.baseStepId.bind session.stepById with
  | none => fullPromptPayload format messages tools false
  | some baseStep =>
    if mode ≠ .tito ∨ boundary = true then fullPromptPayload format messages tools false
    else
      let tokens := prefixTokens session route baseStep
      match TitoTokenizer.mergeTokens format model baseStep.normalizedMessagesSnapshot messages
        tokens tools with
      | .error _ => fullPromptPayload format messages tools true
      | .ok merged =>
        .ok
          { inputIds := merged
            contextDeltaIds :=
              if route.type = .branch then merged else merged.drop tokens.length
            usedTitoForPrompt := true
            titoIncrementalTokenizationFailed := false }

structure ConcatStepPayload where
  tokenIds : List Nat
  responseLogprobs : List Logprob
  responseMask : List Nat
  versions : List String
  contextTokenCount : Nat
  outputTokenCount : Nat
  logprobsInvalid : Bool
  incrementalTokenizationFailed : Bool
deriving DecidableEq

def normalizeVersions (versions : List String) (tokenCount : Nat) : List String :=
  if versions.length = tokenCount then versions
  else List.replicate tokenCount (versions.getLast?.getD "unknown")

def buildConcatStepPayload (contextDeltaIds responseTokenIds : List Nat)
    (responseLogprobs : List Logprob) (responseVersions : List String)
    (incrementalTokenizationFailed : Bool) : ConcatStepPayload :=
  let output := normalizeLogprobsToLength responseLogprobs responseTokenIds.length
  { tokenIds := contextDeltaIds ++ responseTokenIds
    responseLogprobs := List.replicate contextDeltaIds.length 0 ++ output.1
    responseMask := List.replicate contextDeltaIds.length 0 ++
      List.replicate responseTokenIds.length 1
    versions := List.replicate contextDeltaIds.length inputTokenVersion ++
      normalizeVersions responseVersions responseTokenIds.length
    contextTokenCount := contextDeltaIds.length
    outputTokenCount := responseTokenIds.length
    logprobsInvalid := output.2
    incrementalTokenizationFailed := incrementalTokenizationFailed }

theorem lineageTitoPrefixTokenIds_eq (session : Session Message Tool) (lineageId : LineageId) :
    lineageTitoPrefixTokenIds session lineageId =
      (Boundary.openSegment lineageBoundary (session.lineageSteps lineageId)).flatMap
        StepRecord.concatTokenIds := by
  unfold lineageTitoPrefixTokenIds
  dsimp only
  rw [Boundary.openSegment_eq_drop]

private theorem fullPromptPayload_ok {format : ChatFormat Message Tool Call}
    {messages : List Message} {tools : Option (List Tool)} {failed : Bool}
    {payload : PromptPayload}
    (built : fullPromptPayload format messages tools failed = .ok payload) :
    payload.contextDeltaIds = payload.inputIds ∧
      payload.titoIncrementalTokenizationFailed = failed := by
  unfold fullPromptPayload at built
  cases tokenized : format.tokenizeMessages messages tools true with
  | error message =>
    rw [tokenized] at built
    cases built
  | ok inputIds =>
    rw [tokenized] at built
    cases built
    exact ⟨rfl, rfl⟩

theorem buildPromptTokens_delta {format : ChatFormat Message Tool Call} {mode : TokenBuildMode}
    {model : TitoModel} {session : Session Message Tool} {route : Route} {boundary : Bool}
    {messages : List Message} {tools : Option (List Tool)} {payload : PromptPayload}
    (tito : mode = .tito)
    (built : buildPromptTokens format mode model session route boundary messages tools =
      .ok payload) :
    (payload.contextDeltaIds = payload.inputIds ∧
        (boundary = true ∨ payload.titoIncrementalTokenizationFailed = true ∨
          route.type = .branch ∨ route.baseStepId.bind session.stepById = none)) ∨
      boundary = false ∧ payload.titoIncrementalTokenizationFailed = false ∧
        payload.inputIds =
          lineageTitoPrefixTokenIds session route.lineageId ++ payload.contextDeltaIds := by
  unfold buildPromptTokens at built
  cases found : route.baseStepId.bind session.stepById with
  | none =>
    rw [found] at built
    exact .inl ⟨(fullPromptPayload_ok built).1, .inr (.inr (.inr rfl))⟩
  | some baseStep =>
    rw [found] at built
    dsimp only at built
    by_cases whole : mode ≠ .tito ∨ boundary = true
    · rw [if_pos whole] at built
      have bounded : boundary = true := whole.resolve_left (not_not_intro tito)
      exact .inl ⟨(fullPromptPayload_ok built).1, .inl bounded⟩
    · rw [if_neg whole] at built
      cases merge : TitoTokenizer.mergeTokens format model baseStep.normalizedMessagesSnapshot
        messages (prefixTokens session route baseStep) tools with
      | error message =>
        rw [merge] at built
        have full := fullPromptPayload_ok built
        exact .inl ⟨full.1, .inr (.inl full.2)⟩
      | ok merged =>
        rw [merge] at built
        cases built
        dsimp only
        by_cases branched : route.type = .branch
        · rw [if_pos branched]
          exact .inl ⟨rfl, .inr (.inr (.inl branched))⟩
        · rw [if_neg branched]
          have tokens : prefixTokens session route baseStep =
              lineageTitoPrefixTokenIds session route.lineageId := by
            unfold prefixTokens
            split
            · next isBranch => exact absurd isBranch branched
            · rfl
          rw [← tokens]
          have notBounded : boundary = false :=
            Bool.eq_false_iff.mpr (fun bounded => whole (.inr bounded))
          exact .inr ⟨notBounded, rfl, TitoTokenizer.mergeTokens_extends format merge⟩

end Dressage.Proxy

/-
The output budget of a generation.

Before the loop three caps become one budget of at least one token that leaves a token of the
window free. Inside it each request asks for what is left, and the loop goes on only while
something is.
-/

import Dressage.Proxy.PlainFormat
import Dressage.Proxy.StepOrigins

namespace Dressage.Proxy

open Lib Lib.Effect Generation

variable {Message Tool Call : Type}

/-- The passes of the loop, each with what it starts from; their ends are `generateFrom`. -/
def passesFrom (partialRollout : Bool) (request : Generation.Request) :
    Progress → List ChunkEvent → List (Progress × ChunkEvent)
  | _, [] => []
  | progress, event :: rest =>
    (progress, event) ::
      match passLoop partialRollout request progress event with
      | .suspends next =>
        if rest.head? = some .shutDown then []
        else if wantsMore request next then passesFrom partialRollout request next rest
        else []
      | _ => []

def ReturnsWithin (partialRollout : Bool) (request : Generation.Request)
    (events : List ChunkEvent) : Prop :=
  ∀ progress epoch response aborted,
    (progress, .answered epoch response aborted) ∈
      passesFrom partialRollout request (Progress.initial request) events →
    ∀ budget, remaining request progress = some budget → (response.outputIds.length : Int) ≤ budget

structure Budgeted (request : Generation.Request) (window : Nat) : Prop where
  positive : 1 ≤ request.maxNewTokens
  isWindow : request.contextWindow = some window
  room : (request.inputIds.length : Int) + request.maxNewTokens < window

def AsksForRest (request : Generation.Request) (passes : List (Progress × ChunkEvent)) : Prop :=
  ∀ progress event, (progress, event) ∈ passes →
    remaining request progress = some (request.maxNewTokens - progress.outputIds.length) ∧
      1 ≤ request.maxNewTokens - progress.outputIds.length

structure ResultWithin (request : Generation.Request) (window : Nat)
    (result : PreemptibleGenerateResult) : Prop where
  budget : (result.outputIds.length : Int) ≤ request.maxNewTokens
  window : result.inputTokenIds.length + result.outputIds.length < window
  noOverflow : result.contextOverflow = none

section Loop

variable {partialRollout : Bool} {request : Generation.Request} {window : Nat}
variable {progress : Progress}

structure Within (request : Generation.Request) (progress : Progress) : Prop where
  budget : (progress.outputIds.length : Int) ≤ request.maxNewTokens
  noOverflow : progress.contextOverflow = none

theorem Within.result (within : Within request progress) (budgeted : Budgeted request window) :
    ResultWithin request window (resultOf request progress) :=
  { budget := within.budget
    window := by
      have budget := within.budget
      have room := budgeted.room
      simp only [resultOf]
      omega
    noOverflow := within.noOverflow }

theorem remaining_eq (budgeted : Budgeted request window) :
    remaining request progress = some (request.maxNewTokens - progress.outputIds.length) := by
  have positive := budgeted.positive
  rw [remaining, if_neg (by omega)]

def NextWithin (request : Generation.Request) : Next → Prop
  | .raises _ => True
  | .breaks progress => Within request progress
  | .suspends progress => Within request progress

section

variable (budgeted : Budgeted request window)
include budgeted

theorem takeResponse_within {response : SGLangResponse} (forced : Bool)
    (fits : (progress.outputIds.length : Int) + response.outputIds.length ≤ request.maxNewTokens) :
    NextWithin request (takeResponse partialRollout request progress response forced) := by
  have absorbed : Within request
      (absorb request response (forced || isPreempted response) progress) :=
    { budget := by
        simp only [absorb, List.length_append]
        omega
      noOverflow := rfl }
  have inside : overflowedWindow request
      (absorb request response (forced || isPreempted response) progress) = none := by
    have budget := absorbed.budget
    have room := budgeted.room
    rw [overflowedWindow, budgeted.isWindow]
    exact if_neg (by omega)
  unfold takeResponse
  split
  · trivial
  · simp only [afterChunk, inside]
    split
    · trivial
    · split <;> exact absorbed

theorem passLoop_within {event : ChunkEvent}
    (asks : 1 ≤ request.maxNewTokens - progress.outputIds.length)
    (returns : ∀ epoch response aborted, event = .answered epoch response aborted →
      (response.outputIds.length : Int) ≤ request.maxNewTokens - progress.outputIds.length) :
    NextWithin request (passLoop partialRollout request progress event) := by
  cases event with
  | shutDown => trivial
  | staleEpoch current => trivial
  | answered epoch response aborted =>
    have answered := returns epoch response aborted rfl
    exact takeResponse_within budgeted aborted (by simp only [stampEpoch]; omega)
  | raised epoch message aborted shuttingDown =>
    rw [passLoop]
    split
    · trivial
    · split
      · exact takeResponse_within budgeted true (by
          simp only [stampEpoch, interruptedResponse, List.length_nil]
          omega)
      · trivial

theorem wantsMore_asks (wants : wantsMore request progress = true) :
    1 ≤ request.maxNewTokens - progress.outputIds.length := by
  have positive := budgeted.positive
  simp only [wantsMore, Bool.or_eq_true, decide_eq_true_eq] at wants
  omega

theorem generateFrom_within (events : List ChunkEvent) (within : Within request progress)
    (asks : 1 ≤ request.maxNewTokens - progress.outputIds.length)
    (returns : ∀ started epoch response aborted,
      (started, .answered epoch response aborted) ∈
        passesFrom partialRollout request progress events →
      ∀ budget, remaining request started = some budget →
        (response.outputIds.length : Int) ≤ budget) :
    AsksForRest request (passesFrom partialRollout request progress events) ∧
      ∀ result, generateFrom partialRollout request progress events = some (.ok result) →
        ResultWithin request window result := by
  induction events generalizing progress with
  | nil =>
    constructor
    · intro started event member
      cases member
    · intro result returned
      cases returned
  | cons event rest ih =>
    have next : NextWithin request (passLoop partialRollout request progress event) := by
      apply passLoop_within budgeted asks
      rintro epoch response aborted rfl
      exact returns progress epoch response aborted List.mem_cons_self _ (remaining_eq budgeted)
    have here : ∀ later : List (Progress × ChunkEvent), AsksForRest request later →
        AsksForRest request ((progress, event) :: later) := by
      intro later areLater started other member
      rcases List.mem_cons.mp member with same | inLater
      · cases same
        exact ⟨remaining_eq budgeted, asks⟩
      · exact areLater started other inLater
    have last : AsksForRest request [] := by
      intro started other member
      cases member
    unfold passesFrom generateFrom
    unfold passesFrom at returns
    cases passed : passLoop partialRollout request progress event with
    | raises error =>
      refine ⟨here _ last, ?_⟩
      intro result returned
      cases returned
    | breaks final =>
      rw [passed] at next
      refine ⟨here _ last, ?_⟩
      intro result returned
      cases returned
      exact next.result budgeted
    | suspends resumed =>
      rw [passed] at next returns
      dsimp only at returns ⊢
      split
      · refine ⟨here _ last, ?_⟩
        intro result returned
        cases returned
      · split
        next noShutDown wants =>
          rw [if_neg noShutDown, if_pos wants] at returns
          obtain ⟨later, results⟩ := ih next (wantsMore_asks budgeted wants)
            fun started epoch response aborted member =>
              returns started epoch response aborted (List.mem_cons_of_mem _ member)
          exact ⟨here _ later, results⟩
        next =>
          refine ⟨here _ last, ?_⟩
          intro result returned
          cases returned
          exact next.result budgeted

theorem generatePreemptible_within {events : List ChunkEvent}
    (returns : ReturnsWithin partialRollout request events) :
    AsksForRest request
        (passesFrom partialRollout request (Progress.initial request) events) ∧
      ∀ result, generatePreemptible partialRollout request events = some (.ok result) →
        ResultWithin request window result := by
  have positive := budgeted.positive
  exact generateFrom_within budgeted events
    { budget := by simp only [Progress.initial, List.length_nil]; omega
      noOverflow := rfl }
    (by simp only [Progress.initial, List.length_nil]; omega) returns

end

end Loop

def clampedMaxTokens (config : ProxyConfig) (request : ChatRequest Message Tool)
    (window promptTokens : Nat) : Int :=
  let remainingContext : Int := (window - promptTokens - 1 : Nat)
  match configuredMaxTokens config request with
  | none => remainingContext
  | some cap => min cap remainingContext

structure CapsPositive (config : ProxyConfig) (request : ChatRequest Message Tool) : Prop where
  requested : ∀ cap, request.maxTokens = some cap → 1 ≤ cap
  configured : ∀ cap, config.maxOutputTokens = some cap → 1 ≤ cap

variable {config : ProxyConfig} {request : ChatRequest Message Tool} {window : Nat}

theorem configuredMaxTokens_pos (caps : CapsPositive config request) {cap : Int}
    (configured : configuredMaxTokens config request = some cap) : 1 ≤ cap := by
  unfold configuredMaxTokens at configured
  cases isRequested : request.maxTokens with
  | none =>
    cases isConfigured : config.maxOutputTokens with
    | none => simp [isRequested, isConfigured] at configured
    | some limit =>
      have positive := caps.configured limit isConfigured
      simp only [isRequested, isConfigured, Option.some_inj] at configured
      omega
  | some requested =>
    have positive := caps.requested requested isRequested
    cases isConfigured : config.maxOutputTokens with
    | none =>
      simp only [isRequested, isConfigured, Option.some_inj] at configured
      omega
    | some limit =>
      have limited := caps.configured limit isConfigured
      simp only [isRequested, isConfigured, Option.some_inj] at configured
      omega

theorem windowBudget_ok (dynamic : config.dynamicMaxTokens = true)
    (isWindow : config.contextWindow = some window) {session : Session Message Tool}
    {turnId : String} {promptTokens : Nat} {maxTokens : Int}
    (allowed : windowBudget config session turnId promptTokens
      (configuredMaxTokens config request) = .ok maxTokens) :
    maxTokens = clampedMaxTokens config request window promptTokens ∧
      promptTokens + 1 < window := by
  unfold windowBudget at allowed
  rw [isWindow] at allowed
  dsimp only at allowed
  split at allowed
  · cases allowed
  · rw [if_neg (by rw [dynamic]; simp)] at allowed
    split at allowed
    · cases allowed
    · cases allowed
      exact ⟨rfl, by omega⟩

theorem clamped_bounds (caps : CapsPositive config request) {promptTokens : Nat}
    (room : promptTokens + 1 < window) :
    1 ≤ clampedMaxTokens config request window promptTokens ∧
      (promptTokens : Int) + clampedMaxTokens config request window promptTokens < window := by
  unfold clampedMaxTokens
  cases configured : configuredMaxTokens config request with
  | none => simp only; omega
  | some cap =>
    have positive := configuredMaxTokens_pos caps configured
    simp only
    omega

def budgetedGeneration (config : ProxyConfig) (request : ChatRequest Message Tool)
    (answers : Answers Call) (admission : Admission Message Tool) (prepared : Prepared) :
    Pipeline Message Tool (Int × PreemptibleGenerateResult × Accepted) := do
  let maxTokens ← checkBudget config request admission.turnId prepared
  let result ← generate config request answers admission prepared.payload.inputIds maxTokens
  let accepted ← acceptResult config result
  pure (maxTokens, result, accepted)

/-- The request of such a generation; only its epoch and its ids come from the session. -/
def budgetedRequest (config : ProxyConfig) (request : ChatRequest Message Tool)
    (answers : Answers Call) (session : Session Message Tool)
    (admission : Admission Message Tool) (inputIds : List Nat) (window : Nat) :
    Generation.Request :=
  generationRequest config request answers session admission inputIds
    (clampedMaxTokens config request window inputIds.length)

theorem checkBudget_clamps (dynamic : config.dynamicMaxTokens = true)
    (isWindow : config.contextWindow = some window) (turnId : String) (prepared : Prepared)
    (state : ProxyState Message Tool) :
    Ensures (checkBudget config request turnId prepared) state
      (fun maxTokens after => after = state ∧
        maxTokens = clampedMaxTokens config request window prepared.payload.inputIds.length ∧
        prepared.payload.inputIds.length + 1 < window)
      (fun _ _ => True) := by
  refine ensures_bind (ensures_getSession ?_)
  refine ensures_bind ((looks_failIf _ _).ensures (fun _ => ?_) (fun _ => trivial))
  refine ensures_bind (ensures_ofExcept (fun maxTokens allowed => ?_) (fun _ _ => trivial))
  refine ensures_bind ((looks_failIf _ _).ensures (fun _ => ensures_pure ?_) (fun _ => trivial))
  exact ⟨rfl, windowBudget_ok dynamic isWindow allowed⟩

theorem generate_returns (answers : Answers Call) (admission : Admission Message Tool)
    (inputIds : List Nat) (maxTokens : Int) (state : ProxyState Message Tool) :
    Ensures (generate config request answers admission inputIds maxTokens) state
      (fun result after => after = state ∧ generatePreemptible config.partialRollout
        (generationRequest config request answers state.session admission inputIds maxTokens)
        answers.chunks = some (.ok result))
      (fun _ _ => True) := by
  refine ensures_bind (ensures_getSession ?_)
  refine ensures_bind ((looks_failIf _ _).ensures (fun _ => ?_) (fun _ => trivial))
  refine ensures_bind ((looks_acquireLease answers.lease).ensures (fun _ => ?_) (fun _ => trivial))
  refine ensures_bind ((looks_failIf _ _).ensures (fun _ => ?_) (fun _ => trivial))
  split
  · exact ensures_fail trivial
  · exact ensures_fail trivial
  · next result returned => exact ensures_pure ⟨rfl, returned⟩

theorem budgetedRequest_budgeted (caps : CapsPositive config request)
    (isWindow : config.contextWindow = some window) (answers : Answers Call)
    (session : Session Message Tool) (admission : Admission Message Tool) {inputIds : List Nat}
    (room : inputIds.length + 1 < window) :
    Budgeted (budgetedRequest config request answers session admission inputIds window) window :=
  { positive := (clamped_bounds caps room).1
    isWindow := isWindow
    room := (clamped_bounds caps room).2 }

/-- The overflow branches, of the controller and of the server, are not taken: the last part
says that a request runs these stages. -/
theorem output_stays_in_budget [BEq Message] (config : ProxyConfig)
    (format : ChatFormat Message Tool Call) (request : ChatRequest Message Tool)
    (answers : Answers Call) (window : Nat) (dynamic : config.dynamicMaxTokens = true)
    (isWindow : config.contextWindow = some window) (caps : CapsPositive config request)
    (admission : Admission Message Tool) (prepared : Prepared) (state : ProxyState Message Tool)
    (returns : ReturnsWithin config.partialRollout (budgetedRequest config request answers
      state.session admission prepared.payload.inputIds window) answers.chunks) :
    let generation := budgetedRequest config request answers state.session admission
      prepared.payload.inputIds window
    (prepared.payload.inputIds.length + 1 < window →
      Budgeted generation window ∧ AsksForRest generation (passesFrom config.partialRollout
        generation (Progress.initial generation) answers.chunks)) ∧
    Ensures (budgetedGeneration config request answers admission prepared) state
      (fun generated _ => prepared.payload.inputIds.length + 1 < window ∧
        generated.1 = generation.maxNewTokens ∧
        ResultWithin generation window generated.2.1 ∧
        generated.2.2.outputOverflow = false)
      (fun _ _ => True) ∧
    chatCompletions config format request answers = (do
      let admission ← admitRequest config format request answers
      let routed ← routeRequest config format request admission
      let prepared ← preparePrompt config format request admission routed
      let (maxTokens, result, accepted) ←
        budgetedGeneration config request answers admission prepared
      let interpreted ← interpret config request answers admission result accepted
      let draft ← raising (draftStep config format request admission routed prepared result
        accepted interpreted)
      let session ← getSession
      recordStep config format answers draft
      respond config maxTokens session.steps.length draft) := by
  intro generation
  have within := fun room : prepared.payload.inputIds.length + 1 < window =>
    generatePreemptible_within
      (budgetedRequest_budgeted caps isWindow answers state.session admission room) returns
  refine ⟨fun room => ⟨budgetedRequest_budgeted caps isWindow answers _ _ room,
    (within room).1⟩, ?_, by simp only [chatCompletions, budgetedGeneration, bind_assoc, pure_bind]⟩
  refine ensures_bind ((checkBudget_clamps dynamic isWindow admission.turnId prepared state).mono
    ?_ fun _ _ => id)
  rintro maxTokens _ ⟨rfl, rfl, room⟩
  refine ensures_bind ((generate_returns answers admission prepared.payload.inputIds _ _).mono
    ?_ fun _ _ => id)
  rintro result _ ⟨rfl, returned⟩
  have resultWithin := (within room).2 result returned
  refine ensures_bind ((acceptResult_ensures result _).mono ?_ fun _ _ _ => trivial)
  rintro accepted after ⟨_, rfl⟩
  refine ensures_pure ⟨room, rfl, resultWithin, ?_⟩
  rw [acceptedOf, resultWithin.noOverflow]
  rfl

def answeredTokens : ChunkEvent → Nat
  | .answered _ response _ => response.outputIds.length
  | _ => 0

def windowedConfig : ProxyConfig :=
  { PlainFormat.config with
    contextWindow := some 16
    maxOutputTokens := some 8 }

def firstAdmission : Admission PlainFormat.PlainMessage String :=
  { instanceId := "instance"
    turnId := "turn"
    previousStep := none
    normalizedMessages := []
    metadata := []
    appendOnly := false
    toolsHash := "" }

def tenTokens : Prepared :=
  { payload :=
      { inputIds := List.range 10
        contextDeltaIds := List.range 10
        usedTitoForPrompt := false
        titoIncrementalTokenizationFailed := false }
    segmentReasonsBefore := []
    segmentBoundaryBefore := false
    lineageSegmentReasonsBefore := []
    lineageSegmentBoundaryBefore := false }

def preemptedAnswers : Answers String :=
  PlainFormat.answers
    [.answered 0
      { PlainFormat.response "a" "v1" with
        finishReason := "abort"
        metaFinishReason := some "abort" } true,
     .answered 0 (PlainFormat.response "bcd#" "v2") false] "abcd" []

def preemptedRequest : Generation.Request :=
  budgetedRequest windowedConfig (PlainFormat.request [⟨"user", "hi"⟩]) preemptedAnswers
    PlainFormat.start.session firstAdmission tenTokens.payload.inputIds 16

theorem output_stays_in_budget_preempted :
    Ensures (budgetedGeneration windowedConfig (PlainFormat.request [⟨"user", "hi"⟩])
        preemptedAnswers firstAdmission tenTokens) PlainFormat.start
      (fun generated _ => generated.1 = 5 ∧ (generated.2.1.outputIds.length : Int) ≤ 5 ∧
        generated.2.2.outputOverflow = false)
      (fun _ _ => True) := by
  have returned : ∀ pass ∈ passesFrom true preemptedRequest
      (Progress.initial preemptedRequest) preemptedAnswers.chunks,
      ∀ budget ∈ remaining preemptedRequest pass.1, (answeredTokens pass.2 : Int) ≤ budget := by
    decide +kernel
  have inBudget := output_stays_in_budget windowedConfig PlainFormat.format
    (PlainFormat.request [⟨"user", "hi"⟩]) preemptedAnswers 16 rfl rfl
    { requested := by
        intro cap requested
        cases requested
      configured := by
        intro cap configured
        cases configured
        omega }
    firstAdmission tenTokens PlainFormat.start
    (fun progress epoch response aborted member => returned _ member)
  refine inBudget.2.1.mono ?_ fun _ _ => id
  rintro generated _ ⟨-, asked, within, noOverflow⟩
  have budget := within.budget
  exact ⟨asked, budget, noOverflow⟩

end Dressage.Proxy

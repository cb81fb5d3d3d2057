/-
One chat completion, end to end.

The pipeline runs under the session's request lock, so the requests of one
session are served one after another. It is written stage by stage in the
order of the source; a stage may end the request, and what it changed before
then stays changed. Everything awaited from outside the proxy (hooks, the
rebalancer, the engine, the parsers, TransferQueue) answers through `Answers`,
and may be cut short by a client disconnect.

The request starts here with its session found and active. The journal is
bookkeeping of the model: the proxy keeps no such lists. Usage counts, latency
fields, streaming and routed experts are left out, except that canonicalising
the routed experts may raise.
-/

import Dressage.Proxy.Generation
import Dressage.Proxy.PromptTokens

namespace Dressage.Proxy

open Lib Transport Generation

structure TransferQueueConfig where
  storeId : String
  logprobs : Bool
deriving DecidableEq

structure ProxyConfig where
  tokenBuildMode : TokenBuildMode
  titoModel : TitoModel
  recordTokenVersions : Bool
  maskNonlastVersionTokens : Bool
  contextWindow : Option Nat
  dynamicMaxTokens : Bool
  maxOutputTokens : Option Nat
  partialRollout : Bool
  maxPartialRolloutPreempts : Option Nat
  noneEqualsEmptyTools : Bool
  maxStepsPerSession : Nat
  toolCallHookChain : Option ToolCallHookChain
  transferQueue : Option TransferQueueConfig
deriving DecidableEq

inductive SeedValue
  | integer (value : Int)
  | other
deriving DecidableEq, Repr

structure ChatRequest (Message Tool : Type) where
  messages : List Message
  tools : Option (List Tool)
  instanceId : Option String
  turnId : Option String
  sandboxId : Option String
  expectedVersion : Option String
  seed : Option SeedValue
  maxTokens : Option Int

inductive Await (α : Type)
  | done (value : α)
  | raised (message : String)
  | cancelled
deriving DecidableEq

inductive LeaseAnswer
  | acquired
  | unavailable (message : String)
  | raised (message : String)
  | cancelled
deriving DecidableEq

inductive PutAnswer
  | stored
  | failed (message : String) (written : Bool)
deriving DecidableEq

/-- What one request is told by everything it waits for. -/
structure Answers (Call : Type) where
  uuidHex : String
  incarnationHex : String
  currentEpoch : Nat
  currentVersion : Option String
  afterDispatch : DispatchAnswers
  lease : LeaseAnswer
  chunks : List ChunkEvent
  requestError : Bool
  settlement : Await Unit
  reasoning : Await (Option String × String)
  toolCalls : Await (Option String × List Call)
  beforeDispatch : DispatchAnswers
  routedExperts : Except String Unit
  put : PutAnswer
  cancelledWhileRecording : Bool

inductive VersionChange
  | epochs (sessionEpoch currentEpoch : Nat)
  | versions (previousVersions newVersions : List String)
deriving DecidableEq

inductive ErrorDetail
  | text (message : String)
  | toolCallHookFailed (stage : Stage) (message sessionId instanceId : String)
  | trajectoryVersionChanged (message : String) (change : VersionChange)
    (sessionId instanceId : String)
  | partialRolloutStalenessExceeded (message : String) (versions : List String)
    (versionSpan versionSwitches maxPreempts : Nat) (sessionId instanceId : String)
  | weightVersionMismatch (expected observed sessionId instanceId : String)
  | weightVersionUnavailable (message sessionId instanceId : String)
  | generationPreempted (message sessionId instanceId : String)
  | engineRebalancingUnavailable (message : String)
  | sglangUpstreamUnavailable (detail : String)
  | proxyShuttingDown
deriving DecidableEq

inductive Refusal
  | http (status : Nat) (detail : ErrorDetail)
  | contextOverflow (details : ContextOverflow)
  | uncaught (message : String)
  | cancelled
deriving DecidableEq

structure Completion (Call : Type) where
  content : Option String
  reasoningContent : Option String
  toolCalls : List Call
  finishReason : String
deriving DecidableEq

/-- One dispatch of a hook stage: whether it claimed its key, and then the applicable hooks in
the order they are run, with what each answers. -/
structure Dispatch where
  stage : Stage
  turnId : String
  stepIndex : Nat
  claimed : Bool
  hooks : List (ToolCallHook × HookOutcome)
deriving DecidableEq

def Dispatch.requiredCompleted (dispatch : Dispatch) : Prop :=
  dispatch.claimed = true ∧ requiredHooksCompleted dispatch.hooks = true

instance (dispatch : Dispatch) : Decidable dispatch.requiredCompleted :=
  inferInstanceAs (Decidable (_ ∧ _))

structure Journal where
  dispatches : List Dispatch
  generations : OrderedDict StepId (List GenerationChunk)
  toolCallResponses : List (String × Nat)

structure ProxyState (Message Tool : Type) where
  session : Session Message Tool
  chain : ChainState
  queue : TransferQueue
  journal : Journal

abbrev Pipeline (Message Tool : Type) := Effect (ProxyState Message Tool) Refusal

variable {Message Tool Call : Type}

def ProxyState.initial (sessionId instanceId : String) (now : ℚ) : ProxyState Message Tool :=
  { session := Session.new sessionId instanceId
    chain := ChainState.initial now
    queue := OrderedDict.empty
    journal :=
      { dispatches := []
        generations := OrderedDict.empty
        toolCallResponses := [] } }

def getSession : Pipeline Message Tool (Session Message Tool) := fun state =>
  (.ok state.session, state)

def modifySession (change : Session Message Tool → Session Message Tool) :
    Pipeline Message Tool Unit :=
  Effect.modify (fun state => { state with session := change state.session })

def onSession {α : Type} (operation : Effect (Session Message Tool) String α) :
    Pipeline Message Tool (Except String α) := fun state =>
  ((.ok (operation state.session).1), { state with session := (operation state.session).2 })

def awaitOutcome {α : Type} (outcome : Await α) : Pipeline Message Tool α :=
  match outcome with
  | .done value => pure value
  | .raised message => Effect.fail (.uncaught message)
  | .cancelled => Effect.fail .cancelled

/-- An exception that no handler of the endpoint names ends as a server error. -/
def raising {α : Type} (result : Except String α) : Pipeline Message Tool α :=
  match result with
  | .ok value => pure value
  | .error message => Effect.fail (.uncaught message)

def nonRealTokenVersions : List String := ["", "-1", "unknown", "none"]

def realTokenVersion (value : Option String) : Option String :=
  value.bind fun version =>
    if Text.lower (Text.strip version) ∈ nonRealTokenVersions then none else some version

def sessionRealVersions (session : Session Message Tool) : List String :=
  session.steps.flatMap fun step =>
    (step.responseVersions.map some ++ [step.responseVersion, step.requestVersion]).filterMap
      realTokenVersion

def orderedRealVersions (values : List String) : List String :=
  (values.filterMap (fun value => realTokenVersion (some value))).foldl
    (fun seen version => if version ∈ seen then seen else seen ++ [version]) []

def sessionResponseVersions (session : Session Message Tool) : List String :=
  session.steps.flatMap StepRecord.responseVersions

def sortedVersions (versions : List String) : List String :=
  versions.dedup.insertionSort (· ≤ ·)

def staleEpochRefusal (session : Session Message Tool) (sessionEpoch currentEpoch : Nat) :
    Refusal :=
  .http 502 (.trajectoryVersionChanged
    ("Dressage rollout epoch changed during a non-partial rollout " ++
      "trajectory; rejecting the trajectory before sending it to SGLang.")
    (.epochs sessionEpoch currentEpoch) session.sessionId session.instanceId)

def raiseIfStaleRolloutEpoch (config : ProxyConfig) (session : Session Message Tool)
    (currentEpoch : Nat) : Pipeline Message Tool Unit :=
  match session.rolloutEpoch with
  | none => pure ()
  | some sessionEpoch =>
    Effect.failIf
      (config.partialRollout = false ∧ session.steps ≠ [] ∧ sessionEpoch ≠ currentEpoch)
      (staleEpochRefusal session sessionEpoch currentEpoch)

def crossVersionRefusal (session : Session Message Tool) (newVersions : List String) : Refusal :=
  .http 502 (.trajectoryVersionChanged
    ("SGLang weight version changed during a non-partial rollout " ++
      "trajectory; rejecting the trajectory instead of continuing it.")
    (.versions (sortedVersions (sessionRealVersions session)) (sortedVersions newVersions))
    session.sessionId session.instanceId)

def raiseIfCrossVersionTrajectory (config : ProxyConfig) (session : Session Message Tool)
    (candidates : List (Option String)) : Pipeline Message Tool Unit :=
  let previous := sessionRealVersions session
  let new := candidates.filterMap realTokenVersion
  Effect.failIf
    (config.partialRollout = false ∧ previous ≠ [] ∧ ∃ version ∈ new, version ∉ previous)
    (crossVersionRefusal session new)

def partialSpanRefusal (session : Session Message Tool) (versions : List String)
    (maxPreempts : Nat) : Refusal :=
  .http 502 (.partialRolloutStalenessExceeded
    ("Partial rollout model version span exceeded limit; " ++
      "rejecting the trajectory instead of continuing it.")
    versions versions.length (versions.length - 1) maxPreempts
    session.sessionId session.instanceId)

def raiseIfPartialVersionSpanExceeded (config : ProxyConfig) (session : Session Message Tool)
    (candidates : List String) : Pipeline Message Tool Unit :=
  match config.maxPartialRolloutPreempts with
  | none => pure ()
  | some maxPreempts =>
    let versions := orderedRealVersions (sessionResponseVersions session ++ candidates)
    Effect.failIf (config.partialRollout = true ∧ maxPreempts < versions.length - 1)
      (partialSpanRefusal session versions maxPreempts)

def journalDispatch (dispatch : Dispatch) (state : ProxyState Message Tool) :
    ProxyState Message Tool :=
  { state with
    journal := { state.journal with dispatches := state.journal.dispatches ++ [dispatch] } }

def dispatchEntry (chain : ToolCallHookChain) (stage : Stage) (context : ToolCallContext)
    (turnId : String) (answers : DispatchAnswers) (state : ChainState) : Dispatch :=
  { stage := stage
    turnId := turnId
    stepIndex := context.stepIndex
    claimed := (chain.claimIdempotency context answers.now state).1
    hooks := (chain.stageHooks stage answers).map (fun entry =>
      (entry.1, answers.outcome entry.2)) }

def toolCallContext (session : Session Message Tool) (sandboxId instanceId turnId : String)
    (stepIndex : Nat) (stage : Stage) : ToolCallContext :=
  { instanceId := some instanceId
    sessionId := session.sessionId
    turnId := some turnId
    stepIndex := stepIndex
    sandboxId := sandboxId
    idempotencyKey := some (buildToolCallIdempotencyKey session.sessionId (some turnId) stepIndex
      stage) }

def hookRefusal (session : Session Message Tool) (stage : Stage) (instanceId : String) :
    DispatchFailure → Refusal
  | .toolCallHookError message =>
    .http 502 (.toolCallHookFailed stage message session.sessionId instanceId)
  | .cancelled => .cancelled

def dispatchToolCallHooks (config : ProxyConfig) (stage : Stage) (sandboxId : Option String)
    (instanceId turnId : String) (stepIndex : Nat) (answers : DispatchAnswers)
    (metadata : List HookFailure) : Pipeline Message Tool (List HookFailure) := fun state =>
  match config.toolCallHookChain, sandboxId with
  | none, _ => (.ok metadata, state)
  | some _, none => (.ok metadata, state)
  | some chain, some sandbox =>
    if sandbox = "" then (.ok metadata, state)
    else
      let context := toolCallContext state.session sandbox instanceId turnId stepIndex stage
      let ran := chain.runStage stage context answers metadata state.chain
      let entry := dispatchEntry chain stage context turnId answers state.chain
      let after := journalDispatch entry { state with chain := ran.2 }
      match ran.1 with
      | .ok extended => (.ok extended, after)
      | .error failure => (.error (hookRefusal state.session stage instanceId failure), after)

def endsWithToolMessage (format : ChatFormat Message Tool Call) (messages : List Message) : Bool :=
  match messages.getLast? with
  | none => false
  | some message => decide (format.role message = some "tool")

def dispatchAfterToolCallHooks (config : ProxyConfig) (format : ChatFormat Message Tool Call)
    (sandboxId : Option String) (instanceId turnId : String) (stepIndex : Nat)
    (messages : List Message) (answers : DispatchAnswers) :
    Pipeline Message Tool (List HookFailure) :=
  if endsWithToolMessage format messages then
    dispatchToolCallHooks config .after sandboxId instanceId turnId stepIndex answers []
  else pure []

structure Admission (Message Tool : Type) where
  instanceId : String
  turnId : String
  previousStep : Option (StepRecord Message Tool)
  normalizedMessages : List Message
  metadata : List HookFailure
  appendOnly : Bool
  toolsHash : String

def adoptInstanceId (request : ChatRequest Message Tool) (session : Session Message Tool) :
    Session Message Tool :=
  match request.instanceId with
  | none => session
  | some instanceId =>
    if instanceId = "" then session else { session with instanceId := instanceId }

def effectiveInstanceId (request : ChatRequest Message Tool) (session : Session Message Tool) :
    String :=
  match request.instanceId with
  | none => session.instanceId
  | some instanceId => if instanceId = "" then session.instanceId else instanceId

def isAppendOnlyContinuation [BEq Message] (format : ChatFormat Message Tool Call)
    (previous current : List Message) : Bool :=
  decide (previous.length ≤ current.length) &&
    (previous.map format.normalizeMessage ==
      (current.take previous.length).map format.normalizeMessage)

def resolveTurn (requestedTurnId : Option String) (uuidHex : String) :
    Pipeline Message Tool String := do
  let resolved ← onSession (fun session => session.resolveTurnId requestedTurnId uuidHex)
  match resolved with
  | .ok turnId => pure turnId
  | .error message => Effect.fail (.http 400 (.text message))

def admitRequest [BEq Message] (config : ProxyConfig) (format : ChatFormat Message Tool Call)
    (request : ChatRequest Message Tool) (answers : Answers Call) :
    Pipeline Message Tool (Admission Message Tool) := do
  modifySession (adoptInstanceId request)
  let turnId ← resolveTurn request.turnId answers.uuidHex
  let session ← getSession
  raiseIfStaleRolloutEpoch config session answers.currentEpoch
  let normalized ← raising (format.normalizeTemplateMessages request.messages)
  let metadata ← dispatchAfterToolCallHooks config format request.sandboxId
    (effectiveInstanceId request session) turnId session.steps.length normalized
    answers.afterDispatch
  pure
    { instanceId := effectiveInstanceId request session
      turnId := turnId
      previousStep := session.latestStep
      normalizedMessages := normalized
      metadata := metadata
      appendOnly :=
        match session.latestStep with
        | none => true
        | some previous => isAppendOnlyContinuation format previous.messagesSnapshot
          request.messages
      toolsHash := toolsHash format config.noneEqualsEmptyTools request.tools }

structure Routed (Message Tool : Type) where
  route : Route
  routeBaseStep : Option (StepRecord Message Tool)
  rewriteReason : Option String
  segmentReasonsBefore : List String
  segmentBoundaryBefore : Bool
  lineageSegmentReasonsBefore : List String

/-- The route taken when rendering raised: the previous step's lineage if the request only
appends to it, a lineage of its own otherwise. -/
def safetyRoute (admission : Admission Message Tool) : Effect (Session Message Tool) String Route :=
  match admission.previousStep with
  | none => createRoute
  | some previous => if admission.appendOnly then pure (appendRoute previous) else createRoute

def chooseRoute [BEq Message] (config : ProxyConfig) (format : ChatFormat Message Tool Call)
    (request : ChatRequest Message Tool) (admission : Admission Message Tool) :
    Effect (Session Message Tool) String (Route × Bool) := do
  let selected ← Effect.attempt (selectRoute format config.noneEqualsEmptyTools
    admission.normalizedMessages request.tools admission.toolsHash)
  match selected with
  | .ok route => pure (route, false)
  | .error _ => do
    let route ← safetyRoute admission
    pure (route, true)

def boundaryReasons (rewriteDetected toolsChanged messagePrefixMismatch : Bool) : List String :=
  (if rewriteDetected then ["history_rewrite"] else []) ++
    (if messagePrefixMismatch then ["message_prefix_mismatch"] else []) ++
    (if toolsChanged then ["tools_changed"] else [])

def rewriteText : String := "Turn history rewritten between steps."

def rewriteDetected (admission : Admission Message Tool) : Bool :=
  match admission.previousStep with
  | none => false
  | some previous => decide (previous.turnId = admission.turnId) && !admission.appendOnly

def baseToolsChanged (config : ProxyConfig) (format : ChatFormat Message Tool Call)
    (baseStep : Option (StepRecord Message Tool)) (tools : Option (List Tool)) : Bool :=
  match baseStep with
  | none => false
  | some base => toolsChanged format config.noneEqualsEmptyTools base.tools tools

def routedOf (config : ProxyConfig) (format : ChatFormat Message Tool Call)
    (request : ChatRequest Message Tool) (admission : Admission Message Tool)
    (session : Session Message Tool) (route : Route) (renderFailed : Bool) :
    Routed Message Tool :=
  let baseStep := route.baseStepId.bind session.stepById
  let rewritten := rewriteDetected admission
  let changed := baseToolsChanged config format baseStep request.tools
  let mismatch := decide (config.tokenBuildMode = .tito) && admission.previousStep.isSome &&
    decide (route.type = .create) && !rewritten
  let reasons := boundaryReasons rewritten changed mismatch
  { route := route
    routeBaseStep := baseStep
    rewriteReason := if rewritten then some rewriteText else none
    segmentReasonsBefore :=
      if renderFailed && admission.previousStep.isSome then
        reasons ++ ["tito_routing_render_failed"]
      else reasons
    segmentBoundaryBefore := admission.previousStep.isSome && (!reasons.isEmpty || renderFailed)
    lineageSegmentReasonsBefore :=
      (if changed then ["tools_changed"] else []) ++
        (if renderFailed then ["tito_routing_render_failed"] else []) }

def routeRequest [BEq Message] (config : ProxyConfig) (format : ChatFormat Message Tool Call)
    (request : ChatRequest Message Tool) (admission : Admission Message Tool) :
    Pipeline Message Tool (Routed Message Tool) := do
  let chosen ← onSession (chooseRoute config format request admission)
  let routing ← raising chosen
  let session ← getSession
  let routed := routedOf config format request admission session routing.1 routing.2
  modifySession (fun current =>
    if rewriteDetected admission then current.markHistoryRewritten rewriteText else current)
  pure routed

structure Prepared where
  payload : PromptPayload
  segmentReasonsBefore : List String
  segmentBoundaryBefore : Bool
  lineageSegmentReasonsBefore : List String
  lineageSegmentBoundaryBefore : Bool
deriving DecidableEq

def titoFailedText : String := "tito_incremental_tokenization_failed"

def addReason (reasons : List String) (reason : String) : List String :=
  if reason ∈ reasons then reasons else reasons ++ [reason]

/-- A failed merge falls back to the full prompt and opens a new segment after the fact. -/
def preparedOf (routed : Routed Message Tool) (payload : PromptPayload) : Prepared :=
  if payload.titoIncrementalTokenizationFailed = true ∧ routed.routeBaseStep.isSome then
    { payload := payload
      segmentReasonsBefore := addReason routed.segmentReasonsBefore titoFailedText
      segmentBoundaryBefore := true
      lineageSegmentReasonsBefore := addReason routed.lineageSegmentReasonsBefore titoFailedText
      lineageSegmentBoundaryBefore := true }
  else
    { payload := payload
      segmentReasonsBefore := routed.segmentReasonsBefore
      segmentBoundaryBefore := routed.segmentBoundaryBefore
      lineageSegmentReasonsBefore := routed.lineageSegmentReasonsBefore
      lineageSegmentBoundaryBefore := !routed.lineageSegmentReasonsBefore.isEmpty }

def preparePrompt (config : ProxyConfig) (format : ChatFormat Message Tool Call)
    (request : ChatRequest Message Tool) (admission : Admission Message Tool)
    (routed : Routed Message Tool) : Pipeline Message Tool Prepared := do
  let session ← getSession
  let payload ← raising (buildPromptTokens format config.tokenBuildMode config.titoModel session
    routed.route (!routed.lineageSegmentReasonsBefore.isEmpty) admission.normalizedMessages
    request.tools)
  pure (preparedOf routed payload)

def seedValid : Option SeedValue → Bool
  | none => true
  | some .other => false
  | some (.integer value) => decide (-(2 ^ 63) ≤ value ∧ value ≤ 2 ^ 63 - 1)

def configuredMaxTokens (config : ProxyConfig) (request : ChatRequest Message Tool) : Option Int :=
  match request.maxTokens, config.maxOutputTokens with
  | some requested, some cap => some (min requested cap)
  | some requested, none => some requested
  | none, some cap => some (cap : Int)
  | none, none => none

def overflowDetails (session : Session Message Tool) (turnId phase : String)
    (window inputTokens outputTokens : Nat) (maxTokens : Int) (recorded : Bool) : ContextOverflow :=
  { phase := phase
    contextWindow := window
    inputTokens := inputTokens
    outputTokens := outputTokens
    totalTokens := inputTokens + outputTokens
    maxTokens := maxTokens
    sessionId := some session.sessionId
    turnId := some turnId
    lastProxyStepRecorded := recorded }

/-- The window's part of the budget: refuse a prompt that leaves no room, else cap. -/
def windowBudget (config : ProxyConfig) (session : Session Message Tool) (turnId : String)
    (promptTokens : Nat) (configured : Option Int) : Except Refusal Int :=
  match config.contextWindow with
  | none => .ok (configured.getD 0)
  | some window =>
    if window ≤ promptTokens then
      .error (.contextOverflow (overflowDetails session turnId "input" window promptTokens 0
        (configured.getD 0) false))
    else if config.dynamicMaxTokens = false then .ok (configured.getD 0)
    else if window - promptTokens - 1 < 1 then
      .error (.contextOverflow (overflowDetails session turnId "input_output" window promptTokens
        0 (configured.getD 0) false))
    else
      let remainingContext : Int := (window - promptTokens - 1 : Nat)
      .ok (match configured with
        | none => remainingContext
        | some cap => min cap remainingContext)

def stepLimitText (session : Session Message Tool) (limit : Nat) : String :=
  s!"Session {session.sessionId} reached proxy step limit ({limit}). Refusing further inference."

def checkBudget (config : ProxyConfig) (request : ChatRequest Message Tool) (turnId : String)
    (prepared : Prepared) : Pipeline Message Tool Int := do
  let session ← getSession
  Effect.failIf (seedValid request.seed = false)
    (.http 400 (.text "seed must be a signed 64-bit integer"))
  let maxTokens ← Effect.ofExcept (windowBudget config session turnId
    prepared.payload.inputIds.length (configuredMaxTokens config request))
  Effect.failIf (0 < config.maxStepsPerSession ∧ config.maxStepsPerSession ≤ session.steps.length)
    (.http 400 (.text (stepLimitText session config.maxStepsPerSession)))
  pure maxTokens

def generationRequest (config : ProxyConfig) (request : ChatRequest Message Tool)
    (answers : Answers Call) (session : Session Message Tool)
    (admission : Admission Message Tool) (inputIds : List Nat) (maxTokens : Int) : Request :=
  { inputIds := inputIds
    maxNewTokens := maxTokens
    sessionId := some session.sessionId
    instanceId := some admission.instanceId
    turnId := some admission.turnId
    expectedVersion := request.expectedVersion
    expectedEpoch :=
      if config.partialRollout = false ∧ session.steps ≠ [] then some answers.currentEpoch
      else none
    logprobStartLen := if config.tokenBuildMode = .tito then -1 else 0
    contextWindow := config.contextWindow }

def versionUnavailableText : String :=
  "SGLang response omitted weight_version for a version-pinned request"

def generationPreemptedText : String :=
  "SGLang generation was interrupted while partial rollout resume is disabled"

def generateRefusal (session : Session Message Tool) (instanceId : String) (requestError : Bool) :
    GenerateError → Refusal
  | .versionMismatch expected observed =>
    .http 502 (.weightVersionMismatch expected observed session.sessionId instanceId)
  | .versionUnavailable =>
    .http 502 (.weightVersionUnavailable versionUnavailableText session.sessionId instanceId)
  | .staleEpoch expectedEpoch currentEpoch =>
    .http 502 (.trajectoryVersionChanged
      "Dressage rollout epoch changed before generation reached SGLang"
      (.epochs expectedEpoch currentEpoch) session.sessionId instanceId)
  | .generationPreempted =>
    .http 502 (.generationPreempted generationPreemptedText session.sessionId instanceId)
  | .proxyShuttingDown => .http 503 .proxyShuttingDown
  | .upstream message =>
    if requestError then .http 503 (.sglangUpstreamUnavailable message) else .uncaught message

def acquireLease (answer : LeaseAnswer) : Pipeline Message Tool Unit :=
  match answer with
  | .acquired => pure ()
  | .unavailable message => Effect.fail (.http 503 (.engineRebalancingUnavailable message))
  | .raised message => Effect.fail (.uncaught message)
  | .cancelled => Effect.fail .cancelled

/-- The lease is settled whether the generation returned or raised; only a cancellation of the
settlement surfaces. -/
def settleLease (settlement : Await Unit) : Pipeline Message Tool Unit :=
  Effect.failIf (settlement = .cancelled) .cancelled

def generate (config : ProxyConfig) (request : ChatRequest Message Tool) (answers : Answers Call)
    (admission : Admission Message Tool) (inputIds : List Nat) (maxTokens : Int) :
    Pipeline Message Tool PreemptibleGenerateResult := do
  let session ← getSession
  raiseIfCrossVersionTrajectory config session [request.expectedVersion, answers.currentVersion]
  acquireLease answers.lease
  let outcome := generatePreemptible config.partialRollout
    (generationRequest config request answers session admission inputIds maxTokens) answers.chunks
  settleLease answers.settlement
  match outcome with
  | none => Effect.fail .cancelled
  | some (.error error) =>
    Effect.fail (generateRefusal session admission.instanceId answers.requestError error)
  | some (.ok result) => pure result

structure Accepted where
  responseVersions : List String
  responseVersion : String
  outputOverflow : Bool
deriving DecidableEq

def resultVersion (result : PreemptibleGenerateResult) : String :=
  match result.outputVersions.getLast? with
  | some version => version
  | none =>
    match result.weightVersion with
    | none => "unknown"
    | some version => if version = "" then "unknown" else version

def acceptedOf (config : ProxyConfig) (result : PreemptibleGenerateResult) : Accepted :=
  { responseVersions :=
      if result.outputVersions.length = result.outputIds.length then result.outputVersions
      else List.replicate result.outputIds.length (resultVersion result)
    responseVersion := resultVersion result
    outputOverflow := result.contextOverflow.isSome && config.contextWindow.isSome }

def stampRolloutEpoch (result : PreemptibleGenerateResult) (session : Session Message Tool) :
    Session Message Tool :=
  { session with
    rolloutEpoch :=
      match session.rolloutEpoch with
      | none => result.rolloutEpoch
      | some epoch => some epoch }

def acceptResult (config : ProxyConfig) (result : PreemptibleGenerateResult) :
    Pipeline Message Tool Accepted := do
  let session ← getSession
  let accepted := acceptedOf config result
  raiseIfCrossVersionTrajectory config session
    (accepted.responseVersions.map some ++
      [some accepted.responseVersion, some accepted.responseVersion])
  if accepted.outputOverflow then pure ()
  else raiseIfPartialVersionSpanExceeded config session accepted.responseVersions
  modifySession (stampRolloutEpoch result)
  pure accepted

structure Interpreted (Call : Type) where
  content : Option String
  reasoningContent : Option String
  toolCalls : List Call
  finishReason : String
  metadata : List HookFailure

def imEndMarkers : List String := ["<|im_end|>", "<|endoftext|>"]

/-- One marker, stripped as often as it ends the text. Every round shortens the text. -/
def stripMarker (marker : String) : Nat → String → String
  | 0, text => text
  | fuel + 1, text =>
    let trimmed := Text.rstrip text
    if marker.toList.isSuffixOf trimmed.toList then
      stripMarker marker fuel (String.ofList (trimmed.toList.take (trimmed.length - marker.length)))
    else text

def stripPublicStopMarkers (content : Option String) : Option String :=
  match content with
  | none => none
  | some text =>
    let cleaned := imEndMarkers.foldl
      (fun current marker => stripMarker marker current.length current) text
    if Text.strip cleaned = "" then none else some cleaned

/-- Parsing the text; tool calls run the `before` hooks before anything is recorded. -/
def interpret (config : ProxyConfig) (request : ChatRequest Message Tool) (answers : Answers Call)
    (admission : Admission Message Tool) (result : PreemptibleGenerateResult)
    (accepted : Accepted) : Pipeline Message Tool (Interpreted Call) :=
  let finishReason :=
    if accepted.outputOverflow = true ∨ result.finishReason = "length" then "length" else "stop"
  if accepted.outputOverflow then
    pure
      { content := some ""
        reasoningContent := none
        toolCalls := []
        finishReason := finishReason
        metadata := admission.metadata }
  else do
    let reasoning ← awaitOutcome answers.reasoning
    let parsed ← awaitOutcome answers.toolCalls
    if parsed.2.isEmpty then
      pure
        { content := stripPublicStopMarkers parsed.1
          reasoningContent := reasoning.1
          toolCalls := []
          finishReason := finishReason
          metadata := admission.metadata }
    else do
      let session ← getSession
      let metadata ← dispatchToolCallHooks config .before request.sandboxId admission.instanceId
        admission.turnId session.steps.length answers.beforeDispatch admission.metadata
      pure
        { content := stripPublicStopMarkers parsed.1
          reasoningContent := reasoning.1
          toolCalls := parsed.2
          finishReason := "tool_calls"
          metadata := metadata }

def transferFields (config : ProxyConfig) : List StepField :=
  match config.transferQueue with
  | none => []
  | some queue =>
    if queue.logprobs then
      [.promptTokenLogprobs, .responseLogprobs, .allLogprobs] ++
        (if config.tokenBuildMode = .tito then [.concatResponseLogprobs] else [])
    else []

abbrev Columns := StepField → List Logprob

def stepRef (storeId sessionId incarnationId : String) (stepIndex : Nat) (field : StepField) :
    TQFieldRef :=
  { storeId := storeId
    trajectoryId := sessionId
    incarnationId := incarnationId
    stepIndex := stepIndex
    field := field }

def storeColumns (fields : List StepField) (refOf : StepField → TQFieldRef) (columns : Columns)
    (queue : TransferQueue) : TransferQueue :=
  fields.foldl (fun current field => current.set (refOf field) (columns field)) queue

def fieldValueOf (fields : List StepField) (refOf : StepField → TQFieldRef) (columns : Columns)
    (field : StepField) : FieldValue :=
  if field ∈ fields then .remote (refOf field) else .resident (columns field)

/-- The response as it is recorded: an overflowing output is dropped as a whole. -/
structure RecordedResponse where
  tokenIds : List Nat
  logprobs : List Logprob
  versions : List String
  allTokenIds : List Nat
  allLogprobs : List Logprob
  allVersions : List String
deriving DecidableEq

def recordedResponse (result : PreemptibleGenerateResult) (accepted : Accepted)
    (inputIds : List Nat) : RecordedResponse :=
  let promptVersions := List.replicate inputIds.length inputTokenVersion
  if accepted.outputOverflow then
    { tokenIds := []
      logprobs := []
      versions := []
      allTokenIds := inputIds
      allLogprobs := result.inputTokenLogprobsRaw
      allVersions := promptVersions }
  else
    { tokenIds := result.outputIds
      logprobs := result.outputTokenLogprobs
      versions := accepted.responseVersions
      allTokenIds := result.allTokenIds
      allLogprobs := result.allLogprobs
      allVersions := promptVersions ++ accepted.responseVersions }

def emptyConcatPayload : ConcatStepPayload :=
  { tokenIds := []
    responseLogprobs := []
    responseMask := []
    versions := []
    contextTokenCount := 0
    outputTokenCount := 0
    logprobsInvalid := false
    incrementalTokenizationFailed := false }

structure StepDraft (Message Tool Call : Type) where
  admission : Admission Message Tool
  routed : Routed Message Tool
  prepared : Prepared
  result : PreemptibleGenerateResult
  accepted : Accepted
  interpreted : Interpreted Call
  tools : Option (List Tool)
  fullMessages : List Message
  normalizedFullMessages : List Message
  snapshotTokenIds : List Nat

def StepDraft.recorded (draft : StepDraft Message Tool Call) : RecordedResponse :=
  recordedResponse draft.result draft.accepted draft.prepared.payload.inputIds

def StepDraft.concat (draft : StepDraft Message Tool Call) (mode : TokenBuildMode) :
    ConcatStepPayload :=
  match mode with
  | .snapshot => emptyConcatPayload
  | .tito =>
    buildConcatStepPayload draft.prepared.payload.contextDeltaIds draft.recorded.tokenIds
      draft.recorded.logprobs draft.recorded.versions
      draft.prepared.payload.titoIncrementalTokenizationFailed

def StepDraft.columns (draft : StepDraft Message Tool Call) (mode : TokenBuildMode) : Columns
  | .promptTokenLogprobs => draft.result.inputTokenLogprobsRaw
  | .responseLogprobs => draft.recorded.logprobs
  | .allLogprobs => draft.recorded.allLogprobs
  | .concatResponseLogprobs => (draft.concat mode).responseLogprobs

def StepDraft.step (draft : StepDraft Message Tool Call) (mode : TokenBuildMode) (stepId : StepId)
    (lineageIndex : Nat) (values : StepField → FieldValue) : StepRecord Message Tool :=
  let recorded := draft.recorded
  let concat := draft.concat mode
  let inputIds := draft.prepared.payload.inputIds
  { turnId := draft.admission.turnId
    promptTokenIds := inputIds
    promptTokenLogprobs := values .promptTokenLogprobs
    snapshotTokenIds := draft.snapshotTokenIds
    responseTokenIds := recorded.tokenIds
    responseLogprobs := values .responseLogprobs
    allTokenIds := recorded.allTokenIds
    allLogprobs := values .allLogprobs
    messagesSnapshot := draft.fullMessages
    stepId := stepId
    lineageId := draft.routed.route.lineageId
    lineageIndex := lineageIndex
    routeType := draft.routed.route.type
    routeBaseStepId := draft.routed.route.baseStepId
    normalizedMessagesSnapshot :=
      if draft.normalizedFullMessages = [] then draft.fullMessages
      else draft.normalizedFullMessages
    lineageSegmentBoundaryBefore := draft.prepared.lineageSegmentBoundaryBefore
    lineageSegmentReasonsBefore := draft.prepared.lineageSegmentReasonsBefore
    promptVersions := List.replicate inputIds.length inputTokenVersion
    responseVersions := recorded.versions
    allVersions := recorded.allVersions
    allLogprobsInvalid := draft.result.allLogprobsInvalid
    concatTokenIds := concat.tokenIds
    concatResponseLogprobs := values .concatResponseLogprobs
    concatResponseMask := concat.responseMask
    concatVersions := concat.versions
    concatContextTokenCount := concat.contextTokenCount
    concatOutputTokenCount := concat.outputTokenCount
    concatLogprobsInvalid := concat.logprobsInvalid
    concatIncrementalTokenizationFailed := concat.incrementalTokenizationFailed
    tools := draft.tools
    segmentBoundaryBefore := draft.prepared.segmentBoundaryBefore
    rewriteReason := draft.routed.rewriteReason
    segmentReasonBefore := draft.prepared.segmentReasonsBefore.head?
    segmentReasonsBefore := draft.prepared.segmentReasonsBefore
    finishReason := draft.interpreted.finishReason
    requestVersion := some draft.accepted.responseVersion
    responseVersion := some draft.accepted.responseVersion
    toolCallHookMetadata := draft.interpreted.metadata }

/-- The snapshot's token ids: the engine's own in tito mode, tokenized anew otherwise. -/
def snapshotTokenIds (config : ProxyConfig) (format : ChatFormat Message Tool Call)
    (inputIds responseIds : List Nat) (normalized : List Message) (tools : Option (List Tool)) :
    Except String (List Nat) :=
  match config.tokenBuildMode with
  | .tito => .ok (inputIds ++ responseIds)
  | .snapshot => format.tokenizeMessages normalized tools false

def snapshotCache (format : ChatFormat Message Tool Call) (normalized : List Message)
    (tools : Option (List Tool)) (hash : String) : SnapshotCache :=
  match format.renderMessages normalized tools false with
  | .ok rendered =>
    { rendered := rendered
      renderedLen := rendered.length
      toolsHash := hash }
  -- A failed render records the step without a rendered cache.
  | .error _ =>
    { rendered := ""
      renderedLen := 0
      toolsHash := hash }

def commitStep (format : ChatFormat Message Tool Call) (step : StepRecord Message Tool)
    (cache : SnapshotCache) (chunks : List GenerationChunk) (queue : TransferQueue)
    (state : ProxyState Message Tool) : ProxyState Message Tool :=
  { state with
    session := state.session.recordStep (fingerprint format) step cache
    queue := queue
    journal :=
      { state.journal with generations := state.journal.generations.set step.stepId chunks } }

def recordLocally (config : ProxyConfig) (format : ChatFormat Message Tool Call)
    (draft : StepDraft Message Tool Call) (stepId : StepId) (lineageIndex : Nat)
    (cache : SnapshotCache) : Pipeline Message Tool Unit :=
  Effect.modify (fun state =>
    commitStep format
      (draft.step config.tokenBuildMode stepId lineageIndex
        (fun field => .resident (draft.columns config.tokenBuildMode field)))
      cache draft.result.chunks state.queue state)

/-- With TransferQueue the columns are stored first. A cancelled request still waits for its
commit and then ends cancelled. -/
def recordRemotely (config : ProxyConfig) (format : ChatFormat Message Tool Call)
    (queueConfig : TransferQueueConfig) (answers : Answers Call)
    (draft : StepDraft Message Tool Call) (stepId : StepId) (lineageIndex : Nat)
    (cache : SnapshotCache) : Pipeline Message Tool Unit := do
  modifySession (fun session =>
    { session with incarnationId := some (session.incarnationId.getD answers.incarnationHex) })
  let session ← getSession
  let refOf := stepRef queueConfig.storeId session.sessionId
    (session.incarnationId.getD answers.incarnationHex) session.steps.length
  let columns := draft.columns config.tokenBuildMode
  let stored := storeColumns (transferFields config) refOf columns
  match answers.put with
  | .failed message written => do
    Effect.modify (fun state =>
      { state with queue := if written then stored state.queue else state.queue })
    Effect.fail (if answers.cancelledWhileRecording then .cancelled else .uncaught message)
  | .stored => do
    Effect.modify (fun state =>
      commitStep format
        (draft.step config.tokenBuildMode stepId lineageIndex
          (fieldValueOf (transferFields config) refOf columns))
        cache draft.result.chunks (stored state.queue) state)
    Effect.failIf (answers.cancelledWhileRecording = true) .cancelled

def recordStep (config : ProxyConfig) (format : ChatFormat Message Tool Call)
    (answers : Answers Call) (draft : StepDraft Message Tool Call) :
    Pipeline Message Tool Unit := do
  raising answers.routedExperts
  let session ← getSession
  modifySession (fun current => current.nextStepId.2)
  match session.lineages.get? draft.routed.route.lineageId with
  | none => Effect.fail (.uncaught "KeyError")
  | some lineage =>
    let cache := snapshotCache format draft.normalizedFullMessages draft.tools
      draft.admission.toolsHash
    match config.transferQueue with
    | none => recordLocally config format draft session.nextStepId.1 lineage.index cache
    | some queueConfig =>
      recordRemotely config format queueConfig answers draft session.nextStepId.1 lineage.index
        cache

def journalResponse (turnId : String) (stepIndex : Nat) (state : ProxyState Message Tool) :
    ProxyState Message Tool :=
  { state with
    journal :=
      { state.journal with
        toolCallResponses := state.journal.toolCallResponses ++ [(turnId, stepIndex)] } }

def respond (config : ProxyConfig) (maxTokens : Int) (stepIndex : Nat)
    (draft : StepDraft Message Tool Call) : Pipeline Message Tool (Completion Call) := do
  let session ← getSession
  Effect.failIf (draft.accepted.outputOverflow = true)
    (.contextOverflow (overflowDetails session draft.admission.turnId "input_output"
      (config.contextWindow.getD 0) draft.prepared.payload.inputIds.length
      draft.result.outputIds.length maxTokens true))
  Effect.modify (fun state =>
    if draft.interpreted.toolCalls.isEmpty then state
    else journalResponse draft.admission.turnId stepIndex state)
  pure
    { content := draft.interpreted.content
      reasoningContent := draft.interpreted.reasoningContent
      toolCalls := draft.interpreted.toolCalls
      finishReason := draft.interpreted.finishReason }

def draftStep (config : ProxyConfig) (format : ChatFormat Message Tool Call)
    (request : ChatRequest Message Tool) (admission : Admission Message Tool)
    (routed : Routed Message Tool) (prepared : Prepared) (result : PreemptibleGenerateResult)
    (accepted : Accepted) (interpreted : Interpreted Call) :
    Except String (StepDraft Message Tool Call) := do
  let fullMessages := request.messages ++
    [format.assistantMessage interpreted.content interpreted.toolCalls interpreted.reasoningContent]
  let normalized ← format.normalizeTemplateMessages fullMessages
  let tokenIds ← snapshotTokenIds config format prepared.payload.inputIds
    (recordedResponse result accepted prepared.payload.inputIds).tokenIds normalized request.tools
  .ok
    { admission := admission
      routed := routed
      prepared := prepared
      result := result
      accepted := accepted
      interpreted := interpreted
      tools := request.tools
      fullMessages := fullMessages
      normalizedFullMessages := normalized
      snapshotTokenIds := tokenIds }

def chatCompletions [BEq Message] (config : ProxyConfig) (format : ChatFormat Message Tool Call)
    (request : ChatRequest Message Tool) (answers : Answers Call) :
    Pipeline Message Tool (Completion Call) := do
  let admission ← admitRequest config format request answers
  let routed ← routeRequest config format request admission
  let prepared ← preparePrompt config format request admission routed
  let maxTokens ← checkBudget config request admission.turnId prepared
  let result ← generate config request answers admission prepared.payload.inputIds maxTokens
  let accepted ← acceptResult config result
  let interpreted ← interpret config request answers admission result accepted
  let draft ← raising (draftStep config format request admission routed prepared result accepted
    interpreted)
  let session ← getSession
  recordStep config format answers draft
  respond config maxTokens session.steps.length draft

structure ChatEvent (Message Tool Call : Type) where
  request : ChatRequest Message Tool
  answers : Answers Call

def serve [BEq Message] (config : ProxyConfig) (format : ChatFormat Message Tool Call)
    (state : ProxyState Message Tool) (event : ChatEvent Message Tool Call) :
    ProxyState Message Tool :=
  (chatCompletions config format event.request event.answers state).2

end Dressage.Proxy

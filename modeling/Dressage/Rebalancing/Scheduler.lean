/-
The engine rebalancer.

One scheduler object holds what it knows of every engine: the deployment the
last successful inspection reported, the last published load, the reservations
no load snapshot has acknowledged. Refreshes, load polls and requests change it
one locked section at a time, so each section is one transition here. What a
worker answers, what the clock reads and which section comes next is open.
-/

import Dressage.Lib.Effects
import Dressage.Lib.Runs
import Dressage.Lib.Text
import Dressage.Rebalancing.Greedy

namespace Dressage.Rebalancing

open Lib

structure WorkerReport where
  nodeId : String
  modelId : String
  weightVersion : String
  sglangVersion : String
  tpSize : Int
  ppSize : Int
  dpSize : Int
  kvDtype : String
  stateDtype : String
  pageSize : Int
  swaWindowSize : Option Int
  mambaBackend : String
  mambaTrackInterval : Option Int
  hicacheArgs : List (String × String)
  mooncakeArgs : List (String × String)
  mooncakeProtocol : String
  sharedL3 : Bool
  hostStaging : Bool
  gpudirect : Bool
deriving DecidableEq

structure EngineDeploymentInfo extends WorkerReport where
  workerUrl : String
  cacheFingerprint : String
deriving DecidableEq

def decimalDigits (text : List Char) : List Char := text.takeWhile Char.isDigit

def versionKeyAt (text : List Char) : Option (List Nat) :=
  let number (digits : List Char) : Nat := digits.foldl (fun total digit =>
    10 * total + (digit.toNat - '0'.toNat)) 0
  let major := decimalDigits text
  let afterMajor := text.drop major.length
  let minor := decimalDigits (afterMajor.drop 1)
  let afterMinor := (afterMajor.drop 1).drop minor.length
  let patch := decimalDigits (afterMinor.drop 1)
  let afterPatch := (afterMinor.drop 1).drop patch.length
  let post := decimalDigits (afterPatch.drop 5)
  if major ≠ [] ∧ afterMajor.head? = some '.' ∧ minor ≠ [] ∧ afterMinor.head? = some '.' ∧
      patch ≠ [] then
    some [number major, number minor, number patch,
      if afterPatch.take 5 = ".post".toList then number post else 0]
  else none

def sglangVersionKey : List Char → Option (List Nat)
  | [] => none
  | head :: rest =>
    match versionKeyAt (head :: rest) with
    | some key => some key
    | none => sglangVersionKey rest

def sglangRebalancingSupported (version : String) : Bool :=
  match sglangVersionKey version.toList with
  | none => false
  | some key => decide ([0, 5, 15, 1] ≤ key)

inductive FetchStatus where
  | never
  | ok
  | timeout
  | error
  | invalid
deriving DecidableEq

structure EngineLoad where
  healthy : Bool
  metricsTimestamp : ℚ
  running : Nat
  queued : Nat
  activeTokens : Nat
  tokenCapacity : Nat
  requestCapacity : Nat
  tokenUsage : ℚ
  tokenUsageNonnegative : 0 ≤ tokenUsage
  snapshotGeneration : Nat
  snapshotFetchStatus : FetchStatus

def EngineLoad.default : EngineLoad :=
  { healthy := true
    metricsTimestamp := 0
    running := 0
    queued := 0
    activeTokens := 0
    tokenCapacity := 0
    requestCapacity := 0
    tokenUsage := 0
    tokenUsageNonnegative := le_refl 0
    snapshotGeneration := 0
    snapshotFetchStatus := .never }

def EngineLoad.fresh (load : EngineLoad) (now staleSeconds : ℚ) : Bool :=
  load.healthy && decide (0 < load.metricsTimestamp) &&
    decide (now - load.metricsTimestamp ≤ staleSeconds)

structure LoadRow where
  numRunningReqs : Option Int
  numWaitingReqs : Option Int
  numQueueReqs : Option Int
  numTotalTokens : Option Int
  numUsedTokens : Option Int
  maxTotalNumTokens : Option Int
  maxRunningRequests : Option Int
  tokenUsage : Option ℚ

def firstTruthy (first second : Option Int) : Int :=
  if first.getD 0 ≠ 0 then first.getD 0 else second.getD 0

structure NormalizedLoad where
  running : Int
  queued : Int
  activeTokens : Int
  tokenCapacity : Int
  requestCapacity : Int
  tokenUsage : ℚ

/-- `_normalize_load`: every row has to be a mapping, and there has to be one. -/
def normalizeLoad (rows : List (Option LoadRow)) : Option NormalizedLoad :=
  let valid := rows.filterMap (fun row => row)
  match valid.map (fun row => row.tokenUsage.getD 0) with
  | [] => none
  | usage :: usages =>
    if valid.length ≠ rows.length then none
    else some
      { running := (valid.map (fun row => row.numRunningReqs.getD 0)).sum
        queued := (valid.map (fun row =>
          firstTruthy row.numWaitingReqs row.numQueueReqs)).sum
        activeTokens := (valid.map (fun row =>
          firstTruthy row.numTotalTokens row.numUsedTokens)).sum
        tokenCapacity := (valid.map (fun row => row.maxTotalNumTokens.getD 0)).sum
        requestCapacity := (valid.map (fun row => row.maxRunningRequests.getD 0)).sum
        tokenUsage := usages.foldl max usage }

inductive LoadAnswer where
  | timeout
  | failure
  | rows (rows : List (Option LoadRow))

def fetchLoad (answer : LoadAnswer) (now : ℚ) : FetchStatus × Option EngineLoad :=
  match answer with
  | .timeout => (.timeout, none)
  | .failure => (.error, none)
  | .rows rows =>
    match normalizeLoad rows with
    | none => (.invalid, none)
    | some load =>
      if usable : 0 ≤ load.tokenUsage ∧ 0 ≤ load.running ∧ 0 ≤ load.queued ∧
          0 ≤ load.activeTokens ∧ 0 < load.requestCapacity ∧ 0 < load.tokenCapacity then
        (.ok, some
          { healthy := true
            metricsTimestamp := now
            running := load.running.toNat
            queued := load.queued.toNat
            activeTokens := load.activeTokens.toNat
            tokenCapacity := load.tokenCapacity.toNat
            requestCapacity := load.requestCapacity.toNat
            tokenUsage := load.tokenUsage
            tokenUsageNonnegative := usable.1
            snapshotGeneration := 0
            snapshotFetchStatus := .ok })
      else (.invalid, none)

structure EngineRebalancingConfig where
  enabled : Bool
  metricsStaleMs : Nat
  historySize : Nat
  minLoadImprovementRatio : ℚ
  metricsStalePositive : 0 < metricsStaleMs
  historySizePositive : 0 < historySize
  ratioWithinUnit : 0 ≤ minLoadImprovementRatio ∧ minLoadImprovementRatio ≤ 1

structure MachineCalibrationConfig where
  sharedL3 : Bool
  writePolicy : String
  protocol : String
  deviceName : String
  metadataServer : String
  gpudirect : Bool
  modelDeployment : OrderedDict String String

structure ModelCacheProfile where
  fullLayers : Int
  swaLayers : Int
  stateBytesPerCheckpoint : Int

def ModelCacheProfile.available (profile : ModelCacheProfile) : Bool :=
  decide (0 < profile.fullLayers ∨ 0 < profile.swaLayers ∨ 0 < profile.stateBytesPerCheckpoint)

/-- What the constructor is given, with the functions the scheduler calls and
does not define. -/
structure Setup where
  config : EngineRebalancingConfig
  stableEngineRank : String → String → Nat
  canonicalFingerprint : WorkerReport → String
  profileFromModelConfig : Option (EngineDeploymentInfo → ModelCacheProfile)
  gethostbyname : String → Option String
  calibrationBenchmark : Bool
  machineCalibrationConfig : Option MachineCalibrationConfig

structure SessionRoutingState where
  ownerWorkerUrl : Option String
  fingerprint : Option String
  previousCommittedTokens : List Nat
deriving DecidableEq

def SessionRoutingState.new : SessionRoutingState :=
  { ownerWorkerUrl := none
    fingerprint := none
    previousCommittedTokens := [] }

structure ReservationEntry where
  engineUrl : String
  scoringQueueIncrement : Nat
  scoringTokenIncrement : Nat
  scoringRevision : Nat
  scoringActive : Bool
deriving DecidableEq

structure RoutingDecision where
  sessionId : String
  sourceWorkerUrl : Option String
  targetWorkerUrl : Option String
  moved : Bool
deriving DecidableEq

structure RoutingLease where
  decision : RoutingDecision
  workerUrl : Option String
  reservationId : Option Nat
  loadDecisionId : Option Nat
deriving DecidableEq

inductive CalibrationState where
  | disabled
  | waitingForRay
  | running
  | ready
  | degraded
deriving DecidableEq

structure Calibration where
  state : CalibrationState
  results : List (String × String × String × Nat)
  preflightNodeIds : List String
  preflightNodeAddresses : List String
  preflightNodeAliases : OrderedDict String String

inductive FallbackReason where
  | ownerSnapshotUnavailable
  | noFreshMigrationSnapshot
  | mandatoryFailoverWithoutFreshSnapshot
  | newSessionWithoutFreshSnapshot
  | noEligibleEngineRouterFallback
deriving DecidableEq

inductive SchedulingError where
  | closed
  | contextNotRegistered (sessionId : String)
  | greedy (error : GreedyError)
  | missingDeployment (url : String)
  | noSelectedEdge
  | raised (typeName : String)

structure EngineTrace where
  url : String
  health : Bool
  version : Option String
  fingerprint : Option String
  observed : Option EngineLoad
  unobservedQueueDelta : Nat
  unobservedTokenDelta : Nat
  baseline : Option EngineBaseline
  effectivePressure : Option EnginePressure

inductive LoadDecisionTrace where
  | committed (decisionId : Nat) (lease : RoutingLease) (kind : GreedyStepKind)
    (candidateUrls : List String) (greedy : Option GreedyStepDecision)
    (queueIncrement tokenIncrement : ℚ) (fallbackReason : Option FallbackReason)
    (engines : List EngineTrace)
  | failed (decisionId : Nat) (sessionId : String) (promptTokenCount : Nat)
    (error : SchedulingError) (engines : List EngineTrace)

/-- A poll between its two locked sections, with what the first one read. -/
structure SnapshotPoll where
  scoringBoundary : Nat
  weightVersion : String
  cacheFingerprint : String
deriving DecidableEq

structure EngineRebalancer where
  deployments : OrderedDict String EngineDeploymentInfo
  loads : OrderedDict String EngineLoad
  loadGenerations : OrderedDict String Nat
  reservations : OrderedDict Nat ReservationEntry
  nextReservationId : Nat
  scoringRevision : Nat
  profiles : OrderedDict String ModelCacheProfile
  sessions : OrderedDict String SessionRoutingState
  excludedEngines : OrderedDict String String
  onlineRequestCount : Nat
  nextLoadDecisionId : Nat
  loadDecisionHistory : List LoadDecisionTrace
  snapshotFetches : OrderedDict String SnapshotPoll
  calibration : Calibration
  stopping : Bool

def EngineRebalancer.initial : EngineRebalancer :=
  { deployments := OrderedDict.empty
    loads := OrderedDict.empty
    loadGenerations := OrderedDict.empty
    reservations := OrderedDict.empty
    nextReservationId := 1
    scoringRevision := 0
    profiles := OrderedDict.empty
    sessions := OrderedDict.empty
    excludedEngines := OrderedDict.empty
    onlineRequestCount := 0
    nextLoadDecisionId := 1
    loadDecisionHistory := []
    snapshotFetches := OrderedDict.empty
    calibration :=
      { state := .disabled
        results := []
        preflightNodeIds := []
        preflightNodeAddresses := []
        preflightNodeAliases := OrderedDict.empty }
    stopping := false }

variable (setup : Setup)

def Setup.staleSeconds : ℚ := setup.config.metricsStaleMs / 1000

namespace EngineRebalancer

variable (state : EngineRebalancer)

def liveScoringTotals (url : String) : Nat × Nat :=
  let entries := state.reservations.values.filter (fun entry =>
    entry.engineUrl = url ∧ entry.scoringActive)
  ((entries.map ReservationEntry.scoringQueueIncrement).sum,
    (entries.map ReservationEntry.scoringTokenIncrement).sum)

def acknowledgeScoringDeltas (url : String) (revision : Nat) : EngineRebalancer :=
  { state with
    reservations := state.reservations.mapValues (fun _ entry =>
      if entry.engineUrl = url ∧ entry.scoringActive ∧ entry.scoringRevision ≤ revision then
        { entry with scoringActive := false }
      else entry) }

def releaseReservation (reservationId : Option Nat) : EngineRebalancer :=
  match reservationId with
  | none => state
  | some id => { state with reservations := state.reservations.pop id }

def effectiveBaseline (url : String) : Option EngineBaseline :=
  match state.loads.get? url with
  | none => none
  | some load =>
    if capacities : 0 < load.requestCapacity ∧ 0 < load.tokenCapacity then
      some
        { url := url
          baseRequests := load.running
          baseTokens := load.activeTokens + (state.liveScoringTotals url).2
          baseQueue := load.queued + (state.liveScoringTotals url).1
          requestCapacity := load.requestCapacity
          tokenCapacity := load.tokenCapacity
          tokenUsage := load.tokenUsage
          capacitiesPositive := by exact_mod_cast capacities
          inputsNonnegative :=
            ⟨by positivity, by positivity, by positivity, load.tokenUsageNonnegative⟩ }
    else none

def calibrationNodeFor (deployment : EngineDeploymentInfo) : Option String :=
  if setup.calibrationBenchmark then some deployment.nodeId
  else
    match state.calibration.preflightNodeAliases.get? deployment.nodeId with
    | some target => some target
    | none =>
      let resolved := (setup.gethostbyname deployment.nodeId).getD deployment.nodeId
      match state.calibration.preflightNodeAliases.get? resolved with
      | some target => some target
      | none =>
        match state.calibration.preflightNodeAddresses with
        | [address] => if "127.".toList.isPrefixOf resolved.toList then some address else none
        | _ => none

def argument (pairs : List (String × String)) (key : String) : String :=
  ((pairs.reverse.find? (fun pair => pair.1 = key)).map Prod.snd).getD ""

def optionalText : Option Int → String
  | none => "None"
  | some value => toString value

def deploymentMatchesPreflight (deployment : EngineDeploymentInfo) : Bool :=
  if setup.calibrationBenchmark then true
  else
    match setup.machineCalibrationConfig with
    | none => false
    | some config =>
      let metadataServer :=
        if argument deployment.mooncakeArgs "metadata_server" ≠ "" then
          argument deployment.mooncakeArgs "metadata_server"
        else argument deployment.mooncakeArgs "metadata_conn_string"
      let expected (key actual : String) : Bool :=
        match config.modelDeployment.get? key with
        | none => true
        | some value => decide (value = actual)
      if ¬ (state.calibration.state = .ready ∨ state.calibration.state = .degraded) then false
      else if deployment.sharedL3 ≠ config.sharedL3 then false
      else if ¬ deployment.sharedL3 then true
      else if deployment.gpudirect ≠ config.gpudirect then false
      else if deployment.mooncakeProtocol ≠ config.protocol then false
      else if config.deviceName ≠ "" ∧
        argument deployment.mooncakeArgs "device_name" ≠ config.deviceName then false
      else if config.metadataServer ≠ "" ∧ metadataServer ≠ config.metadataServer then false
      else if state.calibration.preflightNodeIds ≠ [] ∧
        state.calibrationNodeFor setup deployment = none then false
      else if Text.lower (argument deployment.hicacheArgs "hicache_write_policy") ≠
        config.writePolicy then false
      else
        expected "kv_dtype" deployment.kvDtype && expected "state_dtype" deployment.stateDtype &&
          expected "page_size" (toString deployment.pageSize) &&
          expected "swa_window_size" (optionalText deployment.swaWindowSize) &&
          expected "mamba_track_interval" (optionalText deployment.mambaTrackInterval)

/-- `re.sub(r"[^a-z0-9]+", "_", text)`, character by character; `inRun` says
that the run being replaced has already produced its underscore. -/
def collapseRuns (inRun : Bool) : List Char → List Char
  | [] => []
  | char :: rest =>
    if char.isLower ∨ char.isDigit then char :: collapseRuns false rest
    else if inRun then collapseRuns true rest
    else '_' :: collapseRuns true rest

def stripUnderscores (text : List Char) : List Char :=
  ((text.dropWhile (· = '_')).reverse.dropWhile (· = '_')).reverse

def remoteLink (protocol : String) : String :=
  let text := if protocol = "" then "remote" else protocol
  let cleaned := String.ofList (stripUnderscores (collapseRuns false text.toList))
  "mooncake_" ++ (if cleaned = "" then "remote" else cleaned)

def completedLinks (sourceNode targetNode : String) : List String :=
  (state.calibration.results.filter (fun result =>
    result.1 = sourceNode ∧ result.2.1 = targetNode)).map (fun result => result.2.2.1)

def requiredLinks (source target : EngineDeploymentInfo) : List String :=
  let sourceNode := state.calibrationNodeFor setup source
  let targetNode := state.calibrationNodeFor setup target
  let link :=
    if target.gpudirect then "mooncake_gpudirect"
    else if (sourceNode ≠ none ∧ sourceNode = targetNode) ∨ source.nodeId = target.nodeId then
      "mooncake_local"
    else remoteLink target.mooncakeProtocol
  if target.hostStaging then [link, "h2d"] else [link]

def completedSet (source target : EngineDeploymentInfo) : List String :=
  if state.deploymentMatchesPreflight setup source ∧
      state.deploymentMatchesPreflight setup target then
    match state.calibrationNodeFor setup source, state.calibrationNodeFor setup target with
    | some sourceNode, some targetNode => state.completedLinks sourceNode targetNode
    | _, _ => []
  else []

def pathReady (source target : String) : Bool :=
  match state.deployments.get? source, state.deployments.get? target with
  | some sourceDeployment, some targetDeployment =>
    targetDeployment.sharedL3 &&
      (state.requiredLinks setup sourceDeployment targetDeployment).all (fun link =>
        decide (link ∈ state.completedSet setup sourceDeployment targetDeployment)) &&
      (match state.profiles.get? targetDeployment.cacheFingerprint with
      | none => false
      | some profile => profile.available)
  | _, _ => false

def sessionFingerprint (session : SessionRoutingState)
    (sourceDeployment : Option EngineDeploymentInfo) : Option String :=
  match session.fingerprint with
  | some recorded =>
    if recorded = "" then sourceDeployment.map EngineDeploymentInfo.cacheFingerprint
    else some recorded
  | none => sourceDeployment.map EngineDeploymentInfo.cacheFingerprint

def versionValid (expectedVersion : Option String) (deployment : EngineDeploymentInfo) : Bool :=
  match expectedVersion with
  | none => true
  | some version => decide (deployment.weightVersion = version)

def healthyAt (url : String) : Bool :=
  match state.loads.get? url with
  | none => false
  | some load => load.healthy

def snapshotUsable (now : ℚ) (url : String) : Bool :=
  match state.loads.get? url with
  | none => false
  | some load => load.fresh now setup.staleSeconds && (state.effectiveBaseline url).isSome

def ownerDeployment (source : Option String) : Option EngineDeploymentInfo :=
  source.bind state.deployments.get?

def healthyOwner (source expectedVersion : Option String) : Bool :=
  match source, state.ownerDeployment source with
  | some url, some deployment => versionValid expectedVersion deployment && state.healthyAt url
  | _, _ => false

def ownerSnapshotFresh (now : ℚ) (source expectedVersion : Option String) : Bool :=
  match source with
  | none => false
  | some url => state.healthyOwner source expectedVersion && state.snapshotUsable setup now url

def healthyCandidates (session : SessionRoutingState) (expectedVersion : Option String) :
    List String :=
  let source := session.ownerWorkerUrl
  let fingerprint := sessionFingerprint session (state.ownerDeployment source)
  (state.deployments.entries.filter (fun entry =>
    decide (entry.2.workerUrl = entry.1) && state.healthyAt entry.1 &&
      versionValid expectedVersion entry.2 &&
      decide (source = none ∨ fingerprint = some entry.2.cacheFingerprint))).map Prod.fst

def freshCandidates (now : ℚ) (session : SessionRoutingState)
    (expectedVersion : Option String) : List String :=
  (state.healthyCandidates session expectedVersion).filter (state.snapshotUsable setup now)

def longestCommonPrefixLength : List Nat → List Nat → Nat
  | left :: lefts, right :: rights =>
    if left = right then longestCommonPrefixLength lefts rights + 1 else 0
  | _, _ => 0

/-- Tokens the engine has to prefill: all of them, less what a healthy owner
still caches of the session. -/
def scoringTokens (session : SessionRoutingState) (inputIds : List Nat) (staysOnOwner : Bool) :
    Nat :=
  if staysOnOwner then
    inputIds.length - longestCommonPrefixLength session.previousCommittedTokens inputIds
  else inputIds.length

def makeEdge (sessionId url : String) (tokens : Nat) : FeasibleEdge :=
  { sessionId := sessionId
    engineUrl := url
    queueIncrement := 1
    tokenIncrement := tokens
    incrementsNonnegative := ⟨by positivity, by positivity⟩ }

def stepKind (source expectedVersion : Option String) : GreedyStepKind :=
  match source with
  | none => .newSession
  | some _ =>
    if state.healthyOwner source expectedVersion then .existingSession else .mandatoryFailover

/-- The loop over the fresh candidates: each edge with its baseline. A step on
a healthy owner may move only where the cache can follow. -/
def feasibleEdges (now : ℚ) (sessionId : String) (session : SessionRoutingState)
    (inputIds : List Nat) (expectedVersion : Option String) :
    List (FeasibleEdge × EngineBaseline) :=
  let source := session.ownerWorkerUrl
  let owned := state.healthyOwner source expectedVersion
  (state.freshCandidates setup now session expectedVersion).filterMap (fun target =>
    if owned ∧ source ≠ some target ∧ ¬ state.pathReady setup (source.getD "") target then none
    else (state.effectiveBaseline target).map (fun baseline =>
      (makeEdge sessionId target
        (scoringTokens session inputIds (owned && decide (source = some target))), baseline)))

def sortedUrls (urls : List String) : List String := urls.mergeSort (fun left right => left ≤ right)

def engineTrace (url : String) : EngineTrace :=
  { url := url
    health := state.healthyAt url
    version := (state.deployments.get? url).map (fun deployment => deployment.weightVersion)
    fingerprint := (state.deployments.get? url).map EngineDeploymentInfo.cacheFingerprint
    observed := state.loads.get? url
    unobservedQueueDelta := (state.liveScoringTotals url).1
    unobservedTokenDelta := (state.liveScoringTotals url).2
    baseline := state.effectiveBaseline url
    effectivePressure :=
      (state.effectiveBaseline url).map (fun baseline => projectedPressure baseline 0 0) }

def loadEngineTraces : List EngineTrace :=
  (sortedUrls (state.loads.keys ++
    state.deployments.keys.filter (fun url => url ∉ state.loads.keys))).map state.engineTrace

def recordTrace (trace : LoadDecisionTrace) : EngineRebalancer :=
  let recorded := state.loadDecisionHistory ++ [trace]
  { state with
    loadDecisionHistory := recorded.drop (recorded.length - setup.config.historySize) }

def reserve (decision : RoutingDecision) (queueIncrement tokenIncrement : Nat) :
    RoutingLease × EngineRebalancer :=
  let lease (reservationId : Option Nat) : RoutingLease :=
    { decision := decision
      workerUrl := decision.targetWorkerUrl
      reservationId := reservationId
      loadDecisionId := some state.nextLoadDecisionId }
  match decision.targetWorkerUrl with
  | none =>
    (lease none, { state with nextLoadDecisionId := state.nextLoadDecisionId + 1 })
  | some target =>
    (lease (some state.nextReservationId),
      { state with
        nextLoadDecisionId := state.nextLoadDecisionId + 1
        nextReservationId := state.nextReservationId + 1
        scoringRevision := state.scoringRevision + 1
        reservations := state.reservations.set state.nextReservationId
          { engineUrl := target
            scoringQueueIncrement := queueIncrement
            scoringTokenIncrement := tokenIncrement
            scoringRevision := state.scoringRevision + 1
            scoringActive := true } })

def commitStep (sessionId : String) (session : SessionRoutingState) (target : Option String)
    (targetFingerprint : Option String) (kind : GreedyStepKind) (candidateUrls : List String)
    (greedy : Option GreedyStepDecision) (edge : Option FeasibleEdge)
    (fallbackReason : Option FallbackReason) : RoutingLease × EngineRebalancer :=
  let source := session.ownerWorkerUrl
  let kept :=
    if source = none ∧ targetFingerprint ≠ none then
      { session with fingerprint := targetFingerprint }
    else session
  let queueIncrement := (edge.map FeasibleEdge.queueIncrement).getD 0
  let tokenIncrement := (edge.map FeasibleEdge.tokenIncrement).getD 0
  let reserved := { state with sessions := state.sessions.set sessionId kept }.reserve
    { sessionId := sessionId
      sourceWorkerUrl := source
      targetWorkerUrl := target
      moved := decide (source ≠ none ∧ target ≠ source) }
    queueIncrement.floor.toNat tokenIncrement.floor.toNat
  (reserved.1, reserved.2.recordTrace setup
    (.committed state.nextLoadDecisionId reserved.1 kind candidateUrls greedy queueIncrement
      tokenIncrement fallbackReason reserved.2.loadEngineTraces))

def scheduleFallback (sessionId : String) (session : SessionRoutingState)
    (target : Option String) (kind : GreedyStepKind) (inputIds : List Nat)
    (fallbackReason : FallbackReason) : RoutingLease × EngineRebalancer :=
  let deployment := target.bind state.deployments.get?
  let staysOnHealthyOwner :=
    match target with
    | none => false
    | some url => decide (target = session.ownerWorkerUrl) && state.healthyAt url
  state.commitStep setup sessionId session target
    (match deployment with
    | none => session.fingerprint
    | some found => some found.cacheFingerprint)
    kind target.toList none
    (target.map (fun url => makeEdge sessionId url
      (scoringTokens session inputIds staysOnHealthyOwner)))
    (some fallbackReason)

def scheduleWithoutEdges (sessionId : String) (session : SessionRoutingState)
    (inputIds : List Nat) (expectedVersion : Option String) :
    Except SchedulingError (RoutingLease × EngineRebalancer) :=
  let source := session.ownerWorkerUrl
  let kind := state.stepKind source expectedVersion
  let candidates := state.healthyCandidates session expectedVersion
  if state.healthyOwner source expectedVersion then
    .ok (state.scheduleFallback setup sessionId session source .fixedOwner inputIds
      .noFreshMigrationSnapshot)
  else if candidates = [] then
    .ok (state.scheduleFallback setup sessionId session none kind inputIds
      .noEligibleEngineRouterFallback)
  else
    match chooseStableEngine setup.stableEngineRank sessionId (sortedUrls candidates) with
    | .error error => .error (.greedy error)
    | .ok target =>
      .ok (state.scheduleFallback setup sessionId session (some target) kind inputIds
        (if kind = .mandatoryFailover then .mandatoryFailoverWithoutFreshSnapshot
        else .newSessionWithoutFreshSnapshot))

def scheduleGreedy (sessionId : String) (session : SessionRoutingState)
    (expectedVersion : Option String) (edges : List (FeasibleEdge × EngineBaseline)) :
    Except SchedulingError (RoutingLease × EngineRebalancer) :=
  let source := session.ownerWorkerUrl
  let kind := state.stepKind source expectedVersion
  match chooseGreedyStep setup.stableEngineRank sessionId kind source (edges.map Prod.snd)
    (edges.map Prod.fst) setup.config.minLoadImprovementRatio with
  | .error error => .error (.greedy error)
  | .ok greedy =>
    match (edges.map Prod.fst).find? (fun edge => edge.engineUrl = greedy.selectedTarget),
      state.deployments.get? greedy.selectedTarget with
    | none, _ => .error .noSelectedEdge
    | some _, none => .error (.missingDeployment greedy.selectedTarget)
    | some edge, some deployment =>
      .ok (state.commitStep setup sessionId session (some greedy.selectedTarget)
        (some deployment.cacheFingerprint) kind
        (sortedUrls (edges.map (fun pair => pair.1.engineUrl))) (some greedy) (some edge)
        none)

/-- `_schedule_step_locked`. Every failure comes before the first mutation. -/
def scheduleStep (now : ℚ) (sessionId : String) (inputIds : List Nat)
    (expectedVersion : Option String) (requireRegisteredContext : Bool) :
    Except SchedulingError (RoutingLease × EngineRebalancer) :=
  let existing := state.sessions.get? sessionId
  if existing = none ∧ requireRegisteredContext then .error (.contextNotRegistered sessionId)
  else
    let session := existing.getD SessionRoutingState.new
    let source := session.ownerWorkerUrl
    if state.healthyOwner source expectedVersion ∧
        ¬ state.ownerSnapshotFresh setup now source expectedVersion then
      .ok (state.scheduleFallback setup sessionId session source .fixedOwner inputIds
        .ownerSnapshotUnavailable)
    else
      let edges := state.feasibleEdges setup now sessionId session inputIds expectedVersion
      if edges = [] then
        state.scheduleWithoutEdges setup sessionId session inputIds expectedVersion
      else state.scheduleGreedy setup sessionId session expectedVersion edges

/-- `acquire`, from the moment it holds the lock. A failed step is recorded and
raised again; its state is the one before the step. -/
def acquire (now : ℚ) (sessionId : String) (inputIds : List Nat)
    (expectedVersion : Option String) (requireRegisteredContext : Bool) :
    Except SchedulingError RoutingLease × EngineRebalancer :=
  if ¬ setup.config.enabled then
    (.ok
      { decision :=
          { sessionId := sessionId
            sourceWorkerUrl := none
            targetWorkerUrl := none
            moved := false }
        workerUrl := none
        reservationId := none
        loadDecisionId := none }, state)
  else if state.stopping then (.error .closed, state)
  else
    match state.scheduleStep setup now sessionId inputIds expectedVersion
      requireRegisteredContext with
    | .ok (lease, next) => (.ok lease, next)
    | .error error =>
      (.error error,
        { state with nextLoadDecisionId := state.nextLoadDecisionId + 1 }.recordTrace setup
          (.failed state.nextLoadDecisionId sessionId inputIds.length error state.loadEngineTraces))

/-- `complete`; the owner is assigned before the deployment is looked up, so a
removed engine leaves the new owner with the old fingerprint. -/
def complete (lease : RoutingLease) (committedTokens : List Nat) (success : Bool) :
    Except SchedulingError Unit × EngineRebalancer :=
  let released := state.releaseReservation lease.reservationId
  if ¬ setup.config.enabled then (.ok (), state)
  else
    match lease.workerUrl, released.sessions.get? lease.decision.sessionId with
    | some owner, some session =>
      if ¬ success then (.ok (), released)
      else
        match released.deployments.get? owner with
        | none =>
          (.error (.missingDeployment owner),
            { released with
              sessions := released.sessions.set lease.decision.sessionId
                { session with ownerWorkerUrl := some owner } })
        | some deployment =>
          (.ok (),
            { released with
              sessions := released.sessions.set lease.decision.sessionId
                { ownerWorkerUrl := some owner
                  fingerprint := some deployment.cacheFingerprint
                  previousCommittedTokens := committedTokens }
              onlineRequestCount := released.onlineRequestCount + 1 })
    | _, _ => (.ok (), released)

def registerSessionContext (sessionId : String) : EngineRebalancer :=
  match setup.config.enabled, state.sessions.get? sessionId with
  | true, none => { state with sessions := state.sessions.set sessionId SessionRoutingState.new }
  | _, _ => state

def discardSessionContext (sessionId : String) : EngineRebalancer :=
  { state with sessions := state.sessions.pop sessionId }

def deploymentOf (url : String) (report : WorkerReport) : EngineDeploymentInfo :=
  { toWorkerReport := report
    workerUrl := url
    cacheFingerprint := setup.canonicalFingerprint report }

/-- One inspected worker: its deployment is replaced, or the engine is excluded
for its version; a failed inspection keeps what was there. -/
def recordInspection (inspected : String × Option WorkerReport) : EngineRebalancer :=
  let url := inspected.1
  let noted :=
    match inspected.2 with
    | none => state
    | some report =>
      if sglangRebalancingSupported report.sglangVersion then
        { state with
          deployments := state.deployments.set url (deploymentOf setup url report)
          excludedEngines := state.excludedEngines.pop url }
      else
        { state with
          deployments := state.deployments.pop url
          excludedEngines := state.excludedEngines.set url
            ("SGLang " ++ report.sglangVersion ++ " is older than v0.5.15.post1") }
  match noted.loads.get? url with
  | some _ => noted
  | none => { noted with loads := noted.loads.set url EngineLoad.default }

def recordProfile (healthy : List String) (deployment : EngineDeploymentInfo) :
    EngineRebalancer :=
  match setup.profileFromModelConfig with
  | none => state
  | some profile =>
    if deployment.workerUrl ∈ healthy ∧
        state.profiles.get? deployment.cacheFingerprint = none then
      { state with
        profiles := state.profiles.set deployment.cacheFingerprint (profile deployment) }
    else state

/-- `_refresh_unlocked`, from the moment it holds the lock. The list has every
worker the router calls healthy, with its report when an inspection succeeded. -/
def refresh (inspected : List (String × Option WorkerReport)) : EngineRebalancer :=
  let healthy := inspected.map Prod.fst
  let noted := inspected.foldl (fun current worker => current.recordInspection setup worker) state
  let marked :=
    { noted with
      loads := noted.loads.mapValues (fun url load =>
        { load with healthy := decide (url ∈ healthy) }) }
  marked.deployments.values.foldl
    (fun current deployment => current.recordProfile setup healthy deployment) marked

def startPoll (url : String) : EngineRebalancer :=
  match state.snapshotFetches.get? url, state.deployments.get? url, state.loads.get? url with
  | none, some deployment, some load =>
    if load.healthy then
      { state with
        snapshotFetches := state.snapshotFetches.set url
          { scoringBoundary := state.scoringRevision
            weightVersion := deployment.weightVersion
            cacheFingerprint := deployment.cacheFingerprint } }
    else state
  | _, _, _ => state

def publishLoad (url : String) (poll : SnapshotPoll) (published : EngineLoad) :
    EngineRebalancer :=
  let generation := state.loadGenerations.getD url 0 + 1
  { state with
    loads := state.loads.set url { published with snapshotGeneration := generation }
    loadGenerations := state.loadGenerations.set url generation }.acknowledgeScoringDeltas url
      poll.scoringBoundary

/-- The second locked section: an answer counts only if the engine is still
healthy and its deployment is the one the poll started with. -/
def finishPoll (url : String) (answer : LoadAnswer) (now : ℚ) : EngineRebalancer :=
  match state.snapshotFetches.get? url with
  | none => state
  | some poll =>
    let finished := { state with snapshotFetches := state.snapshotFetches.pop url }
    let fetched := fetchLoad answer now
    match finished.loads.get? url with
    | none => finished
    | some current =>
      let noted :=
        { finished with
          loads := finished.loads.set url
            { current with snapshotFetchStatus := fetched.1 } }
      match fetched.2, noted.deployments.get? url with
      | some published, some deployment =>
        if current.healthy ∧ deployment.weightVersion = poll.weightVersion ∧
            deployment.cacheFingerprint = poll.cacheFingerprint then
          noted.publishLoad url poll published
        else noted
      | _, _ => noted

inductive Action where
  | refresh (inspected : List (String × Option WorkerReport))
  | startPoll (url : String)
  | finishPoll (url : String) (answer : LoadAnswer) (now : ℚ)
  | acquire (now : ℚ) (sessionId : String) (inputIds : List Nat)
    (expectedVersion : Option String) (requireRegisteredContext : Bool)
  | complete (lease : RoutingLease) (committedTokens : List Nat) (success : Bool)
  | register (sessionId : String)
  | discard (sessionId : String)
  | calibrate (calibration : Calibration)
  | close

def step (action : Action) : EngineRebalancer :=
  match action with
  | .refresh inspected => state.refresh setup inspected
  | .startPoll url => state.startPoll url
  | .finishPoll url answer now => state.finishPoll url answer now
  | .acquire now sessionId inputIds expectedVersion requireRegisteredContext =>
    (state.acquire setup now sessionId inputIds expectedVersion requireRegisteredContext).2
  | .complete lease committedTokens success =>
    (state.complete setup lease committedTokens success).2
  | .register sessionId => state.registerSessionContext setup sessionId
  | .discard sessionId => state.discardSessionContext sessionId
  | .calibrate calibration => { state with calibration := calibration }
  | .close => { state with stopping := true }

def after (actions : List Action) : EngineRebalancer :=
  Runs.run (fun state action => EngineRebalancer.step setup state action)
    EngineRebalancer.initial actions

end EngineRebalancer

end Dressage.Rebalancing

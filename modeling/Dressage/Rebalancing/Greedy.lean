/-
Greedy placement of one step.

Every feasible edge is scored by the pressure its engine would have with the step added, and the
lowest score wins, with the owner preferred among ties. Malformed inputs are rejected before any
score is computed. Pressures are exact rationals here; the rounding of the floating point sums
is not modeled.
-/

import Mathlib.Data.List.MinMax
import Mathlib.Data.Prod.Lex
import Mathlib.Data.Rat.Floor
import Mathlib.Data.String.Basic
import Mathlib.Algebra.Order.Field.Rat
import Dressage.Lib.OrderedDict

namespace Dressage.Rebalancing

open Lib List OrderedDict

/-- Published load plus the local deltas no snapshot has shown yet. The checks
of the constructor are fields, so a rejected baseline does not exist. -/
structure EngineBaseline where
  url : String
  baseRequests : ℚ
  baseTokens : ℚ
  baseQueue : ℚ
  requestCapacity : ℚ
  tokenCapacity : ℚ
  tokenUsage : ℚ
  capacitiesPositive : 0 < requestCapacity ∧ 0 < tokenCapacity
  inputsNonnegative : 0 ≤ baseRequests ∧ 0 ≤ baseTokens ∧ 0 ≤ baseQueue ∧ 0 ≤ tokenUsage

structure FeasibleEdge where
  sessionId : String
  engineUrl : String
  queueIncrement : ℚ
  tokenIncrement : ℚ
  incrementsNonnegative : 0 ≤ queueIncrement ∧ 0 ≤ tokenIncrement
deriving DecidableEq

inductive GreedyStepKind where
  | fixedOwner
  | mandatoryFailover
  | newSession
  | existingSession
deriving DecidableEq

structure EnginePressure where
  request : ℚ
  token : ℚ
  queue : ℚ
  total : ℚ

def projectedPressure (engine : EngineBaseline) (queueIncrement tokenIncrement : ℚ) :
    EnginePressure :=
  let request := engine.baseRequests / engine.requestCapacity
  let token := max ((engine.baseTokens + tokenIncrement) / engine.tokenCapacity) engine.tokenUsage
  let queue := (engine.baseQueue + queueIncrement) / engine.requestCapacity
  { request := request
    token := token
    queue := queue
    total := request + token + queue }

inductive DecisionReason where
  | fixedOwner
  | mandatoryFailover
  | lowestProjectedPressure
  | loadImprovementThresholdMet
  | loadImprovementBelowThreshold
deriving DecidableEq

structure GreedyStepDecision where
  decisionReason : DecisionReason
  ownerProjectedScore : Option ℚ
  candidateProjectedScores : OrderedDict String ℚ
  bestTarget : String
  bestProjectedScore : ℚ
  selectedTarget : String
  selectedProjectedScore : ℚ
  improvementRatio : Option ℚ
  requiredImprovementRatio : Option ℚ
  thresholdMet : Option Bool

inductive GreedyError where
  | ratioOutOfRange
  | noFeasibleEdge
  | duplicateEngineEdges
  | edgeSessionMismatch
  | unknownEngine
  | newSessionWithOwner
  | stickyWithoutOwnerEdge
  | failoverKeepsOwner
  | noEngine
deriving DecidableEq

def GreedyError.message : GreedyError → String
  | .ratioOutOfRange => "min load improvement ratio must be within [0, 1]"
  | .noFeasibleEdge => "step must contain at least one feasible edge"
  | .duplicateEngineEdges => "step contains duplicate Engine edges"
  | .edgeSessionMismatch => "edge session does not match step session"
  | .unknownEngine => "edge references an unknown Engine"
  | .newSessionWithOwner => "new session must not have an owner"
  | .stickyWithoutOwnerEdge => "sticky step must contain its owner edge"
  | .failoverKeepsOwner => "mandatory failover cannot retain its owner"
  | .noEngine => "at least one Engine is required"

def scoreTolerance : ℚ := 1 / 10000000

def ratioEpsilon : ℚ := 1 / 1000000000

section Choice

-- The digest of session and engine, read as a number.
variable (stableEngineRank : String → String → Nat)

def stableKey (sessionId engineUrl : String) : Nat ×ₗ String :=
  toLex (stableEngineRank sessionId engineUrl, engineUrl)

def chooseStableEngine (sessionId : String) (engineUrls : List String) :
    Except GreedyError String :=
  match engineUrls.argmin (stableKey stableEngineRank sessionId) with
  | none => .error .noEngine
  | some url => .ok url

def baselinesByUrl (engines : List EngineBaseline) : OrderedDict String EngineBaseline :=
  engines.foldl (fun dict engine => dict.set engine.url engine) OrderedDict.empty

def ownerEdge (ownerEngineUrl : Option String) (edges : List FeasibleEdge) : Option FeasibleEdge :=
  edges.find? (fun edge => decide (some edge.engineUrl = ownerEngineUrl))

def GreedyStepKind.isSticky : GreedyStepKind → Bool
  | .fixedOwner | .existingSession => true
  | .mandatoryFailover | .newSession => false

def rejection (sessionId : String) (kind : GreedyStepKind) (ownerEngineUrl : Option String)
    (engines : List EngineBaseline) (edges : List FeasibleEdge)
    (minLoadImprovementRatio : ℚ) : Option GreedyError :=
  if ¬ (0 ≤ minLoadImprovementRatio ∧ minLoadImprovementRatio ≤ 1) then some .ratioOutOfRange
  else if edges = [] then some .noFeasibleEdge
  else if ¬ (edges.map FeasibleEdge.engineUrl).Nodup then some .duplicateEngineEdges
  else if ∃ edge ∈ edges, edge.sessionId ≠ sessionId then some .edgeSessionMismatch
  else if ∃ edge ∈ edges, edge.engineUrl ∉ (baselinesByUrl engines).keys then
    some .unknownEngine
  else if kind = .newSession ∧ ownerEngineUrl ≠ none then some .newSessionWithOwner
  else if kind.isSticky ∧ ownerEdge ownerEngineUrl edges = none then
    some .stickyWithoutOwnerEdge
  else if kind = .mandatoryFailover ∧ ownerEdge ownerEngineUrl edges ≠ none then
    some .failoverKeepsOwner
  else none

def edgeScore (baselines : OrderedDict String EngineBaseline) (edge : FeasibleEdge) : ℚ :=
  match baselines.get? edge.engineUrl with
  -- Unreachable after validation: every edge has a baseline.
  | none => 0
  | some engine => (projectedPressure engine edge.queueIncrement edge.tokenIncrement).total

def scoresByUrl (baselines : OrderedDict String EngineBaseline) (edges : List FeasibleEdge) :
    OrderedDict String ℚ :=
  edges.foldl (fun dict edge => dict.set edge.engineUrl (edgeScore baselines edge))
    OrderedDict.empty

/-- `scores[url]`; every url that is looked up has a score. -/
def scoreAt (scores : OrderedDict String ℚ) (url : String) : ℚ := scores.getD url 0

def minimumScore (scores : OrderedDict String ℚ) : ℚ := scores.values.min?.getD 0

def tiedEdges (scores : OrderedDict String ℚ) (edges : List FeasibleEdge) : List FeasibleEdge :=
  edges.filter (fun edge =>
    decide (scoreAt scores edge.engineUrl ≤ minimumScore scores + scoreTolerance))

def bestEdge (sessionId : String) (ownerEngineUrl : Option String)
    (tied : List FeasibleEdge) : Option FeasibleEdge :=
  match ownerEdge ownerEngineUrl tied with
  | some edge => some edge
  | none => tied.argmin (fun edge => stableKey stableEngineRank sessionId edge.engineUrl)

def improvementOver (ownerScore bestScore : ℚ) : ℚ :=
  max 0 ((ownerScore - bestScore) / max ownerScore ratioEpsilon)

def thresholdMet (ownerEngineUrl : Option String) (best : FeasibleEdge)
    (ownerScore bestScore minLoadImprovementRatio : ℚ) : Bool :=
  decide (some best.engineUrl ≠ ownerEngineUrl ∧ bestScore < ownerScore - scoreTolerance ∧
    minLoadImprovementRatio ≤ improvementOver ownerScore bestScore)

def decideStep (kind : GreedyStepKind) (ownerEngineUrl : Option String)
    (scores : OrderedDict String ℚ) (minLoadImprovementRatio : ℚ) (best : FeasibleEdge)
    (owner : Option FeasibleEdge) : Except GreedyError GreedyStepDecision :=
  let bestScore := scoreAt scores best.engineUrl
  let decision (reason : DecisionReason) (ownerScore : Option ℚ) (selected : FeasibleEdge)
      (improvement required : Option ℚ) (met : Option Bool) : GreedyStepDecision :=
    { decisionReason := reason
      ownerProjectedScore := ownerScore
      candidateProjectedScores := scores
      bestTarget := best.engineUrl
      bestProjectedScore := bestScore
      selectedTarget := selected.engineUrl
      selectedProjectedScore := scoreAt scores selected.engineUrl
      improvementRatio := improvement
      requiredImprovementRatio := required
      thresholdMet := met }
  match kind, owner with
  | .newSession, _ => .ok (decision .lowestProjectedPressure none best none none none)
  | .mandatoryFailover, _ => .ok (decision .mandatoryFailover none best none none none)
  | _, none => .error .stickyWithoutOwnerEdge
  | .fixedOwner, some edge =>
    .ok (decision .fixedOwner (some (scoreAt scores edge.engineUrl)) edge none none none)
  | .existingSession, some edge =>
    let ownerScore := scoreAt scores edge.engineUrl
    let met := thresholdMet ownerEngineUrl best ownerScore bestScore minLoadImprovementRatio
    .ok (decision
      (if met then .loadImprovementThresholdMet else .loadImprovementBelowThreshold)
      (some ownerScore) (if met then best else edge)
      (some (improvementOver ownerScore bestScore)) (some minLoadImprovementRatio) (some met))

def chooseGreedyStep (sessionId : String) (kind : GreedyStepKind)
    (ownerEngineUrl : Option String) (engines : List EngineBaseline)
    (edges : List FeasibleEdge) (minLoadImprovementRatio : ℚ) :
    Except GreedyError GreedyStepDecision :=
  match rejection sessionId kind ownerEngineUrl engines edges minLoadImprovementRatio with
  | some error => .error error
  | none =>
    let scores := scoresByUrl (baselinesByUrl engines) edges
    match bestEdge stableEngineRank sessionId ownerEngineUrl (tiedEdges scores edges) with
    | none => .error .noEngine
    | some best =>
      decideStep kind ownerEngineUrl scores minLoadImprovementRatio best
        (ownerEdge ownerEngineUrl edges)

theorem mem_keys_baselinesByUrl (engines : List EngineBaseline) (url : String) :
    url ∈ (baselinesByUrl engines).keys ↔ ∃ engine ∈ engines, engine.url = url := by
  unfold baselinesByUrl
  rw [mem_keys_foldl_set EngineBaseline.url (fun engine => engine)]
  simp [OrderedDict.keys, OrderedDict.empty]

variable (baselines : OrderedDict String EngineBaseline)

theorem mem_keys_scoresByUrl (edges : List FeasibleEdge) (url : String) :
    url ∈ (scoresByUrl baselines edges).keys ↔ ∃ edge ∈ edges, edge.engineUrl = url := by
  unfold scoresByUrl
  rw [mem_keys_foldl_set FeasibleEdge.engineUrl (edgeScore baselines)]
  simp [OrderedDict.keys, OrderedDict.empty]

theorem exists_minimum_edge {edges : List FeasibleEdge} (nonempty : edges ≠ []) :
    ∃ edge ∈ edges, scoreAt (scoresByUrl baselines edges) edge.engineUrl =
      minimumScore (scoresByUrl baselines edges) := by
  obtain ⟨first, present⟩ := exists_mem_of_ne_nil edges nonempty
  obtain ⟨score, found⟩ := (mem_keys_iff _ first.engineUrl).mp
    ((mem_keys_scoresByUrl baselines edges first.engineUrl).mpr ⟨first, present, rfl⟩)
  have valued : score ∈ (scoresByUrl baselines edges).values :=
    mem_map_of_mem (mem_of_get? found)
  obtain ⟨least, isLeast⟩ : ∃ least, (scoresByUrl baselines edges).values.min? = some least := by
    rw [← Option.isSome_iff_exists, isSome_min?_iff]
    exact ne_nil_of_mem valued
  obtain ⟨entry, inScores, same⟩ := mem_map.mp (min?_mem isLeast)
  obtain ⟨edge, inEdges, atUrl⟩ := (mem_keys_scoresByUrl baselines edges entry.1).mp
    (mem_map_of_mem inScores)
  refine ⟨edge, inEdges, ?_⟩
  unfold scoreAt OrderedDict.getD minimumScore
  rw [atUrl, get?_of_mem inScores, isLeast, same]

variable {edges : List FeasibleEdge} {ownerEngineUrl : Option String}

theorem tiedEdges_ne_nil (nonempty : edges ≠ []) :
    tiedEdges (scoresByUrl baselines edges) edges ≠ [] := by
  obtain ⟨edge, inEdges, least⟩ := exists_minimum_edge baselines nonempty
  apply ne_nil_of_mem (a := edge)
  have tolerated : (0 : ℚ) ≤ scoreTolerance := by norm_num [scoreTolerance]
  simp only [tiedEdges, mem_filter, decide_eq_true_eq, least]
  exact ⟨inEdges, le_add_of_nonneg_right tolerated⟩

theorem ownerEdge_mem {edge : FeasibleEdge} (found : ownerEdge ownerEngineUrl edges = some edge) :
    edge ∈ edges ∧ ownerEngineUrl = some edge.engineUrl := by
  have holds := find?_some found
  rw [decide_eq_true_eq] at holds
  exact ⟨mem_of_find?_eq_some found, holds.symm⟩

theorem ownerEdge_eq_none :
    ownerEdge ownerEngineUrl edges = none ↔
      ∀ edge ∈ edges, some edge.engineUrl ≠ ownerEngineUrl := by
  unfold ownerEdge
  rw [find?_eq_none]
  simp only [decide_eq_true_eq]

theorem exists_bestEdge (sessionId : String) (ownerEngineUrl : Option String)
    {tied : List FeasibleEdge} (nonempty : tied ≠ []) :
    ∃ best ∈ tied, bestEdge stableEngineRank sessionId ownerEngineUrl tied = some best := by
  unfold bestEdge
  cases owned : ownerEdge ownerEngineUrl tied with
  | some edge => exact ⟨edge, (ownerEdge_mem owned).1, rfl⟩
  | none =>
    cases least : tied.argmin (fun edge => stableKey stableEngineRank sessionId edge.engineUrl) with
    | none => exact absurd (argmin_eq_none.mp least) nonempty
    | some best => exact ⟨best, argmin_mem least, rfl⟩

theorem chooseGreedyStep_of_accepted {sessionId : String} {kind : GreedyStepKind}
    {engines : List EngineBaseline} {ratio : ℚ}
    (accepted : rejection sessionId kind ownerEngineUrl engines edges ratio = none) :
    ∃ decision, chooseGreedyStep stableEngineRank sessionId kind ownerEngineUrl engines edges
        ratio = .ok decision ∧
      ∃ edge ∈ edges, edge.engineUrl = decision.selectedTarget := by
  have nonempty : edges ≠ [] := by
    intro empty
    simp only [rejection, empty, if_true] at accepted
    split at accepted <;> cases accepted
  have owned : kind.isSticky = true → ownerEdge ownerEngineUrl edges ≠ none := by
    intro sticky missing
    simp only [rejection, missing, sticky, and_self, if_true] at accepted
    repeat' split at accepted
    all_goals cases accepted
  obtain ⟨best, inTied, chosen⟩ := exists_bestEdge stableEngineRank sessionId ownerEngineUrl
    (tiedEdges_ne_nil (baselinesByUrl engines) nonempty)
  have inEdges : best ∈ edges := mem_of_mem_filter inTied
  simp only [chooseGreedyStep, accepted, chosen]
  cases found : ownerEdge ownerEngineUrl edges with
  | none =>
    cases kind with
    | fixedOwner | existingSession => exact absurd found (owned rfl)
    | mandatoryFailover => exact ⟨_, rfl, best, inEdges, rfl⟩
    | newSession => exact ⟨_, rfl, best, inEdges, rfl⟩
  | some owner =>
    have ownerIn : owner ∈ edges := (ownerEdge_mem found).1
    cases kind with
    | fixedOwner => exact ⟨_, rfl, owner, ownerIn, rfl⟩
    | mandatoryFailover => exact ⟨_, rfl, best, inEdges, rfl⟩
    | newSession => exact ⟨_, rfl, best, inEdges, rfl⟩
    | existingSession =>
      refine ⟨_, rfl, ?_⟩
      dsimp only
      split
      · exact ⟨best, inEdges, rfl⟩
      · exact ⟨owner, ownerIn, rfl⟩

theorem chooseGreedyStep_of_rejected {sessionId : String} {kind : GreedyStepKind}
    {engines : List EngineBaseline} {ratio : ℚ} {error : GreedyError}
    (rejected : rejection sessionId kind ownerEngineUrl engines edges ratio = some error) :
    chooseGreedyStep stableEngineRank sessionId kind ownerEngineUrl engines edges ratio =
      .error error := by
  simp only [chooseGreedyStep, rejected]

theorem chooseStableEngine_mem (sessionId : String) {engineUrls : List String}
    (nonempty : engineUrls ≠ []) :
    ∃ url ∈ engineUrls, chooseStableEngine stableEngineRank sessionId engineUrls = .ok url := by
  unfold chooseStableEngine
  cases least : engineUrls.argmin (stableKey stableEngineRank sessionId) with
  | none => exact absurd (argmin_eq_none.mp least) nonempty
  | some url => exact ⟨url, argmin_mem least, rfl⟩

end Choice

end Dressage.Rebalancing

/-
Moving an existing session, and choosing again.

After a move the new owner's edge is cheaper, because it has the session's cache, and the old
owner's is not; so the next choice stays.
-/

import Mathlib.Tactic.Linarith
import Mathlib.Tactic.NormNum
import Mathlib.Data.List.Forall2
import Dressage.Rebalancing.LeaseSafety

namespace Dressage.Rebalancing

open Lib List Option

section Greedy

variable {stableEngineRank : String → String → Nat} {sessionId owner : String}
variable {engines : List EngineBaseline} {edges : List FeasibleEdge} {ratio : ℚ}

theorem scoreTolerance_pos : 0 < scoreTolerance := by
  norm_num [scoreTolerance]

variable {edge : FeasibleEdge} {more : ℚ}

variable (baselines : OrderedDict String EngineBaseline)

theorem scoreAt_edge (distinct : (edges.map FeasibleEdge.engineUrl).Nodup) (member : edge ∈ edges) :
    scoreAt (scoresByUrl baselines edges) edge.engineUrl = edgeScore baselines edge := by
  have score : (scoresByUrl baselines edges).get? edge.engineUrl =
      some (edgeScore baselines edge) :=
    OrderedDict.get?_foldl_set FeasibleEdge.engineUrl (edgeScore baselines) edges
      OrderedDict.empty distinct member
  rw [scoreAt, OrderedDict.getD, score, getD_some]

theorem minimumScore_le (member : edge ∈ edges) :
    minimumScore (scoresByUrl baselines edges) ≤
      scoreAt (scoresByUrl baselines edges) edge.engineUrl := by
  obtain ⟨score, found⟩ := (OrderedDict.mem_keys_iff _ edge.engineUrl).mp
    ((mem_keys_scoresByUrl baselines edges edge.engineUrl).mpr ⟨edge, member, rfl⟩)
  have valued : score ∈ (scoresByUrl baselines edges).values :=
    List.mem_map_of_mem (OrderedDict.mem_of_get? found)
  obtain ⟨least, isLeast⟩ : ∃ least, (scoresByUrl baselines edges).values.min? = some least := by
    rw [← isSome_iff_exists, isSome_min?_iff]
    exact ne_nil_of_mem valued
  unfold scoreAt OrderedDict.getD minimumScore
  rw [found, isLeast]
  exact (min?_eq_some_iff.mp isLeast).2 score valued

theorem projectedPressure_mono (engine : EngineBaseline) (queueIncrement : ℚ) {fewer : ℚ}
    (increases : fewer ≤ more) :
    (projectedPressure engine queueIncrement fewer).total ≤
      (projectedPressure engine queueIncrement more).total := by
  have capacity : 0 ≤ engine.tokenCapacity := le_of_lt engine.capacitiesPositive.2
  have token : (engine.baseTokens + fewer) / engine.tokenCapacity ≤
      (engine.baseTokens + more) / engine.tokenCapacity :=
    div_le_div_of_nonneg_right (by linarith) capacity
  have grows := max_le_max_right engine.tokenUsage token
  unfold projectedPressure
  dsimp only
  linarith

structure Accepted (sessionId : String) (owner : String) (engines : List EngineBaseline)
    (edges : List FeasibleEdge) (ratio : ℚ) : Prop where
  ratioWithinUnit : 0 ≤ ratio ∧ ratio ≤ 1
  distinct : (edges.map FeasibleEdge.engineUrl).Nodup
  sessions : ∀ edge ∈ edges, edge.sessionId = sessionId
  known : ∀ edge ∈ edges, edge.engineUrl ∈ (baselinesByUrl engines).keys
  owned : ∃ edge ∈ edges, edge.engineUrl = owner

theorem rejection_eq_none_iff :
    rejection sessionId .existingSession (some owner) engines edges ratio = none ↔
      Accepted sessionId owner engines edges ratio := by
  constructor
  · intro accepted
    unfold rejection at accepted
    split at accepted
    · cases accepted
    split at accepted
    · cases accepted
    split at accepted
    · cases accepted
    split at accepted
    · cases accepted
    split at accepted
    · cases accepted
    split at accepted
    · cases accepted
    split at accepted
    · cases accepted
    rename_i ratioWithinUnit _ distinct sessions known _ owned
    push Not at sessions known distinct ratioWithinUnit
    refine ⟨ratioWithinUnit, distinct, sessions, known, ?_⟩
    cases found : ownerEdge (some owner) edges with
    | none => exact absurd ⟨rfl, found⟩ owned
    | some edge =>
      obtain ⟨member, atOwner⟩ := ownerEdge_mem found
      exact ⟨edge, member, (some_inj.mp atOwner).symm⟩
  · intro accepted
    obtain ⟨edge, member, atOwner⟩ := accepted.owned
    unfold rejection
    rw [if_neg (not_not.mpr accepted.ratioWithinUnit), if_neg (ne_nil_of_mem member),
      if_neg (not_not.mpr accepted.distinct), if_neg, if_neg, if_neg, if_neg, if_neg]
    · rintro ⟨impossible, _⟩
      cases impossible
    · rintro ⟨_, none⟩
      exact ownerEdge_eq_none.mp none edge member (congrArg some atOwner)
    · rintro ⟨impossible, _⟩
      cases impossible
    · rintro ⟨other, isMember, unknown⟩
      exact unknown (accepted.known other isMember)
    · rintro ⟨other, isMember, elsewhere⟩
      exact elsewhere (accepted.sessions other isMember)

theorem chooseGreedyStep_existing {decision : GreedyStepDecision}
    (chosen : chooseGreedyStep stableEngineRank sessionId .existingSession (some owner) engines
      edges ratio = .ok decision) :
    Accepted sessionId owner engines edges ratio ∧
      ∃ best ∈ tiedEdges (scoresByUrl (baselinesByUrl engines) edges) edges,
        bestEdge stableEngineRank sessionId (some owner)
          (tiedEdges (scoresByUrl (baselinesByUrl engines) edges) edges) = some best ∧
        decision.bestTarget = best.engineUrl ∧
        decision.bestProjectedScore =
          scoreAt (scoresByUrl (baselinesByUrl engines) edges) best.engineUrl ∧
        decision.selectedTarget =
          if thresholdMet (some owner) best
              (scoreAt (scoresByUrl (baselinesByUrl engines) edges) owner)
              (scoreAt (scoresByUrl (baselinesByUrl engines) edges) best.engineUrl) ratio = true then
            best.engineUrl
          else owner := by
  unfold chooseGreedyStep at chosen
  split at chosen
  · cases chosen
  rename_i rejected
  have accepted := rejection_eq_none_iff.mp rejected
  refine ⟨accepted, ?_⟩
  obtain ⟨member, isMember, atOwner⟩ := accepted.owned
  obtain ⟨best, inTied, isBest⟩ := exists_bestEdge stableEngineRank sessionId (some owner)
    (tiedEdges_ne_nil (baselinesByUrl engines) (ne_nil_of_mem isMember))
  dsimp only at chosen
  rw [isBest] at chosen
  refine ⟨best, inTied, isBest, ?_⟩
  cases found : ownerEdge (some owner) edges with
  | none => exact absurd (congrArg some atOwner) (ownerEdge_eq_none.mp found member isMember)
  | some edge =>
    have sameUrl := some_inj.mp (ownerEdge_mem found).2
    rw [found] at chosen
    simp only [decideStep] at chosen
    rw [Except.ok.injEq] at chosen
    subst chosen
    refine ⟨rfl, rfl, ?_⟩
    rw [sameUrl]
    dsimp only
    split <;> rfl

theorem chooseGreedyStep_keeps (accepted : Accepted sessionId owner engines edges ratio)
    {own : FeasibleEdge} (tied : own ∈ tiedEdges (scoresByUrl (baselinesByUrl engines) edges) edges)
    (atOwner : own.engineUrl = owner) :
    ∃ decision, chooseGreedyStep stableEngineRank sessionId .existingSession (some owner) engines
      edges ratio = .ok decision ∧ decision.selectedTarget = owner := by
  have passes := rejection_eq_none_iff.mpr accepted
  obtain ⟨decision, chosen, _⟩ := chooseGreedyStep_of_accepted stableEngineRank passes
  obtain ⟨_, best, _, isBest, _, _, selected⟩ := chooseGreedyStep_existing chosen
  have sameUrl : best.engineUrl = owner := by
    unfold bestEdge at isBest
    cases found : ownerEdge (some owner)
      (tiedEdges (scoresByUrl (baselinesByUrl engines) edges) edges) with
    | none => exact absurd (congrArg some atOwner) (ownerEdge_eq_none.mp found own tied)
    | some edge =>
      rw [found, some_inj] at isBest
      rw [← isBest]
      exact (some_inj.mp (ownerEdge_mem found).2).symm
  refine ⟨decision, chosen, ?_⟩
  rw [selected]
  split
  · exact sameUrl
  · rfl

/-- An edge of the next choice: the new owner's is not dearer, and the old owner's not
cheaper. -/
structure EdgeAfterMove (oldOwner newOwner : String) (edge next : FeasibleEdge) : Prop where
  engineUrl : next.engineUrl = edge.engineUrl
  sessionId : next.sessionId = edge.sessionId
  queueIncrement : next.queueIncrement = edge.queueIncrement
  atNewOwner : edge.engineUrl = newOwner → next.tokenIncrement ≤ edge.tokenIncrement
  atOldOwner : edge.engineUrl = oldOwner → edge.tokenIncrement ≤ next.tokenIncrement
  elsewhere : edge.engineUrl ≠ oldOwner → edge.engineUrl ≠ newOwner → next = edge

def AfterMove (oldOwner newOwner : String) (edges next : List FeasibleEdge) : Prop :=
  ∃ inOrder, inOrder.Perm next ∧ List.Forall₂ (EdgeAfterMove oldOwner newOwner) edges inOrder

variable {oldOwner newOwner : String} {next : List FeasibleEdge}

section

variable (moved : AfterMove oldOwner newOwner edges next)
include moved

theorem AfterMove.urls :
    (edges.map FeasibleEdge.engineUrl).Perm (next.map FeasibleEdge.engineUrl) := by
  obtain ⟨inOrder, perm, pairs⟩ := moved
  have same : edges.map FeasibleEdge.engineUrl = inOrder.map FeasibleEdge.engineUrl := by
    induction pairs generalizing next with
    | nil => rfl
    | cons pair _ ih => rw [map_cons, map_cons, pair.engineUrl, ih (List.Perm.refl _)]
  rw [same]
  exact perm.map _

theorem AfterMove.of_mem_next (member : edge ∈ next) :
    ∃ before ∈ edges, EdgeAfterMove oldOwner newOwner before edge := by
  obtain ⟨inOrder, perm, pairs⟩ := moved
  have isMember := perm.mem_iff.mpr member
  clear perm member
  induction pairs with
  | nil => cases isMember
  | @cons first second _ _ pair _ ih =>
    rcases mem_cons.mp isMember with rfl | later
    · exact ⟨first, mem_cons_self, pair⟩
    · obtain ⟨before, inRest, is⟩ := ih later
      exact ⟨before, mem_cons_of_mem first inRest, is⟩

theorem AfterMove.of_mem (member : edge ∈ edges) :
    ∃ later ∈ next, EdgeAfterMove oldOwner newOwner edge later := by
  obtain ⟨inOrder, perm, pairs⟩ := moved
  have found : ∃ later ∈ inOrder, EdgeAfterMove oldOwner newOwner edge later := by
    clear perm
    induction pairs with
    | nil => cases member
    | @cons first second _ _ pair _ ih =>
      rcases mem_cons.mp member with rfl | isLater
      · exact ⟨second, mem_cons_self, pair⟩
      · obtain ⟨later, inRest, is⟩ := ih isLater
        exact ⟨later, mem_cons_of_mem second inRest, is⟩
  obtain ⟨later, isMember, is⟩ := found
  exact ⟨later, perm.mem_iff.mp isMember, is⟩

theorem AfterMove.accepted (accepted : Accepted sessionId oldOwner engines edges ratio)
    {best : FeasibleEdge} (member : best ∈ edges) (atBest : best.engineUrl = newOwner) :
    Accepted sessionId newOwner engines next ratio := by
  refine
    { ratioWithinUnit := accepted.ratioWithinUnit
      distinct := moved.urls.nodup_iff.mp accepted.distinct
      sessions := ?_
      known := ?_
      owned := ?_ }
  · intro edge isMember
    obtain ⟨before, inEdges, is⟩ := moved.of_mem_next isMember
    rw [is.sessionId]
    exact accepted.sessions before inEdges
  · intro edge isMember
    obtain ⟨before, inEdges, is⟩ := moved.of_mem_next isMember
    rw [is.engineUrl]
    exact accepted.known before inEdges
  · obtain ⟨later, isMember, is⟩ := moved.of_mem member
    exact ⟨later, isMember, is.engineUrl.trans atBest⟩

end

theorem edgeScore_mono {fewer more : FeasibleEdge} (sameUrl : fewer.engineUrl = more.engineUrl)
    (sameQueue : fewer.queueIncrement = more.queueIncrement)
    (tokens : fewer.tokenIncrement ≤ more.tokenIncrement) :
    edgeScore baselines fewer ≤ edgeScore baselines more := by
  unfold edgeScore
  rw [sameUrl, sameQueue]
  split
  · exact le_refl _
  · exact projectedPressure_mono _ _ tokens

theorem AfterMove.tied (moved : AfterMove oldOwner newOwner edges next)
    (distinct : (edges.map FeasibleEdge.engineUrl).Nodup) {own best after : FeasibleEdge}
    (ownMember : own ∈ edges) (atOwn : own.engineUrl = oldOwner)
    (tied : best ∈ tiedEdges (scoresByUrl (baselinesByUrl engines) edges) edges)
    (atBest : best.engineUrl = newOwner)
    (below : edgeScore (baselinesByUrl engines) best <
      edgeScore (baselinesByUrl engines) own - scoreTolerance)
    (afterMember : after ∈ next) (is : EdgeAfterMove oldOwner newOwner best after) :
    after ∈ tiedEdges (scoresByUrl (baselinesByUrl engines) next) next := by
  have nextDistinct := moved.urls.nodup_iff.mp distinct
  have bestMember : best ∈ edges := mem_of_mem_filter tied
  unfold tiedEdges at tied ⊢
  rw [mem_filter, decide_eq_true_eq, scoreAt_edge _ distinct bestMember] at tied
  rw [mem_filter, decide_eq_true_eq, scoreAt_edge _ nextDistinct afterMember]
  refine ⟨afterMember, ?_⟩
  obtain ⟨least, leastMember, isLeast⟩ := exists_minimum_edge (baselinesByUrl engines)
    (ne_nil_of_mem afterMember)
  rw [← isLeast, scoreAt_edge _ nextDistinct leastMember]
  have cheaper : edgeScore (baselinesByUrl engines) after ≤
      edgeScore (baselinesByUrl engines) best :=
    edgeScore_mono _ is.engineUrl is.queueIncrement (is.atNewOwner atBest)
  have tolerance := scoreTolerance_pos
  obtain ⟨before, beforeMember, wasLeast⟩ := moved.of_mem_next leastMember
  by_cases new : before.engineUrl = newOwner
  · -- The new owner has the least score itself.
    have same : least = after :=
      inj_on_of_nodup_map nextDistinct leastMember afterMember
        (by rw [wasLeast.engineUrl, is.engineUrl, new, atBest])
    rw [same]
    linarith
  · by_cases old : before.engineUrl = oldOwner
    · have same : before = own :=
        inj_on_of_nodup_map distinct beforeMember ownMember (by rw [old, atOwn])
      have dearer : edgeScore (baselinesByUrl engines) before ≤
          edgeScore (baselinesByUrl engines) least :=
        edgeScore_mono _ wasLeast.engineUrl.symm wasLeast.queueIncrement.symm
          (wasLeast.atOldOwner old)
      rw [same] at dearer
      linarith
    · have atLeast := minimumScore_le (baselinesByUrl engines) beforeMember
      rw [scoreAt_edge _ distinct beforeMember] at atLeast
      rw [wasLeast.elsewhere old new]
      linarith [tied.2]

def Beats (score ownerScore ratio : ℚ) : Prop :=
  score < ownerScore - scoreTolerance ∧ ratio ≤ improvementOver ownerScore score

theorem improvementOver_anti (ownerScore : ℚ) {less : ℚ} (increases : less ≤ more) :
    improvementOver ownerScore more ≤ improvementOver ownerScore less := by
  have denominator : 0 ≤ max ownerScore ratioEpsilon :=
    le_trans (by norm_num [ratioEpsilon]) (le_max_right ownerScore ratioEpsilon)
  exact max_le_max_left 0 (div_le_div_of_nonneg_right (by linarith) denominator)

theorem Beats.mono {less ownerScore : ℚ} (beats : Beats more ownerScore ratio)
    (increases : less ≤ more) : Beats less ownerScore ratio :=
  ⟨lt_of_le_of_lt increases beats.1, le_trans beats.2 (improvementOver_anti ownerScore increases)⟩

theorem thresholdMet_iff (best : FeasibleEdge) (ownerScore bestScore : ℚ) :
    thresholdMet (some owner) best ownerScore bestScore ratio = true ↔
      best.engineUrl ≠ owner ∧ Beats bestScore ownerScore ratio := by
  unfold thresholdMet Beats
  rw [decide_eq_true_eq, ne_eq, some_inj]

/-- A moved session is not moved again. A session that is kept is beaten neither by the best
edge, nor by any edge that has the tolerance to spare. -/
theorem migration_stable {decision : GreedyStepDecision}
    (chosen : chooseGreedyStep stableEngineRank sessionId .existingSession (some owner) engines
      edges ratio = .ok decision) :
    (decision.selectedTarget ≠ owner →
      ∀ next, AfterMove owner decision.selectedTarget edges next →
        ∃ again, chooseGreedyStep stableEngineRank sessionId .existingSession
            (some decision.selectedTarget) engines next ratio = .ok again ∧
          again.selectedTarget = decision.selectedTarget) ∧
    (decision.selectedTarget = owner →
      (decision.bestTarget ≠ owner →
        ¬ Beats decision.bestProjectedScore
          (scoreAt (scoresByUrl (baselinesByUrl engines) edges) owner) ratio) ∧
      ∀ edge ∈ edges, edge.engineUrl ≠ owner →
        ¬ Beats
          (scoreAt (scoresByUrl (baselinesByUrl engines) edges) edge.engineUrl + scoreTolerance)
          (scoreAt (scoresByUrl (baselinesByUrl engines) edges) owner) ratio) := by
  obtain ⟨accepted, best, tied, _, bestTarget, bestScore, selected⟩ :=
    chooseGreedyStep_existing chosen
  have bestMember : best ∈ edges := mem_of_mem_filter tied
  constructor
  · intro leaves next moved
    split at selected
    · next met =>
        obtain ⟨own, ownMember, atOwn⟩ := accepted.owned
        obtain ⟨_, below, _⟩ := (thresholdMet_iff best _ _).mp met
        rw [← atOwn, scoreAt_edge _ accepted.distinct ownMember,
          scoreAt_edge _ accepted.distinct bestMember] at below
        obtain ⟨after, afterMember, is⟩ := moved.of_mem bestMember
        have stillTied := moved.tied accepted.distinct ownMember atOwn tied selected.symm below
          afterMember is
        exact chooseGreedyStep_keeps (moved.accepted accepted bestMember selected.symm) stillTied
          (is.engineUrl.trans selected.symm)
    · exact absurd selected leaves
  · intro stays
    have notMet : best.engineUrl ≠ owner →
        ¬ Beats (scoreAt (scoresByUrl (baselinesByUrl engines) edges) best.engineUrl)
          (scoreAt (scoresByUrl (baselinesByUrl engines) edges) owner) ratio := by
      intro elsewhere beats
      rw [if_pos ((thresholdMet_iff best _ _).mpr ⟨elsewhere, beats⟩)] at selected
      exact elsewhere (selected.symm.trans stays)
    refine ⟨?_, ?_⟩
    · rw [bestTarget, bestScore]
      exact notMet
    · intro edge member _ beats
      have least := minimumScore_le (baselinesByUrl engines) member
      unfold tiedEdges at tied
      rw [mem_filter, decide_eq_true_eq] at tied
      by_cases same : best.engineUrl = owner
      · have tolerance := scoreTolerance_pos
        rw [same] at tied
        linarith [beats.1, tied.2]
      · exact notMet same (beats.mono (by linarith [tied.2]))

end Greedy

namespace NearTie

def engine (url : String) (tokenUsage : ℚ) (nonnegative : 0 ≤ tokenUsage) : EngineBaseline :=
  { url := url
    baseRequests := 0
    baseTokens := 0
    baseQueue := 0
    requestCapacity := 1
    tokenCapacity := 1
    tokenUsage := tokenUsage
    capacitiesPositive := by norm_num
    inputsNonnegative := ⟨le_refl _, le_refl _, le_refl _, nonnegative⟩ }

def edge (url : String) (queueIncrement : ℚ) (nonnegative : 0 ≤ queueIncrement) : FeasibleEdge :=
  { sessionId := "session"
    engineUrl := url
    queueIncrement := queueIncrement
    tokenIncrement := 0
    incrementsNonnegative := ⟨nonnegative, le_refl _⟩ }

theorem nonneg_zero : (0 : ℚ) ≤ 0 :=
  le_refl 0

/-- The owner is one and a half tolerances above the third engine, and the second engine
one. -/
def engines : List EngineBaseline :=
  [engine "a" (3 / 20000000) (by norm_num), engine "b" (1 / 10000000) (by norm_num),
    engine "c" 0 nonneg_zero]

def edges : List FeasibleEdge :=
  [edge "a" 0 nonneg_zero, edge "b" 0 nonneg_zero, edge "c" 0 nonneg_zero]

def busyEdges : List FeasibleEdge := [edge "a" 1 (by norm_num), edge "b" 0 nonneg_zero]

def rank : String → String → Nat := fun _ _ => 0

end NearTie

theorem busy_session_stable :
    ∃ decision, chooseGreedyStep NearTie.rank "session" .existingSession (some "a")
        NearTie.engines NearTie.busyEdges (1 / 10) = .ok decision ∧
      decision.selectedTarget = "b" ∧
      ∀ next, AfterMove "a" "b" NearTie.busyEdges next →
        ∃ again, chooseGreedyStep NearTie.rank "session" .existingSession (some "b")
          NearTie.engines next (1 / 10) = .ok again ∧ again.selectedTarget = "b" := by
  have moves : (chooseGreedyStep NearTie.rank "session" .existingSession (some "a")
      NearTie.engines NearTie.busyEdges (1 / 10)).toOption.map
        GreedyStepDecision.selectedTarget = some "b" := by
    decide +kernel
  cases chosen : chooseGreedyStep NearTie.rank "session" .existingSession (some "a")
    NearTie.engines NearTie.busyEdges (1 / 10) with
  | error failure =>
    rw [chosen] at moves
    cases moves
  | ok decision =>
    rw [chosen] at moves
    have selected : decision.selectedTarget = "b" := some_inj.mp moves
    have stable := (migration_stable chosen).1
    rw [selected] at stable
    exact ⟨decision, rfl, selected, stable (by decide)⟩

theorem near_tie_keeps_owner :
    ¬ ∀ (stableEngineRank : String → String → Nat) (sessionId owner : String)
        (engines : List EngineBaseline) (edges : List FeasibleEdge) (ratio : ℚ)
        (decision : GreedyStepDecision),
      chooseGreedyStep stableEngineRank sessionId .existingSession (some owner) engines edges
          ratio = .ok decision →
        decision.selectedTarget = owner →
          ∀ edge ∈ tiedEdges (scoresByUrl (baselinesByUrl engines) edges) edges,
            edge.engineUrl ≠ owner →
              ¬ Beats (scoreAt (scoresByUrl (baselinesByUrl engines) edges) edge.engineUrl)
                (scoreAt (scoresByUrl (baselinesByUrl engines) edges) owner) ratio := by
  intro claimed
  have keeps : (chooseGreedyStep NearTie.rank "session" .existingSession (some "a")
      NearTie.engines NearTie.edges (1 / 10)).toOption.map
        GreedyStepDecision.selectedTarget = some "a" := by
    decide +kernel
  cases chosen : chooseGreedyStep NearTie.rank "session" .existingSession (some "a")
    NearTie.engines NearTie.edges (1 / 10) with
  | error failure =>
    rw [chosen] at keeps
    cases keeps
  | ok decision =>
    rw [chosen] at keeps
    refine claimed NearTie.rank "session" "a" NearTie.engines NearTie.edges (1 / 10) decision
      chosen (some_inj.mp keeps) (NearTie.edge "c" 0 (le_refl _)) ?_ (by decide) ?_
    · decide +kernel
    · unfold Beats
      decide +kernel

end Dressage.Rebalancing

/-
What a lease promises about its engine.

A target is the owner itself, the stable choice among the healthy candidates, the greedy choice
among the fresh ones, or left to the router.
-/

import Dressage.Rebalancing.AcquireTotal

namespace Dressage.Rebalancing

open Lib

section Greedy

variable {stableEngineRank : String → String → Nat}

theorem chooseGreedyStep_moved {sessionId owner : String} {engines : List EngineBaseline}
    {edges : List FeasibleEdge} {ratio : ℚ} {decision : GreedyStepDecision}
    (ratioNonnegative : 0 ≤ ratio)
    (chosen : chooseGreedyStep stableEngineRank sessionId .existingSession (some owner) engines
      edges ratio = .ok decision)
    (moved : decision.selectedTarget ≠ owner) :
    ∃ ownEdge ∈ edges, ∃ best ∈ edges,
      ownEdge.engineUrl = owner ∧ best.engineUrl = decision.selectedTarget ∧
      scoreAt (scoresByUrl (baselinesByUrl engines) edges) best.engineUrl <
        scoreAt (scoresByUrl (baselinesByUrl engines) edges) ownEdge.engineUrl - scoreTolerance ∧
      ratio * scoreAt (scoresByUrl (baselinesByUrl engines) edges) ownEdge.engineUrl ≤
        scoreAt (scoresByUrl (baselinesByUrl engines) edges) ownEdge.engineUrl -
          scoreAt (scoresByUrl (baselinesByUrl engines) edges) best.engineUrl := by
  unfold chooseGreedyStep at chosen
  split at chosen
  · cases chosen
  dsimp only at chosen
  generalize scoresByUrl (baselinesByUrl engines) edges = scores at chosen ⊢
  split at chosen
  · cases chosen
  rename_i best picked
  have inEdges : best ∈ edges := by
    have inTied : best ∈ tiedEdges scores edges := by
      unfold bestEdge at picked
      split at picked
      · rename_i edge found
        cases picked
        exact (ownerEdge_mem found).1
      · exact List.argmin_mem picked
    exact List.mem_of_mem_filter inTied
  cases owned : ownerEdge (some owner) edges with
  | none =>
    rw [owned] at chosen
    cases chosen
  | some ownEdge =>
    obtain ⟨ownIn, atOwner⟩ := ownerEdge_mem owned
    rw [Option.some_inj] at atOwner
    rw [owned] at chosen
    simp only [decideStep] at chosen
    rw [Except.ok.injEq] at chosen
    subst chosen
    by_cases met : thresholdMet (some owner) best (scoreAt scores ownEdge.engineUrl)
      (scoreAt scores best.engineUrl) ratio = true
    · have threshold := met
      unfold thresholdMet at threshold
      rw [decide_eq_true_eq] at threshold
      obtain ⟨_, below, enough⟩ := threshold
      refine ⟨ownEdge, ownIn, best, inEdges, atOwner.symm, ?_, below, ?_⟩
      · simp [met]
      · -- The ratio is taken of the owner's score, or of the epsilon where that is larger.
        generalize scoreAt scores ownEdge.engineUrl = ownScore at below enough ⊢
        generalize scoreAt scores best.engineUrl = bestScore at below enough ⊢
        have tolerance : (0 : ℚ) < scoreTolerance := by norm_num [scoreTolerance]
        have epsilon : (0 : ℚ) < max ownScore ratioEpsilon :=
          lt_of_lt_of_le (by norm_num [ratioEpsilon]) (le_max_right _ _)
        have gain : 0 ≤ ownScore - bestScore := by linarith
        have quotient : ratio ≤ (ownScore - bestScore) / max ownScore ratioEpsilon := by
          unfold improvementOver at enough
          rwa [max_eq_right (div_nonneg gain (le_of_lt epsilon))] at enough
        rw [le_div_iff₀ epsilon] at quotient
        exact le_trans (mul_le_mul_of_nonneg_left (le_max_left _ _) ratioNonnegative) quotient
    · apply absurd _ moved
      simp only [if_neg met]
      exact atOwner.symm

theorem scoreAt_pair {pairs : List (FeasibleEdge × EngineBaseline)}
    (distinct : (pairs.map (fun pair => pair.1.engineUrl)).Nodup)
    (matched : ∀ pair ∈ pairs, pair.2.url = pair.1.engineUrl)
    {pair : FeasibleEdge × EngineBaseline} (member : pair ∈ pairs) :
    scoreAt (scoresByUrl (baselinesByUrl (pairs.map Prod.snd)) (pairs.map Prod.fst))
        pair.1.engineUrl =
      (projectedPressure pair.2 pair.1.queueIncrement pair.1.tokenIncrement).total := by
  have urls : ((pairs.map Prod.fst).map FeasibleEdge.engineUrl).Nodup := by
    rw [List.map_map]
    exact distinct
  have baselineUrls : ((pairs.map Prod.snd).map EngineBaseline.url).Nodup := by
    rw [List.map_map]
    have same : pairs.map (EngineBaseline.url ∘ Prod.snd) =
      pairs.map (fun pair => pair.1.engineUrl) := List.map_congr_left matched
    rw [same]
    exact distinct
  have baseline : (baselinesByUrl (pairs.map Prod.snd)).get? pair.1.engineUrl = some pair.2 := by
    rw [← matched pair member]
    exact OrderedDict.get?_foldl_set EngineBaseline.url (fun engine => engine)
      (pairs.map Prod.snd) OrderedDict.empty baselineUrls (List.mem_map_of_mem member)
  have score : (scoresByUrl (baselinesByUrl (pairs.map Prod.snd)) (pairs.map Prod.fst)).get?
      pair.1.engineUrl = some (edgeScore (baselinesByUrl (pairs.map Prod.snd)) pair.1) :=
    OrderedDict.get?_foldl_set FeasibleEdge.engineUrl
      (edgeScore (baselinesByUrl (pairs.map Prod.snd))) (pairs.map Prod.fst) OrderedDict.empty urls
      (List.mem_map_of_mem member)
  rw [scoreAt, OrderedDict.getD, score, Option.getD_some, edgeScore, baseline]

end Greedy

namespace EngineRebalancer

/-- Why a healthy owner may be left: its own snapshot is fresh, its cache can
follow, and the target is better by the tolerance and by the ratio. -/
structure MoveJustified (setup : Setup) (state : EngineRebalancer) (now : ℚ)
    (session : SessionRoutingState) (inputIds : List Nat) (owner target : String) : Prop where
  owner_fresh : ∃ load, state.loads.get? owner = some load ∧
    load.fresh now setup.staleSeconds = true
  path_ready : state.pathReady setup owner target = true
  improves : ∃ ownerBaseline targetBaseline,
    state.effectiveBaseline owner = some ownerBaseline ∧
    state.effectiveBaseline target = some targetBaseline ∧
    (projectedPressure targetBaseline 1 inputIds.length).total <
      (projectedPressure ownerBaseline 1 (scoringTokens session inputIds true)).total -
        scoreTolerance ∧
    setup.config.minLoadImprovementRatio *
        (projectedPressure ownerBaseline 1 (scoringTokens session inputIds true)).total ≤
      (projectedPressure ownerBaseline 1 (scoringTokens session inputIds true)).total -
        (projectedPressure targetBaseline 1 inputIds.length).total

structure TargetSafe (setup : Setup) (state : EngineRebalancer) (now : ℚ)
    (session : SessionRoutingState) (inputIds : List Nat) (expectedVersion : Option String)
    (target : String) : Prop where
  healthy : ∃ load, state.loads.get? target = some load ∧ load.healthy = true
  registered : ∃ deployment, state.deployments.get? target = some deployment ∧
    (∀ version, expectedVersion = some version → deployment.weightVersion = version) ∧
    ∀ owner, session.ownerWorkerUrl = some owner → owner ≠ target →
      sessionFingerprint session (state.deployments.get? owner) = some deployment.cacheFingerprint
  justified : ∀ owner, session.ownerWorkerUrl = some owner → owner ≠ target →
    state.healthyOwner (some owner) expectedVersion = true →
      MoveJustified setup state now session inputIds owner target

variable {setup : Setup} {state : EngineRebalancer} {now : ℚ} {sessionId : String}
variable {session : SessionRoutingState} {inputIds : List Nat} {expectedVersion : Option String}

theorem healthyAt_iff {url : String} :
    state.healthyAt url = true ↔ ∃ load, state.loads.get? url = some load ∧ load.healthy = true := by
  unfold healthyAt
  cases state.loads.get? url <;> simp

theorem versionValid_iff {deployment : EngineDeploymentInfo} :
    versionValid expectedVersion deployment = true ↔
      ∀ version, expectedVersion = some version → deployment.weightVersion = version := by
  unfold versionValid
  cases expectedVersion <;> simp

theorem owner_safe {owner : String} (owns : session.ownerWorkerUrl = some owner)
    (healthy : state.healthyOwner (some owner) expectedVersion = true) :
    TargetSafe setup state now session inputIds expectedVersion owner := by
  obtain ⟨deployment, found, version, alive⟩ := healthyOwner_iff.mp healthy
  have same : ∀ other, session.ownerWorkerUrl = some other → ¬ other ≠ owner := by
    intro other named different
    rw [owns, Option.some_inj] at named
    exact different named.symm
  exact
    { healthy := healthyAt_iff.mp alive
      registered := ⟨deployment, found, versionValid_iff.mp version,
        fun other named different => absurd different (same other named)⟩
      justified := fun other named different _ => absurd different (same other named) }

variable {target : String} {placed : RoutingLease × EngineRebalancer}

theorem candidate_safe (keyed : DeploymentsKeyed state)
    (candidate : target ∈ state.healthyCandidates session expectedVersion)
    (justified : ∀ owner, session.ownerWorkerUrl = some owner → owner ≠ target →
      state.healthyOwner (some owner) expectedVersion = true →
        MoveJustified setup state now session inputIds owner target) :
    TargetSafe setup state now session inputIds expectedVersion target := by
  obtain ⟨deployment, found, alive, version, compatible⟩ :=
    (mem_healthyCandidates keyed target).mp candidate
  refine
    { healthy := healthyAt_iff.mp alive
      registered := ⟨deployment, found, versionValid_iff.mp version, ?_⟩
      justified := justified }
  intro owner owns _different
  rcases compatible with alone | same
  · rw [owns] at alone
    cases alone
  · rw [owns] at same
    exact same

theorem mem_feasibleEdges {pair : FeasibleEdge × EngineBaseline}
    (member : pair ∈ state.feasibleEdges setup now sessionId session inputIds expectedVersion) :
    ∃ target ∈ state.freshCandidates setup now session expectedVersion,
      pair.1 = makeEdge sessionId target
        (scoringTokens session inputIds
          (state.healthyOwner session.ownerWorkerUrl expectedVersion &&
            decide (session.ownerWorkerUrl = some target))) ∧
      state.effectiveBaseline target = some pair.2 ∧
      ¬ (state.healthyOwner session.ownerWorkerUrl expectedVersion = true ∧
        session.ownerWorkerUrl ≠ some target ∧
        ¬ state.pathReady setup (session.ownerWorkerUrl.getD "") target = true) := by
  unfold feasibleEdges at member
  obtain ⟨target, fresh, made⟩ := List.mem_filterMap.mp member
  refine ⟨target, fresh, ?_⟩
  split at made
  · cases made
  · rename_i open_path
    obtain ⟨baseline, found, same⟩ := Option.map_eq_some_iff.mp made
    subst same
    exact ⟨rfl, found, open_path⟩

theorem fresh_of_usable {url : String} (usable : state.snapshotUsable setup now url = true) :
    ∃ load, state.loads.get? url = some load ∧ load.fresh now setup.staleSeconds = true := by
  unfold snapshotUsable at usable
  cases load : state.loads.get? url with
  | none => simp [load] at usable
  | some value =>
    simp only [load, Bool.and_eq_true] at usable
    exact ⟨value, rfl, usable.1⟩

theorem greedy_move_justified {owner : String} {decision : GreedyStepDecision}
    (owns : session.ownerWorkerUrl = some owner)
    (healthy : state.healthyOwner (some owner) expectedVersion = true)
    (chosen : chooseGreedyStep setup.stableEngineRank sessionId .existingSession (some owner)
      ((state.feasibleEdges setup now sessionId session inputIds expectedVersion).map Prod.snd)
      ((state.feasibleEdges setup now sessionId session inputIds expectedVersion).map Prod.fst)
      setup.config.minLoadImprovementRatio = .ok decision)
    (selected : decision.selectedTarget = target) (different : owner ≠ target) :
    MoveJustified setup state now session inputIds owner target := by
  have spec := @feasibleEdges_spec setup state now sessionId session inputIds expectedVersion
  have distinct : ((state.feasibleEdges setup now sessionId session inputIds
      expectedVersion).map (fun pair => pair.1.engineUrl)).Nodup := by
    rw [spec.1]
    exact freshCandidates_nodup.filter _
  have matched : ∀ pair ∈ state.feasibleEdges setup now sessionId session inputIds
    expectedVersion, pair.2.url = pair.1.engineUrl := fun pair member => (spec.2 pair member).2
  obtain ⟨ownEdge, ownIn, best, bestIn, atOwner, atBest, below, enough⟩ :=
    chooseGreedyStep_moved setup.config.ratioWithinUnit.1 chosen
      (fun same => different (same.symm.trans selected))
  obtain ⟨ownPair, ownMember, ownSame⟩ := List.mem_map.mp ownIn
  obtain ⟨bestPair, bestMember, bestSame⟩ := List.mem_map.mp bestIn
  subst ownSame
  subst bestSame
  rw [scoreAt_pair distinct matched ownMember, scoreAt_pair distinct matched bestMember]
    at below enough
  obtain ⟨ownTarget, ownFresh, ownEdge, ownBaseline, _⟩ := mem_feasibleEdges ownMember
  obtain ⟨bestTarget, _, bestEdge, bestBaseline, open_path⟩ := mem_feasibleEdges bestMember
  have ownUrl : ownTarget = owner := by
    rw [ownEdge] at atOwner
    exact atOwner
  have bestUrl : bestTarget = target := by
    rw [bestEdge] at atBest
    exact atBest.trans selected
  subst ownUrl
  subst bestUrl
  have stays : (state.healthyOwner session.ownerWorkerUrl expectedVersion &&
      decide (session.ownerWorkerUrl = some ownTarget)) = true := by
    rw [owns, healthy]
    simp
  have leaves : (state.healthyOwner session.ownerWorkerUrl expectedVersion &&
      decide (session.ownerWorkerUrl = some bestTarget)) = false := by
    rw [owns]
    simp [different]
  rw [ownEdge, bestEdge, stays, leaves] at below enough
  refine
    { owner_fresh := fresh_of_usable (List.mem_filter.mp ownFresh).2
      path_ready := ?_
      improves := ⟨ownPair.2, bestPair.2, ownBaseline, bestBaseline, below, enough⟩ }
  rw [owns] at open_path
  by_contra blocked
  exact open_path ⟨healthy, fun same => different (Option.some_inj.mp same), blocked⟩

theorem commitStep_worker (target targetFingerprint : Option String) (kind : GreedyStepKind)
    (candidateUrls : List String) (greedy : Option GreedyStepDecision)
    (edge : Option FeasibleEdge) (fallbackReason : Option FallbackReason) :
    (state.commitStep setup sessionId session target targetFingerprint kind candidateUrls greedy
      edge fallbackReason).1.workerUrl = target := by
  unfold commitStep reserve
  dsimp only
  cases target <;> rfl

theorem scheduleFallback_worker (target : Option String) (kind : GreedyStepKind)
    (reason : FallbackReason) :
    (state.scheduleFallback setup sessionId session target kind inputIds reason).1.workerUrl =
      target := by
  unfold scheduleFallback
  exact commitStep_worker _ _ _ _ _ _ _

section

variable (keyed : DeploymentsKeyed state)
include keyed

theorem scheduleWithoutEdges_safe
    (scheduled : state.scheduleWithoutEdges setup sessionId session inputIds expectedVersion =
      .ok placed) (worker : placed.1.workerUrl = some target) :
    TargetSafe setup state now session inputIds expectedVersion target := by
  unfold scheduleWithoutEdges at scheduled
  dsimp only at scheduled
  split at scheduled
  · rename_i healthy
    cases scheduled
    rw [scheduleFallback_worker] at worker
    rw [worker] at healthy
    exact owner_safe worker healthy
  split at scheduled
  · cases scheduled
    rw [scheduleFallback_worker] at worker
    cases worker
  split at scheduled
  · cases scheduled
  · rename_i unhealthy some_candidate _ chosen picked
    cases scheduled
    rw [scheduleFallback_worker, Option.some_inj] at worker
    subst worker
    have nonempty : sortedUrls (state.healthyCandidates session expectedVersion) ≠ [] := by
      unfold sortedUrls
      intro empty
      apply some_candidate
      rw [← List.length_eq_zero_iff] at empty ⊢
      rwa [List.length_mergeSort] at empty
    obtain ⟨url, member, stable⟩ :=
      chooseStableEngine_mem setup.stableEngineRank sessionId nonempty
    rw [picked, Except.ok.injEq] at stable
    rw [← stable] at member
    unfold sortedUrls at member
    rw [List.mem_mergeSort] at member
    apply candidate_safe keyed member
    intro owner owns _different healthy
    rw [owns] at unhealthy
    exact absurd healthy unhealthy

theorem scheduleGreedy_safe
    (scheduled : state.scheduleGreedy setup sessionId session expectedVersion
      (state.feasibleEdges setup now sessionId session inputIds expectedVersion) = .ok placed)
    (worker : placed.1.workerUrl = some target) :
    TargetSafe setup state now session inputIds expectedVersion target := by
  unfold scheduleGreedy at scheduled
  dsimp only at scheduled
  split at scheduled
  · cases scheduled
  rename_i greedy chosen
  split at scheduled
  · cases scheduled
  · cases scheduled
  · rename_i edge deployment found registered
    cases scheduled
    rw [commitStep_worker, Option.some_inj] at worker
    have inEdges := List.mem_of_find?_eq_some found
    have atTarget := List.find?_some found
    rw [decide_eq_true_eq, worker] at atTarget
    obtain ⟨pair, member, same⟩ := List.mem_map.mp inEdges
    subst same
    obtain ⟨url, fresh, made, _, _⟩ := mem_feasibleEdges member
    have sameUrl : url = target := by
      rw [made] at atTarget
      exact atTarget
    subst sameUrl
    apply candidate_safe keyed (List.mem_filter.mp fresh).1
    intro owner owns different healthy
    have kind : state.stepKind session.ownerWorkerUrl expectedVersion = .existingSession := by
      rw [owns]
      simp [stepKind, healthy]
    rw [kind, owns] at chosen
    exact greedy_move_justified owns healthy chosen worker different

theorem scheduleStep_safe {requireRegisteredContext : Bool}
    (scheduled : state.scheduleStep setup now sessionId inputIds expectedVersion
      requireRegisteredContext = .ok placed) (worker : placed.1.workerUrl = some target) :
    TargetSafe setup state now ((state.sessions.get? sessionId).getD SessionRoutingState.new)
      inputIds expectedVersion target := by
  unfold scheduleStep at scheduled
  dsimp only at scheduled
  split at scheduled
  · cases scheduled
  split at scheduled
  · rename_i owned
    cases scheduled
    rw [scheduleFallback_worker] at worker
    obtain ⟨healthy, _⟩ := owned
    rw [worker] at healthy
    exact owner_safe worker healthy
  split at scheduled
  · exact scheduleWithoutEdges_safe keyed scheduled worker
  · exact scheduleGreedy_safe keyed scheduled worker

end

namespace BusyOwner

def busy : LoadAnswer :=
  .rows [some
    { numRunningReqs := some 8
      numWaitingReqs := some 4
      numQueueReqs := none
      numTotalTokens := some 900
      numUsedTokens := none
      maxTotalNumTokens := some 1000
      maxRunningRequests := some 8
      tokenUsage := some (9 / 10) }]

def actions : List Action :=
  SplitUpdate.actions.take 8 ++ [.startPoll "http://a", .finishPoll "http://a" busy 1]

def movedLease : RoutingLease :=
  { decision :=
      { sessionId := "session"
        sourceWorkerUrl := some "http://a"
        targetWorkerUrl := some "http://b"
        moved := true }
    workerUrl := some "http://b"
    reservationId := some 2
    loadDecisionId := some 2 }

end BusyOwner

/-- In every reachable state, a lease with an engine names a registered, healthy
engine of the expected version; if it leaves the session's owner the engine has
the session's fingerprint, and if that owner was healthy and of the expected
version the move is justified. -/
theorem leases_safe (setup : Setup) (actions : List Action) (now : ℚ) (sessionId : String)
    (inputIds : List Nat) (expectedVersion : Option String) (requireRegisteredContext : Bool)
    (lease : RoutingLease) (target : String)
    (acquired : ((after setup actions).acquire setup now sessionId inputIds expectedVersion
      requireRegisteredContext).1 = .ok lease)
    (worker : lease.workerUrl = some target) :
    TargetSafe setup (after setup actions) now
      (((after setup actions).sessions.get? sessionId).getD SessionRoutingState.new)
      inputIds expectedVersion target := by
  unfold acquire at acquired
  split at acquired
  · cases acquired
    cases worker
  split at acquired
  · cases acquired
  split at acquired
  · rename_i placed next scheduled
    cases acquired
    exact scheduleStep_safe (after_keyed actions) scheduled worker
  · cases acquired

theorem moved_lease_safe :
    ((after SplitUpdate.pairSetup BusyOwner.actions).acquire SplitUpdate.pairSetup 2 "session"
      [11, 12, 13, 14] none false).1 = .ok BusyOwner.movedLease ∧
    TargetSafe SplitUpdate.pairSetup (after SplitUpdate.pairSetup BusyOwner.actions) 2
      (((after SplitUpdate.pairSetup BusyOwner.actions).sessions.get? "session").getD
        SessionRoutingState.new) [11, 12, 13, 14] none "http://b" := by
  have returned : ((after SplitUpdate.pairSetup BusyOwner.actions).acquire SplitUpdate.pairSetup 2
      "session" [11, 12, 13, 14] none false).1.toOption = some BusyOwner.movedLease := by
    decide +kernel
  have acquired : ((after SplitUpdate.pairSetup BusyOwner.actions).acquire SplitUpdate.pairSetup 2
      "session" [11, 12, 13, 14] none false).1 = .ok BusyOwner.movedLease := by
    cases outcome : ((after SplitUpdate.pairSetup BusyOwner.actions).acquire
      SplitUpdate.pairSetup 2 "session" [11, 12, 13, 14] none false).1 with
    | error failure =>
      rw [outcome] at returned
      cases returned
    | ok lease =>
      rw [outcome] at returned
      cases returned
      rfl
  exact ⟨acquired, leases_safe SplitUpdate.pairSetup BusyOwner.actions 2 "session"
    [11, 12, 13, 14] none false BusyOwner.movedLease "http://b" acquired rfl⟩

end EngineRebalancer

end Dressage.Rebalancing

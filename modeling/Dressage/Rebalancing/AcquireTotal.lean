/-
When an acquire returns a lease.

The scheduler does not make sure that a healthy owner is among the edges: candidates are
filtered by the fingerprint the session recorded, and a refresh may have given the owner another
one. The greedy choice rejects such a step; every other step of every reachable state is placed.
-/

import Dressage.Rebalancing.Scheduler

namespace Dressage.Rebalancing

open Lib List OrderedDict Option

namespace EngineRebalancer

def DeploymentsKeyed (state : EngineRebalancer) : Prop :=
  ∀ url deployment, state.deployments.get? url = some deployment → deployment.workerUrl = url

variable {setup : Setup} {state : EngineRebalancer}

def inspectedDeployments (setup : Setup) (deployments : OrderedDict String EngineDeploymentInfo)
    (url : String) : Option WorkerReport → OrderedDict String EngineDeploymentInfo
  | none => deployments
  | some report =>
    if sglangRebalancingSupported report.sglangVersion then
      deployments.set url (deploymentOf setup url report)
    else deployments.pop url

theorem recordInspection_keyed (inspected : String × Option WorkerReport)
    (keyed : DeploymentsKeyed state) :
    DeploymentsKeyed (state.recordInspection setup inspected) := by
  -- The load entry that the section may add does not touch the deployments.
  have deployments : (state.recordInspection setup inspected).deployments =
      inspectedDeployments setup state.deployments inspected.1 inspected.2 := by
    unfold recordInspection inspectedDeployments
    cases inspected.2 with
    | none =>
      dsimp only
      split <;> rfl
    | some report =>
      dsimp only
      split
      · split <;> rfl
      · split <;> rfl
  intro url deployment found
  rw [deployments] at found
  cases report : inspected.2 with
  | none =>
    rw [report] at found
    exact keyed url deployment found
  | some observed =>
    rw [report, inspectedDeployments] at found
    split at found
    · rw [get?_set] at found
      split at found
      · rename_i same
        cases found
        exact same.symm
      · exact keyed url deployment found
    · rw [get?_pop] at found
      split at found
      · cases found
      · exact keyed url deployment found

theorem recordProfile_deployments (healthy : List String) (deployment : EngineDeploymentInfo) :
    (state.recordProfile setup healthy deployment).deployments = state.deployments := by
  unfold recordProfile
  split
  · rfl
  · split <;> rfl

theorem foldl_recordProfile_deployments (healthy : List String)
    (pool : List EngineDeploymentInfo) :
    (pool.foldl (fun current deployment => current.recordProfile setup healthy deployment)
      state).deployments = state.deployments := by
  induction pool generalizing state with
  | nil => rfl
  | cons deployment rest ih =>
    rw [foldl_cons, ih]
    exact recordProfile_deployments healthy deployment

theorem refresh_keyed (inspected : List (String × Option WorkerReport))
    (keyed : DeploymentsKeyed state) : DeploymentsKeyed (state.refresh setup inspected) := by
  have noted : DeploymentsKeyed (inspected.foldl
      (fun current worker => current.recordInspection setup worker) state) := by
    induction inspected generalizing state with
    | nil => exact keyed
    | cons worker rest ih => exact ih (recordInspection_keyed worker keyed)
  intro url deployment found
  apply noted url deployment
  simpa only [refresh, foldl_recordProfile_deployments] using found

theorem commitStep_deployments (sessionId : String) (session : SessionRoutingState)
    (target targetFingerprint : Option String) (kind : GreedyStepKind)
    (candidateUrls : List String) (greedy : Option GreedyStepDecision)
    (edge : Option FeasibleEdge) (fallbackReason : Option FallbackReason) :
    (state.commitStep setup sessionId session target targetFingerprint kind candidateUrls greedy
      edge fallbackReason).2.deployments = state.deployments := by
  unfold commitStep reserve recordTrace
  dsimp only
  cases target <;> rfl

theorem scheduleStep_commits {now : ℚ} {sessionId : String} {inputIds : List Nat}
    {expectedVersion : Option String} {requireRegisteredContext : Bool}
    {placed : RoutingLease × EngineRebalancer}
    (scheduled : state.scheduleStep setup now sessionId inputIds expectedVersion
      requireRegisteredContext = .ok placed) :
    ∃ target targetFingerprint kind candidateUrls greedy edge fallbackReason,
      placed = state.commitStep setup sessionId
        ((state.sessions.get? sessionId).getD SessionRoutingState.new) target targetFingerprint
        kind candidateUrls greedy edge fallbackReason := by
  unfold scheduleStep at scheduled
  dsimp only at scheduled
  split at scheduled
  · cases scheduled
  split at scheduled
  · cases scheduled
    exact ⟨_, _, _, _, _, _, _, rfl⟩
  split at scheduled
  · unfold scheduleWithoutEdges at scheduled
    dsimp only at scheduled
    split at scheduled
    · cases scheduled
      exact ⟨_, _, _, _, _, _, _, rfl⟩
    split at scheduled
    · cases scheduled
      exact ⟨_, _, _, _, _, _, _, rfl⟩
    split at scheduled
    · cases scheduled
    · cases scheduled
      exact ⟨_, _, _, _, _, _, _, rfl⟩
  · unfold scheduleGreedy at scheduled
    dsimp only at scheduled
    split at scheduled
    · cases scheduled
    split at scheduled
    · cases scheduled
    · cases scheduled
    · cases scheduled
      exact ⟨_, _, _, _, _, _, _, rfl⟩

theorem acquire_deployments (now : ℚ) (sessionId : String) (inputIds : List Nat)
    (expectedVersion : Option String) (requireRegisteredContext : Bool) :
    (state.acquire setup now sessionId inputIds expectedVersion
      requireRegisteredContext).2.deployments = state.deployments := by
  unfold acquire
  split
  · rfl
  split
  · rfl
  split
  · rename_i lease next scheduled
    obtain ⟨target, targetFingerprint, kind, candidateUrls, greedy, edge, reason, same⟩ :=
      scheduleStep_commits scheduled
    have placed := congrArg (fun placed => placed.2.deployments) same
    exact placed.trans (commitStep_deployments sessionId _ target targetFingerprint kind
      candidateUrls greedy edge reason)
  · rfl

theorem complete_deployments (lease : RoutingLease) (committedTokens : List Nat)
    (success : Bool) :
    (state.complete setup lease committedTokens success).2.deployments = state.deployments := by
  have released : (state.releaseReservation lease.reservationId).deployments =
      state.deployments := by
    unfold releaseReservation
    split <;> rfl
  unfold complete
  dsimp only
  split
  · rfl
  split
  · split
    · exact released
    split <;> exact released
  · exact released

theorem finishPoll_deployments (url : String) (answer : LoadAnswer) (now : ℚ) :
    (state.finishPoll url answer now).deployments = state.deployments := by
  unfold finishPoll
  split
  · rfl
  dsimp only
  split
  · rfl
  split
  · split <;> rfl
  · rfl

theorem step_keyed (action : Action) (keyed : DeploymentsKeyed state) :
    DeploymentsKeyed (state.step setup action) := by
  intro url deployment found
  cases action with
  | refresh inspected => exact refresh_keyed inspected keyed url deployment found
  | startPoll polled =>
    apply keyed url deployment
    simp only [step, startPoll] at found
    split at found
    · split at found <;> exact found
    · exact found
  | finishPoll polled answer now =>
    exact keyed url deployment ((finishPoll_deployments polled answer now) ▸ found)
  | acquire now sessionId inputIds expectedVersion requireRegisteredContext =>
    exact keyed url deployment ((acquire_deployments now sessionId inputIds expectedVersion
      requireRegisteredContext) ▸ found)
  | complete lease committedTokens success =>
    exact keyed url deployment ((complete_deployments lease committedTokens success) ▸ found)
  | register sessionId =>
    apply keyed url deployment
    simp only [step, registerSessionContext] at found
    split at found <;> exact found
  | discard sessionId | calibrate calibration | close => exact keyed url deployment found

theorem after_keyed (actions : List Action) : DeploymentsKeyed (after setup actions) := by
  refine Runs.run_preserves (fun state action keyed => step_keyed action keyed) ?_ actions
  intro url deployment found
  cases found

variable {now : ℚ} {sessionId : String} {session : SessionRoutingState} {inputIds : List Nat}
variable {expectedVersion : Option String}

theorem mem_healthyCandidates (keyed : DeploymentsKeyed state) (url : String) :
    url ∈ state.healthyCandidates session expectedVersion ↔
      ∃ deployment, state.deployments.get? url = some deployment ∧ state.healthyAt url = true ∧
        versionValid expectedVersion deployment = true ∧
        (session.ownerWorkerUrl = none ∨
          sessionFingerprint session (state.ownerDeployment session.ownerWorkerUrl) =
            some deployment.cacheFingerprint) := by
  unfold healthyCandidates
  simp only [List.mem_map, mem_filter, Bool.and_eq_true, decide_eq_true_eq]
  constructor
  · rintro ⟨entry, ⟨present, ⟨⟨_, healthy⟩, version⟩, compatible⟩, rfl⟩
    exact ⟨entry.2, get?_of_mem present, healthy, version, compatible⟩
  · rintro ⟨deployment, found, healthy, version, compatible⟩
    exact ⟨(url, deployment), ⟨mem_of_get? found,
      ⟨⟨keyed url deployment found, healthy⟩, version⟩, compatible⟩, rfl⟩

theorem freshCandidates_nodup :
    (state.freshCandidates setup now session expectedVersion).Nodup := by
  have keys : (state.healthyCandidates session expectedVersion).Nodup :=
    state.deployments.distinct.sublist (List.Sublist.map Prod.fst filter_sublist)
  exact keys.filter _

theorem baseline_of_usable {url : String} (usable : state.snapshotUsable setup now url = true) :
    ∃ baseline, state.effectiveBaseline url = some baseline ∧ baseline.url = url := by
  have present : (state.effectiveBaseline url).isSome = true := by
    unfold snapshotUsable at usable
    cases load : state.loads.get? url with
    | none => simp [load] at usable
    | some value =>
      simp only [load, Bool.and_eq_true] at usable
      exact usable.2
  obtain ⟨baseline, found⟩ := isSome_iff_exists.mp present
  refine ⟨baseline, found, ?_⟩
  unfold effectiveBaseline at found
  cases load : state.loads.get? url with
  | none => simp [load] at found
  | some value =>
    simp only [load] at found
    split at found
    · cases found
      rfl
    · cases found

def mayTake (setup : Setup) (state : EngineRebalancer) (source expectedVersion : Option String)
    (target : String) : Bool :=
  !(state.healthyOwner source expectedVersion && decide (source ≠ some target) &&
    !state.pathReady setup (source.getD "") target)

theorem feasibleEdges_spec :
    ((state.feasibleEdges setup now sessionId session inputIds expectedVersion).map
        (fun pair => pair.1.engineUrl) =
      (state.freshCandidates setup now session expectedVersion).filter
        (mayTake setup state session.ownerWorkerUrl expectedVersion)) ∧
    ∀ pair ∈ state.feasibleEdges setup now sessionId session inputIds expectedVersion,
      pair.1.sessionId = sessionId ∧ pair.2.url = pair.1.engineUrl := by
  have usable : ∀ url ∈ state.freshCandidates setup now session expectedVersion,
      ∃ baseline, state.effectiveBaseline url = some baseline ∧ baseline.url = url := by
    intro url member
    exact baseline_of_usable (mem_filter.mp member).2
  unfold feasibleEdges
  dsimp only
  generalize state.freshCandidates setup now session expectedVersion = candidates at usable ⊢
  induction candidates with
  | nil => exact ⟨rfl, fun pair member => nomatch member⟩
  | cons url rest ih =>
    obtain ⟨urls, sound⟩ := ih (fun other member => usable other (mem_cons_of_mem _ member))
    obtain ⟨baseline, found, atUrl⟩ := usable url mem_cons_self
    by_cases blocked : state.healthyOwner session.ownerWorkerUrl expectedVersion = true ∧
      session.ownerWorkerUrl ≠ some url ∧
      ¬ state.pathReady setup (session.ownerWorkerUrl.getD "") url = true
    · have left : mayTake setup state session.ownerWorkerUrl expectedVersion url = false := by
        simp [mayTake, blocked.1, blocked.2.1, blocked.2.2]
      rw [filterMap_cons, if_pos blocked, filter_cons_of_neg (by simp [left])]
      exact ⟨urls, sound⟩
    · have kept : mayTake setup state session.ownerWorkerUrl expectedVersion url = true := by
        simp only [mayTake, Bool.not_eq_true', Bool.and_eq_false_iff, decide_eq_false_iff_not]
        by_contra excluded
        apply blocked
        push Not at excluded
        simpa [and_assoc] using excluded
      rw [filterMap_cons, if_neg blocked, found, filter_cons_of_pos kept]
      constructor
      · simpa [makeEdge] using urls
      · intro pair member
        rcases mem_cons.mp member with atHead | inRest
        · subst pair
          exact ⟨rfl, atUrl⟩
        · exact sound pair inRest

theorem exists_edge_iff (keyed : DeploymentsKeyed state) (url : String) :
    (∃ edge ∈ (state.feasibleEdges setup now sessionId session inputIds
        expectedVersion).map Prod.fst, edge.engineUrl = url) ↔
      ∃ deployment, state.deployments.get? url = some deployment ∧ state.healthyAt url = true ∧
        versionValid expectedVersion deployment = true ∧
        (session.ownerWorkerUrl = none ∨
          sessionFingerprint session (state.ownerDeployment session.ownerWorkerUrl) =
            some deployment.cacheFingerprint) ∧
        state.snapshotUsable setup now url = true ∧
        mayTake setup state session.ownerWorkerUrl expectedVersion url = true := by
  have listed : (∃ edge ∈ (state.feasibleEdges setup now sessionId session inputIds
      expectedVersion).map Prod.fst, edge.engineUrl = url) ↔
      url ∈ (state.feasibleEdges setup now sessionId session inputIds expectedVersion).map
        (fun pair => pair.1.engineUrl) := by
    simp only [List.mem_map, exists_exists_and_eq_and]
  rw [listed, feasibleEdges_spec.1, mem_filter, freshCandidates, mem_filter,
    mem_healthyCandidates keyed]
  constructor
  · rintro ⟨⟨⟨deployment, found, healthy, version, compatible⟩, usable⟩, taken⟩
    exact ⟨deployment, found, healthy, version, compatible, usable, taken⟩
  · rintro ⟨deployment, found, healthy, version, compatible, usable, taken⟩
    exact ⟨⟨⟨deployment, found, healthy, version, compatible⟩, usable⟩, taken⟩

theorem healthyOwner_of_candidate {owner : String} {deployment : EngineDeploymentInfo}
    (found : state.deployments.get? owner = some deployment)
    (healthy : state.healthyAt owner = true)
    (version : versionValid expectedVersion deployment = true) :
    state.healthyOwner (some owner) expectedVersion = true := by
  simp [healthyOwner, ownerDeployment, found, healthy, version]

theorem rejection_feasible (keyed : DeploymentsKeyed state)
    (some_edge : state.feasibleEdges setup now sessionId session inputIds expectedVersion ≠ []) :
    rejection sessionId (state.stepKind session.ownerWorkerUrl expectedVersion)
        session.ownerWorkerUrl
        ((state.feasibleEdges setup now sessionId session inputIds expectedVersion).map Prod.snd)
        ((state.feasibleEdges setup now sessionId session inputIds expectedVersion).map Prod.fst)
        setup.config.minLoadImprovementRatio =
      if state.healthyOwner session.ownerWorkerUrl expectedVersion = true ∧
          ownerEdge session.ownerWorkerUrl ((state.feasibleEdges setup now sessionId session
            inputIds expectedVersion).map Prod.fst) = none then
        some .stickyWithoutOwnerEdge
      else none := by
  have spec : _ := @feasibleEdges_spec setup state now sessionId session inputIds expectedVersion
  generalize edges_def : state.feasibleEdges setup now sessionId session inputIds
    expectedVersion = edges at *
  have ratio : ¬ ¬ (0 ≤ setup.config.minLoadImprovementRatio ∧
    setup.config.minLoadImprovementRatio ≤ 1) := not_not.mpr setup.config.ratioWithinUnit
  have nonempty : edges.map Prod.fst ≠ [] := by simpa using some_edge
  have distinct : ¬ ¬ ((edges.map Prod.fst).map FeasibleEdge.engineUrl).Nodup := by
    rw [not_not, List.map_map]
    have listed : edges.map (FeasibleEdge.engineUrl ∘ Prod.fst) = _ := spec.1
    rw [listed]
    exact freshCandidates_nodup.filter _
  have sameSession : ¬ ∃ edge ∈ edges.map Prod.fst, edge.sessionId ≠ sessionId := by
    rintro ⟨edge, member, different⟩
    obtain ⟨pair, inEdges, rfl⟩ := List.mem_map.mp member
    exact different (spec.2 pair inEdges).1
  have known : ¬ ∃ edge ∈ edges.map Prod.fst,
      edge.engineUrl ∉ (baselinesByUrl (edges.map Prod.snd)).keys := by
    rintro ⟨edge, member, unknown⟩
    obtain ⟨pair, inEdges, rfl⟩ := List.mem_map.mp member
    exact unknown ((mem_keys_baselinesByUrl _ _).mpr
      ⟨pair.2, List.mem_map_of_mem inEdges, (spec.2 pair inEdges).2⟩)
  unfold rejection
  rw [if_neg ratio, if_neg nonempty, if_neg distinct, if_neg sameSession, if_neg known]
  cases source : session.ownerWorkerUrl with
  | none => simp [stepKind, healthyOwner, GreedyStepKind.isSticky]
  | some owner =>
    by_cases owned : state.healthyOwner (some owner) expectedVersion = true
    · simp [stepKind, owned, GreedyStepKind.isSticky]
    · have notRetained : ownerEdge (some owner) (edges.map Prod.fst) = none := by
        rw [ownerEdge_eq_none]
        intro edge member same
        rw [← edges_def] at member
        obtain ⟨deployment, found, healthy, version, _⟩ :=
          (exists_edge_iff keyed owner).mp ⟨edge, member, some_inj.mp same⟩
        exact owned (healthyOwner_of_candidate found healthy version)
      simp [stepKind, owned, GreedyStepKind.isSticky, notRetained]

/-- The owner is healthy, valid for the version and has a usable snapshot, but
its deployment no longer has the fingerprint the session recorded; another
engine that still has it is usable and reachable from the owner. -/
def OwnerLeftOut (setup : Setup) (state : EngineRebalancer) (now : ℚ) (sessionId : String)
    (expectedVersion : Option String) : Prop :=
  ∃ session owner ownerInfo target targetInfo,
    state.sessions.get? sessionId = some session ∧
    session.ownerWorkerUrl = some owner ∧
    state.deployments.get? owner = some ownerInfo ∧
    versionValid expectedVersion ownerInfo = true ∧
    state.healthyAt owner = true ∧
    state.snapshotUsable setup now owner = true ∧
    session.fingerprint ≠ some "" ∧
    session.fingerprint = some targetInfo.cacheFingerprint ∧
    ownerInfo.cacheFingerprint ≠ targetInfo.cacheFingerprint ∧
    state.deployments.get? target = some targetInfo ∧
    versionValid expectedVersion targetInfo = true ∧
    state.healthyAt target = true ∧
    state.snapshotUsable setup now target = true ∧
    state.pathReady setup owner target = true

theorem sessionFingerprint_recorded {recorded : String}
    {deployment : Option EngineDeploymentInfo} (set : session.fingerprint = some recorded)
    (nonempty : session.fingerprint ≠ some "") :
    sessionFingerprint session deployment = some recorded := by
  have text : recorded ≠ "" := by
    intro empty
    exact nonempty (by rw [set, empty])
  simp [sessionFingerprint, set, text]

theorem recorded_of_ne {ownerInfo : EngineDeploymentInfo} {fingerprint : String}
    (seen : sessionFingerprint session (some ownerInfo) = some fingerprint)
    (different : ownerInfo.cacheFingerprint ≠ fingerprint) :
    session.fingerprint ≠ some "" ∧ session.fingerprint = some fingerprint := by
  unfold sessionFingerprint at seen
  cases recorded : session.fingerprint with
  | none =>
    simp only [recorded, map_some, some_inj] at seen
    exact absurd seen different
  | some text =>
    simp only [recorded] at seen
    split at seen
    · rw [map_some, some_inj] at seen
      exact absurd seen different
    · rename_i nonempty
      rw [some_inj] at seen
      subst seen
      exact ⟨fun same => nonempty (some_inj.mp same), rfl⟩

theorem healthyOwner_iff {owner : String} :
    state.healthyOwner (some owner) expectedVersion = true ↔
      ∃ ownerInfo, state.deployments.get? owner = some ownerInfo ∧
        versionValid expectedVersion ownerInfo = true ∧ state.healthyAt owner = true := by
  unfold healthyOwner ownerDeployment
  simp only [bind_some]
  cases found : state.deployments.get? owner with
  | none => simp
  | some deployment => simp

theorem ownerLeftOut_iff (inputIds : List Nat) (keyed : DeploymentsKeyed state)
    (current : session = (state.sessions.get? sessionId).getD SessionRoutingState.new)
    (fresh : state.healthyOwner session.ownerWorkerUrl expectedVersion = true →
      state.ownerSnapshotFresh setup now session.ownerWorkerUrl expectedVersion = true) :
    OwnerLeftOut setup state now sessionId expectedVersion ↔
      state.feasibleEdges setup now sessionId session inputIds expectedVersion ≠ [] ∧
      state.healthyOwner session.ownerWorkerUrl expectedVersion = true ∧
      ownerEdge session.ownerWorkerUrl ((state.feasibleEdges setup now sessionId session inputIds
        expectedVersion).map Prod.fst) = none := by
  constructor
  · rintro ⟨found, owner, ownerInfo, target, targetInfo, inSessions, source, ownerFound,
      ownerVersion, ownerHealthy, ownerUsable, nonempty, recorded, different, targetFound,
      targetVersion, targetHealthy, targetUsable, ready⟩
    rw [inSessions, getD_some] at current
    subst current
    have seen : sessionFingerprint session (state.ownerDeployment session.ownerWorkerUrl) =
      some targetInfo.cacheFingerprint := sessionFingerprint_recorded recorded nonempty
    have owned : state.healthyOwner session.ownerWorkerUrl expectedVersion = true := by
      rw [source]
      exact healthyOwner_iff.mpr ⟨ownerInfo, ownerFound, ownerVersion, ownerHealthy⟩
    obtain ⟨edge, member, _⟩ := (exists_edge_iff keyed target).mpr
      ⟨targetInfo, targetFound, targetHealthy, targetVersion, .inr seen, targetUsable, by
        simp [mayTake, source, ready]⟩
    refine ⟨?_, owned, ?_⟩
    · intro empty
      rw [empty] at member
      cases member
    · rw [ownerEdge_eq_none]
      intro other inEdges same
      rw [source, some_inj] at same
      obtain ⟨deployment, again, _, _, compatible, _⟩ :=
        (exists_edge_iff keyed owner).mp ⟨other, inEdges, same⟩
      rcases compatible with noOwner | sameFingerprint
      · rw [source] at noOwner
        cases noOwner
      · rw [ownerFound, some_inj] at again
        subst again
        rw [seen, some_inj] at sameFingerprint
        exact different sameFingerprint.symm
  · rintro ⟨some_edge, owned, missing⟩
    cases source : session.ownerWorkerUrl with
    | none =>
      rw [source] at owned
      cases owned
    | some owner =>
      rw [source] at owned missing fresh
      obtain ⟨ownerInfo, ownerFound, ownerVersion, ownerHealthy⟩ := healthyOwner_iff.mp owned
      have ownerUsable : state.snapshotUsable setup now owner = true := by
        have both := fresh owned
        simp only [ownerSnapshotFresh, Bool.and_eq_true] at both
        exact both.2
      obtain ⟨edge, member⟩ := exists_mem_of_ne_nil _
        (show (state.feasibleEdges setup now sessionId session inputIds
          expectedVersion).map Prod.fst ≠ [] by simpa using some_edge)
      have elsewhere : edge.engineUrl ≠ owner := by
        intro same
        exact ownerEdge_eq_none.mp missing edge member (congrArg some same)
      obtain ⟨targetInfo, targetFound, targetHealthy, targetVersion, compatible, targetUsable,
        taken⟩ := (exists_edge_iff keyed edge.engineUrl).mp ⟨edge, member, rfl⟩
      have ready : state.pathReady setup owner edge.engineUrl = true := by
        simpa [mayTake, source, owned, Ne.symm elsewhere] using taken
      have seen : sessionFingerprint session (some ownerInfo) =
          some targetInfo.cacheFingerprint := by
        rcases compatible with noOwner | same
        · rw [source] at noOwner
          cases noOwner
        · simpa [source, ownerDeployment, ownerFound] using same
      -- An owner with the session's fingerprint would have its own edge.
      have different : ownerInfo.cacheFingerprint ≠ targetInfo.cacheFingerprint := by
        intro same
        have ownFingerprint :
            sessionFingerprint session (state.ownerDeployment session.ownerWorkerUrl) =
              some ownerInfo.cacheFingerprint := by
          simpa [source, ownerDeployment, ownerFound, same] using seen
        have ownTaken :
            mayTake setup state session.ownerWorkerUrl expectedVersion owner = true := by
          simp [mayTake, source]
        obtain ⟨own, ownMember, atOwner⟩ := (exists_edge_iff keyed owner).mpr
          ⟨ownerInfo, ownerFound, ownerHealthy, ownerVersion, .inr ownFingerprint,
            ownerUsable, ownTaken⟩
        exact ownerEdge_eq_none.mp missing own ownMember (congrArg some atOwner)
      obtain ⟨nonempty, recorded⟩ := recorded_of_ne seen different
      cases inSessions : state.sessions.get? sessionId with
      | none =>
        rw [inSessions] at current
        subst current
        cases source
      | some stored =>
        rw [inSessions, getD_some] at current
        subst current
        exact ⟨session, owner, ownerInfo, edge.engineUrl, targetInfo, inSessions, source,
          ownerFound, ownerVersion, ownerHealthy, ownerUsable, nonempty, recorded, different,
          targetFound, targetVersion, targetHealthy, targetUsable, ready⟩

theorem scheduleWithoutEdges_ok :
    ∃ placed, state.scheduleWithoutEdges setup sessionId session inputIds expectedVersion =
      .ok placed := by
  unfold scheduleWithoutEdges
  dsimp only
  split
  · exact ⟨_, rfl⟩
  split
  · exact ⟨_, rfl⟩
  · rename_i nonempty
    have sorted : sortedUrls (state.healthyCandidates session expectedVersion) ≠ [] := by
      intro empty
      apply nonempty
      have same : (sortedUrls (state.healthyCandidates session expectedVersion)).length =
        (state.healthyCandidates session expectedVersion).length := length_mergeSort _
      rw [empty] at same
      exact eq_nil_of_length_eq_zero same.symm
    obtain ⟨url, _, chosen⟩ := chooseStableEngine_mem setup.stableEngineRank sessionId sorted
    rw [chosen]
    exact ⟨_, rfl⟩

theorem scheduleGreedy_ok_iff (keyed : DeploymentsKeyed state)
    (some_edge : state.feasibleEdges setup now sessionId session inputIds expectedVersion ≠ []) :
    (∃ placed, state.scheduleGreedy setup sessionId session expectedVersion
        (state.feasibleEdges setup now sessionId session inputIds expectedVersion) = .ok placed) ↔
      ¬ (state.healthyOwner session.ownerWorkerUrl expectedVersion = true ∧
        ownerEdge session.ownerWorkerUrl ((state.feasibleEdges setup now sessionId session
          inputIds expectedVersion).map Prod.fst) = none) := by
  have checks := rejection_feasible keyed some_edge
  unfold scheduleGreedy
  dsimp only
  split at checks
  · rename_i missing
    rw [chooseGreedyStep_of_rejected setup.stableEngineRank checks]
    simp [missing]
  · rename_i present
    obtain ⟨decision, chosen, edge, member, selected⟩ :=
      chooseGreedyStep_of_accepted setup.stableEngineRank checks
    obtain ⟨deployment, registered, _⟩ :=
      (exists_edge_iff keyed decision.selectedTarget).mp ⟨edge, member, selected⟩
    obtain ⟨found, isFound⟩ : ∃ found, ((state.feasibleEdges setup now sessionId session inputIds
        expectedVersion).map Prod.fst).find?
          (fun edge => edge.engineUrl = decision.selectedTarget) = some found := by
      rw [← isSome_iff_exists, find?_isSome]
      exact ⟨edge, member, by simpa using selected⟩
    rw [chosen]
    simp only [isFound, registered]
    exact ⟨fun _ => present, fun _ => ⟨_, rfl⟩⟩

theorem scheduleStep_ok_iff (inputIds : List Nat) (keyed : DeploymentsKeyed state)
    {requireRegisteredContext : Bool}
    (context : sessionId ∈ state.sessions ∨ requireRegisteredContext = false) :
    (∃ placed, state.scheduleStep setup now sessionId inputIds expectedVersion
        requireRegisteredContext = .ok placed) ↔
      ¬ OwnerLeftOut setup state now sessionId expectedVersion := by
  have admitted : ¬ (state.sessions.get? sessionId = none ∧ requireRegisteredContext = true) := by
    rintro ⟨absent, required⟩
    rcases context with present | optional
    · obtain ⟨stored, found⟩ := (mem_iff _ _).mp present
      rw [absent] at found
      cases found
    · rw [optional] at required
      cases required
  unfold scheduleStep
  dsimp only
  rw [if_neg admitted]
  generalize current : (state.sessions.get? sessionId).getD SessionRoutingState.new = session
  split
  · rename_i stale
    -- The condition asks for a usable snapshot of the owner.
    refine ⟨fun _ leftOut => stale.2 ?_, fun _ => ⟨_, rfl⟩⟩
    obtain ⟨stored, owner, ownerInfo, _, _, inSessions, source, _, _, _, usable, _⟩ := leftOut
    rw [inSessions, getD_some] at current
    subst current
    rw [source] at stale ⊢
    simp [ownerSnapshotFresh, stale.1, usable]
  · rename_i notStale
    have fresh : state.healthyOwner session.ownerWorkerUrl expectedVersion = true →
        state.ownerSnapshotFresh setup now session.ownerWorkerUrl expectedVersion = true := by
      intro owned
      by_contra unavailable
      exact notStale ⟨owned, unavailable⟩
    rw [ownerLeftOut_iff inputIds keyed current.symm fresh]
    split
    · rename_i empty
      refine ⟨fun _ leftOut => leftOut.1 empty, fun _ => scheduleWithoutEdges_ok⟩
    · rename_i some_edge
      rw [scheduleGreedy_ok_iff keyed some_edge]
      exact ⟨fun present leftOut => present leftOut.2, fun kept missing => kept ⟨some_edge, missing⟩⟩

namespace SplitUpdate

def workerReport (weightVersion : String) : WorkerReport :=
  { nodeId := "node"
    modelId := "model"
    weightVersion := weightVersion
    sglangVersion := "0.5.15.post1"
    tpSize := 1
    ppSize := 1
    dpSize := 1
    kvDtype := "auto"
    stateDtype := "auto"
    pageSize := 1
    swaWindowSize := none
    mambaBackend := "default/default/default"
    mambaTrackInterval := none
    hicacheArgs := [("enable_hierarchical_cache", "True"), ("hicache_storage_backend", "mooncake")]
    mooncakeArgs := []
    mooncakeProtocol := ""
    sharedL3 := true
    hostStaging := false
    gpudirect := true }

def pairSetup : Setup :=
  { config :=
      { enabled := true
        metricsStaleMs := 2000
        historySize := 512
        minLoadImprovementRatio := 1 / 10
        metricsStalePositive := by decide
        historySizePositive := by decide
        ratioWithinUnit := by norm_num }
    stableEngineRank := fun _ url => url.length
    canonicalFingerprint := fun report => report.modelId ++ "@" ++ report.weightVersion
    profileFromModelConfig := some (fun _ =>
      { fullLayers := 32
        swaLayers := 0
        stateBytesPerCheckpoint := 0 })
    gethostbyname := fun _ => none
    calibrationBenchmark := true
    machineCalibrationConfig := none }

def idle : LoadAnswer :=
  .rows [some
    { numRunningReqs := some 0
      numWaitingReqs := some 0
      numQueueReqs := none
      numTotalTokens := some 0
      numUsedTokens := none
      maxTotalNumTokens := some 1000
      maxRunningRequests := some 8
      tokenUsage := some 0 }]

def firstLease : RoutingLease :=
  { decision :=
      { sessionId := "session"
        sourceWorkerUrl := none
        targetWorkerUrl := some "http://a"
        moved := false }
    workerUrl := some "http://a"
    reservationId := some 1
    loadDecisionId := some 1 }

/-- Two engines serve version 1; the session's first step is served by the
first of them; the next refresh inspects that one at version 2. -/
def actions : List Action :=
  [.calibrate
      { state := .ready
        results := [("node", "node", "mooncake_gpudirect", 1)]
        preflightNodeIds := []
        preflightNodeAddresses := []
        preflightNodeAliases := OrderedDict.empty },
    .refresh [("http://a", some (workerReport "1")), ("http://b", some (workerReport "1"))],
    .startPoll "http://a",
    .startPoll "http://b",
    .finishPoll "http://a" idle 1,
    .finishPoll "http://b" idle 1,
    .acquire 1 "session" [11, 12] none false,
    .complete firstLease [11, 12, 13] true,
    .refresh [("http://a", some (workerReport "2")), ("http://b", none)]]

end SplitUpdate

/-- In every reachable state, an enabled, open rebalancer returns a lease for a
step exactly when the step's owner is not left out of its own candidates. -/
theorem acquire_returns_lease_iff (setup : Setup) (enabled : setup.config.enabled = true)
    (actions : List Action) (open_ : (after setup actions).stopping = false) (now : ℚ)
    (sessionId : String) (inputIds : List Nat) (expectedVersion : Option String)
    (requireRegisteredContext : Bool)
    (context : sessionId ∈ (after setup actions).sessions ∨ requireRegisteredContext = false) :
    (∃ lease next, (after setup actions).acquire setup now sessionId inputIds expectedVersion
        requireRegisteredContext = (.ok lease, next)) ↔
      ¬ OwnerLeftOut setup (after setup actions) now sessionId expectedVersion := by
  rw [← scheduleStep_ok_iff inputIds (after_keyed actions) context]
  unfold acquire
  rw [if_neg (by simp [enabled]), if_neg (by simp [open_])]
  constructor
  · rintro ⟨lease, next, returned⟩
    split at returned
    · rename_i scheduled
      exact ⟨_, scheduled⟩
    · cases returned
  · rintro ⟨⟨lease, next⟩, scheduled⟩
    rw [scheduled]
    exact ⟨lease, next, rfl⟩

theorem acquire_returns_lease_iff_at_split_update :
    SplitUpdate.pairSetup.config.enabled = true ∧
    (after SplitUpdate.pairSetup SplitUpdate.actions).stopping = false ∧
    ((∃ lease next, (after SplitUpdate.pairSetup SplitUpdate.actions).acquire
        SplitUpdate.pairSetup 2 "session" [11, 12, 13, 14] none false = (.ok lease, next)) ↔
      ¬ OwnerLeftOut SplitUpdate.pairSetup (after SplitUpdate.pairSetup SplitUpdate.actions) 2
        "session" none) :=
  ⟨rfl, by decide +kernel, acquire_returns_lease_iff SplitUpdate.pairSetup rfl SplitUpdate.actions
    (by decide +kernel) 2 "session" [11, 12, 13, 14] none false (.inr rfl)⟩

/-- The session is sticky to the first engine, which is healthy and fresh, and
the only candidate with its old fingerprint is the second one. -/
theorem acquire_fails_after_split_update :
    SplitUpdate.pairSetup.config.enabled = true ∧
    (after SplitUpdate.pairSetup SplitUpdate.actions).stopping = false ∧
    "session" ∈ (after SplitUpdate.pairSetup SplitUpdate.actions).sessions ∧
    ¬ ∃ lease next, (after SplitUpdate.pairSetup SplitUpdate.actions).acquire
      SplitUpdate.pairSetup 2 "session" [11, 12, 13, 14] none false = (.ok lease, next) := by
  have rejected : (match ((after SplitUpdate.pairSetup SplitUpdate.actions).acquire
      SplitUpdate.pairSetup 2 "session" [11, 12, 13, 14] none false).1 with
      | .error (.greedy .stickyWithoutOwnerEdge) => true
      | _ => false) = true := by
    decide +kernel
  refine ⟨rfl, by decide +kernel, by decide +kernel, ?_⟩
  rintro ⟨lease, next, returned⟩
  rw [returned] at rejected
  cases rejected

end EngineRebalancer

end Dressage.Rebalancing

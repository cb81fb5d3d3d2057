/-
The reservation table counts the leases in flight.

A poll takes the revision at its start as its boundary, and revisions grow with the
reservations, so the entries it acknowledges when it publishes are those made before it started.
-/

import Dressage.Rebalancing.ChatLeases

namespace Dressage.Rebalancing

open Lib List OrderedDict Option

structure LoadFigures where
  running : Nat
  queued : Nat
  activeTokens : Nat
  tokenCapacity : Nat
  requestCapacity : Nat
  tokenUsage : ℚ

def EngineLoad.figures (load : EngineLoad) : LoadFigures :=
  { running := load.running
    queued := load.queued
    activeTokens := load.activeTokens
    tokenCapacity := load.tokenCapacity
    requestCapacity := load.requestCapacity
    tokenUsage := load.tokenUsage }

namespace EngineRebalancer

def figuresAt (state : EngineRebalancer) (url : String) : LoadFigures :=
  ((state.loads.get? url).getD EngineLoad.default).figures

structure SameScoring (before next : EngineRebalancer) : Prop where
  reservations : next.reservations = before.reservations
  nextReservationId : next.nextReservationId = before.nextReservationId
  scoringRevision : next.scoringRevision = before.scoringRevision
  snapshotFetches : next.snapshotFetches = before.snapshotFetches
  loadGenerations : next.loadGenerations = before.loadGenerations
  figures : ∀ url, next.figuresAt url = before.figuresAt url

theorem SameScoring.refl (state : EngineRebalancer) : SameScoring state state :=
  { reservations := rfl
    nextReservationId := rfl
    scoringRevision := rfl
    snapshotFetches := rfl
    loadGenerations := rfl
    figures := fun _ => rfl }

theorem SameScoring.of_eq {before next : EngineRebalancer}
    (reservations : next.reservations = before.reservations)
    (nextReservationId : next.nextReservationId = before.nextReservationId)
    (scoringRevision : next.scoringRevision = before.scoringRevision)
    (snapshotFetches : next.snapshotFetches = before.snapshotFetches)
    (loadGenerations : next.loadGenerations = before.loadGenerations)
    (loads : next.loads = before.loads) : SameScoring before next :=
  { reservations := reservations
    nextReservationId := nextReservationId
    scoringRevision := scoringRevision
    snapshotFetches := snapshotFetches
    loadGenerations := loadGenerations
    figures := fun url => by rw [figuresAt, figuresAt, loads] }

theorem SameScoring.trans {first second third : EngineRebalancer}
    (left : SameScoring first second) (right : SameScoring second third) :
    SameScoring first third :=
  { reservations := right.reservations.trans left.reservations
    nextReservationId := right.nextReservationId.trans left.nextReservationId
    scoringRevision := right.scoringRevision.trans left.scoringRevision
    snapshotFetches := right.snapshotFetches.trans left.snapshotFetches
    loadGenerations := right.loadGenerations.trans left.loadGenerations
    figures := fun url => (right.figures url).trans (left.figures url) }

theorem foldl_sameScoring {α : Type} (step : EngineRebalancer → α → EngineRebalancer)
    (same : ∀ state item, SameScoring state (step state item)) (items : List α)
    (state : EngineRebalancer) : SameScoring state (items.foldl step state) := by
  induction items generalizing state with
  | nil => exact SameScoring.refl state
  | cons item rest ih => exact (same state item).trans (ih (step state item))

variable {setup : Setup} {state : EngineRebalancer}

theorem setDefaultLoad_same {url : String} (absent : state.loads.get? url = none) :
    SameScoring state { state with loads := state.loads.set url EngineLoad.default } := by
  refine { SameScoring.refl state with figures := ?_ }
  intro other
  unfold figuresAt
  rw [get?_set]
  split
  · rename_i same
    rw [same, absent]
    rfl
  · rfl

theorem recordInspection_same (inspected : String × Option WorkerReport) :
    SameScoring state (state.recordInspection setup inspected) := by
  obtain ⟨url, report⟩ := inspected
  unfold recordInspection
  dsimp only
  cases report with
  | none =>
    dsimp only
    split
    · exact SameScoring.refl state
    · rename_i absent
      exact setDefaultLoad_same absent
  | some report =>
    dsimp only
    by_cases supported : sglangRebalancingSupported report.sglangVersion = true
    · simp only [supported, if_true]
      split
      · exact SameScoring.of_eq rfl rfl rfl rfl rfl rfl
      · rename_i absent
        have added := @setDefaultLoad_same state url absent
        exact added.trans (SameScoring.of_eq rfl rfl rfl rfl rfl rfl)
    · simp only [supported, if_false, Bool.false_eq_true]
      split
      · exact SameScoring.of_eq rfl rfl rfl rfl rfl rfl
      · rename_i absent
        have added := @setDefaultLoad_same state url absent
        exact added.trans (SameScoring.of_eq rfl rfl rfl rfl rfl rfl)

theorem recordProfile_same (healthy : List String) (deployment : EngineDeploymentInfo) :
    SameScoring state (state.recordProfile setup healthy deployment) := by
  unfold recordProfile
  split
  · exact SameScoring.refl state
  · split <;> exact SameScoring.of_eq rfl rfl rfl rfl rfl rfl

theorem refresh_same (inspected : List (String × Option WorkerReport)) :
    SameScoring state (state.refresh setup inspected) := by
  have noted := foldl_sameScoring (fun current worker => current.recordInspection setup worker)
    (fun _ worker => recordInspection_same worker) inspected state
  unfold refresh
  dsimp only
  generalize inspected.foldl (fun current worker => current.recordInspection setup worker)
    state = current at noted ⊢
  have marked : SameScoring current
      { current with
        loads := current.loads.mapValues (fun url load =>
          { load with healthy := decide (url ∈ inspected.map Prod.fst) }) } := by
    refine { SameScoring.refl current with figures := ?_ }
    intro url
    unfold figuresAt
    rw [get?_mapValues]
    cases current.loads.get? url <;> rfl
  exact (noted.trans marked).trans (foldl_sameScoring
    (fun current deployment => current.recordProfile setup (inspected.map Prod.fst) deployment)
    (fun _ deployment => recordProfile_same _ deployment) _ _)

def withReservation (state : EngineRebalancer) (target : String)
    (queueIncrement tokenIncrement : Nat) : EngineRebalancer :=
  { state with
    nextReservationId := state.nextReservationId + 1
    scoringRevision := state.scoringRevision + 1
    reservations := state.reservations.set state.nextReservationId
      { engineUrl := target
        scoringQueueIncrement := queueIncrement
        scoringTokenIncrement := tokenIncrement
        scoringRevision := state.scoringRevision + 1
        scoringActive := true } }

theorem acquire_cases (now : ℚ) (sessionId : String) (inputIds : List Nat)
    (expectedVersion : Option String) (requireRegisteredContext : Bool) :
    (SameScoring state (state.acquire setup now sessionId inputIds expectedVersion
        requireRegisteredContext).2 ∧
      ∀ lease, (state.acquire setup now sessionId inputIds expectedVersion
        requireRegisteredContext).1 = .ok lease →
          lease.workerUrl = none ∧ lease.reservationId = none) ∨
    ∃ lease target queueIncrement tokenIncrement,
      (state.acquire setup now sessionId inputIds expectedVersion
        requireRegisteredContext).1 = .ok lease ∧
      lease.workerUrl = some target ∧ lease.reservationId = some state.nextReservationId ∧
      setup.config.enabled = true ∧
      SameScoring (state.withReservation target queueIncrement tokenIncrement)
        (state.acquire setup now sessionId inputIds expectedVersion
          requireRegisteredContext).2 := by
  unfold acquire
  split
  · left
    refine ⟨SameScoring.refl state, ?_⟩
    intro lease returned
    cases returned
    exact ⟨rfl, rfl⟩
  rename_i enabled
  rw [Bool.not_eq_true, Bool.not_eq_false] at enabled
  split
  · left
    refine ⟨SameScoring.refl state, ?_⟩
    intro lease returned
    cases returned
  split
  · rename_i lease next scheduled
    obtain ⟨target, targetFingerprint, kind, candidateUrls, greedy, edge, reason, same⟩ :=
      scheduleStep_commits scheduled
    unfold commitStep reserve recordTrace at same
    dsimp only at same
    cases target with
    | none =>
      left
      cases same
      refine ⟨SameScoring.of_eq rfl rfl rfl rfl rfl rfl, ?_⟩
      intro lease returned
      cases returned
      exact ⟨rfl, rfl⟩
    | some url =>
      right
      cases same
      exact ⟨_, url, _, _, rfl, rfl, rfl, enabled, SameScoring.of_eq rfl rfl rfl rfl rfl rfl⟩
  · left
    refine ⟨SameScoring.of_eq rfl rfl rfl rfl rfl rfl, ?_⟩
    intro lease returned
    cases returned

theorem complete_same (enabled : setup.config.enabled = true) (lease : RoutingLease)
    (committedTokens : List Nat) (success : Bool) :
    SameScoring (state.releaseReservation lease.reservationId)
      (state.complete setup lease committedTokens success).2 := by
  unfold complete
  dsimp only
  generalize state.releaseReservation lease.reservationId = released
  split
  · rename_i disabled
    exact absurd enabled disabled
  split
  · split
    · exact SameScoring.refl released
    split <;> exact SameScoring.of_eq rfl rfl rfl rfl rfl rfl
  · exact SameScoring.refl released

theorem complete_disabled (disabled : setup.config.enabled = false) (lease : RoutingLease)
    (committedTokens : List Nat) (success : Bool) :
    (state.complete setup lease committedTokens success).2 = state := by
  unfold complete
  simp [disabled]

theorem startPoll_cases (url : String) :
    state.startPoll url = state ∨
    state.snapshotFetches.get? url = none ∧ ∃ weightVersion cacheFingerprint,
      state.startPoll url =
        { state with
          snapshotFetches := state.snapshotFetches.set url
            { scoringBoundary := state.scoringRevision
              weightVersion := weightVersion
              cacheFingerprint := cacheFingerprint } } := by
  unfold startPoll
  split
  · rename_i deployment load idle _ _
    split
    · exact .inr ⟨idle, deployment.weightVersion, deployment.cacheFingerprint, rfl⟩
    · exact .inl rfl
  · exact .inl rfl

/-- What a publication does: the figures are the fetched ones, and the entries up
to the boundary no longer count. -/
structure Publishes (state : EngineRebalancer) (url : String) (poll : SnapshotPoll)
    (load : EngineLoad) (next : EngineRebalancer) : Prop where
  reservations : next.reservations =
    (state.acknowledgeScoringDeltas url poll.scoringBoundary).reservations
  nextReservationId : next.nextReservationId = state.nextReservationId
  scoringRevision : next.scoringRevision = state.scoringRevision
  snapshotFetches : next.snapshotFetches = state.snapshotFetches.pop url
  moved : next.loadGenerations.get? url ≠ state.loadGenerations.get? url
  loaded : next.loads.get? url = some load
  figures : ∀ other, other ≠ url → next.figuresAt other = state.figuresAt other
  capacities : 0 < load.requestCapacity ∧ 0 < load.tokenCapacity

theorem fetchLoad_capacities {answer : LoadAnswer} {now : ℚ} {load : EngineLoad}
    (fetched : (fetchLoad answer now).2 = some load) :
    0 < load.requestCapacity ∧ 0 < load.tokenCapacity := by
  unfold fetchLoad at fetched
  split at fetched
  · cases fetched
  · cases fetched
  split at fetched
  · cases fetched
  split at fetched
  · rename_i usable
    cases fetched
    dsimp only
    omega
  · cases fetched

theorem finishPoll_cases (url : String) (answer : LoadAnswer) (now : ℚ) :
    SameScoring state (state.finishPoll url answer now) ∨
    SameScoring { state with snapshotFetches := state.snapshotFetches.pop url }
      (state.finishPoll url answer now) ∨
    ∃ poll load, state.snapshotFetches.get? url = some poll ∧
      Publishes state url poll load (state.finishPoll url answer now) := by
  unfold finishPoll
  split
  · exact .inl (SameScoring.refl state)
  rename_i poll inFlight
  right
  dsimp only
  split
  · exact .inl (SameScoring.of_eq rfl rfl rfl rfl rfl rfl)
  rename_i current found
  have noted : SameScoring { state with snapshotFetches := state.snapshotFetches.pop url }
      { state with
        snapshotFetches := state.snapshotFetches.pop url
        loads := state.loads.set url
          { current with snapshotFetchStatus := (fetchLoad answer now).1 } } := by
    refine { SameScoring.of_eq rfl rfl rfl rfl rfl rfl with figures := ?_ }
    intro other
    unfold figuresAt
    rw [get?_set]
    split
    · rename_i same
      rw [same, found]
      rfl
    · rfl
  split
  · rename_i published deployment fetched _
    split
    · right
      have positive := fetchLoad_capacities fetched
      refine ⟨poll, { published with snapshotGeneration := state.loadGenerations.getD url 0 + 1 },
        inFlight, ?_⟩
      exact
        { reservations := rfl
          nextReservationId := rfl
          scoringRevision := rfl
          snapshotFetches := rfl
          moved := by
            unfold publishLoad acknowledgeScoringDeltas
            dsimp only
            rw [get?_set_self, OrderedDict.getD]
            cases state.loadGenerations.get? url with
            | none => simp
            | some generation => simp
          loaded := get?_set_self _ _ _
          figures := by
            intro other different
            unfold publishLoad acknowledgeScoringDeltas figuresAt
            dsimp only
            rw [get?_set_of_ne _ _ different, get?_set_of_ne _ _ different]
          capacities := positive }
    · exact .inl noted
  · exact .inl noted

end EngineRebalancer

theorem Journal.mem_acquire {journal : Journal} {pipeline : Nat} {lease : RoutingLease}
    {acquired : AcquiredLease} :
    acquired ∈ (journal.acquire pipeline lease).acquired ↔ acquired ∈ journal.acquired ∨
      acquired =
        { pipeline := pipeline
          lease := lease
          acquiredAt := journal.clock } := by
  rw [Journal.acquire, mem_append, mem_singleton]

def LeasePc.held : LeasePc → Option RoutingLease
  | .generating lease => some lease
  | .settling lease _ none _ => some lease
  | _ => none

def LeasePc.past : LeasePc → Bool
  | .preparing => false
  | _ => true

namespace LeaseServer

structure PipelinesAgree (pipelines : OrderedDict Nat LeasePc) (nextPipelineId : Nat)
    (journal : Journal) : Prop where
  listed : ∀ acquired ∈ journal.acquired, ∃ pc, pipelines.get? acquired.pipeline = some pc ∧
    pc.past = true ∧ (acquired.pipeline ∉ journal.settled → pc.held = some acquired.lease)
  holding : ∀ pipeline pc lease, pipelines.get? pipeline = some pc → pc.held = some lease →
    pipeline ∉ journal.settled ∧
      ∃ acquired ∈ journal.acquired, acquired.pipeline = pipeline ∧ acquired.lease = lease
  once : journal.settled.Nodup
  settledAcquired : ∀ pipeline ∈ journal.settled, ∃ acquired ∈ journal.acquired,
    acquired.pipeline = pipeline
  single : ∀ first ∈ journal.acquired, ∀ second ∈ journal.acquired,
    first.pipeline = second.pipeline → first = second
  issued : ∀ pipeline pc, pipelines.get? pipeline = some pc → pipeline < nextPipelineId

structure TableAgrees (setup : Setup) (reservations : OrderedDict Nat ReservationEntry)
    (nextReservationId : Nat) (journal : Journal) : Prop where
  shape : ∀ acquired ∈ journal.acquired,
    (acquired.lease.workerUrl = none ∧ acquired.lease.reservationId = none) ∨
    (setup.config.enabled = true ∧ ∃ url id, acquired.lease.workerUrl = some url ∧
      acquired.lease.reservationId = some id ∧ id < nextReservationId)
  distinct : ∀ first ∈ journal.acquired, ∀ second ∈ journal.acquired, ∀ id,
    first.lease.reservationId = some id → second.lease.reservationId = some id → first = second
  entered : ∀ acquired ∈ journal.acquired, acquired.pipeline ∉ journal.settled → ∀ id,
    acquired.lease.reservationId = some id → ∃ entry, reservations.get? id = some entry ∧
      acquired.lease.workerUrl = some entry.engineUrl
  owned : ∀ id entry, reservations.get? id = some entry → ∃ acquired ∈ journal.acquired,
    acquired.pipeline ∉ journal.settled ∧ acquired.lease.reservationId = some id

/-- Revisions order the reservations and the polls as the clock does. -/
structure StampsAgree (rebalancer : EngineRebalancer) (journal : Journal) : Prop where
  acquiredBefore : ∀ acquired ∈ journal.acquired, acquired.acquiredAt < journal.clock
  publishedBefore : ∀ publication ∈ journal.published, publication.startedAt < journal.clock
  stamped : ∀ id entry, rebalancer.reservations.get? id = some entry →
    entry.scoringRevision ≤ rebalancer.scoringRevision
  polling : ∀ url poll, rebalancer.snapshotFetches.get? url = some poll →
    ∃ startedAt, journal.pollsStarted.get? url = some startedAt ∧ startedAt < journal.clock ∧
      poll.scoringBoundary ≤ rebalancer.scoringRevision ∧
      ∀ acquired ∈ journal.acquired, ∀ id entry, acquired.lease.reservationId = some id →
        rebalancer.reservations.get? id = some entry →
          (entry.scoringRevision ≤ poll.scoringBoundary ↔ acquired.acquiredAt < startedAt)
  counting : ∀ acquired ∈ journal.acquired, ∀ id entry, acquired.lease.reservationId = some id →
    rebalancer.reservations.get? id = some entry →
      (entry.scoringActive = true ↔
        journal.observedSince entry.engineUrl acquired.acquiredAt = false)

structure LoadsAgree (rebalancer : EngineRebalancer) (journal : Journal) : Prop where
  figures : ∀ url, rebalancer.figuresAt url =
    ((journal.lastPublished url).map PublishedLoad.load |>.getD EngineLoad.default).figures
  capacities : ∀ publication ∈ journal.published,
    0 < publication.load.requestCapacity ∧ 0 < publication.load.tokenCapacity

structure Accounted (setup : Setup) (server : LeaseServer) : Prop where
  pipelines : PipelinesAgree server.pipelines server.nextPipelineId server.journal
  table : TableAgrees setup server.rebalancer.reservations server.rebalancer.nextReservationId
    server.journal
  stamps : StampsAgree server.rebalancer server.journal
  loads : LoadsAgree server.rebalancer server.journal

variable {setup : Setup} {server : LeaseServer}

theorem initial_accounted : Accounted setup LeaseServer.initial := by
  constructor
  · constructor <;> simp [initial, Journal.initial]
  · constructor <;> simp [initial, Journal.initial, EngineRebalancer.initial]
  · constructor <;> simp [initial, Journal.initial, EngineRebalancer.initial]
  · constructor <;> simp [initial, Journal.initial, EngineRebalancer.initial,
      EngineRebalancer.figuresAt, Journal.lastPublished]

theorem tick_accounted (accounted : Accounted setup server) :
    Accounted setup { server with journal := server.journal.tick } := by
  obtain ⟨pipelines, table, stamps, loads⟩ := accounted
  refine
    { pipelines := { pipelines with }
      table := { table with }
      stamps := { stamps with
        acquiredBefore := ?_
        publishedBefore := ?_
        polling := ?_ }
      loads := { loads with } }
  · intro acquired member
    exact Nat.lt_succ_of_lt (stamps.acquiredBefore acquired member)
  · intro publication member
    exact Nat.lt_succ_of_lt (stamps.publishedBefore publication member)
  · intro url poll inFlight
    obtain ⟨startedAt, found, before, rest⟩ := stamps.polling url poll inFlight
    exact ⟨startedAt, found, Nat.lt_succ_of_lt before, rest⟩

variable {pipelines : OrderedDict Nat LeasePc} {nextPipelineId : Nat} {before : EngineRebalancer}
variable {url : String}

variable {journal : Journal} {pipeline : Nat} {rebalancer : EngineRebalancer}

theorem PipelinesAgree.setPc (agree : PipelinesAgree pipelines nextPipelineId journal)
    {pc next : LeasePc} (found : pipelines.get? pipeline = some pc)
    (past : pc.past = true → next.past = true) (held : next.held = pc.held) :
    PipelinesAgree (pipelines.set pipeline next) nextPipelineId journal := by
  refine
    { agree with
      listed := ?_
      holding := ?_
      issued := ?_ }
  · intro acquired member
    obtain ⟨before, at_, wasPast, carries⟩ := agree.listed acquired member
    rw [get?_set]
    split
    · rename_i same
      rw [same, found] at at_
      cases at_
      exact ⟨next, rfl, past wasPast, fun open_ => held.trans (carries open_)⟩
    · exact ⟨before, at_, wasPast, carries⟩
  · intro other otherPc lease at_ holds
    rw [get?_set] at at_
    split at at_
    · rename_i same
      cases at_
      rw [same]
      exact agree.holding pipeline pc lease found (held ▸ holds)
    · exact agree.holding other otherPc lease at_ holds
  · intro other otherPc at_
    rw [get?_set] at at_
    split at at_
    · rename_i same
      rw [same]
      exact agree.issued pipeline pc found
    · exact agree.issued other otherPc at_

section

variable (accounted : Accounted setup server)
include accounted

theorem movePc_accounted (pipeline : Nat) {move : LeasePc → LeasePc}
    (past : ∀ pc, pc.past = true → (move pc).past = true) (held : ∀ pc, (move pc).held = pc.held) :
    Accounted setup (server.movePc pipeline move) := by
  unfold movePc
  split
  · exact accounted
  · rename_i pc found
    exact { accounted with
      pipelines := accounted.pipelines.setPc found (past pc) (held pc) }

theorem finishGeneration_accounted (pipeline : Nat) (settlement : Settlement) :
    Accounted setup (server.finishGeneration pipeline settlement) := by
  unfold finishGeneration
  split
  · rename_i lease found
    exact { accounted with
      pipelines := accounted.pipelines.setPc found (fun _ => rfl) rfl }
  · exact accounted

theorem arrive_accounted :
    Accounted setup
      { server.setPc server.nextPipelineId .preparing with
        nextPipelineId := server.nextPipelineId + 1 } := by
  have agree := accounted.pipelines
  refine { accounted with pipelines := { agree with
    listed := ?_
    holding := ?_
    issued := ?_ } }
  · intro acquired member
    obtain ⟨pc, found, rest⟩ := agree.listed acquired member
    have earlier := agree.issued acquired.pipeline pc found
    refine ⟨pc, ?_, rest⟩
    rw [setPc, get?_set_of_ne _ _ (by omega)]
    exact found
  · intro pipeline pc lease found holds
    rw [setPc, get?_set] at found
    split at found
    · cases found
      cases holds
    · exact agree.holding pipeline pc lease found holds
  · intro pipeline pc found
    rw [setPc, get?_set] at found
    split at found
    · rename_i same
      show pipeline < server.nextPipelineId + 1
      omega
    · exact Nat.lt_succ_of_lt (agree.issued pipeline pc found)

end

theorem StampsAgree.same {next : EngineRebalancer} (agree : StampsAgree before journal)
    (same : EngineRebalancer.SameScoring before next) :
    StampsAgree next journal := by
  refine { agree with
    stamped := ?_
    polling := ?_
    counting := ?_ }
  · rw [same.reservations, same.scoringRevision]
    exact agree.stamped
  · rw [same.reservations, same.scoringRevision, same.snapshotFetches]
    exact agree.polling
  · rw [same.reservations]
    exact agree.counting

theorem LoadsAgree.same {next : EngineRebalancer} (agree : LoadsAgree before journal)
    (same : EngineRebalancer.SameScoring before next) :
    LoadsAgree next journal :=
  { agree with figures := fun url => (same.figures url).trans (agree.figures url) }

theorem PipelinesAgree.none_acquired (agree : PipelinesAgree pipelines nextPipelineId journal)
    (found : pipelines.get? pipeline = some .preparing) :
    ∀ acquired ∈ journal.acquired, acquired.pipeline ≠ pipeline := by
  intro acquired member same
  obtain ⟨pc, at_, past, _⟩ := agree.listed acquired member
  rw [same, found] at at_
  cases at_
  cases past

theorem PipelinesAgree.acquire (agree : PipelinesAgree pipelines nextPipelineId journal)
    (found : pipelines.get? pipeline = some .preparing) (lease : RoutingLease) :
    PipelinesAgree (pipelines.set pipeline (.generating lease)) nextPipelineId
      (journal.acquire pipeline lease) := by
  have none_acquired := agree.none_acquired found
  have open_ : pipeline ∉ journal.settled := by
    intro settled
    obtain ⟨acquired, member, same⟩ := agree.settledAcquired pipeline settled
    exact none_acquired acquired member same
  refine
    { listed := ?_
      holding := ?_
      once := agree.once
      settledAcquired := ?_
      single := ?_
      issued := ?_ }
  · intro acquired member
    rcases Journal.mem_acquire.mp member with old | rfl
    · rw [get?_set_of_ne _ _ (none_acquired acquired old)]
      exact agree.listed acquired old
    · exact ⟨.generating lease, get?_set_self _ _ _, rfl, fun _ => rfl⟩
  · intro other pc held at_ holds
    rw [get?_set] at at_
    split at at_
    · rename_i same
      cases at_
      cases holds
      subst same
      exact ⟨open_, _, Journal.mem_acquire.mpr (.inr rfl), rfl, rfl⟩
    · obtain ⟨unsettled, acquired, member, same⟩ := agree.holding other pc held at_ holds
      exact ⟨unsettled, acquired, Journal.mem_acquire.mpr (.inl member), same⟩
  · intro other settled
    obtain ⟨acquired, member, same⟩ := agree.settledAcquired other settled
    exact ⟨acquired, Journal.mem_acquire.mpr (.inl member), same⟩
  · intro first inFirst second inSecond same
    rcases Journal.mem_acquire.mp inFirst with oldFirst | rfl <;>
      rcases Journal.mem_acquire.mp inSecond with oldSecond | rfl
    · exact agree.single first oldFirst second oldSecond same
    · exact absurd same (none_acquired first oldFirst)
    · exact absurd same.symm (none_acquired second oldSecond)
    · rfl
  · intro other pc at_
    rw [get?_set] at at_
    split at at_
    · rename_i same
      rw [same]
      exact agree.issued pipeline _ found
    · exact agree.issued other pc at_

section Table

variable {reservations : OrderedDict Nat ReservationEntry} {nextReservationId : Nat}
variable {journal : Journal} {pipeline : Nat} {lease : RoutingLease}

section

variable (agrees : TableAgrees setup reservations nextReservationId journal)
include agrees

theorem TableAgrees.acquire_none (worker : lease.workerUrl = none)
    (unreserved : lease.reservationId = none) :
    TableAgrees setup reservations nextReservationId (journal.acquire pipeline lease) := by
  constructor
  · intro acquired member
    rcases Journal.mem_acquire.mp member with old | rfl
    · exact agrees.shape acquired old
    · exact .inl ⟨worker, unreserved⟩
  · intro first inFirst second inSecond id atFirst atSecond
    rcases Journal.mem_acquire.mp inFirst with oldFirst | rfl
    · rcases Journal.mem_acquire.mp inSecond with oldSecond | rfl
      · exact agrees.distinct first oldFirst second oldSecond id atFirst atSecond
      · rw [unreserved] at atSecond
        cases atSecond
    · rw [unreserved] at atFirst
      cases atFirst
  · intro acquired member open_ id atId
    rcases Journal.mem_acquire.mp member with old | rfl
    · exact agrees.entered acquired old open_ id atId
    · rw [unreserved] at atId
      cases atId
  · intro id entry found
    obtain ⟨acquired, member, rest⟩ := agrees.owned id entry found
    exact ⟨acquired, Journal.mem_acquire.mpr (.inl member), rest⟩

theorem TableAgrees.next_fresh :
    (∀ acquired ∈ journal.acquired, acquired.lease.reservationId ≠ some nextReservationId) ∧
      reservations.get? nextReservationId = none := by
  have unused : ∀ acquired ∈ journal.acquired,
      acquired.lease.reservationId ≠ some nextReservationId := by
    intro acquired member same
    rcases agrees.shape acquired member with ⟨_, none_⟩ | ⟨_, url, id, _, atId, below⟩
    · rw [none_] at same
      cases same
    · rw [atId, some_inj] at same
      omega
  refine ⟨unused, ?_⟩
  by_contra present
  obtain ⟨entry, found⟩ := ne_none_iff_exists'.mp present
  obtain ⟨acquired, member, _, same⟩ := agrees.owned nextReservationId entry found
  exact unused acquired member same

theorem TableAgrees.acquire_some (enabled : setup.config.enabled = true) {entry : ReservationEntry}
    (worker : lease.workerUrl = some entry.engineUrl)
    (reserved : lease.reservationId = some nextReservationId)
    (unsettled : pipeline ∉ journal.settled) :
    TableAgrees setup (reservations.set nextReservationId entry) (nextReservationId + 1)
      (journal.acquire pipeline lease) := by
  obtain ⟨unused, free⟩ := agrees.next_fresh
  constructor
  · intro acquired member
    rcases Journal.mem_acquire.mp member with old | rfl
    · rcases agrees.shape acquired old with bare | ⟨_, url, id, atUrl, atId, below⟩
      · exact .inl bare
      · exact .inr ⟨enabled, url, id, atUrl, atId, Nat.lt_succ_of_lt below⟩
    · exact .inr ⟨enabled, _, _, worker, reserved, Nat.lt_succ_self _⟩
  · intro first inFirst second inSecond id atFirst atSecond
    rcases Journal.mem_acquire.mp inFirst with oldFirst | rfl <;>
      rcases Journal.mem_acquire.mp inSecond with oldSecond | rfl
    · exact agrees.distinct first oldFirst second oldSecond id atFirst atSecond
    · exact absurd (atFirst.trans (atSecond.symm.trans reserved)) (unused first oldFirst)
    · exact absurd (atSecond.trans (atFirst.symm.trans reserved)) (unused second oldSecond)
    · rfl
  · intro acquired member open_ id atId
    rcases Journal.mem_acquire.mp member with old | rfl
    · have different : id ≠ nextReservationId := by
        intro same
        rw [same] at atId
        exact unused acquired old atId
      rw [get?_set_of_ne _ _ different]
      exact agrees.entered acquired old open_ id atId
    · rw [reserved, some_inj] at atId
      subst atId
      exact ⟨entry, get?_set_self _ _ _, worker⟩
  · intro id other found
    rw [get?_set] at found
    split at found
    · rename_i same
      subst same
      exact ⟨_, Journal.mem_acquire.mpr (.inr rfl), unsettled, reserved⟩
    · obtain ⟨acquired, member, rest⟩ := agrees.owned id other found
      exact ⟨acquired, Journal.mem_acquire.mpr (.inl member), rest⟩

end

end Table

section Stamps

variable {rebalancer : EngineRebalancer} {journal : Journal} {pipeline : Nat}
variable {lease : RoutingLease}

section

variable (agree : StampsAgree rebalancer journal)

include agree

theorem StampsAgree.acquire_before :
    ∀ acquired ∈ (journal.acquire pipeline lease).acquired,
      acquired.acquiredAt < journal.clock + 1 := by
  intro acquired member
  rcases Journal.mem_acquire.mp member with old | rfl
  · exact Nat.lt_succ_of_lt (agree.acquiredBefore acquired old)
  · exact Nat.lt_succ_self journal.clock

theorem StampsAgree.published_before :
    ∀ publication ∈ journal.published, publication.startedAt < journal.clock + 1 := by
  intro publication member
  exact Nat.lt_succ_of_lt (agree.publishedBefore publication member)

theorem StampsAgree.acquire_none (unreserved : lease.reservationId = none) :
    StampsAgree rebalancer (journal.acquire pipeline lease).tick := by
  refine
    { acquiredBefore := agree.acquire_before
      publishedBefore := agree.published_before
      stamped := agree.stamped
      polling := ?_
      counting := ?_ }
  · intro url poll inFlight
    obtain ⟨startedAt, found, before, boundary, ordered⟩ := agree.polling url poll inFlight
    refine ⟨startedAt, found, Nat.lt_succ_of_lt before, boundary, ?_⟩
    intro acquired member id entry atId
    rcases Journal.mem_acquire.mp member with old | rfl
    · exact ordered acquired old id entry atId
    · rw [unreserved] at atId
      cases atId
  · intro acquired member id entry atId
    rcases Journal.mem_acquire.mp member with old | rfl
    · exact agree.counting acquired old id entry atId
    · rw [unreserved] at atId
      cases atId

theorem StampsAgree.acquire_some {target : String} {queueIncrement tokenIncrement : Nat}
    (unused : ∀ acquired ∈ journal.acquired,
      acquired.lease.reservationId ≠ some rebalancer.nextReservationId)
    (reserved : lease.reservationId = some rebalancer.nextReservationId) :
    StampsAgree (rebalancer.withReservation target queueIncrement tokenIncrement)
      (journal.acquire pipeline lease).tick := by
  have others : ∀ acquired ∈ journal.acquired, ∀ id entry,
      acquired.lease.reservationId = some id →
      (rebalancer.withReservation target queueIncrement tokenIncrement).reservations.get? id =
        some entry → rebalancer.reservations.get? id = some entry := by
    intro acquired member id entry atId found
    have different : id ≠ rebalancer.nextReservationId := by
      intro same
      rw [same] at atId
      exact unused acquired member atId
    rw [EngineRebalancer.withReservation, get?_set_of_ne _ _ different] at found
    exact found
  have newest : ∀ id entry, lease.reservationId = some id →
      (rebalancer.withReservation target queueIncrement tokenIncrement).reservations.get? id =
        some entry →
      entry.engineUrl = target ∧ entry.scoringActive = true ∧
        entry.scoringRevision = rebalancer.scoringRevision + 1 := by
    intro id entry atId found
    rw [reserved, some_inj] at atId
    subst atId
    rw [EngineRebalancer.withReservation, get?_set_self] at found
    cases found
    exact ⟨rfl, rfl, rfl⟩
  refine
    { acquiredBefore := agree.acquire_before
      publishedBefore := agree.published_before
      stamped := ?_
      polling := ?_
      counting := ?_ }
  · intro id entry found
    rw [EngineRebalancer.withReservation, get?_set] at found
    split at found
    · cases found
      exact le_refl _
    · exact Nat.le_succ_of_le (agree.stamped id entry found)
  · intro url poll inFlight
    obtain ⟨startedAt, atStart, before, boundary, ordered⟩ := agree.polling url poll inFlight
    refine ⟨startedAt, atStart, Nat.lt_succ_of_lt before, Nat.le_succ_of_le boundary, ?_⟩
    intro acquired member id entry atId found
    rcases Journal.mem_acquire.mp member with old | rfl
    · exact ordered acquired old id entry atId (others acquired old id entry atId found)
    · obtain ⟨_, _, revision⟩ := newest id entry atId found
      rw [revision]
      dsimp only
      omega
  · intro acquired member id entry atId found
    rcases Journal.mem_acquire.mp member with old | rfl
    · exact agree.counting acquired old id entry atId (others acquired old id entry atId found)
    · obtain ⟨_, active, _⟩ := newest id entry atId found
      rw [active]
      refine iff_of_true rfl ?_
      apply List.any_eq_false.mpr
      intro publication published
      have earlier := agree.publishedBefore publication published
      dsimp only
      rw [decide_eq_true_eq]
      omega

theorem StampsAgree.release (id : Option Nat) :
    StampsAgree (rebalancer.releaseReservation id) (journal.settle pipeline) := by
  have kept : ∀ other entry, (rebalancer.releaseReservation id).reservations.get? other =
      some entry → rebalancer.reservations.get? other = some entry := by
    intro other entry found
    cases id with
    | none => exact found
    | some reservationId =>
      rw [EngineRebalancer.releaseReservation, get?_pop] at found
      split at found
      · cases found
      · exact found
  have revision : (rebalancer.releaseReservation id).scoringRevision =
      rebalancer.scoringRevision := by
    cases id <;> rfl
  have fetches : (rebalancer.releaseReservation id).snapshotFetches =
      rebalancer.snapshotFetches := by
    cases id <;> rfl
  refine
    { agree with
      stamped := ?_
      polling := ?_
      counting := ?_ }
  · intro other entry found
    rw [revision]
    exact agree.stamped other entry (kept other entry found)
  · intro url poll inFlight
    rw [fetches] at inFlight
    rw [revision]
    obtain ⟨startedAt, atStart, before, boundary, ordered⟩ := agree.polling url poll inFlight
    exact ⟨startedAt, atStart, before, boundary, fun acquired member other entry atId found =>
      ordered acquired member other entry atId (kept other entry found)⟩
  · intro acquired member other entry atId found
    exact agree.counting acquired member other entry atId (kept other entry found)

end

end Stamps

theorem acquire_accounted (accounted : Accounted setup server) (pipeline : Nat) (now : ℚ)
    (sessionId : String) (inputIds : List Nat) (expectedVersion : Option String)
    (requireRegisteredContext : Bool) :
    Accounted setup
      { server.acquire setup pipeline now sessionId inputIds expectedVersion
          requireRegisteredContext with
        journal := (server.acquire setup pipeline now sessionId inputIds expectedVersion
          requireRegisteredContext).journal.tick } := by
  have cases_ := @EngineRebalancer.acquire_cases setup server.rebalancer now sessionId inputIds
    expectedVersion requireRegisteredContext
  unfold acquire
  split
  · rename_i found
    dsimp only
    generalize server.rebalancer.acquire setup now sessionId inputIds expectedVersion
      requireRegisteredContext = outcome at cases_ ⊢
    obtain ⟨result, next⟩ := outcome
    have agree := accounted.pipelines
    rcases cases_ with ⟨same, bare⟩ | ⟨lease, target, queue, tokens, returned, worker, reserved,
      enabled, same⟩
    · cases result with
      | error failure =>
        have left : PipelinesAgree (server.pipelines.set pipeline .ended)
          server.nextPipelineId server.journal := agree.setPc found (fun _ => rfl) rfl
        exact tick_accounted
          { pipelines := left
            table := by
              show TableAgrees setup next.reservations next.nextReservationId server.journal
              rw [same.reservations, same.nextReservationId]
              exact accounted.table
            stamps := accounted.stamps.same same
            loads := accounted.loads.same same }
      | ok lease =>
        obtain ⟨worker, unreserved⟩ := bare lease rfl
        exact
          { pipelines := { agree.acquire found lease with }
            table := by
              show TableAgrees setup next.reservations next.nextReservationId _
              rw [same.reservations, same.nextReservationId]
              exact { accounted.table.acquire_none worker unreserved with }
            stamps := (accounted.stamps.acquire_none unreserved).same same
            loads := { accounted.loads.same same with } }
    · cases returned
      obtain ⟨unused, _⟩ := accounted.table.next_fresh
      have unsettled : pipeline ∉ server.journal.settled := by
        intro settled
        obtain ⟨acquired, member, at_⟩ := agree.settledAcquired pipeline settled
        exact agree.none_acquired found acquired member at_
      exact
        { pipelines := { agree.acquire found lease with }
          table := by
            show TableAgrees setup next.reservations next.nextReservationId _
            rw [same.reservations, same.nextReservationId]
            exact { accounted.table.acquire_some enabled worker reserved unsettled with }
          stamps := (accounted.stamps.acquire_some unused reserved).same same
          loads :=
            { accounted.loads with
              figures := fun url => (same.figures url).trans (accounted.loads.figures url) } }
  · exact tick_accounted accounted

theorem PipelinesAgree.settle (agree : PipelinesAgree pipelines nextPipelineId journal)
    {pc next : LeasePc} {lease : RoutingLease} (found : pipelines.get? pipeline = some pc)
    (holds : pc.held = some lease) (past : next.past = true) (released : next.held = none) :
    PipelinesAgree (pipelines.set pipeline next) nextPipelineId (journal.settle pipeline) := by
  obtain ⟨unsettled, own, ownMember, ownPipeline, _⟩ := agree.holding pipeline pc lease found holds
  refine
    { listed := ?_
      holding := ?_
      once := ?_
      settledAcquired := ?_
      single := agree.single
      issued := ?_ }
  · intro acquired member
    obtain ⟨before, at_, wasPast, carries⟩ := agree.listed acquired member
    rw [get?_set]
    split
    · rename_i same
      refine ⟨next, rfl, past, ?_⟩
      intro open_
      exact absurd (mem_append_right _ (mem_singleton.mpr same)) open_
    · refine ⟨before, at_, wasPast, ?_⟩
      intro open_
      exact carries (fun settled => open_ (mem_append_left _ settled))
  · intro other otherPc otherLease at_ otherHolds
    rw [get?_set] at at_
    split at at_
    · cases at_
      rw [released] at otherHolds
      cases otherHolds
    · rename_i different
      obtain ⟨open_, rest⟩ := agree.holding other otherPc otherLease at_ otherHolds
      refine ⟨?_, rest⟩
      intro settled
      rcases mem_append.mp settled with old | new
      · exact open_ old
      · exact different (mem_singleton.mp new)
  · unfold Journal.settle
    rw [nodup_append]
    refine ⟨agree.once, nodup_singleton _, ?_⟩
    intro old inOld new inNew same
    rw [mem_singleton] at inNew
    rw [same, inNew] at inOld
    exact unsettled inOld
  · intro other settled
    rcases mem_append.mp settled with old | new
    · exact agree.settledAcquired other old
    · rw [mem_singleton] at new
      exact ⟨own, ownMember, ownPipeline.trans new.symm⟩
  · intro other otherPc at_
    rw [get?_set] at at_
    split at at_
    · rename_i same
      rw [same]
      exact agree.issued pipeline pc found
    · exact agree.issued other otherPc at_

theorem TableAgrees.settle
    (agrees : TableAgrees setup rebalancer.reservations rebalancer.nextReservationId journal)
    (single : ∀ first ∈ journal.acquired, ∀ second ∈ journal.acquired,
      first.pipeline = second.pipeline → first = second) {own : AcquiredLease}
    (member : own ∈ journal.acquired) :
    TableAgrees setup (rebalancer.releaseReservation own.lease.reservationId).reservations
      (rebalancer.releaseReservation own.lease.reservationId).nextReservationId
      (journal.settle own.pipeline) := by
  -- Another lease has another reservation id, so its entry is not the one popped.
  have other : ∀ id, own.lease.reservationId ≠ some id →
      (rebalancer.releaseReservation own.lease.reservationId).reservations.get? id =
        rebalancer.reservations.get? id := by
    intro id different
    cases reserved : own.lease.reservationId with
    | none => rfl
    | some ownId =>
      rw [EngineRebalancer.releaseReservation, get?_pop, if_neg]
      intro same
      rw [reserved, same] at different
      exact different rfl
  have popped : ∀ id, own.lease.reservationId = some id →
      (rebalancer.releaseReservation own.lease.reservationId).reservations.get? id = none := by
    intro id reserved
    rw [reserved, EngineRebalancer.releaseReservation]
    exact get?_pop_self _ _
  have next : (rebalancer.releaseReservation own.lease.reservationId).nextReservationId =
      rebalancer.nextReservationId := by
    cases own.lease.reservationId <;> rfl
  rw [next]
  refine
    { agrees with
      entered := ?_
      owned := ?_ }
  · intro acquired inAcquired open_ id atId
    rw [other id]
    · exact agrees.entered acquired inAcquired
        (fun settled => open_ (mem_append_left _ settled)) id atId
    · intro ownId
      have same := agrees.distinct own member acquired inAcquired id ownId atId
      subst same
      exact open_ (mem_append_right _ (mem_singleton_self _))
  · intro id entry found
    by_cases ownId : own.lease.reservationId = some id
    · rw [popped id ownId] at found
      cases found
    · rw [other id ownId] at found
      obtain ⟨acquired, inAcquired, open_, atId⟩ := agrees.owned id entry found
      refine ⟨acquired, inAcquired, ?_, atId⟩
      intro settled
      rcases mem_append.mp settled with old | new
      · exact open_ old
      · have same := single acquired inAcquired own member (mem_singleton.mp new)
        rw [same] at atId
        exact ownId atId

section

variable (accounted : Accounted setup server)
include accounted

theorem settle_accounted (pipeline : Nat) : Accounted setup (server.settle setup pipeline) := by
  unfold settle
  split
  · rename_i lease settlement cancelled found
    obtain ⟨unsettled, own, member, atPipeline, atLease⟩ :=
      accounted.pipelines.holding pipeline _ lease found rfl
    have same : EngineRebalancer.SameScoring
        (server.rebalancer.releaseReservation own.lease.reservationId)
        (server.rebalancer.complete setup lease settlement.committedTokens
          settlement.success).2 := by
      rw [atLease]
      rcases accounted.table.shape own member with ⟨_, bare⟩ | ⟨enabled, _⟩
      · rw [atLease] at bare
        cases on : setup.config.enabled with
        | true => exact EngineRebalancer.complete_same on lease _ _
        | false =>
          rw [EngineRebalancer.complete_disabled on, bare]
          exact EngineRebalancer.SameScoring.refl _
      · exact EngineRebalancer.complete_same enabled lease _ _
    have table := accounted.table.settle accounted.pipelines.single member
    rw [← same.reservations, ← same.nextReservationId, atPipeline] at table
    exact
      { pipelines := accounted.pipelines.settle found rfl rfl rfl
        table := table
        stamps := (accounted.stamps.release own.lease.reservationId).same same
        loads :=
          { accounted.loads with
            figures := fun url => by
              have released : (server.rebalancer.releaseReservation
                  own.lease.reservationId).figuresAt url = server.rebalancer.figuresAt url := by
                cases own.lease.reservationId <;> rfl
              exact ((same.figures url).trans released).trans (accounted.loads.figures url) } }
  · exact accounted

theorem same_accounted {next : EngineRebalancer}
    (same : EngineRebalancer.SameScoring server.rebalancer next) :
    Accounted setup { server with rebalancer := next } := by
  refine
    { pipelines := accounted.pipelines
      table := ?_
      stamps := accounted.stamps.same same
      loads := accounted.loads.same same }
  show TableAgrees setup next.reservations next.nextReservationId server.journal
  rw [same.reservations, same.nextReservationId]
  exact accounted.table

theorem startPoll_accounted (url : String) :
    Accounted setup
      { server with
        rebalancer := server.rebalancer.startPoll url
        journal := (server.journal.startPoll server.rebalancer (server.rebalancer.startPoll url)
          url).tick } := by
  rcases @EngineRebalancer.startPoll_cases server.rebalancer url with same | ⟨idle, version,
    fingerprint, started⟩
  · rw [same]
    have unchanged : server.journal.startPoll server.rebalancer server.rebalancer url =
        server.journal := by
      unfold Journal.startPoll
      apply if_neg
      rintro ⟨none_, some_⟩
      exact some_ none_
    rw [unchanged]
    exact tick_accounted accounted
  · rw [started]
    unfold Journal.startPoll
    rw [if_pos ⟨idle, by rw [get?_set_self]; simp⟩]
    have stamps := accounted.stamps
    refine
      { pipelines := { accounted.pipelines with }
        table := { accounted.table with }
        stamps :=
          { stamps with
            acquiredBefore := fun acquired member =>
              Nat.lt_succ_of_lt (stamps.acquiredBefore acquired member)
            publishedBefore := stamps.published_before
            polling := ?_ }
        loads := { accounted.loads with } }
    intro other poll inFlight
    dsimp only [Journal.tick] at inFlight ⊢
    rw [get?_set] at inFlight ⊢
    split at inFlight
    · rename_i same
      cases inFlight
      rw [if_pos same]
      refine ⟨server.journal.clock, rfl, Nat.lt_succ_self _, le_refl _, ?_⟩
      intro acquired member id entry atId found
      exact iff_of_true (stamps.stamped id entry found) (stamps.acquiredBefore acquired member)
    · rename_i different
      rw [if_neg different]
      obtain ⟨startedAt, found, before, rest⟩ := stamps.polling other poll inFlight
      exact ⟨startedAt, found, Nat.lt_succ_of_lt before, rest⟩

end

theorem Journal.observedSince_cons (publication : PublishedLoad) (journal : Journal) (url : String)
    (moment : Nat) :
    ({ journal with published := publication :: journal.published }).observedSince url moment =
      (decide (publication.url = url ∧ moment < publication.startedAt) ||
        journal.observedSince url moment) := rfl

theorem acknowledged_entry {boundary id : Nat} {entry : ReservationEntry}
    (found : (rebalancer.acknowledgeScoringDeltas url boundary).reservations.get? id = some entry) :
    ∃ before, rebalancer.reservations.get? id = some before ∧
      entry.engineUrl = before.engineUrl ∧ entry.scoringRevision = before.scoringRevision ∧
      (entry.scoringActive = true ↔ before.scoringActive = true ∧
        ¬ (before.engineUrl = url ∧ before.scoringRevision ≤ boundary)) := by
  rw [EngineRebalancer.acknowledgeScoringDeltas, get?_mapValues] at found
  obtain ⟨before, at_, changed⟩ := map_eq_some_iff.mp found
  refine ⟨before, at_, ?_⟩
  rw [← changed]
  split
  · rename_i covered
    refine ⟨rfl, rfl, iff_of_false (by simp) ?_⟩
    rintro ⟨_, uncovered⟩
    exact uncovered ⟨covered.1, covered.2.2⟩
  · rename_i uncovered
    refine ⟨rfl, rfl, ?_⟩
    constructor
    · intro active
      exact ⟨active, fun covered => uncovered ⟨covered.1, active, covered.2⟩⟩
    · exact And.left

theorem TableAgrees.acknowledge {nextReservationId : Nat}
    (agrees : TableAgrees setup rebalancer.reservations nextReservationId journal) (url : String)
    (boundary : Nat) :
    TableAgrees setup (rebalancer.acknowledgeScoringDeltas url boundary).reservations
      nextReservationId journal := by
  refine { agrees with
    entered := ?_
    owned := ?_ }
  · intro acquired member open_ id atId
    obtain ⟨before, found, worker⟩ := agrees.entered acquired member open_ id atId
    rw [EngineRebalancer.acknowledgeScoringDeltas, get?_mapValues, found]
    refine ⟨_, rfl, ?_⟩
    dsimp only
    split <;> exact worker
  · intro id entry found
    obtain ⟨before, at_, _⟩ := acknowledged_entry found
    exact agrees.owned id before at_

theorem StampsAgree.publish {next : EngineRebalancer} (agree : StampsAgree rebalancer journal)
    {poll : SnapshotPoll} {load : EngineLoad} {startedAt : Nat}
    (inFlight : rebalancer.snapshotFetches.get? url = some poll)
    (started : journal.pollsStarted.get? url = some startedAt)
    (published : rebalancer.Publishes url poll load next) :
    StampsAgree next
      { journal with
        published :=
          { url := url
            startedAt := startedAt
            load := load } :: journal.published } := by
  obtain ⟨sameStart, found, before, boundary, ordered⟩ := agree.polling url poll inFlight
  rw [started, some_inj] at found
  subst found
  refine
    { acquiredBefore := agree.acquiredBefore
      publishedBefore := ?_
      stamped := ?_
      polling := ?_
      counting := ?_ }
  · intro publication member
    rcases mem_cons.mp member with rfl | old
    · exact before
    · exact agree.publishedBefore publication old
  · rw [published.reservations, published.scoringRevision]
    intro id entry at_
    obtain ⟨old, oldFound, _, revision, _⟩ := acknowledged_entry at_
    rw [revision]
    exact agree.stamped id old oldFound
  · rw [published.reservations, published.scoringRevision, published.snapshotFetches]
    intro other otherPoll at_
    rw [get?_pop] at at_
    split at at_
    · cases at_
    obtain ⟨otherStart, found, earlier, below, order⟩ := agree.polling other otherPoll at_
    refine ⟨otherStart, found, earlier, below, ?_⟩
    intro acquired member id entry atId entryFound
    obtain ⟨old, oldFound, _, revision, _⟩ := acknowledged_entry entryFound
    rw [revision]
    exact order acquired member id old atId oldFound
  · rw [published.reservations]
    intro acquired member id entry atId entryFound
    obtain ⟨old, oldFound, engine, _, active⟩ := acknowledged_entry entryFound
    have counted := agree.counting acquired member id old atId oldFound
    have order := ordered acquired member id old atId oldFound
    rw [Journal.observedSince_cons, active, counted, engine, order, Bool.or_eq_false_iff,
      decide_eq_false_iff_not, and_comm, eq_comm (a := url)]

theorem LoadsAgree.publish {next : EngineRebalancer} (agree : LoadsAgree rebalancer journal)
    {poll : SnapshotPoll} {load : EngineLoad} {startedAt : Nat}
    (published : rebalancer.Publishes url poll load next) :
    LoadsAgree next
      { journal with
        published :=
          { url := url
            startedAt := startedAt
            load := load } :: journal.published } := by
  constructor
  · intro other
    unfold Journal.lastPublished
    rw [find?_cons]
    by_cases same : url = other
    · subst same
      simp only [decide_true, map_some, getD_some]
      rw [EngineRebalancer.figuresAt, published.loaded, getD_some]
    · simp only [same, decide_false]
      rw [published.figures other (fun equal => same equal.symm)]
      exact agree.figures other
  · intro publication member
    rcases mem_cons.mp member with rfl | old
    · exact published.capacities
    · exact agree.capacities publication old

theorem Journal.finishPoll_unmoved {next : EngineRebalancer}
    (unmoved : next.loadGenerations = before.loadGenerations) :
    journal.finishPoll before next url = journal := by
  unfold Journal.finishPoll
  split
  · rw [unmoved, if_neg (fun moved => moved rfl)]
  · rfl

theorem finishPoll_accounted (accounted : Accounted setup server) (url : String)
    (answer : LoadAnswer) (now : ℚ) :
    Accounted setup
      { server with
        rebalancer := server.rebalancer.finishPoll url answer now
        journal := server.journal.finishPoll server.rebalancer
          (server.rebalancer.finishPoll url answer now) url } := by
  rcases @EngineRebalancer.finishPoll_cases server.rebalancer url answer now with
    same | same | ⟨poll, load, inFlight, published⟩
  · rw [Journal.finishPoll_unmoved same.loadGenerations]
    exact same_accounted accounted same
  · -- A poll that publishes nothing only leaves the table of polls.
    have unmoved : (server.rebalancer.finishPoll url answer now).loadGenerations =
      server.rebalancer.loadGenerations := same.loadGenerations
    rw [Journal.finishPoll_unmoved unmoved]
    have dropped : Accounted setup
        { server with
          rebalancer := { server.rebalancer with
            snapshotFetches := server.rebalancer.snapshotFetches.pop url } } := by
      refine { accounted with
        stamps := { accounted.stamps with polling := ?_ }
        loads := { accounted.loads with } }
      intro other poll inFlight
      rw [get?_pop] at inFlight
      split at inFlight
      · cases inFlight
      · exact accounted.stamps.polling other poll inFlight
    exact same_accounted dropped same
  · obtain ⟨startedAt, started, _⟩ := accounted.stamps.polling url poll inFlight
    have noted : server.journal.finishPoll server.rebalancer
        (server.rebalancer.finishPoll url answer now) url =
        { server.journal with
          published :=
            { url := url
              startedAt := startedAt
              load := load } :: server.journal.published } := by
      unfold Journal.finishPoll
      rw [started, published.loaded]
      exact if_pos published.moved
    rw [noted]
    refine
      { pipelines := { accounted.pipelines with }
        table := ?_
        stamps := accounted.stamps.publish inFlight started published
        loads := accounted.loads.publish published }
    show TableAgrees setup (server.rebalancer.finishPoll url answer now).reservations
      (server.rebalancer.finishPoll url answer now).nextReservationId _
    rw [published.reservations, published.nextReservationId]
    exact { accounted.table.acknowledge url poll.scoringBoundary with }

theorem step_accounted (action : LeaseAction) (accounted : Accounted setup server) :
    Accounted setup (server.step setup action) := by
  unfold step perform
  cases action with
  | arrive => exact tick_accounted (arrive_accounted accounted)
  | leave pipeline =>
    apply tick_accounted
    apply movePc_accounted accounted
    · intro pc _
      cases pc <;> rfl
    · intro pc
      cases pc <;> rfl
  | cancel pipeline =>
    apply tick_accounted
    apply movePc_accounted accounted
    · intro pc _
      cases pc <;> rfl
    · intro pc
      cases pc with
      | settling lease settlement task cancelled => cases task <;> rfl
      | _ => rfl
  | acquire pipeline now sessionId inputIds expectedVersion requireRegisteredContext =>
    exact acquire_accounted accounted pipeline now sessionId inputIds expectedVersion
      requireRegisteredContext
  | generated pipeline allTokenIds | generationRaises pipeline =>
    exact tick_accounted (finishGeneration_accounted accounted pipeline _)
  | settle pipeline => exact tick_accounted (settle_accounted accounted pipeline)
  | resume pipeline =>
    apply tick_accounted
    apply movePc_accounted accounted
    · intro pc past
      unfold LeasePc.resume
      split
      · split
        · rfl
        · split <;> rfl
      · exact past
    · intro pc
      unfold LeasePc.resume
      split
      · split
        · rfl
        · split <;> rfl
      · rfl
  | background action =>
    dsimp only
    cases action with
    | refresh inspected =>
      exact tick_accounted (same_accounted accounted (EngineRebalancer.refresh_same inspected))
    | startPoll url => exact startPoll_accounted accounted url
    | finishPoll url answer now =>
      exact tick_accounted (finishPoll_accounted accounted url answer now)
    | acquire now sessionId inputIds expectedVersion requireRegisteredContext =>
      exact tick_accounted accounted
    | complete lease committedTokens success => exact tick_accounted accounted
    | register sessionId =>
      apply tick_accounted
      apply same_accounted accounted
      unfold EngineRebalancer.step EngineRebalancer.registerSessionContext
      dsimp only
      split <;> exact EngineRebalancer.SameScoring.of_eq rfl rfl rfl rfl rfl rfl
    | discard sessionId | calibrate calibration | close =>
      exact tick_accounted (same_accounted accounted
        (EngineRebalancer.SameScoring.of_eq rfl rfl rfl rfl rfl rfl))

theorem after_accounted (actions : List LeaseAction) : Accounted setup (after setup actions) :=
  Runs.run_preserves (fun _ action accounted => step_accounted action accounted)
    initial_accounted actions

def unobservedOn (server : LeaseServer) (url : String) : List ReservationEntry :=
  (server.rebalancer.reservations.entries.filter (fun reservation =>
    decide (reservation.2.engineUrl = url) && server.journal.unobserved reservation)).map Prod.snd

structure ReservationsAccounted (server : LeaseServer) : Prop where
  leases : ∀ acquired ∈ server.journal.outstanding, ∀ url, acquired.lease.workerUrl = some url →
    ∃ id entry, acquired.lease.reservationId = some id ∧
      server.rebalancer.reservations.get? id = some entry ∧ entry.engineUrl = url
  entries : ∀ id entry, server.rebalancer.reservations.get? id = some entry →
    ∃! acquired, acquired ∈ server.journal.outstanding ∧
      acquired.lease.reservationId = some id ∧
      acquired.lease.workerUrl = some entry.engineUrl
  single : ∀ first ∈ server.journal.acquired, ∀ second ∈ server.journal.acquired,
    first.pipeline = second.pipeline → first = second
  settled_once : server.journal.settled.Nodup
  settled_acquired : ∀ pipeline ∈ server.journal.settled, ∃ acquired ∈ server.journal.acquired,
    acquired.pipeline = pipeline
  exits : ∀ acquired ∈ server.journal.acquired,
    server.pipelines.get? acquired.pipeline = some .ended →
      server.journal.settled.count acquired.pipeline = 1
  /-- An entry counts exactly while no later poll of its engine has published. -/
  counts : ∀ reservation ∈ server.rebalancer.reservations.entries,
    reservation.2.scoringActive = server.journal.unobserved reservation
  unpublished : ∀ url, server.journal.lastPublished url = none →
    server.rebalancer.effectiveBaseline url = none
  baseline : ∀ url publication, server.journal.lastPublished url = some publication →
    ∃ baseline, server.rebalancer.effectiveBaseline url = some baseline ∧
      baseline.baseRequests = publication.load.running ∧
      baseline.baseQueue = publication.load.queued +
        ((server.unobservedOn url).map ReservationEntry.scoringQueueIncrement).sum ∧
      baseline.baseTokens = publication.load.activeTokens +
        ((server.unobservedOn url).map ReservationEntry.scoringTokenIncrement).sum ∧
      baseline.requestCapacity = publication.load.requestCapacity ∧
      baseline.tokenCapacity = publication.load.tokenCapacity ∧
      baseline.tokenUsage = publication.load.tokenUsage

theorem Journal.mem_outstanding {acquired : AcquiredLease} :
    acquired ∈ journal.outstanding ↔
      acquired ∈ journal.acquired ∧ acquired.pipeline ∉ journal.settled := by
  rw [Journal.outstanding, mem_filter, decide_eq_true_eq]

section

variable (accounted : Accounted setup server)

include accounted

theorem Accounted.active_eq {reservation : Nat × ReservationEntry}
    (member : reservation ∈ server.rebalancer.reservations.entries) :
    reservation.2.scoringActive = server.journal.unobserved reservation := by
  obtain ⟨id, entry⟩ := reservation
  have found := get?_of_mem member
  obtain ⟨own, inAcquired, _, atId⟩ := accounted.table.owned id entry found
  have located : ∃ first, server.journal.acquired.find? (fun acquired =>
      acquired.lease.reservationId = some id) = some first := by
    rw [← isSome_iff_exists, find?_isSome]
    exact ⟨own, inAcquired, decide_eq_true atId⟩
  obtain ⟨first, firstFound⟩ := located
  have firstIn := mem_of_find?_eq_some firstFound
  have firstId : first.lease.reservationId = some id := by
    have holds := find?_some firstFound
    rwa [decide_eq_true_eq] at holds
  have counted := accounted.stamps.counting first firstIn id entry firstId found
  unfold Journal.unobserved Journal.reservedAt
  rw [firstFound]
  dsimp only [map_some]
  cases active : entry.scoringActive with
  | true =>
    rw [counted.mp active]
    rfl
  | false =>
    cases observed : server.journal.observedSince entry.engineUrl first.acquiredAt with
    | true => rfl
    | false =>
      rw [counted.mpr observed] at active
      cases active

theorem Accounted.liveScoringTotals_eq (url : String) :
    server.rebalancer.liveScoringTotals url =
      (((server.unobservedOn url).map ReservationEntry.scoringQueueIncrement).sum,
        ((server.unobservedOn url).map ReservationEntry.scoringTokenIncrement).sum) := by
  have same : server.rebalancer.reservations.values.filter (fun entry =>
      entry.engineUrl = url ∧ entry.scoringActive) = server.unobservedOn url := by
    unfold OrderedDict.values unobservedOn
    rw [List.filter_map]
    congr 1
    apply filter_congr
    intro reservation member
    rw [← accounted.active_eq member, Function.comp_apply, Bool.decide_and, Bool.decide_eq_true]
  unfold EngineRebalancer.liveScoringTotals
  rw [same]

theorem Accounted.figures_published {publication : PublishedLoad}
    (last : server.journal.lastPublished url = some publication) :
    ∃ load, server.rebalancer.loads.get? url = some load ∧
      load.figures = publication.load.figures := by
  have figures := accounted.loads.figures url
  rw [last, map_some, getD_some, EngineRebalancer.figuresAt] at figures
  have positive := accounted.loads.capacities publication (mem_of_find?_eq_some last)
  cases found : server.rebalancer.loads.get? url with
  | none =>
    rw [found] at figures
    have capacity := congrArg LoadFigures.requestCapacity figures
    change 0 = publication.load.requestCapacity at capacity
    omega
  | some load =>
    rw [found] at figures
    exact ⟨load, rfl, figures⟩

theorem Accounted.entry_of_lease {acquired : AcquiredLease}
    (member : acquired ∈ server.journal.outstanding) {url : String}
    (worker : acquired.lease.workerUrl = some url) :
    ∃ id entry, acquired.lease.reservationId = some id ∧
      server.rebalancer.reservations.get? id = some entry ∧ entry.engineUrl = url := by
  obtain ⟨inAcquired, open_⟩ := Journal.mem_outstanding.mp member
  rcases accounted.table.shape acquired inAcquired with ⟨bare, _⟩ | ⟨_, _, id, _, atId, _⟩
  · rw [bare] at worker
    cases worker
  · obtain ⟨entry, found, engine⟩ := accounted.table.entered acquired inAcquired open_ id atId
    rw [worker, some_inj] at engine
    exact ⟨id, entry, atId, found, engine.symm⟩

theorem Accounted.lease_of_entry {id : Nat} {entry : ReservationEntry}
    (found : server.rebalancer.reservations.get? id = some entry) :
    ∃! acquired, acquired ∈ server.journal.outstanding ∧
      acquired.lease.reservationId = some id ∧
      acquired.lease.workerUrl = some entry.engineUrl := by
  obtain ⟨own, inAcquired, open_, atId⟩ := accounted.table.owned id entry found
  obtain ⟨sameEntry, sameFound, engine⟩ := accounted.table.entered own inAcquired open_ id atId
  rw [found, some_inj] at sameFound
  subst sameFound
  refine ⟨own, ⟨Journal.mem_outstanding.mpr ⟨inAcquired, open_⟩, atId, engine⟩, ?_⟩
  rintro other ⟨member, otherId, _⟩
  exact accounted.table.distinct other (Journal.mem_outstanding.mp member).1 own inAcquired id
    otherId atId

theorem Accounted.settled_of_ended {acquired : AcquiredLease}
    (member : acquired ∈ server.journal.acquired)
    (over_ : server.pipelines.get? acquired.pipeline = some .ended) :
    server.journal.settled.count acquired.pipeline = 1 := by
  apply count_eq_one_of_mem accounted.pipelines.once
  by_contra open_
  obtain ⟨pc, found, _, carries⟩ := accounted.pipelines.listed acquired member
  rw [over_, some_inj] at found
  subst found
  cases carries open_

theorem Accounted.baseline_unpublished (never : server.journal.lastPublished url = none) :
    server.rebalancer.effectiveBaseline url = none := by
  have figures := accounted.loads.figures url
  rw [never, EngineRebalancer.figuresAt] at figures
  unfold EngineRebalancer.effectiveBaseline
  split
  · rfl
  · next load found =>
      rw [found] at figures
      have capacity := congrArg LoadFigures.requestCapacity figures
      change load.requestCapacity = 0 at capacity
      rw [dif_neg]
      omega

theorem Accounted.baseline_published {publication : PublishedLoad}
    (last : server.journal.lastPublished url = some publication) :
    ∃ baseline, server.rebalancer.effectiveBaseline url = some baseline ∧
      baseline.baseRequests = publication.load.running ∧
      baseline.baseQueue = publication.load.queued +
        ((server.unobservedOn url).map ReservationEntry.scoringQueueIncrement).sum ∧
      baseline.baseTokens = publication.load.activeTokens +
        ((server.unobservedOn url).map ReservationEntry.scoringTokenIncrement).sum ∧
      baseline.requestCapacity = publication.load.requestCapacity ∧
      baseline.tokenCapacity = publication.load.tokenCapacity ∧
      baseline.tokenUsage = publication.load.tokenUsage := by
  obtain ⟨load, found, figures⟩ := accounted.figures_published last
  have positive := accounted.loads.capacities publication (mem_of_find?_eq_some last)
  have running : load.running = publication.load.running := congrArg LoadFigures.running figures
  have queued : load.queued = publication.load.queued := congrArg LoadFigures.queued figures
  have tokens : load.activeTokens = publication.load.activeTokens :=
    congrArg LoadFigures.activeTokens figures
  have requestCapacity : load.requestCapacity = publication.load.requestCapacity :=
    congrArg LoadFigures.requestCapacity figures
  have tokenCapacity : load.tokenCapacity = publication.load.tokenCapacity :=
    congrArg LoadFigures.tokenCapacity figures
  have usage : load.tokenUsage = publication.load.tokenUsage :=
    congrArg LoadFigures.tokenUsage figures
  unfold EngineRebalancer.effectiveBaseline
  rw [found]
  dsimp only
  rw [dif_pos (by rw [requestCapacity, tokenCapacity]; exact positive)]
  refine ⟨_, rfl, ?_⟩
  dsimp only
  rw [accounted.liveScoringTotals_eq url, running, queued, tokens, requestCapacity,
    tokenCapacity, usage]
  exact ⟨rfl, rfl, rfl, rfl, rfl, rfl⟩

end

/-- In every run of pipelines, refreshes and polls, the reservations are those of
the leases in flight, every ended pipeline has settled once, and the baselines
are the published loads with what no later poll has seen. -/
theorem reservations_accounted (setup : Setup) (actions : List LeaseAction) :
    ReservationsAccounted (after setup actions) := by
  have accounted : Accounted setup (after setup actions) := after_accounted actions
  exact
    { leases := fun _ member _ worker => accounted.entry_of_lease member worker
      entries := fun _ _ found => accounted.lease_of_entry found
      single := accounted.pipelines.single
      settled_once := accounted.pipelines.once
      settled_acquired := accounted.pipelines.settledAcquired
      exits := fun _ member over_ => accounted.settled_of_ended member over_
      counts := fun _ member => accounted.active_eq member
      unpublished := fun _ never => accounted.baseline_unpublished never
      baseline := fun _ _ last => accounted.baseline_published last }

end LeaseServer

end Dressage.Rebalancing

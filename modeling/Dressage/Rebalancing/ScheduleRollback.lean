/-
A scheduling step that fails half-way.

Once its target is known, a step writes to the session, to three counters, to the reservation
table and last to the history. An exception may come before any of these writes; what was
written until then is taken back from what was read before the step. Ids and revisions of a
step that failed are given out again, those of a lease never.
-/

import Dressage.Rebalancing.ReservationAccounting

namespace Dressage.Rebalancing

open Lib List OrderedDict

/-- What a step is about to write; its session is that of the map, or a new one. -/
structure Commit where
  target : Option String
  targetFingerprint : Option String
  kind : GreedyStepKind
  candidateUrls : List String
  greedy : Option GreedyStepDecision
  edge : Option FeasibleEdge
  fallbackReason : Option FallbackReason

def Commit.queueIncrement (commit : Commit) : Nat :=
  ((commit.edge.map FeasibleEdge.queueIncrement).getD 0).floor.toNat

def Commit.tokenIncrement (commit : Commit) : Nat :=
  ((commit.edge.map FeasibleEdge.tokenIncrement).getD 0).floor.toNat

/-- An exception of a step: how many writes came before it, and whether the failure could be
traced or the tracing raised too. -/
structure Failure where
  sessionId : String
  promptTokenCount : Nat
  commit : Commit
  written : Nat
  error : SchedulingError
  traced : Bool

namespace EngineRebalancer

variable {setup : Setup}

section Writes

variable (setup) (state : EngineRebalancer) (sessionId : String) (commit : Commit)

def sessionOf : SessionRoutingState :=
  (state.sessions.get? sessionId).getD SessionRoutingState.new

def commitOf : RoutingLease × EngineRebalancer :=
  state.commitStep setup sessionId (state.sessionOf sessionId) commit.target
    commit.targetFingerprint commit.kind commit.candidateUrls commit.greedy commit.edge
    commit.fallbackReason

def keptSession : SessionRoutingState :=
  let session := state.sessionOf sessionId
  if session.ownerWorkerUrl = none ∧ commit.targetFingerprint ≠ none then
    { session with fingerprint := commit.targetFingerprint }
  else session

def sessionWrites : List (EngineRebalancer → EngineRebalancer) :=
  [ fun written =>
      if state.sessions.get? sessionId = none then
        { written with sessions := written.sessions.set sessionId (state.sessionOf sessionId) }
      else written,
    fun written =>
      if state.keptSession sessionId commit = state.sessionOf sessionId then written
      else
        { written with
          sessions := written.sessions.set sessionId (state.keptSession sessionId commit) } ]

def reserveWrites : List (EngineRebalancer → EngineRebalancer) :=
  match commit.target with
  | none => []
  | some target =>
    [ fun written => { written with nextReservationId := written.nextReservationId + 1 },
      fun written => { written with scoringRevision := written.scoringRevision + 1 },
      fun written =>
        { written with
          reservations := written.reservations.set state.nextReservationId
            { engineUrl := target
              scoringQueueIncrement := commit.queueIncrement
              scoringTokenIncrement := commit.tokenIncrement
              scoringRevision := written.scoringRevision
              scoringActive := true } } ]

def writes : List (EngineRebalancer → EngineRebalancer) :=
  state.sessionWrites sessionId commit ++ state.reserveWrites commit ++
    [fun written => { written with nextLoadDecisionId := written.nextLoadDecisionId + 1 }]

def partway (count : Nat) : EngineRebalancer :=
  ((state.writes sessionId commit).take count).foldl (fun written write => write written) state

end Writes

def rollback (before half : EngineRebalancer) (sessionId : String) : EngineRebalancer :=
  { half with
    reservations := half.reservations.popAll
      (half.reservations.keys.filter fun id => before.nextReservationId ≤ id)
    nextReservationId := before.nextReservationId
    scoringRevision := before.scoringRevision
    nextLoadDecisionId := before.nextLoadDecisionId
    sessions :=
      match before.sessions.get? sessionId with
      | none => half.sessions.pop sessionId
      | some session => half.sessions.set sessionId session }

/-- `_record_failed_load_decision_locked`; the id is taken before the trace is made. -/
def recordFailure (setup : Setup) (state : EngineRebalancer) (failure : Failure) :
    EngineRebalancer :=
  let counted := { state with nextLoadDecisionId := state.nextLoadDecisionId + 1 }
  if failure.traced then
    counted.recordTrace setup (.failed state.nextLoadDecisionId failure.sessionId
      failure.promptTokenCount failure.error counted.loadEngineTraces)
  else counted

def fail (setup : Setup) (state : EngineRebalancer) (failure : Failure) : EngineRebalancer :=
  (rollback state (state.partway failure.sessionId failure.commit failure.written)
    failure.sessionId).recordFailure setup failure

variable {state : EngineRebalancer} {sessionId : String} {commit : Commit}

theorem set_same {κ ν : Type} [DecidableEq κ] {dict : OrderedDict κ ν} {key : κ} {value : ν}
    (found : dict.get? key = some value) : dict.set key value = dict := by
  apply ext_entries
  have same := map_entries_set id found rfl
  rwa [map_id, map_id] at same

theorem sessionOf_known {session : SessionRoutingState}
    (known : state.sessions.get? sessionId = some session) :
    state.sessionOf sessionId = session := by
  rw [sessionOf, known, Option.getD_some]

theorem sessionWrites_run :
    (state.sessionWrites sessionId commit).foldl (fun written write => write written) state =
      { state with
        sessions := state.sessions.set sessionId (state.keptSession sessionId commit) } := by
  simp only [sessionWrites, foldl_cons, foldl_nil]
  by_cases same : state.keptSession sessionId commit = state.sessionOf sessionId
  · rw [if_pos same, same]
    split
    · rfl
    · next known =>
        obtain ⟨session, found⟩ := Option.ne_none_iff_exists'.mp known
        rw [sessionOf_known found, set_same found]
  · rw [if_neg same]
    split
    · simp only [OrderedDict.set_set]
    · rfl

theorem commitOf_writes :
    ∃ trace, (state.commitOf setup sessionId commit).2 =
      ((state.writes sessionId commit).foldl (fun written write => write written)
        state).recordTrace setup trace := by
  rw [writes, append_assoc, foldl_append, sessionWrites_run]
  unfold commitOf commitStep reserve reserveWrites
  cases commit.target with
  | none => exact ⟨_, rfl⟩
  | some target => exact ⟨_, rfl⟩

structure Written (state : EngineRebalancer) (sessionId : String) (partway : EngineRebalancer) :
    Prop where
  sessions : partway.sessions = state.sessions ∨
    ∃ session, partway.sessions = state.sessions.set sessionId session
  reservations : partway.reservations = state.reservations ∨
    ∃ entry, partway.reservations = state.reservations.set state.nextReservationId entry
  rest : partway =
    { state with
      sessions := partway.sessions
      reservations := partway.reservations
      nextReservationId := partway.nextReservationId
      scoringRevision := partway.scoringRevision
      nextLoadDecisionId := partway.nextLoadDecisionId }

variable {partway : EngineRebalancer}

section

variable (written : Written state sessionId partway)
include written

theorem Written.setSession (session : SessionRoutingState) : Written state sessionId
      { partway with sessions := partway.sessions.set sessionId session } :=
  { sessions := by
      rcases written.sessions with same | ⟨other, same⟩
      · exact .inr ⟨session, by rw [same]⟩
      · exact .inr ⟨session, by rw [same, OrderedDict.set_set]⟩
    reservations := written.reservations
    rest := by rw [written.rest] }

theorem Written.setReservation (entry : ReservationEntry) :
    Written state sessionId
      { partway with
        reservations := partway.reservations.set state.nextReservationId entry } :=
  { sessions := written.sessions
    reservations := by
      rcases written.reservations with same | ⟨other, same⟩
      · exact .inr ⟨entry, by rw [same]⟩
      · exact .inr ⟨entry, by rw [same, OrderedDict.set_set]⟩
    rest := by rw [written.rest] }

theorem Written.write {write : EngineRebalancer → EngineRebalancer}
    (member : write ∈ state.writes sessionId commit) :
    Written state sessionId (write partway) := by
  rcases mem_append.mp member with member | inLast
  · rcases mem_append.mp member with inSession | inReserve
    · simp only [sessionWrites, mem_cons, not_mem_nil, or_false] at inSession
      rcases inSession with rfl | rfl
      · dsimp only
        split
        · exact written.setSession _
        · exact written
      · dsimp only
        split
        · exact written
        · exact written.setSession _
    · unfold reserveWrites at inReserve
      split at inReserve
      · cases inReserve
      · simp only [mem_cons, not_mem_nil, or_false] at inReserve
        rcases inReserve with rfl | rfl | rfl
        · exact { written with rest := by rw [written.rest] }
        · exact { written with rest := by rw [written.rest] }
        · exact written.setReservation _
  · rw [mem_singleton.mp inLast]
    exact { written with rest := by rw [written.rest] }

end

theorem partway_written (count : Nat) :
    Written state sessionId (state.partway sessionId commit count) := by
  have general : ∀ (some : List (EngineRebalancer → EngineRebalancer)) (start : EngineRebalancer),
      (∀ write ∈ some, write ∈ state.writes sessionId commit) → Written state sessionId start →
        Written state sessionId (some.foldl (fun written write => write written) start) := by
    intro some
    induction some with
    | nil => exact fun _ _ written => written
    | cons write rest ih =>
      intro start known written
      exact ih _ (fun other member => known other (mem_cons_of_mem _ member))
        (written.write (known write mem_cons_self))
  exact general _ state (fun write => mem_of_mem_take)
    { sessions := .inl rfl
      reservations := .inl rfl
      rest := rfl }

def IdsBounded (state : EngineRebalancer) : Prop :=
  ∀ id entry, state.reservations.get? id = some entry → id < state.nextReservationId

theorem rollback_written (bounded : IdsBounded state) (written : Written state sessionId partway) :
    rollback state partway sessionId = state := by
  have older : ∀ id ∈ state.reservations.keys, ¬ state.nextReservationId ≤ id := by
    intro id member
    obtain ⟨entry, found⟩ := (mem_keys_iff _ id).mp member
    exact Nat.not_le.mpr (bounded id entry found)
  have reservations : partway.reservations.popAll
      (partway.reservations.keys.filter fun id => state.nextReservationId ≤ id) =
        state.reservations := by
    rcases written.reservations with same | ⟨entry, same⟩
    · rw [same, filter_eq_nil_iff.mpr (by simpa using older)]
      rfl
    · have absent : state.nextReservationId ∉ state.reservations.keys :=
        fun member => older _ member (Nat.le_refl _)
      have keys : (state.reservations.set state.nextReservationId entry).keys =
          state.reservations.keys ++ [state.nextReservationId] := by
        rw [OrderedDict.keys, entries_set_new absent, map_append]
        rfl
      rw [same, keys, filter_append, filter_eq_nil_iff.mpr (by simpa using older)]
      simp only [nil_append, filter_cons, Nat.le_refl, decide_true, if_true,
        filter_nil, OrderedDict.popAll, foldl_cons, foldl_nil, pop_set]
      apply pop_of_get?_eq_none
      rw [Option.eq_none_iff_forall_ne_some]
      exact fun value found => absent ((mem_keys_iff _ _).mpr ⟨value, found⟩)
  have sessions : (match state.sessions.get? sessionId with
      | none => partway.sessions.pop sessionId
      | some session => partway.sessions.set sessionId session) = state.sessions := by
    cases known : state.sessions.get? sessionId with
    | none =>
      rcases written.sessions with same | ⟨session, same⟩
      · rw [same]
        exact pop_of_get?_eq_none known
      · rw [same]
        exact (pop_set _ _ _).trans (pop_of_get?_eq_none known)
    | some before =>
      rcases written.sessions with same | ⟨session, same⟩
      · rw [same]
        exact set_same known
      · rw [same]
        exact (OrderedDict.set_set _ _ _ _).trans (set_same known)
  unfold rollback
  rw [reservations, sessions, written.rest]

theorem fail_eq (bounded : IdsBounded state) (failure : Failure) :
    state.fail setup failure = state.recordFailure setup failure := by
  rw [fail, rollback_written bounded (partway_written _)]

end EngineRebalancer

open EngineRebalancer

inductive SchedulingEvent where
  | locked (action : Action)
  | failed (failure : Failure)

/-- The rebalancer, with the ids and revisions of all leases it has granted. -/
structure Scheduling where
  rebalancer : EngineRebalancer
  granted : List (Nat × Nat)

def grantsOf : Except SchedulingError RoutingLease × EngineRebalancer → List (Nat × Nat)
  | (.ok lease, next) => lease.reservationId.toList.map fun id => (id, next.scoringRevision)
  | (.error _, _) => []

def grantedBy (setup : Setup) (state : EngineRebalancer) : Action → List (Nat × Nat)
  | .acquire now sessionId inputIds expectedVersion requireRegisteredContext =>
    grantsOf (state.acquire setup now sessionId inputIds expectedVersion requireRegisteredContext)
  | _ => []

def Scheduling.step (setup : Setup) (scheduling : Scheduling) : SchedulingEvent → Scheduling
  | .locked action =>
    { rebalancer := scheduling.rebalancer.step setup action
      granted := scheduling.granted ++ grantedBy setup scheduling.rebalancer action }
  | .failed failure =>
    { scheduling with rebalancer := scheduling.rebalancer.fail setup failure }

def Scheduling.initial : Scheduling :=
  { rebalancer := EngineRebalancer.initial
    granted := [] }

def Scheduling.after (setup : Setup) (events : List SchedulingEvent) : Scheduling :=
  Runs.run (Scheduling.step setup) Scheduling.initial events

/-- No two leases share an id or a revision, the counters are past all of them, and the
table holds nothing but them. -/
structure Unique (scheduling : Scheduling) : Prop where
  ids : (scheduling.granted.map Prod.fst).Nodup
  revisions : (scheduling.granted.map Prod.snd).Nodup
  bounded : ∀ grant ∈ scheduling.granted, grant.1 < scheduling.rebalancer.nextReservationId ∧
    grant.2 ≤ scheduling.rebalancer.scoringRevision
  reserved : ∀ id entry, scheduling.rebalancer.reservations.get? id = some entry →
    (id, entry.scoringRevision) ∈ scheduling.granted

structure Keeps (before next : EngineRebalancer) : Prop where
  nextReservationId : next.nextReservationId = before.nextReservationId
  scoringRevision : next.scoringRevision = before.scoringRevision
  reservations : ∀ id entry, next.reservations.get? id = some entry →
    ∃ old, before.reservations.get? id = some old ∧ old.scoringRevision = entry.scoringRevision

variable {setup : Setup} {scheduling : Scheduling}

variable {next : EngineRebalancer}

theorem Keeps.of_same {before : EngineRebalancer} (same : SameScoring before next) :
    Keeps before next :=
  { nextReservationId := same.nextReservationId
    scoringRevision := same.scoringRevision
    reservations := fun _ entry found => ⟨entry, same.reservations ▸ found, rfl⟩ }

theorem Unique.keeps (unique : Unique scheduling) (keeps : Keeps scheduling.rebalancer next) :
    Unique { scheduling with rebalancer := next } :=
  { ids := unique.ids
    revisions := unique.revisions
    bounded := by
      rw [keeps.nextReservationId, keeps.scoringRevision]
      exact unique.bounded
    reserved := by
      intro id entry found
      obtain ⟨old, before, same⟩ := keeps.reservations id entry found
      rw [← same]
      exact unique.reserved id old before }

theorem Keeps.release {state : EngineRebalancer} (released : Option Nat) :
    Keeps state (state.releaseReservation released) := by
  cases released with
  | none => exact .of_same (SameScoring.refl state)
  | some id =>
    refine ⟨rfl, rfl, ?_⟩
    intro other entry found
    simp only [releaseReservation, get?_pop] at found
    split at found
    · cases found
    · exact ⟨entry, found, rfl⟩

theorem Keeps.trans {first second third : EngineRebalancer} (left : Keeps first second)
    (right : Keeps second third) : Keeps first third :=
  { nextReservationId := right.nextReservationId.trans left.nextReservationId
    scoringRevision := right.scoringRevision.trans left.scoringRevision
    reservations := by
      intro id entry found
      obtain ⟨middle, inSecond, same⟩ := right.reservations id entry found
      obtain ⟨old, inFirst, before⟩ := left.reservations id middle inSecond
      exact ⟨old, inFirst, before.trans same⟩ }

theorem Keeps.publish {state : EngineRebalancer} {url : String} {poll : SnapshotPoll}
    {load : EngineLoad} (publishes : Publishes state url poll load next) : Keeps state next := by
  refine ⟨publishes.nextReservationId, publishes.scoringRevision, ?_⟩
  intro id entry found
  rw [publishes.reservations, acknowledgeScoringDeltas, get?_mapValues] at found
  obtain ⟨old, before, same⟩ := Option.map_eq_some_iff.mp found
  refine ⟨old, before, ?_⟩
  rw [← same]
  split <;> rfl

theorem step_cases (state : EngineRebalancer) (action : Action) :
    (Keeps state (state.step setup action) ∧ grantedBy setup state action = []) ∨
    ∃ target queueIncrement tokenIncrement,
      SameScoring (state.withReservation target queueIncrement tokenIncrement)
        (state.step setup action) ∧
      grantedBy setup state action = [(state.nextReservationId, state.scoringRevision + 1)] := by
  cases action with
  | refresh inspected => exact .inl ⟨.of_same (refresh_same inspected), rfl⟩
  | startPoll url =>
    refine .inl ⟨?_, rfl⟩
    rcases @startPoll_cases state url with same | ⟨_, _, _, same⟩
    · rw [step, same]
      exact .of_same (SameScoring.refl state)
    · rw [step, same]
      exact ⟨rfl, rfl, fun id entry found => ⟨entry, found, rfl⟩⟩
  | finishPoll url answer now =>
    refine .inl ⟨?_, rfl⟩
    rcases @finishPoll_cases state url answer now with same | same | ⟨_, _, _, done⟩
    · exact .of_same same
    · exact ⟨same.nextReservationId, same.scoringRevision,
        fun id entry found => ⟨entry, same.reservations ▸ found, rfl⟩⟩
    · exact .publish done
  | acquire now sessionId inputIds expectedVersion requireRegisteredContext =>
    have cases := @acquire_cases setup state now sessionId inputIds expectedVersion
      requireRegisteredContext
    simp only [step, grantedBy]
    generalize state.acquire setup now sessionId inputIds expectedVersion
      requireRegisteredContext = acquired at cases ⊢
    rcases acquired with ⟨result, next⟩
    rcases cases with ⟨same, unreserved⟩ | granted
    · refine .inl ⟨.of_same same, ?_⟩
      cases result with
      | error error => rfl
      | ok lease => simp [grantsOf, (unreserved lease rfl).2]
    · obtain ⟨lease, target, queueIncrement, tokenIncrement, rfl, _, reserved, _, same⟩ :=
        granted
      refine .inr ⟨target, queueIncrement, tokenIncrement, same, ?_⟩
      have revision : next.scoringRevision = state.scoringRevision + 1 := same.scoringRevision
      simp [grantsOf, reserved, revision]
  | complete lease committedTokens success =>
    refine .inl ⟨?_, rfl⟩
    by_cases enabled : setup.config.enabled = true
    · exact (Keeps.release _).trans (.of_same (complete_same enabled lease _ _))
    · rw [step, complete_disabled (by simpa using enabled)]
      exact .of_same (SameScoring.refl state)
  | register sessionId =>
    refine .inl ⟨?_, rfl⟩
    rw [step, registerSessionContext]
    split <;> exact ⟨rfl, rfl, fun id entry found => ⟨entry, found, rfl⟩⟩
  | discard sessionId => exact .inl ⟨.of_same (.of_eq rfl rfl rfl rfl rfl rfl), rfl⟩
  | calibrate calibration => exact .inl ⟨.of_same (.of_eq rfl rfl rfl rfl rfl rfl), rfl⟩
  | close => exact .inl ⟨.of_same (.of_eq rfl rfl rfl rfl rfl rfl), rfl⟩

theorem Unique.idsBounded (unique : Unique scheduling) : IdsBounded scheduling.rebalancer :=
  fun id entry found => (unique.bounded _ (unique.reserved id entry found)).1

theorem Unique.grant (unique : Unique scheduling) {target : String}
    {queueIncrement tokenIncrement : Nat}
    (same : SameScoring (scheduling.rebalancer.withReservation target queueIncrement
      tokenIncrement) next) :
    Unique
      { rebalancer := next
        granted := scheduling.granted ++
          [(scheduling.rebalancer.nextReservationId, scheduling.rebalancer.scoringRevision + 1)] } := by
  have ids := same.nextReservationId
  have revisions := same.scoringRevision
  simp only [withReservation] at ids revisions
  refine ⟨?_, ?_, ?_, ?_⟩
  · rw [map_append, nodup_append']
    refine ⟨unique.ids, by simp, ?_⟩
    intro id old new
    obtain ⟨grant, member, rfl⟩ := mem_map.mp old
    have below := (unique.bounded grant member).1
    simp only [map_cons, map_nil, mem_singleton] at new
    omega
  · rw [map_append, nodup_append']
    refine ⟨unique.revisions, by simp, ?_⟩
    intro revision old new
    obtain ⟨grant, member, rfl⟩ := mem_map.mp old
    have below := (unique.bounded grant member).2
    simp only [map_cons, map_nil, mem_singleton] at new
    omega
  · intro grant member
    dsimp only
    rcases mem_append.mp member with old | new
    · have below := unique.bounded grant old
      omega
    · rw [mem_singleton.mp new]
      omega
  · intro id entry found
    rw [same.reservations, withReservation, get?_set] at found
    split at found
    · next isNext =>
        cases found
        rw [isNext]
        simp
    · exact mem_append_left _ (unique.reserved id entry found)

theorem recordFailure_eq (state : EngineRebalancer) (failure : Failure) :
    state.recordFailure setup failure =
      { state with
        nextLoadDecisionId := state.nextLoadDecisionId + 1
        loadDecisionHistory := (state.recordFailure setup failure).loadDecisionHistory } := by
  unfold recordFailure recordTrace
  split <;> rfl

theorem step_unique (unique : Unique scheduling) (event : SchedulingEvent) :
    Unique (scheduling.step setup event) := by
  cases event with
  | locked action =>
    rcases step_cases scheduling.rebalancer action with ⟨keeps, ungranted⟩ | granted
    · rw [Scheduling.step, ungranted, append_nil]
      exact unique.keeps keeps
    · obtain ⟨target, queueIncrement, tokenIncrement, same, isGranted⟩ := granted
      rw [Scheduling.step, isGranted]
      exact unique.grant same
  | failed failure =>
    apply unique.keeps
    rw [fail_eq unique.idsBounded, recordFailure_eq]
    exact .of_same (.of_eq rfl rfl rfl rfl rfl rfl)

theorem after_unique (events : List SchedulingEvent) : Unique (Scheduling.after setup events) := by
  have initially : Unique Scheduling.initial :=
    { ids := nodup_nil
      revisions := nodup_nil
      bounded := by simp [Scheduling.initial]
      reserved := fun _ _ found => by cases found }
  exact @Runs.run_preserves _ _ (Scheduling.step setup) Unique
    (fun _ event unique => step_unique unique event) _ initially events

/-- Whatever has failed before, a failed step leaves the counter of decisions one further and
at most one more entry, its own, in the history. The last two parts say that a step that ends
makes all the writes, and that one that fails by itself makes none. -/
theorem failed_scheduling_leaves_no_trace (setup : Setup) (events : List SchedulingEvent) :
    let state := (Scheduling.after setup events).rebalancer
    Unique (Scheduling.after setup events) ∧
    (∀ failure : Failure,
      state.fail setup failure =
        { state with
          nextLoadDecisionId := state.nextLoadDecisionId + 1
          loadDecisionHistory := (state.fail setup failure).loadDecisionHistory } ∧
      ∃ engines, (state.fail setup failure).loadDecisionHistory =
        if failure.traced then
          (state.recordTrace setup (.failed state.nextLoadDecisionId failure.sessionId
            failure.promptTokenCount failure.error engines)).loadDecisionHistory
        else state.loadDecisionHistory) ∧
    (∀ now sessionId inputIds expectedVersion requireRegisteredContext lease next,
      state.scheduleStep setup now sessionId inputIds expectedVersion
          requireRegisteredContext = .ok (lease, next) →
        ∃ commit trace, next = ((state.writes sessionId commit).foldl
          (fun written write => write written) state).recordTrace setup trace) ∧
    ∀ now sessionId inputIds expectedVersion requireRegisteredContext error commit,
      setup.config.enabled = true → state.stopping = false →
      state.scheduleStep setup now sessionId inputIds expectedVersion
          requireRegisteredContext = .error error →
        (state.acquire setup now sessionId inputIds expectedVersion
          requireRegisteredContext).2 = state.fail setup
            { sessionId := sessionId
              promptTokenCount := inputIds.length
              commit := commit
              written := 0
              error := error
              traced := true } := by
  intro state
  have unique : Unique (Scheduling.after setup events) := after_unique events
  refine ⟨unique, ?_, ?_, ?_⟩
  · intro failure
    rw [fail_eq unique.idsBounded]
    refine ⟨recordFailure_eq state failure, state.loadEngineTraces, ?_⟩
    unfold recordFailure
    split <;> rfl
  · intro now sessionId inputIds expectedVersion requireRegisteredContext lease next scheduled
    obtain ⟨target, targetFingerprint, kind, candidateUrls, greedy, edge, reason, same⟩ :=
      scheduleStep_commits scheduled
    let commit : Commit :=
      { target := target
        targetFingerprint := targetFingerprint
        kind := kind
        candidateUrls := candidateUrls
        greedy := greedy
        edge := edge
        fallbackReason := reason }
    obtain ⟨trace, isWritten⟩ := @commitOf_writes setup state sessionId commit
    exact ⟨commit, trace, (congrArg Prod.snd same).trans isWritten⟩
  · intro now sessionId inputIds expectedVersion requireRegisteredContext error commit enabled
      running failed
    rw [fail_eq unique.idsBounded]
    unfold acquire
    rw [if_neg (by simp [enabled]), if_neg (by simp [running]), failed]
    rfl

end Dressage.Rebalancing

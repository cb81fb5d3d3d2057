/-
What a settlement leaves of a session.

`complete` assigns the owner, the fingerprint and the tokens one after the other, and
looks the engine up in between. A refresh may have taken the engine out while the request
was in flight; the lookup then fails after the owner was assigned.
-/

import Dressage.Rebalancing.AcquireTotal

namespace Dressage.Rebalancing

open Lib

namespace EngineRebalancer

variable {setup : Setup} {state : EngineRebalancer} {lease : RoutingLease}

/-- The session is as it was, or entirely that of the settled lease. -/
def SettledWhole (state : EngineRebalancer) (lease : RoutingLease) (committedTokens : List Nat)
    (final : EngineRebalancer) : Prop :=
  final.sessions.get? lease.decision.sessionId = state.sessions.get? lease.decision.sessionId ∨
  ∃ owner deployment, lease.workerUrl = some owner ∧
    state.deployments.get? owner = some deployment ∧
    final.sessions.get? lease.decision.sessionId =
      some
        { ownerWorkerUrl := some owner
          fingerprint := some deployment.cacheFingerprint
          previousCommittedTokens := committedTokens }

def EngineGone (state : EngineRebalancer) (lease : RoutingLease) : Prop :=
  ∃ owner session, lease.workerUrl = some owner ∧
    state.sessions.get? lease.decision.sessionId = some session ∧
    state.deployments.get? owner = none ∧ session.ownerWorkerUrl ≠ some owner

theorem releaseReservation_sessions (reservationId : Option Nat) :
    (state.releaseReservation reservationId).sessions = state.sessions := by
  cases reservationId <;> rfl

theorem releaseReservation_deployments (reservationId : Option Nat) :
    (state.releaseReservation reservationId).deployments = state.deployments := by
  cases reservationId <;> rfl

theorem complete_session_cases (enabled : setup.config.enabled = true) (state : EngineRebalancer)
    (lease : RoutingLease) (committedTokens : List Nat) (success : Bool) :
    (¬ (success = true ∧ ∃ owner session, lease.workerUrl = some owner ∧
        state.sessions.get? lease.decision.sessionId = some session) ∧
      (state.complete setup lease committedTokens success).2.sessions = state.sessions) ∨
    (∃ owner session, success = true ∧ lease.workerUrl = some owner ∧
      state.sessions.get? lease.decision.sessionId = some session ∧
      state.deployments.get? owner = none ∧
      (state.complete setup lease committedTokens success).2.sessions.get?
        lease.decision.sessionId = some { session with ownerWorkerUrl := some owner }) ∨
    (∃ owner deployment, lease.workerUrl = some owner ∧
      state.deployments.get? owner = some deployment ∧
      (state.complete setup lease committedTokens success).2.sessions.get?
          lease.decision.sessionId =
        some
          { ownerWorkerUrl := some owner
            fingerprint := some deployment.cacheFingerprint
            previousCommittedTokens := committedTokens }) := by
  unfold complete
  simp only [enabled, not_true_eq_false, if_false, releaseReservation_sessions,
    releaseReservation_deployments]
  cases worker : lease.workerUrl with
  | none =>
    refine .inl ⟨?_, releaseReservation_sessions _⟩
    rintro ⟨_, owner, _, impossible, _⟩
    cases impossible
  | some owner =>
    cases found : state.sessions.get? lease.decision.sessionId with
    | none =>
      refine .inl ⟨?_, releaseReservation_sessions _⟩
      rintro ⟨_, _, session, _, impossible⟩
      cases impossible
    | some session =>
      cases success with
      | false =>
        refine .inl ⟨?_, releaseReservation_sessions _⟩
        rintro ⟨impossible, _⟩
        cases impossible
      | true =>
        cases known : state.deployments.get? owner with
        | none =>
          refine .inr (.inl ⟨owner, session, rfl, rfl, rfl, known, ?_⟩)
          simp only [known, not_true_eq_false, if_false]
          exact OrderedDict.get?_set_self state.sessions _ _
        | some deployment =>
          refine .inr (.inr ⟨owner, deployment, rfl, known, ?_⟩)
          simp only [known, not_true_eq_false, if_false]
          exact OrderedDict.get?_set_self state.sessions _ _

theorem complete_other_session {other : String} (different : other ≠ lease.decision.sessionId)
    (committedTokens : List Nat) (success : Bool) :
    (state.complete setup lease committedTokens success).2.sessions.get? other =
      state.sessions.get? other := by
  unfold complete
  dsimp only
  split
  · rfl
  · split
    · split
      · rw [releaseReservation_sessions]
      · split
        · rw [releaseReservation_sessions]
          exact OrderedDict.get?_set_of_ne _ _ different
        · rw [releaseReservation_sessions]
          exact OrderedDict.get?_set_of_ne _ _ different
    · rw [releaseReservation_sessions]

namespace OldEngine

def actions : List Action :=
  SplitUpdate.actions.take 7 ++
    [.refresh
      [("http://a", some { SplitUpdate.workerReport "1" with sglangVersion := "0.5.14" }),
        ("http://b", none)]]

end OldEngine

/-- In every reachable state, a settlement is whole exactly when it does not settle, with
success, a lease whose engine is gone. -/
theorem settlement_whole_iff (setup : Setup) (actions : List Action) (lease : RoutingLease)
    (committedTokens : List Nat) (success : Bool) :
    (SettledWhole (after setup actions) lease committedTokens
        ((after setup actions).complete setup lease committedTokens success).2 ∧
      ∀ other, other ≠ lease.decision.sessionId →
        ((after setup actions).complete setup lease committedTokens success).2.sessions.get?
          other = (after setup actions).sessions.get? other) ↔
      ¬ (setup.config.enabled = true ∧ success = true ∧
        EngineGone (after setup actions) lease) := by
  generalize after setup actions = state
  constructor
  · rintro ⟨whole, _⟩ ⟨enabled, succeeded, owner, session, worker, found, gone, other⟩
    rcases complete_session_cases enabled state lease committedTokens success with
      ⟨nothing, _⟩ | ⟨_, _, _, isWorker, isFound, _, mixed⟩ | ⟨_, deployment, isWorker, known, _⟩
    · exact nothing ⟨succeeded, owner, session, worker, found⟩
    · rw [worker, Option.some_inj] at isWorker
      rw [found, Option.some_inj] at isFound
      subst isWorker isFound
      rcases whole with unchanged | ⟨_, deployment, isWorker, known, _⟩
      · rw [mixed, found, Option.some_inj] at unchanged
        exact other (congrArg SessionRoutingState.ownerWorkerUrl unchanged).symm
      · rw [worker, Option.some_inj] at isWorker
        rw [← isWorker, gone] at known
        cases known
    · rw [worker, Option.some_inj] at isWorker
      rw [← isWorker, gone] at known
      cases known
  · intro present
    refine ⟨?_, fun other different => complete_other_session different committedTokens success⟩
    by_cases enabled : setup.config.enabled = true
    · rcases complete_session_cases enabled state lease committedTokens success with
        ⟨_, unchanged⟩ | ⟨owner, session, succeeded, worker, found, gone, mixed⟩ | settled
      · exact .inl (by rw [unchanged])
      · refine .inl ?_
        have same : session.ownerWorkerUrl = some owner := by
          by_contra other
          exact present ⟨enabled, succeeded, owner, session, worker, found, gone, other⟩
        rw [mixed, found, ← same]
      · obtain ⟨owner, deployment, worker, known, final⟩ := settled
        exact .inr ⟨owner, deployment, worker, known, final⟩
    · have nothing : state.complete setup lease committedTokens success = (.ok (), state) :=
        if_pos enabled
      exact .inl (by rw [nothing])

theorem settlement_mixed_after_refresh :
    ¬ SettledWhole (after SplitUpdate.pairSetup OldEngine.actions) SplitUpdate.firstLease
      [11, 12, 13]
      ((after SplitUpdate.pairSetup OldEngine.actions).complete SplitUpdate.pairSetup
        SplitUpdate.firstLease [11, 12, 13] true).2 := by
  have gone : (after SplitUpdate.pairSetup OldEngine.actions).deployments.get? "http://a" =
    none := by decide +kernel
  rintro (unchanged | ⟨owner, deployment, worker, known, _⟩)
  · exact absurd unchanged (by decide +kernel)
  · cases worker
    rw [gone] at known
    cases known

end EngineRebalancer

end Dressage.Rebalancing

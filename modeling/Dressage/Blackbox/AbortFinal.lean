/-
What an abort leaves behind.

An aborted session has no open record, so nothing is left to start or to commit.
Admission is the one way in: it tests the session before it asks the backend
whether it is healthy, and an abort that gave up on the lock may come between.
-/

import Dressage.Blackbox.LedgerHistory

namespace Dressage.Blackbox

open Lib

variable {Message : Type}

def AbortReturned (state : State Message) : Prop :=
  ∃ id mode, (id, Reply.abortAnswer mode) ∈ state.replies

/-- No submission that waits for the backend is let through once the session is aborted. -/
def SafeAdmission (state : State Message) (action : Action Message) : Prop :=
  state.session.state = .aborted → ¬ AdmitsTurn state action

def TurnStatus.advances : TurnStatus → Bool
  | .queued => true
  | .inflight => true
  | .committed => true
  | _ => false

structure StaysAborted (before after : SessionContext Message) : Prop where
  state : after.state = .aborted
  records : ∀ turnId status, after.statusOf turnId = some status → status.advances = true →
    before.statusOf turnId = some status
  history : after.conversationHistory = before.conversationHistory
  count : after.turnCount = before.turnCount

structure Frozen (session : SessionContext Message) : Prop where
  aborted : session.state = .aborted
  inactive : ∀ turnId record, session.turnLedger.get? turnId = some record →
    record.status.isActive = false

theorem Settles.same {before after : Option (TurnRecord Message)} (settles : Settles before after)
    (inactive : ∀ record, before = some record → record.status.isActive = false) :
    after = before := by
  cases settles with
  | stays => rfl
  | settled active =>
    rw [inactive _ rfl] at active
    cases active

variable {action : Action Message} {state : State Message} {after before : SessionContext Message}

variable (config : ServerConfig Message)

theorem Frozen.after_step (frozen : Frozen state.session) (safe : ¬ AdmitsTurn state action) :
    (step config state action).session.state = .aborted ∧
      (∀ turnId, (step config state action).session.turnLedger.get? turnId =
        state.session.turnLedger.get? turnId) ∧
      SameHistory state (step config state action) := by
  have effect := ledgerStep_of_step config state action
  generalize step config state action = after at effect ⊢
  generalize callStart state action = starts at effect
  cases effect with
  | settle records same abort =>
    exact ⟨abort.mpr frozen.aborted, fun turnId => (records turnId).same (frozen.inactive turnId),
      same⟩
  | aborts settling aborted records inactive same =>
    exact ⟨aborted, fun turnId => (records turnId).same (frozen.inactive turnId), same⟩
  | admitted admitting => exact absurd admitting safe
  | start present queued =>
    have inactive := frozen.inactive _ _ present
    rw [queued] at inactive
    cases inactive
  | commit present inflight =>
    have inactive := frozen.inactive _ _ present
    rw [inflight] at inactive
    cases inactive

theorem Frozen.keep (frozen : Frozen before) (aborted : after.state = .aborted)
    (ledger : ∀ turnId, after.turnLedger.get? turnId = before.turnLedger.get? turnId) :
    Frozen after := by
  refine
    { aborted := aborted
      inactive := ?_ }
  intro turnId record found
  rw [ledger] at found
  exact frozen.inactive turnId record found

theorem StaysAborted.of_same (aborted : after.state = .aborted)
    (ledger : ∀ turnId, after.turnLedger.get? turnId = before.turnLedger.get? turnId)
    (history : after.conversationHistory = before.conversationHistory)
    (count : after.turnCount = before.turnCount) : StaysAborted before after :=
  { state := aborted
    records := by
      intro turnId status found _
      rw [SessionContext.statusOf, ledger] at found
      exact found
    history := history
    count := count }

theorem StaysAborted.trans {middle : SessionContext Message} (first : StaysAborted before middle)
    (second : StaysAborted middle after) :
    StaysAborted before after :=
  { state := second.state
    records := fun turnId status found advances =>
      first.records turnId status (second.records turnId status found advances) advances
    history := second.history.trans first.history
    count := second.count.trans first.count }

theorem aborted_step (action : Action Message) (aborted : state.session.state = .aborted) :
    (step config state action).session.state = .aborted := by
  have effect := ledgerStep_of_step config state action
  generalize step config state action = after at effect ⊢
  generalize callStart state action = starts at effect
  cases effect with
  | aborts settling now => exact now
  | settle records same abort => exact abort.mpr aborted
  | admitted admitting checking queued ledger same abort => exact abort.mpr aborted
  | start present queued inflight ledger same abort => exact abort.mpr aborted
  | commit present inflight status answered ledger history count abort =>
    exact abort.mpr aborted

theorem abortReturned_of_settles {config : ServerConfig Message}
    (settles : SettlesAbort state action) :
    AbortReturned (step config state action) := by
  obtain ⟨id, cleared, rfl, aborts⟩ := settles
  unfold State.settlesAbort at aborts
  split at aborts
  · next acquired present =>
      refine ⟨id, "best_effort", ?_⟩
      simp [step, State.abortReturned, present, State.answer]
  · cases aborts

theorem frozen_of_newly_aborted (live : state.session.state ≠ .aborted)
    (now : (step config state action).session.state = .aborted) :
    SettlesAbort state action ∧ Frozen (step config state action).session := by
  have effect := ledgerStep_of_step config state action
  generalize step config state action = after at effect now ⊢
  generalize callStart state action = starts at effect
  cases effect with
  | aborts settling aborted records inactive =>
    exact ⟨settling,
      { aborted := aborted
        inactive := inactive }⟩
  | settle records same abort | admitted admitting checking queued ledger same abort
  | start present queued inflight ledger same abort => exact absurd (abort.mp now) live
  | commit present inflight status answered ledger history count abort =>
    exact absurd (abort.mp now) live

def AbortsAnswered (state : State Message) : Prop :=
  AbortReturned state ↔ state.session.state = .aborted

theorem AbortsAnswered.after_step (answered : AbortsAnswered state) (action : Action Message) :
    AbortsAnswered (step config state action) := by
  have requests := requestStep_of_step config state action
  by_cases aborted : state.session.state = .aborted
  · obtain ⟨id, mode, member⟩ := answered.mpr aborted
    exact iff_of_true ⟨id, mode, requests.kept _ member⟩ (aborted_step config action aborted)
  · constructor
    · rintro ⟨id, mode, member⟩
      rcases requests.aborts id mode member with earlier | now
      · exact absurd (answered.mp ⟨id, mode, earlier⟩) aborted
      · exact now
    · intro now
      exact abortReturned_of_settles (frozen_of_newly_aborted config aborted now).1

theorem abortsAnswered_run (prompt : Option Message) (actions : List (Action Message)) :
    AbortsAnswered (Runs.run (step config) (State.registered prompt) actions) := by
  refine Runs.run_preserves (fun _ action answered => answered.after_step config action) ?_ actions
  constructor
  · rintro ⟨id, mode, member⟩
    cases member
  · intro aborted
    cases aborted

def AbortsFreeze (state : State Message) : Prop :=
  state.session.state = .aborted → Frozen state.session

theorem AbortsFreeze.after_step (freezes : AbortsFreeze state) (safe : SafeAdmission state action) :
    AbortsFreeze (step config state action) := by
  intro now
  by_cases aborted : state.session.state = .aborted
  · obtain ⟨-, ledger, -⟩ := (freezes aborted).after_step config (safe aborted)
    exact (freezes aborted).keep now ledger
  · exact (frozen_of_newly_aborted config aborted now).2

theorem abortsFreeze_run (prompt : Option Message) {actions : List (Action Message)}
    (admitted : Runs.Admits (step config) SafeAdmission (State.registered prompt) actions) :
    AbortsFreeze (Runs.run (step config) (State.registered prompt) actions) := by
  refine Runs.run_invariant (fun _ _ freezes safe => freezes.after_step config safe) ?_ admitted
  intro aborted
  cases aborted

theorem coherent_run (prompt : Option Message) (actions : List (Action Message)) :
    Coherent False (Runs.run (step config) (State.registered prompt) actions) :=
  (LedgerKept.run config prompt (LedgerKept.registered config prompt) actions).coherent

theorem Frozen.run {actions : List (Action Message)} (frozen : Frozen state.session)
    (admitted : Runs.Admits (step config) SafeAdmission state actions) :
    StaysAborted state.session (Runs.run (step config) state actions).session := by
  induction actions generalizing state with
  | nil => exact .of_same frozen.aborted (fun _ => rfl) rfl rfl
  | cons action rest ih =>
    obtain ⟨aborted, ledger, same⟩ := frozen.after_step config (admitted.1 frozen.aborted)
    have first : StaysAborted state.session (step config state action).session :=
      .of_same aborted ledger same.history same.count
    exact first.trans (ih (frozen.keep aborted ledger) admitted.2)

theorem not_staysAborted_of_admits {config : ServerConfig Message} (coherent : Coherent False state)
    (admits : AdmitsTurn state action) :
    ¬ StaysAborted state.session (step config state action).session := by
  intro stays
  obtain ⟨id, rfl, checks⟩ := admits
  unfold State.checksHealth at checks
  split at checks
  · next request turnId present =>
      have absent := coherent.checking present
      have queued : (step config state (.answerHealth id true)).session.statusOf turnId =
          some .queued := by
        simp [step, State.answerHealth, present, SessionContext.statusOf, State.createTurn,
          State.setRecord, State.setTask, State.release, State.answer]
      have earlier := stays.records turnId .queued queued rfl
      rw [SessionContext.statusOf, absent] at earlier
      cases earlier
  · cases checks

/-- In every run the aborts that returned are final exactly if no submission that waits for the
backend is let through into an aborted session. -/
theorem aborts_final_iff_safe_admission (config : ServerConfig Message) (prompt : Option Message)
    (actions : List (Action Message)) :
    (∀ past later, past ++ later <+: actions →
      AbortReturned (Runs.run (step config) (State.registered prompt) past) →
      StaysAborted (Runs.run (step config) (State.registered prompt) past).session
        (Runs.run (step config) (State.registered prompt) (past ++ later)).session) ↔
      Runs.Admits (step config) SafeAdmission (State.registered prompt) actions := by
  constructor
  · intro final
    apply Runs.admits_of_prefixes
    intro past action early aborted admits
    have returned := (abortsAnswered_run config prompt past).mpr aborted
    have stays := final past [action] early returned
    rw [Runs.run_snoc] at stays
    exact not_staysAborted_of_admits (coherent_run config prompt past) admits stays
  · intro admitted past later early returned
    obtain ⟨rest, split⟩ := early
    rw [← split, List.append_assoc, Runs.admits_append, Runs.admits_append] at admitted
    have frozen := abortsFreeze_run config prompt admitted.1
      ((abortsAnswered_run config prompt past).mp returned)
    rw [Runs.run_append]
    exact frozen.run config admitted.2.1

/-- The forced abort comes while the submission waits for the health check, and the turn is
admitted and committed after the abort returned. -/
def admittedAfterAbort : List (Action String) :=
  [.arriveSubmit
      { turnId := some "turn"
        messages := ["hello"] },
    .passPause 0, .enterSubmit 0 "", .arriveAbort, .enterAbort 1 false, .abortReturned 1 false,
    .answerHealth 0 true, .resumeTurn "turn", .openScope "turn",
    .endCall "turn" (.returned
      { outputs := ["answer"]
        backendSessionId := "backend" }),
    .resumeTurn "turn"]

theorem aborted_session_commits :
    ∃ past later, past ++ later = admittedAfterAbort ∧
      AbortReturned (Runs.run (step plainConfig) (State.registered none) past) ∧
      (Runs.run (step plainConfig) (State.registered none) past).session.turnCount = 0 ∧
      (Runs.run (step plainConfig) (State.registered none) (past ++ later)).session.turnCount = 1 ∧
      ¬ StaysAborted (Runs.run (step plainConfig) (State.registered none) past).session
        (Runs.run (step plainConfig) (State.registered none) (past ++ later)).session := by
  refine ⟨admittedAfterAbort.take 6, admittedAfterAbort.drop 6, List.take_append_drop _ _, ?_⟩
  have none_before : (Runs.run (step plainConfig) (State.registered none)
      (admittedAfterAbort.take 6)).session.turnCount = 0 := by
    decide +kernel
  have one_after : (Runs.run (step plainConfig) (State.registered none)
      (admittedAfterAbort.take 6 ++ admittedAfterAbort.drop 6)).session.turnCount = 1 := by
    decide +kernel
  refine ⟨⟨1, "best_effort", ?_⟩, none_before, one_after, ?_⟩
  · decide +kernel
  · intro stays
    have same := stays.count
    rw [none_before, one_after] at same
    cases same

end Dressage.Blackbox

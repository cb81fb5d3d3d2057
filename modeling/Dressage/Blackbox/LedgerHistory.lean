/-
The session's ledger and its conversation history.

Only a commit writes the history and the count. At most one turn has a claim on the session, so
whoever commits was admitted below the turn limit, and nobody else was admitted since.
-/

import Dressage.Blackbox.TurnSettlement

namespace Dressage.Blackbox

open Lib List OrderedDict Option State

variable {Message : Type}

/-- A freshly registered server, with the system message its configuration injects. -/
def State.registered (prompt : Option Message) : State Message :=
  { initial with
    session :=
      { SessionContext.new with
        conversationHistory := prompt.toList } }

def TurnRecord.exchange (record : TurnRecord Message) : List Message :=
  match record.response with
  | none => record.requestMessages
  | some response => record.requestMessages ++ response.outputs

def SessionContext.exchange (session : SessionContext Message) (turnId : TurnId) : List Message :=
  match session.turnLedger.get? turnId with
  | none => []
  | some record => record.exchange

def SessionContext.committedTurns (session : SessionContext Message) : List TurnId :=
  (session.turnLedger.entries.filter (fun entry => decide (entry.2.status = .committed))).map
    Prod.fst

def newlyCommitted (before after : SessionContext Message) : List TurnId :=
  after.committedTurns.filter (fun turnId => decide (turnId ∉ before.committedTurns))

def commitOrder (config : ServerConfig Message) (state : State Message) :
    List (Action Message) → List TurnId
  | [] => []
  | action :: rest =>
    newlyCommitted state.session (step config state action).session ++
      commitOrder config (step config state action) rest

def SessionContext.statusOf (session : SessionContext Message) (turnId : TurnId) :
    Option TurnStatus :=
  (session.turnLedger.get? turnId).map TurnRecord.status

def callStart (state : State Message) : Action Message → Option TurnId
  | .resumeTurn turnId =>
    if state.startsCall turnId = true ∧ state.session.statusOf turnId = some .queued then
      some turnId
    else none
  | _ => none

def callsStarted (config : ServerConfig Message) (state : State Message) :
    List (Action Message) → List TurnId
  | [] => []
  | action :: rest =>
    (callStart state action).toList ++ callsStarted config (step config state action) rest

def State.checksHealth (state : State Message) (id : RequestId) : Bool :=
  match state.requests.get? id with
  | some (.submit _ (.checking _)) => true
  | _ => false

def AdmitsTurn (state : State Message) (action : Action Message) : Prop :=
  ∃ id, action = .answerHealth id true ∧ state.checksHealth id = true

def SettlesAbort (state : State Message) (action : Action Message) : Prop :=
  ∃ id cleared, action = .abortReturned id cleared ∧ state.settlesAbort id = true

inductive Settles : Option (TurnRecord Message) → Option (TurnRecord Message) → Prop
  | stays (record : Option (TurnRecord Message)) : Settles record record
  | settled {before after : TurnRecord Message} (active : before.status.isActive = true)
    (inactive : after.status.isActive = false) (uncommitted : after.status ≠ .committed) :
    Settles (some before) (some after)

def SameAbort (before after : State Message) : Prop :=
  after.session.state = .aborted ↔ before.session.state = .aborted

structure SameHistory (before after : State Message) : Prop where
  history : after.session.conversationHistory = before.session.conversationHistory
  count : after.session.turnCount = before.session.turnCount

/-- What one action does to the ledger and the calls; the index is the turn it starts. A record
is admitted and the session aborted only if the action is one that does. -/
inductive LedgerStep (admits settles : Prop) (before after : State Message) :
    Option TurnId → Prop
  | settle (records : ∀ turnId, Settles (before.session.turnLedger.get? turnId)
      (after.session.turnLedger.get? turnId))
    (same : SameHistory before after) (abort : SameAbort before after)
    (calls : after.calls.keys = before.calls.keys) :
    LedgerStep admits settles before after none
  | aborts (settling : settles) (state : after.session.state = .aborted)
    (records : ∀ turnId, Settles (before.session.turnLedger.get? turnId)
      (after.session.turnLedger.get? turnId))
    (inactive : ∀ turnId record, after.session.turnLedger.get? turnId = some record →
      record.status.isActive = false)
    (same : SameHistory before after) (calls : after.calls.keys = before.calls.keys) :
    LedgerStep admits settles before after none
  | admitted {id : RequestId} {request : MessageRequest Message} {turnId : TurnId}
    {record : TurnRecord Message}
    (admitting : admits)
    (checking : before.requests.get? id = some (.submit request (.checking turnId)))
    (queued : record.status = .queued)
    (ledger : after.session.turnLedger = before.session.turnLedger.set turnId record)
    (same : SameHistory before after) (abort : SameAbort before after)
    (calls : after.calls.keys = before.calls.keys) :
    LedgerStep admits settles before after none
  | start {turnId : TurnId} {found started : TurnRecord Message} {call : BackendCall Message}
    (present : before.session.turnLedger.get? turnId = some found)
    (queued : found.status = .queued) (inflight : started.status = .inflight)
    (ledger : after.session.turnLedger = before.session.turnLedger.set turnId started)
    (same : SameHistory before after) (abort : SameAbort before after)
    (calls : after.calls = before.calls.set turnId call) :
    LedgerStep admits settles before after (some turnId)
  | commit {turnId : TurnId} {found committed : TurnRecord Message}
    {response : AdapterResponse Message}
    (present : before.session.turnLedger.get? turnId = some found)
    (inflight : found.status = .inflight) (status : committed.status = .committed)
    (answered : committed.response = some response)
    (ledger : after.session.turnLedger = before.session.turnLedger.set turnId committed)
    (history : after.session.conversationHistory =
      before.session.conversationHistory ++ committed.exchange)
    (count : after.session.turnCount = before.session.turnCount + 1)
    (abort : SameAbort before after) (calls : after.calls.keys = before.calls.keys) :
    LedgerStep admits settles before after none

namespace LedgerStep

variable {admits settles : Prop} {before middle after state : State Message} {turnId : TurnId}

theorem keepLedger (ledger : after.session.turnLedger = before.session.turnLedger)
    (same : SameHistory before after) (abort : SameAbort before after)
    (calls : after.calls.keys = before.calls.keys) :
    LedgerStep admits settles before after none := by
  refine .settle ?_ same abort calls
  intro turnId
  rw [ledger]
  exact .stays _

theorem keep (session : after.session = before.session)
    (calls : after.calls.keys = before.calls.keys) :
    LedgerStep admits settles before after none := by
  refine keepLedger (by rw [session]) ⟨by rw [session], by rw [session]⟩ ?_ calls
  rw [SameAbort, session]

theorem refl (state : State Message) : LedgerStep admits settles state state none := keep rfl rfl

theorem followed {started : Option TurnId}
    (effect : LedgerStep admits settles before middle started)
    (session : after.session = middle.session) (calls : after.calls = middle.calls) :
    LedgerStep admits settles before after started := by
  have history (kept : SameHistory before middle) : SameHistory before after :=
    { history := by rw [session, kept.history]
      count := by rw [session, kept.count] }
  have aborted (kept : SameAbort before middle) : SameAbort before after := by
    rw [SameAbort, session]
    exact kept
  cases effect with
  | settle records same abort keys =>
    refine .settle ?_ (history same) (aborted abort) (by rw [calls, keys])
    rw [session]
    exact records
  | aborts settling state records inactive same keys =>
    refine .aborts settling (by rw [session, state]) ?_ ?_ (history same) (by rw [calls, keys])
    · rw [session]
      exact records
    · rw [session]
      exact inactive
  | admitted admitting checking queued ledger same abort keys =>
    exact .admitted admitting checking queued (by rw [session, ledger]) (history same)
      (aborted abort) (by rw [calls, keys])
  | start present queued inflight ledger same abort keys =>
    exact .start present queued inflight (by rw [session, ledger]) (history same)
      (aborted abort) (calls.trans keys)
  | commit present inflight status answered ledger written count abort keys =>
    exact .commit present inflight status answered (by rw [session, ledger])
      (by rw [session, written]) (by rw [session, count]) (aborted abort) (by rw [calls, keys])

theorem preceded (effect : LedgerStep admits settles middle after none)
    (session : middle.session = before.session) (requests : middle.requests = before.requests)
    (calls : middle.calls.keys = before.calls.keys) :
    LedgerStep admits settles before after none := by
  have history (kept : SameHistory middle after) : SameHistory before after :=
    { history := by rw [kept.history, session]
      count := by rw [kept.count, session] }
  have aborted (kept : SameAbort middle after) : SameAbort before after := by
    rw [SameAbort, ← session]
    exact kept
  cases effect with
  | settle records same abort keys =>
    rw [session] at records
    exact .settle records (history same) (aborted abort) (keys.trans calls)
  | aborts settling state records inactive same keys =>
    rw [session] at records
    exact .aborts settling state records inactive (history same) (keys.trans calls)
  | admitted admitting checking queued ledger same abort keys =>
    rw [requests] at checking
    rw [session] at ledger
    exact .admitted admitting checking queued ledger (history same) (aborted abort)
      (keys.trans calls)
  | commit present inflight status answered ledger written count abort keys =>
    rw [session] at present ledger written count
    exact .commit present inflight status answered ledger written count (aborted abort)
      (keys.trans calls)

end LedgerStep

namespace State

variable (state : State Message) (turnId : TurnId)

theorem desync_history (session : SessionContext Message) :
    (desync session).conversationHistory = session.conversationHistory ∧
      (desync session).turnCount = session.turnCount := by
  unfold desync
  split <;> exact ⟨rfl, rfl⟩

theorem desync_aborted_iff (session : SessionContext Message) :
    (desync session).state = .aborted ↔ session.state = .aborted := by
  unfold desync
  split
  · exact Iff.rfl
  · next live =>
      constructor
      · intro same
        cases same
      · exact fun aborted => absurd aborted live

theorem markBackendError_session :
    state.markBackendError.session = state.session ∨
      state.markBackendError.session = desync state.session := by
  unfold markBackendError
  split
  · exact .inl rfl
  · exact .inr rfl

theorem calls_markBackendError : state.markBackendError.calls = state.calls := by
  unfold markBackendError
  split <;> rfl

theorem cancelActiveTask_keeps :
    state.cancelActiveTask.session = state.session ∧
      state.cancelActiveTask.calls = state.calls := by
  rcases cancelActiveTask_cases state with ⟨same, -⟩ | ⟨turnId, task, -, -, -, changed⟩
  · rw [same]
    exact ⟨rfl, rfl⟩
  · rw [changed]
    exact ⟨rfl, rfl⟩

end State

variable {ledger : OrderedDict TurnId (TurnRecord Message)}

variable {turnId : TurnId}

theorem settles_set {before after : TurnRecord Message} (found : ledger.get? turnId = some before)
    (active : before.status.isActive = true) (inactive : after.status.isActive = false)
    (uncommitted : after.status ≠ .committed) (other : TurnId) :
    Settles (ledger.get? other) ((ledger.set turnId after).get? other) := by
  by_cases same : other = turnId
  · subst other
    rw [get?_set_self, found]
    exact .settled active inactive uncommitted
  · rw [get?_set_of_ne _ _ same]
    exact .stays _

theorem LedgerStep.desyncs {admits settles : Prop} {before after : State Message}
    (session : after.session = before.session ∨ after.session = desync before.session)
    (calls : after.calls.keys = before.calls.keys) :
    LedgerStep admits settles before after none := by
  rcases session with same | desynced
  · exact .keep same calls
  · have history := desync_history before.session
    rw [← desynced] at history
    refine .keepLedger ?_ ⟨history.1, history.2⟩ ?_ calls
    · rw [desynced, desync_turnLedger]
    · rw [SameAbort, desynced]
      exact desync_aborted_iff before.session

section Effects

variable {config : ServerConfig Message} {admits settles : Prop} {state : State Message}
  {turnId : TurnId}

theorem ledgerStep_finalize (state : State Message) (turnId : TurnId) :
    LedgerStep admits settles state (state.finalizeInterruptedTurn turnId) none := by
  unfold finalizeInterruptedTurn
  cases found : state.session.turnLedger.get? turnId with
  | none => exact .refl state
  | some record =>
    by_cases settled : record.status.isActive = false
    · simp only [if_pos settled]
      exact .refl state
    · have active : record.status.isActive = true := by simpa using settled
      simp only [if_neg settled]
      split
      · refine .settle (fun other => ?_) ⟨(desync_history _).1, (desync_history _).2⟩
          (desync_aborted_iff _) rfl
        rw [desync_turnLedger]
        exact settles_set found active rfl (fun same => by cases same) other
      · exact .settle (settles_set found active rfl (fun same => by cases same)) ⟨rfl, rfl⟩
          Iff.rfl rfl

theorem ledgerStep_interrupt (state : State Message) (turnId : TurnId) :
    LedgerStep admits settles state (state.interrupt turnId) none := by
  unfold interrupt
  split
  · exact .keep rfl rfl
  · exact (ledgerStep_finalize state turnId).followed rfl rfl

theorem ledgerStep_settleTurn (state : State Message) (turnId : TurnId)
    (outcome : Outcome Message) :
    LedgerStep admits settles state (state.settleTurn turnId outcome) none := by
  unfold settleTurn
  cases found : state.session.turnLedger.get? turnId with
  | none => exact .keep rfl rfl
  | some record =>
    by_cases inflight : record.status = .inflight
    · simp only [ne_eq, inflight, not_true_eq_false, if_false]
      cases outcome with
      | commit response =>
        refine .commit found inflight rfl rfl rfl ?_ rfl Iff.rfl rfl
        exact append_assoc _ _ _
      | unknown error processError =>
        refine .settle (fun other => ?_)
          ⟨(desync_history _).1, (desync_history _).2⟩
          (desync_aborted_iff _) rfl
        have ledger : ((((state.unknownRecord turnId record error).acquire
          (.turn turnId)).setTask turnId (.unwinding processError)).session.turnLedger) =
          _ := desync_turnLedger _
        rw [ledger]
        refine settles_set found ?_ rfl (fun same => by cases same) other
        rw [inflight]
        rfl
    · simp only [ne_eq, inflight, not_false_eq_true, if_true]
      exact .keep rfl rfl

theorem ledgerStep_conclude (state : State Message) (turnId : TurnId)
    (outcome : Outcome Message) :
    LedgerStep admits settles state (state.conclude turnId outcome) none := by
  unfold conclude
  split
  · exact .keep rfl rfl
  · exact ledgerStep_settleTurn state turnId outcome

theorem ledgerStep_deliverCancel (state : State Message) (turnId : TurnId)
    (phase : TurnPhase Message) :
    LedgerStep admits settles state (state.deliverCancel turnId phase) none := by
  cases phase with
  | calling => exact ledgerStep_interrupt state turnId
  | expiring =>
    simp only [deliverCancel]
    split
    · exact ledgerStep_conclude state turnId _
    · exact .refl state
  | created | starting | interrupted | committing outcome | unwinding processError | ended =>
    exact .keep rfl rfl

theorem ledgerStep_startTurn (state : State Message) (turnId : TurnId) :
    LedgerStep admits settles state (state.startTurn turnId)
      (if state.session.statusOf turnId = some .queued then some turnId else none) := by
  unfold startTurn SessionContext.statusOf
  cases found : state.session.turnLedger.get? turnId with
  | none => exact .keep rfl rfl
  | some record =>
    by_cases queued : record.status = .queued
    · simp only [ne_eq, queued, not_true_eq_false, if_false, map_some, if_true]
      exact .start found queued rfl rfl ⟨rfl, rfl⟩ Iff.rfl rfl
    · simp only [ne_eq, queued, not_false_eq_true, if_true, map_some, Option.some.injEq,
        if_false]
      exact .keep rfl rfl

theorem callStart_of_starts (starts : state.startsCall turnId = true) :
    callStart state (.resumeTurn turnId) =
      if state.session.statusOf turnId = some .queued then some turnId else none := by
  simp only [callStart, starts, true_and]

theorem callStart_of_not_starts (waits : state.startsCall turnId = false) :
    callStart state (.resumeTurn turnId) = none := by
  simp [callStart, waits]

theorem keys_setCall {found : BackendCall Message} (present : state.calls.get? turnId = some found)
    (call : BackendCall Message) : (state.setCall turnId call).calls.keys = state.calls.keys :=
  map_entries_set Prod.fst present rfl

theorem ledgerStep_wakeWait (state : State Message) (turnId : TurnId) :
    LedgerStep admits settles state (state.wakeWait turnId) none := by
  unfold wakeWait cancelCall
  split
  · split
    · exact .keep rfl rfl
    · next call found =>
        exact .keep rfl (keys_setCall found _)
  · exact .refl state

theorem ledgerStep_proceed {phase : TurnPhase Message}
    (present : state.tasks.get? turnId = some ⟨phase, false⟩) :
    LedgerStep admits settles state (state.proceed turnId phase)
      (callStart state (.resumeTurn turnId)) := by
  have waits (other : state.startsCall turnId = false) {after : State Message}
      (effect : LedgerStep admits settles state after none) :
      LedgerStep admits settles state after (callStart state (.resumeTurn turnId)) := by
    rw [callStart_of_not_starts other]
    exact effect
  cases phase with
  | created =>
    simp only [proceed]
    cases taken : state.lockTaken with
    | true =>
      refine waits ?_ (.keep rfl rfl)
      simp [startsCall, present, taken]
    | false =>
      rw [callStart_of_starts (by simp [startsCall, present, taken])]
      exact ledgerStep_startTurn state turnId
  | starting =>
    simp only [proceed]
    cases lock : state.sessionLock with
    | some holder =>
      refine waits ?_ (.refl state)
      simp [startsCall, present, lock]
    | none =>
      rw [callStart_of_starts (by simp [startsCall, present, lock])]
      exact ledgerStep_startTurn state turnId
  | calling =>
    refine waits (by simp [startsCall, present]) ?_
    simp only [proceed]
    cases state.callResult turnId with
    | none => exact ledgerStep_wakeWait state turnId
    | some result =>
      dsimp only
      cases outcomeOf result with
      | none => exact ledgerStep_interrupt state turnId
      | some outcome => exact ledgerStep_conclude state turnId outcome
  | expiring =>
    refine waits (by simp [startsCall, present]) ?_
    simp only [proceed]
    split
    · exact ledgerStep_conclude state turnId _
    · exact .refl state
  | interrupted =>
    refine waits (by simp [startsCall, present]) ?_
    simp only [proceed]
    split
    · exact .refl state
    · exact (ledgerStep_finalize state turnId).followed rfl rfl
  | committing outcome =>
    refine waits (by simp [startsCall, present]) ?_
    simp only [proceed]
    split
    · exact .refl state
    · exact ledgerStep_settleTurn state turnId outcome
  | unwinding processError | ended =>
    exact waits (by simp [startsCall, present]) (.refl state)

theorem ledgerStep_resumeTurn (state : State Message) (turnId : TurnId) :
    LedgerStep admits settles state (state.resumeTurn turnId)
      (callStart state (.resumeTurn turnId)) := by
  unfold resumeTurn
  cases present : state.tasks.get? turnId with
  | none =>
    rw [callStart_of_not_starts (by simp [startsCall, present])]
    exact .refl state
  | some task =>
    rcases task with ⟨phase, cancelRequested⟩
    cases cancelRequested with
    | true =>
      rw [callStart_of_not_starts (by simp [startsCall, present])]
      exact ledgerStep_deliverCancel state turnId phase
    | false => exact ledgerStep_proceed present

theorem ledgerStep_expireTurn (state : State Message) (turnId : TurnId) (waits : Bool) :
    LedgerStep admits settles state (state.expireTurn turnId waits) none := by
  unfold expireTurn
  split
  · next call present found =>
      split
      · exact .refl state
      · dsimp only
        split
        · exact .keep rfl (keys_setCall found _)
        · exact (ledgerStep_conclude _ turnId _).preceded rfl rfl (keys_setCall found _)
  · exact .refl state

theorem ledgerStep_settleUnknown (state : State Message) (turnId : TurnId)
    (cleared healthy : Bool) :
    LedgerStep admits settles state (state.settleUnknown turnId cleared healthy) none := by
  unfold settleUnknown
  split
  · dsimp only
    split
    · have aborted := markBackendError_session
        { state with scope := if cleared then none else state.scope }
      exact .desyncs aborted (congrArg OrderedDict.keys (calls_markBackendError _))
    · exact .keep rfl rfl
  · exact .refl state

theorem ledgerStep_openScope (state : State Message) (turnId : TurnId) :
    LedgerStep admits settles state (state.openScope turnId) none := by
  unfold openScope
  cases found : state.calls.get? turnId with
  | none => exact .refl state
  | some call =>
    dsimp only
    split
    · exact .refl state
    · split
      · exact .keep rfl (keys_setCall found _)
      · split <;> exact .keep rfl (keys_setCall found _)

theorem ledgerStep_endCall (state : State Message) (turnId : TurnId)
    (result : CallResult Message) :
    LedgerStep admits settles state (state.endCall turnId result) none := by
  unfold endCall
  cases found : state.calls.get? turnId with
  | none => exact .refl state
  | some call =>
    dsimp only
    split
    · exact .refl state
    · split
      · exact .keep rfl (keys_setCall found _)
      · cases result with
        | returned response => exact .refl state
        | raised failure => exact .keep rfl (keys_setCall found _)

theorem resolveTurnId_history (session : SessionContext Message) (requestTurnId : Option TurnId)
    (uuidHex : String) :
    (resolveTurnId session requestTurnId uuidHex).2.conversationHistory =
        session.conversationHistory ∧
      (resolveTurnId session requestTurnId uuidHex).2.turnCount = session.turnCount := by
  unfold resolveTurnId
  split
  · split <;> exact ⟨rfl, rfl⟩
  · split
    · split <;> exact ⟨rfl, rfl⟩
    · exact ⟨rfl, rfl⟩
    · exact ⟨rfl, rfl⟩

/-- Admission only resolves the turn id; a new turn is admitted below the turn limit. -/
theorem admitTurn_history (config : ServerConfig Message) (session : SessionContext Message)
    (request : MessageRequest Message) (uuidHex : String) :
    (admitTurn config session request uuidHex).2.conversationHistory =
        session.conversationHistory ∧
      (admitTurn config session request uuidHex).2.turnCount = session.turnCount ∧
      ∀ turnId, (admitTurn config session request uuidHex).1 = .new turnId →
        session.turnCount < config.maxTurns := by
  have resolves := resolveTurnId_history session request.turnId uuidHex
  unfold admitTurn
  split
  · exact ⟨rfl, rfl, fun _ new => by cases new⟩
  split
  · exact ⟨rfl, rfl, fun _ new => by cases new⟩
  split
  · exact ⟨rfl, rfl, fun _ new => by cases new⟩
  · next below =>
      have room : session.turnCount < config.maxTurns := by omega
      rcases resolution : resolveTurnId session request.turnId uuidHex with ⟨_ | turnId, resolved⟩
      · rw [resolution] at resolves
        exact ⟨resolves.1, resolves.2, fun _ _ => room⟩
      · rw [resolution] at resolves
        dsimp only
        split
        · split <;> exact ⟨resolves.1, resolves.2, fun _ _ => room⟩
        · split <;> exact ⟨resolves.1, resolves.2, fun _ _ => room⟩

theorem ledgerStep_enterSubmit (config : ServerConfig Message) (state : State Message)
    (id : RequestId) (uuidHex : String) :
    LedgerStep admits settles state (state.enterSubmit config id uuidHex) none := by
  unfold enterSubmit
  split
  · next request present =>
      split
      · exact .refl state
      · have admitted := admitTurn_admitted config state.session request uuidHex
        have history := admitTurn_history config state.session request uuidHex
        have abort : (admitTurn config state.session request uuidHex).2.state = .aborted ↔
          state.session.state = .aborted := by rw [admitted.state]
        dsimp only
        split <;> exact .keepLedger admitted.ledger ⟨history.1, history.2.1⟩ abort rfl
  · exact .refl state

theorem ledgerStep_answerHealth (config : ServerConfig Message) (state : State Message)
    (id : RequestId) (healthy : Bool)
    (admitting : healthy = true → state.checksHealth id = true → admits) :
    LedgerStep admits settles state (state.answerHealth config id healthy) none := by
  unfold answerHealth
  split
  · next request turnId present =>
      split
      · next found =>
          refine .admitted (admitting found ?_) present rfl rfl ⟨rfl, rfl⟩ Iff.rfl rfl
          rw [checksHealth, present]
      · exact .desyncs (markBackendError_session state)
          (congrArg OrderedDict.keys (calls_markBackendError state))
  · exact .refl state

theorem ledgerStep_enterCancel (state : State Message) (id : RequestId) :
    LedgerStep admits settles state (state.enterCancel id) none := by
  unfold enterCancel
  split
  · next turnId present =>
      split
      · exact .refl state
      · cases found : state.session.turnLedger.get? turnId with
        | none => exact .keep rfl rfl
        | some record =>
          dsimp only
          split
          · next queued =>
              refine .settle (settles_set found ?_ rfl (fun same => by cases same))
                ⟨rfl, rfl⟩ Iff.rfl rfl
              rw [queued]
              rfl
          · have kept := cancelActiveTask_keeps state
            exact (LedgerStep.refl state).followed kept.1 kept.2
          · exact .keep rfl rfl
  · exact .refl state

theorem ledgerStep_enterAbort (state : State Message) (id : RequestId) (acquired : Bool) :
    LedgerStep admits settles state (state.enterAbort id acquired) none := by
  unfold enterAbort
  split
  · split
    · exact .refl state
    · split
      · exact .keep rfl rfl
      · have kept := cancelActiveTask_keeps state
        dsimp only
        split <;> exact (LedgerStep.refl state).followed kept.1 kept.2
  · exact .refl state

theorem ledgerStep_abortLedger (state : State Message) (settling : settles) :
    LedgerStep admits settles state state.abortLedger none := by
  refine .aborts settling rfl (fun turnId => ?_) (fun turnId record found => ?_) ⟨rfl, rfl⟩ rfl
  · rw [record_abortLedger]
    cases state.session.turnLedger.get? turnId with
    | none => exact .stays none
    | some record =>
      simp only [map_some, abortedRecord]
      split
      · next active => exact .settled active rfl (fun same => by cases same)
      · exact .stays _
  · rw [record_abortLedger] at found
    obtain ⟨earlier, -, rfl⟩ := map_eq_some_iff.mp found
    exact inactive_abortedRecord _ _

theorem ledgerStep_abortReturned (state : State Message) (id : RequestId) (cleared : Bool)
    (settling : state.settlesAbort id = true → settles) :
    LedgerStep admits settles state (state.abortReturned id cleared) none := by
  unfold abortReturned
  dsimp only
  split
  · exact .keep rfl rfl
  · next present =>
      have aborted : LedgerStep admits settles state
          (abortLedger { state with scope := if cleared then none else state.scope }) none :=
        (ledgerStep_abortLedger _ (settling (by rw [settlesAbort, present]))).preceded
          rfl rfl rfl
      split <;> exact aborted.followed rfl rfl
  · exact .refl state

theorem ledgerStep_enterCommand (state : State Message) (id : RequestId) :
    LedgerStep admits settles state (state.enterCommand id) none := by
  unfold enterCommand
  split
  · split
    · exact .refl state
    · split
      · exact .keep rfl rfl
      · split
        · exact .keep rfl rfl
        · split <;> exact .keep rfl rfl
  · exact .refl state

theorem ledgerStep_shutdownTurns (state : State Message) :
    LedgerStep admits settles state state.shutdownTurns none := by
  have kept := cancelActiveTask_keeps state
  unfold shutdownTurns
  split
  · exact (LedgerStep.refl state).followed kept.1 kept.2
  · exact .refl state

theorem ledgerStep_arriveSubmit (state : State Message)
    (request : MessageRequest Message) :
    LedgerStep admits settles state (state.arriveSubmit request) none := by
  unfold arriveSubmit
  dsimp only
  split <;> exact .keep rfl rfl

theorem ledgerStep_passPause (config : ServerConfig Message) (state : State Message)
    (id : RequestId) :
    LedgerStep admits settles state (state.passPause config id) none := by
  unfold passPause
  split
  · split
    · exact .refl state
    · split <;> exact .keep rfl rfl
  · exact .refl state

theorem ledgerStep_arriveCommand (state : State Message) :
    LedgerStep admits settles state state.arriveCommand none := by
  unfold arriveCommand
  dsimp only
  split <;> exact .keep rfl rfl

theorem ledgerStep_endCommand (state : State Message) (id : RequestId) :
    LedgerStep admits settles state (state.endCommand id) none := by
  unfold endCommand
  split <;> exact .keep rfl rfl

theorem ledgerStep_beginShutdown (state : State Message) :
    LedgerStep admits settles state state.beginShutdown none := by
  unfold beginShutdown
  split <;> exact .keep rfl rfl

theorem ledgerStep_of_step (config : ServerConfig Message) (state : State Message)
    (action : Action Message) :
    LedgerStep (AdmitsTurn state action) (SettlesAbort state action) state
      (step config state action) (callStart state action) := by
  cases action with
  | resumeTurn turnId => exact ledgerStep_resumeTurn state turnId
  | expireTurn turnId waits => exact ledgerStep_expireTurn state turnId waits
  | settleUnknown turnId cleared healthy =>
    exact ledgerStep_settleUnknown state turnId cleared healthy
  | openScope turnId => exact ledgerStep_openScope state turnId
  | endCall turnId result => exact ledgerStep_endCall state turnId result
  | enterSubmit id uuidHex => exact ledgerStep_enterSubmit config state id uuidHex
  | answerHealth id healthy =>
    refine ledgerStep_answerHealth config state id healthy (fun found checks => ?_)
    subst found
    exact ⟨id, rfl, checks⟩
  | enterCancel id => exact ledgerStep_enterCancel state id
  | enterAbort id acquired => exact ledgerStep_enterAbort state id acquired
  | abortReturned id cleared =>
    exact ledgerStep_abortReturned state id cleared (fun aborts => ⟨id, cleared, rfl, aborts⟩)
  | enterCommand id => exact ledgerStep_enterCommand state id
  | backendError =>
    exact .desyncs (markBackendError_session state)
      (congrArg OrderedDict.keys (calls_markBackendError state))
  | shutdownTurns => exact ledgerStep_shutdownTurns state
  | arriveSubmit request => exact ledgerStep_arriveSubmit state request
  | passPause id => exact ledgerStep_passPause config state id
  | arriveCommand => exact ledgerStep_arriveCommand state
  | endCommand id => exact ledgerStep_endCommand state id
  | beginShutdown => exact ledgerStep_beginShutdown state
  | tick now | arriveCancel turnId | arriveAbort | setPaused paused =>
    exact .keep rfl rfl

end Effects

def State.front (state : State Message) :
    OrderedDict RequestId (Request Message) × List (RequestId × Reply) :=
  (state.requests, state.replies)

section Requests

variable (state : State Message) (turnId : TurnId)

theorem front_startTurn : (state.startTurn turnId).front = state.front := by
  unfold startTurn
  split
  · rfl
  · split <;> rfl

theorem front_finalize : (state.finalizeInterruptedTurn turnId).front = state.front := by
  unfold finalizeInterruptedTurn
  split
  · rfl
  · split
    · rfl
    · split <;> rfl

theorem front_interrupt : (state.interrupt turnId).front = state.front := by
  unfold interrupt
  split
  · rfl
  · exact front_finalize state turnId

theorem front_settleTurn (outcome : Outcome Message) :
    (state.settleTurn turnId outcome).front = state.front := by
  unfold settleTurn
  split
  · rfl
  · split
    · rfl
    · cases outcome <;> rfl

theorem front_conclude (outcome : Outcome Message) :
    (state.conclude turnId outcome).front = state.front := by
  unfold conclude
  split
  · rfl
  · exact front_settleTurn state turnId outcome

theorem front_deliverCancel (phase : TurnPhase Message) :
    (state.deliverCancel turnId phase).front = state.front := by
  cases phase with
  | calling => exact front_interrupt state turnId
  | expiring =>
    simp only [deliverCancel]
    split
    · exact front_conclude state turnId _
    · rfl
  | created | starting | interrupted | committing outcome | unwinding processError | ended => rfl

theorem front_proceed (phase : TurnPhase Message) :
    (state.proceed turnId phase).front = state.front := by
  cases phase with
  | created | starting =>
    simp only [proceed]
    split
    · rfl
    · exact front_startTurn state turnId
  | calling =>
    simp only [proceed]
    split
    · unfold wakeWait cancelCall
      split
      · split <;> rfl
      · rfl
    · split
      · exact front_interrupt state turnId
      · exact front_conclude state turnId _
  | expiring =>
    simp only [proceed]
    split
    · exact front_conclude state turnId _
    · rfl
  | interrupted =>
    simp only [proceed]
    split
    · rfl
    · exact front_finalize state turnId
  | committing outcome =>
    simp only [proceed]
    split
    · rfl
    · exact front_settleTurn state turnId outcome
  | unwinding processError | ended => rfl

theorem front_resumeTurn : (state.resumeTurn turnId).front = state.front := by
  unfold resumeTurn
  split
  · rfl
  · split
    · exact front_deliverCancel state turnId _
    · exact front_proceed state turnId _

theorem front_expireTurn (waits : Bool) : (state.expireTurn turnId waits).front = state.front := by
  unfold expireTurn
  split
  · split
    · rfl
    · dsimp only
      split
      · rfl
      · exact front_conclude _ turnId _
  · rfl

theorem front_cancelActiveTask : state.cancelActiveTask.front = state.front := by
  rcases cancelActiveTask_cases state with ⟨same, -⟩ | ⟨turnId, task, -, -, -, changed⟩
  · rw [same]
  · rw [changed]
    rfl

theorem front_markBackendError : state.markBackendError.front = state.front := by
  unfold markBackendError
  split <;> rfl

theorem front_settleUnknown (cleared healthy : Bool) :
    (state.settleUnknown turnId cleared healthy).front = state.front := by
  unfold settleUnknown
  split
  · dsimp only
    split
    · exact front_markBackendError _
    · rfl
  · rfl

theorem front_openScope : (state.openScope turnId).front = state.front := by
  unfold openScope
  split
  · rfl
  · split
    · rfl
    · split
      · rfl
      · split <;> rfl

theorem front_endCall (result : CallResult Message) :
    (state.endCall turnId result).front = state.front := by
  unfold endCall
  split
  · rfl
  · dsimp only
    split
    · rfl
    · split
      · rfl
      · cases result <;> rfl

end Requests

def Reply.answersAbort : Reply → Bool
  | .abortAnswer _ => true
  | _ => false

def Request.checksHealth : Request Message → Bool
  | .submit _ (.checking _) => true
  | _ => false

/-- What an action does to the requests. Submissions that check the backend's health were there
before, or are below the turn limit; an abort is answered once the session is aborted. -/
structure RequestStep (config : ServerConfig Message) (before after : State Message) : Prop where
  checks : ∀ id request turnId,
    after.requests.get? id = some (.submit request (.checking turnId)) →
    before.requests.get? id = some (.submit request (.checking turnId)) ∨
      after.session.turnCount < config.maxTurns
  aborts : ∀ id mode, (id, .abortAnswer mode) ∈ after.replies →
    (id, .abortAnswer mode) ∈ before.replies ∨ after.session.state = .aborted
  kept : ∀ entry, entry ∈ before.replies → entry ∈ after.replies

namespace RequestStep

variable {config : ServerConfig Message} {state before middle after : State Message}

theorem same (front : after.front = before.front) : RequestStep config before after := by
  have parts := Prod.mk.inj front
  constructor
  · intro id request turnId present
    rw [parts.1] at present
    exact .inl present
  · intro id mode member
    rw [parts.2] at member
    exact .inl member
  · intro entry member
    rw [parts.2]
    exact member

section

variable (front : middle.front = before.front)
include front

theorem answer (id : RequestId) (reply : Reply)
    (other : reply.answersAbort = true → middle.session.state = .aborted) :
    RequestStep config before (middle.answer id reply) := by
  have parts := Prod.mk.inj front
  constructor
  · intro asked request turnId present
    have earlier := request_answer present
    rw [parts.1] at earlier
    exact .inl earlier
  · intro asked mode member
    rcases mem_append.mp member with earlier | new
    · rw [parts.2] at earlier
      exact .inl earlier
    · rw [mem_singleton] at new
      rw [← (Prod.mk.inj new).2] at other
      exact .inr (other rfl)
  · intro entry member
    rw [← parts.2] at member
    exact mem_append_left _ member

variable (id : RequestId)

theorem quietAnswer {reply : Reply} (other : reply.answersAbort = false) :
    RequestStep config before (middle.answer id reply) := by
  refine answer front id reply (fun aborts => ?_)
  rw [other] at aborts
  cases aborts

theorem setRequest {request : Request Message}
    (other : request.checksHealth = true → middle.session.turnCount < config.maxTurns) :
    RequestStep config before (middle.setRequest id request) := by
  have parts := Prod.mk.inj front
  constructor
  · intro asked message turnId present
    rcases request_setRequest present with set | earlier
    · rw [← set] at other
      exact .inr (other rfl)
    · rw [parts.1] at earlier
      exact .inl earlier
  · intro asked mode member
    exact .inl (parts.2 ▸ member)
  · intro entry member
    exact parts.2 ▸ member

theorem quietRequest {request : Request Message} (other : request.checksHealth = false) :
    RequestStep config before (middle.setRequest id request) := by
  refine setRequest front id (fun checks => ?_)
  rw [other] at checks
  cases checks

end

end RequestStep

theorem requestStep_of_step (config : ServerConfig Message) (state : State Message)
    (action : Action Message) : RequestStep config state (step config state action) := by
  cases action with
  | resumeTurn turnId => exact .same (front_resumeTurn state turnId)
  | expireTurn turnId waits => exact .same (front_expireTurn state turnId waits)
  | settleUnknown turnId cleared healthy =>
    exact .same (front_settleUnknown state turnId cleared healthy)
  | openScope turnId => exact .same (front_openScope state turnId)
  | endCall turnId result => exact .same (front_endCall state turnId result)
  | backendError => exact .same (front_markBackendError state)
  | arriveSubmit request =>
    change RequestStep config state (state.arriveSubmit request)
    unfold arriveSubmit
    dsimp only
    split
    · apply RequestStep.quietAnswer <;> rfl
    · apply RequestStep.quietRequest <;> rfl
  | passPause id =>
    change RequestStep config state (state.passPause config id)
    unfold passPause
    split
    · split
      · exact .same rfl
      · split
        · apply RequestStep.quietAnswer <;> rfl
        · apply RequestStep.quietRequest <;> rfl
    · exact .same rfl
  | enterSubmit id uuidHex =>
    change RequestStep config state (state.enterSubmit config id uuidHex)
    unfold enterSubmit
    split
    · next request present =>
        split
        · exact .same rfl
        · have history := admitTurn_history config state.session request uuidHex
          dsimp only
          split
          · apply RequestStep.quietAnswer <;> rfl
          · apply RequestStep.quietAnswer <;> rfl
          · next turnId new =>
              refine .setRequest ?_ _ (fun _ => ?_)
              · rfl
              · have room := history.2.2 turnId new
                rw [← history.2.1] at room
                exact room
    · exact .same rfl
  | answerHealth id healthy =>
    change RequestStep config state (state.answerHealth config id healthy)
    unfold answerHealth
    split
    · split
      · apply RequestStep.quietAnswer <;> rfl
      · apply RequestStep.quietAnswer
        · exact front_markBackendError state
        · rfl
    · exact .same rfl
  | enterCancel id =>
    change RequestStep config state (state.enterCancel id)
    unfold enterCancel
    split
    · split
      · exact .same rfl
      · split
        · apply RequestStep.quietAnswer <;> rfl
        · split
          · apply RequestStep.quietAnswer <;> rfl
          · exact .quietRequest (front_cancelActiveTask state) _ rfl
          · apply RequestStep.quietAnswer <;> rfl
    · exact .same rfl
  | enterAbort id acquired =>
    change RequestStep config state (state.enterAbort id acquired)
    unfold enterAbort
    split
    · split
      · exact .same rfl
      · split
        · next aborted =>
            apply RequestStep.answer
            · rfl
            · exact fun _ => aborted
        · have cancels : RequestStep config state
              (state.cancelActiveTask.setRequest id (.abort (some acquired))) :=
            .quietRequest (front_cancelActiveTask state) id rfl
          dsimp only
          split
          · exact { cancels with }
          · exact cancels
    · exact .same rfl
  | abortReturned id cleared =>
    change RequestStep config state (state.abortReturned id cleared)
    unfold abortReturned
    dsimp only
    split
    · apply RequestStep.quietAnswer <;> rfl
    · split
      · apply RequestStep.answer
        · rfl
        · exact fun _ => rfl
      · apply RequestStep.answer
        · rfl
        · exact fun _ => rfl
    · exact .same rfl
  | arriveCommand =>
    change RequestStep config state state.arriveCommand
    unfold arriveCommand
    dsimp only
    split
    · apply RequestStep.quietAnswer <;> rfl
    · apply RequestStep.quietRequest <;> rfl
  | enterCommand id =>
    change RequestStep config state (state.enterCommand id)
    unfold enterCommand
    split
    · split
      · exact .same rfl
      · split
        · apply RequestStep.quietAnswer <;> rfl
        · split
          · apply RequestStep.quietAnswer <;> rfl
          · split
            · apply RequestStep.quietAnswer <;> rfl
            · apply RequestStep.quietRequest <;> rfl
    · exact .same rfl
  | endCommand id =>
    change RequestStep config state (state.endCommand id)
    unfold endCommand
    split
    · apply RequestStep.quietAnswer <;> rfl
    · exact .same rfl
  | beginShutdown =>
    change RequestStep config state state.beginShutdown
    unfold beginShutdown
    split <;> exact .same rfl
  | shutdownTurns =>
    change RequestStep config state state.shutdownTurns
    unfold shutdownTurns
    split
    · exact .same (front_cancelActiveTask state)
    · exact .same rfl
  | arriveCancel turnId | arriveAbort => apply RequestStep.quietRequest <;> rfl
  | tick now | setPaused paused => exact .same rfl

theorem mem_committedTurns (session : SessionContext Message) (turnId : TurnId) :
    turnId ∈ session.committedTurns ↔ session.statusOf turnId = some .committed := by
  unfold SessionContext.committedTurns SessionContext.statusOf
  simp only [List.mem_map, mem_filter, decide_eq_true_eq, map_eq_some_iff]
  constructor
  · rintro ⟨entry, ⟨member, committed⟩, rfl⟩
    exact ⟨entry.2, get?_of_mem member, committed⟩
  · rintro ⟨record, found, committed⟩
    exact ⟨(turnId, record), ⟨mem_of_get? found, committed⟩, rfl⟩

theorem committedTurns_nodup (session : SessionContext Message) : session.committedTurns.Nodup :=
  session.turnLedger.keys_nodup.sublist (List.Sublist.map Prod.fst filter_sublist)

theorem newlyCommitted_eq_nil {before after : SessionContext Message}
    (known : ∀ turnId, after.statusOf turnId = some .committed →
      before.statusOf turnId = some .committed) : newlyCommitted before after = [] := by
  rw [eq_nil_iff_forall_not_mem]
  intro turnId member
  rw [newlyCommitted, mem_filter, decide_eq_true_eq, mem_committedTurns,
    mem_committedTurns] at member
  exact member.2 (known turnId member.1)

theorem newlyCommitted_eq_singleton {before after : SessionContext Message}
    (commits : ∀ other, after.statusOf other = some .committed ∧
      before.statusOf other ≠ some .committed ↔ other = turnId) :
    newlyCommitted before after = [turnId] := by
  have distinct : (newlyCommitted before after).Nodup := (committedTurns_nodup after).filter _
  apply perm_singleton.mp
  rw [perm_ext_iff_of_nodup distinct (nodup_singleton turnId)]
  intro other
  rw [newlyCommitted, mem_filter, decide_eq_true_eq, mem_committedTurns,
    mem_committedTurns, mem_singleton]
  exact commits other

inductive Reserves (state : State Message) (turnId : TurnId) : Prop
  | checking {id : RequestId} {request : MessageRequest Message}
    (present : state.requests.get? id = some (.submit request (.checking turnId)))
  | active {record : TurnRecord Message}
    (present : state.session.turnLedger.get? turnId = some record)
    (active : record.status.isActive = true)

structure LedgerKept (config : ServerConfig Message) (prompt : Option Message)
    (committed started : List TurnId) (state : State Message) : Prop where
  coherent : Coherent False state
  history : state.session.conversationHistory =
    prompt.toList ++ committed.flatMap state.session.exchange
  once : committed.Nodup
  recorded : ∀ turnId, turnId ∈ committed ↔ state.session.statusOf turnId = some .committed
  answered : ∀ turnId record, state.session.turnLedger.get? turnId = some record →
    record.status = .committed → record.response.isSome = true
  count : state.session.turnCount = committed.length
  limited : state.session.turnCount ≤ config.maxTurns
  room : ∀ turnId, Reserves state turnId → state.session.turnCount < config.maxTurns
  calls : state.calls.keys = started
  called : ∀ turnId, turnId ∈ state.calls.keys →
    ∃ record, state.session.turnLedger.get? turnId = some record ∧ record.status ≠ .queued

namespace Settles

variable {before after : Option (TurnRecord Message)} {record : TurnRecord Message}

section

variable (settles : Settles before after)
include settles

theorem of_committed (found : before = some record) (status : record.status = .committed) :
    after = some record := by
  cases settles with
  | stays => exact found
  | settled active =>
    cases found
    rw [status] at active
    cases active

theorem committed (found : after = some record) (status : record.status = .committed) :
    before = some record := by
  cases settles with
  | stays => exact found
  | settled active inactive uncommitted =>
    cases found
    exact absurd status uncommitted

theorem active (found : after = some record) (isActive : record.status.isActive = true) :
    before = some record := by
  cases settles with
  | stays => exact found
  | settled active inactive =>
    cases found
    rw [isActive] at inactive
    cases inactive

theorem not_queued (found : before = some record) (status : record.status ≠ .queued) :
    ∃ later, after = some later ∧ later.status ≠ .queued := by
  cases settles with
  | stays => exact ⟨record, found, status⟩
  | @settled _ later active inactive =>
    refine ⟨later, rfl, ?_⟩
    intro queued
    rw [queued] at inactive
    cases inactive

end

end Settles

theorem committed_set {record : TurnRecord Message} (new : record.status ≠ .committed)
    (old : ∀ earlier, ledger.get? turnId = some earlier → earlier.status ≠ .committed)
    (other : TurnId) (found : TurnRecord Message) (committed : found.status = .committed) :
    (ledger.set turnId record).get? other = some found ↔ ledger.get? other = some found := by
  rw [get?_set]
  split
  · next same =>
      subst same
      constructor
      · intro equal
        cases equal
        exact absurd committed new
      · intro present
        exact absurd committed (old found present)
  · exact Iff.rfl

namespace LedgerKept

variable {config : ServerConfig Message} {prompt : Option Message}
  {committed started : List TurnId} {before after : State Message}

section

variable (kept : LedgerKept config prompt committed started before)
include kept

theorem uncommitting {newStarted : List TurnId} (coherent : Coherent False after)
    (same : SameHistory before after)
    (stays : ∀ turnId record, before.session.turnLedger.get? turnId = some record →
      record.status = .committed → after.session.turnLedger.get? turnId = some record)
    (known : ∀ turnId record, after.session.turnLedger.get? turnId = some record →
      record.status = .committed → before.session.turnLedger.get? turnId = some record)
    (room : ∀ turnId, Reserves after turnId → after.session.turnCount < config.maxTurns)
    (calls : after.calls.keys = newStarted)
    (called : ∀ turnId, turnId ∈ after.calls.keys →
      ∃ record, after.session.turnLedger.get? turnId = some record ∧ record.status ≠ .queued) :
    LedgerKept config prompt (committed ++ newlyCommitted before.session after.session) newStarted
      after := by
  have back (turnId : TurnId) (committed : after.session.statusOf turnId = some .committed) :
      before.session.statusOf turnId = some .committed := by
    obtain ⟨record, found, status⟩ := map_eq_some_iff.mp committed
    exact map_eq_some_iff.mpr ⟨record, known turnId record found status, status⟩
  have forth (turnId : TurnId) (committed : before.session.statusOf turnId = some .committed) :
      after.session.statusOf turnId = some .committed := by
    obtain ⟨record, found, status⟩ := map_eq_some_iff.mp committed
    exact map_eq_some_iff.mpr ⟨record, stays turnId record found status, status⟩
  rw [newlyCommitted_eq_nil back, append_nil]
  have exchange (turnId : TurnId) (member : turnId ∈ committed) :
      after.session.exchange turnId = before.session.exchange turnId := by
    obtain ⟨record, found, status⟩ := map_eq_some_iff.mp ((kept.recorded turnId).mp member)
    rw [SessionContext.exchange, SessionContext.exchange, found, stays turnId record found status]
  exact
    { coherent := coherent
      history := by
        rw [same.history, kept.history, flatMap_congr exchange]
      once := kept.once
      recorded := fun turnId => (kept.recorded turnId).trans ⟨forth turnId, back turnId⟩
      answered := fun turnId record found status =>
        kept.answered turnId record (known turnId record found status) status
      count := by rw [same.count, kept.count]
      limited := by
        rw [same.count]
        exact kept.limited
      room := room
      calls := calls
      called := called }

theorem room_after (requests : RequestStep config before after) (same : SameHistory before after)
    (active : ∀ turnId record, after.session.turnLedger.get? turnId = some record →
      record.status.isActive = true → Reserves before turnId) (turnId : TurnId)
    (reserves : Reserves after turnId) :
    after.session.turnCount < config.maxTurns := by
  cases reserves with
  | checking present =>
    rcases requests.checks _ _ _ present with earlier | room
    · rw [same.count]
      exact kept.room turnId (.checking earlier)
    · exact room
  | active present isActive =>
    rw [same.count]
    exact kept.room turnId (active turnId _ present isActive)

theorem settle (coherent : Coherent False after) (requests : RequestStep config before after)
    (records : ∀ turnId, Settles (before.session.turnLedger.get? turnId)
      (after.session.turnLedger.get? turnId)) (same : SameHistory before after)
    (calls : after.calls.keys = before.calls.keys) :
    LedgerKept config prompt (committed ++ newlyCommitted before.session after.session) started
      after := by
  refine kept.uncommitting coherent same ?_ ?_ (kept.room_after requests same ?_)
    (calls.trans kept.calls) ?_
  · intro turnId record found status
    exact (records turnId).of_committed found status
  · intro turnId record found status
    exact (records turnId).committed found status
  · intro turnId record found active
    exact .active ((records turnId).active found active) active
  · intro turnId member
    rw [calls] at member
    obtain ⟨record, found, status⟩ := kept.called turnId member
    exact (records turnId).not_queued found status

variable {turnId : TurnId}

section

variable (coherent : Coherent False after)
include coherent

section

variable (requests : RequestStep config before after)
include requests

theorem admitting {id : RequestId} {request : MessageRequest Message} {record : TurnRecord Message}
    (checking : before.requests.get? id = some (.submit request (.checking turnId)))
    (queued : record.status = .queued)
    (ledger : after.session.turnLedger = before.session.turnLedger.set turnId record)
    (same : SameHistory before after) (calls : after.calls.keys = before.calls.keys) :
    LedgerKept config prompt (committed ++ newlyCommitted before.session after.session) started
      after := by
  have absent := kept.coherent.checking checking
  have uncommitted : record.status ≠ .committed := by
    rw [queued]
    exact fun same => by cases same
  have keeps := committed_set uncommitted (fun earlier found => by cases absent.symm.trans found)
  refine kept.uncommitting coherent same ?_ ?_ (kept.room_after requests same ?_)
    (calls.trans kept.calls) ?_
  · intro other found present status
    rw [ledger]
    exact (keeps other found status).mpr present
  · intro other found present status
    rw [ledger] at present
    exact (keeps other found status).mp present
  · intro other found present active
    rw [ledger, get?_set] at present
    split at present
    · next new =>
        subst new
        exact .checking checking
    · exact .active present active
  · intro other member
    rw [calls] at member
    obtain ⟨found, present, status⟩ := kept.called other member
    have different : other ≠ turnId := by
      intro equal
      subst equal
      cases absent.symm.trans present
    rw [ledger, get?_set_of_ne _ _ different]
    exact ⟨found, present, status⟩

theorem start {found running : TurnRecord Message} {call : BackendCall Message}
    (present : before.session.turnLedger.get? turnId = some found) (queued : found.status = .queued)
    (inflight : running.status = .inflight)
    (ledger : after.session.turnLedger = before.session.turnLedger.set turnId running)
    (same : SameHistory before after) (calls : after.calls = before.calls.set turnId call) :
    LedgerKept config prompt (committed ++ newlyCommitted before.session after.session)
      (started ++ [turnId]) after := by
  have uncommitted : running.status ≠ .committed := by
    rw [inflight]
    exact fun same => by cases same
  have keeps := committed_set uncommitted (fun earlier there => by
    cases present.symm.trans there
    rw [queued]
    exact fun same => by cases same)
  -- A queued turn has not started its call yet.
  have fresh : turnId ∉ before.calls.keys := by
    intro member
    obtain ⟨record, there, status⟩ := kept.called turnId member
    cases present.symm.trans there
    exact status queued
  refine kept.uncommitting coherent same ?_ ?_ (kept.room_after requests same ?_) ?_ ?_
  · intro other record there status
    rw [ledger]
    exact (keeps other record status).mpr there
  · intro other record there status
    rw [ledger] at there
    exact (keeps other record status).mp there
  · intro other record there active
    rw [ledger, get?_set] at there
    split at there
    · next own =>
        subst own
        refine .active present ?_
        rw [queued]
        rfl
    · exact .active there active
  · rw [calls, OrderedDict.keys, entries_set_new fresh, map_append, ← kept.calls]
    rfl
  · intro other member
    rw [ledger, get?_set]
    split
    · refine ⟨running, rfl, ?_⟩
      rw [inflight]
      exact fun same => by cases same
    · next different =>
        rw [calls, mem_keys_set] at member
        exact kept.called other (member.resolve_left different)

theorem commit {found record : TurnRecord Message} {response : AdapterResponse Message}
    (present : before.session.turnLedger.get? turnId = some found)
    (inflight : found.status = .inflight) (status : record.status = .committed)
    (answered : record.response = some response)
    (ledger : after.session.turnLedger = before.session.turnLedger.set turnId record)
    (history : after.session.conversationHistory =
      before.session.conversationHistory ++ record.exchange)
    (count : after.session.turnCount = before.session.turnCount + 1)
    (calls : after.calls.keys = before.calls.keys) :
    LedgerKept config prompt (committed ++ newlyCommitted before.session after.session) started
      after := by
  have own : after.session.turnLedger.get? turnId = some record := by
    rw [ledger, get?_set_self]
  have others {other : TurnId} (different : other ≠ turnId) :
      after.session.turnLedger.get? other = before.session.turnLedger.get? other := by
    rw [ledger, get?_set_of_ne _ _ different]
  have isOpen : found.status.isActive = true := by
    rw [inflight]
    rfl
  have uncommitted : before.session.statusOf turnId ≠ some .committed := by
    rw [SessionContext.statusOf, present, map_some, inflight]
    exact fun same => by cases same
  have newly : newlyCommitted before.session after.session = [turnId] := by
    apply newlyCommitted_eq_singleton
    intro other
    by_cases same : other = turnId
    · subst same
      simp only [SessionContext.statusOf, own, map_some, status, true_and, iff_true]
      exact uncommitted
    · simp only [SessionContext.statusOf, others same, same, iff_false]
      exact fun both => both.2 both.1
  rw [newly]
  have fresh : turnId ∉ committed := fun member =>
    uncommitted ((kept.recorded turnId).mp member)
  have exchange (other : TurnId) (member : other ∈ committed) :
      after.session.exchange other = before.session.exchange other := by
    have different : other ≠ turnId := fun same => fresh (same ▸ member)
    rw [SessionContext.exchange, SessionContext.exchange, others different]
  have alone {other : TurnId} (claims : Claims before other) : other = turnId :=
    kept.coherent.exclusive claims (.active present isOpen)
  exact
    { coherent := coherent
      history := by
        rw [history, kept.history, flatMap_append, flatMap_congr exchange,
          append_assoc, flatMap_singleton, SessionContext.exchange, own]
      once := by
        rw [nodup_append_comm, singleton_append, nodup_cons]
        exact ⟨fresh, kept.once⟩
      recorded := by
        intro other
        rw [mem_append, mem_singleton]
        by_cases same : other = turnId
        · subst same
          simp [SessionContext.statusOf, own, status]
        · rw [SessionContext.statusOf, others same, or_iff_left same]
          exact kept.recorded other
      answered := by
        intro other otherRecord there isCommitted
        by_cases same : other = turnId
        · subst same
          cases own.symm.trans there
          rw [answered]
          rfl
        · rw [others same] at there
          exact kept.answered other otherRecord there isCommitted
      count := by rw [count, kept.count, length_append, length_singleton]
      limited := by
        rw [count]
        exact kept.room turnId (.active present isOpen)
      room := by
        intro other reserves
        cases reserves with
        | checking there =>
          rcases requests.checks _ _ _ there with earlier | room
          · cases alone (.checking earlier)
            cases present.symm.trans (kept.coherent.checking earlier)
          · exact room
        | active there isActive =>
          by_cases same : other = turnId
          · subst same
            cases own.symm.trans there
            rw [status] at isActive
            cases isActive
          · rw [others same] at there
            exact absurd (alone (.active there isActive)) same
      calls := calls.trans kept.calls
      called := by
        intro other member
        by_cases same : other = turnId
        · subst same
          refine ⟨record, own, ?_⟩
          rw [status]
          exact fun same => by cases same
        · rw [calls] at member
          rw [others same]
          exact kept.called other member }

end

end

theorem step (action : Action Message) :
    LedgerKept config prompt
      (committed ++ newlyCommitted before.session (step config before action).session)
      (started ++ (callStart before action).toList) (step config before action) := by
  have coherent : Coherent False (Blackbox.step config before action) :=
    coherent_step config kept.coherent (fun impossible => impossible.elim)
  have requests := requestStep_of_step config before action
  have effect := ledgerStep_of_step config before action
  generalize Blackbox.step config before action = after at coherent requests effect ⊢
  generalize callStart before action = starts at effect ⊢
  cases effect with
  | settle records same abort calls | aborts settling aborted records inactive same calls =>
    rw [toList_none, append_nil]
    exact kept.settle coherent requests records same calls
  | admitted admitting checking queued ledger same abort calls =>
    rw [toList_none, append_nil]
    exact kept.admitting coherent requests checking queued ledger same calls
  | start present queued inflight ledger same abort calls =>
    exact kept.start coherent requests present queued inflight ledger same calls
  | commit present inflight status answered ledger history count abort calls =>
    rw [toList_none, append_nil]
    exact kept.commit coherent requests present inflight status answered ledger history count calls

end

theorem registered (config : ServerConfig Message) (prompt : Option Message) :
    LedgerKept config prompt [] [] (State.registered prompt) := by
  have quiet : Quiet initial (State.registered prompt) :=
    { Quiet.refl initial with }
  refine
    { coherent := Coherent.initial.quiet quiet
      history := (append_nil _).symm
      once := nodup_nil
      recorded := ?_
      answered := ?_
      count := rfl
      limited := Nat.zero_le _
      room := ?_
      calls := rfl
      called := ?_ }
  · intro turnId
    constructor
    · intro member
      cases member
    · intro committed
      cases committed
  · intro turnId record found
    cases found
  · intro turnId reserves
    cases reserves with
    | checking present => cases present
    | active present => cases present
  · intro turnId member
    cases member

theorem run (config : ServerConfig Message) (prompt : Option Message)
    {committed started : List TurnId} {state : State Message}
    (kept : LedgerKept config prompt committed started state) (actions : List (Action Message)) :
    LedgerKept config prompt (committed ++ commitOrder config state actions)
      (started ++ callsStarted config state actions)
      (Runs.run (Blackbox.step config) state actions) := by
  induction actions generalizing committed started state with
  | nil =>
    rw [commitOrder, callsStarted, append_nil, append_nil]
    exact kept
  | cons action rest ih =>
    rw [commitOrder, callsStarted, ← append_assoc, ← append_assoc]
    exact ih (kept.step action)

end LedgerKept

/-- A record goes from queued over inflight to a terminal status, or there at once, and stays. -/
inductive RecordMoves : Option (TurnRecord Message) → Option (TurnRecord Message) → Prop
  | stays (record : Option (TurnRecord Message)) : RecordMoves record record
  | admitted {record : TurnRecord Message} (queued : record.status = .queued) :
    RecordMoves none (some record)
  | started {before after : TurnRecord Message} (queued : before.status = .queued)
    (inflight : after.status = .inflight) : RecordMoves (some before) (some after)
  | ends {before after : TurnRecord Message} (active : before.status.isActive = true)
    (terminal : after.status.isActive = false) : RecordMoves (some before) (some after)

theorem Settles.moves {before after : Option (TurnRecord Message)}
    (settles : Settles before after) : RecordMoves before after := by
  cases settles with
  | stays => exact .stays _
  | settled active inactive => exact .ends active inactive

theorem recordMoves_set {record : TurnRecord Message}
    (moves : RecordMoves (ledger.get? turnId) (some record)) (other : TurnId) :
    RecordMoves (ledger.get? other) ((ledger.set turnId record).get? other) := by
  rw [get?_set]
  split
  · next same =>
      rw [same]
      exact moves
  · exact .stays _

theorem recordMoves_of_step {config : ServerConfig Message} {state : State Message}
    (coherent : Coherent False state) (action : Action Message) (turnId : TurnId) :
    RecordMoves (state.session.turnLedger.get? turnId)
      ((step config state action).session.turnLedger.get? turnId) := by
  have effect := ledgerStep_of_step config state action
  generalize step config state action = after at effect ⊢
  generalize callStart state action = starts at effect
  cases effect with
  | settle records => exact (records turnId).moves
  | aborts settling aborted records => exact (records turnId).moves
  | admitted admitting checking queued ledger =>
    rw [ledger]
    apply recordMoves_set
    rw [coherent.checking checking]
    exact .admitted queued
  | start present queued inflight ledger =>
    rw [ledger]
    apply recordMoves_set
    rw [present]
    exact .started queued inflight
  | commit present inflight status answered ledger =>
    rw [ledger]
    apply recordMoves_set
    rw [present]
    refine .ends ?_ ?_
    · rw [inflight]
      rfl
    · rw [status]
      rfl

structure LedgerAgrees (config : ServerConfig Message) (prompt : Option Message)
    (actions : List (Action Message)) (state : State Message) : Prop where
  history : state.session.conversationHistory = prompt.toList ++
    (commitOrder config (registered prompt) actions).flatMap state.session.exchange
  once : (commitOrder config (registered prompt) actions).Nodup
  committed : ∀ turnId, turnId ∈ commitOrder config (registered prompt) actions ↔
    ∃ record response, state.session.turnLedger.get? turnId = some record ∧
      record.status = .committed ∧ record.response = some response
  count : state.session.turnCount = state.session.committedTurns.length
  limited : state.session.turnCount ≤ config.maxTurns
  exclusive : ∀ first second firstRecord secondRecord,
    state.session.turnLedger.get? first = some firstRecord →
    state.session.turnLedger.get? second = some secondRecord →
    firstRecord.status.isActive = true → secondRecord.status.isActive = true → first = second
  moves : ∀ action turnId, RecordMoves (state.session.turnLedger.get? turnId)
    ((step config state action).session.turnLedger.get? turnId)
  calls : state.calls.keys = callsStarted config (registered prompt) actions
  callOnce : (callsStarted config (registered prompt) actions).Nodup

theorem ledger_agrees_with_history (config : ServerConfig Message) (prompt : Option Message)
    (actions : List (Action Message)) :
    LedgerAgrees config prompt actions
      (Runs.run (step config) (registered prompt) actions) := by
  have kept := LedgerKept.run config prompt (LedgerKept.registered config prompt) actions
  rw [nil_append, nil_append] at kept
  generalize Runs.run (step config) (registered prompt) actions = state at kept ⊢
  refine
    { kept with
      committed := ?_
      count := ?_
      exclusive := ?_
      moves := fun action turnId => recordMoves_of_step kept.coherent action turnId
      callOnce := ?_ }
  · intro turnId
    rw [kept.recorded turnId, SessionContext.statusOf, map_eq_some_iff]
    constructor
    · rintro ⟨record, found, status⟩
      obtain ⟨response, answered⟩ :=
        isSome_iff_exists.mp (kept.answered turnId record found status)
      exact ⟨record, response, found, status, answered⟩
    · rintro ⟨record, response, found, status, -⟩
      exact ⟨record, found, status⟩
  · -- Both lists hold the committed turns once each.
    have same : (commitOrder config (registered prompt) actions).Perm
        state.session.committedTurns := by
      rw [perm_ext_iff_of_nodup kept.once (committedTurns_nodup state.session)]
      intro turnId
      rw [kept.recorded turnId, mem_committedTurns]
    rw [kept.count, same.length_eq]
  · intro first second firstRecord secondRecord firstFound secondFound firstActive secondActive
    exact kept.coherent.exclusive (.active firstFound firstActive)
      (.active secondFound secondActive)
  · rw [← kept.calls]
    exact state.calls.keys_nodup

end Dressage.Blackbox

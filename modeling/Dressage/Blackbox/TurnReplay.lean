/-
Idempotent replay of a submitted turn.

Admission looks for the submitted turn in the ledger only after it checked the
session's state and the number of committed turns. A submission that repeats a
recorded turn is therefore answered from the record as long as the session is
not desynced and below its turn limit, and is refused otherwise.
-/

import Dressage.Blackbox.TurnSettlement

namespace Dressage.Blackbox

open Lib OrderedDict

variable {Message : Type}

def Raisable (error : TurnError) : Prop := error.httpStatus ≠ 0 ∧ error.error ≠ ""

structure Readable (record : TurnRecord Message) : Prop where
  committed : record.status = .committed → record.response.isSome = true
  failed : record.status.isActive = false → record.status ≠ .committed →
    ∃ error, record.error = some error ∧ Raisable error

structure Replayable (state : State Message) : Prop where
  turn : ∀ {turnId record}, state.session.turnLedger.get? turnId = some record →
    ModeFits state.session turnId ∧ Readable record
  checking : ∀ {id request turnId},
    state.requests.get? id = some (.submit request (.checking turnId)) →
    ModeFits state.session turnId
  outcome : ∀ {turnId task error processError}, state.tasks.get? turnId = some task →
    task.phase = .committing (.unknown error processError) → Raisable error

variable {record : TurnRecord Message}

theorem Readable.of_active (active : record.status.isActive = true) : Readable record := by
  constructor
  · intro committed
    rw [committed] at active
    cases active
  · intro settled
    rw [active] at settled
    cases settled

theorem Readable.of_error {error : TurnError} (uncommitted : record.status ≠ .committed)
    (recorded : record.error = some error) (raisable : Raisable error) : Readable record :=
  { committed := fun committed => absurd committed uncommitted
    failed := fun _ _ => ⟨error, recorded, raisable⟩ }

theorem raisable_of_outcome {result : CallResult Message} {error : TurnError}
    {processError : Bool} (read : State.outcomeOf result = some (.unknown error processError)) :
    Raisable error := by
  cases result with
  | returned response => cases read
  | raised failure =>
    cases failure with
    | cancelled => cases read
    | contextOverflow | maxStepsExceeded | backend | other =>
      cases read
      constructor <;> simp

theorem raisable_timeout : Raisable State.timeoutError := by
  constructor <;> decide

namespace Replayable

variable {before after state : State Message}

theorem change (replayable : Replayable before)
    (mode : ∀ {turnId}, ModeFits before.session turnId → ModeFits after.session turnId)
    (ledger : ∀ {turnId record}, after.session.turnLedger.get? turnId = some record →
      before.session.turnLedger.get? turnId = some record ∨
        ModeFits before.session turnId ∧ Readable record)
    (checking : ∀ {id request turnId},
      after.requests.get? id = some (.submit request (.checking turnId)) →
      before.requests.get? id = some (.submit request (.checking turnId)) ∨
        ModeFits after.session turnId)
    (outcome : ∀ {turnId task error processError}, after.tasks.get? turnId = some task →
      task.phase = .committing (.unknown error processError) →
      (∃ earlier, before.tasks.get? turnId = some earlier ∧ earlier.phase = task.phase) ∨
        Raisable error) :
    Replayable after := by
  constructor
  · intro turnId record found
    rcases ledger found with earlier | ⟨fits, readable⟩
    · exact ⟨mode (replayable.turn earlier).1, (replayable.turn earlier).2⟩
    · exact ⟨mode fits, readable⟩
  · intro id request turnId present
    rcases checking present with earlier | fits
    · exact mode (replayable.checking earlier)
    · exact fits
  · intro turnId task error processError present phase
    rcases outcome present phase with ⟨earlier, wasPresent, samePhase⟩ | raisable
    · exact replayable.outcome wasPresent (samePhase.trans phase)
    · exact raisable

variable {turnId other : TurnId}

theorem ledger_set (replayable : Replayable before) {earlier later : TurnRecord Message}
    (found : before.session.turnLedger.get? turnId = some earlier) (readable : Readable later)
    {record : TurnRecord Message}
    (present : (before.session.turnLedger.set turnId later).get? other = some record) :
    before.session.turnLedger.get? other = some record ∨
      ModeFits before.session other ∧ Readable record := by
  by_cases same : other = turnId
  · subst other
    rw [get?_set_self] at present
    cases present
    exact .inr ⟨(replayable.turn found).1, readable⟩
  · rw [get?_set_of_ne _ _ same] at present
    exact .inl present

theorem tasks_set {phase : TurnPhase Message} {cancelRequested : Bool}
    (safe : ∀ error processError, phase = .committing (.unknown error processError) →
      Raisable error) {task : TurnTask Message} {error : TurnError} {processError : Bool}
    (present : (before.tasks.set turnId ⟨phase, cancelRequested⟩).get? other = some task)
    (committing : task.phase = .committing (.unknown error processError)) :
    (∃ earlier, before.tasks.get? other = some earlier ∧ earlier.phase = task.phase) ∨
      Raisable error := by
  by_cases same : other = turnId
  · subst other
    rw [get?_set_self] at present
    cases present
    exact .inr (safe error processError committing)
  · rw [get?_set_of_ne _ _ same] at present
    exact .inl ⟨task, present, rfl⟩

theorem tasks_end {cancelRequested : Bool} {task : TurnTask Message} {error : TurnError}
    {processError : Bool}
    (present : (before.tasks.set turnId ⟨.ended, cancelRequested⟩).get? other = some task)
    (committing : task.phase = .committing (.unknown error processError)) :
    (∃ earlier, before.tasks.get? other = some earlier ∧ earlier.phase = task.phase) ∨
      Raisable error := by
  refine tasks_set ?_ present committing
  intro _ _ same
  cases same

theorem desync_mode {session : SessionContext Message} (fits : ModeFits session turnId) :
    ModeFits (State.desync session) turnId := by
  unfold State.desync
  split <;> exact fits

theorem ledger_finalized (replayable : Replayable state) {record : TurnRecord Message}
    (found : (state.finalizeInterruptedTurn turnId).session.turnLedger.get? other = some record) :
    state.session.turnLedger.get? other = some record ∨
      ModeFits state.session other ∧ Readable record := by
  unfold State.finalizeInterruptedTurn at found
  cases present : state.session.turnLedger.get? turnId with
  | none =>
    simp only [present] at found
    exact .inl found
  | some earlier =>
    simp only [present] at found
    split at found
    · exact .inl found
    · split at found
      · rw [State.desync_turnLedger] at found
        exact replayable.ledger_set present
          (.of_error (fun same => by cases same) rfl (by constructor <;> decide)) found
      · exact replayable.ledger_set present
          (.of_error (fun same => by cases same) rfl (by constructor <;> decide)) found

theorem finalized_mode (fits : ModeFits state.session other) :
    ModeFits (state.finalizeInterruptedTurn turnId).session other := by
  unfold State.finalizeInterruptedTurn
  split
  · exact fits
  · split
    · exact fits
    · split
      · exact desync_mode fits
      · exact fits

theorem move {config : ServerConfig Message} {settling attributed : Prop}
    (replayable : Replayable before) (moves : Move config settling attributed before after) :
    Replayable after := by
  cases moves with
  | quiet same =>
    refine replayable.change same.mode ?_ ?_ ?_
    · rw [same.ledger]
      exact .inl
    · intro id request turnId present
      rcases same.requests present with quiet | earlier
      · cases quiet
      · exact .inl earlier
    · intro turnId task error processError present phase
      rw [same.tasks] at present
      exact .inl ⟨task, present, rfl⟩
  | @accept id request turnId session free active idle new sameLedger sameState mode fits =>
    refine replayable.change mode ?_ ?_ (fun present _ => .inl ⟨_, present, rfl⟩)
    · intro other record found
      refine .inl ?_
      rw [← sameLedger]
      exact found
    · intro other message checked present
      rcases State.request_setRequest present with same | earlier
      · cases same
        exact .inr fits
      · exact .inl earlier
  | @create id request turnId reply checking =>
    refine replayable.change (fun fits => fits) ?_
      (fun present => .inl (State.request_answer present)) ?_
    · intro other record found
      by_cases same : other = turnId
      · subst other
        refine .inr ⟨replayable.checking checking, .of_active ?_⟩
        simp only [State.answer, State.release, State.createTurn, State.setTask,
          State.setRecord, get?_set_self] at found
        cases found
        rfl
      · exact .inl ((get?_set_of_ne _ _ same).symm.trans found)
    · refine tasks_set (fun _ _ same => ?_)
      cases same
  | leave =>
    exact replayable.change (fun fits => fits) .inl
      (fun present => .inl (State.request_answer present))
      (fun present _ => .inl ⟨_, present, rfl⟩)
  | command | abortHolding =>
    exact replayable.change (fun fits => fits) .inl
      (fun present => .inl ((State.request_setRequest present).resolve_left
        (fun same => by cases same)))
      (fun present _ => .inl ⟨_, present, rfl⟩)
  | flag =>
    rcases cancelActiveTask_cases before with
      ⟨same, -⟩ | ⟨turnId, task, current, present, live, changed⟩
    · rw [same]
      exact replayable
    · rw [changed]
      refine replayable.change (fun fits => fits) .inl .inl ?_
      intro other otherTask error processError otherPresent phase
      refine tasks_set ?_ otherPresent phase
      exact fun _ _ same => replayable.outcome present same
  | abort flagged without =>
    refine replayable.change (fun fits => fits) .inl ?_
      (fun present _ => .inl ⟨_, present, rfl⟩)
    intro other message checked present
    rcases State.request_setRequest present with same | earlier
    · rw [← same] at without
      cases without
    · exact .inl earlier
  | clearForAbort | clearForUnwinding | openScope | cancelCall | failCall | endCall =>
    exact replayable.change (fun fits => fits) .inl .inl
      (fun present _ => .inl ⟨_, present, rfl⟩)
  | abortLedger =>
    refine replayable.change (fun fits => fits) ?_ .inl
      (fun present _ => .inl ⟨_, present, rfl⟩)
    intro turnId record found
    rw [record_abortLedger] at found
    obtain ⟨earlier, wasFound, rfl⟩ := Option.map_eq_some_iff.mp found
    unfold abortedRecord
    split
    · exact .inr ⟨(replayable.turn wasFound).1,
        .of_error (fun same => by cases same) rfl (by constructor <;> decide)⟩
    · exact .inl wasFound
  | cancelQueued present =>
    refine replayable.change (fun fits => fits) ?_ .inl
      (fun present _ => .inl ⟨_, present, rfl⟩)
    exact fun found => replayable.ledger_set present
      (.of_error (fun same => by cases same) rfl (by constructor <;> decide)) found
  | @queue turnId task phase present goes =>
    refine replayable.change (fun fits => fits) .inl .inl (tasks_set ?_)
    intro error processError same
    subst same
    generalize task.phase = earlier at goes
    cases goes with
    | outcome done read => exact raisable_of_outcome read
    | timeout done => exact raisable_timeout
  | start present phase free found =>
    refine replayable.change (fun fits => fits) ?_ .inl (tasks_set ?_)
    · exact fun later => replayable.ledger_set found (.of_active rfl) later
    · intro _ _ same
      cases same
  | @finalize turnId task present phase free =>
    have finalized := finalized_finalizeInterruptedTurn before turnId
    refine replayable.change finalized_mode replayable.ledger_finalized ?_ ?_
    · intro id request checked requestPresent
      refine .inl ?_
      rw [← finalized.requests]
      exact requestPresent
    · intro other otherTask error processError otherPresent otherPhase
      have ended : (before.tasks.set turnId ⟨.ended, false⟩).get? other = some otherTask := by
        rw [← finalized.tasks]
        exact otherPresent
      exact tasks_end ended otherPhase
  | commit present phase free found inflight =>
    refine replayable.change (fun fits => fits) ?_ .inl tasks_end
    exact fun later => replayable.ledger_set found
      { committed := fun _ => rfl
        failed := fun _ uncommitted => absurd rfl uncommitted } later
  | unwind present phase free found =>
    refine replayable.change ?_ ?_ .inl (tasks_set ?_)
    · intro turnId fits
      exact desync_mode fits
    · intro other record later
      simp only [State.setTask, State.acquire, State.unknownRecord, State.desync_turnLedger]
        at later
      exact replayable.ledger_set found
        (.of_error (fun same => by cases same) rfl (replayable.outcome present phase)) later
    · intro _ _ same
      cases same
  | finish | vanish | unwound =>
    exact replayable.change (fun fits => fits) .inl .inl tasks_end
  | expire present found unfinished goes =>
    refine replayable.change (fun fits => fits) .inl .inl (tasks_set ?_)
    intro error processError same
    rcases goes with expiring | committing
    · cases expiring.symm.trans same
    · cases committing.symm.trans same
      exact raisable_timeout

theorem moves {config : ServerConfig Message} {settling attributed : Prop}
    (replayable : Replayable before) (path : Moves config settling attributed before after) :
    Replayable after := by
  induction path with
  | refl => exact replayable
  | tail _ last ih => exact ih.move last

theorem initial : Replayable (State.initial : State Message) := by
  constructor
  · intro turnId record found
    cases found
  · intro id request turnId present
    cases present
  · intro turnId task error processError present
    cases present

end Replayable

theorem replayable_run (config : ServerConfig Message) (actions : List (Action Message)) :
    Replayable (Runs.run (step config) State.initial actions) :=
  Runs.run_preserves
    (fun state action replayable => replayable.moves
      (moves_of_step config state action (fun impossible : False => impossible.elim)
        (fun impossible : False => impossible.elim)))
    Replayable.initial actions

/-- The submission names the recorded turn, or none at all in a session with a single one, and
has the same messages. -/
structure Repeats (config : ServerConfig Message) (session : SessionContext Message)
    (request : MessageRequest Message) (turnId : TurnId) (record : TurnRecord Message) : Prop where
  found : session.turnLedger.get? turnId = some record
  fingerprint : record.requestFingerprint = config.fingerprint request.messages
  named : request.turnId = some turnId ∨
    request.turnId = none ∧ session.turnMode = some .single ∧ session.defaultTurnId = some turnId

def Replayed (before after : State Message) (id : RequestId) (turnId : TurnId)
    (status : TurnStatus) : Prop :=
  after = before.answer id (.submitted turnId status true)

structure ReadsBack (record : TurnRecord Message) : Prop where
  outputs : record.status = .committed →
    ∃ response, record.response = some response ∧ readTurn record = .ok response.outputs
  error : record.status.isActive = false → record.status ≠ .committed →
    ∃ error raised, record.error = some error ∧ readTurn record = .error raised ∧
      raised.httpStatus = error.httpStatus ∧ raised.error = error.error ∧
      (error.message ≠ "" → raised.message = error.message)

theorem Readable.readsBack (readable : Readable record) : ReadsBack record := by
  constructor
  · intro committed
    obtain ⟨response, recorded⟩ := Option.isSome_iff_exists.mp (readable.committed committed)
    refine ⟨response, recorded, ?_⟩
    simp only [readTurn, committed, recorded]
  · intro settled uncommitted
    obtain ⟨error, recorded, status, code⟩ := readable.failed settled uncommitted
    refine ⟨error, turnApiError record, recorded, ?_, ?_, ?_, ?_⟩
    · unfold readTurn
      split
      · next committed _ => exact absurd committed uncommitted
      · rfl
    · simp only [turnApiError, recorded, if_neg status]
    · simp only [turnApiError, recorded, if_neg code]
    · intro message
      simp only [turnApiError, recorded, if_neg message]

theorem Repeats.resolves {config : ServerConfig Message} {session : SessionContext Message}
    {request : MessageRequest Message} {turnId : TurnId}
    (repeats : Repeats config session request turnId record) (fits : ModeFits session turnId)
    (uuidHex : String) :
    resolveTurnId session request.turnId uuidHex = (.ok turnId, session) := by
  rcases repeats.named with named | ⟨unnamed, single, default⟩
  · rw [named]
    rcases fits with explicit | ⟨single, default⟩
    · simp only [resolveTurnId, explicit]
    · simp only [resolveTurnId, single, default, if_true]
  · rw [unnamed]
    simp only [resolveTurnId, single, default]

theorem Repeats.admits_iff {config : ServerConfig Message} {session : SessionContext Message}
    {request : MessageRequest Message} {turnId : TurnId}
    (repeats : Repeats config session request turnId record) (fits : ModeFits session turnId)
    (notAborted : session.state ≠ .aborted) (uuidHex : String) :
    if session.state ≠ .desynced ∧ session.turnCount < config.maxTurns then
      admitTurn config session request uuidHex = (.replay turnId record.status, session)
    else ∃ error, (admitTurn config session request uuidHex).1 = .refused error := by
  unfold admitTurn
  rw [if_neg notAborted]
  by_cases desynced : session.state = .desynced
  · rw [if_pos desynced, if_neg (fun both => both.1 desynced)]
    exact ⟨_, rfl⟩
  rw [if_neg desynced]
  by_cases full : config.maxTurns ≤ session.turnCount
  · rw [if_pos full, if_neg (fun both => absurd both.2 (Nat.not_lt.mpr full))]
    exact ⟨_, rfl⟩
  · rw [if_neg full, if_pos ⟨desynced, Nat.not_le.mp full⟩, repeats.resolves fits uuidHex]
    simp only [repeats.found, ne_eq, repeats.fingerprint, not_true_eq_false, if_false]

/-- A valid submission to a ready server that is not paused waits for the session lock, and in
every reachable state in which it gets it and repeats a recorded turn, it is a replay exactly
if the session is not desynced and below its turn limit. Settled records are read back as
recorded. -/
theorem replayed_iff_open_session (config : ServerConfig Message)
    (actions : List (Action Message)) (state : State Message)
    (reachable : state = Runs.run (step config) State.initial actions) :
    (∀ request, state.serverState = .ready → state.paused = false →
      validateSubmission config request = .ok () →
      Runs.run (step config) state [.arriveSubmit request, .passPause state.nextRequest] =
        ({ state with nextRequest := state.nextRequest + 1 } : State Message).setRequest
          state.nextRequest (.submit request .locking)) ∧
    (∀ id request uuidHex turnId record,
      state.requests.get? id = some (.submit request .locking) → state.sessionLock = none →
      state.session.state ≠ .aborted → Repeats config state.session request turnId record →
      (Replayed state (step config state (.enterSubmit id uuidHex)) id turnId record.status ↔
        state.session.state ≠ .desynced ∧ state.session.turnCount < config.maxTurns)) ∧
    (∀ turnId record, state.session.turnLedger.get? turnId = some record → ReadsBack record) := by
  have replayable : Replayable state := by
    rw [reachable]
    exact replayable_run config actions
  refine ⟨?_, ?_, ?_⟩
  · intro request ready unpaused valid
    simp only [Runs.run_cons, Runs.run_nil, step, State.arriveSubmit, ready, ne_eq,
      not_true_eq_false, if_false, State.setRequest, State.passPause, get?_set_self,
      unpaused, Bool.false_eq_true, valid, set_set]
  · intro id request uuidHex turnId record waiting free notAborted repeats
    have fits := (replayable.turn repeats.found).1
    have admits := repeats.admits_iff fits notAborted uuidHex
    have entered : step config state (.enterSubmit id uuidHex) =
      state.enterSubmit config id uuidHex := rfl
    have unlocked : ¬ state.sessionLock.isSome = true := by simp [free]
    rw [entered, State.enterSubmit, waiting]
    simp only [if_neg unlocked]
    constructor
    · intro replayed
      by_contra closed
      rw [if_neg closed] at admits
      obtain ⟨error, refused⟩ := admits
      simp only [refused] at replayed
      have replies := congrArg State.replies replayed
      simp only [State.answer, List.append_cancel_left_eq] at replies
      cases replies
    · intro isOpen
      rw [if_pos isOpen] at admits
      simp only [admits]
      exact rfl
  · exact fun turnId record found => (replayable.turn found).2.readsBack

def hello : MessageRequest String :=
  { turnId := some "turn"
    messages := ["hello"] }

def submitAgain (result : CallResult String) : List (Action String) :=
  [.arriveSubmit hello, .passPause 0, .enterSubmit 0 "", .answerHealth 0 true,
    .resumeTurn "turn", .openScope "turn", .endCall "turn" result, .resumeTurn "turn",
    .settleUnknown "turn" true true, .arriveSubmit hello, .passPause 1]

def greeting : AdapterResponse String :=
  { outputs := ["hi"]
    backendSessionId := "backend" }

def helloRecord (status : TurnStatus) (response : Option (AdapterResponse String))
    (error : Option TurnError) : TurnRecord String :=
  { requestFingerprint := "hello"
    status := status
    requestMessages := ["hello"]
    response := response
    error := error
    createdAt := 0
    updatedAt := 0 }

def waitingAgain (maxTurns : Nat) (result : CallResult String) : State String :=
  Runs.run (step { plainConfig with maxTurns := maxTurns }) State.initial (submitAgain result)

theorem replayed_below_the_limit :
    Replayed (waitingAgain 2 (.returned greeting))
      (step { plainConfig with maxTurns := 2 } (waitingAgain 2 (.returned greeting))
        (.enterSubmit 1 "")) 1 "turn" .committed := by
  have general := replayed_iff_open_session { plainConfig with maxTurns := 2 }
    (submitAgain (.returned greeting)) (waitingAgain 2 (.returned greeting)) rfl
  refine (general.2.1 1 hello "" "turn" (helloRecord .committed (some greeting) none) rfl rfl ?_
    ⟨rfl, rfl, .inl rfl⟩).mpr ⟨?_, ?_⟩
  · decide +kernel
  · decide +kernel
  · decide +kernel

/-- The last turn the limit allows, and a turn whose unknown outcome desynced its session, are
refused when they are submitted again. -/
theorem refused_after_last_turn :
    (Repeats plainConfig (waitingAgain 1 (.returned greeting)).session hello "turn"
        (helloRecord .committed (some greeting) none) ∧
      (waitingAgain 1 (.returned greeting)).session.state = .active ∧
      ¬ Replayed (waitingAgain 1 (.returned greeting))
        (step plainConfig (waitingAgain 1 (.returned greeting)) (.enterSubmit 1 "")) 1 "turn"
        .committed) ∧
    ∃ record, Repeats plainConfig
        (waitingAgain 1 (.raised (.contextOverflow "too long"))).session hello "turn" record ∧
      record.status = .unknown ∧
      (waitingAgain 1 (.raised (.contextOverflow "too long"))).session.state = .desynced ∧
      ¬ Replayed (waitingAgain 1 (.raised (.contextOverflow "too long")))
        (step plainConfig (waitingAgain 1 (.raised (.contextOverflow "too long")))
          (.enterSubmit 1 "")) 1 "turn" .unknown := by
  refine ⟨⟨⟨rfl, rfl, .inl rfl⟩, by decide +kernel, ?_⟩,
    helloRecord .unknown none (some
      { error := "context_overflow"
        message := "too long"
        httpStatus := 413 }), ⟨rfl, rfl, .inl rfl⟩, rfl, by decide +kernel, ?_⟩
  · intro replayed
    have replies := congrArg State.replies replayed
    revert replies
    decide +kernel
  · intro replayed
    have replies := congrArg State.replies replayed
    revert replies
    decide +kernel

end Dressage.Blackbox

/-
What an action of the turn server can do.

Every action is a sequence of moves, each with the guard the server checks
before it. Invariants are proved for the moves. A move that loses a turn or its
backend call carries the condition under which it does not; the two conditions
are parameters, so that an invariant which does not need one drops it.
-/

import Mathlib.Logic.Relation
import Dressage.Blackbox.TurnServer

namespace Dressage.Blackbox

open Lib OrderedDict State

variable {Message : Type}

def Request.aborts : Request Message → Bool
  | .cancel _ aborting => aborting
  | .abort aborting => aborting.isSome
  | _ => false

def Request.holdsLock : Request Message → Bool
  | .submit _ (.checking _) => true
  | .abort (some acquired) => acquired
  | .command running => running
  | _ => false

def Request.isQuiet (request : Request Message) : Bool :=
  !request.aborts && !request.holdsLock

/-- Waiting for the session lock without a backend call to answer for, or with its call over:
a cancellation delivered here leaves the record as it is. -/
def TurnPhase.losesCancel : TurnPhase Message → Bool
  | .created => true
  | phase => phase.queuesForLock

def ModeFits (session : SessionContext Message) (turnId : TurnId) : Prop :=
  session.turnMode = some .explicit ∨
    session.turnMode = some .single ∧ session.defaultTurnId = some turnId

structure Quiet (before after : State Message) : Prop where
  ledger : after.session.turnLedger = before.session.turnLedger
  lock : after.sessionLock = before.sessionLock
  tasks : after.tasks = before.tasks
  activeTask : after.activeTask = before.activeTask
  events : after.events = before.events
  calls : after.calls = before.calls
  scope : after.scope = before.scope
  requests : ∀ {id request}, after.requests.get? id = some request →
    request.isQuiet = true ∨ before.requests.get? id = some request
  active : after.session.state = .active → before.session.state = .active
  aborted : before.session.state = .aborted → after.session.state = .aborted
  mode : ∀ {turnId}, ModeFits before.session turnId → ModeFits after.session turnId

inductive Queues (state : State Message) (turnId : TurnId) :
    TurnPhase Message → TurnPhase Message → Prop
  | start : Queues state turnId .created .starting
  | interrupt : Queues state turnId .calling .interrupted
  | outcome {result : CallResult Message} {outcome : Outcome Message}
    (done : state.callResult turnId = some result)
    (read : outcomeOf result = some outcome) :
    Queues state turnId .calling (.committing outcome)
  | timeout (done : (state.callResult turnId).isSome) :
    Queues state turnId .expiring (.committing (.unknown timeoutError false))

def Terminal (state : State Message) (turnId : TurnId) : Prop :=
  ∀ record, state.session.turnLedger.get? turnId = some record → record.status.isActive = false

def CallStopped (state : State Message) (turnId : TurnId) : Prop :=
  ∀ call, state.calls.get? turnId = some call → call.running = false

/-- A session that is shut down takes no further turn for the rest of a cancelled call to reach. -/
def CallOver (state : State Message) (turnId : TurnId) : Prop :=
  ∀ call, state.calls.get? turnId = some call →
    call.running = false ∧ (state.shutdownStarted = true ∨ call.result.isSome = true)

def AllStopped (state : State Message) : Prop :=
  ∀ turnId record, state.session.turnLedger.get? turnId = some record →
    record.status.isActive = true → CallStopped state turnId

def NoAbort (state : State Message) : Prop :=
  ∀ id request, state.requests.get? id = some request → request.aborts = false

def ActiveFlagged (state : State Message) : Prop :=
  ∀ turnId task, state.activeTask = some turnId → state.tasks.get? turnId = some task →
    task.phase.isEnded = true ∨ task.cancelRequested = true

inductive Finishes (settling : Prop) (state : State Message) (turnId : TurnId) :
    TurnPhase Message → Prop
  | notQueued (stale : ∀ record, state.session.turnLedger.get? turnId = some record →
    record.status ≠ .queued) : Finishes settling state turnId .starting
  | notInflight (outcome : Outcome Message)
    (stale : ∀ record, state.session.turnLedger.get? turnId = some record →
      record.status ≠ .inflight) : Finishes settling state turnId (.committing outcome)
  | cancelled {phase : TurnPhase Message} (queues : phase.queuesForLock = true)
    (settled : settling → Terminal state turnId) : Finishes settling state turnId phase

inductive Move (config : ServerConfig Message) (settling attributed : Prop) :
    State Message → State Message → Prop
  | quiet {before after : State Message} (same : Quiet before after) :
    Move config settling attributed before after
  | accept {state : State Message} {id : RequestId} {request : MessageRequest Message}
    {turnId : TurnId} {session : SessionContext Message}
    (free : state.sessionLock = none) (active : state.session.state = .active)
    (idle : state.session.activeTurnId = none)
    (new : state.session.turnLedger.get? turnId = none)
    (sameLedger : session.turnLedger = state.session.turnLedger)
    (sameState : session.state = state.session.state)
    (mode : ∀ {other}, ModeFits state.session other → ModeFits session other)
    (fits : ModeFits session turnId) :
    Move config settling attributed state
      ((({ state with session := session } : State Message).acquire (.request id)).setRequest id
        (.submit request (.checking turnId)))
  | create {state : State Message} {id : RequestId} {request : MessageRequest Message}
    {turnId : TurnId} {reply : Reply}
    (checking : state.requests.get? id = some (.submit request (.checking turnId))) :
    Move config settling attributed state
      ((createTurn config state turnId request).release.answer id reply)
  | leave {state : State Message} {id : RequestId} {request : Request Message} {reply : Reply}
    (present : state.requests.get? id = some request) (holds : request.holdsLock = true) :
    Move config settling attributed state (state.release.answer id reply)
  | command {state : State Message} {id : RequestId}
    (free : state.sessionLock = none) (idle : state.session.activeTurnId = none) :
    Move config settling attributed state
      ((state.acquire (.request id)).setRequest id (.command true))
  | flag {state : State Message} : Move config settling attributed state state.cancelActiveTask
  | abort {state : State Message} {id : RequestId} {request : Request Message}
    (flagged : ActiveFlagged state) (without : request.holdsLock = false) :
    Move config settling attributed state (state.setRequest id request)
  | abortHolding {state : State Message} {id : RequestId}
    (flagged : ActiveFlagged state) (free : state.sessionLock = none) :
    Move config settling attributed state
      ((state.setRequest id (.abort (some true))).acquire (.request id))
  | clearForAbort {state : State Message} {id : RequestId} {request : Request Message}
    (present : state.requests.get? id = some request) (aborts : request.aborts = true) :
    Move config settling attributed state { state with scope := none }
  | clearForUnwinding {state : State Message} {turnId : TurnId} {task : TurnTask Message}
    {processError : Bool} (present : state.tasks.get? turnId = some task)
    (phase : task.phase = .unwinding processError) :
    Move config settling attributed state { state with scope := none }
  | abortLedger {state : State Message}
    (stopped : attributed → AllStopped state) :
    Move config settling attributed state state.abortLedger
  | cancelQueued {state : State Message} {turnId : TurnId} {record : TurnRecord Message}
    (present : state.session.turnLedger.get? turnId = some record)
    (queued : record.status = .queued) :
    Move config settling attributed state
      ((state.setRecord turnId
        { record with
          status := .cancelled
          error := some cancelledBeforeExecution
          updatedAt := state.now }).setEvent turnId)
  | queue {state : State Message} {turnId : TurnId} {task : TurnTask Message}
    {phase : TurnPhase Message} (present : state.tasks.get? turnId = some task)
    (goes : Queues state turnId task.phase phase) :
    Move config settling attributed state (state.setTask turnId phase)
  | start {state : State Message} {turnId : TurnId} {task : TurnTask Message}
    {record : TurnRecord Message} (present : state.tasks.get? turnId = some task)
    (phase : task.phase = .starting) (free : state.sessionLock = none)
    (found : state.session.turnLedger.get? turnId = some record)
    (queued : record.status = .queued) (undisturbed : attributed → NoAbort state) :
    Move config settling attributed state
      (((state.setRecord turnId
        { record with
          status := .inflight
          updatedAt := state.now }).setCall turnId
        { opened := false
          cancelRequested := false
          result := none }).setTask turnId .calling)
  | finalize {state : State Message} {turnId : TurnId} {task : TurnTask Message}
    (present : state.tasks.get? turnId = some task) (phase : task.phase = .interrupted)
    (free : state.sessionLock = none)
    (callOver : attributed → ¬ Terminal state turnId → CallOver state turnId) :
    Move config settling attributed state ((state.finalizeInterruptedTurn turnId).endTask turnId)
  | commit {state : State Message} {turnId : TurnId} {task : TurnTask Message}
    {record : TurnRecord Message} {response : AdapterResponse Message}
    (present : state.tasks.get? turnId = some task)
    (phase : task.phase = .committing (.commit response)) (free : state.sessionLock = none)
    (found : state.session.turnLedger.get? turnId = some record)
    (inflight : record.status = .inflight) :
    Move config settling attributed state
      ((state.commitRecord turnId record response).endTask turnId)
  | unwind {state : State Message} {turnId : TurnId} {task : TurnTask Message}
    {record : TurnRecord Message} {error : TurnError} {processError : Bool}
    (present : state.tasks.get? turnId = some task)
    (phase : task.phase = .committing (.unknown error processError))
    (free : state.sessionLock = none)
    (found : state.session.turnLedger.get? turnId = some record)
    (inflight : record.status = .inflight) :
    Move config settling attributed state
      (((state.unknownRecord turnId record error).acquire (.turn turnId)).setTask turnId
        (.unwinding processError))
  | finish {state : State Message} {turnId : TurnId} {task : TurnTask Message}
    (present : state.tasks.get? turnId = some task)
    (finishes : Finishes settling state turnId task.phase) :
    Move config settling attributed state (state.endTask turnId)
  | vanish {state : State Message} {turnId : TurnId} {task : TurnTask Message}
    (present : state.tasks.get? turnId = some task) (phase : task.phase = .created)
    (settled : settling → Terminal state turnId) :
    Move config settling attributed state (state.setTask turnId .ended)
  | unwound {state : State Message} {turnId : TurnId} {task : TurnTask Message}
    {processError : Bool} (present : state.tasks.get? turnId = some task)
    (phase : task.phase = .unwinding processError) :
    Move config settling attributed state (state.release.endTask turnId)
  | expire {state : State Message} {turnId : TurnId} {call : BackendCall Message}
    {phase : TurnPhase Message} (present : state.tasks.get? turnId = some ⟨.calling, false⟩)
    (found : state.calls.get? turnId = some call) (unfinished : call.result = none)
    (goes : phase = .expiring ∨ phase = .committing (.unknown timeoutError false)) :
    Move config settling attributed state
      ((state.setCall turnId { call with cancelRequested := true }).setTask turnId phase)
  | openScope {state : State Message} {turnId : TurnId} {call : BackendCall Message}
    (found : state.calls.get? turnId = some call) (unfinished : call.result = none)
    (free : state.scope = none) :
    Move config settling attributed state
      { state.setCall turnId { call with opened := true } with scope := some turnId }
  | cancelCall {state : State Message} {turnId : TurnId} {task : TurnTask Message}
    {call : BackendCall Message} (present : state.tasks.get? turnId = some task)
    (phase : task.phase = .calling) (found : state.calls.get? turnId = some call)
    (unfinished : call.result = none) :
    Move config settling attributed state
      (state.setCall turnId { call with cancelRequested := true })
  | failCall {state : State Message} {turnId : TurnId} {call : BackendCall Message}
    {result : CallResult Message} (found : state.calls.get? turnId = some call)
    (unfinished : call.result = none) :
    Move config settling attributed state (state.setCall turnId { call with result := some result })
  | endCall {state : State Message} {turnId : TurnId} {call : BackendCall Message}
    {result : CallResult Message} (found : state.calls.get? turnId = some call)
    (unfinished : call.result = none) :
    Move config settling attributed state
      { state.setCall turnId { call with result := some result } with scope := none }

abbrev Moves (config : ServerConfig Message) (settling attributed : Prop) :
    State Message → State Message → Prop :=
  Relation.ReflTransGen (Move config settling attributed)

/-- A cancellation is not delivered to a turn whose record is still open while its task waits
to start or to record its outcome. -/
def SafeDelivery (state : State Message) : Action Message → Prop
  | .resumeTurn turnId =>
    ∀ task, state.tasks.get? turnId = some task → task.cancelRequested = true →
      task.phase.losesCancel = true → Terminal state turnId
  | _ => True

def State.recordsInterruption (state : State Message) (turnId : TurnId) : Bool :=
  match state.tasks.get? turnId with
  | some ⟨.calling, true⟩ => !state.lockTaken
  | some ⟨.interrupted, false⟩ => state.sessionLock.isNone
  | _ => false

def State.startsCall (state : State Message) (turnId : TurnId) : Bool :=
  match state.tasks.get? turnId with
  | some ⟨.created, false⟩ => !state.lockTaken
  | some ⟨.starting, false⟩ => state.sessionLock.isNone
  | _ => false

def State.settlesAbort (state : State Message) (id : RequestId) : Bool :=
  match state.requests.get? id with
  | some (.abort (some _)) => true
  | _ => false

/-- A cancelled turn is recorded as such only after its backend call ended, a shutdown and an
abort settle a turn only after its call was cancelled at least, and a turn starts its call only
when no abort of the adapter is under way. -/
def SafeCalls (state : State Message) : Action Message → Prop
  | .resumeTurn turnId =>
    (state.recordsInterruption turnId = true → ¬ Terminal state turnId → CallOver state turnId) ∧
    (state.startsCall turnId = true → NoAbort state)
  | .abortReturned id _ => state.settlesAbort id = true → AllStopped state
  | _ => True

section Decidable

variable (state : State Message)

instance (turnId : TurnId) : Decidable (Terminal state turnId) :=
  inferInstanceAs (Decidable (∀ record ∈ state.session.turnLedger.get? turnId,
    record.status.isActive = false))

instance (turnId : TurnId) : Decidable (CallStopped state turnId) :=
  inferInstanceAs (Decidable (∀ call ∈ state.calls.get? turnId, call.running = false))

instance (turnId : TurnId) : Decidable (CallOver state turnId) :=
  inferInstanceAs (Decidable (∀ call ∈ state.calls.get? turnId,
    call.running = false ∧ (state.shutdownStarted = true ∨ call.result.isSome = true)))

theorem noAbort_iff : NoAbort state ↔ ∀ entry ∈ state.requests.entries, entry.2.aborts = false := by
  constructor
  · intro noAbort entry member
    exact noAbort entry.1 entry.2 (get?_of_mem member)
  · intro all id request present
    exact all (id, request) (mem_of_get? present)

instance : Decidable (NoAbort state) := decidable_of_iff _ (noAbort_iff state).symm

theorem allStopped_iff : AllStopped state ↔
    ∀ entry ∈ state.session.turnLedger.entries, entry.2.status.isActive = true →
      CallStopped state entry.1 := by
  constructor
  · intro stopped entry member
    exact stopped entry.1 entry.2 (get?_of_mem member)
  · intro all turnId record found
    exact all (turnId, record) (mem_of_get? found)

instance : Decidable (AllStopped state) := decidable_of_iff _ (allStopped_iff state).symm

instance (action : Action Message) : Decidable (SafeCalls state action) := by
  cases action <;> dsimp only [SafeCalls] <;> infer_instance

end Decidable

namespace State

variable (state : State Message) (turnId : TurnId) (phase : TurnPhase Message)

@[simp] theorem desync_turnLedger (session : SessionContext Message) :
    (desync session).turnLedger = session.turnLedger := by
  unfold desync
  split <;> rfl

theorem desync_aborted {session : SessionContext Message} (aborted : session.state = .aborted) :
    (desync session).state = .aborted := by
  rw [desync, if_pos aborted]
  exact aborted

theorem desync_not_active (session : SessionContext Message) :
    (desync session).state ≠ .active := by
  unfold desync
  by_cases aborted : session.state = .aborted
  · rw [if_pos aborted, aborted]
    exact fun same => by cases same
  · rw [if_neg aborted]
    exact fun same => by cases same

theorem request_setRequest {state : State Message} {id other : RequestId}
    {request found : Request Message}
    (present : (state.setRequest id request).requests.get? other = some found) :
    found = request ∨ state.requests.get? other = some found := by
  by_cases same : other = id
  · subst other
    rw [setRequest, get?_set_self] at present
    exact .inl (Option.some.inj present).symm
  · rw [setRequest, get?_set_of_ne _ _ same] at present
    exact .inr present

theorem request_answer {state : State Message} {id other : RequestId}
    {found : Request Message} (present : (state.requests.pop id).get? other = some found) :
    state.requests.get? other = some found := by
  by_cases same : other = id
  · subst other
    rw [get?_pop_self] at present
    cases present
  · rw [get?_pop_of_ne _ same] at present
    exact present

theorem task_setTask : (state.setTask turnId phase).tasks.get? turnId = some ⟨phase, false⟩ := by
  simp [setTask]

theorem endTask_setTask : (state.setTask turnId phase).endTask turnId = state.endTask turnId := by
  simp only [endTask, setTask, setEvent, set_set]
  rfl

theorem startTurn_setTask :
    (state.setTask turnId phase).startTurn turnId = state.startTurn turnId := by
  unfold startTurn
  rw [endTask_setTask]
  simp [setTask, setRecord, setCall, watchPause]
  rfl

theorem finalizeInterruptedTurn_setTask :
    ((state.setTask turnId phase).finalizeInterruptedTurn turnId).endTask turnId =
      (state.finalizeInterruptedTurn turnId).endTask turnId := by
  rw [← endTask_setTask (state.finalizeInterruptedTurn turnId) turnId phase]
  congr 1
  unfold finalizeInterruptedTurn
  have sameLedger : (state.setTask turnId phase).session = state.session := rfl
  rw [sameLedger]
  cases state.session.turnLedger.get? turnId with
  | none => rfl
  | some record =>
    by_cases settled : record.status.isActive = false
    · simp only [if_pos settled]
    · by_cases shutdown : state.shutdownStarted = true
      · have shutdownToo : (state.setTask turnId phase).shutdownStarted = true := shutdown
        simp only [if_neg settled, if_pos shutdown, if_pos shutdownToo]
        rfl
      · have runningToo : ¬ (state.setTask turnId phase).shutdownStarted = true := shutdown
        simp only [if_neg settled, if_neg shutdown, if_neg runningToo]
        rfl

theorem settleTurn_setTask (outcome : Outcome Message) :
    (state.setTask turnId phase).settleTurn turnId outcome = state.settleTurn turnId outcome := by
  unfold settleTurn
  rw [endTask_setTask]
  have sameLedger : (state.setTask turnId phase).session = state.session := rfl
  rw [sameLedger]
  cases state.session.turnLedger.get? turnId with
  | none => rfl
  | some record =>
    simp only
    split
    · rfl
    · cases outcome with
      | commit response =>
        simp only
        rw [← endTask_setTask (state.commitRecord turnId record response) turnId phase]
        rfl
      | unknown error processError =>
        simp [setTask, unknownRecord, acquire]

theorem lock_free_of_not_taken {state : State Message} (free : ¬ state.lockTaken = true) :
    state.sessionLock = none := by
  cases held : state.sessionLock with
  | none => rfl
  | some holder => simp [lockTaken, held] at free

end State

namespace Quiet

variable {before after last : State Message}

variable (state : State Message)

theorem refl : Quiet state state :=
  { ledger := rfl
    lock := rfl
    tasks := rfl
    activeTask := rfl
    events := rfl
    calls := rfl
    scope := rfl
    requests := .inr
    active := id
    aborted := id
    mode := id }

theorem trans (first : Quiet before after) (second : Quiet after last) : Quiet before last :=
  { ledger := second.ledger.trans first.ledger
    lock := second.lock.trans first.lock
    tasks := second.tasks.trans first.tasks
    activeTask := second.activeTask.trans first.activeTask
    events := second.events.trans first.events
    calls := second.calls.trans first.calls
    scope := second.scope.trans first.scope
    requests := by
      intro id request present
      rcases second.requests present with quiet | earlier
      · exact .inl quiet
      · exact first.requests earlier
    active := first.active ∘ second.active
    aborted := second.aborted ∘ first.aborted
    mode := second.mode ∘ first.mode }

theorem answer (id : RequestId) (reply : Reply) : Quiet state (state.answer id reply) :=
  { refl state with
    requests := fun present => .inr (request_answer present) }

theorem setRequest (id : RequestId) {request : Request Message} (quiet : request.isQuiet = true) :
    Quiet state (state.setRequest id request) :=
  { refl state with
    requests := by
      intro other found present
      rcases request_setRequest present with same | earlier
      · rw [same]
        exact .inl quiet
      · exact .inr earlier }

theorem watchPause (turnId : TurnId) : Quiet state (state.watchPause turnId) :=
  { refl state with }

theorem setPaused (paused : Bool) : Quiet state (state.setPaused paused) :=
  { refl state with }

theorem markBackendError : Quiet state state.markBackendError := by
  unfold State.markBackendError
  by_cases errored : state.serverState = .error
  · rw [if_pos errored]
    exact refl state
  · rw [if_neg errored]
    by_cases aborted : state.session.state = .aborted
    · simp only [if_pos aborted]
      exact { refl state with }
    · simp only [if_neg aborted]
      exact
        { refl state with
          active := by
            intro active
            cases active
          aborted := fun was => absurd was aborted }

end Quiet

section Actions

variable {config : ServerConfig Message} {settling attributed : Prop} {state : State Message}
  {turnId : TurnId} {task : TurnTask Message}

section

variable (present : state.tasks.get? turnId = some task)
include present

theorem moves_startTurn (phase : task.phase = .starting) (free : state.sessionLock = none)
    (undisturbed : attributed → NoAbort state) :
    Moves config settling attributed state (state.startTurn turnId) := by
  unfold startTurn
  cases found : state.session.turnLedger.get? turnId with
  | none =>
    refine .single (.finish present ?_)
    rw [phase]
    exact .notQueued (fun record other => by cases found.symm.trans other)
  | some record =>
    by_cases queued : record.status = .queued
    · simp only [ne_eq, queued, not_true_eq_false, if_false]
      exact .head (.quiet (.watchPause state turnId))
        (.single (.start present phase free found queued undisturbed))
    · simp only [ne_eq, queued, not_false_eq_true, if_true]
      refine .single (.finish present ?_)
      rw [phase]
      refine .notQueued (fun other same => ?_)
      cases found.symm.trans same
      exact queued

theorem moves_settleTurn {outcome : Outcome Message} (phase : task.phase = .committing outcome)
    (free : state.sessionLock = none) :
    Moves config settling attributed state (state.settleTurn turnId outcome) := by
  unfold settleTurn
  cases found : state.session.turnLedger.get? turnId with
  | none =>
    refine .single (.finish present ?_)
    rw [phase]
    exact .notInflight outcome (fun record other => by cases found.symm.trans other)
  | some record =>
    by_cases inflight : record.status = .inflight
    · simp only [ne_eq, inflight, not_true_eq_false, if_false]
      cases outcome with
      | commit response => exact .single (.commit present phase free found inflight)
      | unknown error processError => exact .single (.unwind present phase free found inflight)
    · simp only [ne_eq, inflight, not_false_eq_true, if_true]
      refine .single (.finish present ?_)
      rw [phase]
      refine .notInflight outcome (fun other same => ?_)
      cases found.symm.trans same
      exact inflight

theorem moves_conclude {outcome : Outcome Message}
    (goes : Queues state turnId task.phase (.committing outcome)) :
    Moves config settling attributed state (state.conclude turnId outcome) := by
  have queued : Move config settling attributed state
    (state.setTask turnId (.committing outcome)) := .queue present goes
  unfold conclude
  by_cases taken : state.lockTaken = true
  · rw [if_pos taken]
    exact .single queued
  · rw [if_neg taken, ← settleTurn_setTask state turnId (.committing outcome)]
    have free : state.sessionLock = none := lock_free_of_not_taken taken
    exact .head queued (moves_settleTurn (task_setTask state turnId _) rfl free)

theorem moves_interrupt (phase : task.phase = .calling)
    (callOver : attributed → ¬ state.lockTaken = true → ¬ Terminal state turnId →
      CallOver state turnId) :
    Moves config settling attributed state (state.interrupt turnId) := by
  have queued : Move config settling attributed state (state.setTask turnId .interrupted) := by
    refine .queue present ?_
    rw [phase]
    exact .interrupt
  unfold interrupt
  by_cases taken : state.lockTaken = true
  · rw [if_pos taken]
    exact .single queued
  · rw [if_neg taken, ← finalizeInterruptedTurn_setTask state turnId .interrupted]
    have free : state.sessionLock = none := lock_free_of_not_taken taken
    exact .head queued (.single (.finalize (task_setTask state turnId _) rfl free
      (fun holds => callOver holds taken)))

theorem moves_deliverCancel
    (settled : settling → task.phase.losesCancel = true → Terminal state turnId)
    (callOver : attributed → task.phase = .calling → ¬ state.lockTaken = true →
      ¬ Terminal state turnId → CallOver state turnId) :
    Moves config settling attributed state (state.deliverCancel turnId task.phase) := by
  cases phase : task.phase with
  | created =>
    exact .single (.vanish present phase (fun holds => settled holds (by rw [phase]; rfl)))
  | calling => exact moves_interrupt present phase (fun holds => callOver holds phase)
  | expiring =>
    simp only [deliverCancel]
    by_cases done : (state.callResult turnId).isSome
    · rw [if_pos done]
      refine moves_conclude present ?_
      rw [phase]
      exact .timeout done
    · rw [if_neg done]
  | unwinding processError => exact .single (.unwound present phase)
  | ended => exact .refl
  | starting | interrupted | committing outcome =>
    refine .single (.finish present ?_)
    rw [phase]
    exact .cancelled rfl (fun holds => settled holds (by rw [phase]; rfl))

theorem moves_wakeWait (phase : task.phase = .calling)
    (unfinished : state.callResult turnId = none) :
    Moves config settling attributed state (state.wakeWait turnId) := by
  unfold wakeWait
  split
  · refine .head (.quiet (.watchPause state turnId)) ?_
    unfold cancelCall
    split
    · exact .refl
    · next call found =>
        have found : state.calls.get? turnId = some call := found
        simp only [callResult, found, Option.bind_some] at unfinished
        exact .single (.cancelCall present phase found unfinished)
  · exact .refl

theorem moves_proceed
    (callOver : attributed → task.phase = .interrupted → state.sessionLock = none →
      ¬ Terminal state turnId → CallOver state turnId)
    (undisturbed : attributed →
      (task.phase = .created ∧ ¬ state.lockTaken = true ∨
        task.phase = .starting ∧ state.sessionLock = none) → NoAbort state) :
    Moves config settling attributed state (state.proceed turnId task.phase) := by
  cases phase : task.phase with
  | created =>
    have queued : Move config settling attributed state (state.setTask turnId .starting) := by
      refine .queue present ?_
      rw [phase]
      exact .start
    simp only [proceed]
    by_cases taken : state.lockTaken = true
    · rw [if_pos taken]
      exact .single queued
    · rw [if_neg taken, ← startTurn_setTask state turnId .starting]
      have free : state.sessionLock = none := lock_free_of_not_taken taken
      exact .head queued (moves_startTurn (task_setTask state turnId _) rfl free
        (fun holds => undisturbed holds (.inl ⟨phase, taken⟩)))
  | starting =>
    simp only [proceed]
    cases lock : state.sessionLock with
    | some holder => exact .refl
    | none =>
      exact moves_startTurn present phase lock
        (fun holds => undisturbed holds (.inr ⟨phase, lock⟩))
  | calling =>
    simp only [proceed]
    cases done : state.callResult turnId with
    | none => exact moves_wakeWait present phase done
    | some result =>
      cases read : outcomeOf result with
      | none =>
        simp only [read]
        refine moves_interrupt present phase (fun _ _ _ call found => ?_)
        -- A call with a result is over.
        simp only [callResult, found, Option.bind_some] at done
        simp [BackendCall.running, done]
      | some outcome =>
        simp only [read]
        refine moves_conclude present ?_
        rw [phase]
        exact .outcome done read
  | expiring =>
    simp only [proceed]
    by_cases done : (state.callResult turnId).isSome
    · rw [if_pos done]
      refine moves_conclude present ?_
      rw [phase]
      exact .timeout done
    · rw [if_neg done]
  | interrupted =>
    simp only [proceed]
    cases lock : state.sessionLock with
    | some holder => exact .refl
    | none =>
      exact .single (.finalize present phase lock (fun holds => callOver holds phase lock))
  | committing outcome =>
    simp only [proceed]
    cases lock : state.sessionLock with
    | some holder => exact .refl
    | none => exact moves_settleTurn present phase lock
  | unwinding processError => exact .refl
  | ended => exact .refl

end

theorem moves_resumeTurn (turnId : TurnId)
    (safe : settling → SafeDelivery state (.resumeTurn turnId))
    (calls : attributed → SafeCalls state (.resumeTurn turnId)) :
    Moves config settling attributed state (state.resumeTurn turnId) := by
  unfold resumeTurn
  cases present : state.tasks.get? turnId with
  | none => exact .refl
  | some task =>
    rcases task with ⟨phase, cancelRequested⟩
    cases cancelRequested with
    | true =>
      refine moves_deliverCancel present ?_ ?_
      · exact fun holds => safe holds _ present rfl
      · intro holds calling free
        refine (calls holds).1 ?_
        subst calling
        simp [recordsInterruption, present, free]
    | false =>
      refine moves_proceed present ?_ ?_
      · intro holds interrupted free
        refine (calls holds).1 ?_
        subst interrupted
        simp [recordsInterruption, present, free]
      · intro holds starts
        refine (calls holds).2 ?_
        rcases starts with ⟨created, free⟩ | ⟨starting, free⟩
        · subst created
          simp [startsCall, present, free]
        · subst starting
          simp [startsCall, present, free]

theorem moves_expireTurn (turnId : TurnId) (waits : Bool) :
    Moves config settling attributed state (state.expireTurn turnId waits) := by
  unfold expireTurn
  split
  · next call present found =>
      by_cases goesOn : call.result.isSome ∨ (state.watches.get? turnId).isSome
      · rw [if_pos goesOn]
      · rw [if_neg goesOn]
        have unfinished : call.result = none := by simpa using (not_or.mp goesOn).1
        cases waits with
        | true => exact .single (.expire present found unfinished (.inl rfl))
        | false =>
          simp only [Bool.false_eq_true, if_false, conclude]
          have queued : Move config settling attributed state
              ((state.setCall turnId { call with cancelRequested := true }).setTask turnId
                (.committing (.unknown timeoutError false))) :=
            .expire present found unfinished (.inr rfl)
          by_cases taken : (state.setCall turnId
            { call with cancelRequested := true }).lockTaken = true
          · rw [if_pos taken]
            exact .single queued
          · rw [if_neg taken, ← settleTurn_setTask _ turnId
              (.committing (.unknown timeoutError false))]
            have free : state.sessionLock = none := lock_free_of_not_taken taken
            exact .head queued (moves_settleTurn (task_setTask _ turnId _) rfl free)
  · exact .refl

theorem moves_settleUnknown (turnId : TurnId) (cleared healthy : Bool) :
    Moves config settling attributed state (state.settleUnknown turnId cleared healthy) := by
  unfold settleUnknown
  split
  · next processError present =>
      have clears : Moves config settling attributed state
          { state with scope := if cleared then none else state.scope } := by
        cases cleared with
        | false => exact .refl
        | true => exact .single (.clearForUnwinding present rfl)
      refine clears.trans ?_
      by_cases failed : healthy = false ∨ processError = true
      · simp only [if_pos failed]
        have marked := Quiet.markBackendError
          { state with scope := if cleared then none else state.scope }
        have stillUnwinding := present
        rw [← marked.tasks] at stillUnwinding
        exact .head (.quiet marked) (.single (.unwound stillUnwinding rfl))
      · simp only [if_neg failed]
        exact .single (.unwound present rfl)
  · exact .refl

theorem moves_openScope (turnId : TurnId) :
    Moves config settling attributed state (state.openScope turnId) := by
  unfold openScope
  cases found : state.calls.get? turnId with
  | none => exact .refl
  | some call =>
    by_cases started : call.result.isSome ∨ call.opened = true
    · simp only [if_pos started]
      exact .refl
    · simp only [if_neg started]
      have unfinished : call.result = none := by
        have unstarted := not_or.mp started
        simpa using unstarted.1
      by_cases cancelled : call.cancelRequested = true
      · simp only [if_pos cancelled]
        exact .single (.failCall found unfinished)
      · simp only [if_neg cancelled]
        cases scope : state.scope with
        | some other => exact .single (.failCall found unfinished)
        | none => exact .single (.openScope found unfinished scope)

theorem moves_endCall (turnId : TurnId) (result : CallResult Message) :
    Moves config settling attributed state (state.endCall turnId result) := by
  unfold endCall
  cases found : state.calls.get? turnId with
  | none => exact .refl
  | some call =>
    by_cases complete : call.result.isSome
    · simp only [if_pos complete]
      exact .refl
    · simp only [if_neg complete]
      have unfinished : call.result = none := by simpa using complete
      by_cases opened : call.opened = true
      · simp only [if_pos opened]
        exact .single (.endCall found unfinished)
      · simp only [if_neg opened]
        cases result with
        | returned response => exact .refl
        | raised failure => exact .single (.failCall found unfinished)

theorem resolveTurnId_keeps (session : SessionContext Message) (requestTurnId : Option TurnId)
    (uuidHex : String) :
    (resolveTurnId session requestTurnId uuidHex).2.turnLedger = session.turnLedger ∧
      (resolveTurnId session requestTurnId uuidHex).2.state = session.state := by
  unfold resolveTurnId
  split
  · split <;> exact ⟨rfl, rfl⟩
  · split
    · split <;> exact ⟨rfl, rfl⟩
    · exact ⟨rfl, rfl⟩
    · exact ⟨rfl, rfl⟩

variable {session : SessionContext Message}

theorem resolveTurnId_mode {turnId : TurnId} (fits : ModeFits session turnId)
    (requestTurnId : Option TurnId) (uuidHex : String) :
    ModeFits (resolveTurnId session requestTurnId uuidHex).2 turnId := by
  rcases fits with explicit | ⟨single, default⟩
  · cases requestTurnId with
    | none => simp [resolveTurnId, explicit, ModeFits]
    | some requested => simp [resolveTurnId, explicit, ModeFits]
  · cases requestTurnId with
    | none => simp [resolveTurnId, single, default, ModeFits]
    | some requested =>
      simp only [resolveTurnId, single]
      split <;> exact .inr ⟨single, default⟩

theorem resolveTurnId_fits {resolved : SessionContext Message} {turnId : TurnId}
    {requestTurnId : Option TurnId} {uuidHex : String}
    (resolves : resolveTurnId session requestTurnId uuidHex = (.ok turnId, resolved)) :
    ModeFits resolved turnId := by
  unfold resolveTurnId at resolves
  cases requestTurnId with
  | none =>
    simp only at resolves
    split at resolves
    · cases resolves
    · next single default =>
        cases resolves
        exact .inr ⟨single, default⟩
    · cases resolves
      exact .inr ⟨rfl, rfl⟩
  | some requested =>
    simp only at resolves
    split at resolves
    · next single =>
        split at resolves
        · next default =>
            cases resolves
            exact .inr ⟨single, default⟩
        · cases resolves
    · next explicit =>
        cases resolves
        exact .inl explicit
    · cases resolves
      exact .inl rfl

/-- Admission changes no record and no session state, and a new turn is admitted only into an
active session without an active record. -/
structure Admitted (session : SessionContext Message) (admission : Admission)
    (resolved : SessionContext Message) : Prop where
  ledger : resolved.turnLedger = session.turnLedger
  state : resolved.state = session.state
  mode : ∀ {turnId}, ModeFits session turnId → ModeFits resolved turnId
  new : ∀ turnId, admission = .new turnId → session.state = .active ∧
    session.activeTurnId = none ∧ session.turnLedger.get? turnId = none ∧ ModeFits resolved turnId

theorem Admitted.of_refused {resolved : SessionContext Message} {error : ApiError}
    (ledger : resolved.turnLedger = session.turnLedger) (state : resolved.state = session.state)
    (mode : ∀ {turnId}, ModeFits session turnId → ModeFits resolved turnId) :
    Admitted session (.refused error) resolved :=
  { ledger := ledger
    state := state
    mode := mode
    new := by
      intro turnId new
      cases new }

theorem admitTurn_admitted (config : ServerConfig Message) (session : SessionContext Message)
    (request : MessageRequest Message) (uuidHex : String) :
    Admitted session (admitTurn config session request uuidHex).1
      (admitTurn config session request uuidHex).2 := by
  have keeps := resolveTurnId_keeps session request.turnId uuidHex
  have mode {turnId : TurnId} (fits : ModeFits session turnId) :=
    resolveTurnId_mode fits request.turnId uuidHex
  unfold admitTurn
  by_cases aborted : session.state = .aborted
  · simp only [if_pos aborted]
    exact .of_refused rfl rfl id
  by_cases desynced : session.state = .desynced
  · simp only [if_neg aborted, if_pos desynced]
    exact .of_refused rfl rfl id
  simp only [if_neg aborted, if_neg desynced]
  by_cases full : config.maxTurns ≤ session.turnCount
  · simp only [if_pos full]
    exact .of_refused rfl rfl id
  simp only [if_neg full]
  have active : session.state = .active := by
    cases state : session.state with
    | active => rfl
    | desynced => exact absurd state desynced
    | aborted => exact absurd state aborted
  rcases resolution : resolveTurnId session request.turnId uuidHex with ⟨_ | turnId, resolved⟩
  · rw [resolution] at keeps mode
    exact .of_refused keeps.1 keeps.2 mode
  · rw [resolution] at keeps mode
    simp only at keeps mode ⊢
    cases found : resolved.turnLedger.get? turnId with
    | some existing =>
      simp only
      by_cases different : existing.requestFingerprint ≠ config.fingerprint request.messages
      · rw [if_pos different]
        exact .of_refused keeps.1 keeps.2 mode
      · rw [if_neg different]
        exact
          { ledger := keeps.1
            state := keeps.2
            mode := mode
            new := by
              intro other new
              cases new }
    | none =>
      simp only
      cases busy : resolved.activeTurnId with
      | some other => exact .of_refused keeps.1 keeps.2 mode
      | none =>
        refine
          { ledger := keeps.1
            state := keeps.2
            mode := mode
            new := ?_ }
        intro other new
        cases new
        rw [keeps.1] at found
        rw [SessionContext.activeTurnId, keeps.1] at busy
        exact ⟨active, busy, found, resolveTurnId_fits resolution⟩

variable (id : RequestId)

theorem moves_enterSubmit (uuidHex : String) :
    Moves config settling attributed state (state.enterSubmit config id uuidHex) := by
  unfold enterSubmit
  split
  · next request present =>
      by_cases taken : state.sessionLock.isSome
      · rw [if_pos taken]
      · rw [if_neg taken]
        have lock : state.sessionLock = none := by simpa using taken
        have admitted := admitTurn_admitted config state.session request uuidHex
        generalize admitTurn config state.session request uuidHex = admission at admitted
        rcases admission with ⟨admission, session⟩
        have resolved : Quiet state { state with session := session } :=
          { Quiet.refl state with
            ledger := admitted.ledger
            active := fun active => admitted.state.symm.trans active
            aborted := fun aborted => admitted.state.trans aborted
            mode := admitted.mode }
        cases admission with
        | refused error | replay turnId status =>
          exact .single (.quiet (resolved.trans (.answer _ _ _)))
        | new turnId =>
          have fresh := admitted.new turnId rfl
          exact .single (.accept lock fresh.1 fresh.2.1 fresh.2.2.1 admitted.ledger
            admitted.state admitted.mode fresh.2.2.2)
  · exact .refl

theorem moves_answerHealth (healthy : Bool) :
    Moves config settling attributed state (state.answerHealth config id healthy) := by
  unfold answerHealth
  split
  · next request turnId present =>
      cases healthy with
      | true => exact .single (.create present)
      | false =>
        have marked := Quiet.markBackendError state
        by_cases errored : state.serverState = .error
        · have same : state.markBackendError = state := by
            rw [markBackendError, if_pos errored]
          simp only [Bool.false_eq_true, if_false, same]
          exact .single (.leave present rfl)
        · have stillChecking : state.markBackendError.requests.get? id =
              some (.submit request (.checking turnId)) := by
            rw [markBackendError, if_neg errored]
            exact present
          exact .head (.quiet marked) (.single (.leave stillChecking rfl))
  · exact .refl

theorem cancelActiveTask_cases (state : State Message) :
    state.cancelActiveTask = state ∧ ActiveFlagged state ∨
      ∃ turnId task, state.activeTask = some turnId ∧ state.tasks.get? turnId = some task ∧
        task.phase.isEnded = false ∧
        state.cancelActiveTask =
          { state with tasks := state.tasks.set turnId { task with cancelRequested := true } } := by
  cases current : state.activeTask with
  | none =>
    refine .inl ⟨by simp [cancelActiveTask, current], ?_⟩
    intro turnId task active
    cases current.symm.trans active
  | some turnId =>
    cases present : state.tasks.get? turnId with
    | none =>
      refine .inl ⟨by simp [cancelActiveTask, current, present], ?_⟩
      intro other task active found
      cases current.symm.trans active
      cases present.symm.trans found
    | some task =>
      cases ended : task.phase.isEnded with
      | true =>
        refine .inl ⟨by simp [cancelActiveTask, current, present, ended], ?_⟩
        intro other otherTask active found
        cases current.symm.trans active
        cases present.symm.trans found
        exact .inl ended
      | false =>
        refine .inr ⟨turnId, task, rfl, present, ended, ?_⟩
        simp [cancelActiveTask, current, present, ended]

theorem activeFlagged_cancelActiveTask (state : State Message) :
    ActiveFlagged state.cancelActiveTask := by
  rcases cancelActiveTask_cases state with
    ⟨same, flagged⟩ | ⟨turnId, task, current, present, live, changed⟩
  · rw [same]
    exact flagged
  · rw [changed]
    intro other otherTask active found
    cases current.symm.trans active
    rw [get?_set_self] at found
    cases found
    exact .inr rfl

theorem moves_enterCancel : Moves config settling attributed state (state.enterCancel id) := by
  unfold enterCancel
  split
  · next turnId present =>
      by_cases taken : state.sessionLock.isSome
      · rw [if_pos taken]
      · rw [if_neg taken]
        cases found : state.session.turnLedger.get? turnId with
        | none => exact .single (.quiet (.answer _ _ _))
        | some record =>
          cases status : record.status with
          | queued =>
            simp only [status]
            exact .head (.cancelQueued found status) (.single (.quiet (.answer _ _ _)))
          | inflight =>
            simp only [status]
            exact .head .flag (.single (.abort (activeFlagged_cancelActiveTask state) rfl))
          | committed | failed | cancelled | unknown =>
            simp only [status]
            exact .single (.quiet (.answer _ _ _))
  · exact .refl

theorem cancelActiveTask_lock (state : State Message) :
    state.cancelActiveTask.sessionLock = state.sessionLock := by
  rcases cancelActiveTask_cases state with ⟨same, -⟩ | ⟨turnId, task, -, -, -, changed⟩
  · rw [same]
  · rw [changed]

theorem moves_enterAbort (acquired : Bool) :
    Moves config settling attributed state (state.enterAbort id acquired) := by
  unfold enterAbort
  split
  · next present =>
      by_cases blocked : acquired = true ∧ state.sessionLock.isSome
      · rw [if_pos blocked]
      · rw [if_neg blocked]
        by_cases aborted : state.session.state = .aborted
        · rw [if_pos aborted]
          exact .single (.quiet (.answer _ _ _))
        · rw [if_neg aborted]
          have flagged := activeFlagged_cancelActiveTask state
          cases acquired with
          | false => exact .head .flag (.single (.abort flagged rfl))
          | true =>
            have free : state.cancelActiveTask.sessionLock = none := by
              rw [cancelActiveTask_lock]
              simpa using blocked
            exact .head .flag (.single (.abortHolding flagged free))
  · exact .refl

theorem moves_abortReturned (cleared : Bool)
    (calls : attributed → SafeCalls state (.abortReturned id cleared)) :
    Moves config settling attributed state (state.abortReturned id cleared) := by
  have clears (request : Request Message) (present : state.requests.get? id = some request)
      (aborts : request.aborts = true) : Moves config settling attributed state
        { state with scope := if cleared then none else state.scope } := by
    cases cleared with
    | false => exact .refl
    | true => exact .single (.clearForAbort present aborts)
  simp only [abortReturned]
  generalize (if cleared = true then none else state.scope) = scope at clears
  split
  · next turnId present =>
      exact (clears _ present rfl).trans (.single (.quiet (.answer _ _ _)))
  · next acquired present =>
      refine (clears _ present rfl).trans ?_
      have settles : Move config settling attributed
          { state with scope := scope } (abortLedger { state with scope := scope }) :=
        .abortLedger (fun holds => calls holds (by rw [settlesAbort, present]))
      cases acquired with
      | false => exact .head settles (.single (.quiet (.answer _ _ _)))
      | true => exact .head settles (.single (.leave present rfl))
  · exact .refl

theorem moves_enterCommand : Moves config settling attributed state (state.enterCommand id) := by
  unfold enterCommand
  split
  · next present =>
      by_cases taken : state.sessionLock.isSome
      · rw [if_pos taken]
      · rw [if_neg taken]
        have lock : state.sessionLock = none := by simpa using taken
        split
        · exact .single (.quiet (.answer _ _ _))
        · split
          · exact .single (.quiet (.answer _ _ _))
          · cases idle : state.session.activeTurnId with
            | some other => exact .single (.quiet (.answer _ _ _))
            | none => exact .single (.command lock idle)
  · exact .refl

theorem moves_endCommand : Moves config settling attributed state (state.endCommand id) := by
  unfold endCommand
  split
  · next present => exact .single (.leave present rfl)
  · exact .refl

theorem moves_passPause : Moves config settling attributed state (state.passPause config id) := by
  unfold passPause
  split
  · split
    · exact .refl
    · split
      · exact .single (.quiet (.answer _ _ _))
      · exact .single (.quiet (.setRequest _ _ rfl))
  · exact .refl

theorem Quiet.of_server (state : State Message) (now : Nat) (serverState : ServerState)
    (shutdownStarted : Bool) (nextRequest : RequestId) :
    Quiet state
      { state with
        now := now
        serverState := serverState
        shutdownStarted := shutdownStarted
        nextRequest := nextRequest } :=
  { Quiet.refl state with }

theorem moves_arrive (request : Request Message) (quiet : request.isQuiet = true) :
    Moves config settling attributed state
      (({ state with nextRequest := state.nextRequest + 1 } : State Message).setRequest
        state.nextRequest request) :=
  .single (.quiet ((Quiet.of_server state state.now state.serverState state.shutdownStarted
    (state.nextRequest + 1)).trans (.setRequest _ _ quiet)))

theorem moves_refuse (reply : Reply) :
    Moves config settling attributed state
      (({ state with nextRequest := state.nextRequest + 1 } : State Message).answer
        state.nextRequest reply) :=
  .single (.quiet ((Quiet.of_server state state.now state.serverState state.shutdownStarted
    (state.nextRequest + 1)).trans (.answer _ _ _)))

end Actions

theorem moves_of_step (config : ServerConfig Message) {settling attributed : Prop}
    (state : State Message) (action : Action Message)
    (safe : settling → SafeDelivery state action)
    (calls : attributed → SafeCalls state action) :
    Moves config settling attributed state (step config state action) := by
  cases action with
  | tick now => exact .single (.quiet (.of_server state now _ _ _))
  | arriveSubmit request =>
    simp only [step, arriveSubmit]
    split
    · exact moves_refuse _
    · exact moves_arrive _ rfl
  | passPause id => exact moves_passPause id
  | enterSubmit id uuidHex => exact moves_enterSubmit id uuidHex
  | answerHealth id healthy => exact moves_answerHealth id healthy
  | resumeTurn turnId => exact moves_resumeTurn turnId safe calls
  | expireTurn turnId waits => exact moves_expireTurn turnId waits
  | settleUnknown turnId cleared healthy => exact moves_settleUnknown turnId cleared healthy
  | openScope turnId => exact moves_openScope turnId
  | endCall turnId result => exact moves_endCall turnId result
  | arriveCancel turnId => exact moves_arrive _ rfl
  | enterCancel id => exact moves_enterCancel id
  | arriveAbort => exact moves_arrive _ rfl
  | enterAbort id acquired => exact moves_enterAbort id acquired
  | abortReturned id cleared => exact moves_abortReturned id cleared calls
  | arriveCommand =>
    simp only [step, arriveCommand]
    split
    · exact moves_refuse _
    · exact moves_arrive _ rfl
  | enterCommand id => exact moves_enterCommand id
  | endCommand id => exact moves_endCommand id
  | setPaused paused => exact .single (.quiet (.setPaused state paused))
  | backendError => exact .single (.quiet (.markBackendError state))
  | beginShutdown =>
    simp only [step, beginShutdown]
    split
    · exact .refl
    · exact .single (.quiet (.of_server state _ .shuttingDown true _))
  | shutdownTurns =>
    simp only [step, shutdownTurns]
    split
    · exact .single .flag
    · exact .refl

end Dressage.Blackbox

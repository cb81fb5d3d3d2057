/-
The turn server of a blackbox agent: admission, execution and settlement.

A registered server serves one bound session. A turn is admitted under the
session lock and run by a task of its own, which takes the lock again to start
and to settle. The backend call is a further task, and the rollout proxy keeps
the scope of the turn it serves. Everything runs on one event loop: an action is
what one coroutine does from one await to the next.

`Task.cancel` leaves a request behind that is delivered where the task waits the
next time it runs. A waiter may take a free lock in any order, which includes
the order asyncio wakes its waiters in; an acquisition that finds the lock free
and nobody queued does not wait and is no await. A backend call may outlast its
deadline at any time, also when a pause begins while the deadline is waited for.
A wait that begins in a pause watches that pause, and cancels the call if the
resume comes first. A cancelled call may still end in any way, since its cleanup
can swallow the cancellation.

Registration, usage, traces and the error's id details are left out, and so is
the adapter without a proxy.
-/

import Dressage.Lib.OrderedDict
import Dressage.Lib.Text

namespace Dressage.Blackbox

open Lib

abbrev TurnId := String

abbrev RequestId := Nat

inductive ServerState
  | ready
  | error
  | shuttingDown
deriving DecidableEq, Repr

inductive SessionState
  | active
  | desynced
  | aborted
deriving DecidableEq, Repr

inductive TurnStatus
  | queued
  | inflight
  | committed
  | failed
  | cancelled
  | unknown
deriving DecidableEq, Repr

def TurnStatus.isActive : TurnStatus → Bool
  | .queued => true
  | .inflight => true
  | _ => false

structure TurnError where
  error : String
  message : String
  httpStatus : Nat
deriving DecidableEq, Repr

structure ApiError where
  httpStatus : Nat
  error : String
  message : String
deriving DecidableEq, Repr

inductive Role
  | system
  | user
  | assistant
  | tool
deriving DecidableEq, Repr

structure AdapterResponse (Message : Type) where
  outputs : List Message
  backendSessionId : String
deriving DecidableEq

structure TurnRecord (Message : Type) where
  requestFingerprint : String
  status : TurnStatus
  requestMessages : List Message
  response : Option (AdapterResponse Message)
  error : Option TurnError
  createdAt : Nat
  updatedAt : Nat
deriving DecidableEq

inductive TurnMode
  | single
  | explicit
deriving DecidableEq, Repr

structure SessionContext (Message : Type) where
  state : SessionState
  backendSessionId : Option String
  conversationHistory : List Message
  turnLedger : OrderedDict TurnId (TurnRecord Message)
  turnCount : Nat
  turnMode : Option TurnMode
  defaultTurnId : Option TurnId

structure MessageRequest (Message : Type) where
  turnId : Option TurnId
  messages : List Message

structure ServerConfig (Message : Type) where
  boundSessionId : String
  maxTurns : Nat
  multiMessageInput : Bool
  historyInjection : Bool
  phaseOneBackend : Option String
  role : Message → Role
  content : Message → Option String
  fingerprint : List Message → String

variable {Message : Type}

def identifierStart (char : Char) : Bool := char.isAlphanum

def identifierPart (char : Char) : Bool :=
  char.isAlphanum || char == '.' || char == '_' || char == ':' || char == '-'

def validIdentifier (value : String) : Bool :=
  match value.toList with
  | [] => false
  | first :: rest => identifierStart first && rest.all identifierPart && decide (rest.length ≤ 127)

def requestError (message : String) : ApiError :=
  { httpStatus := 400
    error := "request_error"
    message := message }

def conflict (message : String) : ApiError :=
  { httpStatus := 409
    error := "conflict"
    message := message }

def blank (content : Option String) : Bool :=
  match content with
  | none => true
  | some text => Text.strip text == ""

def validatePhaseOne (config : ServerConfig Message) (first : Message) : Except ApiError Unit :=
  match config.phaseOneBackend with
  | none => .ok ()
  | some backend =>
    if config.role first ≠ .user then
      .error (requestError (backend ++ " phase 1 only accepts a user message."))
    else if blank (config.content first) = true then
      .error (requestError (backend ++ " phase 1 requires non-empty user content."))
    else .ok ()

def validateRoles (config : ServerConfig Message) : List Message → Except ApiError Unit
  | [] => .ok ()
  | message :: rest =>
    if config.role message = .system then
      .error (requestError "/messages does not support role=system in phase 1.")
    else if config.historyInjection = false ∧
        (config.role message = .assistant ∨ config.role message = .tool) then
      .error (requestError "Current backend does not support assistant/tool history injection.")
    else validateRoles config rest

def validateMessageRequest (config : ServerConfig Message) (messages : List Message) :
    Except ApiError Unit :=
  match messages with
  | [] => .error (requestError "messages must not be empty.")
  | first :: rest =>
    if config.multiMessageInput = false ∧ rest ≠ [] then
      .error (requestError "Current backend accepts exactly one input message.")
    else
      match validatePhaseOne config first with
      | .error refusal => .error refusal
      | .ok () => validateRoles config (first :: rest)

def validateSubmission (config : ServerConfig Message) (request : MessageRequest Message) :
    Except ApiError Unit :=
  match request.turnId with
  | none => validateMessageRequest config request.messages
  | some turnId =>
    if validIdentifier turnId = false then .error (requestError "turn_id has invalid format.")
    else validateMessageRequest config request.messages

def resolveTurnId (session : SessionContext Message) (requestTurnId : Option TurnId)
    (uuidHex : String) : Except ApiError TurnId × SessionContext Message :=
  match requestTurnId with
  | none =>
    match session.turnMode, session.defaultTurnId with
    | some .explicit, _ =>
      (.error (requestError
        "turn_id is required after this session has used explicit turn ids."), session)
    | some .single, some defaultTurnId => (.ok defaultTurnId, session)
    | _, _ =>
      (.ok ("turn-" ++ uuidHex),
        { session with
          turnMode := some .single
          defaultTurnId := some ("turn-" ++ uuidHex) })
  | some turnId =>
    match session.turnMode with
    | some .single =>
      if session.defaultTurnId = some turnId then (.ok turnId, session)
      else
        (.error (conflict ("This session uses a generated single-turn id and cannot accept " ++
          "a new turn_id.")), session)
    | some .explicit => (.ok turnId, session)
    | none => (.ok turnId, { session with turnMode := some .explicit })

def SessionContext.activeTurnId (session : SessionContext Message) : Option TurnId :=
  (session.turnLedger.entries.find? (fun entry => entry.2.status.isActive)).map Prod.fst

/-- `_raise_from_turn_error`: what is missing or empty in the recorded error is filled in. -/
def turnApiError (record : TurnRecord Message) : ApiError :=
  match record.error with
  | none =>
    { httpStatus := 500
      error := "backend_error"
      message := "Turn failed." }
  | some error =>
    { httpStatus := if error.httpStatus = 0 then 500 else error.httpStatus
      error := if error.error = "" then "backend_error" else error.error
      message := if error.message = "" then "Turn failed." else error.message }

def readTurn (record : TurnRecord Message) : Except ApiError (List Message) :=
  match record.status, record.response with
  | .committed, some response => .ok response.outputs
  | _, _ => .error (turnApiError record)

inductive Admission
  | refused (error : ApiError)
  | replay (turnId : TurnId) (status : TurnStatus)
  | new (turnId : TurnId)
deriving DecidableEq

def tooManyTurns : ApiError :=
  { httpStatus := 429
    error := "too_many_requests"
    message := "Session reached the max committed turn limit." }

/-- The critical section of `submit_turn` up to the health check. -/
def admitTurn (config : ServerConfig Message) (session : SessionContext Message)
    (request : MessageRequest Message) (uuidHex : String) : Admission × SessionContext Message :=
  if session.state = .aborted then
    (.refused (conflict "Session has been aborted and cannot accept new turns."), session)
  else if session.state = .desynced then
    (.refused (conflict "Session is desynced and cannot accept new turns."), session)
  else if config.maxTurns ≤ session.turnCount then (.refused tooManyTurns, session)
  else
    match resolveTurnId session request.turnId uuidHex with
    | (.error error, resolved) => (.refused error, resolved)
    | (.ok turnId, resolved) =>
      match resolved.turnLedger.get? turnId with
      | some existing =>
        if existing.requestFingerprint ≠ config.fingerprint request.messages then
          (.refused (conflict
            "Same turn_id was already used with a different request body."), resolved)
        else (.replay turnId existing.status, resolved)
      | none =>
        match resolved.activeTurnId with
        | some _ =>
          (.refused (conflict "Session already has an active turn in progress."), resolved)
        | none => (.new turnId, resolved)

inductive CallFailure
  | contextOverflow (message : String)
  | maxStepsExceeded (message : String)
  | backend (message : String) (process : Bool)
  | other (message : String)
  | cancelled
deriving DecidableEq

inductive CallResult (Message : Type)
  | returned (response : AdapterResponse Message)
  | raised (failure : CallFailure)

structure BackendCall (Message : Type) where
  opened : Bool
  cancelRequested : Bool
  result : Option (CallResult Message)

def BackendCall.running (call : BackendCall Message) : Bool :=
  call.result.isNone && !call.cancelRequested

inductive Outcome (Message : Type)
  | commit (response : AdapterResponse Message)
  | unknown (error : TurnError) (processError : Bool)

inductive TurnPhase (Message : Type)
  | created
  | starting
  | calling
  | expiring
  | interrupted
  | committing (outcome : Outcome Message)
  /-- The record is unknown; the adapter's abort and health check are under way. -/
  | unwinding (processError : Bool)
  | ended

structure TurnTask (Message : Type) where
  phase : TurnPhase Message
  cancelRequested : Bool

def TurnPhase.isEnded : TurnPhase Message → Bool
  | .ended => true
  | _ => false

def TurnPhase.queuesForLock : TurnPhase Message → Bool
  | .starting => true
  | .interrupted => true
  | .committing _ => true
  | _ => false

inductive SubmitPhase
  | pausing
  | locking
  | checking (turnId : TurnId)
deriving DecidableEq

inductive Request (Message : Type)
  | submit (request : MessageRequest Message) (phase : SubmitPhase)
  | cancel (turnId : TurnId) (aborting : Bool)
  | abort (aborting : Option Bool)
  | command (running : Bool)

def Request.queuesForLock : Request Message → Bool
  | .submit _ phase => decide (phase = .locking)
  | .cancel _ aborting => !aborting
  | .abort aborting => aborting.isNone
  | .command running => !running

inductive Holder
  | turn (turnId : TurnId)
  | request (id : RequestId)
deriving DecidableEq

inductive Reply
  | refused (error : ApiError)
  | submitted (turnId : TurnId) (status : TurnStatus) (idempotentReplay : Bool)
  | cancelAnswer (turnId : TurnId) (status : String) (state : SessionState)
  | abortAnswer (mode : String)
  | commandFinished
deriving DecidableEq

structure State (Message : Type) where
  now : Nat
  serverState : ServerState
  shutdownStarted : Bool
  paused : Bool
  session : SessionContext Message
  sessionLock : Option Holder
  tasks : OrderedDict TurnId (TurnTask Message)
  activeTask : Option TurnId
  events : OrderedDict TurnId Bool
  calls : OrderedDict TurnId (BackendCall Message)
  /-- the waits for a call that watch a pause, and whether it was resumed -/
  watches : OrderedDict TurnId Bool
  /-- `_turn_scope` of the rollout proxy -/
  scope : Option TurnId
  requests : OrderedDict RequestId (Request Message)
  nextRequest : RequestId
  replies : List (RequestId × Reply)

def SessionContext.new : SessionContext Message :=
  { state := .active
    backendSessionId := none
    conversationHistory := []
    turnLedger := OrderedDict.empty
    turnCount := 0
    turnMode := none
    defaultTurnId := none }

def State.initial : State Message :=
  { now := 0
    serverState := .ready
    shutdownStarted := false
    paused := false
    session := SessionContext.new
    sessionLock := none
    tasks := OrderedDict.empty
    activeTask := none
    events := OrderedDict.empty
    calls := OrderedDict.empty
    watches := OrderedDict.empty
    scope := none
    requests := OrderedDict.empty
    nextRequest := 0
    replies := [] }

namespace State

def setRecord (state : State Message) (turnId : TurnId) (record : TurnRecord Message) :
    State Message :=
  { state with
    session := { state.session with turnLedger := state.session.turnLedger.set turnId record } }

def setTask (state : State Message) (turnId : TurnId) (phase : TurnPhase Message) : State Message :=
  { state with
    tasks := state.tasks.set turnId
      { phase := phase
        cancelRequested := false } }

def setCall (state : State Message) (turnId : TurnId) (call : BackendCall Message) :
    State Message :=
  { state with calls := state.calls.set turnId call }

def setRequest (state : State Message) (id : RequestId) (request : Request Message) :
    State Message :=
  { state with requests := state.requests.set id request }

def answer (state : State Message) (id : RequestId) (reply : Reply) : State Message :=
  { state with
    requests := state.requests.pop id
    replies := state.replies ++ [(id, reply)] }

def acquire (state : State Message) (holder : Holder) : State Message :=
  { state with sessionLock := some holder }

def release (state : State Message) : State Message := { state with sessionLock := none }

def setEvent (state : State Message) (turnId : TurnId) : State Message :=
  { state with
    events :=
      match state.events.get? turnId with
      | none => state.events
      | some _ => state.events.set turnId true }

def markBackendError (state : State Message) : State Message :=
  if state.serverState = .error then state
  else
    { state with
      serverState := .error
      session :=
        if state.session.state = .aborted then state.session
        else { state.session with state := .desynced } }

/-- `task.cancel()` on the session's active task; a task that is done stays as it is. -/
def cancelActiveTask (state : State Message) : State Message :=
  match state.activeTask with
  | none => state
  | some turnId =>
    match state.tasks.get? turnId with
    | none => state
    | some task =>
      if task.phase.isEnded = true then state
      else
        { state with
          tasks := state.tasks.set turnId { task with cancelRequested := true } }

def endTask (state : State Message) (turnId : TurnId) : State Message :=
  { (state.setEvent turnId).setTask turnId .ended with
    activeTask := if state.activeTask = some turnId then none else state.activeTask }

/-- The loop of the wait for a call: in a pause it watches for the resume. -/
def watchPause (state : State Message) (turnId : TurnId) : State Message :=
  { state with
    watches :=
      if state.paused then state.watches.set turnId false else state.watches.pop turnId }

def startTurn (state : State Message) (turnId : TurnId) : State Message :=
  match state.session.turnLedger.get? turnId with
  | none => state.endTask turnId
  | some record =>
    if record.status ≠ .queued then state.endTask turnId
    else
      (((state.watchPause turnId).setRecord turnId
          { record with
            status := .inflight
            updatedAt := state.now }).setCall turnId
        { opened := false
          cancelRequested := false
          result := none }).setTask turnId .calling

def interruptedError (shutdown : Bool) : TurnError :=
  if shutdown then
    { error := "server_shutdown"
      message := "Server shut down while the turn was in flight."
      httpStatus := 504 }
  else
    { error := "cancelled"
      message := "Turn cancelled while in flight."
      httpStatus := 499 }

def desync (session : SessionContext Message) : SessionContext Message :=
  if session.state = .aborted then session else { session with state := .desynced }

def finalizeInterruptedTurn (state : State Message) (turnId : TurnId) : State Message :=
  match state.session.turnLedger.get? turnId with
  | none => state
  | some record =>
    if record.status.isActive = false then state
    else if state.shutdownStarted then
      { state.setRecord turnId
          { record with
            status := .unknown
            error := some (interruptedError true)
            updatedAt := state.now } with
        session := desync (state.setRecord turnId
          { record with
            status := .unknown
            error := some (interruptedError true)
            updatedAt := state.now }).session }
    else
      state.setRecord turnId
        { record with
          status := .cancelled
          error := some (interruptedError false)
          updatedAt := state.now }

def commitRecord (state : State Message) (turnId : TurnId) (record : TurnRecord Message)
    (response : AdapterResponse Message) : State Message :=
  { state with
    session :=
      { state.session with
        backendSessionId := some response.backendSessionId
        conversationHistory := state.session.conversationHistory ++ record.requestMessages ++
          response.outputs
        turnCount := state.session.turnCount + 1
        turnLedger := state.session.turnLedger.set turnId
          { record with
            status := .committed
            response := some response
            updatedAt := state.now } } }

/-- `_handle_unknown_turn` up to the adapter's abort. -/
def unknownRecord (state : State Message) (turnId : TurnId) (record : TurnRecord Message)
    (error : TurnError) : State Message :=
  { state with
    session := desync
      { state.session with
        turnLedger := state.session.turnLedger.set turnId
          { record with
            status := .unknown
            error := some error
            updatedAt := state.now } } }

def settleTurn (state : State Message) (turnId : TurnId) (outcome : Outcome Message) :
    State Message :=
  match state.session.turnLedger.get? turnId with
  | none => state.endTask turnId
  | some record =>
    -- The turn was aborted or cancelled concurrently.
    if record.status ≠ .inflight then state.endTask turnId
    else
      match outcome with
      | .commit response => (state.commitRecord turnId record response).endTask turnId
      | .unknown error processError =>
        ((state.unknownRecord turnId record error).acquire (.turn turnId)).setTask turnId
          (.unwinding processError)

def timeoutError : TurnError :=
  { error := "backend_timeout"
    message := "Backend call exceeded backend_timeout."
    httpStatus := 504 }

/-- The outcome of a finished call; a cancelled one raises `CancelledError` in the turn. -/
def outcomeOf : CallResult Message → Option (Outcome Message)
  | .returned response => some (.commit response)
  | .raised (.contextOverflow message) => some (.unknown
    { error := "context_overflow"
      message := message
      httpStatus := 413 } false)
  | .raised (.maxStepsExceeded message) => some (.unknown
    { error := "max_steps_exceeded"
      message := message
      httpStatus := 429 } false)
  | .raised (.backend message process) => some (.unknown
    { error := "backend_error"
      message := "Backend request failed: " ++ message
      httpStatus := 502 } process)
  | .raised (.other message) => some (.unknown
    { error := "internal_error"
      message := "Unexpected backend failure: " ++ message
      httpStatus := 500 } false)
  | .raised .cancelled => none

def lockTaken (state : State Message) : Bool :=
  state.sessionLock.isSome ||
    state.tasks.values.any (fun task => task.phase.queuesForLock) ||
    state.requests.values.any (fun request => request.queuesForLock)

def conclude (state : State Message) (turnId : TurnId) (outcome : Outcome Message) :
    State Message :=
  if state.lockTaken then state.setTask turnId (.committing outcome)
  else state.settleTurn turnId outcome

def interrupt (state : State Message) (turnId : TurnId) : State Message :=
  if state.lockTaken then state.setTask turnId .interrupted
  else (state.finalizeInterruptedTurn turnId).endTask turnId

def callResult (state : State Message) (turnId : TurnId) : Option (CallResult Message) :=
  (state.calls.get? turnId).bind BackendCall.result

def deliverCancel (state : State Message) (turnId : TurnId) (phase : TurnPhase Message) :
    State Message :=
  match phase with
  -- Before the first step there is no `finally` to run.
  | .created => state.setTask turnId .ended
  | .starting => state.endTask turnId
  | .calling => state.interrupt turnId
  -- The cancellation goes on to the call awaited here, and `suppress` swallows it.
  | .expiring =>
    if (state.callResult turnId).isSome then
      state.conclude turnId (.unknown timeoutError false)
    else state
  | .interrupted => state.endTask turnId
  | .committing _ => state.endTask turnId
  | .unwinding _ => state.release.endTask turnId
  | .ended => state

def cancelCall (state : State Message) (turnId : TurnId) : State Message :=
  match state.calls.get? turnId with
  | none => state
  | some call => state.setCall turnId { call with cancelRequested := true }

/-- A wait whose watched pause was resumed cancels the call and waits on. -/
def wakeWait (state : State Message) (turnId : TurnId) : State Message :=
  match state.watches.get? turnId with
  | some true => (state.watchPause turnId).cancelCall turnId
  | _ => state

def proceed (state : State Message) (turnId : TurnId) (phase : TurnPhase Message) : State Message :=
  match phase with
  | .created =>
    if state.lockTaken then state.setTask turnId .starting else state.startTurn turnId
  | .starting => if state.sessionLock.isSome then state else state.startTurn turnId
  | .calling =>
    match state.callResult turnId with
    | none => state.wakeWait turnId
    | some result =>
      match outcomeOf result with
      | none => state.interrupt turnId
      | some outcome => state.conclude turnId outcome
  | .expiring =>
    if (state.callResult turnId).isSome then
      state.conclude turnId (.unknown timeoutError false)
    else state
  | .interrupted =>
    if state.sessionLock.isSome then state
    else (state.finalizeInterruptedTurn turnId).endTask turnId
  | .committing outcome =>
    if state.sessionLock.isSome then state else state.settleTurn turnId outcome
  -- The adapter answers through `settleUnknown`.
  | .unwinding _ => state
  | .ended => state

def resumeTurn (state : State Message) (turnId : TurnId) : State Message :=
  match state.tasks.get? turnId with
  | none => state
  | some task =>
    if task.cancelRequested = true then state.deliverCancel turnId task.phase
    else state.proceed turnId task.phase

/-- The deadline passes; a wait that watches a pause has none. Either the loop finds it passed
and waits for the cancelled call, or the wait for the call times out and cancels it in passing. -/
def expireTurn (state : State Message) (turnId : TurnId) (waits : Bool) : State Message :=
  match state.tasks.get? turnId, state.calls.get? turnId with
  | some ⟨.calling, false⟩, some call =>
    if call.result.isSome ∨ (state.watches.get? turnId).isSome then state
    else
      let cancelled := state.setCall turnId { call with cancelRequested := true }
      if waits then cancelled.setTask turnId .expiring
      else cancelled.conclude turnId (.unknown timeoutError false)
  | _, _ => state

def settleUnknown (state : State Message) (turnId : TurnId) (cleared healthy : Bool) :
    State Message :=
  match state.tasks.get? turnId with
  | some ⟨.unwinding processError, false⟩ =>
    let aborted := { state with scope := if cleared then none else state.scope }
    let checked :=
      if healthy = false ∨ processError = true then aborted.markBackendError else aborted
    checked.release.endTask turnId
  | _ => state

def openScope (state : State Message) (turnId : TurnId) : State Message :=
  match state.calls.get? turnId with
  | none => state
  | some call =>
    if call.result.isSome ∨ call.opened = true then state
    else if call.cancelRequested = true then
      state.setCall turnId { call with result := some (.raised .cancelled) }
    else
      match state.scope with
      | some other =>
        state.setCall turnId
          { call with
            result := some (.raised (.other ("turn scope is already active for " ++ other))) }
      | none =>
        { state.setCall turnId { call with opened := true } with scope := some turnId }

/-- The call ends. Before `open_turn` it can only fail; afterwards it clears the proxy's turn
scope, whoever opened it. -/
def endCall (state : State Message) (turnId : TurnId) (result : CallResult Message) :
    State Message :=
  match state.calls.get? turnId with
  | none => state
  | some call =>
    if call.result.isSome then state
    else
      let ended := state.setCall turnId { call with result := some result }
      if call.opened then { ended with scope := none }
      else
        match result with
        | .returned _ => state
        | .raised _ => ended

def notReady : ApiError :=
  { httpStatus := 503
    error := "service_unavailable"
    message := "Server is not ready." }

def arriveSubmit (state : State Message) (request : MessageRequest Message) : State Message :=
  let arrived := { state with nextRequest := state.nextRequest + 1 }
  if state.serverState ≠ .ready then arrived.answer state.nextRequest (.refused notReady)
  else arrived.setRequest state.nextRequest (.submit request .pausing)

def passPause (config : ServerConfig Message) (state : State Message) (id : RequestId) :
    State Message :=
  match state.requests.get? id with
  | some (.submit request .pausing) =>
    if state.paused then state
    else
      match validateSubmission config request with
      | .error refusal => state.answer id (.refused refusal)
      | .ok () => state.setRequest id (.submit request .locking)
  | _ => state

def enterSubmit (config : ServerConfig Message) (state : State Message) (id : RequestId)
    (uuidHex : String) : State Message :=
  match state.requests.get? id with
  | some (.submit request .locking) =>
    if state.sessionLock.isSome then state
    else
      let admitted := admitTurn config state.session request uuidHex
      let resolved := { state with session := admitted.2 }
      match admitted.1 with
      | .refused error => resolved.answer id (.refused error)
      | .replay turnId status => resolved.answer id (.submitted turnId status true)
      | .new turnId =>
        (resolved.acquire (.request id)).setRequest id (.submit request (.checking turnId))
  | _ => state

def unavailable : ApiError :=
  { httpStatus := 503
    error := "service_unavailable"
    message := "Backend is unavailable." }

def createTurn (config : ServerConfig Message) (state : State Message) (turnId : TurnId)
    (request : MessageRequest Message) : State Message :=
  let record : TurnRecord Message :=
    { requestFingerprint := config.fingerprint request.messages
      status := .queued
      requestMessages := request.messages
      response := none
      error := none
      createdAt := state.now
      updatedAt := state.now }
  { (state.setRecord turnId record).setTask turnId .created with
    events := state.events.set turnId false
    activeTask := some turnId }

def answerHealth (config : ServerConfig Message) (state : State Message) (id : RequestId)
    (healthy : Bool) : State Message :=
  match state.requests.get? id with
  | some (.submit request (.checking turnId)) =>
    if healthy then
      ((createTurn config state turnId request).release).answer id (.submitted turnId .queued false)
    else (state.markBackendError.release).answer id (.refused unavailable)
  | _ => state

def arriveCancel (state : State Message) (turnId : TurnId) : State Message :=
  ({ state with nextRequest := state.nextRequest + 1 }).setRequest state.nextRequest
    (.cancel turnId false)

def cancelledBeforeExecution : TurnError :=
  { error := "cancelled"
    message := "Turn cancelled before execution."
    httpStatus := 499 }

def turnNotFound : ApiError :=
  { httpStatus := 404
    error := "not_found"
    message := "Turn does not exist." }

def statusValue : TurnStatus → String
  | .queued => "queued"
  | .inflight => "inflight"
  | .committed => "committed"
  | .failed => "failed"
  | .cancelled => "cancelled"
  | .unknown => "unknown"

def enterCancel (state : State Message) (id : RequestId) : State Message :=
  match state.requests.get? id with
  | some (.cancel turnId false) =>
    if state.sessionLock.isSome then state
    else
      match state.session.turnLedger.get? turnId with
      | none => state.answer id (.refused turnNotFound)
      | some record =>
        match record.status with
        | .queued =>
          ((state.setRecord turnId
              { record with
                status := .cancelled
                error := some cancelledBeforeExecution
                updatedAt := state.now }).setEvent turnId).answer id
            (.cancelAnswer turnId "cancelled" state.session.state)
        | .inflight => state.cancelActiveTask.setRequest id (.cancel turnId true)
        | settled =>
          state.answer id (.cancelAnswer turnId (statusValue settled) state.session.state)
  | _ => state

def arriveAbort (state : State Message) : State Message :=
  ({ state with nextRequest := state.nextRequest + 1 }).setRequest state.nextRequest (.abort none)

def enterAbort (state : State Message) (id : RequestId) (acquired : Bool) : State Message :=
  match state.requests.get? id with
  | some (.abort none) =>
    if acquired = true ∧ state.sessionLock.isSome then state
    else if state.session.state = .aborted then state.answer id (.abortAnswer "noop")
    else
      let cancelled := state.cancelActiveTask.setRequest id (.abort (some acquired))
      if acquired then cancelled.acquire (.request id) else cancelled
  | _ => state

def abortedError : TurnError :=
  { error := "aborted"
    message := "Session was aborted while turn was in flight."
    httpStatus := 409 }

def abortRecords (ledger : OrderedDict TurnId (TurnRecord Message)) (now : Nat) :
    OrderedDict TurnId (TurnRecord Message) :=
  ledger.mapValues (fun _ record =>
    if record.status.isActive then
      { record with
        status := .unknown
        error := some abortedError
        updatedAt := now }
    else record)

def abortEvents (ledger : OrderedDict TurnId (TurnRecord Message))
    (events : OrderedDict TurnId Bool) : OrderedDict TurnId Bool :=
  events.mapValues (fun turnId isSet =>
    match ledger.get? turnId with
    | none => isSet
    | some record => isSet || record.status.isActive)

def abortLedger (state : State Message) : State Message :=
  { state with
    session :=
      { state.session with
        state := .aborted
        turnLedger := abortRecords state.session.turnLedger state.now }
    events := abortEvents state.session.turnLedger state.events }

/-- `adapter.abort_session` returned or failed; it may have cleared the proxy's turn scope. -/
def abortReturned (state : State Message) (id : RequestId) (cleared : Bool) : State Message :=
  let aborted := { state with scope := if cleared then none else state.scope }
  match state.requests.get? id with
  | some (.cancel turnId true) =>
    aborted.answer id (.cancelAnswer turnId "cancel_requested" state.session.state)
  | some (.abort (some acquired)) =>
    (if acquired then aborted.abortLedger.release else aborted.abortLedger).answer id
      (.abortAnswer "best_effort")
  | _ => state

def arriveCommand (state : State Message) : State Message :=
  let arrived := { state with nextRequest := state.nextRequest + 1 }
  if state.serverState ≠ .ready then arrived.answer state.nextRequest (.refused notReady)
  else arrived.setRequest state.nextRequest (.command false)

def laterTurn (left right : TurnId × TurnRecord Message) : Bool :=
  decide (left.2.updatedAt < right.2.updatedAt) ||
    decide (left.2.updatedAt = right.2.updatedAt) &&
      (decide (left.2.createdAt < right.2.createdAt) ||
        decide (left.2.createdAt = right.2.createdAt) && decide (left.1 < right.1))

def latestTurn : List (TurnId × TurnRecord Message) → Option (TurnId × TurnRecord Message)
  | [] => none
  | first :: rest =>
    some (rest.foldl (fun best entry => if laterTurn best entry then entry else best) first)

def postAgentCommandErrorCodes : List String := ["context_overflow", "max_steps_exceeded"]

def allowsPostAgentCommands (session : SessionContext Message) : Bool :=
  match latestTurn session.turnLedger.entries with
  | none => false
  | some (_, record) =>
    decide (session.state = .desynced) && decide (record.status = .unknown) &&
      (match record.error with
      | none => false
      | some error => decide (error.error ∈ postAgentCommandErrorCodes))

def enterCommand (state : State Message) (id : RequestId) : State Message :=
  match state.requests.get? id with
  | some (.command false) =>
    if state.sessionLock.isSome then state
    else if state.session.state = .aborted then
      state.answer id (.refused (conflict "Session has been aborted and cannot execute commands."))
    else if state.session.state = .desynced ∧ allowsPostAgentCommands state.session = false then
      state.answer id (.refused (conflict "Session is desynced and cannot execute commands."))
    else
      match state.session.activeTurnId with
      | some _ =>
        state.answer id (.refused (conflict
          "Session has an active turn in progress and cannot execute commands."))
      | none => (state.acquire (.request id)).setRequest id (.command true)
  | _ => state

def endCommand (state : State Message) (id : RequestId) : State Message :=
  match state.requests.get? id with
  | some (.command true) => state.release.answer id .commandFinished
  | _ => state

def setPaused (state : State Message) (paused : Bool) : State Message :=
  { state with
    paused := paused
    watches := if paused then state.watches else state.watches.mapValues (fun _ _ => true) }

def beginShutdown (state : State Message) : State Message :=
  if state.shutdownStarted then state
  else
    { state with
      shutdownStarted := true
      serverState := .shuttingDown }

def shutdownTurns (state : State Message) : State Message :=
  if state.shutdownStarted then state.cancelActiveTask else state

end State

inductive Action (Message : Type)
  | tick (now : Nat)
  | arriveSubmit (request : MessageRequest Message)
  | passPause (id : RequestId)
  | enterSubmit (id : RequestId) (uuidHex : String)
  | answerHealth (id : RequestId) (healthy : Bool)
  | resumeTurn (turnId : TurnId)
  | expireTurn (turnId : TurnId) (waits : Bool)
  | settleUnknown (turnId : TurnId) (cleared healthy : Bool)
  | openScope (turnId : TurnId)
  | endCall (turnId : TurnId) (result : CallResult Message)
  | arriveCancel (turnId : TurnId)
  | enterCancel (id : RequestId)
  | arriveAbort
  | enterAbort (id : RequestId) (acquired : Bool)
  | abortReturned (id : RequestId) (cleared : Bool)
  | arriveCommand
  | enterCommand (id : RequestId)
  | endCommand (id : RequestId)
  | setPaused (paused : Bool)
  | backendError
  | beginShutdown
  | shutdownTurns

def step (config : ServerConfig Message) (state : State Message) :
    Action Message → State Message
  | .tick now => { state with now := now }
  | .arriveSubmit request => state.arriveSubmit request
  | .passPause id => state.passPause config id
  | .enterSubmit id uuidHex => state.enterSubmit config id uuidHex
  | .answerHealth id healthy => state.answerHealth config id healthy
  | .resumeTurn turnId => state.resumeTurn turnId
  | .expireTurn turnId waits => state.expireTurn turnId waits
  | .settleUnknown turnId cleared healthy => state.settleUnknown turnId cleared healthy
  | .openScope turnId => state.openScope turnId
  | .endCall turnId result => state.endCall turnId result
  | .arriveCancel turnId => state.arriveCancel turnId
  | .enterCancel id => state.enterCancel id
  | .arriveAbort => state.arriveAbort
  | .enterAbort id acquired => state.enterAbort id acquired
  | .abortReturned id cleared => state.abortReturned id cleared
  | .arriveCommand => state.arriveCommand
  | .enterCommand id => state.enterCommand id
  | .endCommand id => state.endCommand id
  | .setPaused paused => state.setPaused paused
  | .backendError => state.markBackendError
  | .beginShutdown => state.beginShutdown
  | .shutdownTurns => state.shutdownTurns

end Dressage.Blackbox

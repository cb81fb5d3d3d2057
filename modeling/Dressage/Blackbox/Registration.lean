/-
Registration and shutdown of a blackbox server.

A register runs under the init lock: it tears the old binding down, initialises
a new adapter and makes sure the bound session exists. Shutdown takes no lock.
The backend monitor, an unknown turn and a submission that finds the backend
unhealthy put the server into the error state from outside.

An action is what one coroutine does from one await to the next. The capabilities
of the adapter and the checks of the request that do not look at the server are
the verdict `valid`; what a submission meets in its session is its verdict.
Commands, pauses, runtime directories and the texts of late failures are left
out.
-/

import Dressage.Blackbox.TurnServer

namespace Dressage.Blackbox.Registration

open Lib OrderedDict

abbrev SessionId := String

abbrev AdapterId := Nat

inductive ServerStatus
  | idle
  | initializing
  | ready
  | error
  | shuttingDown
deriving DecidableEq, Repr

structure RegisterRequest (Options : Type) where
  blackboxType : String
  routerBaseUrl : String
  boundSessionId : SessionId
  systemPromptFile : Option String
  options : Options
deriving DecidableEq, Repr

structure RegisterConfig (Options Fingerprint : Type) where
  digest : RegisterRequest Options → Fingerprint
  maxSessions : RegisterRequest Options → Nat
  readText : Nat → String → Option String

structure StoredSession (Fingerprint : Type) where
  state : SessionState
  blackboxType : String
  routerBaseUrl : String
  systemPrompt : Option String
  createdAt : Nat
  updatedAt : Nat
  /-- Not a field of the session: the fingerprint of the registration that created it. -/
  createdBy : Fingerprint
deriving DecidableEq, Repr

abbrev SessionStore (Fingerprint : Type) := OrderedDict SessionId (StoredSession Fingerprint)

variable {Options Fingerprint : Type}

namespace SessionStore

def hasOpenSessions (store : SessionStore Fingerprint) : Bool :=
  store.values.any (fun session => decide (session.state ≠ .aborted))

def desynced (now : Nat) (session : StoredSession Fingerprint) : StoredSession Fingerprint :=
  if session.state = .aborted then session
  else
    { session with
      state := .desynced
      updatedAt := now }

def markAllNonAbortedDesynced (store : SessionStore Fingerprint) (now : Nat) :
    SessionStore Fingerprint :=
  OrderedDict.mapValues (fun _ session => desynced now session) store

def older (left right : SessionId × StoredSession Fingerprint) : Bool :=
  decide (left.2.updatedAt < right.2.updatedAt) ||
    decide (left.2.updatedAt = right.2.updatedAt) &&
      (decide (left.2.createdAt < right.2.createdAt) ||
        decide (left.2.createdAt = right.2.createdAt) && decide (left.1 < right.1))

def oldest : List (SessionId × StoredSession Fingerprint) →
    Option (SessionId × StoredSession Fingerprint)
  | [] => none
  | first :: rest =>
    some (rest.foldl (fun best entry => if older entry best then entry else best) first)

def evictOldestAborted (store : SessionStore Fingerprint) : SessionStore Fingerprint :=
  match oldest (store.entries.filter (fun entry => decide (entry.2.state = .aborted))) with
  | none => store
  | some (sessionId, _) => store.pop sessionId

def makeRoom (store : SessionStore Fingerprint) (maxSessions : Nat) : SessionStore Fingerprint :=
  if maxSessions ≤ store.entries.length then evictOldestAborted store else store

/-- `get_or_create`; the flag is whether the session is there, and not `SessionCapacityError`. -/
def getOrCreate (store : SessionStore Fingerprint) (sessionId : SessionId)
    (session : StoredSession Fingerprint) (maxSessions : Nat) :
    Bool × SessionStore Fingerprint :=
  match store.get? sessionId with
  | some _ => (true, store)
  | none =>
    if maxSessions ≤ (makeRoom store maxSessions).entries.length then
      (false, makeRoom store maxSessions)
    else (true, (makeRoom store maxSessions).set sessionId session)

end SessionStore

def injectedPrompt (config : RegisterConfig Options Fingerprint)
    (binding : RegisterRequest Options) (now : Nat) : Option String :=
  match binding.systemPromptFile with
  | none => none
  | some file =>
    match config.readText now file with
    | none => none
    | some content => if Text.strip content = "" then none else some content

def newSession (config : RegisterConfig Options Fingerprint) (binding : RegisterRequest Options)
    (now : Nat) : StoredSession Fingerprint :=
  { state := .active
    blackboxType := binding.blackboxType
    routerBaseUrl := binding.routerBaseUrl
    systemPrompt := injectedPrompt config binding now
    createdAt := now
    updatedAt := now
    createdBy := config.digest binding }

inductive RegisterPhase
  | preparing
  | locking
  | stoppingMonitor (resetSessions : Bool)
  | stoppingAdapter (resetSessions : Bool)
  | initializing
deriving DecidableEq, Repr

structure RegisterTask (Options : Type) where
  request : RegisterRequest Options
  adapter : AdapterId
  phase : RegisterPhase
deriving DecidableEq, Repr

def RegisterPhase.binds : RegisterPhase → Bool
  | .stoppingMonitor _ => true
  | .stoppingAdapter _ => true
  | .initializing => true
  | _ => false

inductive Shutdown
  | none
  | draining
  | stoppingMonitor
  | stoppingAdapter
  | returned
deriving DecidableEq, Repr

structure AdapterLife where
  initialized : Bool
  shutdownCalls : Nat
deriving DecidableEq, Repr

inductive RegisterReply
  | refused (error : ApiError)
  | registered (existing : Bool)
deriving DecidableEq, Repr

inductive Initialization
  | succeeded
  | apiError (error : ApiError)
  | protocolError (message : String)
  | failed (message : String)
deriving DecidableEq, Repr

structure Server (Options Fingerprint : Type) where
  now : Nat
  status : ServerStatus
  adapter : Option AdapterId
  binding : Option (RegisterRequest Options)
  fingerprint : Option Fingerprint
  sessions : SessionStore Fingerprint
  monitored : Bool
  monitorRuns : Bool
  initLock : Option RequestId
  registers : OrderedDict RequestId (RegisterTask Options)
  submissions : List RequestId
  admitted : List RequestId
  shutdown : Shutdown
  adapters : OrderedDict AdapterId AdapterLife
  nextRequest : RequestId
  nextAdapter : AdapterId
  replies : List (RequestId × RegisterReply)
  /-- Not a field of the server: the fingerprint of the last registration that went ahead. -/
  lastFingerprint : Option Fingerprint

def Server.initial : Server Options Fingerprint :=
  { now := 0
    status := .idle
    adapter := none
    binding := none
    fingerprint := none
    sessions := OrderedDict.empty
    monitored := false
    monitorRuns := false
    initLock := none
    registers := OrderedDict.empty
    submissions := []
    admitted := []
    shutdown := .none
    adapters := OrderedDict.empty
    nextRequest := 0
    nextAdapter := 0
    replies := []
    lastFingerprint := none }

def shuttingDownError : ApiError :=
  { httpStatus := 503
    error := "service_unavailable"
    message := "Server is shutting down." }

def initializingError : ApiError :=
  { httpStatus := 409
    error := "conflict"
    message := "Server is initializing." }

def openSessionsError : ApiError :=
  { httpStatus := 409
    error := "conflict"
    message := "Cannot rebind while active or desynced sessions still exist." }

def requestError (message : String) : ApiError :=
  { httpStatus := 400
    error := "request_error"
    message := message }

def backendError (message : String) : ApiError :=
  { httpStatus := 502
    error := "backend_error"
    message := "Failed to initialize backend: " ++ message }

namespace Server

def setRegister (server : Server Options Fingerprint) (id : RequestId)
    (task : RegisterTask Options) : Server Options Fingerprint :=
  { server with registers := server.registers.set id task }

def answer (server : Server Options Fingerprint) (id : RequestId) (reply : RegisterReply) :
    Server Options Fingerprint :=
  { server with
    registers := server.registers.pop id
    replies := server.replies ++ [(id, reply)] }

def answerLocked (server : Server Options Fingerprint) (id : RequestId) (reply : RegisterReply) :
    Server Options Fingerprint :=
  { server.answer id reply with initLock := none }

def arriveRegister (server : Server Options Fingerprint) (request : RegisterRequest Options) :
    Server Options Fingerprint :=
  let arrived := { server with nextRequest := server.nextRequest + 1 }
  if server.status = .shuttingDown then
    arrived.answer server.nextRequest (.refused shuttingDownError)
  else
    { arrived.setRegister server.nextRequest
        { request := request
          adapter := server.nextAdapter
          phase := .preparing } with
      nextAdapter := server.nextAdapter + 1
      adapters := server.adapters.set server.nextAdapter
        { initialized := false
          shutdownCalls := 0 } }

def prepareRegister (server : Server Options Fingerprint) (id : RequestId)
    (valid : Except ApiError Unit) : Server Options Fingerprint :=
  match server.registers.get? id with
  | some ⟨request, adapter, .preparing⟩ =>
    match valid with
    | .error refusal => server.answer id (.refused refusal)
    | .ok () =>
      server.setRegister id
        { request := request
          adapter := adapter
          phase := .locking }
  | _ => server

inductive Entry
  | refused (error : ApiError)
  | existing
  | goesAhead (resetSessions : Bool)
deriving DecidableEq, Repr

def entryOf [DecidableEq Fingerprint] (config : RegisterConfig Options Fingerprint)
    (server : Server Options Fingerprint) (request : RegisterRequest Options) : Entry :=
  let sameFingerprint := decide (server.fingerprint = some (config.digest request))
  if server.status = .initializing then .refused initializingError
  else if server.status = .shuttingDown then .refused shuttingDownError
  else if sameFingerprint = true ∧ server.status = .ready ∧ server.binding.isSome = true then
    .existing
  else if sameFingerprint = false ∧ server.binding.isSome = true ∧
      SessionStore.hasOpenSessions server.sessions = true then
    .refused openSessionsError
  else .goesAhead (!sameFingerprint && server.binding.isSome)

def callShutdown (server : Server Options Fingerprint) (adapter : AdapterId) :
    Server Options Fingerprint :=
  { server with
    adapters := server.adapters.mapValues (fun id life =>
      if id = adapter then { life with shutdownCalls := life.shutdownCalls + 1 } else life) }

/-- The rest of the teardown, up to the await of the new adapter's `initialize`. -/
def startInitialize (server : Server Options Fingerprint) (id : RequestId)
    (task : RegisterTask Options) (resetSessions : Bool) : Server Options Fingerprint :=
  { server.setRegister id { task with phase := .initializing } with
    adapter := some task.adapter
    binding := none
    sessions := if resetSessions then OrderedDict.empty else server.sessions }

def teardownAdapter (server : Server Options Fingerprint) (id : RequestId)
    (task : RegisterTask Options) (resetSessions : Bool) : Server Options Fingerprint :=
  match server.adapter with
  | none => server.startInitialize id task resetSessions
  | some adapter =>
    (server.callShutdown adapter).setRegister id
      { task with phase := .stoppingAdapter resetSessions }

def teardown (server : Server Options Fingerprint) (id : RequestId)
    (task : RegisterTask Options) (resetSessions : Bool) : Server Options Fingerprint :=
  if server.monitored then
    { server.setRegister id { task with phase := .stoppingMonitor resetSessions } with
      monitorRuns := false }
  else server.teardownAdapter id task resetSessions

def enterRegister [DecidableEq Fingerprint] (config : RegisterConfig Options Fingerprint)
    (server : Server Options Fingerprint) (id : RequestId) : Server Options Fingerprint :=
  match server.registers.get? id with
  | some ⟨request, adapter, .locking⟩ =>
    if server.initLock.isSome then server
    else
      match entryOf config server request with
      | .refused error => server.answer id (.refused error)
      | .existing => server.answer id (.registered true)
      | .goesAhead resetSessions =>
        teardown
          { server with
            initLock := some id
            status := .initializing
            fingerprint := some (config.digest request)
            lastFingerprint := some (config.digest request) }
          id ⟨request, adapter, .locking⟩ resetSessions
  | _ => server

def monitorStopped (server : Server Options Fingerprint) (id : RequestId) :
    Server Options Fingerprint :=
  match server.registers.get? id with
  | some ⟨request, adapter, .stoppingMonitor resetSessions⟩ =>
    teardownAdapter { server with monitored := false } id
      ⟨request, adapter, .stoppingMonitor resetSessions⟩ resetSessions
  | _ => server

def adapterStopped (server : Server Options Fingerprint) (id : RequestId) :
    Server Options Fingerprint :=
  match server.registers.get? id with
  | some ⟨request, adapter, .stoppingAdapter resetSessions⟩ =>
    server.startInitialize id ⟨request, adapter, .stoppingAdapter resetSessions⟩ resetSessions
  | _ => server

def markInitialized (server : Server Options Fingerprint) (adapter : AdapterId) :
    Server Options Fingerprint :=
  { server with
    adapters := server.adapters.mapValues (fun id life =>
      if id = adapter then { life with initialized := true } else life) }

def failRegister (server : Server Options Fingerprint) (id : RequestId) (error : ApiError) :
    Server Options Fingerprint :=
  { server.answerLocked id (.refused error) with
    status := .error
    adapter := none
    binding := none }

def finishRegister (config : RegisterConfig Options Fingerprint)
    (server : Server Options Fingerprint) (id : RequestId) (result : Initialization) :
    Server Options Fingerprint :=
  match server.registers.get? id with
  | some ⟨request, adapter, .initializing⟩ =>
    match result with
    | .apiError error => server.failRegister id error
    | .failed message => server.failRegister id (backendError message)
    | .protocolError message =>
      { server.answerLocked id (.refused (requestError message)) with
        status := .idle
        fingerprint := none
        adapter := none
        binding := none }
    | .succeeded =>
      let initialized := server.markInitialized adapter
      match SessionStore.getOrCreate server.sessions request.boundSessionId
        (newSession config request server.now) (config.maxSessions request) with
      | (false, sessions) =>
        { initialized.failRegister id (backendError "") with sessions := sessions }
      | (true, sessions) =>
        { initialized.answerLocked id (.registered false) with
          status := .ready
          binding := some request
          sessions := sessions
          monitored := true
          monitorRuns := true }
  | _ => server

def markBackendError (server : Server Options Fingerprint) : Server Options Fingerprint :=
  if server.status = .error then server
  else
    { server with
      status := .error
      sessions := SessionStore.markAllNonAbortedDesynced server.sessions server.now }

def monitorFails (server : Server Options Fingerprint) : Server Options Fingerprint :=
  if server.monitorRuns then { server.markBackendError with monitorRuns := false } else server

def changeSession (server : Server Options Fingerprint) (sessionId : SessionId)
    (change : StoredSession Fingerprint → StoredSession Fingerprint) :
    Server Options Fingerprint :=
  { server with
    sessions := OrderedDict.mapValues (fun id session =>
      if id = sessionId then change session else session) server.sessions }

def touchSession (server : Server Options Fingerprint) (sessionId : SessionId) :
    Server Options Fingerprint :=
  server.changeSession sessionId (fun session => { session with updatedAt := server.now })

def abortSession (server : Server Options Fingerprint) (sessionId : SessionId) :
    Server Options Fingerprint :=
  server.changeSession sessionId (fun session =>
    if session.state = .aborted then session
    else
      { session with
        state := .aborted
        updatedAt := server.now })

def unknownTurn (server : Server Options Fingerprint) (sessionId : SessionId) :
    Server Options Fingerprint :=
  server.changeSession sessionId (SessionStore.desynced server.now)

def arriveSubmission (server : Server Options Fingerprint) : Server Options Fingerprint :=
  if server.status = .ready then
    { server with
      nextRequest := server.nextRequest + 1
      submissions := server.submissions ++ [server.nextRequest] }
  else { server with nextRequest := server.nextRequest + 1 }

inductive SubmissionVerdict
  | refused
  | unhealthy
  | admitted
deriving DecidableEq, Repr

def endSubmission (server : Server Options Fingerprint) (id : RequestId)
    (verdict : SubmissionVerdict) : Server Options Fingerprint :=
  if id ∈ server.submissions then
    let ended := { server with submissions := server.submissions.erase id }
    match verdict with
    | .refused => ended
    | .unhealthy => ended.markBackendError
    | .admitted => { ended with admitted := server.admitted ++ [id] }
  else server

def beginShutdown (server : Server Options Fingerprint) : Server Options Fingerprint :=
  if server.shutdown = .none then
    { server with
      status := .shuttingDown
      shutdown := .draining }
  else server

def shutdownAdapter (server : Server Options Fingerprint) : Server Options Fingerprint :=
  match server.adapter with
  | none => { server with shutdown := .returned }
  | some adapter => { server.callShutdown adapter with shutdown := .stoppingAdapter }

def shutdownDrained (server : Server Options Fingerprint) : Server Options Fingerprint :=
  if server.shutdown = .draining then
    if server.monitored then
      { server with
        monitorRuns := false
        shutdown := .stoppingMonitor }
    else server.shutdownAdapter
  else server

def shutdownMonitorStopped (server : Server Options Fingerprint) : Server Options Fingerprint :=
  if server.shutdown = .stoppingMonitor then
    shutdownAdapter { server with monitored := false }
  else server

def shutdownAdapterStopped (server : Server Options Fingerprint) : Server Options Fingerprint :=
  if server.shutdown = .stoppingAdapter then { server with shutdown := .returned } else server

end Server

inductive Action (Options : Type)
  | tick (now : Nat)
  | arriveRegister (request : RegisterRequest Options)
  | prepareRegister (id : RequestId) (valid : Except ApiError Unit)
  | enterRegister (id : RequestId)
  | monitorStopped (id : RequestId)
  | adapterStopped (id : RequestId)
  | finishRegister (id : RequestId) (result : Initialization)
  | monitorFails
  | touchSession (sessionId : SessionId)
  | abortSession (sessionId : SessionId)
  | unknownTurn (sessionId : SessionId)
  | turnUnhealthy
  | arriveSubmission
  | endSubmission (id : RequestId) (verdict : Server.SubmissionVerdict)
  | beginShutdown
  | shutdownDrained
  | shutdownMonitorStopped
  | shutdownAdapterStopped

def step [DecidableEq Fingerprint] (config : RegisterConfig Options Fingerprint)
    (server : Server Options Fingerprint) : Action Options → Server Options Fingerprint
  | .tick now => { server with now := now }
  | .arriveRegister request => server.arriveRegister request
  | .prepareRegister id valid => server.prepareRegister id valid
  | .enterRegister id => server.enterRegister config id
  | .monitorStopped id => server.monitorStopped id
  | .adapterStopped id => server.adapterStopped id
  | .finishRegister id result => server.finishRegister config id result
  | .monitorFails => server.monitorFails
  | .touchSession sessionId => server.touchSession sessionId
  | .abortSession sessionId => server.abortSession sessionId
  | .unknownTurn sessionId => server.unknownTurn sessionId
  | .turnUnhealthy => server.markBackendError
  | .arriveSubmission => server.arriveSubmission
  | .endSubmission id verdict => server.endSubmission id verdict
  | .beginShutdown => server.beginShutdown
  | .shutdownDrained => server.shutdownDrained
  | .shutdownMonitorStopped => server.shutdownMonitorStopped
  | .shutdownAdapterStopped => server.shutdownAdapterStopped

def LockHeld (server : Server Options Fingerprint) : Prop :=
  ∀ id task, server.registers.get? id = some task → task.phase.binds = true →
    server.initLock = some id

theorem register_set {server : Server Options Fingerprint} {id other : RequestId}
    {task found : RegisterTask Options} (waits : task.phase.binds = false)
    (present : (server.setRegister id task).registers.get? other = some found)
    (binds : found.phase.binds = true) : server.registers.get? other = some found := by
  rw [Server.setRegister, get?_set] at present
  split at present
  · cases present
    rw [waits] at binds
    cases binds
  · exact present

theorem register_pop {server : Server Options Fingerprint} {id other : RequestId}
    {found : RegisterTask Options}
    (present : (server.registers.pop id).get? other = some found) :
    server.registers.get? other = some found := by
  rw [get?_pop] at present
  split at present
  · cases present
  · exact present

namespace LockHeld

variable {before after server : Server Options Fingerprint}

theorem initial : LockHeld (Server.initial : Server Options Fingerprint) := by
  intro id task present
  cases present

theorem keep (held : LockHeld before) (lock : after.initLock = before.initLock)
    (registers : ∀ id task, after.registers.get? id = some task → task.phase.binds = true →
      before.registers.get? id = some task) : LockHeld after := by
  intro id task present binds
  rw [lock]
  exact held id task (registers id task present binds) binds

variable {id other : RequestId} {found next : RegisterTask Options}

section

variable (held : LockHeld before)
include held

theorem only {task : RegisterTask Options} (present : before.registers.get? id = some task)
    (binds : task.phase.binds = true)
    (there : (before.registers.set id next).get? other = some found)
    (holds : found.phase.binds = true) : other = id ∧ found = next := by
  rw [get?_set] at there
  split at there
  · next same => exact ⟨same, (Option.some.inj there).symm⟩
  · next different =>
      have otherHeld := held other found there holds
      rw [held id task present binds] at otherHeld
      exact absurd (Option.some.inj otherHeld).symm different

theorem onlyEntered (free : before.initLock = none)
    (there : (before.registers.set id next).get? other = some found)
    (holds : found.phase.binds = true) : other = id ∧ found = next := by
  rw [get?_set] at there
  split at there
  · next same => exact ⟨same, (Option.some.inj there).symm⟩
  · have otherHeld := held other found there holds
    rw [free] at otherHeld
    cases otherHeld

theorem set {task : RegisterTask Options} (present : before.registers.get? id = some task)
    (binds : task.phase.binds = true) (registers : after.registers = before.registers.set id next)
    (lock : after.initLock = before.initLock) : LockHeld after := by
  intro other found there holds
  rw [registers] at there
  rw [lock, held id task present binds, (held.only present binds there holds).1]

theorem enter (free : before.initLock = none)
    (registers : after.registers = before.registers.set id next) (lock : after.initLock = some id) :
    LockHeld after := by
  intro other found there holds
  rw [registers] at there
  rw [lock, (held.onlyEntered free there holds).1]

theorem released (holds : before.initLock = some id)
    (there : (before.registers.pop id).get? other = some found) : found.phase.binds = false := by
  cases binds : found.phase.binds with
  | false => rfl
  | true =>
    have same := held other found (register_pop there) binds
    rw [holds] at same
    cases same
    rw [get?_pop_self] at there
    cases there

theorem leave {id : RequestId} (holds : before.initLock = some id)
    (registers : after.registers = before.registers.pop id) : LockHeld after := by
  intro other found there binds
  rw [registers] at there
  rw [held.released holds there] at binds
  cases binds

end

end LockHeld

end Dressage.Blackbox.Registration

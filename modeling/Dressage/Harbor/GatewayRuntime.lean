/-
The process gateway of the Harbor integration.

One `GatewayRuntime` counts the leases of a process and runs the gateway in a thread
of its own. `acquire` counts under the lease lock and starts the thread under the
start lock, in a worker; the last release counts down under the lease lock, and stops
the thread and forgets the configuration after it has left that lock.
-/

import Dressage.Lib.Runs
import Dressage.Lib.Lists

namespace Dressage.Harbor

abbrev ThreadId := Nat

inductive ThreadPhase where
  | unstarted
  | created
  | serving
  | ending
  | closed
  | dead
  deriving DecidableEq, Repr

def ThreadPhase.isAlive : ThreadPhase → Bool
  | .created | .serving | .ending | .closed => true
  | .unstarted | .dead => false

structure OwnerThread where
  phase : ThreadPhase
  shouldExit : Bool
  deriving DecidableEq, Repr

inductive StartCall where
  | waitingLock
  | waitingReady
  | returned
  | raised
  deriving DecidableEq, Repr

inductive LeasePhase where
  | acquiring
  | failed
  | held
  | releasing
  | shuttingDown (thread : ThreadId)
  /-- The release was cancelled there; the owner's task goes on. -/
  | leftShutdown (thread : ThreadId)
  | awaitingStop
  | joining (thread : ThreadId)
  | clearing
  | released
  deriving DecidableEq, Repr

def LeasePhase.isCounted : LeasePhase → Bool
  | .acquiring | .held | .releasing => true
  | _ => false

def LeasePhase.isStopping : LeasePhase → Bool
  | .shuttingDown _ | .leftShutdown _ | .awaitingStop | .joining _ | .clearing => true
  | _ => false

structure Client where
  fingerprint : String
  start : StartCall
  phase : LeasePhase
  deriving DecidableEq, Repr

inductive ServeStart where
  | noSocket
  | bindFails
  | listens
  deriving DecidableEq, Repr

structure GatewayRuntime (Config : Type) where
  config : Option Config
  configFingerprint : Option String
  refcount : Int
  startLock : Option Nat
  thread : Option ThreadId
  loop : Option ThreadId
  server : Option ThreadId
  ready : Bool
  stopped : Bool
  startupError : Bool
  threads : List OwnerThread
  clients : List Client

inductive Event (Config : Type) where
  | acquire (config : Config)
  /-- The worker gets the start lock; `spawned` when `Thread.start` returns. -/
  | startBlocking (number : Nat) (spawned : Bool)
  | finishStart (number : Nat) (timedOut : Bool)
  | resumeAcquire (number : Nat)
  | cancelAcquire (number : Nat)
  | release (number : Nat)
  | releaseLease (number : Nat) (reached : Bool)
  | finishShutdown (number : Nat)
  | cancelShutdown (number : Nat)
  | dropShutdown (number : Nat)
  | awaitStop (number : Nat) (timedOut : Bool)
  | joinThread (number : Nat) (timedOut : Bool)
  | clearConfig (number : Nat)
  | beginThread (thread : ThreadId) (start : ServeStart)
  | leaveServe (thread : ThreadId) (raises : Bool)
  | closeLoop (thread : ThreadId)
  | die (thread : ThreadId)

namespace GatewayRuntime

variable {Config : Type}

def initial : GatewayRuntime Config :=
  { config := none
    configFingerprint := none
    refcount := 0
    startLock := none
    thread := none
    loop := none
    server := none
    ready := false
    stopped := false
    startupError := false
    threads := []
    clients := [] }

def toStart (state : GatewayRuntime Config) (number : Nat) (start : StartCall) :
    GatewayRuntime Config :=
  { state with
    clients := state.clients.modify number (fun client => { client with start := start }) }

def toPhase (state : GatewayRuntime Config) (number : Nat) (phase : LeasePhase) :
    GatewayRuntime Config :=
  { state with
    clients := state.clients.modify number (fun client => { client with phase := phase }) }

def toThreadPhase (state : GatewayRuntime Config) (thread : ThreadId) (phase : ThreadPhase) :
    GatewayRuntime Config :=
  { state with
    threads := state.threads.modify thread (fun owner => { owner with phase := phase }) }

def phaseOf (state : GatewayRuntime Config) (number : Nat) : Option LeasePhase :=
  state.clients[number]?.map Client.phase

def startOf (state : GatewayRuntime Config) (number : Nat) : Option StartCall :=
  state.clients[number]?.map Client.start

def threadPhase (state : GatewayRuntime Config) (thread : ThreadId) : Option ThreadPhase :=
  state.threads[thread]?.map OwnerThread.phase

def isRunning (state : GatewayRuntime Config) : Bool :=
  match state.thread.bind state.threadPhase with
  | some phase => phase.isAlive && state.ready
  | none => false

def acquire (gatewayFingerprint : Config → String) (state : GatewayRuntime Config)
    (config : Config) : GatewayRuntime Config :=
  if state.refcount ≠ 0 ∧ state.configFingerprint ≠ some (gatewayFingerprint config) then state
  else
    let opened :=
      if state.refcount = 0 then
        { state with
          config := some config
          configFingerprint := some (gatewayFingerprint config) }
      else state
    { opened with
      refcount := opened.refcount + 1
      clients := opened.clients ++
        [{ fingerprint := gatewayFingerprint config
           start := .waitingLock
           phase := .acquiring }] }

def giveUp (state : GatewayRuntime Config) (number : Nat) : GatewayRuntime Config :=
  let counted := { state.toPhase number .failed with refcount := state.refcount - 1 }
  if counted.refcount = 0 then
    { counted with
      config := none
      configFingerprint := none }
  else counted

def newThread (state : GatewayRuntime Config) (phase : ThreadPhase) : GatewayRuntime Config :=
  { state with
    ready := false
    stopped := false
    startupError := false
    thread := some state.threads.length
    threads := state.threads ++
      [{ phase := phase
         shouldExit := false }] }

def startBlocking (state : GatewayRuntime Config) (number : Nat) (spawned : Bool) :
    GatewayRuntime Config :=
  if state.startLock = none ∧ state.startOf number = some .waitingLock then
    if state.isRunning then state.toStart number .returned
    else if spawned then
      { (state.newThread .created).toStart number .waitingReady with
        startLock := some number }
    else (state.newThread .unstarted).toStart number .raised
  else state

def finishStart (state : GatewayRuntime Config) (number : Nat) (timedOut : Bool) :
    GatewayRuntime Config :=
  if state.startOf number = some .waitingReady then
    if timedOut then { state.toStart number .raised with startLock := none }
    else if state.ready then
      { state.toStart number (if state.startupError then .raised else .returned) with
        startLock := none }
    else state
  else state

def resumeAcquire (state : GatewayRuntime Config) (number : Nat) : GatewayRuntime Config :=
  if state.phaseOf number = some .acquiring then
    match state.startOf number with
    | some .returned => state.toPhase number .held
    | some .raised => state.giveUp number
    | _ => state
  else state

def cancelAcquire (state : GatewayRuntime Config) (number : Nat) : GatewayRuntime Config :=
  if state.phaseOf number = some .acquiring then state.giveUp number else state

def release (state : GatewayRuntime Config) (number : Nat) : GatewayRuntime Config :=
  if state.phaseOf number = some .held then state.toPhase number .releasing else state

def releaseLease (state : GatewayRuntime Config) (number : Nat) (reached : Bool) :
    GatewayRuntime Config :=
  if state.phaseOf number = some .releasing then
    if state.refcount ≤ 0 then state.toPhase number .released
    else
      let counted := { state with refcount := state.refcount - 1 }
      if counted.refcount = 0 then
        match counted.loop, reached with
        | some thread, true => counted.toPhase number (.shuttingDown thread)
        -- `call` raises, and the lease's task with it
        | _, _ => counted.toPhase number .released
      else counted.toPhase number .released
  else state

def exitServer (state : GatewayRuntime Config) : GatewayRuntime Config :=
  match state.server with
  | some thread =>
    { state with
      threads := state.threads.modify thread (fun owner => { owner with shouldExit := true }) }
  | none => state

def runsTasks (state : GatewayRuntime Config) (thread : ThreadId) : Prop :=
  state.threadPhase thread = some .serving ∨ state.threadPhase thread = some .ending

instance (state : GatewayRuntime Config) (thread : ThreadId) :
    Decidable (state.runsTasks thread) :=
  inferInstanceAs (Decidable (_ ∨ _))

def finishShutdown (state : GatewayRuntime Config) (number : Nat) : GatewayRuntime Config :=
  match state.phaseOf number with
  | some (.shuttingDown thread) =>
    if state.runsTasks thread then state.exitServer.toPhase number .awaitingStop else state
  | some (.leftShutdown thread) =>
    if state.runsTasks thread then state.exitServer.toPhase number .released else state
  | _ => state

def cancelShutdown (state : GatewayRuntime Config) (number : Nat) : GatewayRuntime Config :=
  match state.phaseOf number with
  | some (.shuttingDown thread) => state.toPhase number (.leftShutdown thread)
  | _ => state

def dropShutdown (state : GatewayRuntime Config) (number : Nat) : GatewayRuntime Config :=
  match state.phaseOf number with
  | some (.shuttingDown _) => state.toPhase number .released
  | some (.leftShutdown _) => state.toPhase number .released
  | _ => state

def awaitStop (state : GatewayRuntime Config) (number : Nat) (timedOut : Bool) :
    GatewayRuntime Config :=
  if state.phaseOf number = some .awaitingStop then
    if timedOut then state.toPhase number .released
    else if state.stopped then
      match state.thread with
      | some thread => state.toPhase number (.joining thread)
      | none => state.toPhase number .clearing
    else state
  else state

/-- The thread that was joined need not be `_thread` any more. -/
def joinThread (state : GatewayRuntime Config) (number : Nat) (timedOut : Bool) :
    GatewayRuntime Config :=
  match state.phaseOf number with
  | some (.joining thread) =>
    if timedOut then state.toPhase number .released
    else if state.threadPhase thread = some .dead then
      { state.toPhase number .clearing with thread := none }
    else state
  | _ => state

/-- The end of `_release_lease`; the count is not looked at again. -/
def clearConfig (state : GatewayRuntime Config) (number : Nat) : GatewayRuntime Config :=
  if state.phaseOf number = some .clearing then
    { state.toPhase number .released with
      config := none
      configFingerprint := none }
  else state

def beginThread (state : GatewayRuntime Config) (thread : ThreadId) (start : ServeStart) :
    GatewayRuntime Config :=
  if state.threadPhase thread = some .created then
    let looped := { state with loop := some thread }
    let failed := { looped.toThreadPhase thread .ending with
      startupError := true
      ready := true }
    match looped.config, start with
    | some _, .listens =>
      { looped.toThreadPhase thread .serving with
        server := some thread
        ready := true }
    | some _, .bindFails => { failed with server := none }
    -- `self.config` raises before the `try` of `_serve`, and so does `socket.socket`
    | _, _ => failed
  else state

def leaveServe (state : GatewayRuntime Config) (thread : ThreadId) (raises : Bool) :
    GatewayRuntime Config :=
  match state.threads[thread]? with
  | some owner =>
    if owner.phase = .serving then
      let left := { state.toThreadPhase thread .ending with server := none }
      if raises then
        { left with
          startupError := true
          ready := true }
      else if owner.shouldExit then left
      else state
    else state
  | none => state

def closeLoop (state : GatewayRuntime Config) (thread : ThreadId) : GatewayRuntime Config :=
  if state.threadPhase thread = some .ending then
    { state.toThreadPhase thread .closed with
      loop := none
      stopped := true }
  else state

def die (state : GatewayRuntime Config) (thread : ThreadId) : GatewayRuntime Config :=
  if state.threadPhase thread = some .closed then state.toThreadPhase thread .dead else state

def step (gatewayFingerprint : Config → String) (state : GatewayRuntime Config) :
    Event Config → GatewayRuntime Config
  | .acquire config => state.acquire gatewayFingerprint config
  | .startBlocking number spawned => state.startBlocking number spawned
  | .finishStart number timedOut => state.finishStart number timedOut
  | .resumeAcquire number => state.resumeAcquire number
  | .cancelAcquire number => state.cancelAcquire number
  | .release number => state.release number
  | .releaseLease number reached => state.releaseLease number reached
  | .finishShutdown number => state.finishShutdown number
  | .cancelShutdown number => state.cancelShutdown number
  | .dropShutdown number => state.dropShutdown number
  | .awaitStop number timedOut => state.awaitStop number timedOut
  | .joinThread number timedOut => state.joinThread number timedOut
  | .clearConfig number => state.clearConfig number
  | .beginThread thread start => state.beginThread thread start
  | .leaveServe thread raises => state.leaveServe thread raises
  | .closeLoop thread => state.closeLoop thread
  | .die thread => state.die thread

end GatewayRuntime

end Dressage.Harbor

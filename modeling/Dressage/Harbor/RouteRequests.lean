/-
The requests of one gateway route.

A request is checked, waits for a global and for a route permit without being counted,
is checked again, reads its body and is then delegated to the proxy; `quiesce` waits
until no request is counted. All of it runs in the owner loop and is interleaved at
its awaits only. Whoever was woken, by a permit or by `inflight_zero`, runs in the order
of the wake-ups, so a request that was handed a permit runs before a `quiesce` that was
woken after it. Requests of other routes take part for the global permits.
-/

import Dressage.Lib.Runs
import Dressage.Lib.Semaphore

namespace Dressage.Harbor

open Lib

inductive AttemptState where
  | starting
  | ready
  | active
  | draining
  | broken
  | closed
  deriving DecidableEq, Repr

inductive RequestPhase where
  | waitingGlobal
  | elsewhere
  | waitingRoute
  | refused
  | readingBody
  | delegated
  | over
  deriving DecidableEq, Repr

def RequestPhase.hasGlobal : RequestPhase → Bool
  | .elsewhere | .waitingRoute | .refused | .readingBody | .delegated => true
  | .waitingGlobal | .over => false

/-- `_acquire_capacity` has returned and `_release_capacity` has not run. -/
def RequestPhase.hasCapacity : RequestPhase → Bool
  | .refused | .readingBody | .delegated => true
  | .waitingGlobal | .elsewhere | .waitingRoute | .over => false

structure Permits where
  acquired : Nat
  released : Nat
  deriving DecidableEq, Repr

def Permits.acquire (permits : Permits) : Permits :=
  { permits with acquired := permits.acquired + 1 }

def Permits.release (permits : Permits) : Permits :=
  { permits with released := permits.released + 1 }

structure RouteRequest where
  own : Bool
  arrived : Nat
  phase : RequestPhase
  globalPermits : Permits
  routePermits : Permits
  deriving DecidableEq, Repr

inductive QuiescePhase where
  | waitingZero (woken : Bool)
  | drainingProxy
  | over
  deriving DecidableEq, Repr

inductive Party where
  | request (number : Nat)
  | quiesce (number : Nat)
  deriving DecidableEq, Repr

structure Delegation where
  arrived : Nat
  turn : Nat
  deriving DecidableEq, Repr

structure Route where
  state : AttemptState
  registered : Bool
  inflight : Nat
  inflightZero : Bool
  semaphore : Semaphore
  globalSemaphore : Semaphore
  ready : List Party
  requestSequence : Nat
  turnScope : Bool
  turn : Nat
  openCalls : Nat
  quiesces : List QuiescePhase
  requests : List RouteRequest
  delegations : List Delegation
  deriving Repr

inductive RouteEvent where
  | arrive (own : Bool)
  | runReady (interrupted : Bool)
  | leaveQueue (number : Nat)
  | readBody (number : Nat) (fits : Bool)
  | finish (number : Nat)
  | finishElsewhere (number : Nat)
  | callOpenTurn
  | openTurn
  | dropOpenTurn
  | callQuiesce
  | clearTurn (number : Nat)
  | failQuiesce (number : Nat)
  | markBroken
  | close
  deriving Repr

namespace Route

def initial (maxInflightGlobal maxInflightPerRoute : Nat) : Route :=
  { state := .ready
    registered := true
    inflight := 0
    inflightZero := true
    semaphore := .ofValue maxInflightPerRoute
    globalSemaphore := .ofValue maxInflightGlobal
    ready := []
    requestSequence := 0
    turnScope := false
    turn := 0
    openCalls := 0
    quiesces := []
    requests := []
    delegations := [] }

def toPhase (route : Route) (number : Nat) (phase : RequestPhase) : Route :=
  { route with
    requests := route.requests.modify number (fun request => { request with phase := phase }) }

def phaseOf (route : Route) (number : Nat) : Option RequestPhase :=
  route.requests[number]?.map RouteRequest.phase

def rouse (route : Route) (woken : List Nat) : Route :=
  { route with ready := route.ready ++ woken.map .request }

/-- The first permit of `_acquire_capacity`; the rest of a request to another route is left out. -/
def takeGlobal (route : Route) (semaphore : Semaphore) (number : Nat) : Route :=
  { route with
    globalSemaphore := semaphore
    requests := route.requests.modify number (fun request =>
      { request with
        phase := if request.own then .waitingRoute else .elsewhere
        globalPermits := request.globalPermits.acquire }) }

/-- The end of `_acquire_capacity` and the second check, which follows without an await. -/
def takeRoute (route : Route) (semaphore : Semaphore) (number : Nat) : Route :=
  { route with
    semaphore := semaphore
    inflight := route.inflight + 1
    inflightZero := false
    requests := route.requests.modify number (fun request =>
      { request with
        phase := if route.state = .active then .readingBody else .refused
        routePermits := request.routePermits.acquire }) }

def acquireRoute (route : Route) (number : Nat) : Route :=
  if route.phaseOf number = some .waitingRoute then
    if route.semaphore.locked then { route with semaphore := route.semaphore.enqueue number }
    else route.takeRoute route.semaphore.take number
  else route

def arrive (route : Route) (own : Bool) : Route :=
  if own = true → route.registered = true ∧ route.state = .active then
    let arrived : Route :=
      { route with
        requests := route.requests ++
          [{ own := own
             arrived := route.turn
             phase := .waitingGlobal
             globalPermits :=
               { acquired := 0
                 released := 0 }
             routePermits :=
               { acquired := 0
                 released := 0 } }] }
    if arrived.globalSemaphore.locked then
      { arrived with
        globalSemaphore := arrived.globalSemaphore.enqueue route.requests.length }
    else
      (arrived.takeGlobal arrived.globalSemaphore.take route.requests.length).acquireRoute
        route.requests.length
  else route

def leaveGlobal (route : Route) (number : Nat) : Route :=
  { (route.toPhase number .over).rouse (route.globalSemaphore.interrupt number).2 with
    globalSemaphore := (route.globalSemaphore.interrupt number).1 }

def leaveRoute (route : Route) (number : Nat) : Route :=
  { route.rouse ((route.semaphore.interrupt number).2 ++ route.globalSemaphore.release.2) with
    semaphore := (route.semaphore.interrupt number).1
    globalSemaphore := route.globalSemaphore.release.1
    requests := route.requests.modify number (fun request =>
      { request with
        phase := .over
        globalPermits := request.globalPermits.release }) }

def resumeRequest (route : Route) (number : Nat) (interrupted : Bool) : Route :=
  match route.phaseOf number with
  | some .waitingGlobal =>
    if interrupted = false ∧ route.globalSemaphore.stateOf number = some .woken then
      ((route.rouse (route.globalSemaphore.leave number).2).takeGlobal
        (route.globalSemaphore.leave number).1 number).acquireRoute number
    else route.leaveGlobal number
  | some .waitingRoute =>
    if interrupted = false ∧ route.semaphore.stateOf number = some .woken then
      (route.rouse (route.semaphore.leave number).2).takeRoute
        (route.semaphore.leave number).1 number
    else route.leaveRoute number
  | _ => route

def failQuiesce (route : Route) (number : Nat) : Route :=
  match route.quiesces[number]? with
  | some (.waitingZero _) | some .drainingProxy =>
    { route with
      state := .broken
      quiesces := route.quiesces.set number .over }
  | _ => route

def resumeQuiesce (route : Route) (number : Nat) (interrupted : Bool) : Route :=
  if interrupted then route.failQuiesce number
  else if route.quiesces[number]? = some (.waitingZero true) then
    { route with quiesces := route.quiesces.set number .drainingProxy }
  else route

/-- The next one of those that were woken; a cancellation or a timeout may have come since. -/
def runReady (route : Route) (interrupted : Bool) : Route :=
  match route.ready with
  | [] => route
  | .request number :: rest => { route with ready := rest }.resumeRequest number interrupted
  | .quiesce number :: rest => { route with ready := rest }.resumeQuiesce number interrupted

def leaveQueue (route : Route) (number : Nat) : Route :=
  if route.phaseOf number = some .waitingGlobal ∧
      route.globalSemaphore.stateOf number = some .pending then
    { route.rouse [number] with globalSemaphore := route.globalSemaphore.cancel number }
  else if route.phaseOf number = some .waitingRoute ∧
      route.semaphore.stateOf number = some .pending then
    { route.rouse [number] with semaphore := route.semaphore.cancel number }
  else route

def readBody (route : Route) (number : Nat) (fits : Bool) : Route :=
  match route.requests[number]? with
  | some request =>
    if request.phase = .readingBody then
      if fits then
        { route.toPhase number .delegated with
          requestSequence := route.requestSequence + 1
          delegations := route.delegations ++
            [{ arrived := request.arrived
               turn := route.turn }] }
      else route.toPhase number .refused
    else route
  | none => route

def wake : QuiescePhase → QuiescePhase
  | .waitingZero _ => .waitingZero true
  | phase => phase

def sleeping (quiesces : List QuiescePhase) : List Party :=
  ((List.range quiesces.length).filter (fun number =>
    quiesces[number]? = some (.waitingZero false))).map .quiesce

def releaseCapacity (route : Route) : Route :=
  let released : Route :=
    { route.rouse (route.semaphore.release.2 ++ route.globalSemaphore.release.2) with
      semaphore := route.semaphore.release.1
      globalSemaphore := route.globalSemaphore.release.1
      inflight := route.inflight - 1 }
  if released.inflight = 0 then
    { released with
      inflightZero := true
      ready := released.ready ++ sleeping route.quiesces
      quiesces := released.quiesces.map wake }
  else released

def finish (route : Route) (number : Nat) : Route :=
  if (route.phaseOf number).any RequestPhase.hasCapacity then
    { route.releaseCapacity with
      requests := route.requests.modify number (fun request =>
        { request with
          phase := .over
          globalPermits := request.globalPermits.release
          routePermits := request.routePermits.release }) }
  else route

def finishElsewhere (route : Route) (number : Nat) : Route :=
  if route.phaseOf number = some .elsewhere then
    { route.rouse route.globalSemaphore.release.2 with
      globalSemaphore := route.globalSemaphore.release.1
      requests := route.requests.modify number (fun request =>
        { request with
          phase := .over
          globalPermits := request.globalPermits.release }) }
  else route

def callOpenTurn (route : Route) : Route :=
  if route.state = .ready then { route with openCalls := route.openCalls + 1 } else route

/-- `proxy.open_turn` gets its lock: it raises where a turn is open, and the state is set
whatever it is by now. -/
def openTurn (route : Route) : Route :=
  if 0 < route.openCalls then
    let called := { route with openCalls := route.openCalls - 1 }
    if called.turnScope then called
    else
      { called with
        turnScope := true
        turn := called.turn + 1
        state := .active }
  else route

def dropOpenTurn (route : Route) : Route :=
  if 0 < route.openCalls then { route with openCalls := route.openCalls - 1 } else route

def callQuiesce (route : Route) : Route :=
  if route.state = .active then
    { route with
      state := .draining
      quiesces := route.quiesces ++
        [if route.inflightZero then .drainingProxy else .waitingZero false] }
  else route

def clearTurn (route : Route) (number : Nat) : Route :=
  if route.quiesces[number]? = some .drainingProxy then
    { route with
      turnScope := false
      state := .ready
      quiesces := route.quiesces.set number .over }
  else route

def markBroken (route : Route) : Route :=
  if route.state = .closed then route else { route with state := .broken }

/-- `_close_binding`, up to its wait; nothing of the binding changes after it. -/
def close (route : Route) : Route :=
  if route.state = .closed then route
  else
    { route with
      state := .closed
      registered := false }

def step (route : Route) : RouteEvent → Route
  | .arrive own => route.arrive own
  | .runReady interrupted => route.runReady interrupted
  | .leaveQueue number => route.leaveQueue number
  | .readBody number fits => route.readBody number fits
  | .finish number => route.finish number
  | .finishElsewhere number => route.finishElsewhere number
  | .callOpenTurn => route.callOpenTurn
  | .openTurn => route.openTurn
  | .dropOpenTurn => route.dropOpenTurn
  | .callQuiesce => route.callQuiesce
  | .clearTurn number => route.clearTurn number
  | .failQuiesce number => route.failQuiesce number
  | .markBroken => route.markBroken
  | .close => route.close

end Route

end Dressage.Harbor

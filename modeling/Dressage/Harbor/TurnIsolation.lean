/-
Turns and the requests of a route.

The capacity is exact in every run. A request that reads its body or was delegated
keeps `quiesce` waiting, so its turn stays open; one that only waits for capacity, or
that is still being refused, does not.
-/

import Dressage.Harbor.RouteRequests

namespace Dressage.Harbor

open Lib List

def RequestPhase.waitsGlobal : RequestPhase → Bool
  | .waitingGlobal => true
  | .elsewhere | .waitingRoute | .refused | .readingBody | .delegated | .over => false

def RequestPhase.waitsRoute : RequestPhase → Bool
  | .waitingGlobal | .elsewhere | .waitingRoute => true
  | .refused | .readingBody | .delegated | .over => false

def RequestPhase.isServed : RequestPhase → Bool
  | .readingBody | .delegated => true
  | .waitingGlobal | .elsewhere | .waitingRoute | .refused | .over => false

def QuiescePhase.isRunning : QuiescePhase → Bool
  | .waitingZero _ | .drainingProxy => true
  | .over => false

def QuiescePhase.sawZero : QuiescePhase → Bool
  | .waitingZero woken => woken
  | .drainingProxy => true
  | .over => false

theorem QuiescePhase.running_of_sawZero {quiesce : QuiescePhase} (saw : quiesce.sawZero = true) :
    quiesce.isRunning = true := by
  cases quiesce with
  | waitingZero woken => rfl
  | drainingProxy => rfl
  | «over» => cases saw

/-- At most one permit was acquired, and as many released but for the one that it has. -/
structure Permits.Exact (permits : Permits) (waits has : Bool) : Prop where
  once : permits.acquired ≤ 1
  fresh : waits = true → permits.acquired = 0
  balance : permits.acquired = permits.released + (if has then 1 else 0)

theorem Permits.Exact.acquire {permits : Permits} (exact : permits.Exact true false) :
    permits.acquire.Exact false true := by
  have fresh := exact.fresh rfl
  have balance := exact.balance
  rw [fresh] at balance
  constructor
  · exact Nat.le_of_eq (congrArg (· + 1) fresh)
  · exact nofun
  · exact congrArg (· + 1) (fresh.trans balance)

theorem Permits.Exact.release {permits : Permits} (exact : permits.Exact false true) :
    permits.release.Exact false false :=
  { exact with
    fresh := nofun }

theorem Permits.Exact.leave {permits : Permits} (exact : permits.Exact true false) :
    permits.Exact false false :=
  { exact with
    fresh := nofun }

structure RouteRequest.Exact (request : RouteRequest) : Prop where
  globalPermits : request.globalPermits.Exact request.phase.waitsGlobal request.phase.hasGlobal
  routePermits : request.routePermits.Exact request.phase.waitsRoute request.phase.hasCapacity

namespace Route

variable {route : Route}

structure Accounted (maxInflightGlobal maxInflightPerRoute : Nat) (route : Route) : Prop where
  inflight : route.inflight = route.requests.countP (fun request => request.phase.hasCapacity)
  zero : route.inflightZero = true ↔ route.inflight = 0
  globalPermits : route.globalSemaphore.free +
    route.requests.countP (fun request => request.phase.hasGlobal) = maxInflightGlobal
  routePermits : route.semaphore.free +
    route.requests.countP (fun request => request.phase.hasCapacity) = maxInflightPerRoute
  exact : ∀ request ∈ route.requests, request.Exact

/-- Requests are delegated in the turn in which they arrived, and while a turn is open,
only requests that arrived in it are counted. -/
structure Isolated (route : Route) : Prop where
  delegated : ∀ delegation ∈ route.delegations, delegation.turn = delegation.arrived
  counted : route.turnScope = true → ∀ request ∈ route.requests,
    request.phase.hasCapacity = true → request.arrived = route.turn

/-- The request that gets its last permit when the next of the woken parties runs. -/
def entersNext (route : Route) : Option RouteRequest :=
  match route.ready with
  | .request number :: _ => route.requests[number]?.filter (fun request =>
    request.phase = .waitingRoute ∧ route.semaphore.stateOf number = some .woken ∨
      request.phase = .waitingGlobal ∧ request.own = true ∧
        route.globalSemaphore.stateOf number = some .woken ∧ route.semaphore.locked = false)
  | _ => none

/-- No request gets its capacity while a later turn is open than the one it arrived in,
and no turn opens while a request is still being refused. -/
def KeepsApart (route : Route) : RouteEvent → Prop
  | .runReady interrupted =>
    interrupted = false → route.turnScope = true → ∀ request, route.entersNext = some request →
      request.arrived = route.turn
  | .openTurn =>
    0 < route.openCalls → route.turnScope = false → ∀ request ∈ route.requests,
      request.phase ≠ .refused
  | _ => True

variable {maxInflightGlobal maxInflightPerRoute : Nat}

theorem accounted_initial : Accounted maxInflightGlobal maxInflightPerRoute
    (initial maxInflightGlobal maxInflightPerRoute) := by
  constructor
  · rfl
  · exact ⟨fun _ => rfl, fun _ => rfl⟩
  · exact Semaphore.free_ofValue _
  · exact Semaphore.free_ofValue _
  · intro request impossible
    cases impossible

variable {semaphore : Semaphore}
variable {phase : RequestPhase} {number : Nat} {request : RouteRequest} {next : Route}

theorem phaseOf_eq_some (found : route.phaseOf number = some phase) :
    ∃ request, route.requests[number]? = some request ∧ request.phase = phase :=
  Option.map_eq_some_iff.mp found

section

variable (accounted : Accounted maxInflightGlobal maxInflightPerRoute route)

include accounted

theorem Accounted.change (found : route.requests[number]? = some request)
    (change : RouteRequest → RouteRequest)
    (requests : next.requests = route.requests.modify number change)
    (inflight : next.inflight + (if request.phase.hasCapacity then 1 else 0) =
      route.inflight + (if (change request).phase.hasCapacity then 1 else 0))
    (zero : next.inflightZero = true ↔ next.inflight = 0)
    (globalPermits : next.globalSemaphore.free +
        (if (change request).phase.hasGlobal then 1 else 0) =
      route.globalSemaphore.free + (if request.phase.hasGlobal then 1 else 0))
    (routePermits : next.semaphore.free + (if (change request).phase.hasCapacity then 1 else 0) =
      route.semaphore.free + (if request.phase.hasCapacity then 1 else 0))
    (exact : request.Exact → (change request).Exact) :
    Accounted maxInflightGlobal maxInflightPerRoute next := by
  have capacity := Lists.countP_modify
    (fun request : RouteRequest => request.phase.hasCapacity) found change
  have permits := Lists.countP_modify
    (fun request : RouteRequest => request.phase.hasGlobal) found change
  have before := accounted.inflight
  have held := accounted.globalPermits
  have taken := accounted.routePermits
  constructor
  · rw [requests]
    omega
  · exact zero
  · rw [requests]
    omega
  · rw [requests]
    omega
  · rw [requests]
    intro other member
    rcases Lists.mem_modify member with old | ⟨changed, atNumber, same⟩
    · exact accounted.exact other old
    · rw [found, Option.some_inj] at atNumber
      rw [same, ← atNumber]
      exact exact (accounted.exact request (mem_of_getElem? found))

theorem Accounted.same (requests : next.requests = route.requests)
    (inflight : next.inflight = route.inflight)
    (inflightZero : next.inflightZero = route.inflightZero)
    (semaphore : next.semaphore.free = route.semaphore.free)
    (globalSemaphore : next.globalSemaphore.free = route.globalSemaphore.free) :
    Accounted maxInflightGlobal maxInflightPerRoute next := by
  constructor
  · rw [inflight, requests]
    exact accounted.inflight
  · rw [inflightZero, inflight]
    exact accounted.zero
  · rw [globalSemaphore, requests]
    exact accounted.globalPermits
  · rw [semaphore, requests]
    exact accounted.routePermits
  · rw [requests]
    exact accounted.exact

theorem Accounted.takeGlobal (waiting : route.phaseOf number = some .waitingGlobal)
    (taken : semaphore.free + 1 = route.globalSemaphore.free) :
    Accounted maxInflightGlobal maxInflightPerRoute (route.takeGlobal semaphore number) := by
  obtain ⟨request, found, waiting⟩ := phaseOf_eq_some waiting
  have held : ∀ phase : RequestPhase, phase = .waitingRoute ∨ phase = .elsewhere →
      phase.hasGlobal = true ∧ phase.hasCapacity = false ∧ phase.waitsGlobal = false ∧
        phase.waitsRoute = true := by
    rintro phase (rfl | rfl)
    · exact ⟨rfl, rfl, rfl, rfl⟩
    · exact ⟨rfl, rfl, rfl, rfl⟩
  obtain ⟨hasGlobal, noCapacity, noGlobal, waitsRoute⟩ := held
    (if request.own then .waitingRoute else .elsewhere) (by
      split
      · exact .inl rfl
      · exact .inr rfl)
  refine accounted.change found _ rfl ?_ accounted.zero ?_ ?_ ?_
  · simp only [noCapacity, waiting]
    rfl
  · simp only [hasGlobal, waiting]
    exact taken
  · simp only [noCapacity, waiting]
    rfl
  · rintro ⟨globalPermits, routePermits⟩
    rw [waiting] at globalPermits routePermits
    refine ⟨?_, ?_⟩
    · simp only [hasGlobal, noGlobal]
      exact globalPermits.acquire
    · simp only [noCapacity, waitsRoute]
      exact routePermits

theorem Accounted.takeRoute (waiting : route.phaseOf number = some .waitingRoute)
    (taken : semaphore.free + 1 = route.semaphore.free) :
    Accounted maxInflightGlobal maxInflightPerRoute (route.takeRoute semaphore number) := by
  obtain ⟨request, found, waiting⟩ := phaseOf_eq_some waiting
  have nonzero : (false = true ↔ route.inflight + 1 = 0) :=
    ⟨nofun, fun impossible => absurd impossible (Nat.succ_ne_zero _)⟩
  have served : ∀ phase : RequestPhase, phase = .readingBody ∨ phase = .refused →
      phase.hasGlobal = true ∧ phase.hasCapacity = true ∧ phase.waitsGlobal = false ∧
        phase.waitsRoute = false := by
    rintro phase (rfl | rfl)
    · exact ⟨rfl, rfl, rfl, rfl⟩
    · exact ⟨rfl, rfl, rfl, rfl⟩
  obtain ⟨hasGlobal, hasCapacity, noGlobal, noRoute⟩ := served
    (if route.state = .active then .readingBody else .refused) (by
      split
      · exact .inl rfl
      · exact .inr rfl)
  refine accounted.change found _ rfl ?_ nonzero ?_ ?_ ?_
  · simp only [hasCapacity, waiting]
    rfl
  · simp only [hasGlobal, waiting]
    rfl
  · simp only [hasCapacity, waiting]
    exact taken
  · rintro ⟨globalPermits, routePermits⟩
    rw [waiting] at globalPermits routePermits
    refine ⟨?_, ?_⟩
    · simp only [hasGlobal, noGlobal]
      exact globalPermits
    · simp only [hasCapacity, noRoute]
      exact routePermits.acquire

theorem Accounted.acquireRoute (number : Nat) :
    Accounted maxInflightGlobal maxInflightPerRoute (route.acquireRoute number) := by
  unfold Route.acquireRoute
  split
  · next waiting =>
      split
      · exact accounted.same rfl rfl rfl (Semaphore.free_enqueue _ _) rfl
      · next unlocked =>
          exact accounted.takeRoute waiting (Semaphore.free_take (Bool.not_eq_true _ ▸ unlocked))
  · exact accounted

theorem Accounted.arrive (own : Bool) :
    Accounted maxInflightGlobal maxInflightPerRoute (route.arrive own) := by
  unfold Route.arrive
  split
  · have fresh : Permits.Exact
        { acquired := 0
          released := 0 } true false :=
      { once := Nat.zero_le 1
        fresh := fun _ => rfl
        balance := rfl }
    have arrived : Accounted maxInflightGlobal maxInflightPerRoute { route with
        requests := route.requests ++
          [{ own := own
             arrived := route.turn
             phase := .waitingGlobal
             globalPermits :=
               { acquired := 0
                 released := 0 }
             routePermits :=
               { acquired := 0
                 released := 0 } }] } := by
      constructor
      · rw [countP_append]
        exact accounted.inflight
      · exact accounted.zero
      · rw [countP_append]
        exact accounted.globalPermits
      · rw [countP_append]
        exact accounted.routePermits
      · intro request member
        rcases mem_append.mp member with old | new
        · exact accounted.exact request old
        · rw [mem_singleton.mp new]
          exact
            { globalPermits := fresh
              routePermits := fresh }
    simp only
    split
    · exact arrived.same rfl rfl rfl rfl (Semaphore.free_enqueue _ _)
    · next unlocked =>
        apply Accounted.acquireRoute
        apply arrived.takeGlobal
        · unfold phaseOf
          rw [getElem?_concat_length]
          rfl
        · exact Semaphore.free_take (Bool.not_eq_true _ ▸ unlocked)
  · exact accounted

theorem Accounted.leaveGlobal (waiting : route.phaseOf number = some .waitingGlobal) :
    Accounted maxInflightGlobal maxInflightPerRoute (route.leaveGlobal number) := by
  obtain ⟨request, found, waiting⟩ := phaseOf_eq_some waiting
  refine accounted.change found _ rfl ?_ accounted.zero ?_ ?_ ?_
  · rw [waiting]
    rfl
  · rw [waiting]
    exact Semaphore.free_interrupt _ _
  · rw [waiting]
    rfl
  · rintro ⟨globalPermits, routePermits⟩
    rw [waiting] at globalPermits routePermits
    exact ⟨globalPermits.leave, routePermits.leave⟩

theorem Accounted.leaveRoute (waiting : route.phaseOf number = some .waitingRoute) :
    Accounted maxInflightGlobal maxInflightPerRoute (route.leaveRoute number) := by
  obtain ⟨request, found, waiting⟩ := phaseOf_eq_some waiting
  refine accounted.change found _ rfl ?_ accounted.zero ?_ ?_ ?_
  · rw [waiting]
    rfl
  · rw [waiting]
    exact Semaphore.free_release _
  · rw [waiting]
    exact Semaphore.free_interrupt _ _
  · rintro ⟨globalPermits, routePermits⟩
    rw [waiting] at globalPermits routePermits
    exact ⟨globalPermits.release, routePermits.leave⟩

theorem Accounted.rouse (woken : List Nat) :
    Accounted maxInflightGlobal maxInflightPerRoute (route.rouse woken) :=
  accounted.same rfl rfl rfl rfl rfl

theorem Accounted.resumeRequest (number : Nat) (interrupted : Bool) :
    Accounted maxInflightGlobal maxInflightPerRoute (route.resumeRequest number interrupted) := by
  unfold Route.resumeRequest
  split
  · next waiting =>
      split
      · next woken =>
          have free := Semaphore.free_leave woken.2
          exact ((accounted.rouse _).takeGlobal waiting free).acquireRoute number
      · exact accounted.leaveGlobal waiting
  · next waiting =>
      split
      · next woken =>
          exact (accounted.rouse _).takeRoute waiting (Semaphore.free_leave woken.2)
      · exact accounted.leaveRoute waiting
  · exact accounted

theorem Accounted.failQuiesce (number : Nat) :
    Accounted maxInflightGlobal maxInflightPerRoute (route.failQuiesce number) := by
  unfold Route.failQuiesce
  split
  · exact accounted.same rfl rfl rfl rfl rfl
  · exact accounted.same rfl rfl rfl rfl rfl
  · exact accounted

theorem Accounted.resumeQuiesce (number : Nat) (interrupted : Bool) :
    Accounted maxInflightGlobal maxInflightPerRoute (route.resumeQuiesce number interrupted) := by
  unfold Route.resumeQuiesce
  split
  · exact accounted.failQuiesce number
  · split
    · exact accounted.same rfl rfl rfl rfl rfl
    · exact accounted

theorem Accounted.runReady (interrupted : Bool) :
    Accounted maxInflightGlobal maxInflightPerRoute (route.runReady interrupted) := by
  have begun : ∀ rest, Accounted maxInflightGlobal maxInflightPerRoute
      { route with ready := rest } :=
    fun rest => accounted.same rfl rfl rfl rfl rfl
  unfold Route.runReady
  split
  · exact accounted
  · next number rest _ => exact (begun rest).resumeRequest number interrupted
  · next number rest _ => exact (begun rest).resumeQuiesce number interrupted

theorem Accounted.leaveQueue (number : Nat) :
    Accounted maxInflightGlobal maxInflightPerRoute (route.leaveQueue number) := by
  unfold Route.leaveQueue
  split
  · exact accounted.same rfl rfl rfl rfl (Semaphore.free_cancel _ _)
  · split
    · exact accounted.same rfl rfl rfl (Semaphore.free_cancel _ _) rfl
    · exact accounted

theorem Accounted.finishElsewhere (number : Nat) :
    Accounted maxInflightGlobal maxInflightPerRoute (route.finishElsewhere number) := by
  unfold Route.finishElsewhere
  split
  · next serving =>
      obtain ⟨request, found, serving⟩ := phaseOf_eq_some serving
      refine accounted.change found _ rfl ?_ accounted.zero ?_ ?_ ?_
      · rw [serving]
        rfl
      · rw [serving]
        exact Semaphore.free_release _
      · rw [serving]
        rfl
      · rintro ⟨globalPermits, routePermits⟩
        rw [serving] at globalPermits routePermits
        exact ⟨globalPermits.release, routePermits.leave⟩
  · exact accounted

theorem Accounted.readBody (number : Nat) (fits : Bool) :
    Accounted maxInflightGlobal maxInflightPerRoute (route.readBody number fits) := by
  unfold Route.readBody
  split
  · next request found =>
      split
      · next reading =>
          -- the request keeps what it has
          have kept : ∀ (phase : RequestPhase) (next : Route),
              phase = .delegated ∨ phase = .refused →
              next.requests = (route.toPhase number phase).requests →
              next.inflight = route.inflight → next.inflightZero = route.inflightZero →
              next.globalSemaphore = route.globalSemaphore →
              next.semaphore = route.semaphore →
              Accounted maxInflightGlobal maxInflightPerRoute next := by
            intro phase next either requests inflight zero globalPermits routePermits
            refine accounted.change found _ requests ?_ ?_ ?_ ?_ ?_
            · rcases either with rfl | rfl
              · rw [inflight, reading]
                rfl
              · rw [inflight, reading]
                rfl
            · rw [zero, inflight]
              exact accounted.zero
            · rcases either with rfl | rfl
              · rw [globalPermits, reading]
                rfl
              · rw [globalPermits, reading]
                rfl
            · rcases either with rfl | rfl
              · rw [routePermits, reading]
                rfl
              · rw [routePermits, reading]
                rfl
            · rintro ⟨globalPermits, routePermits⟩
              rw [reading] at globalPermits routePermits
              rcases either with rfl | rfl <;> exact ⟨globalPermits, routePermits⟩
          split
          · exact kept .delegated _ (.inl rfl) rfl rfl rfl rfl rfl
          · exact kept .refused _ (.inr rfl) rfl rfl rfl rfl rfl
      · exact accounted
  · exact accounted

theorem Accounted.inflight_pos (member : request ∈ route.requests)
    (has : request.phase.hasCapacity = true) :
    0 < route.inflight := by
  rw [accounted.inflight]
  exact countP_pos_iff.mpr ⟨request, member, has⟩

end

theorem hasGlobal_of_hasCapacity (has : phase.hasCapacity = true) :
    phase.hasGlobal = true ∧ phase.waitsGlobal = false ∧ phase.waitsRoute = false := by
  cases phase with
  | waitingGlobal | elsewhere | waitingRoute | «over» => cases has
  | refused | readingBody | delegated => exact ⟨rfl, rfl, rfl⟩

theorem releaseCapacity_fields (route : Route) :
    route.releaseCapacity.semaphore.free = route.semaphore.free + 1 ∧
      route.releaseCapacity.globalSemaphore.free = route.globalSemaphore.free + 1 ∧
      route.releaseCapacity.inflight = route.inflight - 1 ∧
      route.releaseCapacity.inflightZero =
        (if route.inflight - 1 = 0 then true else route.inflightZero) := by
  have semaphore := Semaphore.free_release route.semaphore
  have globalSemaphore := Semaphore.free_release route.globalSemaphore
  unfold Route.releaseCapacity
  simp only
  split <;> exact ⟨semaphore, globalSemaphore, rfl, rfl⟩

theorem Accounted.finish (accounted : Accounted maxInflightGlobal maxInflightPerRoute route)
    (number : Nat) : Accounted maxInflightGlobal maxInflightPerRoute (route.finish number) := by
  unfold Route.finish
  split
  · next holds =>
      obtain ⟨phase, atPhase, has⟩ := (Option.any_eq_true _ _).mp holds
      obtain ⟨request, found, rfl⟩ := phaseOf_eq_some atPhase
      obtain ⟨hasGlobal, noGlobal, noRoute⟩ := hasGlobal_of_hasCapacity has
      obtain ⟨semaphore, globalSemaphore, inflight, zero⟩ := releaseCapacity_fields route
      have positive := accounted.inflight_pos (mem_of_getElem? found) has
      refine accounted.change found _ rfl ?_ ?_ ?_ ?_ ?_
      · rw [has]
        exact (congrArg (· + 1) inflight).trans (Nat.sub_add_cancel positive)
      · change route.releaseCapacity.inflightZero = true ↔ route.releaseCapacity.inflight = 0
        rw [zero, inflight]
        split
        · next empty => exact ⟨fun _ => empty, fun _ => rfl⟩
        · next occupied =>
            constructor
            · intro isZero
              have empty := accounted.zero.mp isZero
              omega
            · intro empty
              exact absurd empty occupied
      · rw [hasGlobal]
        exact globalSemaphore
      · rw [has]
        exact semaphore
      · rintro ⟨globalPermits, routePermits⟩
        rw [hasGlobal, noGlobal] at globalPermits
        rw [has, noRoute] at routePermits
        exact ⟨globalPermits.release, routePermits.release⟩
  · exact accounted

theorem Accounted.step (accounted : Accounted maxInflightGlobal maxInflightPerRoute route)
    (event : RouteEvent) :
    Accounted maxInflightGlobal maxInflightPerRoute (route.step event) := by
  cases event with
  | arrive own => exact accounted.arrive own
  | runReady interrupted => exact accounted.runReady interrupted
  | leaveQueue number => exact accounted.leaveQueue number
  | readBody number fits => exact accounted.readBody number fits
  | finish number => exact accounted.finish number
  | finishElsewhere number => exact accounted.finishElsewhere number
  | callOpenTurn =>
    unfold Route.step Route.callOpenTurn
    simp only
    split
    · exact accounted.same rfl rfl rfl rfl rfl
    · exact accounted
  | openTurn =>
    unfold Route.step Route.openTurn
    simp only
    split
    · split <;> exact accounted.same rfl rfl rfl rfl rfl
    · exact accounted
  | dropOpenTurn =>
    unfold Route.step Route.dropOpenTurn
    simp only
    split
    · exact accounted.same rfl rfl rfl rfl rfl
    · exact accounted
  | callQuiesce =>
    unfold Route.step Route.callQuiesce
    simp only
    split
    · exact accounted.same rfl rfl rfl rfl rfl
    · exact accounted
  | clearTurn number =>
    unfold Route.step Route.clearTurn
    simp only
    split
    · exact accounted.same rfl rfl rfl rfl rfl
    · exact accounted
  | failQuiesce number => exact accounted.failQuiesce number
  | markBroken =>
    unfold Route.step Route.markBroken
    simp only
    split
    · exact accounted
    · exact accounted.same rfl rfl rfl rfl rfl
  | close =>
    unfold Route.step Route.close
    simp only
    split
    · exact accounted
    · exact accounted.same rfl rfl rfl rfl rfl

structure Sound (route : Route) : Prop where
  isolated : Isolated route
  bounded : ∀ request ∈ route.requests, request.arrived ≤ route.turn
  active : route.state = .active → route.turnScope = true
  served : ∀ request ∈ route.requests, request.phase.isServed = true → route.turnScope = true
  quiescing : ∀ quiesce ∈ route.quiesces, quiesce.isRunning = true →
    route.turnScope = true ∧ route.state ≠ .active
  alone : ∀ (first second : Nat) (quiesce other : QuiescePhase),
    route.quiesces[first]? = some quiesce → route.quiesces[second]? = some other →
    quiesce.isRunning = true → other.isRunning = true → first = second
  drained : ∀ quiesce ∈ route.quiesces, quiesce.sawZero = true →
    ∀ request ∈ route.requests, request.phase.isServed = false

theorem sound_initial (maxInflightGlobal maxInflightPerRoute : Nat) :
    Sound (initial maxInflightGlobal maxInflightPerRoute) := by
  constructor
  · constructor
    · intro delegation impossible
      cases impossible
    · exact nofun
  · intro request impossible
    cases impossible
  · exact nofun
  · intro request impossible
    cases impossible
  · intro quiesce impossible
    cases impossible
  · intro first second quiesce other impossible
    cases impossible
  · intro quiesce impossible
    cases impossible

theorem hasCapacity_of_isServed (served : phase.isServed = true) : phase.hasCapacity = true := by
  cases phase with
  | waitingGlobal | elsewhere | waitingRoute | refused | «over» => cases served
  | readingBody | delegated => rfl

theorem refused_or_served (has : phase.hasCapacity = true) :
    phase = .refused ∨ phase.isServed = true := by
  cases phase with
  | waitingGlobal | elsewhere | waitingRoute | «over» => cases has
  | refused => exact .inl rfl
  | readingBody | delegated => exact .inr rfl

theorem Accounted.none_served (accounted : Accounted maxInflightGlobal maxInflightPerRoute route)
    (empty : route.inflight = 0) :
    ∀ request ∈ route.requests, request.phase.isServed = false := by
  intro request member
  rw [← Bool.not_eq_true]
  intro served
  have positive := accounted.inflight_pos member (hasCapacity_of_isServed served)
  omega

section

variable (sound : Sound route)

include sound

theorem Sound.same (requests : next.requests = route.requests)
    (turnScope : next.turnScope = route.turnScope) (turn : next.turn = route.turn)
    (quiesces : next.quiesces = route.quiesces) (delegations : next.delegations = route.delegations)
    (state : next.state = .active → route.state = .active) : Sound next := by
  constructor
  · constructor
    · rw [delegations]
      exact sound.isolated.delegated
    · rw [turnScope, requests, turn]
      exact sound.isolated.counted
  · rw [requests, turn]
    exact sound.bounded
  · rw [turnScope]
    exact fun active => sound.active (state active)
  · rw [requests, turnScope]
    exact sound.served
  · rw [quiesces, turnScope]
    intro quiesce member running
    obtain ⟨inScope, inactive⟩ := sound.quiescing quiesce member running
    exact ⟨inScope, fun active => inactive (state active)⟩
  · rw [quiesces]
    exact sound.alone
  · rw [quiesces, requests]
    exact sound.drained

theorem Sound.change (found : route.requests[number]? = some request)
    (change : RouteRequest → RouteRequest)
    (requests : next.requests = route.requests.modify number change)
    (turnScope : next.turnScope = route.turnScope) (turn : next.turn = route.turn)
    (quiesces : next.quiesces = route.quiesces) (state : next.state = route.state)
    (delegated : ∀ delegation ∈ next.delegations, delegation.turn = delegation.arrived)
    (arrived : (change request).arrived = request.arrived)
    (counted : route.turnScope = true → (change request).phase.hasCapacity = true →
      request.arrived = route.turn)
    (serves : (change request).phase.isServed = true →
      request.phase.isServed = true ∨ route.state = .active) : Sound next := by
  have isMember : request ∈ route.requests := mem_of_getElem? found
  have cases : ∀ other ∈ next.requests, other ∈ route.requests ∨ other = change request := by
    rw [requests]
    intro other member
    rcases Lists.mem_modify member with old | ⟨before, atNumber, same⟩
    · exact .inl old
    · rw [found, Option.some_inj] at atNumber
      exact .inr (atNumber ▸ same)
  constructor
  · refine ⟨delegated, ?_⟩
    rw [turnScope, turn]
    intro inScope other member has
    rcases cases other member with old | rfl
    · exact sound.isolated.counted inScope other old has
    · exact arrived.trans (counted inScope has)
  · rw [turn]
    intro other member
    rcases cases other member with old | rfl
    · exact sound.bounded other old
    · exact arrived ▸ sound.bounded request isMember
  · rw [state, turnScope]
    exact sound.active
  · rw [turnScope]
    intro other member isServed
    rcases cases other member with old | rfl
    · exact sound.served other old isServed
    · rcases serves isServed with before | active
      · exact sound.served request isMember before
      · exact sound.active active
  · rw [quiesces, turnScope, state]
    exact sound.quiescing
  · rw [quiesces]
    exact sound.alone
  · rw [quiesces]
    intro quiesce member saw other present
    rcases cases other present with old | rfl
    · exact sound.drained quiesce member saw other old
    · rw [← Bool.not_eq_true]
      intro isServed
      rcases serves isServed with before | active
      · have none := sound.drained quiesce member saw request isMember
        rw [before] at none
        cases none
      · exact (sound.quiescing quiesce member (QuiescePhase.running_of_sawZero saw)).2 active

theorem Sound.takeGlobal (semaphore : Semaphore)
    (waiting : route.phaseOf number = some .waitingGlobal) :
    Sound (route.takeGlobal semaphore number) := by
  obtain ⟨request, found, _⟩ := phaseOf_eq_some waiting
  have idle : ∀ phase : RequestPhase, phase = .waitingRoute ∨ phase = .elsewhere →
      phase.hasCapacity = true → False := by
    rintro phase (rfl | rfl)
    · exact nofun
    · exact nofun
  have either : ∀ own : Bool, (if own then RequestPhase.waitingRoute else .elsewhere) =
      .waitingRoute ∨ (if own then RequestPhase.waitingRoute else .elsewhere) = .elsewhere := by
    intro own
    cases own with
    | true => exact .inl rfl
    | false => exact .inr rfl
  refine sound.change found _ rfl rfl rfl rfl rfl sound.isolated.delegated rfl ?_ ?_
  · exact fun _ has => (idle _ (either _) has).elim
  · exact fun served => (idle _ (either _) (hasCapacity_of_isServed served)).elim

theorem Sound.takeRoute (semaphore : Semaphore) (found : route.requests[number]? = some request)
    (own : route.turnScope = true → request.arrived = route.turn) :
    Sound (route.takeRoute semaphore number) := by
  refine sound.change found _ rfl rfl rfl rfl rfl sound.isolated.delegated rfl ?_ ?_
  · exact fun inScope _ => own inScope
  · intro isServed
    by_cases active : route.state = .active
    · exact .inr active
    · simp only [if_neg active] at isServed
      cases isServed

theorem Sound.acquireRoute (apart : route.semaphore.locked = false → route.turnScope = true →
    ∀ request, route.requests[number]? = some request → request.phase = .waitingRoute →
      request.arrived = route.turn) : Sound (route.acquireRoute number) := by
  unfold Route.acquireRoute
  split
  · next waiting =>
      obtain ⟨request, found, waiting⟩ := phaseOf_eq_some waiting
      split
      · exact sound.same rfl rfl rfl rfl rfl id
      · next unlocked =>
          exact sound.takeRoute _ found
            (fun inScope => apart (Bool.not_eq_true _ ▸ unlocked) inScope request found waiting)
  · exact sound

theorem Sound.arrive (own : Bool) : Sound (route.arrive own) := by
  unfold Route.arrive
  split
  · have arrived : Sound { route with
        requests := route.requests ++
          [{ own := own
             arrived := route.turn
             phase := .waitingGlobal
             globalPermits :=
               { acquired := 0
                 released := 0 }
             routePermits :=
               { acquired := 0
                 released := 0 } }] } := by
      refine { sound with isolated := ?_, bounded := ?_, served := ?_, drained := ?_ }
      · refine ⟨sound.isolated.delegated, ?_⟩
        intro inScope request member has
        rcases mem_append.mp member with old | new
        · exact sound.isolated.counted inScope request old has
        · rw [mem_singleton.mp new]
      · intro request member
        rcases mem_append.mp member with old | new
        · exact sound.bounded request old
        · have same := mem_singleton.mp new
          subst same
          exact Nat.le_refl route.turn
      · intro request member isServed
        rcases mem_append.mp member with old | new
        · exact sound.served request old isServed
        · rw [mem_singleton.mp new] at isServed
          cases isServed
      · intro quiesce present saw request member
        rcases mem_append.mp member with old | new
        · exact sound.drained quiesce present saw request old
        · rw [mem_singleton.mp new]
          rfl
    simp only
    split
    · exact arrived.same rfl rfl rfl rfl rfl id
    · apply Sound.acquireRoute
      · apply arrived.takeGlobal
        unfold phaseOf
        rw [getElem?_concat_length]
        rfl
      · intro _ _ request found _
        unfold Route.takeGlobal at found
        simp only at found
        rw [getElem?_modify_eq, getElem?_concat_length] at found
        cases found
        rfl
  · exact sound

theorem Sound.leave (found : route.requests[number]? = some request)
    (change : RouteRequest → RouteRequest) (ends : ∀ request, (change request).phase = .over)
    (requests : next.requests = route.requests.modify number change)
    (arrived : (change request).arrived = request.arrived)
    (turnScope : next.turnScope = route.turnScope) (turn : next.turn = route.turn)
    (quiesces : next.quiesces = route.quiesces) (state : next.state = route.state)
    (delegations : next.delegations = route.delegations) : Sound next := by
  refine sound.change found change requests turnScope turn quiesces state ?_ arrived ?_ ?_
  · rw [delegations]
    exact sound.isolated.delegated
  · rw [ends]
    exact nofun
  · rw [ends]
    exact nofun

theorem Sound.rouse (woken : List Nat) : Sound (route.rouse woken) :=
  sound.same rfl rfl rfl rfl rfl id

theorem Sound.resumeRequest (number : Nat) (interrupted : Bool)
    (apart : interrupted = false → route.turnScope = true → ∀ request,
      route.requests[number]? = some request →
        (request.phase = .waitingRoute ∧ route.semaphore.stateOf number = some .woken ∨
          request.phase = .waitingGlobal ∧ request.own = true ∧
            route.globalSemaphore.stateOf number = some .woken ∧
              route.semaphore.locked = false) → request.arrived = route.turn) :
    Sound (route.resumeRequest number interrupted) := by
  unfold Route.resumeRequest
  split
  · next waiting =>
      obtain ⟨request, found, isWaiting⟩ := phaseOf_eq_some waiting
      split
      · next woken =>
          apply ((sound.rouse _).takeGlobal _ waiting).acquireRoute
          intro unlocked inScope later atNumber waitsRoute
          change (route.requests.modify number _)[number]? = some later at atNumber
          rw [getElem?_modify_eq, found] at atNumber
          cases atNumber
          apply apart woken.1 inScope request found
          refine .inr ⟨isWaiting, ?_, woken.2, unlocked⟩
          cases own : request.own with
          | true => rfl
          | false =>
            simp only [own, Bool.false_eq_true, if_false] at waitsRoute
            cases waitsRoute
      · exact sound.leave found _ (fun _ => rfl) rfl rfl rfl rfl rfl rfl rfl
  · next waiting =>
      obtain ⟨request, found, isWaiting⟩ := phaseOf_eq_some waiting
      split
      · next woken =>
          apply (sound.rouse _).takeRoute _ found
          exact fun inScope => apart woken.1 inScope request found (.inl ⟨isWaiting, woken.2⟩)
      · exact sound.leave found _ (fun _ => rfl) rfl rfl rfl rfl rfl rfl rfl
  · exact sound

theorem Sound.leaveQueue (number : Nat) : Sound (route.leaveQueue number) := by
  unfold Route.leaveQueue
  split
  · exact sound.same rfl rfl rfl rfl rfl id
  · split
    · exact sound.same rfl rfl rfl rfl rfl id
    · exact sound

theorem Sound.finishElsewhere (number : Nat) : Sound (route.finishElsewhere number) := by
  unfold Route.finishElsewhere
  split
  · next serving =>
      obtain ⟨request, found, _⟩ := phaseOf_eq_some serving
      exact sound.leave found _ (fun _ => rfl) rfl rfl rfl rfl rfl rfl rfl
  · exact sound

theorem Sound.readBody (number : Nat) (fits : Bool) : Sound (route.readBody number fits) := by
  unfold Route.readBody
  split
  · next request found =>
      split
      · next reading =>
          have isMember : request ∈ route.requests := mem_of_getElem? found
          have isServed : request.phase.isServed = true := by
            rw [reading]
            rfl
          have inScope := sound.served request isMember isServed
          have own := sound.isolated.counted inScope request isMember
            (hasCapacity_of_isServed isServed)
          split
          · refine sound.change found _ rfl rfl rfl rfl rfl ?_ rfl (fun _ _ => own)
              (fun _ => .inl isServed)
            intro delegation member
            rcases mem_append.mp member with old | new
            · exact sound.isolated.delegated delegation old
            · rw [mem_singleton.mp new]
              exact own.symm
          · exact sound.change found _ rfl rfl rfl rfl rfl sound.isolated.delegated rfl
              (fun _ _ => own) nofun
      · exact sound
  · exact sound

theorem Sound.wake (none : ∀ request ∈ route.requests, request.phase.isServed = false)
    (requests : next.requests = route.requests) (turnScope : next.turnScope = route.turnScope)
    (turn : next.turn = route.turn) (quiesces : next.quiesces = route.quiesces.map Route.wake)
    (delegations : next.delegations = route.delegations) (state : next.state = route.state) :
    Sound next := by
  have running : ∀ quiesce : QuiescePhase, (Route.wake quiesce).isRunning = quiesce.isRunning := by
    intro quiesce
    cases quiesce with
    | waitingZero woken => rfl
    | drainingProxy => rfl
    | «over» => rfl
  have base : Sound { next with quiesces := route.quiesces } :=
    sound.same requests turnScope turn rfl delegations (fun active => state.symm.trans active)
  refine { base with isolated := ?_, quiescing := ?_, alone := ?_, drained := ?_ }
  · exact ⟨base.isolated.delegated, base.isolated.counted⟩
  · rw [quiesces]
    intro quiesce member isRunning
    obtain ⟨before, present, rfl⟩ := mem_map.mp member
    exact base.quiescing before present ((running before).symm.trans isRunning)
  · rw [quiesces]
    intro first second quiesce other atFirst atSecond isRunning alsoRunning
    rw [getElem?_map] at atFirst atSecond
    obtain ⟨before, present, rfl⟩ := Option.map_eq_some_iff.mp atFirst
    obtain ⟨otherBefore, otherPresent, rfl⟩ := Option.map_eq_some_iff.mp atSecond
    exact base.alone first second before otherBefore present otherPresent
      ((running before).symm.trans isRunning) ((running otherBefore).symm.trans alsoRunning)
  · rw [requests]
    exact fun _ _ _ => none

end

theorem quiesces_releaseCapacity (route : Route) : route.releaseCapacity.quiesces =
    if route.inflight - 1 = 0 then route.quiesces.map Route.wake else route.quiesces := by
  unfold Route.releaseCapacity
  simp only
  split <;> rfl

theorem releaseCapacity_keeps (route : Route) :
    route.releaseCapacity.turnScope = route.turnScope ∧
      route.releaseCapacity.turn = route.turn ∧
      route.releaseCapacity.delegations = route.delegations ∧
      route.releaseCapacity.state = route.state := by
  unfold Route.releaseCapacity
  simp only
  split <;> exact ⟨rfl, rfl, rfl, rfl⟩

theorem Sound.finish (sound : Sound route)
    (accounted : Accounted maxInflightGlobal maxInflightPerRoute route) (number : Nat) :
    Sound (route.finish number) := by
  have after := accounted.finish number
  revert after
  unfold Route.finish
  split
  · next holds =>
      intro after
      obtain ⟨phase, atPhase, _⟩ := (Option.any_eq_true _ _).mp holds
      obtain ⟨request, found, _⟩ := phaseOf_eq_some atPhase
      have left : Sound { route with
          requests := route.requests.modify number (fun request =>
            { request with
              phase := .over
              globalPermits := request.globalPermits.release
              routePermits := request.routePermits.release }) } :=
        sound.change found _ rfl rfl rfl rfl rfl sound.isolated.delegated rfl nofun nofun
      obtain ⟨turnScope, turn, delegations, state⟩ := releaseCapacity_keeps route
      have quiesces := quiesces_releaseCapacity route
      by_cases empty : route.inflight - 1 = 0
      · rw [if_pos empty] at quiesces
        have none := after.none_served ((releaseCapacity_fields route).2.2.1.trans empty)
        exact left.wake none rfl turnScope turn quiesces delegations state
      · rw [if_neg empty] at quiesces
        exact left.same rfl turnScope turn quiesces delegations
          (fun active => state.symm.trans active)
  · exact fun _ => sound

theorem Sound.openTurn (sound : Sound route) (apart : route.KeepsApart .openTurn) :
    Sound route.openTurn := by
  unfold Route.openTurn
  split
  · next called =>
      simp only
      split
      · exact sound.same rfl rfl rfl rfl rfl id
      · next noScope =>
          rw [Bool.not_eq_true] at noScope
          have noScope : route.turnScope = false := noScope
          have idle : ∀ request ∈ route.requests, request.phase.isServed = false := by
            intro request member
            rw [← Bool.not_eq_true]
            intro isServed
            have inScope := sound.served request member isServed
            rw [noScope] at inScope
            cases inScope
          have none : ∀ quiesce ∈ route.quiesces, quiesce.isRunning ≠ true := by
            intro quiesce member running
            have inScope := (sound.quiescing quiesce member running).1
            rw [noScope] at inScope
            cases inScope
          constructor
          · refine ⟨sound.isolated.delegated, ?_⟩
            intro _ request member has
            rcases refused_or_served has with refused | isServed
            · exact absurd refused (apart called noScope request member)
            · rw [idle request member] at isServed
              cases isServed
          · exact fun request member => Nat.le_succ_of_le (sound.bounded request member)
          · exact fun _ => rfl
          · exact fun _ _ _ => rfl
          · exact fun quiesce member running => absurd running (none quiesce member)
          · exact sound.alone
          · exact fun _ _ _ => idle
  · exact sound

theorem Sound.callQuiesce (sound : Sound route)
    (accounted : Accounted maxInflightGlobal maxInflightPerRoute route) :
    Sound route.callQuiesce := by
  unfold Route.callQuiesce
  split
  · next active =>
      have none : ∀ quiesce ∈ route.quiesces, quiesce.isRunning ≠ true :=
        fun quiesce member running => (sound.quiescing quiesce member running).2 active
      constructor
      · exact ⟨sound.isolated.delegated, sound.isolated.counted⟩
      · exact sound.bounded
      · exact nofun
      · exact sound.served
      · exact fun _ _ _ => ⟨sound.active active, nofun⟩
      · intro first second quiesce other atFirst atSecond running alsoRunning
        rcases Lists.getElem?_snoc atFirst with old | ⟨last, _⟩
        · exact absurd running (none quiesce (mem_of_getElem? old))
        · rcases Lists.getElem?_snoc atSecond with old | ⟨alsoLast, _⟩
          · exact absurd alsoRunning (none other (mem_of_getElem? old))
          · exact last.trans alsoLast.symm
      · intro quiesce member saw
        rcases mem_append.mp member with old | new
        · exact absurd (QuiescePhase.running_of_sawZero saw) (none quiesce old)
        · rw [mem_singleton.mp new] at saw
          apply accounted.none_served
          apply accounted.zero.mp
          by_contra occupied
          rw [if_neg occupied] at saw
          cases saw
  · exact sound

theorem getElem?_set_cases {quiesces : List QuiescePhase} {number index : Nat}
    {entered quiesce : QuiescePhase}
    (found : (quiesces.set number entered)[index]? = some quiesce) :
    (index = number ∧ quiesce = entered) ∨ (index ≠ number ∧ quiesces[index]? = some quiesce) := by
  by_cases same : number = index
  · subst same
    obtain ⟨within, isEntered⟩ := List.getElem_of_getElem? found
    rw [getElem_set_self] at isEntered
    exact .inl ⟨rfl, isEntered.symm⟩
  · rw [getElem?_set_ne same] at found
    exact .inr ⟨fun equal => same equal.symm, found⟩

section

variable (sound : Sound route)

include sound

theorem Sound.seeZero (woken : route.quiesces[number]? = some (.waitingZero true)) :
    Sound { route with quiesces := route.quiesces.set number .drainingProxy } := by
  have isMember := mem_of_getElem? woken
  have cases : ∀ (index : Nat) (quiesce : QuiescePhase),
      (route.quiesces.set number .drainingProxy)[index]? = some quiesce →
      ∃ before, route.quiesces[index]? = some before ∧
        (quiesce.isRunning = true → before.isRunning = true) ∧
        (quiesce.sawZero = true → before.sawZero = true) := by
    intro index quiesce found
    rcases getElem?_set_cases found with ⟨rfl, rfl⟩ | ⟨_, old⟩
    · exact ⟨_, woken, fun _ => rfl, fun _ => rfl⟩
    · exact ⟨quiesce, old, id, id⟩
  refine { sound with isolated := ?_, quiescing := ?_, alone := ?_, drained := ?_ }
  · exact ⟨sound.isolated.delegated, sound.isolated.counted⟩
  · intro quiesce member running
    obtain ⟨index, found⟩ := mem_iff_getElem?.mp member
    obtain ⟨before, present, runs, _⟩ := cases index quiesce found
    exact sound.quiescing before (mem_of_getElem? present) (runs running)
  · intro first second quiesce other atFirst atSecond running alsoRunning
    obtain ⟨before, present, runs, _⟩ := cases first quiesce atFirst
    obtain ⟨otherBefore, otherPresent, alsoRuns, _⟩ := cases second other atSecond
    exact sound.alone first second before otherBefore present otherPresent (runs running)
      (alsoRuns alsoRunning)
  · intro quiesce member saw
    obtain ⟨index, found⟩ := mem_iff_getElem?.mp member
    obtain ⟨before, present, _, saws⟩ := cases index quiesce found
    exact sound.drained before (mem_of_getElem? present) (saws saw)

theorem Sound.endQuiesce {quiesce : QuiescePhase} (found : route.quiesces[number]? = some quiesce)
    (running : quiesce.isRunning = true) (requests : next.requests = route.requests)
    (turn : next.turn = route.turn) (turnScope : next.turnScope = true → route.turnScope = true)
    (quiesces : next.quiesces = route.quiesces.set number .over)
    (delegations : next.delegations = route.delegations) (state : next.state ≠ .active)
    (served : ∀ request ∈ route.requests, request.phase.isServed = true → next.turnScope = true) :
    Sound next := by
  have none : ∀ other ∈ next.quiesces, other.isRunning ≠ true := by
    rw [quiesces]
    intro other member also
    obtain ⟨index, atIndex⟩ := mem_iff_getElem?.mp member
    rcases getElem?_set_cases atIndex with ⟨_, rfl⟩ | ⟨elsewhere, old⟩
    · cases also
    · exact elsewhere (sound.alone index number other quiesce old found also running)
  constructor
  · constructor
    · rw [delegations]
      exact sound.isolated.delegated
    · rw [requests, turn]
      exact fun inScope => sound.isolated.counted (turnScope inScope)
  · rw [requests, turn]
    exact sound.bounded
  · exact fun active => absurd active state
  · rw [requests]
    exact served
  · exact fun other member also => absurd also (none other member)
  · intro first second other _ atFirst _ also _
    exact absurd also (none other (mem_of_getElem? atFirst))
  · exact fun other member saw =>
      absurd (QuiescePhase.running_of_sawZero saw) (none other member)

theorem Sound.clearTurn (number : Nat) : Sound (route.clearTurn number) := by
  unfold Route.clearTurn
  split
  · next found =>
      refine sound.endQuiesce found rfl rfl rfl nofun rfl rfl nofun ?_
      intro request member isServed
      rw [sound.drained _ (mem_of_getElem? found) rfl request member] at isServed
      cases isServed
  · exact sound

theorem Sound.failQuiesce (number : Nat) : Sound (route.failQuiesce number) := by
  unfold Route.failQuiesce
  split
  · next woken found => exact sound.endQuiesce found rfl rfl rfl id rfl rfl nofun sound.served
  · next found => exact sound.endQuiesce found rfl rfl rfl id rfl rfl nofun sound.served
  · exact sound

theorem Sound.runReady {interrupted : Bool} (apart : route.KeepsApart (.runReady interrupted)) :
    Sound (route.runReady interrupted) := by
  have begun : ∀ rest, Sound { route with ready := rest } :=
    fun rest => sound.same rfl rfl rfl rfl rfl id
  unfold KeepsApart entersNext at apart
  unfold Route.runReady
  split
  · exact sound
  · next number rest woken =>
      apply (begun rest).resumeRequest
      intro goesOn inScope request found enters
      rw [woken] at apart
      apply apart goesOn inScope request
      exact Option.filter_eq_some_iff.mpr ⟨found, by simpa using enters⟩
  · next number rest _ =>
      unfold Route.resumeQuiesce
      split
      · exact (begun rest).failQuiesce number
      · split
        · next woken => exact (begun rest).seeZero woken
        · exact begun rest

theorem Sound.step (accounted : Accounted maxInflightGlobal maxInflightPerRoute route)
    {event : RouteEvent} (apart : route.KeepsApart event) : Sound (route.step event) := by
  cases event with
  | arrive own => exact sound.arrive own
  | runReady interrupted => exact sound.runReady apart
  | leaveQueue number => exact sound.leaveQueue number
  | readBody number fits => exact sound.readBody number fits
  | finish number => exact sound.finish accounted number
  | openTurn => exact sound.openTurn apart
  | callQuiesce => exact sound.callQuiesce accounted
  | finishElsewhere number => exact sound.finishElsewhere number
  | clearTurn number => exact sound.clearTurn number
  | failQuiesce number => exact sound.failQuiesce number
  | callOpenTurn =>
    unfold Route.step Route.callOpenTurn
    simp only
    split
    · exact sound.same rfl rfl rfl rfl rfl id
    · exact sound
  | dropOpenTurn =>
    unfold Route.step Route.dropOpenTurn
    simp only
    split
    · exact sound.same rfl rfl rfl rfl rfl id
    · exact sound
  | markBroken =>
    unfold Route.step Route.markBroken
    simp only
    split
    · exact sound
    · exact sound.same rfl rfl rfl rfl rfl nofun
  | close =>
    unfold Route.step Route.close
    simp only
    split
    · exact sound
    · exact sound.same rfl rfl rfl rfl rfl nofun

omit sound in
theorem counted_takeRoute {semaphore : Semaphore} (found : route.requests[number]? = some request)
    (isolated : Isolated (route.takeRoute semaphore number)) (inScope : route.turnScope = true) :
    request.arrived = route.turn := by
  have counted := Lists.change_mem_modify found (fun request : RouteRequest =>
    { request with
      phase := if route.state = .active then .readingBody else .refused
      routePermits := request.routePermits.acquire })
  have has : (if route.state = .active then RequestPhase.readingBody
      else RequestPhase.refused).hasCapacity = true := by
    split <;> rfl
  have own := isolated.counted inScope _ counted has
  exact own

omit sound in
theorem keepsApart_runReady (isolated : Isolated (route.runReady false))
    (inScope : route.turnScope = true) (enters : route.entersNext = some request) :
    request.arrived = route.turn := by
  unfold entersNext at enters
  split at enters
  · next number rest woken =>
      obtain ⟨found, permitted⟩ := Option.filter_eq_some_iff.mp enters
      rw [decide_eq_true_eq] at permitted
      unfold Route.runReady at isolated
      rw [woken] at isolated
      simp only at isolated
      have atPhase : ∀ phase, request.phase = phase → route.phaseOf number = some phase := by
        intro phase same
        unfold phaseOf
        rw [found, Option.map_some, same]
      rcases permitted with ⟨waiting, handed⟩ | ⟨waiting, own, handed, unlocked⟩
      · have here : ({ route with ready := rest } : Route).phaseOf number =
            some .waitingRoute := atPhase _ waiting
        unfold Route.resumeRequest at isolated
        rw [here] at isolated
        simp only [handed, and_self, if_true] at isolated
        have counted := counted_takeRoute (by exact found) isolated inScope
        exact counted
      · have here : ({ route with ready := rest } : Route).phaseOf number =
            some .waitingGlobal := atPhase _ waiting
        have taken : ∀ (ready : List Party) (semaphore : Semaphore),
            (({ route with ready := ready } : Route).takeGlobal semaphore number).requests[number]? =
              some { request with
                phase := .waitingRoute
                globalPermits := request.globalPermits.acquire } := by
          intro ready semaphore
          change (route.requests.modify number _)[number]? = _
          rw [getElem?_modify_eq, found]
          simp [own]
        unfold Route.resumeRequest at isolated
        rw [here] at isolated
        simp only [handed, and_self, if_true] at isolated
        unfold Route.acquireRoute at isolated
        rw [if_pos (by
          unfold phaseOf
          exact congrArg (Option.map RouteRequest.phase) (taken _ _))] at isolated
        rw [if_neg (by
          rw [Bool.not_eq_true]
          exact unlocked)] at isolated
        have counted := counted_takeRoute (taken _ _) isolated inScope
        exact counted
  · cases enters

theorem keepsApart_of_isolated {event : RouteEvent} (isolated : Isolated (route.step event)) :
    route.KeepsApart event := by
  unfold KeepsApart
  split
  · rintro rfl inScope request enters
    exact keepsApart_runReady isolated inScope enters
  · intro called noScope request member refused
    unfold Route.step Route.openTurn at isolated
    simp only [if_pos called, noScope, Bool.false_eq_true, if_false] at isolated
    have own := isolated.counted rfl request member (by rw [refused]; rfl)
    have bound := sound.bounded request member
    change request.arrived = route.turn + 1 at own
    omega
  · trivial

end

/-- The capacity is accounted for in every run; the turns stay apart throughout a run
exactly when its steps meet the condition. -/
theorem turns_isolated_iff (maxInflightGlobal maxInflightPerRoute : Nat)
    (events : List RouteEvent) :
    (∀ past, past <+: events → Accounted maxInflightGlobal maxInflightPerRoute
      (Runs.run step (initial maxInflightGlobal maxInflightPerRoute) past)) ∧
    ((∀ past, past <+: events →
      Isolated (Runs.run step (initial maxInflightGlobal maxInflightPerRoute) past)) ↔
      Runs.Admits step KeepsApart (initial maxInflightGlobal maxInflightPerRoute) events) := by
  constructor
  · intro past _
    exact Runs.run_preserves (fun _ event accounted => accounted.step event) accounted_initial past
  · have preserved : ∀ (route : Route) (event : RouteEvent),
        Accounted maxInflightGlobal maxInflightPerRoute route ∧ Sound route →
        route.KeepsApart event →
        Accounted maxInflightGlobal maxInflightPerRoute (route.step event) ∧
          Sound (route.step event) :=
      fun _ event both apart => ⟨both.1.step event, both.2.step both.1 apart⟩
    refine Runs.holds_iff_admits preserved ?_ ?_ ⟨accounted_initial, sound_initial _ _⟩ events
    · exact fun _ both => both.2.isolated
    · exact fun _ _ both isolated => keepsApart_of_isolated both.2 isolated

/-- The second request waits for the global permit that a request of another route has, while the
turn is quiesced and the next one opened. -/
def waitsThroughQuiesce : List RouteEvent :=
  [.callOpenTurn, .openTurn, .arrive false, .arrive true, .callQuiesce, .clearTurn 0,
    .callOpenTurn, .openTurn, .finishElsewhere 0, .runReady false, .readBody 1 true]

theorem waiting_request_crosses_turns :
    ¬ (∀ (maxInflightGlobal maxInflightPerRoute : Nat) (events : List RouteEvent),
      Accounted maxInflightGlobal maxInflightPerRoute
        (Runs.run step (initial maxInflightGlobal maxInflightPerRoute) events) ∧
      Isolated (Runs.run step (initial maxInflightGlobal maxInflightPerRoute) events)) ∧
    { arrived := 1, turn := 2 : Delegation } ∈
      (Runs.run step (initial 1 1) waitsThroughQuiesce).delegations := by
  have crossed : { arrived := 1, turn := 2 : Delegation } ∈
      (Runs.run step (initial 1 1) waitsThroughQuiesce).delegations := by
    decide
  refine ⟨fun all => ?_, crossed⟩
  have same := (all 1 1 waitsThroughQuiesce).2.delegated _ crossed
  cases same

end Route

end Dressage.Harbor

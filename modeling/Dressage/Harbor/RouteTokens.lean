/-
Route tokens over the retries of a Harbor job.

A slot holds the token of its trial's next attempt. START reads it and registers a route
under it; END's finalizer closes the route, which leaves a tombstone, and then rotates the
slot. Plugin and gateway run in two loops: a step is what one of them does between two
awaits. Tombstones expire with the clock and are trimmed to a number.

Tokens are drawn from a counter, and stand for their own digests and fingerprints. What
`open_turn`, `quiesce` and `mark_broken` do to a route is any assignment of its state. The
end of the job is left out, and so is a gateway whose owner loop does not run. What happened
is recorded beside the state that the code keeps: `rotated`, `clean`, `recorded` and `closes`.
-/

import Dressage.Harbor.RouteRequests
import Dressage.Lib.OrderedDict

namespace Dressage.Harbor

open Lib

structure GatewayLimits where
  maxActiveRoutes : Nat
  maxTombstones : Nat
  tombstoneTtl : Nat
  routeTtl : Nat

structure SlotRecord where
  token : Nat
  previousTokenFingerprint : Option Nat
  rotated : Bool
  deriving DecidableEq, Repr

inductive StartPhase where
  | submitted
  | entering (binding : Nat)
  | over
  deriving DecidableEq, Repr

inductive FinalizerPhase where
  | notStarted
  | running
  | closing (binding : Nat)
  | closeEnded (raised : Bool)
  | over (closed : Bool)
  deriving DecidableEq, Repr

structure AttemptRecord where
  trialName : String
  trialId : String
  tokenFingerprint : Nat
  start : StartPhase
  registered : Bool
  handle : Option Nat
  finalizer : FinalizerPhase
  clean : Bool
  deriving DecidableEq, Repr

structure RouteBinding where
  attempt : Nat
  token : Nat
  state : AttemptState
  createdAt : Nat
  expiring : Nat
  deriving DecidableEq, Repr

structure RouteJob where
  limits : GatewayLimits
  now : Nat
  nextToken : Nat
  slots : OrderedDict String SlotRecord
  attempts : List AttemptRecord
  bindings : List RouteBinding
  routes : OrderedDict Nat Nat
  tombstones : OrderedDict Nat Nat
  recorded : List (Nat × Nat)
  /-- The tokens whose routes were closed, and when; the last one first. -/
  closes : List (Nat × Nat)

inductive EnterOutcome where
  | entered
  /-- Entered, but START was cancelled before it had the handle. -/
  | lost
  | failed
  deriving DecidableEq, Repr

inductive JobEvent where
  | tick (elapsed : Nat)
  | createSlot (trialName : String)
  | start (trialName trialId : String)
  | dropStart (number : Nat)
  | register (number : Nat) (built : Bool)
  | enter (number : Nat) (outcome : EnterOutcome)
  | turn (number : Nat) (state : AttemptState)
  | request (number : Nat)
  | endExpiry (binding : Nat)
  | endTrial (number : Nat)
  | closeAttempt (number : Nat)
  | endClose (number : Nat) (raises : Bool)
  | settle (number : Nat)
  deriving DecidableEq, Repr

namespace RouteJob

def initial (limits : GatewayLimits) : RouteJob :=
  { limits := limits
    now := 0
    nextToken := 0
    slots := OrderedDict.empty
    attempts := []
    bindings := []
    routes := OrderedDict.empty
    tombstones := OrderedDict.empty
    recorded := []
    closes := [] }

def modifyAttempt (job : RouteJob) (number : Nat) (change : AttemptRecord → AttemptRecord) :
    RouteJob :=
  { job with attempts := job.attempts.modify number change }

def modifyBinding (job : RouteJob) (number : Nat) (change : RouteBinding → RouteBinding) :
    RouteJob :=
  { job with bindings := job.bindings.modify number change }

def createSlot (job : RouteJob) (trialName : String) : RouteJob :=
  match job.slots.get? trialName with
  | some _ => job
  | none =>
    { job with
      nextToken := job.nextToken + 1
      slots := job.slots.set trialName
        { token := job.nextToken
          previousTokenFingerprint := none
          rotated := true } }

def rotateSlotAfterEnd (job : RouteJob) (record : AttemptRecord) : RouteJob :=
  match job.slots.get? record.trialName with
  | none => job
  | some _ =>
    { job with
      nextToken := job.nextToken + 1
      slots := job.slots.set record.trialName
        { token := job.nextToken
          previousTokenFingerprint := some record.tokenFingerprint
          rotated := true } }

def isEnded (record : AttemptRecord) : Bool := record.finalizer ≠ .notStarted

/-- `_on_start` up to the call of `register`. A retry's START follows the END before it. -/
def start (job : RouteJob) (trialName trialId : String) : RouteJob :=
  match job.slots.get? trialName with
  | none => job
  | some slot =>
    if job.attempts.any (fun record => record.trialName = trialName ∧
      (record.trialId = trialId ∨ isEnded record = false)) then job
    else
      { job with
        attempts := job.attempts ++
          [{ trialName := trialName
             trialId := trialId
             tokenFingerprint := slot.token
             start :=
               if slot.previousTokenFingerprint = some slot.token then .over else .submitted
             registered := false
             handle := none
             finalizer := .notStarted
             clean := slot.rotated }]
        slots := job.slots.set trialName { slot with rotated := false } }

def cleanupTombstones (job : RouteJob) : RouteJob :=
  { job with
    tombstones := job.tombstones.popAll
      ((job.tombstones.entries.filter (fun (_, expiresAt) => expiresAt ≤ job.now)).map Prod.fst) }

def trimTombstones (job : RouteJob) : RouteJob :=
  let cleaned := job.cleanupTombstones
  { cleaned with
    tombstones := cleaned.tombstones.popAll
      (cleaned.tombstones.keys.take (cleaned.tombstones.keys.length - job.limits.maxTombstones)) }

def refuses (job : RouteJob) (token : Nat) : Bool :=
  decide (job.limits.maxActiveRoutes ≤ job.routes.keys.length) ||
    (job.routes.get? token).isSome || (job.cleanupTombstones.tombstones.get? token).isSome

def register (job : RouteJob) (number : Nat) (record : AttemptRecord) (built : Bool) : RouteJob :=
  let cleaned := job.cleanupTombstones
  if job.refuses record.tokenFingerprint || !built then
    cleaned.modifyAttempt number (fun record => { record with start := .over })
  else
    { cleaned.modifyAttempt number
        (fun record => { record with start := .entering job.bindings.length }) with
      bindings := job.bindings ++
        [{ attempt := number
           token := record.tokenFingerprint
           state := .starting
           createdAt := job.now
           expiring := 0 }]
      routes := job.routes.set record.tokenFingerprint job.bindings.length }

def enter (job : RouteJob) (number binding : Nat) (token : Nat) : EnterOutcome → RouteJob
  | .entered =>
    (job.modifyBinding binding (fun route => { route with state := .ready })).modifyAttempt
      number
      (fun record =>
        { record with
          start := .over
          registered := true
          handle := some binding })
  | .lost =>
    (job.modifyBinding binding (fun route => { route with state := .ready })).modifyAttempt
      number
      (fun record =>
        { record with
          start := .over
          registered := true })
  | .failed =>
    { (job.modifyBinding binding (fun route => { route with state := .broken })).modifyAttempt
        number (fun record => { record with start := .over }) with
      routes := job.routes.pop token }

def closeBinding (job : RouteJob) (binding : Nat) (route : RouteBinding) : RouteJob :=
  { job.modifyBinding binding (fun route => { route with state := .closed }) with
    routes := job.routes.pop route.token }

def entomb (job : RouteJob) (token : Nat) : RouteJob :=
  { job with
    tombstones := (job.tombstones.pop token).set token (job.now + job.limits.tombstoneTtl)
    closes := (token, job.now) :: job.closes }
    |>.trimTombstones

def request (job : RouteJob) (number : Nat) (record : AttemptRecord) : RouteJob :=
  let cleaned := job.cleanupTombstones
  match cleaned.routes.get? record.tokenFingerprint with
  | none => cleaned
  | some binding =>
    match cleaned.bindings[binding]? with
    | none => cleaned
    | some route =>
      if route.createdAt + cleaned.limits.routeTtl ≤ cleaned.now then
        if route.state = .closed then cleaned
        else
          (cleaned.closeBinding binding route).modifyBinding binding
            (fun route => { route with expiring := route.expiring + 1 })
      else if route.state = .active then
        { cleaned with recorded := cleaned.recorded ++ [(number, route.attempt)] }
      else cleaned

def endExpiry (job : RouteJob) (binding : Nat) (route : RouteBinding) : RouteJob :=
  if route.expiring = 0 then job
  else
    (job.modifyBinding binding
      (fun route => { route with expiring := route.expiring - 1 })).entomb route.token

def toFinalizer (job : RouteJob) (number : Nat) (finalizer : FinalizerPhase) : RouteJob :=
  job.modifyAttempt number (fun record => { record with finalizer := finalizer })

def closeAttempt (job : RouteJob) (number : Nat) (record : AttemptRecord) : RouteJob :=
  match record.handle with
  | none => (job.toFinalizer number (.over true)).rotateSlotAfterEnd record
  | some binding =>
    match job.bindings[binding]? with
    | none => job
    | some route =>
      if route.state = .closed then job.toFinalizer number (.closeEnded false)
      else (job.closeBinding binding route).toFinalizer number (.closing binding)

def endClose (job : RouteJob) (number binding : Nat) (raises : Bool) : RouteJob :=
  match job.bindings[binding]? with
  | none => job
  | some route => (job.toFinalizer number (.closeEnded raises)).entomb route.token

/-- The end of the finalizer: only a route that closed lets the slot rotate. -/
def settle (job : RouteJob) (number : Nat) (record : AttemptRecord) (raised : Bool) : RouteJob :=
  if raised then job.toFinalizer number (.over false)
  else (job.toFinalizer number (.over true)).rotateSlotAfterEnd record

def step (job : RouteJob) : JobEvent → RouteJob
  | .tick elapsed => { job with now := job.now + elapsed }
  | .createSlot trialName => job.createSlot trialName
  | .start trialName trialId => job.start trialName trialId
  | .dropStart number =>
    match job.attempts[number]? with
    | some record =>
      if record.start = .submitted then
        job.modifyAttempt number (fun record => { record with start := .over })
      else job
    | none => job
  | .register number built =>
    match job.attempts[number]? with
    | some record =>
      if record.start = .submitted then job.register number record built else job
    | none => job
  | .enter number outcome =>
    match job.attempts[number]? with
    | some record =>
      match record.start with
      | .entering binding => job.enter number binding record.tokenFingerprint outcome
      | _ => job
    | none => job
  | .turn number state =>
    match job.attempts[number]? with
    | some record =>
      match record.handle with
      | some binding => job.modifyBinding binding (fun route => { route with state := state })
      | none => job
    | none => job
  | .request number =>
    match job.attempts[number]? with
    | some record => job.request number record
    | none => job
  | .endExpiry binding =>
    match job.bindings[binding]? with
    | some route => job.endExpiry binding route
    | none => job
  | .endTrial number =>
    match job.attempts[number]? with
    | some record =>
      if record.finalizer = .notStarted then job.toFinalizer number .running else job
    | none => job
  | .closeAttempt number =>
    match job.attempts[number]? with
    | some record =>
      if record.finalizer = .running then job.closeAttempt number record else job
    | none => job
  | .endClose number raises =>
    match job.attempts[number]? with
    | some record =>
      match record.finalizer with
      | .closing binding => job.endClose number binding raises
      | _ => job
    | none => job
  | .settle number =>
    match job.attempts[number]? with
    | some record =>
      match record.finalizer with
      | .closeEnded raised => job.settle number record raised
      | _ => job
    | none => job

end RouteJob

end Dressage.Harbor

/-
Leases in the hands of the chat pipelines.

A pipeline acquires one lease, generates, and settles the lease in a task of
its own that a cancellation of the pipeline does not reach. Any number of
pipelines runs beside the refreshes and the load polls; a step is what one task
runs between two suspension points, so steps come in any order.

The journal is bookkeeping of the model: it numbers the steps and keeps when a
lease was acquired, which pipelines settled, and when the poll behind each
published load started. Everything a pipeline does before its lease or after
its settlement is one stage here, which may end in any way.
-/

import Dressage.Rebalancing.AcquireTotal

namespace Dressage.Rebalancing

open Lib

structure Settlement where
  committedTokens : List Nat
  success : Bool

def Settlement.complete (committedTokens : List Nat) : Settlement :=
  { committedTokens := committedTokens
    success := true }

def Settlement.fail : Settlement :=
  { committedTokens := []
    success := false }

/-- Where a pipeline is suspended. A settling pipeline awaits its shielded task,
which has captured a result once its locked section has run. -/
inductive LeasePc where
  | preparing
  | generating (lease : RoutingLease)
  | settling (lease : RoutingLease) (settlement : Settlement)
    (task : Option (Except SchedulingError Unit)) (cancelled : Bool)
  | answering
  | ended

def LeasePc.settle (lease : RoutingLease) (settlement : Settlement) : LeasePc :=
  .settling lease settlement none false

/-- A cancellation at the await the pipeline is suspended in. The waiting loop
of the settlement keeps the error and goes on waiting. -/
def LeasePc.cancel : LeasePc → LeasePc
  | .preparing => .ended
  | .generating lease => .settle lease .fail
  | .settling lease settlement task _ => .settling lease settlement task true
  | .answering => .ended
  | .ended => .ended

/-- The rest of `_settle_routing_lease` once its task is done. An error of the
task is logged; the kept cancellation and the failed generation are raised. -/
def LeasePc.resume : LeasePc → LeasePc
  | .settling _ settlement (some _) cancelled =>
    if cancelled then .ended else if settlement.success then .answering else .ended
  | pc => pc

def LeasePc.leave : LeasePc → LeasePc
  | .preparing => .ended
  | .answering => .ended
  | pc => pc

structure AcquiredLease where
  pipeline : Nat
  lease : RoutingLease
  acquiredAt : Nat

structure PublishedLoad where
  url : String
  startedAt : Nat
  load : EngineLoad

structure Journal where
  clock : Nat
  acquired : List AcquiredLease
  settled : List Nat
  pollsStarted : OrderedDict String Nat
  published : List PublishedLoad

namespace Journal

def initial : Journal :=
  { clock := 0
    acquired := []
    settled := []
    pollsStarted := OrderedDict.empty
    published := [] }

def tick (journal : Journal) : Journal := { journal with clock := journal.clock + 1 }

def acquire (journal : Journal) (pipeline : Nat) (lease : RoutingLease) : Journal :=
  { journal with
    acquired := journal.acquired ++
      [{ pipeline := pipeline
         lease := lease
         acquiredAt := journal.clock }] }

def settle (journal : Journal) (pipeline : Nat) : Journal :=
  { journal with settled := journal.settled ++ [pipeline] }

def startPoll (journal : Journal) (before next : EngineRebalancer) (url : String) : Journal :=
  if before.snapshotFetches.get? url = none ∧ next.snapshotFetches.get? url ≠ none then
    { journal with pollsStarted := journal.pollsStarted.set url journal.clock }
  else journal

def finishPoll (journal : Journal) (before next : EngineRebalancer) (url : String) : Journal :=
  match journal.pollsStarted.get? url, next.loads.get? url with
  | some startedAt, some load =>
    if next.loadGenerations.get? url ≠ before.loadGenerations.get? url then
      { journal with
        published :=
          { url := url
            startedAt := startedAt
            load := load } :: journal.published }
    else journal
  | _, _ => journal

def observe (journal : Journal) (before next : EngineRebalancer) :
    EngineRebalancer.Action → Journal
  | .startPoll url => journal.startPoll before next url
  | .finishPoll url _ _ => journal.finishPoll before next url
  | _ => journal

def outstanding (journal : Journal) : List AcquiredLease :=
  journal.acquired.filter (fun acquired => acquired.pipeline ∉ journal.settled)

def observedSince (journal : Journal) (url : String) (moment : Nat) : Bool :=
  journal.published.any (fun publication =>
    decide (publication.url = url ∧ moment < publication.startedAt))

def lastPublished (journal : Journal) (url : String) : Option PublishedLoad :=
  journal.published.find? (fun publication => publication.url = url)

def reservedAt (journal : Journal) (reservationId : Nat) : Option Nat :=
  (journal.acquired.find? (fun acquired =>
    acquired.lease.reservationId = some reservationId)).map AcquiredLease.acquiredAt

def unobserved (journal : Journal) (reservation : Nat × ReservationEntry) : Bool :=
  match journal.reservedAt reservation.1 with
  | none => false
  | some moment => !journal.observedSince reservation.2.engineUrl moment

end Journal

structure LeaseServer where
  rebalancer : EngineRebalancer
  pipelines : OrderedDict Nat LeasePc
  nextPipelineId : Nat
  journal : Journal

inductive LeaseAction where
  | arrive
  | leave (pipeline : Nat)
  | cancel (pipeline : Nat)
  | acquire (pipeline : Nat) (now : ℚ) (sessionId : String) (inputIds : List Nat)
    (expectedVersion : Option String) (requireRegisteredContext : Bool)
  | generated (pipeline : Nat) (allTokenIds : List Nat)
  | generationRaises (pipeline : Nat)
  | settle (pipeline : Nat)
  | resume (pipeline : Nat)
  | background (action : EngineRebalancer.Action)

namespace LeaseServer

def initial : LeaseServer :=
  { rebalancer := EngineRebalancer.initial
    pipelines := OrderedDict.empty
    nextPipelineId := 0
    journal := Journal.initial }

variable (setup : Setup) (server : LeaseServer)

def setPc (pipeline : Nat) (pc : LeasePc) : LeaseServer :=
  { server with pipelines := server.pipelines.set pipeline pc }

def movePc (pipeline : Nat) (move : LeasePc → LeasePc) : LeaseServer :=
  match server.pipelines.get? pipeline with
  | none => server
  | some pc => server.setPc pipeline (move pc)

def acquire (pipeline : Nat) (now : ℚ) (sessionId : String) (inputIds : List Nat)
    (expectedVersion : Option String) (requireRegisteredContext : Bool) : LeaseServer :=
  match server.pipelines.get? pipeline with
  | some .preparing =>
    let outcome := server.rebalancer.acquire setup now sessionId inputIds expectedVersion
      requireRegisteredContext
    match outcome.1 with
    | .ok lease =>
      { server.setPc pipeline (.generating lease) with
        rebalancer := outcome.2
        journal := server.journal.acquire pipeline lease }
    | .error _ => { server.setPc pipeline .ended with rebalancer := outcome.2 }
  | _ => server

def finishGeneration (pipeline : Nat) (settlement : Settlement) : LeaseServer :=
  match server.pipelines.get? pipeline with
  | some (.generating lease) => server.setPc pipeline (.settle lease settlement)
  | _ => server

def settle (pipeline : Nat) : LeaseServer :=
  match server.pipelines.get? pipeline with
  | some (.settling lease settlement none cancelled) =>
    let outcome := server.rebalancer.complete setup lease settlement.committedTokens
      settlement.success
    { server.setPc pipeline (.settling lease settlement (some outcome.1) cancelled) with
      rebalancer := outcome.2
      journal := server.journal.settle pipeline }
  | _ => server

def background (action : EngineRebalancer.Action) : LeaseServer :=
  match action with
  | .acquire _ _ _ _ _ => server
  | .complete _ _ _ => server
  | action =>
    let next := server.rebalancer.step setup action
    { server with
      rebalancer := next
      journal := server.journal.observe server.rebalancer next action }

def perform (action : LeaseAction) : LeaseServer :=
  match action with
  | .arrive =>
    { server.setPc server.nextPipelineId .preparing with
      nextPipelineId := server.nextPipelineId + 1 }
  | .leave pipeline => server.movePc pipeline LeasePc.leave
  | .cancel pipeline => server.movePc pipeline LeasePc.cancel
  | .acquire pipeline now sessionId inputIds expectedVersion requireRegisteredContext =>
    server.acquire setup pipeline now sessionId inputIds expectedVersion requireRegisteredContext
  | .generated pipeline allTokenIds =>
    server.finishGeneration pipeline (.complete allTokenIds)
  | .generationRaises pipeline => server.finishGeneration pipeline .fail
  | .settle pipeline => server.settle setup pipeline
  | .resume pipeline => server.movePc pipeline LeasePc.resume
  | .background action => server.background setup action

def step (action : LeaseAction) : LeaseServer :=
  let next := server.perform setup action
  { next with journal := next.journal.tick }

def after (actions : List LeaseAction) : LeaseServer :=
  Runs.run (fun server action => LeaseServer.step setup server action) LeaseServer.initial actions

end LeaseServer

end Dressage.Rebalancing

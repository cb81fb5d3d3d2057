/-
The cluster manager and its supervisors.

A call of a supervisor may fail on the manager's side before or after it took effect. Acquires
and reconciliations hold the manager's lock over their calls; releases only mark the lease under
the lock and leave the call to a background task. One transition is one section that nothing
else of the manager can interrupt, together with the call it ends with.
-/

import Dressage.Lib.OrderedDict
import Dressage.Sandbox.Supervisor

namespace Dressage.Sandbox

open Lib

inductive LeaseStatus where
  | active
  | releasing
  | lost
deriving DecidableEq

/-- `recordId` is the object's identity, which `is` compares. -/
structure LeaseRecord where
  recordId : Nat
  leaseId : LeaseId
  trajectoryId : String
  nodeId : String
  slotId : Nat
  status : LeaseStatus
deriving DecidableEq

inductive CallOutcome where
  | returned
  | failedBeforeEffect
  | failedAfterEffect
deriving DecidableEq

def CallOutcome.tookEffect : CallOutcome → Bool
  | .failedBeforeEffect => false
  | .returned | .failedAfterEffect => true

inductive Operation where
  | acquire (trajectoryId : String)
  | reconcile
deriving DecidableEq

inductive ReleasePhase where
  | calling
  | failed
  | polling
  | complete
deriving DecidableEq

structure BackgroundRelease where
  lease : LeaseRecord
  phase : ReleasePhase
deriving DecidableEq

structure Cluster where
  nodes : OrderedDict String Supervisor
  leases : OrderedDict String LeaseRecord
  leasesById : OrderedDict LeaseId String
  lockHolder : Option Operation
  expiring : List Nat
  releases : List BackgroundRelease
  nextRecordId : Nat

namespace Cluster

def initial (nodes : List (String × Nat)) : Cluster :=
  { nodes := nodes.foldl (fun dict node => dict.set node.1 (Supervisor.initial node.1 node.2))
      OrderedDict.empty
    leases := OrderedDict.empty
    leasesById := OrderedDict.empty
    lockHolder := none
    expiring := []
    releases := []
    nextRecordId := 0 }

variable (state : Cluster)

def lookupLease (trajectoryId : Option String) (leaseId : Option LeaseId) : Option LeaseRecord :=
  match trajectoryId.bind state.leases.get? with
  | some lease => some lease
  | none => (leaseId.bind state.leasesById.get?).bind state.leases.get?

def dropLease (lease : LeaseRecord) : Cluster :=
  { state with
    leases := state.leases.pop lease.trajectoryId
    leasesById := state.leasesById.pop lease.leaseId }

def setStatus (lease : LeaseRecord) (status : LeaseStatus) : Cluster :=
  { state with
    leases := state.leases.mapValues (fun _ current =>
      if current.recordId = lease.recordId then { current with status := status }
      else current) }

def isCurrent (lease : LeaseRecord) : Bool :=
  match state.leases.get? lease.trajectoryId with
  | none => false
  | some current => decide (current.recordId = lease.recordId)

def call (nodeId : String) (outcome : CallOutcome) (effect : Supervisor → Supervisor) : Cluster :=
  match state.nodes.get? nodeId with
  | none => state
  | some supervisor =>
    if outcome.tookEffect then
      { state with nodes := state.nodes.set nodeId (effect supervisor) }
    else state

def markNodeLost (nodeId : String) : Cluster :=
  { state with
    leases := state.leases.mapValues (fun _ lease =>
      if lease.nodeId = nodeId then { lease with status := .lost } else lease) }

def lock (operation : Operation) : Cluster :=
  match state.lockHolder with
  | some _ => state
  | none => { state with lockHolder := some operation }

def unlock : Cluster :=
  { state with
    lockHolder := none
    expiring := [] }

def listExpired (pastDeadline : List String) : Cluster :=
  match state.lockHolder with
  | none => state
  | some _ =>
    { state with
      expiring := (state.leases.values.filter (fun lease =>
        lease.status = .active ∧ lease.trajectoryId ∈ pastDeadline)).map LeaseRecord.recordId }

def expire (trajectoryId : String) (outcome : CallOutcome) : Cluster :=
  match state.lockHolder, state.leases.get? trajectoryId with
  | some _, some lease =>
    if lease.recordId ∈ state.expiring then
      (state.dropLease lease).call lease.nodeId outcome (fun supervisor =>
        supervisor.forceRelease lease.slotId (some lease.leaseId))
    else state
  | _, _ => state

def dropStale : Cluster :=
  match state.lockHolder with
  | some (.acquire trajectoryId) =>
    match state.leases.get? trajectoryId with
    | some lease => if lease.status = .lost then state.dropLease lease else state
    | none => state
  | _ => state

def recordLease (nodeId trajectoryId : String) (slotId : Nat) (leaseId : LeaseId) : Cluster :=
  { state with
    leases := state.leases.set trajectoryId
      { recordId := state.nextRecordId
        leaseId := leaseId
        trajectoryId := trajectoryId
        nodeId := nodeId
        slotId := slotId
        status := .active }
    leasesById := state.leasesById.set leaseId trajectoryId
    nextRecordId := state.nextRecordId + 1 }

/-- The supervisor call of an acquire that found no lease to reuse, on the node
that was selected; the attempt ends with it. -/
def remoteAcquire (nodeId : String) (outcome : CallOutcome) : Cluster :=
  match state.lockHolder, state.nodes.get? nodeId with
  | some (.acquire trajectoryId), some supervisor =>
    match state.leases.get? trajectoryId with
    | some _ => state
    | none =>
      let attempt := supervisor.acquire trajectoryId
      let called := (state.call nodeId outcome (fun _ => attempt.2)).unlock
      match outcome, attempt.1 with
      | .returned, some (slotId, leaseId) =>
        called.recordLease nodeId trajectoryId slotId leaseId
      | _, _ => called
  | _, _ => state

def release (trajectoryId : Option String) (leaseId : Option LeaseId) : Cluster :=
  match state.lockHolder, state.lookupLease trajectoryId leaseId with
  | none, some lease =>
    if lease.status = .releasing then state
    else
      match state.nodes.get? lease.nodeId with
      | none => state.dropLease lease
      | some _ =>
        let marked := state.setStatus lease .releasing
        { marked with
          releases := marked.releases ++
            [{ lease := { lease with status := .releasing }
               phase := .calling }] }
  | _, _ => state

def setPhase (position : Nat) (phase : ReleasePhase) : Cluster :=
  { state with
    releases := state.releases.modify position (fun task => { task with phase := phase }) }

def endRelease (position : Nat) : Cluster :=
  { state with releases := state.releases.eraseIdx position }

def releaseCall (position : Nat) (outcome : CallOutcome) : Cluster :=
  match state.releases[position]? with
  | some { lease, phase := .calling } =>
    (state.call lease.nodeId outcome (fun supervisor =>
      supervisor.release (some lease.leaseId) (some lease.trajectoryId))).setPhase position
        (if outcome = .returned then .polling else .failed)
  | _ => state

def releaseComplete (lease : LeaseRecord) : Bool :=
  match (state.nodes.get? lease.nodeId).bind (fun supervisor => supervisor.slots[lease.slotId]?) with
  | none => false
  | some slot =>
    decide (slot.status = .ready ∧ slot.leaseId = none ∧ slot.trajectoryId = none)

def pollRelease (position : Nat) : Cluster :=
  match state.releases[position]? with
  | some { lease, phase := .polling } =>
    if state.releaseComplete lease then state.setPhase position .complete else state
  | _ => state

/-- The last section of a background release: the lease is dropped when the
slot was seen free again, and marked lost when the call failed. -/
def settleRelease (position : Nat) : Cluster :=
  match state.lockHolder, state.releases[position]? with
  | none, some { lease, phase := .complete } =>
    (if state.isCurrent lease then state.dropLease lease else state).endRelease position
  | none, some { lease, phase := .failed } =>
    (if state.isCurrent lease then state.setStatus lease .lost else state).endRelease position
  | _, _ => state

def timeOutRelease (position : Nat) : Cluster :=
  match state.lockHolder, state.releases[position]? with
  | none, some { lease, phase := .polling } =>
    (if state.isCurrent lease then state.setStatus lease .lost else state).endRelease position
  | _, _ => state

def isInternal : Supervisor.Action → Bool
  | .acquire _ | .release _ _ | .forceRelease _ _ => false
  | _ => true

inductive Action where
  | lock (operation : Operation)
  | unlock
  | listExpired (pastDeadline : List String)
  | expire (trajectoryId : String) (outcome : CallOutcome)
  | dropStale
  | remoteAcquire (nodeId : String) (outcome : CallOutcome)
  | markNodeLost (nodeId : String)
  | release (trajectoryId : Option String) (leaseId : Option LeaseId)
  | releaseCall (position : Nat) (outcome : CallOutcome)
  | pollRelease (position : Nat)
  | settleRelease (position : Nat)
  | timeOutRelease (position : Nat)
  | supervisor (nodeId : String) (action : Supervisor.Action)

def stepSupervisor (nodeId : String) (action : Supervisor.Action) : Cluster :=
  match state.nodes.get? nodeId with
  | none => state
  | some supervisor =>
    if isInternal action then
      { state with nodes := state.nodes.set nodeId (supervisor.step action) }
    else state

def step (action : Action) : Cluster :=
  match action with
  | .lock operation => state.lock operation
  | .unlock => state.unlock
  | .listExpired pastDeadline => state.listExpired pastDeadline
  | .expire trajectoryId outcome => state.expire trajectoryId outcome
  | .dropStale => state.dropStale
  | .remoteAcquire nodeId outcome => state.remoteAcquire nodeId outcome
  | .markNodeLost nodeId => state.markNodeLost nodeId
  | .release trajectoryId leaseId => state.release trajectoryId leaseId
  | .releaseCall position outcome => state.releaseCall position outcome
  | .pollRelease position => state.pollRelease position
  | .settleRelease position => state.settleRelease position
  | .timeOutRelease position => state.timeOutRelease position
  | .supervisor nodeId action => state.stepSupervisor nodeId action

end Cluster

end Dressage.Sandbox

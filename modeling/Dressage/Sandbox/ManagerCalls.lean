/-
The manager's calls for a sandbox.

The manager looks a lease up, by the trajectory first, and a command or a file access goes on to
the lease's supervisor, which looks for the slot by the id of the lease that was found. A
release of a closed manager only drops the lease. Which lease each call with both ids was for,
and which slots were acted on for a lease, is written down beside the state that the code keeps.
-/

import Dressage.Sandbox.ClusterManager

namespace Dressage.Sandbox

open Lib

inductive CallKind
  | runCommand
  | readFile
  | writeFile
deriving DecidableEq

/-- A call with both ids, and the lease that it affected or was served with. -/
structure LeaseUse where
  asked : LeaseId
  lease : LeaseId
deriving DecidableEq

structure SlotUse where
  lease : LeaseId
  slotLease : Option LeaseId
deriving DecidableEq

inductive CallPhase
  | sent
  | waiting (slotId : Nat)
deriving DecidableEq

structure RemoteCall where
  kind : CallKind
  lease : LeaseRecord
  phase : CallPhase
deriving DecidableEq

structure Manager where
  cluster : Cluster
  closed : Bool
  closedNodes : List String
  lostNodes : List String
  calls : List RemoteCall
  uses : List LeaseUse
  slotUses : List SlotUse

namespace Manager

def initial (nodes : List (String × Nat)) : Manager :=
  { cluster := Cluster.initial nodes
    closed := false
    closedNodes := []
    lostNodes := []
    calls := []
    uses := []
    slotUses := [] }

variable (state : Manager)

def withCluster (cluster : Cluster) : Manager := { state with cluster := cluster }

def logUse (trajectoryId : Option String) (leaseId : Option LeaseId) (lease : LeaseRecord) :
    Manager :=
  match trajectoryId, leaseId with
  | some _, some asked =>
    { state with
      uses := state.uses ++
        [{ asked := asked
           lease := lease.leaseId }] }
  | _, _ => state

def logSlot (lease : LeaseRecord) (slot : SlotRuntime) : Manager :=
  { state with
    slotUses := state.slotUses ++
      [{ lease := lease.leaseId
         slotLease := slot.leaseId }] }

def release (trajectoryId : Option String) (leaseId : Option LeaseId) : Manager :=
  match state.cluster.lockHolder, state.cluster.lookupLease trajectoryId leaseId with
  | none, some lease =>
    if state.closed then
      (state.withCluster (state.cluster.dropLease lease)).logUse trajectoryId leaseId lease
    else if lease.status = .releasing then state
    else
      (state.withCluster (state.cluster.release trajectoryId leaseId)).logUse trajectoryId
        leaseId lease
  | _, _ => state

def slotOf (lease : LeaseRecord) : Option (Nat × SlotRuntime) :=
  (state.cluster.nodes.get? lease.nodeId).bind (fun supervisor =>
    (supervisor.slotForLease (some lease.leaseId) (some lease.trajectoryId)).bind (fun slotId =>
      (supervisor.slots[slotId]?).map (fun slot => (slotId, slot))))

def releaseCall (position : Nat) (outcome : CallOutcome) : Manager :=
  let called := state.withCluster (state.cluster.releaseCall position outcome)
  match state.cluster.releases[position]? with
  | some { lease, phase := .calling } =>
    match state.slotOf lease with
    | some (_, slot) => if outcome.tookEffect then called.logSlot lease slot else called
    | none => called
  | _ => called

def sendCall (kind : CallKind) (lease : LeaseRecord) : Manager :=
  { state with
    calls := state.calls ++
      [{ kind := kind
         lease := lease
         phase := .sent }] }

def beginCall (kind : CallKind) (trajectoryId : Option String) (leaseId : Option LeaseId) :
    Manager :=
  match state.cluster.lockHolder, state.cluster.lookupLease trajectoryId leaseId with
  | none, some lease =>
    if lease.status = .active ∧ lease.nodeId ∈ state.cluster.nodes.keys ∧
        lease.nodeId ∉ state.lostNodes then
      (state.sendCall kind lease).logUse trajectoryId leaseId lease
    else state
  | _, _ => state

def isActive (slot : SlotRuntime) : Bool := decide (slot.status = .leased ∨ slot.status = .lost)

def endCall (position : Nat) : Manager :=
  { state with calls := state.calls.eraseIdx position }

/-- The supervisor's part: `_active_slot_for_lease`, then the file access, or for a
command the wait for the slot's lock. -/
def reachSupervisor (position : Nat) : Manager :=
  match state.calls[position]? with
  | some { kind, lease, phase := .sent } =>
    match state.slotOf lease with
    | none => state.endCall position
    | some (slotId, slot) =>
      if isActive slot then
        match kind with
        | .runCommand =>
          { state with
            calls := state.calls.modify position (fun call =>
              { call with phase := .waiting slotId }) }
        | .readFile | .writeFile => (state.logSlot lease slot).endCall position
      else state.endCall position
  | _ => state

def stillActive (lease : LeaseRecord) (slot : SlotRuntime) : Bool :=
  isActive slot && decide (slot.leaseId = some lease.leaseId ∧
    slot.trajectoryId = some lease.trajectoryId)

def runCommand (position : Nat) : Manager :=
  match state.calls[position]? with
  | some { lease, phase := .waiting slotId, .. } =>
    match (state.cluster.nodes.get? lease.nodeId).bind (fun node => node.slots[slotId]?) with
    | none => state.endCall position
    | some slot =>
      if slot.runningReset.isSome then state
      else if stillActive lease slot then (state.logSlot lease slot).endCall position
      else state.endCall position
  | _ => state

def close : Manager :=
  { state with
    closed := true
    cluster :=
      { state.cluster with
        releases := state.cluster.releases.filter (fun task => task.phase = .calling) } }

def emptySlot (slot : SlotRuntime) : SlotRuntime :=
  { slot with
    status := .empty
    leaseId := none
    trajectoryId := none }

def shutDownNode (nodeId : String) : Manager :=
  match state.closed, state.cluster.nodes.get? nodeId with
  | true, some supervisor =>
    { state with
      cluster :=
        { state.cluster with
          nodes := state.cluster.nodes.set nodeId
            { supervisor with slots := supervisor.slots.map emptySlot } }
      closedNodes := nodeId :: state.closedNodes
      lostNodes := nodeId :: state.lostNodes }
  | _, _ => state

def dropAtShutdown (trajectoryId : String) : Manager :=
  match state.closed, state.cluster.leases.get? trajectoryId with
  | true, some lease => state.withCluster (state.cluster.dropLease lease)
  | _, _ => state

inductive Action
  | cluster (action : Cluster.Action)
  | beginCall (kind : CallKind) (trajectoryId : Option String) (leaseId : Option LeaseId)
  | reachSupervisor (position : Nat)
  | runCommand (position : Nat)
  | setAlive (nodeId : String) (alive : Bool)
  | close
  | shutDownNode (nodeId : String)
  | dropAtShutdown (trajectoryId : String)

def setAlive (nodeId : String) (alive : Bool) : Manager :=
  { state with
    lostNodes :=
      if alive then state.lostNodes.filter (fun other => other ≠ nodeId)
      else nodeId :: state.lostNodes }

/-- A closed manager begins nothing, and a supervisor that was shut down leases nothing. -/
def stepCluster (action : Cluster.Action) : Manager :=
  let stepped := state.withCluster (state.cluster.step action)
  match action with
  | .release trajectoryId leaseId => state.release trajectoryId leaseId
  | .releaseCall position outcome => state.releaseCall position outcome
  | .lock _ | .listExpired _ | .pollRelease _ | .settleRelease _ | .timeOutRelease _ =>
    if state.closed then state else stepped
  | .supervisor nodeId _ => if nodeId ∈ state.closedNodes then state else stepped
  | .remoteAcquire nodeId _ =>
    if nodeId ∈ state.closedNodes then
      state.withCluster (state.cluster.step (.remoteAcquire nodeId .failedBeforeEffect))
    else stepped
  | .unlock | .expire _ _ | .dropStale | .markNodeLost _ => stepped

def step (action : Action) : Manager :=
  match action with
  | .cluster action => state.stepCluster action
  | .beginCall kind trajectoryId leaseId => state.beginCall kind trajectoryId leaseId
  | .reachSupervisor position => state.reachSupervisor position
  | .runCommand position => state.runCommand position
  | .setAlive nodeId alive => state.setAlive nodeId alive
  | .close => state.close
  | .shutDownNode nodeId => state.shutDownNode nodeId
  | .dropAtShutdown trajectoryId => state.dropAtShutdown trajectoryId

end Manager

end Dressage.Sandbox

/-
The slots of one node.

A supervisor runs a fixed number of slots and leases them out. Every section between two
suspension points is one transition here, and a slot carries the tasks that are under way on it:
resets that wait for the slot's lock, the one that holds it, and the starts, which take no lock.

This is the pool of blackbox servers with hard resets, before shutdown. What callers hold and
what is done to a slot's process and directories is written down beside the state that the code
keeps.
-/

import Mathlib.Data.List.Basic
import Dressage.Lib.Runs

namespace Dressage.Sandbox

inductive SlotStatus where
  | empty
  | starting
  | ready
  | leased
  | releasing
  | resetting
  | restarting
  | failed
  | dead
  | lost
deriving DecidableEq

structure LeaseId where
  nodeId : String
  serial : Nat
deriving DecidableEq

inductive ResetPhase where
  | stopping
  | starting
deriving DecidableEq

structure RunningReset where
  expectedGeneration : Option Nat
  phase : ResetPhase
deriving DecidableEq

structure SlotRuntime where
  status : SlotStatus
  generation : Nat
  leaseId : Option LeaseId
  trajectoryId : Option String
  queuedResets : List (Option Nat)
  runningReset : Option RunningReset
  pendingStarts : Nat
  runningStarts : Nat
deriving DecidableEq

namespace SlotRuntime

def new : SlotRuntime :=
  { status := .empty
    generation := 0
    leaseId := none
    trajectoryId := none
    queuedResets := []
    runningReset := none
    pendingStarts := 0
    runningStarts := 0 }

def isAvailable (slot : SlotRuntime) : Bool :=
  decide (slot.status = .ready ∧ slot.leaseId = none)

def isFindable (slot : SlotRuntime) : Bool :=
  decide (slot.status = .leased ∨ slot.status = .lost ∨ slot.status = .releasing ∨
    slot.status = .resetting)

def isStartable (slot : SlotRuntime) : Bool :=
  decide ((slot.status = .empty ∨ slot.status = .failed ∨ slot.status = .dead) ∧
    slot.leaseId = none)

def isStale (slot : SlotRuntime) (expectedGeneration : Option Nat) : Bool :=
  match expectedGeneration with
  | none => false
  | some generation => decide (slot.generation ≠ generation)

def beginStart (slot : SlotRuntime) : SlotRuntime :=
  { slot with
    status := .starting
    generation := slot.generation + 1 }

def endStart (slot : SlotRuntime) (healthy : Bool) : SlotRuntime :=
  { slot with status := if healthy then .ready else .failed }

end SlotRuntime

structure Holding where
  slotId : Nat
  leaseId : LeaseId
  trajectoryId : String
deriving DecidableEq

inductive TouchKind where
  | stopProcess
  | clearDirectories
deriving DecidableEq

/-- One act on a slot's process or directories, with who held the slot then. -/
structure Touch where
  slotId : Nat
  kind : TouchKind
  holders : List Holding
deriving DecidableEq

structure Supervisor where
  nodeId : String
  slots : List SlotRuntime
  probed : Option Nat
  nextSerial : Nat
  holdings : List Holding
  touches : List Touch
deriving DecidableEq

namespace Supervisor

def initial (nodeId : String) (capacity : Nat) : Supervisor :=
  { nodeId := nodeId
    slots := List.replicate capacity SlotRuntime.new
    probed := none
    nextSerial := 0
    holdings := []
    touches := [] }

variable (state : Supervisor)

def updateSlot (slotId : Nat) (change : SlotRuntime → SlotRuntime) : Supervisor :=
  { state with slots := state.slots.modify slotId change }

def touch (slotId : Nat) (kind : TouchKind) : Supervisor :=
  { state with
    touches := state.touches ++
      [{ slotId := slotId
         kind := kind
         holders := state.holdings.filter (fun holding => holding.slotId = slotId) }] }

def slotForTrajectory (trajectoryId : String) : Option Nat :=
  state.slots.findIdx? (fun slot => decide (slot.trajectoryId = some trajectoryId ∧
    (slot.status = .leased ∨ slot.status = .lost)))

def firstAvailable : Option Nat := state.slots.findIdx? SlotRuntime.isAvailable

def slotForLease (leaseId : Option LeaseId) (trajectoryId : Option String) : Option Nat :=
  state.slots.findIdx? (fun slot => slot.isFindable &&
    match leaseId with
    | some id => decide (slot.leaseId = some id)
    | none => decide (trajectoryId ≠ none ∧ slot.trajectoryId = trajectoryId))

def hold (slotId : Nat) (leaseId : LeaseId) (trajectoryId : String) : Supervisor :=
  { state with
    holdings := state.holdings ++
      [{ slotId := slotId
         leaseId := leaseId
         trajectoryId := trajectoryId }] }

def newLeaseId : LeaseId :=
  { nodeId := state.nodeId
    serial := state.nextSerial }

def leaseSlot (slotId : Nat) (trajectoryId : String) : Supervisor :=
  { state with
    nextSerial := state.nextSerial + 1
    slots := state.slots.modify slotId (fun slot =>
      { slot with
        status := .leased
        leaseId := some state.newLeaseId
        trajectoryId := some trajectoryId }) }

def acquire (trajectoryId : String) : Option (Nat × LeaseId) × Supervisor :=
  match state.slotForTrajectory trajectoryId with
  | some slotId =>
    match state.slots[slotId]?.bind SlotRuntime.leaseId with
    | none => (none, state)
    | some leaseId => (some (slotId, leaseId), state.hold slotId leaseId trajectoryId)
  | none =>
    match state.firstAvailable with
    | none => (none, state)
    | some slotId =>
      (some (slotId, state.newLeaseId),
        (state.leaseSlot slotId trajectoryId).hold slotId state.newLeaseId trajectoryId)

def Holding.isReturnedBy (leaseId : Option LeaseId) (trajectoryId : Option String)
    (holding : Holding) : Bool :=
  match leaseId with
  | some id => decide (holding.leaseId = id)
  | none => decide (trajectoryId = some holding.trajectoryId)

def releaseSlot (slot : SlotRuntime) : SlotRuntime :=
  { slot with
    status := .releasing
    leaseId := none
    trajectoryId := none
    queuedResets := slot.queuedResets ++ [some slot.generation] }

def release (leaseId : Option LeaseId) (trajectoryId : Option String) : Supervisor :=
  let returned :=
    { state with
      holdings := state.holdings.filter (fun holding =>
        !Holding.isReturnedBy leaseId trajectoryId holding) }
  match state.slotForLease leaseId trajectoryId with
  | none => returned
  | some slotId => returned.updateSlot slotId releaseSlot

def forceRelease (slotId : Nat) (leaseId : Option LeaseId) : Supervisor :=
  match state.slots[slotId]? with
  | none => state
  | some slot => state.release (leaseId.or slot.leaseId) slot.trajectoryId

def restartSlot (slotId : Nat) : Supervisor :=
  { state with
    holdings := state.holdings.filter (fun holding => holding.slotId ≠ slotId) }.updateSlot slotId
      (fun slot =>
        { slot with
          status := .restarting
          leaseId := none
          trajectoryId := none
          queuedResets := slot.queuedResets ++ [none] })

def startPool : Supervisor :=
  { state with
    slots := state.slots.map (fun slot =>
      if slot.isStartable then { slot with pendingStarts := slot.pendingStarts + 1 } else slot) }

def beginPendingStart (slotId : Nat) : Supervisor :=
  match state.slots[slotId]? with
  | none => state
  | some slot =>
    if slot.pendingStarts = 0 then state
    else (state.touch slotId .clearDirectories).updateSlot slotId (fun current =>
      { current.beginStart with
        pendingStarts := current.pendingStarts - 1
        runningStarts := current.runningStarts + 1 })

def endRunningStart (slotId : Nat) (healthy : Bool) : Supervisor :=
  match state.slots[slotId]? with
  | none => state
  | some slot =>
    if slot.runningStarts = 0 then state
    else state.updateSlot slotId (fun current =>
      { current.endStart healthy with runningStarts := current.runningStarts - 1 })

def beginReset (slotId position : Nat) : Supervisor :=
  match state.slots[slotId]? with
  | none => state
  | some slot =>
    match slot.runningReset, slot.queuedResets[position]? with
    | none, some expected =>
      let dequeue (current : SlotRuntime) : SlotRuntime :=
        { current with queuedResets := current.queuedResets.eraseIdx position }
      if slot.isStale expected then state.updateSlot slotId dequeue
      else (state.touch slotId .stopProcess).updateSlot slotId (fun current =>
        { dequeue current with
          status := .restarting
          runningReset := some
            { expectedGeneration := expected
              phase := .stopping } })
    | _, _ => state

/-- The stop of a reset has ended. If it did not raise and the generation is
still the expected one, the directories are cleared and the slot is started. -/
def resetStopped (slotId : Nat) (stopped : Bool) : Supervisor :=
  match state.slots[slotId]? with
  | none => state
  | some slot =>
    match slot.runningReset with
    | some { expectedGeneration := expected, phase := .stopping } =>
      let ended := state.touch slotId .stopProcess
      if stopped = false ∨ slot.isStale expected = true then
        ended.updateSlot slotId (fun current => { current with runningReset := none })
      else (ended.touch slotId .clearDirectories).updateSlot slotId (fun current =>
        { current.beginStart with
          runningReset := some
            { expectedGeneration := expected
              phase := .starting } })
    | _ => state

def resetStarted (slotId : Nat) (healthy : Bool) : Supervisor :=
  match state.slots[slotId]? with
  | none => state
  | some slot =>
    match slot.runningReset with
    | some { expectedGeneration := _, phase := .starting } =>
      state.updateSlot slotId (fun current =>
        { current.endStart healthy with runningReset := none })
    | _ => state

/-- The health loop asks a live slot; there is one loop, so one open question. -/
def probe (slotId : Nat) : Supervisor :=
  match state.probed, state.slots[slotId]? with
  | none, some slot =>
    if slot.status = .ready ∨ slot.status = .leased then { state with probed := some slotId }
    else state
  | _, _ => state

def failHealth (slot : SlotRuntime) : SlotRuntime :=
  if slot.status = .leased then { slot with status := .lost }
  else
    { slot with
      status := .dead
      queuedResets := slot.queuedResets ++ [some slot.generation] }

def answer (healthy : Bool) : Supervisor :=
  match state.probed with
  | none => state
  | some slotId =>
    if healthy then { state with probed := none }
    else { state with probed := none }.updateSlot slotId failHealth

inductive Action where
  | acquire (trajectoryId : String)
  | release (leaseId : Option LeaseId) (trajectoryId : Option String)
  | forceRelease (slotId : Nat) (leaseId : Option LeaseId)
  | restartSlot (slotId : Nat)
  | startPool
  | beginPendingStart (slotId : Nat)
  | endRunningStart (slotId : Nat) (healthy : Bool)
  | beginReset (slotId position : Nat)
  | resetStopped (slotId : Nat) (stopped : Bool)
  | resetStarted (slotId : Nat) (healthy : Bool)
  | probe (slotId : Nat)
  | answer (healthy : Bool)
deriving DecidableEq

def step (action : Action) : Supervisor :=
  match action with
  | .acquire trajectoryId => (state.acquire trajectoryId).2
  | .release leaseId trajectoryId => state.release leaseId trajectoryId
  | .forceRelease slotId leaseId => state.forceRelease slotId leaseId
  | .restartSlot slotId => state.restartSlot slotId
  | .startPool => state.startPool
  | .beginPendingStart slotId => state.beginPendingStart slotId
  | .endRunningStart slotId healthy => state.endRunningStart slotId healthy
  | .beginReset slotId position => state.beginReset slotId position
  | .resetStopped slotId stopped => state.resetStopped slotId stopped
  | .resetStarted slotId healthy => state.resetStarted slotId healthy
  | .probe slotId => state.probe slotId
  | .answer healthy => state.answer healthy

end Supervisor

end Dressage.Sandbox

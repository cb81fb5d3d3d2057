/-
The server processes of a node's slots.

A start of `start_pool` runs without the slot's lock; resets and the shutdown of a
slot run with it. All of them write the one field that records the slot's process.
Every section between two suspension points is one transition here, for a pool of
blackbox servers with hard resets. Every process that `runner.start` returned and
every process that `runner.stop` was called for is written down beside the state
that the code keeps. The calls that lease slots out and take them back are those of
the other model of a supervisor.
-/

import Dressage.Sandbox.Supervisor

namespace Dressage.Sandbox.Servers

/-- The processes are numbered in the order in which `runner.start` returned them. -/
abbrev ProcessId := Nat

structure ServerProcess where
  slotId : Nat
  generation : Nat
deriving DecidableEq

inductive TaskKind
  | start
  | reset (expectedGeneration : Option Nat)
  | shutdown (call : Nat)
deriving DecidableEq

inductive TaskPhase
  | queued
  | stopping
  | emptying
  | launching (generation : Nat)
  | checking
  | closing
  | done
deriving DecidableEq

structure SlotTask where
  slotId : Nat
  kind : TaskKind
  phase : TaskPhase
deriving DecidableEq

/-- Resets and shutdowns hold the slot's lock from their first section to their last. -/
def SlotTask.holdsLock (task : SlotTask) : Bool :=
  decide (task.kind ≠ .start ∧ task.phase ≠ .queued ∧ task.phase ≠ .done)

structure SlotRuntime where
  status : SlotStatus
  generation : Nat
  process : Option ProcessId
  leaseId : Option LeaseId
  trajectoryId : Option String
deriving DecidableEq

namespace SlotRuntime

def new : SlotRuntime :=
  { status := .empty
    generation := 0
    process := none
    leaseId := none
    trajectoryId := none }

variable (slot : SlotRuntime)

def isAvailable : Bool := decide (slot.status = .ready ∧ slot.leaseId = none)

def isStartable : Bool :=
  decide ((slot.status = .empty ∨ slot.status = .failed ∨ slot.status = .dead) ∧
    slot.leaseId = none)

def isFindable : Bool :=
  decide (slot.status = .leased ∨ slot.status = .lost ∨ slot.status = .releasing ∨
    slot.status = .resetting)

def isStale : Option Nat → Bool
  | none => false
  | some generation => decide (slot.generation ≠ generation)

def dropLease (status : SlotStatus) : SlotRuntime :=
  { slot with
    status := status
    leaseId := none
    trajectoryId := none }

def beginStart : SlotRuntime :=
  { slot with
    status := .starting
    generation := slot.generation + 1
    process := none }

end SlotRuntime

structure Supervisor where
  nodeId : String
  closed : Bool
  slots : List SlotRuntime
  tasks : List SlotTask
  processes : List ServerProcess
  stopped : List ProcessId
  shutdowns : Nat
  probed : Option Nat
  nextSerial : Nat
deriving DecidableEq

namespace Supervisor

def initial (nodeId : String) (capacity : Nat) : Supervisor :=
  { nodeId := nodeId
    closed := false
    slots := List.replicate capacity SlotRuntime.new
    tasks := []
    processes := []
    stopped := []
    shutdowns := 0
    probed := none
    nextSerial := 0 }

variable (state : Supervisor)

def updateSlot (slotId : Nat) (change : SlotRuntime → SlotRuntime) : Supervisor :=
  { state with slots := state.slots.modify slotId change }

def setPhase (task : Nat) (phase : TaskPhase) : Supervisor :=
  { state with
    tasks := state.tasks.modify task (fun current => { current with phase := phase }) }

def schedule (slotId : Nat) (kind : TaskKind) : Supervisor :=
  { state with
    tasks := state.tasks ++
      [{ slotId := slotId
         kind := kind
         phase := .queued }] }

def scheduleReset (slotId : Nat) (expectedGeneration : Option Nat) : Supervisor :=
  if state.closed then state else state.schedule slotId (.reset expectedGeneration)

def processOf (slotId : Nat) : Option ProcessId :=
  (state.slots[slotId]?).bind SlotRuntime.process

/-- `runner.stop`; the call is for the process that the slot has at that moment. -/
def callStop (slotId : Nat) : Supervisor :=
  match state.processOf slotId with
  | none => state
  | some process => { state with stopped := state.stopped ++ [process] }

def lockFree (slotId : Nat) : Bool :=
  state.tasks.all (fun task => !(decide (task.slotId = slotId) && task.holdsLock))

def slotForTrajectory (trajectoryId : String) : Option Nat :=
  state.slots.findIdx? (fun slot => decide (slot.trajectoryId = some trajectoryId ∧
    (slot.status = .leased ∨ slot.status = .lost)))

def slotForLease (leaseId : Option LeaseId) (trajectoryId : Option String) : Option Nat :=
  state.slots.findIdx? (fun slot => slot.isFindable &&
    match leaseId with
    | some id => decide (slot.leaseId = some id)
    | none => decide (trajectoryId ≠ none ∧ slot.trajectoryId = trajectoryId))

def newLeaseId : LeaseId :=
  { nodeId := state.nodeId
    serial := state.nextSerial }

def acquire (trajectoryId : String) : Supervisor :=
  if state.closed then state
  else
    match state.slotForTrajectory trajectoryId with
    | some _ => state
    | none =>
      match state.slots.findIdx? SlotRuntime.isAvailable with
      | none => state
      | some slotId =>
        { state with nextSerial := state.nextSerial + 1 }.updateSlot slotId (fun slot =>
          { slot with
            status := .leased
            leaseId := some state.newLeaseId
            trajectoryId := some trajectoryId })

def release (leaseId : Option LeaseId) (trajectoryId : Option String) : Supervisor :=
  match state.slotForLease leaseId trajectoryId with
  | none => state
  | some slotId =>
    if state.closed then state.updateSlot slotId (fun slot => slot.dropLease .dead)
    else
      (state.updateSlot slotId (fun slot => slot.dropLease .releasing)).scheduleReset slotId
        ((state.slots[slotId]?).map SlotRuntime.generation)

def forceRelease (slotId : Nat) (leaseId : Option LeaseId) : Supervisor :=
  match state.slots[slotId]? with
  | none => state
  | some slot => state.release (leaseId.or slot.leaseId) slot.trajectoryId

def restartSlot (slotId : Nat) : Supervisor :=
  match state.slots[slotId]? with
  | none => state
  | some _ =>
    if state.closed then state
    else
      (state.updateSlot slotId (fun slot => slot.dropLease .restarting)).schedule slotId
        (.reset none)

def startPool : Supervisor :=
  if state.closed then state
  else
    { state with
      tasks := state.tasks ++
        ((List.range state.slots.length).filter (fun slotId =>
          (state.slots[slotId]?).any SlotRuntime.isStartable)).map (fun slotId =>
            { slotId := slotId
              kind := .start
              phase := .queued }) }

def startSlot (task slotId : Nat) (cleared : Bool) : Supervisor :=
  if state.closed then
    (state.updateSlot slotId (fun slot => { slot with status := .empty })).setPhase task .done
  else
    match state.slots[slotId]? with
    | none => state
    | some slot =>
      (state.updateSlot slotId SlotRuntime.beginStart).setPhase task
        (if cleared then .launching (slot.generation + 1) else .done)

def record (slotId generation : Nat) : Supervisor :=
  { state with
    slots := state.slots.modify slotId
      (fun slot => { slot with process := some state.processes.length })
    processes := state.processes ++
      [{ slotId := slotId
         generation := generation }] }

def endLaunch (task : Nat) (launched : Bool) : Supervisor :=
  match state.tasks[task]? with
  | some { slotId, phase := .launching generation, .. } =>
    if launched then
      let recorded := state.record slotId generation
      if state.closed then (recorded.callStop slotId).setPhase task .closing
      else recorded.setPhase task .checking
    else
      (state.updateSlot slotId (fun slot => { slot with status := .failed })).setPhase task .done
  | _ => state

def endCheck (task : Nat) (healthy : Bool) : Supervisor :=
  match state.tasks[task]? with
  | some { slotId, phase := .checking, .. } =>
    if healthy then
      if state.closed then (state.callStop slotId).setPhase task .closing
      else
        (state.updateSlot slotId (fun slot => { slot with status := .ready })).setPhase task .done
    else
      (state.updateSlot slotId (fun slot => { slot with status := .failed })).setPhase task .done
  | _ => state

def beginReset (task slotId : Nat) (expectedGeneration : Option Nat) : Supervisor :=
  if state.closed then (state.callStop slotId).setPhase task .emptying
  else
    match state.slots[slotId]? with
    | none => state
    | some slot =>
      if slot.isStale expectedGeneration then state.setPhase task .done
      else
        ((state.callStop slotId).updateSlot slotId
          (fun slot => { slot with status := .restarting })).setPhase task .stopping

def beginTask (task : Nat) (cleared : Bool) : Supervisor :=
  match state.tasks[task]? with
  | some { slotId, kind := .start, phase := .queued } => state.startSlot task slotId cleared
  | some { slotId, kind := .reset expectedGeneration, phase := .queued } =>
    if state.lockFree slotId then state.beginReset task slotId expectedGeneration else state
  | some { slotId, kind := .shutdown _, phase := .queued } =>
    if state.lockFree slotId then (state.callStop slotId).setPhase task .emptying else state
  | _ => state

def emptySlot (slot : SlotRuntime) : SlotRuntime :=
  { slot.dropLease .empty with process := none }

/-- A reset after its stop; archiving and clearing the directories may raise. -/
def restart (task slotId : Nat) (expectedGeneration : Option Nat) (archived cleared : Bool) :
    Supervisor :=
  if state.closed then (state.updateSlot slotId emptySlot).setPhase task .done
  else
    let unrecorded := state.updateSlot slotId (fun slot => { slot with process := none })
    match state.slots[slotId]? with
    | none => state
    | some slot =>
      if slot.isStale expectedGeneration ∨ archived = false then unrecorded.setPhase task .done
      else unrecorded.startSlot task slotId cleared

def endStop (task : Nat) (returned archived cleared : Bool) : Supervisor :=
  match state.tasks[task]? with
  | some { slotId, kind := .reset expectedGeneration, phase := .stopping } =>
    if returned then state.restart task slotId expectedGeneration archived cleared
    else state.setPhase task .done
  | some { slotId, phase := .emptying, .. } =>
    if returned then (state.updateSlot slotId emptySlot).setPhase task .done
    else state.setPhase task .done
  | some { slotId, phase := .closing, .. } =>
    if returned then
      (state.updateSlot slotId
        (fun slot =>
          { slot with
            status := .empty
            process := none })).setPhase task .done
    else
      (state.updateSlot slotId (fun slot => { slot with status := .failed })).setPhase task .done
  | _ => state

def shutdown : Supervisor :=
  { state with
    closed := true
    probed := none
    shutdowns := state.shutdowns + 1
    tasks := state.tasks ++ (List.range state.slots.length).map (fun slotId =>
      { slotId := slotId
        kind := .shutdown state.shutdowns
        phase := .queued }) }

def probe (slotId : Nat) : Supervisor :=
  match state.probed, state.slots[slotId]? with
  | none, some slot =>
    if state.closed = false ∧ (slot.status = .ready ∨ slot.status = .leased) then
      { state with probed := some slotId }
    else state
  | _, _ => state

def answer (healthy : Bool) : Supervisor :=
  match state.probed with
  | none => state
  | some slotId =>
    let answered := { state with probed := none }
    match state.slots[slotId]? with
    | none => answered
    | some slot =>
      if healthy then answered
      else if slot.status = .leased then
        answered.updateSlot slotId (fun slot => { slot with status := .lost })
      else
        (answered.updateSlot slotId (fun slot => { slot with status := .dead })).scheduleReset
          slotId (some slot.generation)

inductive Action
  | acquire (trajectoryId : String)
  | release (leaseId : Option LeaseId) (trajectoryId : Option String)
  | forceRelease (slotId : Nat) (leaseId : Option LeaseId)
  | restartSlot (slotId : Nat)
  | startPool
  | beginTask (task : Nat) (cleared : Bool)
  | endLaunch (task : Nat) (launched : Bool)
  | endCheck (task : Nat) (healthy : Bool)
  | endStop (task : Nat) (returned archived cleared : Bool)
  | shutdown
  | probe (slotId : Nat)
  | answer (healthy : Bool)
deriving DecidableEq

def step (action : Action) : Supervisor :=
  match action with
  | .acquire trajectoryId => state.acquire trajectoryId
  | .release leaseId trajectoryId => state.release leaseId trajectoryId
  | .forceRelease slotId leaseId => state.forceRelease slotId leaseId
  | .restartSlot slotId => state.restartSlot slotId
  | .startPool => state.startPool
  | .beginTask task cleared => state.beginTask task cleared
  | .endLaunch task launched => state.endLaunch task launched
  | .endCheck task healthy => state.endCheck task healthy
  | .endStop task returned archived cleared => state.endStop task returned archived cleared
  | .shutdown => state.shutdown
  | .probe slotId => state.probe slotId
  | .answer healthy => state.answer healthy

/-- The calls that lease slots out and take them back. -/
def Action.leaseCall : Action → Option Sandbox.Supervisor.Action
  | .acquire trajectoryId => some (.acquire trajectoryId)
  | .release leaseId trajectoryId => some (.release leaseId trajectoryId)
  | .forceRelease slotId leaseId => some (.forceRelease slotId leaseId)
  | .restartSlot slotId => some (.restartSlot slotId)
  | _ => none

end Supervisor

section Leases

variable (state : Supervisor)

def SlotRuntime.lease (slot : SlotRuntime) : Sandbox.SlotRuntime :=
  { Sandbox.SlotRuntime.new with
    status := slot.status
    generation := slot.generation
    leaseId := slot.leaseId
    trajectoryId := slot.trajectoryId }

def Supervisor.leases : Sandbox.Supervisor :=
  { Sandbox.Supervisor.initial state.nodeId 0 with
    slots := state.slots.map SlotRuntime.lease
    probed := state.probed
    nextSerial := state.nextSerial }

def idle (slot : Sandbox.SlotRuntime) : Sandbox.SlotRuntime :=
  { slot with
    queuedResets := []
    runningReset := none
    pendingStarts := 0
    runningStarts := 0 }

/-- A supervisor without the tasks on its slots and without what is written down beside it. -/
def leasesOf (other : Sandbox.Supervisor) : Sandbox.Supervisor :=
  { other with
    slots := other.slots.map idle
    holdings := []
    touches := [] }

theorem leases_same : state.leases = leasesOf state.leases := by
  simp [Supervisor.leases, leasesOf, idle, SlotRuntime.lease, Sandbox.SlotRuntime.new,
    Sandbox.Supervisor.initial]

theorem leases_updateSlot (slotId : Nat) {change : SlotRuntime → SlotRuntime}
    {other : Sandbox.SlotRuntime → Sandbox.SlotRuntime}
    (agree : ∀ slot, (change slot).lease = idle (other slot.lease)) :
    (state.updateSlot slotId change).leases = leasesOf (state.leases.updateSlot slotId other) := by
  refine congrArg (fun slots => { state.leases with slots := slots }) (List.ext_getElem? ?_)
  intro position
  simp only [Supervisor.updateSlot, Sandbox.Supervisor.updateSlot, Supervisor.leases,
    List.getElem?_map, List.getElem?_modify]
  cases state.slots[position]? with
  | none => rfl
  | some slot =>
    by_cases here : slotId = position
    · simp [here, agree slot]
    · simp [here]
      rfl

theorem leases_release (serving : state.closed = false) (leaseId : Option LeaseId)
    (trajectoryId : Option String) : (state.release leaseId trajectoryId).leases =
      leasesOf (state.leases.release leaseId trajectoryId) := by
  have found : state.leases.slotForLease leaseId trajectoryId =
      state.slotForLease leaseId trajectoryId := List.findIdx?_map
  rw [Supervisor.release, Sandbox.Supervisor.release, found]
  cases state.slotForLease leaseId trajectoryId with
  | none => exact leases_same state
  | some slotId =>
    dsimp only
    rw [if_neg (by simp [serving]), Supervisor.scheduleReset,
      if_neg (by simp [Supervisor.updateSlot, serving])]
    exact leases_updateSlot state slotId (fun _ => rfl)

/-- The two models of a supervisor agree on its leases: until the shutdown, a call does to the
status, the lease and the trajectory of every slot what it does in the other one. -/
theorem leases_step {state : Supervisor} (serving : state.closed = false)
    {action : Supervisor.Action} {call : Sandbox.Supervisor.Action}
    (shared : action.leaseCall = some call) :
    (state.step action).leases = leasesOf (state.leases.step call) := by
  have serves : ¬ state.closed = true := by simp [serving]
  have slotAt (slotId : Nat) :
      state.leases.slots[slotId]? = state.slots[slotId]?.map SlotRuntime.lease := List.getElem?_map
  cases action <;> cases shared <;> dsimp only [Supervisor.step, Sandbox.Supervisor.step]
  case acquire trajectoryId =>
    have known : state.leases.slotForTrajectory trajectoryId =
        state.slotForTrajectory trajectoryId := List.findIdx?_map
    have free : state.leases.firstAvailable = state.slots.findIdx? SlotRuntime.isAvailable :=
      List.findIdx?_map
    rw [Supervisor.acquire, if_neg serves, Sandbox.Supervisor.acquire, known, free]
    cases state.slotForTrajectory trajectoryId with
    | some slotId =>
      dsimp only
      split <;> exact leases_same state
    | none =>
      cases state.slots.findIdx? SlotRuntime.isAvailable with
      | none => exact leases_same state
      | some slotId =>
        exact leases_updateSlot { state with nextSerial := state.nextSerial + 1 } slotId
          (fun _ => rfl)
  case release leaseId trajectoryId => exact leases_release state serving leaseId trajectoryId
  case forceRelease slotId leaseId =>
    rw [Supervisor.forceRelease, Sandbox.Supervisor.forceRelease, slotAt]
    cases state.slots[slotId]? with
    | none => exact leases_same state
    | some slot => exact leases_release state serving _ _
  case restartSlot slotId =>
    rw [Supervisor.restartSlot, Sandbox.Supervisor.restartSlot]
    cases found : state.slots[slotId]? with
    | none =>
      have absent : state.leases.slots.length ≤ slotId := by
        rw [← List.getElem?_eq_none_iff, slotAt, found, Option.map_none]
      rw [Sandbox.Supervisor.updateSlot, List.modify_eq_self absent]
      exact leases_same state
    | some slot =>
      dsimp only
      rw [if_neg serves]
      exact leases_updateSlot state slotId (fun _ => rfl)

end Leases

end Dressage.Sandbox.Servers

/-
The blackbox paddock and its lifecycle tasks.

An init call lets the provider create a sandbox lease in a task of its own. When it is cancelled
or fails it hands the lease to a cleanup task, which runs in the background; the module keeps a
set of such tasks for each event loop, and a drain waits until the set is empty. Every section
between two awaits is one transition here. Which terminate calls the provider got is written
down beside the state that the code keeps.
-/

import Dressage.Lib.OrderedDict

namespace Dressage.Paddock

open Lib

/-- The number of an init call; the lease that its `provider.create` returns has the same. -/
abbrev InitId := Nat

abbrev TaskId := Nat

abbrev SetId := Nat

inductive TaskKind
  | createCleanup (init : InitId)
  | leaseCleanup (init : InitId)
  | release (init : InitId)
deriving DecidableEq

inductive TaskStatus
  | created
  | waitingCreate
  | waitingRelease (release : TaskId)
  | releasing
  | done
deriving DecidableEq

structure Task where
  kind : TaskKind
  status : TaskStatus
  tracked : Bool
deriving DecidableEq

inductive DrainPhase
  | waiting (set : SetId) (tasks : List TaskId)
  | returned (pending : List TaskId)
deriving DecidableEq

inductive CreateStatus
  | pending
  | returned (hasEndpoint : Bool)
  | failed
  | cancelled
deriving DecidableEq

inductive InitPhase
  | creating
  | locating
  | checking
  | cleaning (task : TaskId)
  | returned
  | raised
deriving DecidableEq

structure Init where
  trajectoryId : String
  create : CreateStatus
  phase : InitPhase
deriving DecidableEq

structure BlackboxAgentPaddock where
  waitHealth : Bool
  inits : List Init
  leases : OrderedDict String InitId
  states : OrderedDict String InitId
  tasks : List Task
  sets : List (List TaskId)
  current : Option SetId
  drains : List DrainPhase
  terminated : List InitId
  terminatedById : List String

namespace BlackboxAgentPaddock

def initial (waitHealth : Bool) : BlackboxAgentPaddock :=
  { waitHealth := waitHealth
    inits := []
    leases := OrderedDict.empty
    states := OrderedDict.empty
    tasks := []
    sets := []
    current := none
    drains := []
    terminated := []
    terminatedById := [] }

variable (state : BlackboxAgentPaddock)

def setPhase (number : InitId) (phase : InitPhase) : BlackboxAgentPaddock :=
  { state with
    inits := state.inits.modify number (fun init => { init with phase := phase }) }

def setStatus (task : TaskId) (status : TaskStatus) : BlackboxAgentPaddock :=
  { state with
    tasks := state.tasks.modify task (fun current => { current with status := status }) }

def createStatus (number : InitId) : Option CreateStatus :=
  (state.inits[number]?).map Init.create

def isDone (task : TaskId) : Bool := (state.tasks[task]?).any (fun task => task.status = .done)

def tasksOf (set : SetId) : List TaskId := state.sets.getD set []

def pending : List TaskId :=
  (List.range state.tasks.length).filter (fun task =>
    (state.tasks[task]?).any (fun task => task.tracked ∧ task.status ≠ .done))

def track (task : TaskId) : BlackboxAgentPaddock :=
  let tracked :=
    { state with
      tasks := state.tasks.modify task (fun current => { current with tracked := true }) }
  match state.current with
  | none =>
    { tracked with
      sets := state.sets ++ [[task]]
      current := some state.sets.length }
  | some set => { tracked with sets := state.sets.modify set (fun tasks => tasks.insert task) }

def schedule (kind : TaskKind) : BlackboxAgentPaddock :=
  let created : BlackboxAgentPaddock :=
    { state with
      tasks := state.tasks ++
        [{ kind := kind
           status := .created
           tracked := false }] }
  created.track state.tasks.length

def discard (task : TaskId) : BlackboxAgentPaddock :=
  if state.isDone task then
    match state.current with
    | none => state
    | some set =>
      { state with
        sets := state.sets.modify set (fun tasks => tasks.erase task)
        current := if (state.tasksOf set).erase task = [] then none else some set }
  else state

def drainPhase : DrainPhase :=
  match state.current with
  | none => .returned state.pending
  | some set =>
    if state.tasksOf set = [] then .returned state.pending
    else .waiting set (state.tasksOf set)

def beginDrain : BlackboxAgentPaddock :=
  { state with drains := state.drains ++ [state.drainPhase] }

/-- The loop's body after the gather: the finished tasks leave the set that the
drain holds, and an empty one takes the loop's entry with it. -/
def afterGather (set : SetId) (tasks : List TaskId) : BlackboxAgentPaddock :=
  let left := (state.tasksOf set).filter (fun task => !(tasks.contains task && state.isDone task))
  { state with
    sets := state.sets.modify set (fun _ => left)
    current := if left = [] then none else state.current }

def wakeDrain (drain : Nat) : BlackboxAgentPaddock :=
  match state.drains[drain]? with
  | some (.waiting set tasks) =>
    if tasks.all state.isDone then
      let after := state.afterGather set tasks
      { after with drains := after.drains.set drain after.drainPhase }
    else state
  | _ => state

/-- `terminate_provider_lease_best_effort` up to its await: the call of the provider is left
to a task that has not begun. -/
def terminateLease (task : TaskId) (number : InitId) : BlackboxAgentPaddock :=
  let waiting := state.setStatus task (.waitingRelease state.tasks.length)
  { waiting with
    tasks := waiting.tasks ++
      [{ kind := .release number
         status := .created
         tracked := false }] }

def followCreate (task : TaskId) (number : InitId) : BlackboxAgentPaddock :=
  match state.createStatus number with
  | none | some .pending => state.setStatus task .waitingCreate
  | some (.returned _) => state.terminateLease task number
  | some .failed | some .cancelled => state.setStatus task .done

def startTask (task : TaskId) : BlackboxAgentPaddock :=
  match state.tasks[task]? with
  | some { kind := .createCleanup number, status := .created, .. } =>
    state.followCreate task number
  | some { kind := .leaseCleanup number, status := .created, .. } =>
    state.terminateLease task number
  | some { kind := .release number, status := .created, .. } =>
    { state.setStatus task .releasing with terminated := state.terminated ++ [number] }
  | _ => state

def resumeTask (task : TaskId) : BlackboxAgentPaddock :=
  match state.tasks[task]? with
  | some { kind := .createCleanup number, status := .waitingCreate, .. } =>
    state.followCreate task number
  | some { status := .waitingRelease release, .. } =>
    if state.isDone release then state.setStatus task .done else state
  | some { kind := .release _, status := .releasing, .. } => state.setStatus task .done
  | _ => state

def timeOutTask (task : TaskId) : BlackboxAgentPaddock :=
  match state.tasks[task]? with
  | some { status := .waitingRelease release, .. } => (state.track release).setStatus task .done
  | _ => state

def cancelTask (task : TaskId) : BlackboxAgentPaddock :=
  match state.tasks[task]? with
  | none => state
  | some { status, .. } =>
    match status with
    -- a coroutine that has not run has no handler yet
    | .created => state.setStatus task .done
    | .waitingCreate => state
    -- also what the await of a cancelled release raises
    | .waitingRelease release => (state.track release).setStatus task .done
    | .releasing => state.setStatus task .done
    | .done => state

def startInit (trajectoryId : String) : BlackboxAgentPaddock :=
  if trajectoryId ∈ state.inits.map Init.trajectoryId then state
  else
    { state with
      inits := state.inits ++
        [{ trajectoryId := trajectoryId
           create := .pending
           phase := .creating }] }

def endCreate (number : InitId) (answer : CreateStatus) : BlackboxAgentPaddock :=
  match state.createStatus number with
  | some .pending =>
    { state with
      inits := state.inits.modify number (fun init => { init with create := answer }) }
  | _ => state

def giveUp (number : InitId) (trajectoryId : String) (phase : InitPhase) :
    BlackboxAgentPaddock :=
  { (state.schedule (.leaseCleanup number)).setPhase number phase with
    leases := state.leases.pop trajectoryId
    states := state.states.pop trajectoryId }

def keep (number : InitId) (trajectoryId : String) : BlackboxAgentPaddock :=
  { state.setPhase number .returned with
    leases := state.leases.set trajectoryId number
    states := state.states.set trajectoryId number }

def check (number : InitId) (trajectoryId : String) : BlackboxAgentPaddock :=
  if state.waitHealth then state.setPhase number .checking else state.keep number trajectoryId

def resumeInit (number : InitId) (succeeded : Bool) : BlackboxAgentPaddock :=
  match state.inits[number]? with
  | none => state
  | some init =>
    match init.phase, init.create with
    | .creating, .returned hasEndpoint =>
      if !succeeded then
        state.giveUp number init.trajectoryId (.cleaning state.tasks.length)
      else if hasEndpoint then state.check number init.trajectoryId
      else state.setPhase number .locating
    | .creating, .failed => state.setPhase number .raised
    | .creating, .cancelled =>
      (state.schedule (.createCleanup number)).setPhase number .raised
    | .locating, _ =>
      if succeeded then state.check number init.trajectoryId
      else state.giveUp number init.trajectoryId (.cleaning state.tasks.length)
    | .checking, _ =>
      if succeeded then state.keep number init.trajectoryId
      else state.giveUp number init.trajectoryId (.cleaning state.tasks.length)
    | .cleaning task, _ => if state.isDone task then state.setPhase number .raised else state
    | _, _ => state

def cancelInit (number : InitId) : BlackboxAgentPaddock :=
  match state.inits[number]? with
  | none => state
  | some init =>
    match init.phase with
    | .creating => (state.schedule (.createCleanup number)).setPhase number .raised
    | .locating | .checking => state.giveUp number init.trajectoryId .raised
    | .cleaning _ => state.setPhase number .raised
    | .returned | .raised => state

def terminate (trajectoryId : String) : BlackboxAgentPaddock :=
  let popped :=
    { state with
      leases := state.leases.pop trajectoryId
      states := state.states.pop trajectoryId }
  match state.leases.get? trajectoryId, state.states.get? trajectoryId with
  | some lease, _ => { popped with terminated := state.terminated ++ [lease] }
  | none, some _ => { popped with terminatedById := state.terminatedById ++ [trajectoryId] }
  | none, none => popped

end BlackboxAgentPaddock

inductive Event
  | startInit (trajectoryId : String)
  | endCreate (number : InitId) (answer : CreateStatus)
  | resumeInit (number : InitId) (succeeded : Bool)
  | cancelInit (number : InitId)
  | terminate (trajectoryId : String)
  | startTask (task : TaskId)
  | resumeTask (task : TaskId)
  | timeOutTask (task : TaskId)
  | cancelTask (task : TaskId)
  | discard (task : TaskId)
  | beginDrain
  | wakeDrain (drain : Nat)
deriving DecidableEq

def step (state : BlackboxAgentPaddock) : Event → BlackboxAgentPaddock
  | .startInit trajectoryId => state.startInit trajectoryId
  | .endCreate number answer => state.endCreate number answer
  | .resumeInit number succeeded => state.resumeInit number succeeded
  | .cancelInit number => state.cancelInit number
  | .terminate trajectoryId => state.terminate trajectoryId
  | .startTask task => state.startTask task
  | .resumeTask task => state.resumeTask task
  | .timeOutTask task => state.timeOutTask task
  | .cancelTask task => state.cancelTask task
  | .discard task => state.discard task
  | .beginDrain => state.beginDrain
  | .wakeDrain drain => state.wakeDrain drain

end Dressage.Paddock

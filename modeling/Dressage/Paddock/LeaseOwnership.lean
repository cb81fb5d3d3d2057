/-
Who answers for a lease.

A lease that the provider returns is in the hands of its init call, from there it
goes under its trajectory or to a cleanup task, and from the cleanup to the release
task, whose first step calls the provider. In every run each lease is in one of these
places, unless one of these tasks is cancelled before its first step: its coroutine
has not run, so nothing catches the cancellation and no call follows.
-/

import Dressage.Lib.Lists
import Dressage.Lib.Runs
import Dressage.Paddock.TaskRegistry

namespace Dressage.Paddock

open Lib List OrderedDict Option BlackboxAgentPaddock

def TaskKind.init : TaskKind → InitId
  | .createCleanup init | .leaseCleanup init | .release init => init

/-- The lease whose terminate call the task, or the release it will make, has still to issue. -/
def Task.owes (task : Task) : Option InitId :=
  match task.status with
  | .created | .waitingCreate => some task.kind.init
  | .waitingRelease _ | .releasing | .done => none

def BlackboxAgentPaddock.claims (state : BlackboxAgentPaddock) (number : InitId) : Nat :=
  state.terminated.count number + state.tasks.countP (fun task => task.owes = some number)

def InitPhase.holdsLease : InitPhase → Bool
  | .creating | .locating | .checking => true
  | .cleaning _ | .returned | .raised => false

def Stored (state : BlackboxAgentPaddock) (number : InitId) (init : Init) : Prop :=
  init.phase = .returned ∧ state.leases.get? init.trajectoryId = some number ∧
    state.claims number = 0

def InHand (state : BlackboxAgentPaddock) (number : InitId) (init : Init) : Prop :=
  init.phase.holdsLease = true ∧ state.leases.get? init.trajectoryId = none ∧
    state.claims number = 0

def TerminatedOnce (state : BlackboxAgentPaddock) (number : InitId) (init : Init) : Prop :=
  state.leases.get? init.trajectoryId = none ∧ state.claims number = 1

structure LeasesOwned (state : BlackboxAgentPaddock) : Prop where
  owned : ∀ (number : Nat) (init : Init) (hasEndpoint : Bool),
    state.inits[number]? = some init → init.create = .returned hasEndpoint →
      Stored state number init ∨ InHand state number init ∨ TerminatedOnce state number init
  /-- A call that is owed is owed by a tracked task, or by the release that one waits for. -/
  tracked : ∀ (task : TaskId) (entry : Task), state.tasks[task]? = some entry →
    entry.owes.isSome = true → entry.tracked = true ∨
      ∃ (cleanup : TaskId) (waiting : Task), state.tasks[cleanup]? = some waiting ∧
        waiting.tracked = true ∧ waiting.status = .waitingRelease task
  byLease : state.terminatedById = []

structure NoLeaseLeaks (state : BlackboxAgentPaddock) : Prop where
  leases : LeasesOwned state
  drains : DrainsHold state

def CreateStatus.mayReturn : CreateStatus → Bool
  | .pending | .returned _ => true
  | .failed | .cancelled => false

/-- The provider's create has returned a lease, or still may. -/
def MayReturn (state : BlackboxAgentPaddock) (number : InitId) : Prop :=
  (state.createStatus number).any CreateStatus.mayReturn = true

instance (state : BlackboxAgentPaddock) (number : InitId) : Decidable (MayReturn state number) :=
  inferInstanceAs (Decidable ((state.createStatus number).any CreateStatus.mayReturn = true))

def Safe (state : BlackboxAgentPaddock) : Event → Prop
  -- no lifecycle task is cancelled before its first step, unless its create has failed
  | .cancelTask task => ∀ entry ∈ state.tasks[task]?, entry.status = .created →
    ¬ MayReturn state entry.kind.init
  | .wakeDrain drain => ∀ phase ∈ state.drains[drain]?, ¬ TakesLaterEntry state phase
  | _ => True

instance (state : BlackboxAgentPaddock) : DecidablePred (Safe state)
  | .cancelTask task => inferInstanceAs (Decidable (∀ entry ∈ state.tasks[task]?,
    entry.status = .created → ¬ MayReturn state entry.kind.init))
  | .wakeDrain drain => inferInstanceAs (Decidable (∀ phase ∈ state.drains[drain]?,
    ¬ TakesLaterEntry state phase))
  | .startInit _ | .endCreate _ _ | .resumeInit _ _ | .cancelInit _ | .terminate _ | .startTask _
  | .resumeTask _ | .timeOutTask _ | .discard _ | .beginDrain => inferInstanceAs (Decidable True)

def Stage (number : InitId) (create : CreateStatus) (phase : InitPhase) (stored : Option InitId)
    (claims : Nat) : Prop :=
  match phase with
  | .creating => stored = none ∧ claims = 0
  | .locating | .checking =>
    (∃ hasEndpoint, create = .returned hasEndpoint) ∧ stored = none ∧ claims = 0
  | .cleaning _ => (∃ hasEndpoint, create = .returned hasEndpoint) ∧ stored = none ∧ claims = 1
  | .returned =>
    (∃ hasEndpoint, create = .returned hasEndpoint) ∧
      (stored = some number ∧ claims = 0 ∨ stored = none ∧ claims = 1)
  | .raised =>
    stored = none ∧ claims ≤ 1 ∧ (create.mayReturn = true → claims = 1)

def BlackboxAgentPaddock.stageOf (state : BlackboxAgentPaddock) (number : InitId) (init : Init) :
    Prop :=
  Stage number init.create init.phase (state.leases.get? init.trajectoryId) (state.claims number)

structure Leased (state : BlackboxAgentPaddock) : Prop where
  distinct : (state.inits.map Init.trajectoryId).Nodup
  stages : ∀ (number : Nat) (init : Init), state.inits[number]? = some init →
    state.stageOf number init
  foreign : ∀ trajectoryId, trajectoryId ∉ state.inits.map Init.trajectoryId →
    state.leases.get? trajectoryId = none
  states : state.states = state.leases
  bounded : ∀ number, state.inits.length ≤ number → state.claims number = 0
  byLease : state.terminatedById = []

theorem leased_initial (waitHealth : Bool) : Leased (initial waitHealth) := by
  constructor
  · exact nodup_nil
  · intro number init impossible
    cases impossible
  · exact fun _ _ => rfl
  · rfl
  · exact fun _ _ => rfl
  · rfl

variable {state after : BlackboxAgentPaddock} {init : Init} {number : InitId} {task : TaskId}
variable {entry : Task} {phase : InitPhase} {event : Event}

theorem Leased.owned (leased : Leased state) {number : Nat} {hasEndpoint : Bool}
    (found : state.inits[number]? = some init) (created : init.create = .returned hasEndpoint) :
    Stored state number init ∨ InHand state number init ∨ TerminatedOnce state number init := by
  have stage := leased.stages number init found
  unfold stageOf at stage
  cases phase : init.phase with
  | creating =>
    rw [phase] at stage
    exact .inr (.inl ⟨by rw [phase]; rfl, stage⟩)
  | locating | checking =>
    rw [phase] at stage
    exact .inr (.inl ⟨by rw [phase]; rfl, stage.2⟩)
  | cleaning task =>
    rw [phase] at stage
    exact .inr (.inr stage.2)
  | returned =>
    rw [phase] at stage
    rcases stage.2 with stored | terminated
    · exact .inl ⟨phase, stored⟩
    · exact .inr (.inr terminated)
  | raised =>
    rw [phase] at stage
    exact .inr (.inr ⟨stage.1, stage.2.2 (by rw [created]; rfl)⟩)

theorem mayReturn_iff {number : Nat} (found : state.inits[number]? = some init) :
    MayReturn state number ↔ init.create.mayReturn = true := by
  unfold MayReturn createStatus
  rw [found]
  rfl

theorem Leased.same_init (leased : Leased state) {number other : Nat} {another : Init}
    (found : state.inits[number]? = some init) (present : state.inits[other]? = some another)
    (same : init.trajectoryId = another.trajectoryId) : number = other := by
  have left : (state.inits.map Init.trajectoryId)[number]? = some init.trajectoryId := by
    rw [getElem?_map, found]
    rfl
  have right : (state.inits.map Init.trajectoryId)[other]? = some init.trajectoryId := by
    rw [getElem?_map, present, same]
    rfl
  obtain ⟨lower, atNumber⟩ := List.getElem_of_getElem? left
  obtain ⟨upper, atOther⟩ := List.getElem_of_getElem? right
  exact (leased.distinct.getElem_inj_iff).mp (atNumber.trans atOther.symm)

theorem claims_setStatus (found : state.tasks[task]? = some entry) (status : TaskStatus)
    (number : InitId) :
    (state.setStatus task status).claims number + (if entry.owes = some number then 1 else 0) =
      state.claims number +
        (if ({ entry with status := status } : Task).owes = some number then 1 else 0) := by
  have counted := Lists.countP_modify (fun task : Task => task.owes = some number) found
    (fun entry => { entry with status := status })
  simp only [decide_eq_true_eq] at counted
  unfold BlackboxAgentPaddock.claims setStatus
  simp only
  omega

theorem track_terminated (state : BlackboxAgentPaddock) (task : TaskId) :
    (state.track task).terminated = state.terminated := by
  unfold track
  cases state.current <;> rfl

theorem claims_track (state : BlackboxAgentPaddock) (task : TaskId) (number : InitId) :
    (state.track task).claims number = state.claims number := by
  unfold BlackboxAgentPaddock.claims
  rw [track_tasks, track_terminated]
  congr 1
  cases found : state.tasks[task]? with
  | none =>
    rw [modify_eq_self]
    exact List.getElem?_eq_none_iff.mp found
  | some entry =>
    have counted := Lists.countP_modify (fun task : Task => task.owes = some number) found
      (fun entry => { entry with tracked := true })
    exact Nat.add_right_cancel counted

structure Serves (state after : BlackboxAgentPaddock) : Prop where
  inits : after.inits = state.inits
  leases : after.leases = state.leases
  states : after.states = state.states
  byLease : after.terminatedById = state.terminatedById
  claims : ∀ number, MayReturn state number → after.claims number = state.claims number
  fewer : ∀ number, after.claims number ≤ state.claims number

section

variable (leased : Leased state)
include leased

theorem Leased.serves (serves : Serves state after) : Leased after := by
  constructor
  · rw [serves.inits]
    exact leased.distinct
  · intro number init found
    rw [serves.inits] at found
    have stage := leased.stages number init found
    unfold stageOf at stage ⊢
    rw [serves.leases]
    have same : init.create.mayReturn = true → after.claims number = state.claims number :=
      fun may => serves.claims number ((mayReturn_iff found).mpr may)
    have fewer := serves.fewer number
    cases phase : init.phase with
    | creating =>
      rw [phase] at stage
      rw [stage.2] at fewer
      exact ⟨stage.1, Nat.le_zero.mp fewer⟩
    | locating | checking | cleaning _ | returned =>
      rw [phase] at stage
      obtain ⟨⟨hasEndpoint, created⟩, kept⟩ := stage
      rw [same (by rw [created]; rfl)]
      exact ⟨⟨hasEndpoint, created⟩, kept⟩
    | raised =>
      rw [phase] at stage
      refine ⟨stage.1, Nat.le_trans fewer stage.2.1, ?_⟩
      intro may
      rw [same may]
      exact stage.2.2 may
  · intro trajectoryId absent
    rw [serves.inits] at absent
    rw [serves.leases]
    exact leased.foreign trajectoryId absent
  · rw [serves.states, serves.leases]
    exact leased.states
  · intro number beyond
    rw [serves.inits] at beyond
    exact Nat.le_zero.mp (leased.bounded number beyond ▸ serves.fewer number)
  · rw [serves.byLease]
    exact leased.byLease

theorem Leased.of_same (inits : after.inits = state.inits) (leases : after.leases = state.leases)
    (states : after.states = state.states) (tasks : after.tasks = state.tasks)
    (terminated : after.terminated = state.terminated)
    (byLease : after.terminatedById = state.terminatedById) : Leased after := by
  have claims : ∀ number, after.claims number = state.claims number := by
    intro number
    unfold BlackboxAgentPaddock.claims
    rw [tasks, terminated]
  apply leased.serves
  exact
    { inits := inits
      leases := leases
      states := states
      byLease := byLease
      claims := fun number _ => claims number
      fewer := fun number => Nat.le_of_eq (claims number) }

theorem Leased.setStatus (found : state.tasks[task]? = some entry) {status : TaskStatus}
    (keeps : ∀ number, entry.owes = some number →
      ({ entry with status := status } : Task).owes = some number ∨ ¬ MayReturn state number)
    (nothingNew : ∀ number, ({ entry with status := status } : Task).owes = some number →
      entry.owes = some number) :
    Leased (state.setStatus task status) := by
  have counted := claims_setStatus found status
  apply leased.serves
  exact
    { inits := rfl
      leases := rfl
      states := rfl
      byLease := rfl
      claims := by
        intro number may
        have same : entry.owes = some number ↔
            ({ entry with status := status } : Task).owes = some number :=
          ⟨fun owes => (keeps number owes).resolve_right (fun absent => absent may),
            nothingNew number⟩
        have equal := counted number
        simp only [same] at equal
        exact Nat.add_right_cancel equal
      fewer := by
        intro number
        have equal := counted number
        by_cases before : entry.owes = some number
        · rw [if_pos before] at equal
          split at equal <;> omega
        · rw [if_neg before, if_neg (fun after => before (nothingNew number after))] at equal
          exact Nat.le_of_eq equal }

theorem Leased.finish (found : state.tasks[task]? = some entry)
    (free : ∀ number, entry.owes = some number → ¬ MayReturn state number) :
    Leased (state.setStatus task .done) := by
  apply leased.setStatus found
  · exact fun number owes => .inr (free number owes)
  · intro number impossible
    cases impossible

end

theorem owes_eq {task : Task} (running : task.status = .created ∨ task.status = .waitingCreate) :
    task.owes = some task.kind.init := by
  unfold Task.owes
  rcases running with created | waiting
  · rw [created]
  · rw [waiting]

section

variable (leased : Leased state)
include leased

theorem Leased.terminateLease (found : state.tasks[task]? = some entry)
    (owes : entry.owes = some number) : Leased (state.terminateLease task number) := by
  have counted := claims_setStatus found (.waitingRelease state.tasks.length)
  have claims : ∀ other, (state.terminateLease task number).claims other = state.claims other := by
    intro other
    have equal := counted other
    have waiting : ({ entry with status := .waitingRelease state.tasks.length } : Task).owes =
      none := rfl
    have release : ({ kind := .release number, status := .created, tracked := false } :
      Task).owes = some number := rfl
    rw [waiting, owes] at equal
    unfold BlackboxAgentPaddock.terminateLease BlackboxAgentPaddock.claims
    simp only [BlackboxAgentPaddock.claims] at equal ⊢
    rw [countP_append, countP_singleton, release]
    simp only [some_inj, reduceCtorEq, decide_eq_true_eq, if_false] at equal ⊢
    omega
  apply leased.serves
  exact
    { inits := rfl
      leases := rfl
      states := rfl
      byLease := rfl
      claims := fun other _ => claims other
      fewer := fun other => Nat.le_of_eq (claims other) }

theorem Leased.beginRelease (found : state.tasks[task]? = some entry)
    (owes : entry.owes = some number) :
    Leased { state.setStatus task .releasing with
      terminated := state.terminated ++ [number] } := by
  have counted := claims_setStatus found .releasing
  have claims : ∀ other, BlackboxAgentPaddock.claims { state.setStatus task .releasing with
      terminated := state.terminated ++ [number] } other = state.claims other := by
    intro other
    have equal := counted other
    have releasing : ({ entry with status := .releasing } : Task).owes = none := rfl
    rw [releasing, owes] at equal
    simp only [BlackboxAgentPaddock.claims, BlackboxAgentPaddock.setStatus] at equal ⊢
    rw [count_append, count_singleton]
    simp only [some_inj, beq_iff_eq, reduceCtorEq, if_false] at equal ⊢
    omega
  apply leased.serves
  exact
    { inits := rfl
      leases := rfl
      states := rfl
      byLease := rfl
      claims := fun other _ => claims other
      fewer := fun other => Nat.le_of_eq (claims other) }

theorem Leased.track (task : TaskId) : Leased (state.track task) := by
  have fields : (state.track task).inits = state.inits ∧
      (state.track task).leases = state.leases ∧ (state.track task).states = state.states ∧
      (state.track task).terminatedById = state.terminatedById := by
    unfold BlackboxAgentPaddock.track
    cases state.current <;> exact ⟨rfl, rfl, rfl, rfl⟩
  apply leased.serves
  exact
    { inits := fields.1
      leases := fields.2.1
      states := fields.2.2.1
      byLease := fields.2.2.2
      claims := fun number _ => claims_track state task number
      fewer := fun number => Nat.le_of_eq (claims_track state task number) }

theorem Leased.followCreate (found : state.tasks[task]? = some entry)
    (running : entry.status = .created ∨ entry.status = .waitingCreate) :
    Leased (state.followCreate task entry.kind.init) := by
  have owes := owes_eq running
  unfold BlackboxAgentPaddock.followCreate
  have waits : Leased (state.setStatus task .waitingCreate) := by
    apply leased.setStatus found
    · intro other before
      exact .inl (owes.symm.trans before)
    · intro other after
      exact owes.trans after
  have ends : ∀ answer, state.createStatus entry.kind.init = some answer →
      answer.mayReturn = false → Leased (state.setStatus task .done) := by
    intro answer created never
    apply leased.finish found
    intro other before
    rw [owes, some_inj] at before
    subst before
    unfold MayReturn
    rw [created, any_some, never]
    nofun
  split
  · exact waits
  · exact waits
  · exact leased.terminateLease found owes
  · next failed => exact ends _ failed rfl
  · next cancelled => exact ends _ cancelled rfl

theorem Leased.startTask (task : TaskId) : Leased (state.startTask task) := by
  unfold BlackboxAgentPaddock.startTask
  split
  · next found => exact leased.followCreate found (.inl rfl)
  · next found => exact leased.terminateLease found rfl
  · next found => exact leased.beginRelease found rfl
  · exact leased

theorem Leased.resumeTask (task : TaskId) : Leased (state.resumeTask task) := by
  unfold BlackboxAgentPaddock.resumeTask
  split
  · next found => exact leased.followCreate found (.inr rfl)
  · next found =>
      split
      · exact leased.finish found (fun _ => nofun)
      · exact leased
  · next found => exact leased.finish found (fun _ => nofun)
  · exact leased

theorem Leased.leaveRelease {release : TaskId} (found : state.tasks[task]? = some entry)
    (waiting : entry.status = .waitingRelease release) :
    Leased ((state.track release).setStatus task .done) := by
  obtain ⟨_, after, same⟩ := track_found found release
  apply (leased.track release).finish after
  intro number owes
  unfold Task.owes at owes
  rw [same, waiting] at owes
  cases owes

theorem Leased.timeOutTask (task : TaskId) : Leased (state.timeOutTask task) := by
  unfold BlackboxAgentPaddock.timeOutTask
  split
  · next found => exact leased.leaveRelease found rfl
  · exact leased

theorem Leased.cancelTask (safe : Safe state (.cancelTask task)) :
    Leased (state.cancelTask task) := by
  unfold BlackboxAgentPaddock.cancelTask
  split
  · exact leased
  · next kind status tracked found =>
      cases status with
      | created =>
        apply leased.finish found
        intro number owes
        rw [← some_inj.mp owes]
        exact safe _ found rfl
      | waitingCreate => exact leased
      | waitingRelease release => exact leased.leaveRelease found rfl
      | releasing => exact leased.finish found (fun _ => nofun)
      | done => exact leased

end

structure Moves (state after : BlackboxAgentPaddock) (number : InitId) (init : Init)
    (phase : InitPhase) : Prop where
  inits : after.inits = state.inits.modify number (fun init => { init with phase := phase })
  stored : ∀ trajectoryId, trajectoryId ≠ init.trajectoryId →
    after.leases.get? trajectoryId = state.leases.get? trajectoryId
  states : after.states = after.leases
  claims : ∀ other, other ≠ number → after.claims other = state.claims other
  stage : Stage number init.create phase (after.leases.get? init.trajectoryId) (after.claims number)
  byLease : after.terminatedById = []

theorem names_modify (inits : List Init) (number : InitId) {change : Init → Init}
    (same : ∀ init, (change init).trajectoryId = init.trajectoryId) :
    (inits.modify number change).map Init.trajectoryId = inits.map Init.trajectoryId := by
  apply ext_getElem?
  intro index
  simp only [getElem?_map, getElem?_modify]
  cases inits[index]? with
  | none => rfl
  | some init =>
    by_cases here : number = index
    · simp [here, same]
    · simp [here]

theorem Leased.moves (leased : Leased state) (found : state.inits[number]? = some init)
    (moves : Moves state after number init phase) : Leased after := by
  have names : after.inits.map Init.trajectoryId = state.inits.map Init.trajectoryId := by
    rw [moves.inits]
    exact names_modify _ _ (fun _ => rfl)
  refine { moves with distinct := ?_, stages := ?_, foreign := ?_, bounded := ?_ }
  · rw [names]
    exact leased.distinct
  · intro other another present
    rw [moves.inits] at present
    by_cases same : other = number
    · subst same
      rw [getElem?_modify_eq, found, Option.map_eq_map, map_some, some_inj] at present
      rw [← present]
      exact moves.stage
    · rw [getElem?_modify_ne _ _ (Ne.symm same)] at present
      have before := leased.stages other another present
      unfold stageOf at before ⊢
      rw [moves.stored _ (fun equal => same (leased.same_init present found equal)),
        moves.claims other same]
      exact before
  · intro trajectoryId absent
    rw [names] at absent
    rw [moves.stored]
    · exact leased.foreign trajectoryId absent
    · intro same
      rw [same] at absent
      exact absent (List.mem_map_of_mem (mem_of_getElem? found))
  · intro other beyond
    rw [moves.inits, length_modify] at beyond
    have present := (List.getElem_of_getElem? found).1
    rw [moves.claims other (Nat.ne_of_gt (Nat.lt_of_lt_of_le present beyond))]
    exact leased.bounded other beyond

theorem Leased.setPhase (leased : Leased state) (found : state.inits[number]? = some init)
    (stage : Stage number init.create phase (state.leases.get? init.trajectoryId)
      (state.claims number)) : Leased (state.setPhase number phase) := by
  apply leased.moves found
  exact
    { leased with
      inits := rfl
      stored := fun _ _ => rfl
      claims := fun _ _ => rfl
      stage := stage }

theorem schedule_fields (state : BlackboxAgentPaddock) (kind : TaskKind) :
    (state.schedule kind).inits = state.inits ∧ (state.schedule kind).leases = state.leases ∧
      (state.schedule kind).states = state.states ∧
      (state.schedule kind).terminated = state.terminated ∧
      (state.schedule kind).terminatedById = state.terminatedById ∧
      (state.schedule kind).drains = state.drains := by
  unfold schedule track
  cases state.current <;> exact ⟨rfl, rfl, rfl, rfl, rfl, rfl⟩

section

variable (leased : Leased state)
include leased

theorem Leased.handOver (phase : InitPhase) (kind : TaskKind)
    (found : state.inits[number]? = some init)
    (inits : after.inits = state.inits.modify number (fun init => { init with phase := phase }))
    (tasks : after.tasks = (state.schedule kind).tasks)
    (terminated : after.terminated = state.terminated)
    (byLease : after.terminatedById = state.terminatedById)
    (stored : ∀ trajectoryId, trajectoryId ≠ init.trajectoryId →
      after.leases.get? trajectoryId = state.leases.get? trajectoryId)
    (states : after.states = after.leases)
    (cleanup : kind.init = number) (unclaimed : state.claims number = 0)
    (stage : Stage number init.create phase (after.leases.get? init.trajectoryId) 1) :
    Leased after := by
  rw [schedule_tasks] at tasks
  have owes : ({ kind := kind, status := .created, tracked := true } : Task).owes =
    some number := congrArg some cleanup
  have claims : ∀ other, after.claims other =
      state.claims other + (if number = other then 1 else 0) := by
    intro other
    unfold BlackboxAgentPaddock.claims
    rw [tasks, terminated, countP_append, countP_singleton, owes]
    simp only [some_inj, decide_eq_true_eq]
    exact (Nat.add_assoc _ _ _).symm
  apply leased.moves found
  exact
    { inits := inits
      stored := stored
      states := states
      claims := by
        intro other different
        rw [claims, if_neg (Ne.symm different), Nat.add_zero]
      stage := by
        rw [claims, if_pos rfl, unclaimed]
        exact stage
      byLease := byLease.trans leased.byLease }

theorem Leased.giveUp {number : InitId} {init : Init} (found : state.inits[number]? = some init)
    (returned : ∃ hasEndpoint, init.create = .returned hasEndpoint)
    (unclaimed : state.claims number = 0) {phase : InitPhase}
    (ends : phase = .raised ∨ ∃ task, phase = .cleaning task) :
    Leased (state.giveUp number init.trajectoryId phase) := by
  obtain ⟨inits, leases, states, terminated, byLease, _⟩ :=
    schedule_fields state (.leaseCleanup number)
  have gone : (state.giveUp number init.trajectoryId phase).leases.get? init.trajectoryId =
    none := get?_pop_self _ _
  apply leased.handOver phase (.leaseCleanup number) found
  · change (state.schedule _).inits.modify number _ = _
    rw [inits]
  · rfl
  · exact terminated
  · exact byLease
  · intro other different
    exact get?_pop_of_ne _ different
  · change state.states.pop _ = state.leases.pop _
    rw [leased.states]
  · rfl
  · exact unclaimed
  · rw [gone]
    rcases ends with rfl | ⟨task, rfl⟩
    · exact ⟨rfl, Nat.le_refl 1, fun _ => rfl⟩
    · exact ⟨returned, rfl, rfl⟩

theorem Leased.followUp (found : state.inits[number]? = some init)
    (absent : state.leases.get? init.trajectoryId = none) (unclaimed : state.claims number = 0) :
    Leased ((state.schedule (.createCleanup number)).setPhase number .raised) := by
  obtain ⟨inits, leases, states, terminated, byLease, _⟩ :=
    schedule_fields state (.createCleanup number)
  apply leased.handOver .raised (.createCleanup number) found
  · change (state.schedule _).inits.modify number _ = _
    rw [inits]
  · rfl
  · exact terminated
  · exact byLease
  · intro other _
    change (state.schedule _).leases.get? other = _
    rw [leases]
  · change (state.schedule _).states = (state.schedule _).leases
    rw [states, leases, leased.states]
  · rfl
  · exact unclaimed
  · refine ⟨?_, Nat.le_refl 1, fun _ => rfl⟩
    change (state.schedule _).leases.get? init.trajectoryId = none
    rw [leases]
    exact absent

theorem Leased.keep (found : state.inits[number]? = some init)
    (returned : ∃ hasEndpoint, init.create = .returned hasEndpoint)
    (unclaimed : state.claims number = 0) : Leased (state.keep number init.trajectoryId) := by
  have stored : (state.keep number init.trajectoryId).leases.get? init.trajectoryId =
    some number := get?_set_self _ _ _
  apply leased.moves found
  exact
    { inits := rfl
      stored := fun _ different => get?_set_of_ne _ _ different
      states := by
        change state.states.set _ _ = state.leases.set _ _
        rw [leased.states]
      claims := fun _ _ => rfl
      stage := by
        rw [stored]
        exact ⟨returned, .inl ⟨rfl, unclaimed⟩⟩
      byLease := leased.byLease }

theorem Leased.check (found : state.inits[number]? = some init)
    (returned : ∃ hasEndpoint, init.create = .returned hasEndpoint)
    (absent : state.leases.get? init.trajectoryId = none) (unclaimed : state.claims number = 0) :
    Leased (state.check number init.trajectoryId) := by
  unfold BlackboxAgentPaddock.check
  split
  · exact leased.setPhase found ⟨returned, absent, unclaimed⟩
  · exact leased.keep found returned unclaimed

theorem Leased.resumeInit (number : InitId) (succeeded : Bool) :
    Leased (state.resumeInit number succeeded) := by
  unfold BlackboxAgentPaddock.resumeInit
  split
  · exact leased
  · next init found =>
      have stage := leased.stages number init found
      unfold stageOf at stage
      split
      · next hasEndpoint phase created =>
          rw [phase] at stage
          split
          · exact leased.giveUp found ⟨hasEndpoint, created⟩ stage.2 (.inr ⟨_, rfl⟩)
          · split
            · exact leased.check found ⟨hasEndpoint, created⟩ stage.1 stage.2
            · exact leased.setPhase found ⟨⟨hasEndpoint, created⟩, stage⟩
      · next phase created =>
          rw [phase] at stage
          apply leased.setPhase found
          refine ⟨stage.1, by rw [stage.2]; exact Nat.zero_le 1, ?_⟩
          rw [created]
          nofun
      · next phase created =>
          rw [phase] at stage
          exact leased.followUp found stage.1 stage.2
      · next phase =>
          rw [phase] at stage
          split
          · exact leased.check found stage.1 stage.2.1 stage.2.2
          · exact leased.giveUp found stage.1 stage.2.2 (.inr ⟨_, rfl⟩)
      · next phase =>
          rw [phase] at stage
          split
          · exact leased.keep found stage.1 stage.2.2
          · exact leased.giveUp found stage.1 stage.2.2 (.inr ⟨_, rfl⟩)
      · next phase =>
          rw [phase] at stage
          split
          · apply leased.setPhase found
            exact ⟨stage.2.1, Nat.le_of_eq stage.2.2, fun _ => stage.2.2⟩
          · exact leased
      · exact leased

theorem Leased.cancelInit (number : InitId) : Leased (state.cancelInit number) := by
  unfold BlackboxAgentPaddock.cancelInit
  split
  · exact leased
  · next init found =>
      have stage := leased.stages number init found
      unfold stageOf at stage
      split
      · next phase =>
          rw [phase] at stage
          exact leased.followUp found stage.1 stage.2
      · next phase =>
          rw [phase] at stage
          exact leased.giveUp found stage.1 stage.2.2 (.inl rfl)
      · next phase =>
          rw [phase] at stage
          exact leased.giveUp found stage.1 stage.2.2 (.inl rfl)
      · next phase =>
          rw [phase] at stage
          apply leased.setPhase found
          exact ⟨stage.2.1, Nat.le_of_eq stage.2.2, fun _ => stage.2.2⟩
      · exact leased
      · exact leased

theorem Leased.endCreate (number : InitId) (answer : CreateStatus) :
    Leased (state.endCreate number answer) := by
  unfold BlackboxAgentPaddock.endCreate
  split
  · next pending =>
      obtain ⟨init, found, created⟩ := map_eq_some_iff.mp pending
      have names : (state.inits.modify number fun init => { init with create := answer }).map
        Init.trajectoryId = state.inits.map Init.trajectoryId := names_modify _ _ (fun _ => rfl)
      refine { leased with distinct := ?_, stages := ?_, foreign := ?_, bounded := ?_ }
      · rw [names]
        exact leased.distinct
      · intro other another present
        by_cases same : other = number
        · subst same
          simp only at present
          rw [getElem?_modify_eq, found, Option.map_eq_map, map_some, some_inj] at present
          rw [← present]
          have stage := leased.stages other init found
          unfold stageOf at stage ⊢
          have nobody : ∀ hasEndpoint, init.create ≠ .returned hasEndpoint := by
            intro hasEndpoint impossible
            rw [created] at impossible
            cases impossible
          cases phase : init.phase with
          | creating =>
            rw [phase] at stage
            exact stage
          | locating | checking | cleaning _ | returned =>
            rw [phase] at stage
            obtain ⟨⟨hasEndpoint, impossible⟩, _⟩ := stage
            exact absurd impossible (nobody hasEndpoint)
          | raised =>
            rw [phase] at stage
            -- the create was pending, so its cleanup already had the claim
            have claimed := stage.2.2 (by rw [created]; rfl)
            exact ⟨stage.1, stage.2.1, fun _ => claimed⟩
        · simp only at present
          rw [getElem?_modify_ne _ _ (Ne.symm same)] at present
          exact leased.stages other another present
      · intro trajectoryId absent
        rw [names] at absent
        exact leased.foreign trajectoryId absent
      · intro other beyond
        simp only [length_modify] at beyond
        exact leased.bounded other beyond
  · exact leased

end

theorem Leased.startInit (leased : Leased state) (trajectoryId : String) :
    Leased (state.startInit trajectoryId) := by
  unfold BlackboxAgentPaddock.startInit
  split
  · exact leased
  · next new =>
      refine { leased with distinct := ?_, stages := ?_, foreign := ?_, bounded := ?_ }
      · rw [map_append, nodup_append]
        refine ⟨leased.distinct, nodup_singleton _, ?_⟩
        intro old member another added same
        rw [mem_singleton.mp added] at same
        rw [same] at member
        exact new member
      · intro number init found
        rcases Nat.lt_or_ge number state.inits.length with lower | upper
        · simp only at found
          rw [getElem?_append_left lower] at found
          exact leased.stages number init found
        · simp only at found
          rw [getElem?_append_right upper] at found
          rw [mem_singleton.mp (mem_of_getElem? found)]
          exact ⟨leased.foreign trajectoryId new, leased.bounded number upper⟩
      · intro other absent
        rw [map_append, mem_append, not_or] at absent
        exact leased.foreign other absent.1
      · intro number beyond
        simp only [length_append] at beyond
        exact leased.bounded number (Nat.le_trans (Nat.le_add_right _ _) beyond)

theorem modify_phase_self {inits : List Init} (found : inits[number]? = some init)
    (same : init.phase = phase) :
    inits = inits.modify number (fun init => { init with phase := phase }) := by
  apply ext_getElem?
  intro index
  rw [getElem?_modify]
  by_cases here : number = index
  · subst here
    rw [found, ← same]
    simp
  · simp only [if_neg here]
    exact (id_map _).symm

theorem Leased.terminate (leased : Leased state) (trajectoryId : String) :
    Leased (state.terminate trajectoryId) := by
  unfold BlackboxAgentPaddock.terminate
  rw [leased.states]
  split
  · next stored =>
      have known : trajectoryId ∈ state.inits.map Init.trajectoryId := by
        by_contra absent
        rw [leased.foreign trajectoryId absent] at stored
        cases stored
      obtain ⟨init, member, rfl⟩ := List.mem_map.mp known
      obtain ⟨number, found⟩ := mem_iff_getElem?.mp member
      have stage := leased.stages number init found
      unfold stageOf at stage
      rw [stored] at stage
      cases phase : init.phase with
      | returned =>
        rw [phase] at stage
        obtain ⟨returned, ⟨mine, unclaimed⟩ | ⟨impossible, _⟩⟩ := stage
        · rw [some_inj] at mine
          subst mine
          have gone := get?_pop_self state.leases init.trajectoryId
          apply leased.moves found
          exact
            { inits := modify_phase_self found phase
              stored := fun _ different => get?_pop_of_ne _ different
              states := rfl
              claims := by
                intro other different
                unfold BlackboxAgentPaddock.claims
                simp [count_append, Ne.symm different]
              stage := by
                rw [gone]
                refine ⟨returned, .inr ⟨rfl, ?_⟩⟩
                unfold BlackboxAgentPaddock.claims at unclaimed ⊢
                simp only [count_append, count_singleton_self]
                omega
              byLease := leased.byLease }
        · cases impossible
      | creating | raised =>
        rw [phase] at stage
        cases stage.1
      | locating | checking | cleaning _ =>
        rw [phase] at stage
        cases stage.2.1
  · next stored kept =>
      rw [stored] at kept
      cases kept
  · next stored =>
      rw [pop_of_get?_eq_none stored]
      exact leased.of_same rfl rfl leased.states.symm rfl rfl rfl

theorem Leased.step (leased : Leased state) (safe : Safe state event) :
    Leased (step state event) := by
  cases event with
  | startInit trajectoryId => exact leased.startInit trajectoryId
  | endCreate number answer => exact leased.endCreate number answer
  | resumeInit number succeeded => exact leased.resumeInit number succeeded
  | cancelInit number => exact leased.cancelInit number
  | terminate trajectoryId => exact leased.terminate trajectoryId
  | startTask task => exact leased.startTask task
  | resumeTask task => exact leased.resumeTask task
  | timeOutTask task => exact leased.timeOutTask task
  | cancelTask task => exact leased.cancelTask safe
  | discard task =>
    unfold Paddock.step BlackboxAgentPaddock.discard
    simp only
    split
    · split
      · exact leased
      · exact leased.of_same rfl rfl rfl rfl rfl rfl
    · exact leased
  | beginDrain => exact leased.of_same rfl rfl rfl rfl rfl rfl
  | wakeDrain drain =>
    unfold Paddock.step wakeDrain
    simp only
    split
    · split
      · exact leased.of_same rfl rfl rfl rfl rfl rfl
      · exact leased
    · exact leased

structure Sound (state : BlackboxAgentPaddock) : Prop where
  leased : Leased state
  registered : Registered state
  held : Held state

theorem Sound.step (sound : Sound state) (safe : Safe state event) : Sound (step state event) := by
  refine ⟨sound.leased.step safe, sound.registered.step ?_, sound.held.step event⟩
  rintro drain rfl
  exact safe

theorem Sound.noLeaseLeaks (sound : Sound state) : NoLeaseLeaks state := by
  refine ⟨⟨?_, ?_, sound.leased.byLease⟩, sound.registered.settled⟩
  · exact fun number init hasEndpoint found created => sound.leased.owned found created
  · intro task entry found owes
    cases tracked : entry.tracked with
    | true => exact .inl rfl
    | false =>
      refine .inr (sound.held.waitedFor task entry found tracked ?_)
      intro done
      unfold Task.owes at owes
      rw [done] at owes
      cases owes

/-- No lease leaks in a run in which no lifecycle task is cancelled before its first step while
its create may have a lease, and no drain takes away a later entry of the registry. -/
theorem no_lease_leaks_of_safe (waitHealth : Bool) (events : List Event)
    (safe : Runs.Admits step Safe (initial waitHealth) events)
    {past : List Event} (early : past <+: events) :
    NoLeaseLeaks (Runs.run step (initial waitHealth) past) := by
  have initially : Sound (initial waitHealth) :=
    ⟨leased_initial waitHealth, registered_initial waitHealth, held_initial waitHealth⟩
  have sound := Runs.prefix_invariant (fun _ _ sound admitted => Sound.step sound admitted)
    initially safe early
  exact sound.noLeaseLeaks

/-- The first init is cancelled while the provider creates its lease, the second one fails its
health check, the third lease is stored and terminated; the first release goes on after its
cleanup was cancelled, the second one after a timeout, and a drain waits for both. -/
def cleanedUp : List Event :=
  [.startInit "first", .startInit "second", .startInit "third", .cancelInit 0, .startTask 0,
    .cancelTask 0, .endCreate 1 (.returned true), .resumeInit 1 true, .resumeInit 1 false,
    .endCreate 2 (.returned false), .resumeInit 2 true, .resumeInit 2 true, .resumeInit 2 true,
    .endCreate 0 (.returned true), .resumeTask 0, .startTask 1, .cancelTask 0, .discard 0,
    .startTask 2, .startTask 3, .timeOutTask 1, .resumeInit 1 true, .beginDrain, .terminate "third",
    .resumeTask 2, .discard 1, .discard 2, .resumeTask 3, .wakeDrain 0, .discard 3, .wakeDrain 0]

theorem cleaned_up_without_leaks :
    NoLeaseLeaks (Runs.run step (initial true) cleanedUp) ∧
      (Runs.run step (initial true) cleanedUp).terminated = [0, 1, 2] ∧
      (Runs.run step (initial true) cleanedUp).drains = [.returned []] :=
  ⟨no_lease_leaks_of_safe true cleanedUp (by decide +kernel) (prefix_refl _),
    by decide +kernel, by decide +kernel⟩

theorem LeasesOwned.claims_of_raised (owned : LeasesOwned state) {number : Nat}
    {hasEndpoint : Bool} (found : state.inits[number]? = some init)
    (created : init.create = .returned hasEndpoint) (raised : init.phase = .raised) :
    state.claims number = 1 := by
  rcases owned.owned number init hasEndpoint found created with ⟨phase, _⟩ | ⟨holds, _⟩ | ⟨_, once⟩
  · rw [raised] at phase
    cases phase
  · rw [raised] at holds
    cases holds
  · exact once

/-- A drain that looked up the first set wakes up after an init made the next one, and
returns while that init's cleanup is pending; and a cleanup, or a release, that is cancelled
before its first step loses the lease of its init. -/
theorem drain_returns_early :
    ¬ (∀ (waitHealth : Bool) (events : List Event),
      NoLeaseLeaks (Runs.run step (initial waitHealth) events)) ∧
    ¬ DrainsHold (Runs.run step (initial true)
      [.startInit "first", .startInit "second", .cancelInit 0, .startTask 0, .beginDrain,
        .endCreate 0 .failed, .resumeTask 0, .discard 0, .cancelInit 1, .wakeDrain 0]) ∧
    ¬ LeasesOwned (Runs.run step (initial true)
      [.startInit "first", .cancelInit 0, .cancelTask 0, .endCreate 0 (.returned true)]) ∧
    ¬ LeasesOwned (Runs.run step (initial true)
      [.startInit "first", .endCreate 0 (.returned true), .resumeInit 0 true, .cancelInit 0,
        .startTask 0, .cancelTask 0, .cancelTask 1]) := by
  have early : ¬ DrainsHold (Runs.run step (initial true)
      [.startInit "first", .startInit "second", .cancelInit 0, .startTask 0, .beginDrain,
        .endCreate 0 .failed, .resumeTask 0, .discard 0, .cancelInit 1, .wakeDrain 0]) := by
    intro holds
    have none := holds [1] (by decide)
    cases none
  refine ⟨fun all => early (all true _).drains, early, ?_, ?_⟩
  · intro owned
    have once : BlackboxAgentPaddock.claims _ 0 = 1 := owned.claims_of_raised rfl rfl rfl
    revert once
    decide
  · intro owned
    have once : BlackboxAgentPaddock.claims _ 0 = 1 := owned.claims_of_raised rfl rfl rfl
    revert once
    decide

end Dressage.Paddock

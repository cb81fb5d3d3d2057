/-
The partially asynchronous rollout.

A call returns as soon as it has a trainer-sized batch and puts the completed
groups it drained but did not need back on the queue, one by one, waiting for
room. The final call of a training run instead drops them and stops the worker.
-/

import Dressage.Rollout.Conservation

namespace Dressage.Rollout.PartialAsync

open Lib Rollout List

def annotateSubmittedSample (rolloutId : Int) (groupId : Nat) (sample : Sample) : Sample :=
  { sample with
    metadata :=
      { sample.metadata with
        startRolloutId := some (sample.metadata.startRolloutId.getD rolloutId)
        asyncGroupId := some groupId
        partialRollout := true } }

def annotateReturnedSample (rolloutId : Int) (groupId : Nat) (sample : Sample) : Sample :=
  { sample with
    metadata :=
      { sample.metadata with
        returnRolloutId := some rolloutId
        returnAsyncGroupId := some groupId
        partialRolloutReturned := true } }

def annotateSubmittedGroup (rolloutId : Int) (groupId : Nat) (group : Group) : Group :=
  group.map (annotateSubmittedSample rolloutId groupId)

def annotateReturnedGroup (rolloutId : Int) (groupId : Nat) (group : Group) : Group :=
  group.map (annotateReturnedSample rolloutId groupId)

def marking : Marking :=
  { submitted := annotateSubmittedGroup
    returned := annotateReturnedGroup
    sameVersions := fun rolloutId groupId =>
      @trajectoryVersionInfos_map (annotateReturnedSample rolloutId groupId) (fun _ _ _ => rfl) }

def stopWorker (machine : Machine) : Machine :=
  { machine with
    worker :=
      { machine.worker with
        running := false
        outputQueue := [] } }

def returnCompletedGroup (machine : Machine) (call : Call) (entry : Nat × CompletedGroup) :
    Machine :=
  match machine.worker.putCompleted entry.2 with
  | none => machine
  | some worker =>
    { machine with
      worker := worker
      call := some { call with completedById := call.completedById.pop entry.1 } }

def settle (machine : Machine) (call : Call) : Machine :=
  if call.rules.drainFinalWorker then
    (stopWorker machine).finishCall { call with completedById := OrderedDict.empty }
  else
    match call.completedById.entries with
    | [] => machine.finishCall call
    | entry :: _ => returnCompletedGroup machine call entry

def step (machine : Machine) (event : Event) : Machine := machine.step marking settle event

/-- The final rollout is announced when a call begins. -/
def NonFinal (event : Event) : Prop :=
  ∀ rules, event = .begin rules → rules.drainFinalWorker = false

variable (machine : Machine)

private theorem settle_failures (call : Call) :
    machine.failures <+: (settle machine call).failures := by
  unfold settle
  split
  · exact finishCall_failures (stopWorker machine) _
  · split
    · exact finishCall_failures machine call
    · unfold returnCompletedGroup
      split <;> exact prefix_refl _

private theorem returnCompletedGroup_tracked {machine : Machine} (tracked : machine.Tracked marking)
    {call : Call} (current : machine.call = some call) (full : call.collecting = false)
    {entry : Nat × CompletedGroup} (member : entry ∈ call.completedById.entries)
    (found : call.completedById.get? entry.1 = some entry.2) :
    (returnCompletedGroup machine call entry).Tracked marking := by
  have sound := tracked.collected call current
  obtain ⟨known, sameId⟩ := sound.held entry member
  unfold returnCompletedGroup
  simp only [Worker.putCompleted, tracked.running]
  by_cases room : machine.worker.hasRoom = true
  · simp only [if_pos room]
    refine
      { tracked with
        running := rfl
        held := ?_
        queued := forall_snoc tracked.queued known
        collected := ?_
        walked := ?_ }
    · have held := tracked.held
      have popped := OrderedDict.perm_keys_pop found
      rw [current] at held
      rw [perm_iff_count] at held popped ⊢
      intro id
      have before := held id
      have keys := popped id
      simp only [completedIds, queueIds, callIds, map_append, map_cons, map_nil,
        sameId, count_append, count_cons, count_nil] at before keys ⊢
      omega
    · intro next same
      cases same
      exact
        { sound with
          held := fun other inPopped => sound.held other (OrderedDict.mem_entries_pop inPopped) }
    · intro next same collecting
      cases same
      exact absurd (full.symm.trans collecting) Bool.false_ne_true
  · simp only [if_neg room]
    exact tracked

private theorem settle_tracked {machine : Machine} (tracked : machine.Tracked marking) {call : Call}
    (current : machine.call = some call) (full : call.collecting = false)
    (nonFinal : call.rules.drainFinalWorker = false)
    (returns : (settle machine call).failures = machine.failures) :
    (settle machine call).Tracked marking := by
  unfold settle at returns ⊢
  rw [nonFinal, if_neg Bool.false_ne_true] at returns ⊢
  cases left : call.completedById.entries with
  | nil =>
    rw [left] at returns
    exact finishCall_tracked tracked current left returns
  | cons entry rest =>
    have member : entry ∈ call.completedById.entries := by
      rw [left]
      exact mem_cons_self
    have found : call.completedById.get? entry.1 = some entry.2 := by
      unfold OrderedDict.get?
      rw [left, OrderedDict.lookup, if_pos rfl]
    exact returnCompletedGroup_tracked tracked current full member found

private def Good (machine : Machine) : Prop :=
  machine.failures = [] → machine.Tracked marking ∧
    ∀ call, machine.call = some call → call.rules.drainFinalWorker = false

private theorem settle_rules (call next : Call) (same : machine.call = some call)
    (current : (settle machine call).call = some next) :
    next.rules = call.rules := by
  unfold settle at current
  split at current
  · rw [finishCall_call] at current
    cases current
  · split at current
    · rw [finishCall_call] at current
      cases current
    · unfold returnCompletedGroup at current
      split at current
      · rw [same] at current
        cases current
        rfl
      · cases current
        rfl

private theorem good_step (event : Event) (good : Good machine) (nonFinal : NonFinal event) :
    Good (step machine event) := by
  intro returns
  obtain ⟨returned, sameFailures⟩ := step_returns settle_failures returns
  obtain ⟨tracked, nonFinalCall⟩ := good returned
  constructor
  · refine step_tracked tracked settle event ?_ sameFailures
    intro call current full settled
    exact settle_tracked tracked current full (nonFinalCall call current) settled
  · intro call current
    rcases step_rules settle_rules current with ⟨before, same, rules⟩ | ⟨rules, begun, same⟩
    · rw [rules]
      exact nonFinalCall before same
    · rw [same]
      exact nonFinal rules begun

/-- Over every run of non-final calls that return, whatever the completion order,
each completed group has exactly one fate between calls. -/
theorem partial_async_conserves (queueSize highWatermark maxActiveGroups : Nat)
    (keepVersions : Option Nat) (events : List Event)
    (nonFinal : ∀ event ∈ events, NonFinal event)
    (returns : (Runs.run step (Machine.initial queueSize highWatermark maxActiveGroups
      keepVersions) events).failures = [])
    (idle : (Runs.run step (Machine.initial queueSize highWatermark maxActiveGroups
      keepVersions) events).call = none) :
    Conserved marking (Runs.run step (Machine.initial queueSize highWatermark maxActiveGroups
      keepVersions) events) := by
  have initially : Good (Machine.initial queueSize highWatermark maxActiveGroups keepVersions) := by
    intro _returns
    refine ⟨initial_tracked marking queueSize highWatermark maxActiveGroups keepVersions, ?_⟩
    intro call impossible
    cases impossible
  have good := Runs.run_invariant_of_forall good_step initially nonFinal
  exact (good returns).1.conserved idle

def oneGroupRules : Rules :=
  { target := 1
    maxRetries := 2
    maxDroppedFailedGroups := 100
    rolloutId := 0
    allowEmptyTrainBatch := false
    drainFinalWorker := false }

def secondGroupKeptRun : List Event :=
  [ .dispatch (some [trainableSample 0]),
    .dispatch (some [trainableSample 1]),
    .finish 0 (.ok [trainableSample 0]),
    .finish 1 (.ok [trainableSample 1]),
    .begin oneGroupRules,
    .pass,
    .settle,
    .settle ]

theorem partial_async_conserves_two :
    queueIds (Runs.run step (Machine.initial 1000 800 16 none) secondGroupKeptRun) = [1] ∧
      Conserved marking (Runs.run step (Machine.initial 1000 800 16 none) secondGroupKeptRun) := by
  refine ⟨rfl, partial_async_conserves 1000 800 16 none secondGroupKeptRun ?_ rfl rfl⟩
  intro event member rules begun
  rw [begun] at member
  simp only [secondGroupKeptRun, mem_cons, reduceCtorEq, false_or, or_false,
    Event.begin.injEq, not_mem_nil] at member
  rw [member]
  rfl

end Dressage.Rollout.PartialAsync

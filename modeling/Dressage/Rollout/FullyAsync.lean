/-
The fully asynchronous rollout.

A call drains the worker's queue into a local dictionary and stops walking it
once the batch is full. The dictionary dies with the call, so whatever was
drained and not walked is gone; only a batch that fills at its very last
drained group leaves nothing behind.
-/

import Dressage.Rollout.Conservation

namespace Dressage.Rollout.FullyAsync

open Lib Rollout List

def marking : Marking :=
  { submitted := fun _ _ group => group
    returned := fun _ _ group => group
    sameVersions := fun _ _ _ => rfl }

/-- The code after the collection loop of `generate_rollout_async`: it returns, and
`completed_by_id` goes out of scope. -/
def settle (machine : Machine) (call : Call) : Machine := machine.finishCall call

def step (machine : Machine) (event : Event) : Machine := machine.step marking settle event

def acceptable (tracker : StalenessTracker) (completed : CompletedGroup) : Bool :=
  !completed.isFailed && decide (tracker.keepGroup (completed.result.getD []) = some true)

/-- The batch cannot fill before the last drained group: what is pending after the
version window moved, plus the acceptable groups before the last, is under target. -/
def FillsLast (machine : Machine) (call : Call) : Prop :=
  let observed := observeCompleted machine.worker.staleness machine.worker.outputQueue
  ∀ refreshed, refreshPending observed call.data = some refreshed →
    ((refreshed.1.length + machine.worker.outputQueue.dropLast.countP (acceptable observed.1) :
      Nat) : Int) < call.rules.target

def Spares (machine : Machine) (event : Event) : Prop :=
  event = .pass → ∀ call, machine.call = some call → call.collecting = true → FillsLast machine call

def pairOf (completed : CompletedGroup) : Nat × CompletedGroup := (completed.groupId, completed)

private theorem pop_head {dict : OrderedDict Nat CompletedGroup} {head : CompletedGroup}
    {rest : List CompletedGroup} (entries : dict.entries = (head :: rest).map pairOf) :
    dict.get? head.groupId = some head ∧ (dict.pop head.groupId).entries = rest.map pairOf := by
  have once := dict.distinct
  rw [entries, map_cons, map_cons, nodup_cons] at once
  constructor
  · unfold OrderedDict.get?
    rw [entries, map_cons, pairOf, OrderedDict.lookup, if_pos rfl]
  · change dict.entries.filter (fun entry => entry.1 ≠ head.groupId) = _
    rw [entries, map_cons, filter_cons_of_neg (by simp [pairOf]), filter_eq_self]
    intro entry member
    simp only [decide_eq_true_eq]
    intro same
    apply once.1
    change head.groupId ∈ _
    rw [← same]
    exact mem_map_of_mem member

section Consume

variable {rules : Rules} {tracker : StalenessTracker}

private theorem consumeOne_length {groupId : Nat} {completed : CompletedGroup}
    {state next : Collection}
    (ok : consumeOne marking rules tracker groupId completed state = .ok next) :
    next.data.length =
      state.data.length + if acceptable tracker completed = true then 1 else 0 := by
  unfold acceptable
  obtain ⟨failed, rfl⟩ | ⟨failed, _, rfl⟩ | ⟨passed, dropped, rfl⟩ | ⟨passed, kept, rfl⟩ :=
    consumeOne_cases ok
  · simp [failed]
  · simp [failed]
  · simp [passed, dropped]
  · simp [passed, kept]

private theorem consume_all {groups : List CompletedGroup} {state next : Collection}
    (entries : state.completedById.entries = groups.map pairOf)
    (roomy : ((state.data.length + groups.dropLast.countP (acceptable tracker) : Nat) : Int) <
      rules.target)
    (ok : consume marking rules tracker (groups.map CompletedGroup.groupId) state = .ok next) :
    next.completedById.entries = [] := by
  induction groups generalizing state with
  | nil =>
    cases ok
    exact entries
  | cons head rest ih =>
    obtain ⟨found, popped⟩ := pop_head entries
    rcases consume_cons ok with ⟨full, _⟩ | ⟨completed, middle, _room, got, one, later⟩
    · omega
    · rw [found, Option.some_inj] at got
      subst completed
      have entriesLater : middle.completedById.entries = rest.map pairOf := by
        rw [consumeOne_completedById one]
        exact popped
      cases rest with
      | nil =>
        cases later
        exact entriesLater
      | cons second others =>
        refine ih entriesLater ?_ later
        have grown := consumeOne_length one
        change middle.data.length = state.data.length + _ at grown
        rw [dropLast_cons_cons, countP_cons] at roomy
        omega

end Consume

variable {machine : Machine}

theorem pass_empties (tracked : machine.Tracked marking) {call : Call}
    (empty : call.completedById.entries = []) (fillsLast : FillsLast machine call)
    {collection : Collection}
    (ok : collectPass marking call.rules machine.worker.staleness machine.worker.outputQueue
      (machine.collection call) = .ok collection) :
    collection.completedById.entries = [] := by
  obtain ⟨data, dropped, refreshed, walked⟩ := collectPass_cases ok
  have noKeys : call.completedById.keys = [] := by
    unfold OrderedDict.keys
    rw [empty]
    rfl
  have distinct : (call.completedById.keys ++ queueIds machine).Nodup := by
    have completedOnce : (completedIds machine).Nodup := tracked.issuedOnce.of_append_right
    rw [noKeys]
    exact ((tracked.held.nodup_iff.mp completedOnce).of_append_left).of_append_left
  have keys : (loadCompleted (machine.collection call).completedById
      machine.worker.outputQueue).keys =
      machine.worker.outputQueue.map CompletedGroup.groupId := by
    change (loadCompleted call.completedById machine.worker.outputQueue).keys = _
    rw [loadCompleted_keys distinct, noKeys, nil_append]
  rw [keys] at walked
  refine consume_all ?_ (fillsLast _ refreshed) walked
  change (loadCompleted call.completedById machine.worker.outputQueue).entries = _
  rw [loadCompleted_entries distinct, empty, nil_append]
  rfl

private def Good (machine : Machine) : Prop :=
  machine.failures = [] → machine.Tracked marking ∧
    ∀ call, machine.call = some call → call.completedById.entries = []

private theorem step_empties {machine : Machine} {event : Event}
    (tracked : machine.Tracked marking)
    (emptied : ∀ call, machine.call = some call → call.completedById.entries = [])
    (spares : Spares machine event) {next : Call}
    (current : (step machine event).call = some next) : next.completedById.entries = [] := by
  cases event with
  | prefetch group => exact emptied next current
  | dispatch fresh =>
    rw [step, Machine.step, dispatch_call] at current
    exact emptied next current
  | finish groupId outcome =>
    rw [step, Machine.step, finish_call] at current
    exact emptied next current
  | begin rules =>
    simp only [step, Machine.step, Machine.begin] at current
    split at current
    · exact emptied next current
    · cases current
      rfl
  | pass =>
    simp only [step, Machine.step] at current
    split at current
    · exact emptied next current
    · rename_i call same
      split at current
      · rename_i collecting
        unfold Machine.pass at current
        split at current
        · cases current
        · rename_i collection ok
          cases current
          exact pass_empties tracked (emptied call same) (spares rfl call same collecting) ok
      · exact emptied next current
  | settle =>
    simp only [step, Machine.step] at current
    split at current
    · exact emptied next current
    · rename_i call same
      split at current
      · exact emptied next current
      · rw [settle, finishCall_call] at current
        cases current

private theorem good_step (machine : Machine) (event : Event) (good : Good machine)
    (spares : Spares machine event) : Good (step machine event) := by
  intro returns
  obtain ⟨returned, sameFailures⟩ := step_returns finishCall_failures returns
  obtain ⟨tracked, emptied⟩ := good returned
  constructor
  · refine step_tracked tracked settle event ?_ sameFailures
    intro call current _full settled
    exact finishCall_tracked tracked current (emptied call current) settled
  · intro next current
    exact step_empties tracked emptied spares current

/-- Over every run of returning calls in which each pass can fill its batch only at
the last group it drained, each completed group has exactly one fate between calls. -/
theorem fully_async_conserves (queueSize highWatermark maxActiveGroups : Nat)
    (keepVersions : Option Nat) (events : List Event)
    (spares : Runs.Admits step Spares (Machine.initial queueSize highWatermark maxActiveGroups
      keepVersions) events)
    (returns : (Runs.run step (Machine.initial queueSize highWatermark maxActiveGroups
      keepVersions) events).failures = [])
    (idle : (Runs.run step (Machine.initial queueSize highWatermark maxActiveGroups
      keepVersions) events).call = none) :
    Conserved marking (Runs.run step (Machine.initial queueSize highWatermark maxActiveGroups
      keepVersions) events) := by
  have initially : Good (Machine.initial queueSize highWatermark maxActiveGroups keepVersions) := by
    intro _returns
    refine ⟨initial_tracked marking queueSize highWatermark maxActiveGroups keepVersions, ?_⟩
    intro call impossible
    cases impossible
  have good := Runs.run_invariant good_step initially spares
  exact (good returns).1.conserved idle

def oneGroupRules : Rules :=
  { target := 1
    maxRetries := 2
    maxDroppedFailedGroups := 100
    rolloutId := 0
    allowEmptyTrainBatch := false
    drainFinalWorker := false }

def twoGroupRules : Rules := { oneGroupRules with target := 2 }

/-- One call returns two groups that finish one after the other, the next call a third one. -/
def twoCallsRun : List Event :=
  [ .dispatch (some [trainableSample 0]),
    .dispatch (some [trainableSample 1]),
    .finish 0 (.ok [trainableSample 0]),
    .begin twoGroupRules,
    .pass,
    .dispatch (some [trainableSample 2]),
    .finish 1 (.ok [trainableSample 1]),
    .pass,
    .settle,
    .finish 2 (.ok [trainableSample 2]),
    .begin oneGroupRules,
    .pass,
    .settle ]

theorem two_calls_conserved :
    Runs.Admits step Spares (Machine.initial 1000 800 16 none) twoCallsRun ∧
      Conserved marking (Runs.run step (Machine.initial 1000 800 16 none) twoCallsRun) := by
  have quiet {machine : Machine} {event : Event} (other : event ≠ .pass) :
      Spares machine event := by
    intro pass
    exact absurd pass other
  have spares : Runs.Admits step Spares (Machine.initial 1000 800 16 none) twoCallsRun := by
    refine ⟨quiet nofun, quiet nofun, quiet nofun, quiet nofun, ?_, quiet nofun, quiet nofun, ?_,
      quiet nofun, quiet nofun, quiet nofun, ?_, quiet nofun, trivial⟩
    all_goals
      intro _pass call current _collecting refreshed filtered
      cases current
      cases filtered
      decide
  exact ⟨spares, fully_async_conserves 1000 800 16 none twoCallsRun spares rfl rfl⟩

def secondGroupLostRun : List Event :=
  [ .dispatch (some [trainableSample 0]),
    .dispatch (some [trainableSample 1]),
    .finish 0 (.ok [trainableSample 0]),
    .finish 1 (.ok [trainableSample 1]),
    .begin oneGroupRules,
    .pass,
    .settle ]

theorem second_group_lost :
    (Runs.run step (Machine.initial 1000 800 16 none) secondGroupLostRun).failures = [] ∧
      (Runs.run step (Machine.initial 1000 800 16 none) secondGroupLostRun).call = none ∧
      ¬ Conserved marking
        (Runs.run step (Machine.initial 1000 800 16 none) secondGroupLostRun) := by
  refine ⟨rfl, rfl, ?_⟩
  intro conserved
  have lengths := conserved.oneFate.length_eq
  revert lengths
  decide

structure Bounded (worker : Worker) : Prop where
  queued : worker.queueSize = 0 ∨ worker.outputQueue.length ≤ worker.queueSize
  running : worker.active.length ≤ worker.maxActiveGroups
  held : worker.outputQueue.length + worker.active.length ≤
    worker.highWatermark - 1 + worker.maxActiveGroups

private theorem finishCall_worker (machine : Machine) (call : Call) :
    (machine.finishCall call).worker = machine.worker := by
  unfold Machine.finishCall Machine.fail
  split
  · rfl
  · split <;> rfl

private theorem Bounded.drained (bounded : Bounded machine.worker) :
    Bounded machine.drained.worker := by
  refine { bounded with queued := .inr (Nat.zero_le _), held := ?_ }
  change 0 + machine.worker.active.length ≤ _
  exact (Nat.add_le_add_right (Nat.zero_le _) _).trans bounded.held

private theorem Bounded.start {worker : Worker} (bounded : Bounded worker)
    (free : worker.active.length < worker.maxActiveGroups)
    (below : worker.outputQueue.length < worker.highWatermark) (entry : Nat × Group) :
    Bounded { worker with active := worker.active ++ [entry] } := by
  refine { bounded with running := ?_, held := ?_ }
  · rw [length_append]
    exact free
  · simp only [length_append, length_singleton]
    omega

private theorem Bounded.dispatch (bounded : Bounded machine.worker) (fresh : Option Group) :
    Bounded (machine.dispatch marking fresh).worker := by
  unfold Machine.dispatch
  simp only
  split
  · rename_i room
    have started := bounded.start room.2.1 room.2.2
    split
    · exact { started _ with }
    · exact { started _ with }
    · exact bounded
  · exact bounded

private theorem Bounded.finish (bounded : Bounded machine.worker) (groupId : Nat)
    (outcome : Except String Group) :
    Bounded (machine.finish groupId outcome).worker := by
  obtain ⟨queued, running, held⟩ := bounded
  unfold Machine.finish
  split
  · exact ⟨queued, running, held⟩
  · rename_i entry found
    have fewer : (machine.worker.active.filter (fun other => other.1 ≠ groupId)).length <
        machine.worker.active.length :=
      length_filter_lt_length_iff_exists.mpr
        ⟨entry, mem_of_find?_eq_some found, by simpa using find?_some found⟩
    split
    · exact ⟨queued, running, held⟩
    · rename_i worker put
      unfold Worker.putCompleted Worker.hasRoom at put
      split at put
      · rename_i room
        cases put
        simp only [Bool.or_eq_true, decide_eq_true_eq] at room
        constructor
        · simp only [length_append, length_singleton]
          omega
        · exact fewer.le.trans running
        · simp only [length_append, length_singleton]
          omega
      · split at put
        · cases put
        · cases put
          exact ⟨queued, fewer.le.trans running, (Nat.add_le_add_left fewer.le _).trans held⟩

/-- Over every run the worker's groups stay within its limits, even with an unbounded
queue: finished and running groups together stay under the watermark's budget. -/
theorem worker_stays_bounded (queueSize highWatermark maxActiveGroups : Nat)
    (keepVersions : Option Nat) (events : List Event) :
    Bounded (Runs.run step (Machine.initial queueSize highWatermark maxActiveGroups
      keepVersions) events).worker := by
  refine @Runs.run_preserves _ _ step (fun machine => Bounded machine.worker) ?_ _
    ⟨.inr (Nat.zero_le _), Nat.zero_le _, Nat.zero_le _⟩ events
  intro machine event bounded
  cases event with
  | prefetch group => exact { bounded with }
  | dispatch fresh => exact bounded.dispatch fresh
  | finish groupId outcome => exact bounded.finish groupId outcome
  | begin rules =>
    unfold step Machine.step Machine.begin
    simp only
    split
    · exact bounded
    · exact { bounded with }
  | pass =>
    unfold step Machine.step Machine.pass
    simp only
    split
    · exact bounded
    · split
      · split <;> exact bounded.drained
      · exact bounded
  | settle =>
    unfold step Machine.step settle
    simp only
    split
    · exact bounded
    · split
      · exact bounded
      · rw [finishCall_worker]
        exact bounded

end Dressage.Rollout.FullyAsync

/-
Starts that do not overlap.

A reset stops the process of its slot under the slot's lock and then starts the next one. A start
of `start_pool` does neither. While `start_pool` picks only slots without a process that nobody
works on, and no reset works on a slot that is being started, one task at a time writes the
field of a slot, and it finds there what it left.
-/

import Dressage.Sandbox.ServerCustody

namespace Dressage.Sandbox.Servers

open Lib List Option

/-- The task may yet write the process field of an open supervisor's slot. -/
def SlotTask.isWorking (task : SlotTask) : Bool :=
  match task.kind, task.phase with
  | .start, .queued => true
  | _, .stopping => true
  | _, .launching _ => true
  | _, .checking => true
  | _, _ => false

namespace Supervisor

def startUnderWay (state : Supervisor) (slotId : Nat) : Bool :=
  state.tasks.any fun task =>
    decide (task.slotId = slotId ∧ task.kind = .start ∧ task.phase ≠ .done)

/-- The slot of a reset that is waiting for the lock and is not stale. -/
def freshReset (state : Supervisor) (task : Nat) : Option Nat :=
  match state.tasks[task]? with
  | some { slotId, kind := .reset expectedGeneration, phase := .queued } =>
    if (state.slots[slotId]?).any (fun slot => !slot.isStale expectedGeneration) then some slotId
    else none
  | _ => none

/-- `start_pool` finds no process, no unfinished start and no holder of the lock at the slots that
it picks, and a reset that is not stale finds no unfinished start. -/
def Orderly (state : Supervisor) : Action → Prop
  | .startPool => state.closed = false → ∀ slotId < state.slots.length,
    (state.slots[slotId]?).any SlotRuntime.isStartable = true →
      state.processOf slotId = none ∧ state.startUnderWay slotId = false ∧
        state.lockFree slotId = true
  | .beginTask task _ => state.closed = false →
    ∀ slotId ∈ state.freshReset task, state.startUnderWay slotId = false
  | _ => True

instance decidableOrderly (state : Supervisor) : (action : Action) →
    Decidable (Orderly state action)
  | .startPool => inferInstanceAs (Decidable (_ → ∀ slotId < _, _ → _))
  | .beginTask _ _ => inferInstanceAs (Decidable (_ → ∀ slotId ∈ _, _))
  | .acquire _ | .release _ _ | .forceRelease _ _ | .restartSlot _ | .endLaunch _ _
  | .endCheck _ _ | .endStop _ _ _ _ | .shutdown | .probe _ | .answer _ =>
    inferInstanceAs (Decidable True)

def Meets (state : Supervisor) (task : SlotTask) : Prop :=
  match task.kind, task.phase with
  | .start, .queued => state.closed = false → state.processOf task.slotId = none
  | _, .stopping => state.Released task.slotId
  | _, .launching generation => state.processOf task.slotId = none ∧
    (state.closed = false → ∀ slot, state.slots[task.slotId]? = some slot →
      slot.generation ≤ generation)
  | _, .checking => state.closed = false → state.ServesCurrent task.slotId
  | _, _ => True

def Alone (tasks : List SlotTask) : Prop :=
  ∀ (first second : Nat) (one other : SlotTask), tasks[first]? = some one →
    tasks[second]? = some other → one.slotId = other.slotId → one.isWorking = true →
      other.isWorking = true → first = second

structure Apart (state : Supervisor) : Prop where
  alone : Alone state.tasks
  meets : ∀ task ∈ state.tasks, Meets state task

/-- What a step leaves of a slot that it does not start or serve. -/
structure Quiet (before after : Supervisor) (slotId : Nat) : Prop where
  closed : after.closed = false → before.closed = false
  process : after.processOf slotId = before.processOf slotId ∨ after.processOf slotId = none
  generation : ∀ slot, after.slots[slotId]? = some slot →
    ∃ old, before.slots[slotId]? = some old ∧ slot.generation = old.generation
  stopped : ∀ process, before.IsStopped process → after.IsStopped process
  entries : ∀ process entry, before.processOf slotId = some process →
    after.processes[process]? = some entry → before.processes[process]? = some entry

variable {state after : Supervisor} {slotId task : Nat} {entry : SlotTask} {phase : TaskPhase}
variable {change : SlotRuntime → SlotRuntime}

theorem done_not_working (entry : SlotTask) :
    ({ entry with phase := .done } : SlotTask).isWorking = false := by
  cases entry with
  | mk _ kind _ => cases kind <;> rfl

theorem meets_of_not_working (idle : entry.isWorking = false) : Meets state entry := by
  unfold SlotTask.isWorking at idle
  unfold Meets
  split at idle <;> simp_all

theorem meets_launching (entry : SlotTask) {generation : Nat} :
    Meets state { entry with phase := .launching generation } ↔
      state.processOf entry.slotId = none ∧
        (state.closed = false → ∀ slot, state.slots[entry.slotId]? = some slot →
          slot.generation ≤ generation) := by
  cases entry with
  | mk _ kind _ => cases kind <;> rfl

theorem Released.quiet (released : state.Released slotId) (quiet : Quiet state after slotId) :
    after.Released slotId := by
  intro process inField
  rcases quiet.process with same | none
  · exact quiet.stopped process (released process (same ▸ inField))
  · rw [none] at inField
    cases inField

theorem ServesCurrent.quiet (serves : state.ServesCurrent slotId)
    (quiet : Quiet state after slotId) : after.ServesCurrent slotId := by
  intro process entry slot inField found atSlot
  rcases quiet.process with same | none
  · obtain ⟨old, atOld, generation⟩ := quiet.generation slot atSlot
    rw [same] at inField
    rw [generation]
    exact (serves process entry old inField (quiet.entries process entry inField found)
      atOld).imp_left (quiet.stopped process)
  · rw [none] at inField
    cases inField

theorem Meets.quiet (meets : Meets state entry) (quiet : Quiet state after entry.slotId) :
    Meets after entry := by
  have none : state.processOf entry.slotId = none → after.processOf entry.slotId = none := by
    intro wasNone
    rcases quiet.process with same | gone
    · rw [same, wasNone]
    · exact gone
  unfold Meets at meets ⊢
  split at meets
  · exact fun isOpen => none (meets (quiet.closed isOpen))
  · exact Released.quiet meets quiet
  · refine ⟨none meets.1, fun isOpen slot atSlot => ?_⟩
    obtain ⟨old, atOld, generation⟩ := quiet.generation slot atSlot
    rw [generation]
    exact meets.2 (quiet.closed isOpen) old atOld
  · exact fun isOpen => ServesCurrent.quiet (meets (quiet.closed isOpen)) quiet
  · trivial

theorem Quiet.of_updateSlot (state : Supervisor) (changed slotId : Nat)
    (apart : changed ≠ slotId ∨
      ∀ slot, ((change slot).process = slot.process ∨ (change slot).process = none) ∧
        (change slot).generation = slot.generation) :
    Quiet state (state.updateSlot changed change) slotId := by
  refine ⟨id, ?_, ?_, fun _ => id, fun _ _ _ => id⟩
  · rw [processOf_modify]
    by_cases here : changed = slotId
    · have keeps := apart.resolve_left (fun differs => differs here)
      rw [if_pos here]
      unfold processOf
      cases state.slots[slotId]? with
      | none => exact .inl rfl
      | some slot => exact (keeps slot).1
    · exact .inl (if_neg here)
  · intro slot atSlot
    change (state.slots.modify changed change)[slotId]? = some slot at atSlot
    rw [getElem?_modify] at atSlot
    obtain ⟨old, atOld, rfl⟩ := map_eq_some_iff.mp atSlot
    refine ⟨old, atOld, ?_⟩
    by_cases here : changed = slotId
    · rw [if_pos here]
      exact (apart.resolve_left (fun differs => differs here) old).2
    · rw [if_neg here]

theorem Quiet.refl (state : Supervisor) (slotId : Nat) : Quiet state state slotId :=
  ⟨id, .inl rfl, fun slot atSlot => ⟨slot, atSlot, rfl⟩, fun _ => id, fun _ _ _ => id⟩

theorem Quiet.trans {middle : Supervisor} (first : Quiet state middle slotId)
    (second : Quiet middle after slotId)
    (kept : middle.processOf slotId = state.processOf slotId) : Quiet state after slotId := by
  refine ⟨fun isOpen => first.closed (second.closed isOpen), kept ▸ second.process, ?_,
    fun process stopped => second.stopped process (first.stopped process stopped), ?_⟩
  · intro slot atSlot
    obtain ⟨between, atBetween, same⟩ := second.generation slot atSlot
    obtain ⟨old, atOld, same'⟩ := first.generation between atBetween
    exact ⟨old, atOld, same.trans same'⟩
  · intro process entry inField found
    exact first.entries process entry inField (second.entries process entry (kept ▸ inField) found)

theorem Quiet.callStop (state : Supervisor) (stoppedAt slotId : Nat) :
    Quiet state (state.callStop stoppedAt) slotId := by
  obtain ⟨closed, slots, _, processes⟩ := callStop_fields state stoppedAt
  refine ⟨fun isOpen => closed ▸ isOpen, .inl ?_, ?_, ?_, ?_⟩
  · unfold processOf
    rw [slots]
  · intro slot atSlot
    exact ⟨slot, slots ▸ atSlot, rfl⟩
  · intro process stopped
    unfold Supervisor.callStop
    split
    · exact stopped
    · exact mem_append_left _ stopped
  · intro process entry _ found
    exact processes ▸ found

theorem released_callStop (state : Supervisor) (slotId : Nat) :
    (state.callStop slotId).Released slotId := by
  intro process inField
  have same : (state.callStop slotId).processOf slotId = state.processOf slotId := by
    unfold processOf
    rw [(callStop_fields state slotId).2.1]
  rw [same] at inField
  unfold IsStopped Supervisor.callStop
  rw [inField]
  exact mem_append_right _ (mem_singleton_self process)

theorem idle_of_free (noStart : state.startUnderWay slotId = false)
    (free : state.lockFree slotId = true) {other : SlotTask} (member : other ∈ state.tasks)
    (here : other.slotId = slotId) : other.isWorking = false := by
  have notStart := List.any_eq_false.mp noStart other member
  have unlocked := List.all_eq_true.mp free other member
  simp only [here, true_and, decide_eq_true_eq, not_and, not_not] at notStart
  simp only [here, decide_true, Bool.true_and, Bool.not_eq_true', SlotTask.holdsLock,
    decide_eq_false_iff_not, not_and, not_not] at unlocked
  unfold SlotTask.isWorking
  split <;> simp_all

section Tasks

variable (apart : Apart state)

include apart

theorem Apart.keep (tasks : after.tasks = state.tasks)
    (quiet : ∀ slotId, Quiet state after slotId) : Apart after := by
  refine ⟨tasks ▸ apart.alone, ?_⟩
  intro task member
  rw [tasks] at member
  exact (apart.meets task member).quiet (quiet task.slotId)

theorem Apart.enqueue {added : List SlotTask} (tasks : after.tasks = state.tasks ++ added)
    (quiet : ∀ slotId, Quiet state after slotId)
    (idle : ∀ task ∈ added, task.isWorking = false) : Apart after := by
  constructor
  · have old : ∀ (index : Nat) task, after.tasks[index]? = some task → task.isWorking = true →
        state.tasks[index]? = some task := by
      intro index task found working
      rw [tasks] at found
      by_cases within : index < state.tasks.length
      · rwa [getElem?_append_left within] at found
      · rw [getElem?_append_right (by omega)] at found
        rw [idle task (mem_of_getElem? found)] at working
        cases working
    intro first second one other atFirst atSecond same oneWorks otherWorks
    exact apart.alone first second one other (old first one atFirst oneWorks)
      (old second other atSecond otherWorks) same oneWorks otherWorks
  · intro task member
    rw [tasks] at member
    rcases mem_append.mp member with old | new
    · exact (apart.meets task old).quiet (quiet task.slotId)
    · exact meets_of_not_working (idle task new)

/-- A task goes on, and while it works the rest of its slot's tasks do not. -/
theorem Apart.advance (phase : TaskPhase) (found : state.tasks[task]? = some entry)
    (tasks : after.tasks = state.tasks.modify task (fun current => { current with phase := phase }))
    (quiet : ∀ slotId, slotId ≠ entry.slotId ∨ entry.isWorking = false → Quiet state after slotId)
    (free : ({ entry with phase := phase } : SlotTask).isWorking = true →
      entry.isWorking = true ∨
        ∀ other ∈ state.tasks, other.slotId = entry.slotId → other.isWorking = false)
    (meets : Meets after { entry with phase := phase }) : Apart after := by
  have lookup : ∀ (index : Nat) current, after.tasks[index]? = some current →
      index = task ∧ current = { entry with phase := phase } ∨
        index ≠ task ∧ state.tasks[index]? = some current := by
    intro index current isCurrent
    rw [tasks, getElem?_modify] at isCurrent
    obtain ⟨old, atOld, rfl⟩ := map_eq_some_iff.mp isCurrent
    by_cases here : task = index
    · subst here
      rw [found, some_inj] at atOld
      subst atOld
      exact .inl ⟨rfl, if_pos rfl⟩
    · rw [if_neg here]
      exact .inr ⟨fun same => here same.symm, atOld⟩
  have others : ({ entry with phase := phase } : SlotTask).isWorking = true →
      ∀ (index : Nat) other, index ≠ task → state.tasks[index]? = some other →
        other.slotId = entry.slotId → other.isWorking = false := by
    intro works index other differs isOther same
    rcases free works with working | idle
    · by_contra busy
      exact differs (apart.alone index task other entry isOther found same
        (Bool.not_eq_false _ ▸ busy) working)
    · exact idle other (mem_of_getElem? isOther) same
  constructor
  · intro first second one other atFirst atSecond same oneWorks otherWorks
    rcases lookup first one atFirst with ⟨rfl, rfl⟩ | ⟨firstOld, wasOne⟩
    · rcases lookup second other atSecond with ⟨rfl, _⟩ | ⟨secondOld, wasOther⟩
      · rfl
      · rw [others oneWorks second other secondOld wasOther same.symm] at otherWorks
        cases otherWorks
    · rcases lookup second other atSecond with ⟨rfl, rfl⟩ | ⟨_, wasOther⟩
      · rw [others otherWorks first one firstOld wasOne same] at oneWorks
        cases oneWorks
      · exact apart.alone first second one other wasOne wasOther same oneWorks otherWorks
  · intro current member
    obtain ⟨index, isCurrent⟩ := mem_iff_getElem?.mp member
    rcases lookup index current isCurrent with ⟨_, rfl⟩ | ⟨differs, wasCurrent⟩
    · exact meets
    · by_cases here : current.slotId = entry.slotId
      · cases working : entry.isWorking with
        | false =>
          exact (apart.meets current (mem_of_getElem? wasCurrent)).quiet (quiet _ (.inr working))
        | true =>
          apply meets_of_not_working
          by_contra busy
          exact differs (apart.alone index task current entry wasCurrent found here
            (Bool.not_eq_false _ ▸ busy) working)
      · exact (apart.meets current (mem_of_getElem? wasCurrent)).quiet (quiet _ (.inl here))

theorem Apart.relabel (changed : Nat)
    (keeps : ∀ slot, (change slot).process = slot.process ∧
      (change slot).generation = slot.generation) : Apart (state.updateSlot changed change) :=
  apart.keep rfl fun slotId => Quiet.of_updateSlot state changed slotId
    (.inr fun slot => ⟨.inl (keeps slot).1, (keeps slot).2⟩)

theorem Apart.schedule (slotId : Nat) {kind : TaskKind} (notStart : kind ≠ .start) :
    Apart (state.schedule slotId kind) := by
  refine apart.enqueue rfl (fun slotId => { Quiet.refl state slotId with }) fun task member => ?_
  rw [mem_singleton.mp member]
  cases kind with
  | start => exact absurd rfl notStart
  | reset _ | shutdown _ => rfl

theorem Apart.scheduleReset (slotId : Nat) (expectedGeneration : Option Nat) :
    Apart (state.scheduleReset slotId expectedGeneration) := by
  unfold Supervisor.scheduleReset
  split
  · exact apart
  · exact apart.schedule slotId nofun

theorem Apart.acquire (trajectoryId : String) : Apart (state.acquire trajectoryId) := by
  unfold Supervisor.acquire
  split
  · exact apart
  · split
    · exact apart
    · split
      · exact apart
      · have next : Apart { state with nextSerial := state.nextSerial + 1 } :=
          apart.keep rfl fun slotId => { Quiet.refl state slotId with }
        exact next.relabel _ fun _ => ⟨rfl, rfl⟩

theorem Apart.release (leaseId : Option LeaseId) (trajectoryId : Option String) :
    Apart (state.release leaseId trajectoryId) := by
  unfold Supervisor.release
  split
  · exact apart
  · split
    · exact apart.relabel _ fun _ => ⟨rfl, rfl⟩
    · refine Apart.scheduleReset ?_ _ _
      exact apart.relabel _ fun _ => ⟨rfl, rfl⟩

theorem Apart.restartSlot (slotId : Nat) : Apart (state.restartSlot slotId) := by
  unfold Supervisor.restartSlot
  split
  · exact apart
  · split
    · exact apart
    · refine Apart.schedule ?_ _ nofun
      exact apart.relabel _ fun _ => ⟨rfl, rfl⟩

theorem Apart.answer (healthy : Bool) : Apart (state.answer healthy) := by
  unfold Supervisor.answer
  split
  · exact apart
  · have answered : Apart { state with probed := none } :=
      apart.keep rfl fun slotId => { Quiet.refl state slotId with }
    simp only
    split
    · exact answered
    · split
      · exact answered
      · split
        · exact answered.relabel _ fun _ => ⟨rfl, rfl⟩
        · refine Apart.scheduleReset ?_ _ _
          exact answered.relabel _ fun _ => ⟨rfl, rfl⟩

theorem Apart.shutdown : Apart state.shutdown := by
  refine apart.enqueue rfl (fun slotId => ?_) fun task member => ?_
  · exact { Quiet.refl state slotId with closed := nofun }
  · obtain ⟨_, _, rfl⟩ := List.mem_map.mp member
    rfl

theorem Apart.startPool (orderly : Orderly state .startPool) : Apart state.startPool := by
  unfold Supervisor.startPool
  split
  · exact apart
  · next isOpen =>
      rw [Bool.not_eq_true] at isOpen
      set picked := (List.range state.slots.length).filter (fun slotId =>
        (state.slots[slotId]?).any SlotRuntime.isStartable)
      have free : ∀ slotId ∈ picked, state.processOf slotId = none ∧
          ∀ other ∈ state.tasks, other.slotId = slotId → other.isWorking = false := by
        intro slotId chosen
        have startable := (mem_filter.mp chosen).2
        have within := mem_range.mp (mem_filter.mp chosen).1
        obtain ⟨none, noStart, unlocked⟩ := orderly isOpen slotId within startable
        exact ⟨none, fun other member here => idle_of_free noStart unlocked member here⟩
      have distinct : picked.Nodup := nodup_range.filter _
      have added : ∀ (index : Nat) current,
          (state.tasks ++ picked.map (fun slotId =>
            ({ slotId := slotId, kind := .start, phase := .queued } : SlotTask)))[index]? =
              some current →
            state.tasks[index]? = some current ∨ ∃ offset slotId,
              index = state.tasks.length + offset ∧ picked[offset]? = some slotId ∧
                current = { slotId := slotId, kind := .start, phase := .queued } := by
        intro index current found
        by_cases within : index < state.tasks.length
        · rw [getElem?_append_left within] at found
          exact .inl found
        · rw [getElem?_append_right (by omega), getElem?_map] at found
          obtain ⟨slotId, atOffset, rfl⟩ := map_eq_some_iff.mp found
          exact .inr ⟨_, slotId, by omega, atOffset, rfl⟩
      constructor
      · intro first second one other atFirst atSecond same oneWorks otherWorks
        rcases added first one atFirst with wasOne | ⟨offset, slotId, rfl, isPicked, rfl⟩
        · rcases added second other atSecond with wasOther | ⟨offset, slotId, rfl, isPicked, rfl⟩
          · exact apart.alone first second one other wasOne wasOther same oneWorks otherWorks
          · rw [(free slotId (mem_of_getElem? isPicked)).2 one
              (mem_of_getElem? wasOne) same] at oneWorks
            cases oneWorks
        · rcases added second other atSecond with wasOther | ⟨offset', slotId', rfl, isPicked', rfl⟩
          · rw [(free slotId (mem_of_getElem? isPicked)).2 other
              (mem_of_getElem? wasOther) same.symm] at otherWorks
            cases otherWorks
          · simp only at same
            subst same
            have within := (List.getElem_of_getElem? isPicked).1
            rw [(getElem?_inj within distinct).mp (isPicked.trans isPicked'.symm)]
      · intro task member
        rcases mem_append.mp member with old | new
        · exact apart.meets task old
        · obtain ⟨slotId, chosen, rfl⟩ := List.mem_map.mp new
          exact fun _ => (free slotId chosen).1

section

variable (found : state.tasks[task]? = some entry)
include found

theorem Apart.settle
    (keeps : ∀ slot, ((change slot).process = slot.process ∨ (change slot).process = none) ∧
      (change slot).generation = slot.generation)
    (idle : ({ entry with phase := phase } : SlotTask).isWorking = false) :
    Apart ((state.updateSlot entry.slotId change).setPhase task phase) :=
  apart.advance phase found rfl
    (fun slotId _ => { Quiet.of_updateSlot state entry.slotId slotId (.inr keeps) with })
    (fun working => absurd working (by rw [idle]; exact Bool.false_ne_true))
    (meets_of_not_working idle)

theorem Apart.setPhase (idle : ({ entry with phase := phase } : SlotTask).isWorking = false) :
    Apart (state.setPhase task phase) :=
  apart.advance phase found rfl (fun slotId _ => { Quiet.refl state slotId with })
    (fun working => absurd working (by rw [idle]; exact Bool.false_ne_true))
    (meets_of_not_working idle)

theorem Apart.stop (idle : ({ entry with phase := phase } : SlotTask).isWorking = false) :
    Apart ((state.callStop entry.slotId).setPhase task phase) := by
  have tasks := (callStop_fields state entry.slotId).2.2.1
  refine apart.advance phase found ?_
    (fun slotId _ => { Quiet.callStop state entry.slotId slotId with })
    (fun working => absurd working (by rw [idle]; exact Bool.false_ne_true))
    (meets_of_not_working idle)
  change (state.callStop entry.slotId).tasks.modify task _ = _
  rw [tasks]

theorem Apart.startSlot (works : entry.isWorking = true) (cleared : Bool) :
    Apart (state.startSlot task entry.slotId cleared) := by
  unfold Supervisor.startSlot
  have done := done_not_working entry
  split
  · exact apart.settle found (fun _ => ⟨.inl rfl, rfl⟩) done
  · split
    · exact apart
    · next slot atSlot =>
        refine apart.advance _ found rfl ?_ (fun _ => .inl works) ?_
        · intro slotId elsewhere
          have differs := elsewhere.resolve_right (by rw [works]; exact Bool.true_eq_false.mp)
          exact { Quiet.of_updateSlot state entry.slotId slotId (.inl differs.symm) with }
        · split
          · have emptied : (state.updateSlot entry.slotId SlotRuntime.beginStart).processOf
                entry.slotId = none := by
              rw [processOf_modify, if_pos rfl, atSlot]
              rfl
            change Meets ((state.updateSlot entry.slotId SlotRuntime.beginStart).setPhase task
                (.launching (slot.generation + 1)))
                { entry with phase := .launching (slot.generation + 1) }
            rw [meets_launching]
            refine ⟨emptied, fun _ begun atBegun => ?_⟩
            change (state.slots.modify entry.slotId SlotRuntime.beginStart)[entry.slotId]? = _
              at atBegun
            rw [getElem?_modify_eq, atSlot] at atBegun
            obtain rfl := some_inj.mp atBegun
            exact Nat.le_refl _
          · exact meets_of_not_working done

end

theorem Apart.beginTask {cleared : Bool} (orderly : Orderly state (.beginTask task cleared)) :
    Apart (state.beginTask task cleared) := by
  unfold Supervisor.beginTask
  split
  · next slotId found => exact apart.startSlot found rfl cleared
  · next slotId expected found =>
      split
      · next free =>
          unfold Supervisor.beginReset
          split
          · exact apart.stop found rfl
          · next isOpen =>
              rw [Bool.not_eq_true] at isOpen
              split
              · exact apart
              · next slot atSlot =>
                  split
                  · exact apart.setPhase found rfl
                  · next fresh =>
                      have noStart := orderly isOpen slotId (by
                        rw [Bool.not_eq_true] at fresh
                        simp only [freshReset, found, atSlot, any_some, fresh, Bool.not_false,
                          if_true, mem_def])
                      obtain ⟨_, slots, tasks, _⟩ := callStop_fields state slotId
                      have marked (other : Nat) : Quiet (state.callStop slotId)
                          ((state.callStop slotId).updateSlot slotId
                            fun slot => { slot with status := .restarting }) other :=
                        Quiet.of_updateSlot _ _ _ (.inr fun _ => ⟨.inl rfl, rfl⟩)
                      refine apart.advance .stopping found ?_ ?_ ?_ ?_
                      · change (state.callStop slotId).tasks.modify task _ = _
                        rw [tasks]
                      · intro other _
                        have same : (state.callStop slotId).processOf other =
                            state.processOf other := by
                          unfold processOf
                          rw [slots]
                        exact { (Quiet.callStop state slotId other).trans (marked other) same with }
                      · exact fun _ => .inr fun other member here =>
                          idle_of_free noStart free member here
                      · exact Released.quiet (released_callStop state slotId) { marked slotId with }
      · exact apart
  · next slotId call found =>
      split
      · exact apart.stop found rfl
      · exact apart
  · exact apart

theorem Apart.endCheck (healthy : Bool) : Apart (state.endCheck task healthy) := by
  unfold Supervisor.endCheck
  split
  · next slotId kind found =>
      split
      · split
        · exact apart.stop found (by cases kind <;> rfl)
        · exact apart.settle found (fun _ => ⟨.inl rfl, rfl⟩) (done_not_working _)
      · exact apart.settle found (fun _ => ⟨.inl rfl, rfl⟩) (done_not_working _)
  · exact apart

theorem Apart.restart {expectedGeneration : Option Nat}
    (found : state.tasks[task]? =
      some { slotId := slotId, kind := .reset expectedGeneration, phase := .stopping })
    (archived cleared : Bool) :
    Apart (state.restart task slotId expectedGeneration archived cleared) := by
  unfold Supervisor.restart
  split
  · exact apart.settle found (fun _ => ⟨.inr rfl, rfl⟩) rfl
  · have unrecorded : Apart (state.updateSlot slotId fun slot => { slot with process := none }) :=
      apart.keep rfl fun other =>
        Quiet.of_updateSlot state slotId other (.inr fun _ => ⟨.inr rfl, rfl⟩)
    simp only
    split
    · exact apart
    · split
      · exact unrecorded.setPhase found rfl
      · exact unrecorded.startSlot found rfl cleared

theorem Apart.endStop (returned archived cleared : Bool) :
    Apart (state.endStop task returned archived cleared) := by
  unfold Supervisor.endStop
  split
  · next slotId expected found =>
      split
      · exact apart.restart found archived cleared
      · exact apart.setPhase found rfl
  · next slotId kind found =>
      split
      · exact apart.settle found (fun _ => ⟨.inr rfl, rfl⟩) (done_not_working _)
      · exact apart.setPhase found (done_not_working _)
  · next slotId kind found =>
      split
      · exact apart.settle found (fun _ => ⟨.inr rfl, rfl⟩) (done_not_working _)
      · exact apart.settle found (fun _ => ⟨.inl rfl, rfl⟩) (done_not_working _)
  · exact apart

theorem Apart.endLaunch (custody : Custody state) (launched : Bool) :
    Apart (state.endLaunch task launched) := by
  unfold Supervisor.endLaunch
  split
  · next slotId kind generation found =>
      have works : ({ slotId := slotId, kind := kind, phase := .launching generation } :
          SlotTask).isWorking = true := by
        cases kind <;> rfl
      have elsewhere : ∀ other, other ≠ slotId →
          Quiet state (state.record slotId generation) other := by
        intro other differs
        refine { Quiet.of_updateSlot state slotId other (.inl differs.symm) with entries := ?_ }
        intro process entry inField present
        obtain ⟨_, found', _⟩ := custody.known other process inField
        have old := (List.getElem_of_getElem? found').1
        change (state.processes ++ [_])[process]? = some entry at present
        rwa [getElem?_append_left old] at present
      have away : ∀ other, other ≠ slotId ∨
          SlotTask.isWorking ⟨slotId, kind, .launching generation⟩ = false → other ≠ slotId :=
        fun other differs => differs.resolve_right (by rw [works]; exact Bool.true_eq_false.mp)
      have within := custody.bounded _ (mem_of_getElem? found)
      split
      · simp only
        split
        · rw [callStop_record within]
          refine apart.advance .closing found rfl (fun other differs => ?_)
            (fun _ => .inl works) (meets_of_not_working (by cases kind <;> rfl))
          exact { elsewhere other (away other differs) with
            stopped := fun process stopped => mem_append_left _ stopped }
        · next isOpen =>
            rw [Bool.not_eq_true] at isOpen
            refine apart.advance .checking found rfl
              (fun other differs => { elsewhere other (away other differs) with })
              (fun _ => .inl works) ?_
            have newest := ((meets_launching ⟨slotId, kind, .launching generation⟩).mp
              (apart.meets _ (mem_of_getElem? found))).2 isOpen
            have serves : (state.record slotId generation).ServesCurrent slotId := by
              intro process entry slot inField present atSlot
              rw [record_processOf within, some_inj] at inField
              subst inField
              change (state.processes ++ [_])[state.processes.length]? = some entry at present
              rw [getElem?_append_right (Nat.le_refl _), Nat.sub_self] at present
              obtain rfl := some_inj.mp present
              change (state.slots.modify slotId _)[slotId]? = some slot at atSlot
              rw [getElem?_modify_eq] at atSlot
              obtain ⟨old, atOld, rfl⟩ := map_eq_some_iff.mp atSlot
              exact .inr (newest old atOld)
            cases kind <;> exact fun _ => serves
      · exact apart.settle found (fun _ => ⟨.inl rfl, rfl⟩) (by cases kind <;> rfl)
  · exact apart

theorem Apart.step (custody : Custody state) {action : Action} (orderly : Orderly state action) :
    Apart (state.step action) := by
  cases action with
  | acquire trajectoryId => exact apart.acquire trajectoryId
  | release leaseId trajectoryId => exact apart.release leaseId trajectoryId
  | forceRelease slotId leaseId =>
    unfold Supervisor.step Supervisor.forceRelease
    simp only
    split
    · exact apart
    · exact apart.release _ _
  | restartSlot slotId => exact apart.restartSlot slotId
  | startPool => exact apart.startPool orderly
  | beginTask task cleared => exact apart.beginTask orderly
  | endLaunch task launched => exact apart.endLaunch custody launched
  | endCheck task healthy => exact apart.endCheck healthy
  | endStop task returned archived cleared => exact apart.endStop returned archived cleared
  | shutdown => exact apart.shutdown
  | probe slotId =>
    unfold Supervisor.step Supervisor.probe
    simp only
    split
    · split
      · exact apart.keep rfl fun slotId => { Quiet.refl state slotId with }
      · exact apart
    · exact apart
  | answer healthy => exact apart.answer healthy

theorem Apart.safe (action : Action) : Safe state action := by
  have meets : ∀ {task : Nat} {entry : SlotTask}, state.tasks[task]? = some entry →
    Meets state entry := fun found => apart.meets _ (mem_of_getElem? found)
  have released : ∀ {slotId}, state.processOf slotId = none → state.Released slotId := by
    intro slotId none process inField
    rw [none] at inField
    cases inField
  cases action with
  | beginTask task cleared =>
    intro slotId found isOpen
    exact released (meets found isOpen)
  | endStop task returned archived cleared =>
    intro slotId expected found _
    exact meets found
  | endLaunch task launched =>
    intro slotId kind generation found _
    obtain ⟨none, newest⟩ := (meets_launching ⟨slotId, kind, .launching generation⟩).mp
      (meets found)
    exact ⟨released none, fun isOpen slot atSlot _ => newest isOpen slot atSlot⟩
  | endCheck task healthy =>
    intro slotId kind found _ isOpen
    have serves := meets found
    cases kind <;> exact serves isOpen
  | acquire _ | release _ _ | forceRelease _ _ | restartSlot _ | startPool | shutdown | probe _
  | answer _ => trivial

end Tasks

theorem apart_initial (nodeId : String) (capacity : Nat) : Apart (initial nodeId capacity) :=
  ⟨nofun, nofun⟩

/-- While no two tasks overlap at a slot and `start_pool` starts none that has a process, no process
is forgotten: a reset stops what it replaces. -/
theorem none_forgotten_of_orderly (nodeId : String) (capacity : Nat) (actions : List Action)
    (orderly : Runs.Admits step Orderly (initial nodeId capacity) actions) {past : List Action}
    (early : past <+: actions) : NoneForgotten (Runs.run step (initial nodeId capacity) past) := by
  have preserved : ∀ (state : Supervisor) (action : Action), Custody state ∧ Apart state →
      Orderly state action → Custody (state.step action) ∧ Apart (state.step action) :=
    fun state action sound admitted =>
      ⟨sound.1.step (sound.2.safe action), sound.2.step sound.1 admitted⟩
  have kept : Custody (Runs.run step (initial nodeId capacity) past) ∧
      Apart (Runs.run step (initial nodeId capacity) past) :=
    Runs.prefix_invariant preserved
      ⟨custody_initial nodeId capacity, apart_initial nodeId capacity⟩ orderly early
  exact kept.1.noneForgotten

/-- Of two slots, one is leased, released and reset; the other one fails its check with its process
alive, is restarted, and is still being checked when the supervisor shuts down. -/
def replacedServers : List Action :=
  [.startPool, .beginTask 0 true, .beginTask 1 true, .endLaunch 0 true, .endLaunch 1 true,
    .endCheck 0 true, .acquire "first", .endCheck 1 false, .release none (some "first"),
    .beginTask 2 true, .endStop 2 true true true, .endLaunch 2 true, .endCheck 2 true,
    .restartSlot 1, .beginTask 3 true, .endStop 3 true true true, .endLaunch 3 true, .shutdown,
    .beginTask 4 true, .endStop 4 true true true, .endCheck 3 true, .endStop 3 true true true,
    .beginTask 5 true, .endStop 5 true true true]

theorem replaced_servers_remembered :
    NoneForgotten (Runs.run step (initial "node" 2) replacedServers) ∧
      (Runs.run step (initial "node" 2) replacedServers).processes.length = 4 ∧
      (Runs.run step (initial "node" 2) replacedServers).stopped = [0, 1, 2, 3] :=
  ⟨none_forgotten_of_orderly "node" 2 replacedServers (by decide +kernel) (prefix_refl _),
    by decide +kernel, by decide +kernel⟩

/-- A start fails its health check, its process lives on, and the next `start_pool`
starts another one for the slot. A shutdown then stops the second process only. -/
theorem failed_start_forgets :
    ¬ (∀ (nodeId : String) (capacity : Nat) (actions : List Action),
      NoneForgotten (Runs.run step (initial nodeId capacity) actions)) ∧
    (∃ state, state = Runs.run step (initial "node" 1)
        [.startPool, .beginTask 0 true, .endLaunch 0 true, .endCheck 0 false, .startPool,
          .beginTask 1 true, .endLaunch 1 true, .endCheck 1 true, .shutdown, .beginTask 2 true,
          .endStop 2 true true true] ∧
      state.ShutdownReturned 0 ∧ state.processes.length = 2 ∧ ¬ state.IsStopped 0 ∧
      state.IsStopped 1) := by
  have run : ∃ state, state = Runs.run step (initial "node" 1)
        [.startPool, .beginTask 0 true, .endLaunch 0 true, .endCheck 0 false, .startPool,
          .beginTask 1 true, .endLaunch 1 true, .endCheck 1 true, .shutdown, .beginTask 2 true,
          .endStop 2 true true true] ∧
      state.ShutdownReturned 0 ∧ state.processes.length = 2 ∧ ¬ state.IsStopped 0 ∧
      state.IsStopped 1 := by
    refine ⟨_, rfl, ⟨by decide, by decide⟩, by decide, ?_, ?_⟩
    · unfold IsStopped
      decide
    · unfold IsStopped
      decide
  refine ⟨fun all => ?_, run⟩
  obtain ⟨state, rfl, returned, started, alive, _⟩ := run
  exact alive ((all "node" 1 _).shutdownStops 0 returned 0 (started ▸ Nat.two_pos))

end Supervisor

end Dressage.Sandbox.Servers

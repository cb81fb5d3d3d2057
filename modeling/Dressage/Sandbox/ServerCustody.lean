/-
No server process is forgotten.

The field of a slot is the only thing that leads back to its process. A failed start leaves its
process in the field of a slot that `start_pool` takes next, and a start without the lock can
finish while a reset waits for its stop.
-/

import Dressage.Lib.Lists
import Dressage.Lib.Runs
import Dressage.Sandbox.SlotServers

namespace Dressage.Sandbox.Servers

open Lib List Option

def SlotTask.hasEmptied (task : SlotTask) : Bool :=
  match task.kind, task.phase with
  | _, .emptying => true
  | _, .closing => true
  | .shutdown _, .queued => false
  | .shutdown _, _ => true
  | _, _ => false

namespace Supervisor

def IsStopped (state : Supervisor) (process : ProcessId) : Prop := process ∈ state.stopped

def ShutdownReturned (state : Supervisor) (call : Nat) : Prop :=
  call < state.shutdowns ∧ ∀ task ∈ state.tasks, task.kind = .shutdown call → task.phase = .done

structure NoneForgotten (state : Supervisor) : Prop where
  recorded : ∀ (process : Nat) (entry : ServerProcess), state.processes[process]? = some entry →
    state.IsStopped process ∨ state.processOf entry.slotId = some process
  stoppedBefore : ∀ (earlier later : Nat) (first second : ServerProcess),
    state.processes[earlier]? = some first → state.processes[later]? = some second →
      first.slotId = second.slotId → earlier < later → state.IsStopped earlier
  readyCurrent : ∀ (process : Nat) (entry : ServerProcess) (slot : SlotRuntime),
    state.processes[process]? = some entry → state.slots[entry.slotId]? = some slot →
      slot.status = .ready → state.IsStopped process ∨ slot.generation ≤ entry.generation
  shutdownStops : ∀ call, state.ShutdownReturned call →
    ∀ process, process < state.processes.length → state.IsStopped process

def Released (state : Supervisor) (slotId : Nat) : Prop :=
  ∀ process, state.processOf slotId = some process → state.IsStopped process

def ServesCurrent (state : Supervisor) (slotId : Nat) : Prop :=
  ∀ (process : ProcessId) (entry : ServerProcess) (slot : SlotRuntime),
    state.processOf slotId = some process → state.processes[process]? = some entry →
      state.slots[slotId]? = some slot →
        state.IsStopped process ∨ slot.generation ≤ entry.generation

/-- Whatever writes the process field of an open supervisor's slot finds there no
process or a stopped one, and no slot becomes or is ready with an older process. -/
def Safe (state : Supervisor) : Action → Prop
  | .beginTask task _ => ∀ slotId,
    state.tasks[task]? = some { slotId := slotId, kind := .start, phase := .queued } →
      state.closed = false → state.Released slotId
  | .endStop task returned _ _ => ∀ slotId expectedGeneration,
    state.tasks[task]? =
        some { slotId := slotId, kind := .reset expectedGeneration, phase := .stopping } →
      returned = true → state.Released slotId
  | .endLaunch task launched => ∀ slotId kind generation,
    state.tasks[task]? =
        some { slotId := slotId, kind := kind, phase := .launching generation } →
      launched = true → state.Released slotId ∧
        (state.closed = false → ∀ slot, state.slots[slotId]? = some slot →
          slot.status = .ready → slot.generation ≤ generation)
  | .endCheck task healthy => ∀ slotId kind,
    state.tasks[task]? = some { slotId := slotId, kind := kind, phase := .checking } →
      healthy = true → state.closed = false → state.ServesCurrent slotId
  | _ => True

def AllStopped (state : Supervisor) (slotId : Nat) : Prop :=
  ∀ (process : Nat) (entry : ServerProcess), state.processes[process]? = some entry →
    entry.slotId = slotId → state.IsStopped process

structure Custody (state : Supervisor) : Prop where
  recorded : ∀ (process : Nat) (entry : ServerProcess), state.processes[process]? = some entry →
    state.IsStopped process ∨ state.processOf entry.slotId = some process
  stoppedBefore : ∀ (earlier later : Nat) (first second : ServerProcess),
    state.processes[earlier]? = some first → state.processes[later]? = some second →
      first.slotId = second.slotId → earlier < later → state.IsStopped earlier
  readyCurrent : ∀ (process : Nat) (entry : ServerProcess) (slot : SlotRuntime),
    state.processes[process]? = some entry → state.slots[entry.slotId]? = some slot →
      slot.status = .ready → state.IsStopped process ∨ slot.generation ≤ entry.generation
  known : ∀ slotId process, state.processOf slotId = some process →
    ∃ entry, state.processes[process]? = some entry ∧ entry.slotId = slotId
  started : ∀ process ∈ state.stopped, process < state.processes.length
  owned : ∀ entry ∈ state.processes, entry.slotId < state.slots.length
  bounded : ∀ task ∈ state.tasks, task.slotId < state.slots.length
  closing : ∀ task ∈ state.tasks, ∀ call, task.kind = .shutdown call → state.closed = true
  emptied : ∀ task ∈ state.tasks, task.hasEmptied = true →
    state.closed = true ∧ state.AllStopped task.slotId
  covered : ∀ call, call < state.shutdowns → ∀ slotId, slotId < state.slots.length →
    ∃ task ∈ state.tasks, task.slotId = slotId ∧ task.kind = .shutdown call

theorem custody_initial (nodeId : String) (capacity : Nat) : Custody (initial nodeId capacity) := by
  constructor
  · intro process entry impossible
    cases impossible
  · intro earlier later first second impossible
    cases impossible
  · intro process entry slot impossible
    cases impossible
  · intro slotId process has
    unfold processOf initial at has
    simp only [getElem?_replicate] at has
    split at has
    · cases has
    · cases has
  · intro process impossible
    cases impossible
  · intro entry impossible
    cases impossible
  · intro task impossible
    cases impossible
  · intro task impossible
    cases impossible
  · intro task impossible
    cases impossible
  · intro call impossible
    exact absurd impossible (Nat.not_lt_zero call)

variable {state : Supervisor} {slotId task : Nat} {change : SlotRuntime → SlotRuntime}
variable {entry : SlotTask}

theorem Custody.noneForgotten (custody : Custody state) : NoneForgotten state := by
  refine ⟨custody.recorded, custody.stoppedBefore, custody.readyCurrent, ?_⟩
  intro call returned process started
  have found := getElem?_eq_getElem started
  have within := custody.owned _ (mem_of_getElem? found)
  obtain ⟨task, member, atSlot, kind⟩ := custody.covered call returned.1 _ within
  have ended := returned.2 task member kind
  have emptied : task.hasEmptied = true := by
    unfold SlotTask.hasEmptied
    rw [kind, ended]
  exact (custody.emptied task member emptied).2 process _ found atSlot.symm

theorem Custody.allStopped (custody : Custody state) (released : state.Released slotId) :
    state.AllStopped slotId := by
  rintro process entry found rfl
  rcases custody.recorded process entry found with stopped | inField
  · exact stopped
  · exact released process inField

theorem processOf_modify (slotId other : Nat) (change : SlotRuntime → SlotRuntime) :
    (state.updateSlot slotId change).processOf other =
      if slotId = other then (state.slots[other]?).bind (fun slot => (change slot).process)
      else state.processOf other := by
  unfold updateSlot processOf
  simp only [getElem?_modify]
  cases state.slots[other]? with
  | none => split <;> rfl
  | some slot =>
    by_cases same : slotId = other
    · simp [same]
    · simp [same]

theorem Custody.updateSlot (custody : Custody state)
    (written : ∀ slot, state.slots[slotId]? = some slot →
      (change slot).process = slot.process ∨ (change slot).process = none ∧ state.AllStopped slotId)
    (ready : ∀ slot, state.slots[slotId]? = some slot → (change slot).status = .ready →
      slot.status = .ready ∧ (change slot).generation = slot.generation ∨
        ∀ (process : Nat) (entry : ServerProcess), state.processes[process]? = some entry →
          entry.slotId = slotId → state.IsStopped process ∨
            (change slot).generation ≤ entry.generation) :
    Custody (state.updateSlot slotId change) := by
  have length : (state.updateSlot slotId change).slots.length = state.slots.length :=
    length_modify _ _ _
  constructor
  · intro process entry found
    rcases custody.recorded process entry found with stopped | inField
    · exact .inl stopped
    · rw [processOf_modify]
      by_cases same : slotId = entry.slotId
      · rw [if_pos same]
        unfold processOf at inField
        obtain ⟨slot, atSlot, process'⟩ := bind_eq_some_iff.mp inField
        rcases written slot (same ▸ atSlot) with kept | ⟨_, stopped⟩
        · refine .inr ?_
          rw [atSlot, bind_some, kept, process']
        · exact .inl (stopped process entry found same.symm)
      · rw [if_neg same]
        exact .inr inField
  · exact custody.stoppedBefore
  · intro process entry slot found atSlot isReady
    change (state.slots.modify slotId change)[entry.slotId]? = some slot at atSlot
    rw [getElem?_modify] at atSlot
    obtain ⟨before, atBefore, rfl⟩ := map_eq_some_iff.mp atSlot
    by_cases same : slotId = entry.slotId
    · rw [if_pos same] at isReady ⊢
      rcases ready before (same ▸ atBefore) isReady with ⟨wasReady, kept⟩ | current
      · rw [kept]
        exact custody.readyCurrent process entry before found atBefore wasReady
      · exact current process entry found same.symm
    · rw [if_neg same] at isReady ⊢
      exact custody.readyCurrent process entry before found atBefore isReady
  · intro other process inField
    rw [processOf_modify] at inField
    by_cases same : slotId = other
    · rw [if_pos same] at inField
      obtain ⟨slot, atSlot, inField⟩ := bind_eq_some_iff.mp inField
      rcases written slot (same ▸ atSlot) with kept | ⟨none, _⟩
      · apply custody.known
        unfold processOf
        rw [atSlot, bind_some, ← kept, inField]
      · rw [none] at inField
        cases inField
    · rw [if_neg same] at inField
      exact custody.known other process inField
  · exact custody.started
  · intro entry member
    rw [length]
    exact custody.owned entry member
  · intro task member
    rw [length]
    exact custody.bounded task member
  · exact custody.closing
  · exact custody.emptied
  · intro call called other within
    rw [length] at within
    exact custody.covered call called other within

theorem Custody.relabel (custody : Custody state)
    (process : ∀ slot, (change slot).process = slot.process)
    (notReady : ∀ slot, (change slot).status ≠ .ready) :
    Custody (state.updateSlot slotId change) := by
  apply custody.updateSlot
  · exact fun slot _ => .inl (process slot)
  · exact fun slot _ ready => absurd ready (notReady slot)

theorem Custody.unrecord (custody : Custody state) (stopped : state.AllStopped slotId)
    (process : ∀ slot, (change slot).process = none) :
    Custody (state.updateSlot slotId change) := by
  apply custody.updateSlot
  · exact fun slot _ => .inr ⟨process slot, stopped⟩
  · intro slot _ _
    exact .inr (fun process entry found atSlot => .inl (stopped process entry found atSlot))

theorem mem_of_modify_phase {tasks : List SlotTask} {task : SlotTask} (member : task ∈ tasks)
    (index : Nat) (phase : TaskPhase) :
    ∃ after ∈ tasks.modify index (fun current => { current with phase := phase }),
      after.slotId = task.slotId ∧ after.kind = task.kind := by
  obtain ⟨number, found⟩ := mem_iff_getElem?.mp member
  refine ⟨if index = number then { task with phase := phase } else task, ?_, ?_, ?_⟩
  · refine mem_iff_getElem?.mpr ⟨number, ?_⟩
    rw [getElem?_modify, found]
    split <;> rfl
  · split <;> rfl
  · split <;> rfl

theorem Custody.setPhase (custody : Custody state) (found : state.tasks[task]? = some entry)
    {phase : TaskPhase}
    (ends : ({ entry with phase := phase } : SlotTask).hasEmptied = true →
      state.closed = true ∧ state.AllStopped entry.slotId) :
    Custody (state.setPhase task phase) := by
  refine { custody with bounded := ?_, closing := ?_, emptied := ?_, covered := ?_ }
  · intro other member
    rcases Lists.mem_modify member with old | ⟨before, atTask, rfl⟩
    · exact custody.bounded other old
    · exact custody.bounded before (mem_of_getElem? atTask)
  · intro other member
    rcases Lists.mem_modify member with old | ⟨before, atTask, rfl⟩
    · exact custody.closing other old
    · exact custody.closing before (mem_of_getElem? atTask)
  · intro other member emptied
    rcases Lists.mem_modify member with old | ⟨before, atTask, rfl⟩
    · exact custody.emptied other old emptied
    · rw [found, some_inj] at atTask
      subst atTask
      exact ends emptied
  · intro call called slotId within
    obtain ⟨before, member, atSlot, kind⟩ := custody.covered call called slotId within
    obtain ⟨after, member', atSlot', kind'⟩ := mem_of_modify_phase member task phase
    exact ⟨after, member', atSlot'.trans atSlot, kind'.trans kind⟩

theorem Custody.callStop (custody : Custody state) (slotId : Nat) :
    Custody (state.callStop slotId) := by
  unfold Supervisor.callStop
  split
  · exact custody
  · next process inField =>
      obtain ⟨entry, found, _⟩ := custody.known slotId process inField
      have more : ∀ other, state.IsStopped other →
          other ∈ state.stopped ++ [process] := fun other stopped =>
        mem_append_left _ stopped
      constructor
      · intro other another present
        exact (custody.recorded other another present).imp_left (more other)
      · intro earlier later first second atEarlier atLater same before
        exact more earlier (custody.stoppedBefore earlier later first second atEarlier atLater
          same before)
      · intro other another slot present atSlot ready
        exact (custody.readyCurrent other another slot present atSlot ready).imp_left (more other)
      · exact custody.known
      · intro other stopped
        rcases mem_append.mp stopped with old | new
        · exact custody.started other old
        · rw [mem_singleton.mp new]
          exact (List.getElem_of_getElem? found).1
      · exact custody.owned
      · exact custody.bounded
      · exact custody.closing
      · intro task member emptied
        obtain ⟨closed, all⟩ := custody.emptied task member emptied
        exact ⟨closed, fun other another present atSlot =>
          more other (all other another present atSlot)⟩
      · exact custody.covered

theorem callStop_fields (state : Supervisor) (slotId : Nat) :
    (state.callStop slotId).closed = state.closed ∧
      (state.callStop slotId).slots = state.slots ∧
      (state.callStop slotId).tasks = state.tasks ∧
      (state.callStop slotId).processes = state.processes := by
  unfold callStop
  split <;> exact ⟨rfl, rfl, rfl, rfl⟩

section

variable (custody : Custody state)
include custody

theorem Custody.allStopped_callStop (slotId : Nat) : (state.callStop slotId).AllStopped slotId := by
  apply (custody.callStop slotId).allStopped
  intro process inField
  unfold Supervisor.callStop at inField ⊢
  unfold IsStopped
  split at inField
  · next none =>
      rw [none] at inField
      cases inField
  · next other present =>
      change state.processOf slotId = some process at inField
      rw [present, some_inj] at inField
      rw [inField]
      exact mem_append_right _ (mem_singleton_self process)

theorem Custody.enqueue {added : List SlotTask}
    (queued : ∀ task ∈ added, task.slotId < state.slots.length ∧ task.phase = .queued ∧
      ((∃ call, task.kind = .shutdown call) → state.closed = true)) :
    Custody { state with tasks := state.tasks ++ added } := by
  refine { custody with bounded := ?_, closing := ?_, emptied := ?_, covered := ?_ }
  · intro task member
    rcases mem_append.mp member with old | new
    · exact custody.bounded task old
    · exact (queued task new).1
  · intro task member call kind
    rcases mem_append.mp member with old | new
    · exact custody.closing task old call kind
    · exact (queued task new).2.2 ⟨call, kind⟩
  · intro task member emptied
    rcases mem_append.mp member with old | new
    · exact custody.emptied task old emptied
    · unfold SlotTask.hasEmptied at emptied
      rw [(queued task new).2.1] at emptied
      split at emptied <;> simp_all
  · intro call called slotId within
    obtain ⟨task, member, atSlot⟩ := custody.covered call called slotId within
    exact ⟨task, mem_append_left _ member, atSlot⟩

theorem Custody.shutdown : Custody state.shutdown := by
  have closed : Custody { state with closed := true, probed := none } :=
    { custody with
      closing := fun _ _ _ _ => rfl
      emptied := fun task member emptied => ⟨rfl, (custody.emptied task member emptied).2⟩ }
  have queued : ∀ task ∈ (List.range state.slots.length).map (fun slotId =>
      ({ slotId := slotId
         kind := .shutdown state.shutdowns
         phase := .queued } : SlotTask)),
      task.slotId < state.slots.length ∧ task.phase = .queued ∧
        ((∃ call, task.kind = .shutdown call) → true = true) := by
    intro task member
    obtain ⟨slotId, within, rfl⟩ := List.mem_map.mp member
    exact ⟨mem_range.mp within, rfl, fun _ => rfl⟩
  have added := closed.enqueue queued
  refine { added with covered := ?_ }
  intro call called slotId within
  rcases Nat.lt_succ_iff_lt_or_eq.mp called with earlier | rfl
  · exact added.covered call earlier slotId within
  · refine ⟨_, mem_append_right _ (List.mem_map.mpr ⟨slotId, ?_, rfl⟩), rfl, rfl⟩
    exact mem_range.mpr within

theorem Custody.record (generation : Nat) (within : slotId < state.slots.length)
    (released : state.Released slotId) {extra : List ProcessId}
    (current : extra = [state.processes.length] ∨ extra = [] ∧ state.closed = false ∧
      ∀ slot, state.slots[slotId]? = some slot → slot.status = .ready →
        slot.generation ≤ generation) :
    Custody { state.record slotId generation with stopped := state.stopped ++ extra } := by
  have stopped := custody.allStopped released
  have more : ∀ other, state.IsStopped other → other ∈ state.stopped ++ extra :=
    fun other old => mem_append_left _ old
  have before : ∀ (process : Nat) (entry : ServerProcess),
      (state.processes ++ [{ slotId := slotId, generation := generation }])[process]? = some entry →
      state.processes[process]? = some entry ∨
        process = state.processes.length ∧ entry = { slotId := slotId, generation := generation } := by
    exact fun process entry found => Lists.getElem?_snoc found
  have field : ∀ other, Supervisor.processOf { state.record slotId generation with
      stopped := state.stopped ++ extra } other =
      if slotId = other then some state.processes.length else state.processOf other := by
    intro other
    have written : _ = (state.updateSlot slotId (fun slot =>
      { slot with process := some state.processes.length })).processOf other := rfl
    refine written.trans ((processOf_modify slotId other _).trans ?_)
    by_cases same : slotId = other
    · rw [if_pos same, if_pos same, ← same, getElem?_eq_getElem within]
      rfl
    · rw [if_neg same, if_neg same]
  constructor
  · intro process entry found
    rw [field]
    rcases before process entry found with old | ⟨rfl, rfl⟩
    · rcases custody.recorded process entry old with already | inField
      · exact .inl (more process already)
      · by_cases same : slotId = entry.slotId
        · exact .inl (more process (stopped process entry old same.symm))
        · rw [if_neg same]
          exact .inr inField
    · rw [if_pos rfl]
      exact .inr rfl
  · intro earlier later first second atEarlier atLater same lower
    rcases before earlier first atEarlier with old | ⟨rfl, rfl⟩
    · rcases before later second atLater with old' | ⟨_, rfl⟩
      · exact more earlier (custody.stoppedBefore earlier later first second old old' same lower)
      · exact more earlier (stopped earlier first old same)
    · have last := (List.getElem_of_getElem? atLater).1
      change later < (state.processes ++ [_]).length at last
      rw [length_append, length_singleton] at last
      exact absurd (Nat.lt_succ_iff.mp last) (Nat.not_le_of_lt lower)
  · intro process entry slot found atSlot ready
    change (state.slots.modify slotId _)[entry.slotId]? = some slot at atSlot
    rw [getElem?_modify] at atSlot
    obtain ⟨slot', atSlot', rfl⟩ := map_eq_some_iff.mp atSlot
    have sameStatus : (if slotId = entry.slotId then
        { slot' with process := some state.processes.length } else slot').status = slot'.status := by
      split <;> rfl
    have sameGeneration : (if slotId = entry.slotId then
        { slot' with process := some state.processes.length } else slot').generation =
          slot'.generation := by
      split <;> rfl
    rw [sameStatus] at ready
    rw [sameGeneration]
    rcases before process entry found with old | ⟨rfl, rfl⟩
    · exact (custody.readyCurrent process entry slot' old atSlot' ready).imp_left (more process)
    · rcases current with rfl | ⟨_, _, newest⟩
      · exact .inl (mem_append_right _ (mem_singleton_self _))
      · exact .inr (newest slot' atSlot' ready)
  · intro other process inField
    rw [field] at inField
    by_cases same : slotId = other
    · rw [if_pos same, some_inj] at inField
      refine ⟨{ slotId := slotId, generation := generation }, ?_, same⟩
      change (state.processes ++ [_])[process]? = _
      rw [← inField, getElem?_append_right (Nat.le_refl _), Nat.sub_self]
      rfl
    · rw [if_neg same] at inField
      obtain ⟨entry, found, atSlot⟩ := custody.known other process inField
      refine ⟨entry, ?_, atSlot⟩
      change (state.processes ++ [_])[process]? = _
      rw [getElem?_append_left (List.getElem_of_getElem? found).1, found]
  · intro process member
    change process < (state.processes ++ [_]).length
    rw [length_append, length_singleton]
    rcases mem_append.mp member with old | new
    · exact Nat.lt_succ_of_lt (custody.started process old)
    · rcases current with rfl | ⟨rfl, _, _⟩
      · rw [mem_singleton.mp new]
        exact Nat.lt_succ_self _
      · cases new
  · intro entry member
    change entry.slotId < (state.slots.modify slotId _).length
    rw [length_modify]
    rcases mem_append.mp member with old | new
    · exact custody.owned entry old
    · rw [mem_singleton.mp new]
      exact within
  · intro task member
    change task.slotId < (state.slots.modify slotId _).length
    rw [length_modify]
    exact custody.bounded task member
  · exact custody.closing
  · intro task member emptied
    obtain ⟨closed, all⟩ := custody.emptied task member emptied
    refine ⟨closed, ?_⟩
    intro process entry found atSlot
    rcases before process entry found with old | ⟨rfl, rfl⟩
    · exact more process (all process entry old atSlot)
    · rcases current with rfl | ⟨_, isOpen, _⟩
      · exact mem_append_right _ (mem_singleton_self _)
      · rw [isOpen] at closed
        cases closed
  · intro call called other inside
    change other < (state.slots.modify slotId _).length at inside
    rw [length_modify] at inside
    exact custody.covered call called other inside

end

theorem record_processOf (within : slotId < state.slots.length) (generation : Nat) :
    (state.record slotId generation).processOf slotId = some state.processes.length := by
  unfold Supervisor.processOf Supervisor.record
  simp only
  rw [getElem?_modify_eq, getElem?_eq_getElem within]
  rfl

theorem callStop_record (within : slotId < state.slots.length) (generation : Nat) :
    (state.record slotId generation).callStop slotId =
      { state.record slotId generation with
        stopped := state.stopped ++ [state.processes.length] } := by
  unfold Supervisor.callStop
  rw [record_processOf within]
  rfl

theorem Custody.schedule (custody : Custody state) (within : slotId < state.slots.length)
    {kind : TaskKind} (notShutdown : ∀ call, kind ≠ .shutdown call) :
    Custody (state.schedule slotId kind) := by
  apply custody.enqueue
  intro task member
  rw [mem_singleton.mp member]
  exact ⟨within, rfl, fun ⟨call, shutdown⟩ => absurd shutdown (notShutdown call)⟩

theorem Custody.scheduleReset (custody : Custody state) (within : slotId < state.slots.length)
    (expectedGeneration : Option Nat) :
    Custody (state.scheduleReset slotId expectedGeneration) := by
  unfold Supervisor.scheduleReset
  split
  · exact custody
  · exact custody.schedule within (fun _ => nofun)

theorem Custody.acquire (custody : Custody state) (trajectoryId : String) :
    Custody (state.acquire trajectoryId) := by
  unfold Supervisor.acquire
  split
  · exact custody
  · split
    · exact custody
    · split
      · exact custody
      · have next : Custody { state with nextSerial := state.nextSerial + 1 } := { custody with }
        exact next.relabel (fun _ => rfl) (fun _ => nofun)

theorem length_updateSlot (state : Supervisor) (slotId : Nat)
    (change : SlotRuntime → SlotRuntime) :
    (state.updateSlot slotId change).slots.length = state.slots.length :=
  length_modify _ _ _

theorem lt_of_slotForLease {leaseId : Option LeaseId} {trajectoryId : Option String}
    (found : state.slotForLease leaseId trajectoryId = some slotId) :
    slotId < state.slots.length :=
  (findIdx?_eq_some_iff_getElem.mp found).1

section

variable (custody : Custody state)

include custody

theorem Custody.release (leaseId : Option LeaseId) (trajectoryId : Option String) :
    Custody (state.release leaseId trajectoryId) := by
  unfold Supervisor.release
  split
  · exact custody
  · next slotId found =>
      split
      · exact custody.relabel (fun _ => rfl) (fun _ => nofun)
      · have labelled : Custody (state.updateSlot slotId (fun slot => slot.dropLease .releasing)) :=
          custody.relabel (fun _ => rfl) (fun _ => nofun)
        apply labelled.scheduleReset
        rw [length_updateSlot]
        exact lt_of_slotForLease found

theorem Custody.restartSlot (slotId : Nat) : Custody (state.restartSlot slotId) := by
  unfold Supervisor.restartSlot
  split
  · exact custody
  · next found =>
      split
      · exact custody
      · have labelled : Custody (state.updateSlot slotId
            (fun slot => slot.dropLease .restarting)) :=
          custody.relabel (fun _ => rfl) (fun _ => nofun)
        refine labelled.schedule ?_ (fun _ => nofun)
        rw [length_updateSlot]
        exact (List.getElem_of_getElem? found).1

theorem Custody.startPool : Custody state.startPool := by
  unfold Supervisor.startPool
  split
  · exact custody
  · apply custody.enqueue
    intro task member
    obtain ⟨slotId, chosen, rfl⟩ := List.mem_map.mp member
    exact ⟨mem_range.mp (mem_filter.mp chosen).1, rfl, fun ⟨_, shutdown⟩ => nomatch shutdown⟩

theorem Custody.answer (healthy : Bool) : Custody (state.answer healthy) := by
  unfold Supervisor.answer
  split
  · exact custody
  · next slotId probed =>
      have answered : Custody { state with probed := none } := { custody with }
      simp only
      split
      · exact answered
      · next slot found =>
          split
          · exact answered
          · split
            · exact answered.relabel (fun _ => rfl) (fun _ => nofun)
            · have labelled : Custody (Supervisor.updateSlot { state with probed := none } slotId
                  (fun slot => { slot with status := .dead })) :=
                answered.relabel (fun _ => rfl) (fun _ => nofun)
              apply labelled.scheduleReset
              rw [length_updateSlot]
              exact (List.getElem_of_getElem? found).1

section

variable (found : state.tasks[task]? = some entry)
include found

theorem Custody.proceed (underWay : entry.phase ≠ .queued ∨ ∀ call, entry.kind ≠ .shutdown call)
    {phase : TaskPhase} (notEmptying : phase ≠ .emptying) (notClosing : phase ≠ .closing) :
    Custody (state.setPhase task phase) := by
  apply custody.setPhase found
  intro emptied
  cases kind : entry.kind with
  | shutdown call =>
    apply custody.emptied entry (mem_of_getElem? found)
    have notQueued : entry.phase ≠ .queued := by
      rcases underWay with notQueued | notShutdown
      · exact notQueued
      · exact absurd kind (notShutdown call)
    unfold SlotTask.hasEmptied
    rw [kind]
    cases at_ : entry.phase <;> first | rfl | exact absurd at_ notQueued
  | start | reset _ =>
    unfold SlotTask.hasEmptied at emptied
    rw [kind] at emptied
    cases phase with
    | emptying => exact absurd rfl notEmptying
    | closing => exact absurd rfl notClosing
    | queued | stopping | launching _ | checking | done => cases emptied

theorem Custody.fail (underWay : entry.phase ≠ .queued ∨ ∀ call, entry.kind ≠ .shutdown call) :
    Custody ((state.updateSlot entry.slotId
      (fun slot => { slot with status := .failed })).setPhase task .done) := by
  have labelled : Custody (state.updateSlot entry.slotId
      (fun slot => { slot with status := .failed })) :=
    custody.relabel (fun _ => rfl) (fun _ => nofun)
  exact labelled.proceed found underWay nofun nofun

theorem Custody.startSlot (notShutdown : ∀ call, entry.kind ≠ .shutdown call)
    (released : state.closed = false → state.Released entry.slotId) (cleared : Bool) :
    Custody (state.startSlot task entry.slotId cleared) := by
  unfold Supervisor.startSlot
  split
  · have labelled : Custody (state.updateSlot entry.slotId
        (fun slot => { slot with status := .empty })) :=
      custody.relabel (fun _ => rfl) (fun _ => nofun)
    exact labelled.proceed found (.inr notShutdown) nofun nofun
  · next isOpen =>
      split
      · exact custody
      · next slot atSlot =>
          rw [Bool.not_eq_true] at isOpen
          have begun : Custody (state.updateSlot entry.slotId SlotRuntime.beginStart) :=
            custody.unrecord (custody.allStopped (released isOpen)) (fun _ => rfl)
          apply begun.proceed found (.inr notShutdown)
          · split <;> exact nofun
          · split <;> exact nofun

theorem Custody.empty (closed : state.closed = true) :
    Custody ((state.callStop entry.slotId).setPhase task .emptying) := by
  have fields := callStop_fields state entry.slotId
  apply (custody.callStop entry.slotId).setPhase (fields.2.2.1 ▸ found)
  intro _
  exact ⟨fields.1.trans closed, custody.allStopped_callStop entry.slotId⟩

end

theorem Custody.beginTask {cleared : Bool} (safe : Safe state (.beginTask task cleared)) :
    Custody (state.beginTask task cleared) := by
  unfold Supervisor.beginTask
  split
  · next slotId found => exact custody.startSlot found (fun _ => nofun) (safe slotId found) cleared
  · next slotId expected found =>
      split
      · unfold Supervisor.beginReset
        split
        · next closed => exact custody.empty found closed
        · split
          · exact custody
          · next slot atSlot =>
              split
              · exact custody.proceed found (.inr (fun _ => nofun)) nofun nofun
              · have fields := callStop_fields state slotId
                have labelled : Custody ((state.callStop slotId).updateSlot slotId
                    (fun slot => { slot with status := .restarting })) :=
                  (custody.callStop slotId).relabel (fun _ => rfl) (fun _ => nofun)
                apply labelled.proceed (fields.2.2.1 ▸ found)
                · exact .inr (fun _ => nofun)
                · exact nofun
                · exact nofun
      · exact custody
  · next slotId call found =>
      split
      · exact custody.empty found (custody.closing _ (mem_of_getElem? found) call rfl)
      · exact custody
  · exact custody

theorem Custody.endLaunch {launched : Bool} (safe : Safe state (.endLaunch task launched)) :
    Custody (state.endLaunch task launched) := by
  unfold Supervisor.endLaunch
  split
  · next slotId kind generation found =>
      have within := custody.bounded _ (mem_of_getElem? found)
      split
      · next started =>
          obtain ⟨released, newest⟩ := safe slotId kind generation found started
          simp only
          split
          · next closed =>
              have recorded := custody.record generation within released (.inl rfl)
              rw [callStop_record within]
              apply recorded.setPhase found
              intro _
              refine ⟨closed, recorded.allStopped ?_⟩
              intro process has
              have same : some state.processes.length = some process :=
                (record_processOf within generation).symm.trans has
              rw [some_inj] at same
              rw [← same]
              exact mem_append_right _ (mem_singleton_self _)
          · next isOpen =>
              rw [Bool.not_eq_true] at isOpen
              have recorded := custody.record generation within released
                (.inr ⟨rfl, isOpen, newest isOpen⟩)
              have same : { state.record slotId generation with stopped := state.stopped ++ [] } =
                  state.record slotId generation := by
                rw [append_nil]
                rfl
              rw [same] at recorded
              exact recorded.proceed found (.inl nofun) nofun nofun
      · exact custody.fail found (.inl nofun)
  · exact custody

theorem Custody.endCheck {healthy : Bool} (safe : Safe state (.endCheck task healthy)) :
    Custody (state.endCheck task healthy) := by
  unfold Supervisor.endCheck
  split
  · next slotId kind found =>
      split
      · next isHealthy =>
          split
          · next closed =>
              have fields := callStop_fields state slotId
              apply (custody.callStop slotId).setPhase (fields.2.2.1 ▸ found)
              intro _
              exact ⟨fields.1.trans closed, custody.allStopped_callStop slotId⟩
          · next isOpen =>
              rw [Bool.not_eq_true] at isOpen
              have serves := safe slotId kind found isHealthy isOpen
              have ready : Custody (state.updateSlot slotId
                  (fun slot => { slot with status := .ready })) := by
                apply custody.updateSlot
                · exact fun _ _ => .inl rfl
                · intro slot atSlot _
                  refine .inr ?_
                  rintro process entry present rfl
                  rcases custody.recorded process entry present with stopped | inField
                  · exact .inl stopped
                  · exact serves process entry slot inField present atSlot
              exact ready.proceed found (.inl nofun) nofun nofun
      · exact custody.fail found (.inl nofun)
  · exact custody

theorem Custody.restart {expectedGeneration : Option Nat}
    (found : state.tasks[task]? =
      some { slotId := slotId, kind := .reset expectedGeneration, phase := .stopping })
    (released : state.Released slotId) (archived cleared : Bool) :
    Custody (state.restart task slotId expectedGeneration archived cleared) := by
  have stopped := custody.allStopped released
  unfold Supervisor.restart
  split
  · have emptied : Custody (state.updateSlot slotId emptySlot) :=
      custody.unrecord stopped (fun _ => rfl)
    exact emptied.proceed found (.inl nofun) nofun nofun
  · have unrecorded : Custody (state.updateSlot slotId
        (fun slot => { slot with process := none })) :=
      custody.unrecord stopped (fun _ => rfl)
    simp only
    split
    · exact custody
    · split
      · exact unrecorded.proceed found (.inl nofun) nofun nofun
      · apply unrecorded.startSlot found (fun _ => nofun)
        intro _ process inField
        rw [processOf_modify, if_pos rfl] at inField
        obtain ⟨_, _, impossible⟩ := bind_eq_some_iff.mp inField
        cases impossible

theorem Custody.endStop {returned archived cleared : Bool}
    (safe : Safe state (.endStop task returned archived cleared)) :
    Custody (state.endStop task returned archived cleared) := by
  unfold Supervisor.endStop
  split
  · next slotId expected found =>
      split
      · next isReturned =>
          exact custody.restart found (safe slotId expected found isReturned) archived cleared
      · exact custody.proceed found (.inl nofun) nofun nofun
  · next slotId kind found =>
      have stopped := (custody.emptied _ (mem_of_getElem? found) (by cases kind <;> rfl)).2
      split
      · have emptied : Custody (state.updateSlot slotId emptySlot) :=
          custody.unrecord stopped (fun _ => rfl)
        exact emptied.proceed found (.inl nofun) nofun nofun
      · exact custody.proceed found (.inl nofun) nofun nofun
  · next slotId kind found =>
      have stopped := (custody.emptied _ (mem_of_getElem? found) (by cases kind <;> rfl)).2
      split
      · have emptied : Custody (state.updateSlot slotId
            (fun slot => { slot with status := .empty, process := none })) :=
          custody.unrecord stopped (fun _ => rfl)
        exact emptied.proceed found (.inl nofun) nofun nofun
      · exact custody.fail found (.inl nofun)
  · exact custody

theorem Custody.step {action : Action} (safe : Safe state action) :
    Custody (state.step action) := by
  cases action with
  | acquire trajectoryId => exact custody.acquire trajectoryId
  | release leaseId trajectoryId => exact custody.release leaseId trajectoryId
  | forceRelease slotId leaseId =>
    unfold Supervisor.step Supervisor.forceRelease
    simp only
    split
    · exact custody
    · exact custody.release _ _
  | restartSlot slotId => exact custody.restartSlot slotId
  | startPool => exact custody.startPool
  | beginTask task cleared => exact custody.beginTask safe
  | endLaunch task launched => exact custody.endLaunch safe
  | endCheck task healthy => exact custody.endCheck safe
  | endStop task returned archived cleared => exact custody.endStop safe
  | shutdown => exact custody.shutdown
  | probe slotId =>
    unfold Supervisor.step Supervisor.probe
    simp only
    split
    · split
      · exact { custody with }
      · exact custody
    · exact custody
  | answer healthy => exact custody.answer healthy

end

end Supervisor

end Dressage.Sandbox.Servers

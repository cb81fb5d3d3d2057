/-
Which session a recorded step belongs to.

A request draws its step id and its lineage from the `Session` object that
admitted it, and `record_step` appends to whatever object its session id names
by then. The two are the same object as long as no second session is opened
under the id while an admitted request is under way; discard is the one action
that can clear the way for it.
-/

import Dressage.Lib.Runs
import Dressage.Proxy.PlainFormat
import Dressage.Proxy.SessionLifecycle
import Dressage.Proxy.StepOrigins

namespace Dressage.Proxy.Lifecycle

open Lib Transport Generation List OrderedDict Option

variable {Message Tool Call : Type} {server : Server Message Tool Call}
variable {state after : State Message Tool} {lenient : Prop}

/-- Every appended step was produced by a request admitted on the object it was appended to, and
ids are unique within each session. -/
structure StepsOwned (state : State Message Tool) : Prop where
  owned : ∀ recording ∈ state.recordings, (recording.task, recording.object) ∈ state.admissions
  logged : ∀ (ref : ObjectRef) object, state.objects[ref]? = some object →
    object.session.steps.map StepRecord.stepId =
      (state.recordings.filter (fun recording => recording.object = ref)).map Recording.stepId
  stepIds : ∀ object ∈ state.objects, (object.session.steps.map StepRecord.stepId).Nodup
  lineageIds : ∀ object ∈ state.objects,
    (object.session.lineages.values.map Lineage.id).Nodup ∧
      ∀ step ∈ object.session.steps, step.lineageId ∈ object.session.lineages.keys

def underWay (state : State Message Tool) (sessionId : String) : Bool :=
  state.tasks.values.any fun task =>
    task.generates && decide (((state.objects[task.ref]?).map
      (fun object => object.session.sessionId)) = some sessionId)

/-- No second session is opened under an id while a request admitted on an earlier one is under
way. -/
def Unreplaced (server : Server Message Tool Call) (state : State Message Tool) :
    Action Message Tool Call → Prop
  | .arriveChat sessionId _ _ =>
    ¬ ((state.cleanupExpired server).opens sessionId = true ∧ underWay state sessionId = true)
  | _ => True

instance (server : Server Message Tool Call) (state : State Message Tool)
    (action : Action Message Tool Call) : Decidable (Unreplaced server state action) := by
  cases action <;> unfold Unreplaced <;> infer_instance

/-- A session is discarded only while no request admitted on it is under way. -/
def SparesRequests (state : State Message Tool) : Action Message Tool Call → Prop
  | .arriveDiscard sessionId => underWay state sessionId = false
  | .enterDiscard task => ∀ ref sessionId removed,
    state.tasks.get? task = some (.discard ref sessionId removed) → underWay state sessionId = false
  | _ => True

structure WellNumbered (session : Session Message Tool) : Prop where
  numbered : LineagesNumbered session
  increasing : session.steps.Pairwise (fun first second => first.stepId < second.stepId)
  counted : ∀ step ∈ session.steps, step.stepId ≤ session.stepCounter
  placed : ∀ step ∈ session.steps, 0 < step.lineageId ∧ step.lineageId ≤ session.lineageCounter

structure PendingStep (session : Session Message Tool) (step : StepRecord Message Tool) :
    Prop where
  above : ∀ earlier ∈ session.steps, earlier.stepId < step.stepId
  counted : step.stepId ≤ session.stepCounter
  placed : 0 < step.lineageId ∧ step.lineageId ≤ session.lineageCounter

structure TaskFits (lenient : Prop) (state : State Message Tool) (id : TaskId) (task : Task Message Tool)
    (object : SessionObject Message Tool) : Prop where
  locked : task.holds = true → object.requestLock = some id
  unreplaced : task.generates = true →
    state.active.get? object.session.sessionId = some task.ref ∨
      lenient ∧ state.active.get? object.session.sessionId = none
  admitted : task.generates = true → (id, task.ref) ∈ state.admissions
  pending : ∀ ref request step cache, task = .chat ref request (.storing step cache) →
    PendingStep object.session step

/-- The invariant. In a lenient run a discard may take the session away from a request. -/
structure Owned (lenient : Prop) (state : State Message Tool) : Prop where
  activeObject : ∀ sessionId ref, state.active.get? sessionId = some ref →
    ∃ object, state.objects[ref]? = some object ∧ object.session.sessionId = sessionId
  taskObject : ∀ id task, state.tasks.get? id = some task →
    ∃ object, state.objects[task.ref]? = some object ∧ TaskFits lenient state id task object
  fresh : ∀ id, state.nextTask ≤ id → state.tasks.get? id = none
  numbered : ∀ (ref : ObjectRef) object, state.objects[ref]? = some object →
    WellNumbered object.session
  owned : ∀ recording ∈ state.recordings, (recording.task, recording.object) ∈ state.admissions
  logged : ∀ (ref : ObjectRef) object, state.objects[ref]? = some object →
    object.session.steps.map StepRecord.stepId =
      (state.recordings.filter (fun recording => recording.object = ref)).map Recording.stepId
  located : ∀ recording ∈ state.recordings, recording.object < state.objects.length

theorem owned_initial (now : ℚ) (store : TrajectoryStore.Store) :
    Owned lenient (State.initial now store : State Message Tool) :=
  { activeObject := fun _ _ found => by cases found
    taskObject := fun _ _ found => by cases found
    fresh := fun _ _ => rfl
    numbered := fun _ _ found => by cases found
    owned := fun _ member => by cases member
    logged := fun _ _ found => by cases found
    located := fun _ member => by cases member }

variable {session : Session Message Tool} {ref : ObjectRef}
variable {change : SessionObject Message Tool → SessionObject Message Tool}
variable {object : SessionObject Message Tool} {κ ν : Type} {sessionId : String}
variable {task : Task Message Tool} {id : TaskId}

theorem LineagesNumbered.ids (numbered : LineagesNumbered session) :
    session.lineages.values.map Lineage.id = (List.range session.lineageCounter).map (· + 1) := by
  have ids := congrArg (List.map (fun row : Nat × Nat × Nat => row.2.1)) numbered
  rw [List.map_map, List.map_map] at ids
  unfold OrderedDict.values
  rw [List.map_map]
  exact ids

theorem WellNumbered.lineageIds (numbered : WellNumbered session) :
    (session.lineages.values.map Lineage.id).Nodup := by
  rw [LineagesNumbered.ids numbered.numbered]
  exact nodup_range.map (fun _ _ same => Nat.succ.inj same)

theorem mem_drawn {lineageId counter : Nat} (positive : 0 < lineageId)
    (bounded : lineageId ≤ counter) : lineageId ∈ (List.range counter).map (· + 1) :=
  List.mem_map.mpr ⟨lineageId - 1,
    mem_range.mpr (Nat.lt_of_lt_of_le (Nat.pred_lt (Nat.ne_of_gt positive)) bounded),
    Nat.succ_pred_eq_of_pos positive⟩

theorem Owned.stepsOwned (sound : Owned lenient state) : StepsOwned state :=
  { sound with
    stepIds := fun object member => by
      obtain ⟨ref, found⟩ := mem_iff_getElem?.mp member
      exact pairwise_map.mpr ((sound.numbered ref object found).increasing.imp
        (fun less => Nat.ne_of_lt less))
    lineageIds := fun object member => by
      obtain ⟨ref, found⟩ := mem_iff_getElem?.mp member
      have numbered := sound.numbered ref object found
      refine ⟨numbered.lineageIds, fun step inSteps => ?_⟩
      rw [numbered.numbered.keys]
      obtain ⟨positive, bounded⟩ := numbered.placed step inSteps
      exact mem_drawn positive bounded }

structure Kept (before after : List (SessionObject Message Tool)) : Prop where
  size : after.length = before.length
  kept : ∀ (ref : ObjectRef) object, before[ref]? = some object →
    ∃ changed, after[ref]? = some changed ∧ changed.requestLock = object.requestLock ∧
      SameSteps object.session changed.session

theorem Kept.refl (objects : List (SessionObject Message Tool)) : Kept objects objects :=
  { size := rfl
    kept := fun _ object found => ⟨object, found, rfl, SameSteps.refl _⟩ }

theorem Kept.origin {before after : List (SessionObject Message Tool)} (kept : Kept before after)
    {changed : SessionObject Message Tool} (found : after[ref]? = some changed) :
    ∃ object, before[ref]? = some object ∧ changed.requestLock = object.requestLock ∧
      SameSteps object.session changed.session := by
  have inside : ref < before.length := by
    rw [← kept.size]
    exact (List.getElem_of_getElem? found).1
  have original : before[ref]? = some before[ref] := getElem?_eq_getElem inside
  obtain ⟨other, foundOther, lock, same⟩ := kept.kept ref before[ref] original
  rw [found, some_inj] at foundOther
  subst other
  exact ⟨before[ref], original, lock, same⟩

theorem getElem?_modifyObject (ref other : ObjectRef)
    (change : SessionObject Message Tool → SessionObject Message Tool) :
    (state.modifyObject ref change).objects[other]? =
      (state.objects[other]?).map (fun object => if ref = other then change object else object) :=
  getElem?_modify change ref state.objects other

theorem kept_modifyObject (ref : ObjectRef)
    (lock : ∀ object, (change object).requestLock = object.requestLock)
    (same : ∀ object, state.objects[ref]? = some object →
      SameSteps object.session (change object).session) :
    Kept state.objects (state.modifyObject ref change).objects := by
  refine
    { size := length_modify ..
      kept := fun other object found => ?_ }
  rw [getElem?_modifyObject, found, map_some]
  refine ⟨_, rfl, ?_⟩
  by_cases here : ref = other
  · subst other
    rw [if_pos rfl]
    exact ⟨lock object, same object found⟩
  · rw [if_neg here]
    exact ⟨rfl, SameSteps.refl _⟩

theorem WellNumbered.of_sameSteps {before after : Session Message Tool}
    (numbered : WellNumbered before) (same : SameSteps before after) : WellNumbered after :=
  { numbered := same.numbered numbered.numbered
    increasing := by
      rw [same.steps]
      exact numbered.increasing
    counted := fun step member => by
      rw [same.steps] at member
      exact (numbered.counted step member).trans same.stepCounter
    placed := fun step member => by
      rw [same.steps] at member
      have placed := numbered.placed step member
      exact ⟨placed.1, placed.2.trans same.lineageCounter⟩ }

theorem PendingStep.of_sameSteps {before after : Session Message Tool}
    {step : StepRecord Message Tool} (pending : PendingStep before step)
    (same : SameSteps before after) : PendingStep after step :=
  { above := fun earlier member => by
      rw [same.steps] at member
      exact pending.above earlier member
    counted := pending.counted.trans same.stepCounter
    placed := ⟨pending.placed.1, pending.placed.2.trans same.lineageCounter⟩ }

def Quiet (state : State Message Tool) (sessionId : String) : Prop :=
  ∀ id task object, state.tasks.get? id = some task → task.generates = true →
    state.objects[task.ref]? = some object → object.session.sessionId ≠ sessionId

section

variable (sound : Owned lenient state)

include sound

theorem Owned.of_kept (kept : Kept state.objects after.objects)
    (active : ∀ sessionId, after.active.get? sessionId = state.active.get? sessionId ∨
      after.active.get? sessionId = none ∧ (lenient ∨ Quiet state sessionId))
    (tasks : after.tasks = state.tasks) (next : state.nextTask ≤ after.nextTask)
    (admissions : after.admissions = state.admissions)
    (recordings : after.recordings = state.recordings) : Owned lenient after := by
  refine
    { activeObject := fun sessionId ref found => ?_
      taskObject := fun id task found => ?_
      fresh := fun id late => ?_
      numbered := fun ref object found => ?_
      owned := ?_
      logged := fun ref object found => ?_
      located := ?_ }
  · rcases active sessionId with same | ⟨gone, -⟩
    · obtain ⟨object, original, named⟩ := sound.activeObject sessionId ref (same ▸ found)
      obtain ⟨changed, foundChanged, -, steps⟩ := kept.kept ref object original
      exact ⟨changed, foundChanged, steps.sessionId.trans named⟩
    · rw [gone] at found
      cases found
  · rw [tasks] at found
    obtain ⟨object, original, fits⟩ := sound.taskObject id task found
    obtain ⟨changed, foundChanged, lock, steps⟩ := kept.kept task.ref object original
    refine ⟨changed, foundChanged, ?_⟩
    refine
      { locked := fun holds => lock.trans (fits.locked holds)
        unreplaced := fun generates => ?_
        admitted := fun generates => by
          rw [admissions]
          exact fits.admitted generates
        pending := fun ref request step cache storing =>
          (fits.pending ref request step cache storing).of_sameSteps steps }
    rw [steps.sessionId]
    rcases active object.session.sessionId with same | ⟨gone, lenience | quiet⟩
    · rw [same]
      exact fits.unreplaced generates
    · exact .inr ⟨lenience, gone⟩
    · exact absurd rfl (quiet id task object found generates original)
  · rw [tasks]
    exact sound.fresh id (next.trans late)
  · obtain ⟨original, foundOriginal, -, steps⟩ := kept.origin found
    exact (sound.numbered ref original foundOriginal).of_sameSteps steps
  · rw [recordings, admissions]
    exact sound.owned
  · obtain ⟨original, foundOriginal, -, steps⟩ := kept.origin found
    rw [recordings, steps.steps]
    exact sound.logged ref original foundOriginal
  · rw [recordings, kept.size]
    exact sound.located

theorem Owned.modifyObject (ref : ObjectRef)
    (lock : ∀ object, (change object).requestLock = object.requestLock)
    (same : ∀ object, state.objects[ref]? = some object →
      SameSteps object.session (change object).session) :
    Owned lenient (state.modifyObject ref change) :=
  sound.of_kept (kept_modifyObject ref lock same) (fun _ => .inl rfl) rfl (Nat.le_refl _) rfl rfl

theorem Owned.setSession (found : state.objects[ref]? = some object)
    (same : SameSteps object.session session) :
    Owned lenient (state.setSession ref session) := by
  refine sound.modifyObject ref (fun _ => rfl) (fun other foundOther => ?_)
  rw [found, some_inj] at foundOther
  subst other
  exact same

theorem Owned.touch (ref : ObjectRef) : Owned lenient (state.touch ref) :=
  sound.modifyObject ref (fun _ => rfl) (fun _ _ => SameSteps.refl _)

theorem Owned.reply (id : TaskId) (answer : Reply) : Owned lenient (state.reply id answer) :=
  sound.of_kept (Kept.refl _) (fun _ => .inl rfl) rfl (Nat.le_refl _) rfl rfl

theorem Owned.arrive : Owned lenient state.arrive :=
  sound.of_kept (Kept.refl _) (fun _ => .inl rfl) rfl (Nat.le_succ _) rfl rfl

end

theorem refreshLocked_found (server : Server Message Tool Call) {ref : ObjectRef}
    {object : SessionObject Message Tool} (found : state.objects[ref]? = some object) :
    ∃ changed, (state.refreshLocked server)[ref]? = some changed ∧
      changed.requestLock = object.requestLock ∧ changed.session = object.session := by
  unfold State.refreshLocked
  rw [getElem?_mapIdx, found, map_some]
  refine ⟨_, rfl, ?_⟩
  split <;> exact ⟨rfl, rfl⟩

theorem kept_refreshLocked (server : Server Message Tool Call) (state : State Message Tool) :
    Kept state.objects (state.refreshLocked server) := by
  refine
    { size := length_mapIdx
      kept := fun ref object found => ?_ }
  obtain ⟨changed, foundChanged, lock, same⟩ := refreshLocked_found server found
  exact ⟨changed, foundChanged, lock, same ▸ SameSteps.refl changed.session⟩

theorem get?_popAll_or [DecidableEq κ] (dict : OrderedDict κ ν) (keys : List κ) (key : κ) :
    (dict.popAll keys).get? key = dict.get? key ∨ (dict.popAll keys).get? key = none := by
  rw [get?_popAll]
  split
  · exact .inr rfl
  · exact .inl rfl

theorem get?_pop_or [DecidableEq κ] (dict : OrderedDict κ ν) (popped key : κ) :
    (dict.pop popped).get? key = dict.get? key ∨ (dict.pop popped).get? key = none := by
  rw [get?_pop]
  split
  · exact .inr rfl
  · exact .inl rfl

theorem Owned.quiet_of_unheld (sound : Owned lenient state)
    (active : state.active.get? sessionId = some ref)
    (unheld : ∀ id task, state.tasks.get? id = some task → task.generates = true →
      task.ref ≠ ref) : lenient ∨ Quiet state sessionId := by
  by_cases lenience : lenient
  · exact .inl lenience
  · refine .inr (fun id task object present generates found named => ?_)
    obtain ⟨own, foundOwn, fits⟩ := sound.taskObject id task present
    rw [found, some_inj] at foundOwn
    subst own
    rcases fits.unreplaced generates with here | ⟨lenient, -⟩
    · rw [named, active, some_inj] at here
      exact unheld id task present generates here.symm
    · exact lenience lenient

theorem Task.holds_of_generates (generates : task.generates = true) : task.holds = true := by
  cases task with
  | chat ref request phase =>
    cases phase with
    | queued => cases generates
    | admitted admission => rfl
    | generating admission routed => rfl
    | storing step cache => rfl
  | finalize ref sessionId instanceId published => cases generates
  | discard ref sessionId removed => cases generates

theorem Owned.cleanupExpired (sound : Owned lenient state) (server : Server Message Tool Call) :
    Owned lenient (state.cleanupExpired server) := by
  refine sound.of_kept (kept_refreshLocked server state) (fun sessionId => ?_) rfl (Nat.le_refl _)
    rfl rfl
  change (state.active.popAll (state.expiredSessions server)).get? sessionId = _ ∨
    (state.active.popAll (state.expiredSessions server)).get? sessionId = none ∧ _
  rw [get?_popAll]
  split
  · rename_i expired
    refine .inr ⟨rfl, ?_⟩
    obtain ⟨-, idle⟩ := mem_filter.mp expired
    cases active : state.active.get? sessionId with
    | none =>
      rw [active] at idle
      cases idle
    | some ref =>
      refine sound.quiet_of_unheld active (fun id task present generates here => ?_)
      obtain ⟨object, found, fits⟩ := sound.taskObject id task present
      rw [here] at found
      rw [active, bind_some, found, Bool.and_eq_true,
        fits.locked (Task.holds_of_generates generates)] at idle
      cases idle.2
  · exact .inl rfl

theorem quiet_of_not_underWay (idle : underWay state sessionId = false) :
    Quiet state sessionId := by
  intro id task object present generates found named
  have member : task ∈ state.tasks.values :=
    List.mem_map_of_mem (mem_of_get? present)
  have waits := List.any_eq_false.mp idle task member
  simp [generates, found, named] at waits

theorem Quiet.lock (quiet : Quiet state sessionId) (ref : ObjectRef) (holder : TaskId) :
    Quiet (state.lock ref holder) sessionId := by
  intro id task object present generates found
  change (State.modifyObject state ref _).objects[task.ref]? = some object at found
  rw [getElem?_modifyObject] at found
  obtain ⟨original, foundOriginal, rfl⟩ := map_eq_some_iff.mp found
  have differs := quiet id task original present generates foundOriginal
  split <;> exact differs

theorem Owned.discardSession (sound : Owned lenient state)
    (quiet : lenient ∨ Quiet state sessionId) : Owned lenient (state.discardSession sessionId) := by
  refine sound.of_kept (Kept.refl _) (fun other => ?_) rfl (Nat.le_refl _) rfl rfl
  change (state.active.pop sessionId).get? other = _ ∨
    (state.active.pop sessionId).get? other = none ∧ _
  rw [get?_pop]
  split
  · rename_i same
    rw [same]
    exact .inr ⟨rfl, quiet⟩
  · exact .inl rfl

@[simp] theorem tasks_markHistoryRewritten (sessionId reason : String) :
    (state.markHistoryRewritten sessionId reason).tasks = state.tasks := by
  unfold State.markHistoryRewritten
  split <;> rfl

section

variable (sound : Owned lenient state)

include sound

theorem Owned.markHistoryRewritten (sessionId reason : String) :
    Owned lenient (state.markHistoryRewritten sessionId reason) := by
  unfold State.markHistoryRewritten
  split
  · exact sound
  · exact sound.modifyObject _ (fun _ => rfl)
      (fun object _ => sameSteps_markHistoryRewritten object.session reason)

theorem Owned.setTask {id : TaskId} {task : Task Message Tool} (known : id < state.nextTask)
    {object : SessionObject Message Tool} (found : state.objects[task.ref]? = some object)
    (fits : TaskFits lenient state id task object) :
    Owned lenient (state.setTask id task) := by
  refine
    { sound with
      taskObject := fun other entry present => ?_
      fresh := fun other late => ?_ }
  · by_cases same : other = id
    · subst other
      change (state.tasks.set id task).get? id = some entry at present
      rw [get?_set_self, some_inj] at present
      subst entry
      exact ⟨object, found, fits.locked, fits.unreplaced, fits.admitted, fits.pending⟩
    · change (state.tasks.set id task).get? other = some entry at present
      rw [get?_set_of_ne _ _ same] at present
      obtain ⟨held, foundHeld, kept⟩ := sound.taskObject other entry present
      exact ⟨held, foundHeld, kept.locked, kept.unreplaced, kept.admitted, kept.pending⟩
  · change (state.tasks.set id task).get? other = none
    have later : other ≠ id := fun same => Nat.not_lt.mpr late (same ▸ known)
    rw [get?_set_of_ne _ _ later]
    exact sound.fresh other late

theorem Owned.known (found : state.tasks.get? id = some task) : id < state.nextTask := by
  apply Nat.lt_of_not_le
  intro late
  rw [sound.fresh id late] at found
  cases found

theorem Owned.relock {holder : Option TaskId}
    (objects : after.objects = state.objects.modify ref
      (fun object => { object with requestLock := holder })) (active : after.active = state.active)
    (next : after.nextTask = state.nextTask) (admissions : after.admissions = state.admissions)
    (recordings : after.recordings = state.recordings)
    (tasks : ∀ id, after.tasks.get? id = state.tasks.get? id ∨ after.tasks.get? id = none)
    (outside : ∀ id task, after.tasks.get? id = some task → task.ref = ref →
      task.holds = false) : Owned lenient after := by
  have changed : ∀ other : ObjectRef, after.objects[other]? = (state.objects[other]?).map
      (fun object => if ref = other then { object with requestLock := holder } else object) := by
    intro other
    rw [objects]
    exact getElem?_modify _ ref state.objects other
  have origin : ∀ (other : ObjectRef) (object : SessionObject Message Tool),
      after.objects[other]? = some object →
      ∃ before, state.objects[other]? = some before ∧ object.session = before.session := by
    intro other object found
    rw [changed] at found
    obtain ⟨before, foundBefore, rfl⟩ := map_eq_some_iff.mp found
    refine ⟨before, foundBefore, ?_⟩
    split <;> rfl
  refine
    { activeObject := fun sessionId other found => ?_
      taskObject := fun id task found => ?_
      fresh := fun id late => ?_
      numbered := fun other object found => ?_
      owned := ?_
      logged := fun other object found => ?_
      located := ?_ }
  · rw [active] at found
    obtain ⟨object, original, named⟩ := sound.activeObject sessionId other found
    rw [changed, original, map_some]
    refine ⟨_, rfl, ?_⟩
    split <;> exact named
  · have remains : state.tasks.get? id = some task := by
      rcases tasks id with same | gone
      · rw [← same, found]
      · rw [gone] at found
        cases found
    obtain ⟨object, original, fits⟩ := sound.taskObject id task remains
    rw [changed, original, map_some]
    refine ⟨_, rfl, ?_⟩
    refine
      { locked := fun holds => ?_
        unreplaced := fun generates => ?_
        admitted := fun generates => ?_
        pending := fun other request step cache storing => ?_ }
    · by_cases here : ref = task.ref
      · rw [outside id task found here.symm] at holds
        cases holds
      · rw [if_neg here]
        exact fits.locked holds
    · rw [active]
      split <;> exact fits.unreplaced generates
    · rw [admissions]
      exact fits.admitted generates
    · split <;> exact fits.pending other request step cache storing
  · rcases tasks id with same | gone
    · rw [same]
      exact sound.fresh id (next ▸ late)
    · exact gone
  · obtain ⟨before, original, same⟩ := origin other object found
    rw [same]
    exact sound.numbered other before original
  · rw [recordings, admissions]
    exact sound.owned
  · obtain ⟨before, original, same⟩ := origin other object found
    rw [same, recordings]
    exact sound.logged other before original
  · rw [recordings, objects, length_modify]
    exact sound.located

theorem Owned.lock (id : TaskId)
    (free : ((state.objects[ref]?).bind SessionObject.requestLock).isSome = false) :
    Owned lenient (state.lock ref id) := by
  refine sound.relock rfl rfl rfl rfl rfl (fun _ => .inl rfl) (fun other task found here => ?_)
  obtain ⟨object, original, fits⟩ := sound.taskObject other task found
  rw [here] at original
  rw [original, bind_some] at free
  cases holds : task.holds with
  | false => rfl
  | true =>
    rw [fits.locked holds] at free
    cases free

end

theorem Owned.leave (sound : Owned lenient state) {id : TaskId} {ref : ObjectRef} (answer : Reply)
    (held : ∀ object, state.objects[ref]? = some object → object.requestLock = some id) :
    Owned lenient (state.leave id ref answer) := by
  refine sound.relock rfl rfl rfl rfl rfl (fun other => get?_pop_or state.tasks id other)
    (fun other task found here => ?_)
  change (state.tasks.pop id).get? other = some task at found
  rw [get?_pop] at found
  split at found
  · cases found
  · rename_i another
    obtain ⟨object, original, fits⟩ := sound.taskObject other task found
    cases holds : task.holds with
    | false => rfl
    | true =>
      have mine := held object (here ▸ original)
      rw [fits.locked holds, some_inj] at mine
      exact absurd mine another

theorem Owned.drop (sound : Owned lenient state) (id : TaskId) (answer : Reply) :
    Owned lenient (state.drop id answer) := by
  refine
    { sound with
      taskObject := fun other task found => ?_
      fresh := fun other late => ?_ }
  · change (state.tasks.pop id).get? other = some task at found
    rcases get?_pop_or state.tasks id other with same | gone
    · rw [same] at found
      obtain ⟨object, original, fits⟩ := sound.taskObject other task found
      exact ⟨object, original, fits.locked, fits.unreplaced, fits.admitted, fits.pending⟩
    · rw [gone] at found
      cases found
  · change (state.tasks.pop id).get? other = none
    rcases get?_pop_or state.tasks id other with same | gone
    · rw [same]
      exact sound.fresh other late
    · exact gone

theorem Owned.openSession (sound : Owned lenient state) (instanceId : String)
    (quiet : Quiet state sessionId) :
    Owned lenient (state.openSession sessionId instanceId) := by
  have old : ∀ (ref : ObjectRef) object, state.objects[ref]? = some object →
      (state.openSession sessionId instanceId).objects[ref]? = some object := by
    intro ref object found
    exact (getElem?_append_left (List.getElem_of_getElem? found).1).trans found
  have origin : ∀ (ref : ObjectRef) object,
      (state.openSession sessionId instanceId).objects[ref]? = some object →
      state.objects[ref]? = some object ∨
        ref = state.objects.length ∧ object.session = Session.new sessionId instanceId := by
    intro ref object found
    change (state.objects ++ [_])[ref]? = some object at found
    rcases Nat.lt_or_ge ref state.objects.length with inside | outside
    · rw [getElem?_append_left inside] at found
      exact .inl found
    · rw [getElem?_append_right outside, getElem?_singleton] at found
      split at found
      · rename_i here
        cases found
        exact .inr ⟨Nat.le_antisymm (Nat.sub_eq_zero_iff_le.mp here) outside, rfl⟩
      · cases found
  refine
    { sound with
      activeObject := fun other ref found => ?_
      taskObject := fun id task found => ?_
      numbered := fun ref object found => ?_
      logged := fun ref object found => ?_
      located := fun recording member => ?_ }
  · change (state.active.set sessionId state.objects.length).get? other = some ref at found
    rw [get?_set] at found
    split at found
    · rename_i same
      cases found
      exact ⟨_, getElem?_concat_length, same.symm⟩
    · obtain ⟨object, original, named⟩ := sound.activeObject other ref found
      exact ⟨object, old ref object original, named⟩
  · obtain ⟨object, original, fits⟩ := sound.taskObject id task found
    refine ⟨object, old task.ref object original, ?_⟩
    refine
      { fits with
        unreplaced := fun generates => ?_ }
    change (state.active.set sessionId state.objects.length).get? _ = _ ∨
      lenient ∧ (state.active.set sessionId state.objects.length).get? _ = _
    rw [get?_set_of_ne _ _ (quiet id task object found generates original)]
    exact fits.unreplaced generates
  · rcases origin ref object found with original | ⟨-, new⟩
    · exact sound.numbered ref object original
    · rw [new]
      exact
        { numbered := rfl
          increasing := List.Pairwise.nil
          counted := fun step member => by cases member
          placed := fun step member => by cases member }
  · rcases origin ref object found with original | ⟨rfl, new⟩
    · exact sound.logged ref object original
    · rw [new]
      have none : state.recordings.filter
          (fun recording => recording.object = state.objects.length) = [] := by
        rw [filter_eq_nil_iff]
        intro recording member here
        exact Nat.ne_of_lt (sound.located recording member) (of_decide_eq_true here)
      change [] = (state.recordings.filter _).map _
      rw [none]
      rfl
  · change recording.object < (state.objects ++ [_]).length
    rw [length_append]
    exact Nat.lt_add_right _ (sound.located recording member)

theorem PendingStep.lineage {step : StepRecord Message Tool} (pending : PendingStep session step)
    (numbered : LineagesNumbered session) :
    ∃ lineage, session.lineages.get? step.lineageId = some lineage := by
  obtain ⟨positive, bounded⟩ := pending.placed
  rw [← mem_keys_iff, numbered.keys]
  exact mem_drawn positive bounded

theorem WellNumbered.recordStep (numbered : WellNumbered session)
    (fingerprint : List Message → String) {step : StepRecord Message Tool} (cache : SnapshotCache)
    (pending : PendingStep session step) :
    WellNumbered (session.recordStep fingerprint step cache) := by
  obtain ⟨lineage, found⟩ := pending.lineage numbered.numbered
  refine
    { numbered := numbered_recordStep found numbered.numbered
      increasing := pairwise_append.mpr ⟨numbered.increasing, pairwise_singleton _ _,
        fun earlier member later last => ?_⟩
      counted := fun other member => ?_
      placed := fun other member => ?_ }
  · rw [mem_singleton.mp last]
    exact pending.above earlier member
  · rcases mem_append.mp member with old | new
    · exact numbered.counted other old
    · rw [mem_singleton.mp new]
      exact pending.counted
  · rcases mem_append.mp member with old | new
    · exact numbered.placed other old
    · rw [mem_singleton.mp new]
      exact pending.placed

theorem Owned.append (sound : Owned lenient state) (found : state.objects[ref]? = some object)
    (active : state.active.get? sessionId = some ref) (admitted : (id, ref) ∈ state.admissions)
    (outside : ∀ other task, state.tasks.get? other = some task → task.ref = ref →
      task.holds = false) (fingerprint : List Message → String) {step : StepRecord Message Tool}
    (cache : SnapshotCache) (pending : PendingStep object.session step) :
    Owned lenient (state.recordStep fingerprint sessionId id step cache) := by
  have recorded : state.recordStep fingerprint sessionId id step cache =
      { state.modifyObject ref (fun entry =>
          { entry with
            session := entry.session.recordStep fingerprint step cache
            lastActive := state.now }) with
        recordings := state.recordings ++
          [{ task := id
             object := ref
             stepId := step.stepId }] } := by
    unfold State.recordStep
    rw [active]
  rw [recorded]
  refine
    { activeObject := fun other target foundOther => ?_
      taskObject := fun other task foundOther => ?_
      fresh := sound.fresh
      numbered := fun other entry foundOther => ?_
      owned := fun recording member => ?_
      logged := fun other entry foundOther => ?_
      located := fun recording member => ?_ }
  · obtain ⟨entry, original, named⟩ := sound.activeObject other target foundOther
    dsimp only
    rw [getElem?_modifyObject, original, map_some]
    refine ⟨_, rfl, ?_⟩
    split <;> exact named
  · obtain ⟨entry, original, fits⟩ := sound.taskObject other task foundOther
    dsimp only
    rw [getElem?_modifyObject, original, map_some]
    refine ⟨_, rfl, ?_⟩
    refine
      { locked := fun holds => ?_
        unreplaced := fun generates => ?_
        admitted := fits.admitted
        pending := fun target request pendingStep pendingCache storing => ?_ }
    · split <;> exact fits.locked holds
    · split <;> exact fits.unreplaced generates
    · by_cases here : ref = task.ref
      · have holding : task.holds = true := by
          rw [storing]
          rfl
        rw [outside other task foundOther here.symm] at holding
        cases holding
      · rw [if_neg here]
        exact fits.pending target request pendingStep pendingCache storing
  · dsimp only at foundOther
    rw [getElem?_modifyObject] at foundOther
    obtain ⟨before, original, rfl⟩ := map_eq_some_iff.mp foundOther
    by_cases here : ref = other
    · subst other
      rw [found, some_inj] at original
      subst before
      rw [if_pos rfl]
      exact (sound.numbered ref object found).recordStep fingerprint cache pending
    · rw [if_neg here]
      exact sound.numbered other before original
  · rcases mem_append.mp member with old | new
    · exact sound.owned recording old
    · rw [mem_singleton.mp new]
      exact admitted
  · dsimp only at foundOther ⊢
    rw [getElem?_modifyObject] at foundOther
    obtain ⟨before, original, rfl⟩ := map_eq_some_iff.mp foundOther
    rw [filter_append, map_append, ← sound.logged other before original]
    by_cases here : ref = other
    · rw [if_pos here]
      simp [here, Session.recordStep]
    · rw [if_neg here]
      simp [here]
  · change recording.object < (state.objects.modify ref _).length
    rw [length_modify]
    rcases mem_append.mp member with old | new
    · exact sound.located recording old
    · rw [mem_singleton.mp new]
      exact (List.getElem_of_getElem? found).1

theorem recordStep_leave (fingerprint : List Message → String) (sessionId : String) (id : TaskId)
    (step : StepRecord Message Tool) (cache : SnapshotCache) (ref : ObjectRef) (answer : Reply)
    (own : state.active.get? sessionId = some ref) :
    (state.recordStep fingerprint sessionId id step cache).leave id ref answer =
      (state.leave id ref answer).recordStep fingerprint sessionId id step cache := by
  have left : (state.leave id ref answer).active.get? sessionId = some ref := own
  unfold State.recordStep
  rw [own, left]
  simp only [State.leave, State.modifyObject, State.reply, modify_modify_eq]
  rfl

theorem Owned.record (sound : Owned lenient state) (present : state.tasks.get? id = some task)
    (generates : task.generates = true) (holds : task.holds = true)
    (found : state.objects[task.ref]? = some object) (fingerprint : List Message → String)
    {step : StepRecord Message Tool} (cache : SnapshotCache)
    (pending : PendingStep object.session step) (answer : Reply) :
    Owned lenient ((state.recordStep fingerprint object.session.sessionId id step cache).leave id task.ref
      answer) := by
  obtain ⟨own, foundOwn, fits⟩ := sound.taskObject id task present
  rw [found, some_inj] at foundOwn
  subst own
  have held : ∀ other, state.objects[task.ref]? = some other → other.requestLock = some id := by
    intro other foundOther
    rw [found, some_inj] at foundOther
    subst other
    exact fits.locked holds
  have left := sound.leave answer held
  rcases fits.unreplaced generates with active | ⟨-, gone⟩
  · rw [recordStep_leave fingerprint _ id step cache task.ref answer active]
    have foundLeft : (state.leave id task.ref answer).objects[task.ref]? =
        some { object with requestLock := none } := by
      change (state.modifyObject task.ref _).objects[task.ref]? = _
      rw [getElem?_modifyObject, found, map_some, if_pos rfl]
    refine left.append foundLeft active (fits.admitted generates)
      (fun other another foundOther here => ?_) fingerprint cache pending
    obtain ⟨entry, original, kept⟩ := left.taskObject other another foundOther
    rw [here, foundLeft, some_inj] at original
    cases keeps : another.holds with
    | false => rfl
    | true =>
      have locked := kept.locked keeps
      rw [← original] at locked
      cases locked
  · unfold State.recordStep
    rw [gone]
    exact left

def HeldBy (state : State Message Tool) (ref : ObjectRef) (id : TaskId) : Prop :=
  ∀ object, state.objects[ref]? = some object → object.requestLock = some id

theorem HeldBy.of_kept (held : HeldBy state ref id) (kept : Kept state.objects after.objects) :
    HeldBy after ref id := by
  intro changed found
  obtain ⟨object, original, lock, -⟩ := kept.origin found
  exact lock.trans (held object original)

theorem HeldBy.modifyObject (held : HeldBy state ref id) (other : ObjectRef)
    (lock : ∀ object, (change object).requestLock = object.requestLock) :
    HeldBy (state.modifyObject other change) ref id := by
  intro changed found
  rw [getElem?_modifyObject] at found
  obtain ⟨object, original, rfl⟩ := map_eq_some_iff.mp found
  split
  · exact (lock object).trans (held object original)
  · exact held object original

theorem heldBy_lock (state : State Message Tool) (ref : ObjectRef) (id : TaskId) :
    HeldBy (state.lock ref id) ref id := by
  intro object found
  unfold State.lock at found
  rw [getElem?_modifyObject] at found
  obtain ⟨before, -, rfl⟩ := map_eq_some_iff.mp found
  rw [if_pos rfl]

theorem Owned.heldBy (sound : Owned lenient state) (present : state.tasks.get? id = some task)
    (holds : task.holds = true) :
    HeldBy state task.ref id := by
  intro object found
  obtain ⟨own, foundOwn, fits⟩ := sound.taskObject id task present
  rw [found, some_inj] at foundOwn
  subst own
  exact fits.locked holds

theorem Owned.setQuiet (sound : Owned lenient state) (known : id < state.nextTask)
    (still : task.generates = false) (inside : task.ref < state.objects.length)
    (held : task.holds = true → HeldBy state task.ref id) :
    Owned lenient (state.setTask id task) := by
  have found : state.objects[task.ref]? = some state.objects[task.ref] :=
    getElem?_eq_getElem inside
  refine sound.setTask known found ?_
  refine
    { locked := fun holds => held holds _ found
      unreplaced := fun generates => ?_
      admitted := fun generates => ?_
      pending := fun ref request step cache storing => ?_ }
  · rw [still] at generates
    cases generates
  · rw [still] at generates
    cases generates
  · rw [storing] at still
    cases still

theorem Owned.rephase (sound : Owned lenient state) {id : TaskId} {old new : Task Message Tool}
    (present : state.tasks.get? id = some old) (sameRef : new.ref = old.ref)
    (holds : new.holds = true → old.holds = true)
    (generates : new.generates = true → old.generates = true)
    (pending : ∀ ref request step cache object, new = .chat ref request (.storing step cache) →
      state.objects[old.ref]? = some object → PendingStep object.session step) :
    Owned lenient (state.setTask id new) := by
  obtain ⟨object, found, fits⟩ := sound.taskObject id old present
  refine sound.setTask (sound.known present) (sameRef ▸ found) ?_
  refine
    { locked := fun holding => fits.locked (holds holding)
      unreplaced := fun generating => ?_
      admitted := fun generating => ?_
      pending := fun ref request step cache storing =>
        pending ref request step cache object storing found }
  · rw [sameRef]
    exact fits.unreplaced (generates generating)
  · rw [sameRef]
    exact fits.admitted (generates generating)

theorem Owned.noteAdmission (sound : Owned lenient state) (entry : TaskId × ObjectRef) :
    Owned lenient { state with admissions := state.admissions ++ [entry] } := by
  refine
    { sound with
      taskObject := fun id task found => ?_
      owned := fun recording member => mem_append_left _ (sound.owned recording member) }
  obtain ⟨object, original, fits⟩ := sound.taskObject id task found
  exact ⟨object, original, fits.locked, fits.unreplaced,
    fun generates => mem_append_left _ (fits.admitted generates), fits.pending⟩

theorem mem_values_of_get? [DecidableEq κ] {dict : OrderedDict κ ν} {key : κ} {value : ν}
    (found : dict.get? key = some value) : value ∈ dict.values :=
  List.mem_map.mpr ⟨(key, value), mem_of_get? found, rfl⟩

theorem not_underWay (quiet : underWay state sessionId = false)
    (present : state.tasks.get? id = some task) (generates : task.generates = true)
    (found : state.objects[task.ref]? = some object) : object.session.sessionId ≠ sessionId := by
  intro named
  have hit : underWay state sessionId = true := by
    refine List.any_eq_true.mpr ⟨task, mem_values_of_get? present, ?_⟩
    rw [generates, found, map_some, named]
    simp
  rw [quiet] at hit
  cases hit

section

variable (sound : Owned lenient state)
include sound

theorem Owned.arriveChat (sessionId : String) (request : ChatRequest Message Tool) (uuid : String)
    (unreplaced : Unreplaced server state (.arriveChat sessionId request uuid)) :
    Owned lenient (arriveChat server sessionId request uuid state) := by
  have swept : Owned lenient (state.arrive.cleanupExpired server) := sound.arrive.cleanupExpired server
  have known : state.nextTask < (state.arrive.cleanupExpired server).nextTask := Nat.lt_succ_self _
  unfold Lifecycle.arriveChat
  dsimp only
  split
  · exact swept.reply _ _
  · rename_i notFinalized
    cases active : (state.arrive.cleanupExpired server).active.get? sessionId with
    | some ref =>
      obtain ⟨object, found, -⟩ := swept.activeObject sessionId ref active
      have adopted : Owned lenient ((state.arrive.cleanupExpired server).modifyObject ref
          (fun object => { object with session := adoptInstanceId request object.session })) :=
        swept.modifyObject ref (fun _ => rfl)
          (fun object _ => sameSteps_adoptInstanceId request object.session)
      refine (adopted.touch ref).setQuiet known rfl ?_ (fun holds => by cases holds)
      change ref < (List.modify (List.modify _ _ _) _ _).length
      rw [length_modify, length_modify]
      exact (List.getElem_of_getElem? found).1
    | none =>
      have opens : (state.cleanupExpired server).opens sessionId = true := by
        change (((state.arrive.cleanupExpired server).finalizedSessionIds.get? sessionId).isNone
          && ((state.arrive.cleanupExpired server).active.get? sessionId).isNone) = true
        rw [active, isNone_none, Bool.and_true, ← not_isSome]
        simpa using notFinalized
      have quiet : underWay state sessionId = false := by
        cases running : underWay state sessionId with
        | false => rfl
        | true => exact absurd ⟨opens, running⟩ unreplaced
      have opened : Owned lenient ((state.arrive.cleanupExpired server).openSession sessionId
          ((TrajectoryStore.orElse request.instanceId none).getD uuid)) := by
        refine swept.openSession _ (fun id task object present generates found => ?_)
        obtain ⟨original, foundOriginal, -, same⟩ :=
          (kept_refreshLocked server state.arrive).origin found
        rw [same.sessionId]
        exact not_underWay quiet present generates foundOriginal
      refine opened.setQuiet known rfl ?_ (fun holds => by cases holds)
      change _ < (_ ++ [_]).length
      rw [length_append]
      exact Nat.lt_succ_self _

theorem Owned.admitChat [BEq Message] {task : TaskId} (request : ChatRequest Message Tool)
    (uuidHex : String) (known : task < state.nextTask) (held : HeldBy state ref task) :
    Owned lenient (admitChat server task ref request uuidHex state) := by
  unfold Lifecycle.admitChat
  cases found : state.objects[ref]? with
  | none => exact sound
  | some object =>
    dsimp only
    split
    · exact sound.leave _ held
    · rename_i active
      have same := sameSteps_resolveTurnId object.session request.turnId uuidHex
      have resumed := (sound.setSession found same).touch ref
      have heldResumed : HeldBy ((state.setSession ref
          (object.session.resolveTurnId request.turnId uuidHex).2).touch ref) ref task := by
        apply HeldBy.modifyObject
        · apply HeldBy.modifyObject held
          exact fun _ => rfl
        · exact fun _ => rfl
      split
      · exact resumed.leave _ heldResumed
      · split
        · exact resumed.leave _ heldResumed
        · have foundResumed : ((state.setSession ref
              (object.session.resolveTurnId request.turnId uuidHex).2).touch ref).objects[ref]? =
              some
                { object with
                  session := (object.session.resolveTurnId request.turnId uuidHex).2
                  lastActive := state.now } := by
            unfold State.touch State.setSession
            rw [getElem?_modifyObject, getElem?_modifyObject, found, map_some,
              map_some, if_pos rfl, if_pos rfl]
            rfl
          have named : state.active.get? object.session.sessionId = some ref := by
            unfold State.sessionActive at active
            simp only [Bool.not_eq_false, Bool.and_eq_true, decide_eq_true_eq] at active
            exact active.2
          refine (resumed.noteAdmission (task, ref)).setTask known foundResumed ?_
          refine
            { locked := fun _ => heldResumed _ foundResumed
              unreplaced := fun _ => .inl ?_
              admitted := fun _ => mem_append_right _ mem_cons_self
              pending := fun _ _ _ _ storing => by cases storing }
          change state.active.get? (object.session.resolveTurnId request.turnId uuidHex).2.sessionId
            = some ref
          rw [same.sessionId]
          exact named

theorem Owned.enterChat [BEq Message] (task : TaskId) (uuidHex : String) :
    Owned lenient (enterChat server task uuidHex state) := by
  unfold Lifecycle.enterChat
  split
  · rename_i ref request present
    split
    · exact sound
    · rename_i free
      have entered := (sound.lock task (Bool.not_eq_true _ ▸ free)).cleanupExpired server
      refine entered.admitChat request uuidHex (sound.known present) ?_
      exact (heldBy_lock state ref task).of_kept (kept_refreshLocked server _)
  · exact sound

theorem Owned.routeChat [BEq Message] (task : TaskId) (metadata : List HookFailure) :
    Owned lenient (routeChat server task metadata state) := by
  unfold Lifecycle.routeChat
  split
  · rename_i ref request entered present
    cases found : state.objects[ref]? with
    | none => exact sound
    | some object =>
      dsimp only
      have same : SameSteps object.session (chooseRoute server.config server.format request
          { entered with metadata := metadata } object.session).2 :=
        sameSteps_chooseRoute request _ object.session
      have routed := sound.setSession found same
      split
      · refine routed.leave _ ?_
        exact (sound.heldBy present rfl).modifyObject ref (fun _ => rfl)
      · split
        · have marked := routed.markHistoryRewritten object.session.sessionId rewriteText
          refine @Owned.rephase _ _ _ _ marked task (.chat ref request (.admitted entered)) _ ?_ rfl
            (fun _ => rfl) (fun _ => rfl) (fun _ _ _ _ _ storing => by cases storing)
          rw [tasks_markHistoryRewritten]
          exact present
        · exact routed.rephase present rfl (fun _ => rfl) (fun _ => rfl)
            (fun _ _ _ _ _ storing => by cases storing)
  · exact sound

theorem Owned.acceptChat (task : TaskId) (result : PreemptibleGenerateResult) :
    Owned lenient (acceptChat task result state) := by
  unfold Lifecycle.acceptChat
  split
  · exact sound.modifyObject _ (fun _ => rfl)
      (fun object _ => sameSteps_stampRolloutEpoch result object.session)
  · exact sound

end

theorem PendingStep.of_nextStepId (numbered : WellNumbered session) {step : StepRecord Message Tool}
    {lineage : Lineage} (drawn : step.stepId = session.nextStepId.1)
    (found : session.lineages.get? step.lineageId = some lineage) :
    PendingStep session.nextStepId.2 step := by
  obtain ⟨-, placed, bounded⟩ := numbered.numbered.of_get? found
  refine
    { above := fun earlier member => ?_
      counted := Nat.le_of_eq drawn
      placed := ⟨by rw [placed]; exact Nat.succ_pos _, bounded⟩ }
  rw [drawn]
  exact Nat.lt_succ_of_le (numbered.counted earlier member)

theorem sameSteps_nextStepId (session : Session Message Tool) :
    SameSteps session session.nextStepId.2 :=
  { steps := rfl
    stepCounter := Nat.le_succ _
    lineageCounter := Nat.le_refl _
    numbered := id
    sessionId := rfl }

section

variable (sound : Owned lenient state)

include sound

theorem Owned.recordChat (task : TaskId) (draft : StepDraft Message Tool Call)
    (values : StepField → FieldValue) :
    Owned lenient (recordChat server task draft values state) := by
  unfold Lifecycle.recordChat
  split
  · rename_i ref request admission routed present
    cases found : state.objects[ref]? with
    | none => exact sound
    | some object =>
      dsimp only
      have counted := sound.setSession found (sameSteps_nextStepId object.session)
      have foundCounted : (state.setSession ref object.session.nextStepId.2).objects[ref]? =
          some { object with session := object.session.nextStepId.2 } := by
        unfold State.setSession
        rw [getElem?_modifyObject, found, map_some, if_pos rfl]
      cases registered : object.session.nextStepId.2.lineages.get? routed.route.lineageId with
      | none =>
        refine counted.leave _ ?_
        exact (sound.heldBy present rfl).modifyObject ref (fun _ => rfl)
      | some lineage =>
        dsimp only
        have pending : PendingStep object.session.nextStepId.2
            (({ draft with admission := admission, routed := routed } :
              StepDraft Message Tool Call).step server.config.tokenBuildMode
                object.session.nextStepId.1 lineage.index values) :=
          PendingStep.of_nextStepId (sound.numbered ref object found) rfl registered
        split
        · exact counted.record present rfl rfl foundCounted _ _ pending _
        · refine counted.rephase present rfl (fun _ => rfl) (fun _ => rfl) ?_
          intro other otherRequest step cache entry storing foundEntry
          have same := foundCounted.symm.trans foundEntry
          cases same
          cases storing
          exact pending
  · exact sound

theorem Owned.commitChat (task : TaskId) (stored : Bool) :
    Owned lenient (commitChat server task stored state) := by
  unfold Lifecycle.commitChat
  split
  · rename_i ref request step cache present
    cases found : state.objects[ref]? with
    | none => exact sound
    | some object =>
      have held := sound.heldBy present rfl
      obtain ⟨own, foundOwn, fits⟩ := sound.taskObject task _ present
      have same : some object = some own := found.symm.trans foundOwn
      cases same
      dsimp only
      split
      · exact sound.leave _ held
      · split
        · exact sound.leave _ held
        · exact sound.record present rfl rfl foundOwn _ _
            (fits.pending ref request step cache rfl) _
  · exact sound

theorem Owned.succeed (task : TaskId) (sessionId : String) (result : FinalizationResult) :
    Owned lenient (state.succeed task sessionId result) :=
  sound.of_kept (Kept.refl _) (fun _ => .inl rfl) rfl (Nat.le_refl _) rfl rfl

theorem Owned.arriveFinalize (sessionId : String) (instanceId : Option String) :
    Owned lenient (arriveFinalize server sessionId instanceId state) := by
  have swept : Owned lenient (state.arrive.cleanupExpired server) := sound.arrive.cleanupExpired server
  have known : state.nextTask < (state.arrive.cleanupExpired server).nextTask := Nat.lt_succ_self _
  unfold Lifecycle.arriveFinalize
  dsimp only
  split
  · exact (swept.succeed _ _ _).reply _ _
  · split
    · exact swept.reply _ _
    · rename_i ref active
      obtain ⟨object, found, -⟩ := swept.activeObject sessionId ref active
      exact swept.setQuiet known rfl (List.getElem_of_getElem? found).1
        (fun holds => by cases holds)

theorem Owned.publish {task : TaskId} (sessionId : String) (instanceId : Option String)
    (uuids : FinalizeUuids) (fault : Option String) (known : task < state.nextTask)
    (held : HeldBy state ref task)
    (still : ∀ entry, state.tasks.get? task = some entry → entry.generates = false) :
    Owned lenient (publish server task ref sessionId instanceId uuids fault state) := by
  unfold Lifecycle.publish
  split
  · exact (sound.succeed _ _ _).leave _ held
  · cases found : state.objects[ref]? with
    | none => exact sound
    | some object =>
      dsimp only
      split
      · exact sound.leave _ held
      · rename_i active
        -- The lock is this request's own, so nothing generates on the session.
        have quiet : lenient ∨ Quiet state sessionId := by
          refine sound.quiet_of_unheld (not_not.mp active) (fun id entry present generates here => ?_)
          have locked := sound.heldBy present (Task.holds_of_generates generates)
          rw [here] at locked
          have mine := (held object found).symm.trans (locked object found)
          rw [some_inj] at mine
          subst mine
          rw [still entry present] at generates
          cases generates
        split
        · exact sound.leave _ held
        · split
          · exact sound.leave _ held
          · apply Owned.setQuiet
            · refine sound.of_kept (Kept.refl _) (fun other => ?_) rfl (Nat.le_refl _) rfl rfl
              change (state.active.pop sessionId).get? other = _ ∨
                (state.active.pop sessionId).get? other = none ∧ _
              rw [get?_pop]
              split
              · rename_i same
                rw [same]
                exact .inr ⟨rfl, quiet⟩
              · exact .inl rfl
            · exact known
            · rfl
            · exact (List.getElem_of_getElem? found).1
            · exact fun _ => held

theorem Owned.enterFinalize (task : TaskId) (uuids : FinalizeUuids) (fault : Option String) :
    Owned lenient (enterFinalize server task uuids fault state) := by
  unfold Lifecycle.enterFinalize
  split
  · rename_i ref sessionId instanceId present
    split
    · exact sound
    · rename_i free
      have entered := (sound.lock task (Bool.not_eq_true _ ▸ free)).cleanupExpired server
      refine entered.publish sessionId instanceId uuids fault (sound.known present)
        ((heldBy_lock state ref task).of_kept (kept_refreshLocked server _)) ?_
      intro entry stays
      have same := present.symm.trans stays
      cases same
      rfl
  · exact sound

theorem Owned.settleFinalize (task : TaskId) : Owned lenient (settleFinalize task state) := by
  unfold Lifecycle.settleFinalize
  split
  · rename_i ref sessionId instanceId result present
    exact sound.leave _ (sound.heldBy present rfl)
  · exact sound

theorem Owned.arriveDiscard (sessionId : String) (quiet : lenient ∨ Quiet state sessionId) :
    Owned lenient (arriveDiscard server sessionId state) := by
  have gone : Owned lenient (state.arrive.discardSession sessionId) :=
    sound.arrive.discardSession quiet
  unfold Lifecycle.arriveDiscard
  dsimp only
  split
  · exact gone.reply _ _
  · split
    · exact gone.reply _ _
    · rename_i ref active
      obtain ⟨object, found, -⟩ := sound.activeObject sessionId ref active
      exact sound.arrive.setQuiet (Nat.lt_succ_self _) rfl (List.getElem_of_getElem? found).1
        (fun holds => by cases holds)

theorem Owned.enterDiscard (task : TaskId)
    (spares : lenient ∨ SparesRequests state (.enterDiscard task : Action Message Tool Call)) :
    Owned lenient (enterDiscard task state) := by
  unfold Lifecycle.enterDiscard
  split
  · rename_i ref sessionId present
    split
    · exact sound
    · rename_i free
      obtain ⟨object, found, -⟩ := sound.taskObject task _ present
      have quiet : lenient ∨ Quiet (state.lock ref task) sessionId :=
        spares.imp_right (fun idle =>
          (quiet_of_not_underWay (idle ref sessionId _ present)).lock ref task)
      have entered := (sound.lock task (Bool.not_eq_true _ ▸ free)).discardSession quiet
      refine entered.setQuiet (sound.known present) rfl ?_ (fun _ => heldBy_lock state ref task)
      exact Nat.lt_of_lt_of_eq (List.getElem_of_getElem? found).1 (length_modify ..).symm
  · exact sound

theorem Owned.settleDiscard (task : TaskId) : Owned lenient (settleDiscard task state) := by
  unfold Lifecycle.settleDiscard
  split
  · rename_i ref sessionId removed present
    exact sound.leave _ (sound.heldBy present rfl)
  · exact sound

theorem Owned.abandon (task : TaskId) (status : Option Nat) :
    Owned lenient (abandon task status state) := by
  unfold Lifecycle.abandon
  dsimp only
  split
  · exact sound
  · exact sound
  · rename_i pending storing present
    split
    · rename_i holds
      exact sound.leave _ (sound.heldBy present holds)
    · exact sound.drop _ _

end

theorem owned_step [BEq Message] (server : Server Message Tool Call) (state : State Message Tool)
    (action : Action Message Tool Call) (sound : Owned lenient state)
    (unreplaced : Unreplaced server state action) (spares : lenient ∨ SparesRequests state action) :
    Owned lenient (step server state action) := by
  cases action with
  | tick now => exact sound.of_kept (Kept.refl _) (fun _ => .inl rfl) rfl (Nat.le_refl _) rfl rfl
  | sweep => exact sound.cleanupExpired server
  | arriveChat sessionId request uuid => exact sound.arriveChat sessionId request uuid unreplaced
  | enterChat task uuidHex => exact sound.enterChat task uuidHex
  | routeChat task metadata => exact sound.routeChat task metadata
  | acceptChat task result => exact sound.acceptChat task result
  | recordChat task draft values => exact sound.recordChat task draft values
  | commitChat task stored => exact sound.commitChat task stored
  | arriveFinalize sessionId instanceId => exact sound.arriveFinalize sessionId instanceId
  | enterFinalize task uuids fault => exact sound.enterFinalize task uuids fault
  | settleFinalize task => exact sound.settleFinalize task
  | arriveDiscard sessionId =>
    exact sound.arriveDiscard sessionId (spares.imp_right quiet_of_not_underWay)
  | enterDiscard task => exact sound.enterDiscard task spares
  | settleDiscard task => exact sound.settleDiscard task
  | abandon task status => exact sound.abandon task status

theorem Owned.unreplaced (sound : Owned False state) (server : Server Message Tool Call)
    (action : Action Message Tool Call) : Unreplaced server state action := by
  cases action with
  | arriveChat sessionId request uuid =>
    rintro ⟨opens, running⟩
    obtain ⟨task, member, fits⟩ := List.any_eq_true.mp running
    obtain ⟨⟨id, entry⟩, inEntries, rfl⟩ := List.mem_map.mp member
    obtain ⟨generates, named⟩ := Bool.and_eq_true_iff.mp fits
    obtain ⟨object, found, same⟩ := map_eq_some_iff.mp (of_decide_eq_true named)
    have swept := sound.cleanupExpired server
    have present : (state.cleanupExpired server).tasks.get? id = some entry :=
      get?_of_mem inEntries
    obtain ⟨changed, foundChanged, kept⟩ := swept.taskObject id entry present
    obtain ⟨original, foundOriginal, -, steps⟩ :=
      (kept_refreshLocked server state).origin foundChanged
    rw [found, some_inj] at foundOriginal
    subst original
    rcases kept.unreplaced generates with active | ⟨impossible, -⟩
    · rw [steps.sessionId, same] at active
      unfold State.opens at opens
      rw [active, isNone_some, Bool.and_false] at opens
      cases opens
    · exact impossible
  | _ => trivial

/-- A run that discards no session under a request never opens a second one beside it either. -/
theorem admits_unreplaced [BEq Message] (server : Server Message Tool Call) (now : ℚ)
    (store : TrajectoryStore.Store) (actions : List (Action Message Tool Call))
    (spares : Runs.Admits (step server) SparesRequests (State.initial now store) actions) :
    Runs.Admits (step server) (Unreplaced server) (State.initial now store) actions := by
  refine Runs.admits_of_prefixes (fun past action early => ?_)
  have sound : Owned False (Runs.run (step server) (State.initial now store) past) :=
    Runs.prefix_invariant (fun state action sound spares =>
      owned_step server state action sound (sound.unreplaced server action) (.inr spares))
      (owned_initial now store) spares ((prefix_append past [action]).trans early)
  exact sound.unreplaced server action

/-- In every run that never opens a second session beside an admitted request, every step stands
on the session that admitted its request, at every moment. -/
theorem steps_owned_of_unreplaced [BEq Message] (server : Server Message Tool Call) (now : ℚ)
    (store : TrajectoryStore.Store) (actions : List (Action Message Tool Call))
    (unreplaced : Runs.Admits (step server) (Unreplaced server) (State.initial now store) actions)
    (past : List (Action Message Tool Call)) (early : past <+: actions) :
    StepsOwned (Runs.run (step server) (State.initial now store) past) := by
  have sound : Owned True (Runs.run (step server) (State.initial now store) past) :=
    Runs.prefix_invariant (fun state action sound allowed =>
      owned_step server state action sound allowed (.inl trivial))
      (owned_initial now store) unreplaced early
  exact sound.stepsOwned

open PlainFormat in
def plainServer : Server PlainMessage String String :=
  { config := PlainFormat.config
    format := PlainFormat.format
    sessionTimeout := 3200 }

open PlainFormat in
def emptyDraft : StepDraft PlainMessage String String :=
  { admission :=
      { instanceId := "instance"
        turnId := "turn"
        previousStep := none
        normalizedMessages := []
        metadata := []
        appendOnly := true
        toolsHash := "" }
    routed :=
      { route :=
          { lineageId := 1
            type := .create
            baseStepId := none }
        routeBaseStep := none
        rewriteReason := none
        segmentReasonsBefore := []
        segmentBoundaryBefore := false
        lineageSegmentReasonsBefore := [] }
    prepared :=
      { payload :=
          { inputIds := []
            contextDeltaIds := []
            usedTitoForPrompt := false
            titoIncrementalTokenizationFailed := false }
        segmentReasonsBefore := []
        segmentBoundaryBefore := false
        lineageSegmentReasonsBefore := []
        lineageSegmentBoundaryBefore := false }
    result :=
      { inputTokenIds := []
        inputTokenLogprobsRaw := []
        inputTokenTexts := []
        outputIds := []
        outputTokenLogprobs := []
        outputTokenTexts := []
        outputVersions := []
        allTokenIds := []
        allLogprobs := []
        text := ""
        metaWeightVersion := none
        contextOverflow := none
        finishReason := "stop"
        allLogprobsInvalid := false
        rolloutEpoch := none
        chunks := [] }
    accepted :=
      { responseVersions := []
        responseVersion := "1"
        outputOverflow := false }
    interpreted :=
      { content := none
        reasoningContent := none
        toolCalls := []
        finishReason := "stop"
        metadata := [] }
    tools := none
    fullMessages := []
    normalizedFullMessages := []
    snapshotTokenIds := [] }

open PlainFormat in
def servedRun : List (Action PlainMessage String String) :=
  [.arriveChat "session" (request []) "instance", .enterChat 0 "0", .routeChat 0 [],
    .recordChat 0 emptyDraft (fun _ => .resident []), .arriveDiscard "session",
    .arriveChat "session" (request []) "instance"]

theorem steps_owned_of_served_run :
    Runs.Admits (step plainServer) (Unreplaced plainServer)
        (State.initial 0 (TrajectoryStore.Store.initial 1 1)) servedRun ∧
      (Runs.run (step plainServer) (State.initial 0 (TrajectoryStore.Store.initial 1 1))
        servedRun).recordings =
          [{ task := 0
             object := 0
             stepId := 1 }] ∧
      StepsOwned (Runs.run (step plainServer)
        (State.initial 0 (TrajectoryStore.Store.initial 1 1)) servedRun) := by
  have unreplaced : Runs.Admits (step plainServer) (Unreplaced plainServer)
    (State.initial 0 (TrajectoryStore.Store.initial 1 1)) servedRun := by decide +kernel
  refine ⟨unreplaced, by decide +kernel, ?_⟩
  exact steps_owned_of_unreplaced plainServer 0 (TrajectoryStore.Store.initial 1 1) servedRun
    unreplaced servedRun (prefix_refl _)

open PlainFormat in
def replacedRun : List (Action PlainMessage String String) :=
  [.arriveChat "session" (request []) "instance", .enterChat 0 "0", .routeChat 0 [],
    .arriveDiscard "session",
    .arriveChat "session" (request []) "instance", .enterChat 2 "0", .routeChat 2 [],
    .recordChat 2 emptyDraft (fun _ => .resident []),
    .recordChat 0 emptyDraft (fun _ => .resident [])]

/-- The late answer is appended to the new session, under a step id that is taken there. -/
theorem late_step_joins_new_session :
    plainServer.config.transferQueue = none ∧
      (Runs.run (step plainServer) (State.initial 0 (TrajectoryStore.Store.initial 1 1))
        replacedRun).admissions = [(0, 0), (2, 1)] ∧
      (Runs.run (step plainServer) (State.initial 0 (TrajectoryStore.Store.initial 1 1))
        replacedRun).recordings =
          [{ task := 2
             object := 1
             stepId := 1 },
            { task := 0
              object := 1
              stepId := 1 }] ∧
      ¬ StepsOwned (Runs.run (step plainServer)
        (State.initial 0 (TrajectoryStore.Store.initial 1 1)) replacedRun) := by
  have admissions : (Runs.run (step plainServer)
    (State.initial 0 (TrajectoryStore.Store.initial 1 1)) replacedRun).admissions =
      [(0, 0), (2, 1)] := by decide +kernel
  have recordings : (Runs.run (step plainServer)
    (State.initial 0 (TrajectoryStore.Store.initial 1 1)) replacedRun).recordings =
      [{ task := 2
         object := 1
         stepId := 1 },
        { task := 0
          object := 1
          stepId := 1 }] := by decide +kernel
  refine ⟨rfl, admissions, recordings, fun owned => ?_⟩
  have late := owned.owned
    { task := 0
      object := 1
      stepId := 1 } (by simp [recordings])
  rw [admissions] at late
  exact absurd late (by decide)

end Dressage.Proxy.Lifecycle

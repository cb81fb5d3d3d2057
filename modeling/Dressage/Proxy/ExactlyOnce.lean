/-
Finalization publishes a session once and completely.

A session leaves the active map in the step that publishes it and never comes back, and a step
is only appended to an active object.
-/

import Dressage.Proxy.SegmentOrder
import Dressage.Proxy.StepOwnership

namespace Dressage.Proxy.Lifecycle

open Lib Transport Generation List OrderedDict Option

variable {Message Tool Call : Type} {server : Server Message Tool Call}
variable {state middle after : State Message Tool} {lenient : Prop}

/-- The timeline view has one record per step, in order; the lineage view of tito mode has every
step in exactly one record. -/
structure Complete (config : ProxyConfig) (steps : List (StepRecord Message Tool))
    (records : List (SegmentRecord Message Tool)) : Prop where
  timeline : (ofView .timeline records).map (fun record => record.extraInfo.stepIds) =
    steps.map (fun step => [step.stepId])
  lineage : config.tokenBuildMode = .tito →
    ((ofView .lineage records).flatMap (fun record => record.extraInfo.stepIds)).Perm
      (steps.map StepRecord.stepId)

variable {α : Type} {items : List α} {session : Session Message Tool} {config : ProxyConfig}
variable {instanceId fault : Option String} {records : List (SegmentRecord Message Tool)}
variable {batch : List (SegmentRecord Message Tool) × TrajectoryStore.Store} {uuids : FinalizeUuids}
variable {object : SessionObject Message Tool} {sessionId : String} {task : TaskId}
variable {ref : ObjectRef}

theorem map_of_forall₂ {β γ : Type} {fits : α → β → Prop} {shown : α → γ} {read : β → γ}
    {records : List β} (fitting : List.Forall₂ fits items records)
    (same : ∀ item ∈ items, ∀ record, fits item record → read record = shown item) :
    records.map read = items.map shown := by
  induction fitting with
  | nil => rfl
  | cons fit _ ih =>
    rw [map_cons, map_cons, same _ mem_cons_self _ fit,
      ih (fun item member => same item (mem_cons_of_mem _ member))]

theorem extraInfo_of_lineageRecord {segment : Segment Message Tool} {placement : Placement}
    {record : SegmentRecord Message Tool}
    (built : buildTitoLineageSegmentRecord config session segment placement = .ok record) :
    record.extraInfo = titoLineageInfo config session segment := by
  unfold buildTitoLineageSegmentRecord at built
  split at built
  · cases built
  · dsimp only at built
    split at built
    · cases built
    · split at built
      · cases built
      · split at built
        · cases built
        · cases built
          rfl

theorem extraInfo_of_snapshotRecord {segment : Segment Message Tool} {placement : Placement}
    {record : SegmentRecord Message Tool} {step : StepRecord Message Tool}
    (alone : segment.steps = [step])
    (built : buildStepSnapshotRecord config session segment placement = .ok record) :
    record.extraInfo.segmentView = .timeline ∧ record.extraInfo.stepIds = [step.stepId] := by
  unfold buildStepSnapshotRecord at built
  rw [alone, getLast?_singleton] at built
  dsimp only at built
  split at built
  · cases built
  · cases built
    exact ⟨rfl, rfl⟩

theorem map_zipIdx_forget {β : Type} (read : α → β) (items : List α) :
    items.zipIdx.map (fun entry => read entry.1) = items.map read := by
  calc items.zipIdx.map (fun entry => read entry.1)
      = (items.zipIdx.map Prod.fst).map read := List.map_map.symm
    _ = items.map read := by rw [zipIdx_map_fst]

theorem timelineRecords_shown (built : timelineRecords config session instanceId = .ok records) :
    records.map (fun record => (record.extraInfo.segmentView, record.extraInfo.stepIds)) =
      session.steps.map (fun step => (SegmentView.timeline, [step.stepId])) := by
  have shown : records.map (fun record =>
      (record.extraInfo.segmentView, record.extraInfo.stepIds)) =
        (splitSessionIntoTimelineSegments session).zipIdx.map (fun entry =>
          (SegmentView.timeline, entry.1.steps.map StepRecord.stepId)) := by
    refine map_of_forall₂ (buildAll_iff.mp built) (fun entry member record fit => ?_)
    obtain ⟨step, -, shape⟩ := List.mem_map.mp (fst_mem_of_mem_zipIdx member)
    have alone : entry.1.steps = [step] := by rw [← shape]
    have info := extraInfo_of_snapshotRecord alone fit
    rw [info.1, info.2, alone]
    rfl
  refine shown.trans ((map_zipIdx_forget (fun segment : Segment Message Tool =>
    (SegmentView.timeline, segment.steps.map StepRecord.stepId)) _).trans ?_)
  unfold splitSessionIntoTimelineSegments
  rw [List.map_map]
  rfl

theorem lineageRecords_shown (built : lineageRecords config session instanceId = .ok records) :
    records.map (fun record => (record.extraInfo.segmentView, record.extraInfo.stepIds)) =
      (splitSessionIntoLineageSegments session).map (fun segment =>
        (SegmentView.lineage, segment.steps.map StepRecord.stepId)) := by
  refine Eq.trans ?_ (map_zipIdx_forget (fun segment : Segment Message Tool =>
    (SegmentView.lineage, segment.steps.map StepRecord.stepId)) _)
  refine map_of_forall₂ (buildAll_iff.mp built) (fun entry _ record fit => ?_)
  rw [extraInfo_of_lineageRecord fit]
  rfl

theorem perm_flatMap_filter {κ : Type} [DecidableEq κ] (key : α → κ) {keys : List κ}
    (distinct : keys.Nodup) (covered : ∀ item ∈ items, key item ∈ keys) :
    (keys.flatMap (fun bin => items.filter (fun item => key item = bin))).Perm items := by
  induction keys generalizing items with
  | nil =>
    cases items with
    | nil => exact List.Perm.nil
    | cons item rest => exact absurd (covered item mem_cons_self) not_mem_nil
  | cons bin rest ih =>
    obtain ⟨notLater, distinctRest⟩ := nodup_cons.mp distinct
    have others : ∀ item ∈ items.filter (fun item => ¬ key item = bin), key item ∈ rest := by
      intro item member
      obtain ⟨inItems, other⟩ := mem_filter.mp member
      exact (mem_cons.mp (covered item inItems)).resolve_left (of_decide_eq_true other)
    have same : rest.flatMap (fun later => items.filter (fun item => key item = later)) =
        rest.flatMap (fun later => (items.filter (fun item => ¬ key item = bin)).filter
          (fun item => key item = later)) := by
      refine flatMap_congr (fun later inRest => ?_)
      rw [List.filter_filter]
      refine filter_congr (fun item _ => ?_)
      by_cases here : key item = later
      · have apart : later ≠ bin := fun same => notLater (same ▸ inRest)
        simp [here, apart]
      · simp [here]
    rw [flatMap_cons, same]
    refine (List.Perm.append_left _ (ih distinctRest others)).trans ?_
    have parts := filter_append_perm (fun item => decide (key item = bin)) items
    simpa using parts

theorem ofView_of_shown {view other : SegmentView}
    (all : ∀ record ∈ records, record.extraInfo.segmentView = other) :
    ofView view records = if other = view then records else [] := by
  unfold ofView
  split
  · rename_i same
    refine filter_eq_self.mpr (fun record member => ?_)
    rw [all record member, same]
    exact decide_eq_true rfl
  · rename_i apart
    refine filter_eq_nil_iff.mpr (fun record member => ?_)
    rw [all record member]
    exact fun same => apart (of_decide_eq_true same)

theorem views_of_shown {view : SegmentView} {stepIds : α → List StepId}
    (shown : records.map (fun record => (record.extraInfo.segmentView, record.extraInfo.stepIds)) =
      items.map (fun item => (view, stepIds item))) :
    (∀ record ∈ records, record.extraInfo.segmentView = view) ∧
      records.map (fun record => record.extraInfo.stepIds) = items.map stepIds := by
  constructor
  · intro record member
    have inShown : (record.extraInfo.segmentView, record.extraInfo.stepIds) ∈
        items.map (fun item => (view, stepIds item)) := by
      rw [← shown]
      exact List.mem_map.mpr ⟨record, member, rfl⟩
    obtain ⟨item, -, same⟩ := List.mem_map.mp inShown
    exact (Prod.mk.inj same).1.symm
  · have ids := congrArg (List.map Prod.snd) shown
    rw [List.map_map, List.map_map] at ids
    exact ids

theorem WellNumbered.segments_perm (numbered : WellNumbered session) :
    ((splitSessionIntoLineageSegments session).map Segment.steps).flatten.Perm session.steps := by
  rw [splitSessionIntoLineageSegments_flatten]
  have sorted : (sortedLineages session).Perm session.lineages.values :=
    perm_insertionSort _ _
  refine (sorted.flatMap_right _).trans ?_
  have covered : ∀ step ∈ session.steps,
      step.lineageId ∈ session.lineages.values.map Lineage.id := by
    intro step member
    obtain ⟨positive, bounded⟩ := numbered.placed step member
    rw [LineagesNumbered.ids numbered.numbered]
    exact mem_drawn positive bounded
  have binned := perm_flatMap_filter StepRecord.lineageId numbered.lineageIds covered
  rw [flatMap_map] at binned
  exact binned

theorem complete_of_finalizeSession (numbered : WellNumbered session)
    (built : Proxy.finalizeSession config session instanceId = .ok records) :
    Complete config session.steps records := by
  unfold Proxy.finalizeSession at built
  split at built
  · cases built
  · cases mode : config.tokenBuildMode with
    | snapshot =>
      rw [mode] at built
      obtain ⟨views, ids⟩ := views_of_shown (timelineRecords_shown built)
      refine
        { timeline := ?_
          lineage := fun tito => by
            rw [mode] at tito
            cases tito }
      rw [ofView_of_shown views, if_pos rfl]
      exact ids
    | tito =>
      rw [mode] at built
      dsimp only at built
      cases first : lineageRecords config session instanceId with
      | error message =>
        rw [first] at built
        cases built
      | ok lineages =>
        cases second : timelineRecords config session instanceId with
        | error message =>
          rw [first, second] at built
          cases built
        | ok timeline =>
          rw [first, second] at built
          cases built
          obtain ⟨lineageViews, lineageIds⟩ := views_of_shown (lineageRecords_shown first)
          obtain ⟨timelineViews, timelineIds⟩ :=
            views_of_shown (timelineRecords_shown second)
          have split : ∀ view, ofView view (lineages ++ timeline) =
            ofView view lineages ++ ofView view timeline := fun view => filter_append ..
          refine
            { timeline := ?_
              lineage := fun _ => ?_ }
          · rw [split, ofView_of_shown lineageViews, ofView_of_shown timelineViews,
              if_neg (by simp), if_pos rfl, nil_append]
            exact timelineIds
          · rw [split, ofView_of_shown lineageViews, ofView_of_shown timelineViews,
              if_pos rfl, if_neg (by simp), append_nil, flatMap_def, lineageIds]
            have ids : ((splitSessionIntoLineageSegments session).map (fun segment =>
                segment.steps.map StepRecord.stepId)).flatten =
                (((splitSessionIntoLineageSegments session).map Segment.steps).flatten).map
                  StepRecord.stepId := by
              rw [map_flatten, List.map_map]
              rfl
            rw [ids]
            exact numbered.segments_perm.map StepRecord.stepId

def Succeeded (state : State Message Tool) (id : TaskId) (result : FinalizationResult) : Prop :=
  ∃ success ∈ state.successes, success.task = id ∧ success.result = result

def Settling (state : State Message Tool) (id : TaskId) (result : FinalizationResult) : Prop :=
  ∃ ref sessionId instanceId,
    state.tasks.get? id = some (.finalize ref sessionId instanceId (some result))

/-- Steps are appended to active objects only, objects become active only when they are new, and
nothing is published. -/
structure Advance (state after : State Message Tool) : Prop where
  steps : ∀ (ref : ObjectRef) object, state.objects[ref]? = some object →
    ∃ changed, after.objects[ref]? = some changed ∧
      (changed.session.steps = object.session.steps ∨
        ∃ sessionId, state.active.get? sessionId = some ref)
  active : ∀ sessionId ref, after.active.get? sessionId = some ref →
    state.active.get? sessionId = some ref ∨ state.objects.length ≤ ref
  publications : after.publications = state.publications
  store : after.store = state.store
  successes : ∀ success ∈ state.successes, success ∈ after.successes
  finalized : ∀ id result, (id, Reply.finalized result) ∈ after.replies →
    (id, Reply.finalized result) ∈ state.replies ∨ Succeeded after id result ∨
      Settling state id result
  settling : ∀ id result, Settling after id result → Settling state id result

namespace Advance

theorem refl (state : State Message Tool) : Advance state state :=
  { steps := fun _ object found => ⟨object, found, .inl rfl⟩
    active := fun _ _ found => .inl found
    publications := rfl
    store := rfl
    successes := fun _ member => member
    finalized := fun _ _ member => .inl member
    settling := fun _ _ settling => settling }

theorem size (advance : Advance state after) : state.objects.length ≤ after.objects.length := by
  apply Nat.le_of_not_lt
  intro shorter
  obtain ⟨changed, found, -⟩ := advance.steps after.objects.length
    state.objects[after.objects.length] (getElem?_eq_getElem shorter)
  rw [getElem?_eq_none (Nat.le_refl _)] at found
  cases found

theorem trans (first : Advance state middle) (second : Advance middle after) :
    Advance state after := by
  refine
    { steps := fun ref object found => ?_
      active := fun sessionId ref found => ?_
      publications := second.publications.trans first.publications
      store := second.store.trans first.store
      successes := fun success member => second.successes success (first.successes success member)
      finalized := fun id result member => ?_
      settling := fun id result settling => first.settling id result
        (second.settling id result settling) }
  · obtain ⟨once, foundOnce, onceSteps⟩ := first.steps ref object found
    obtain ⟨twice, foundTwice, twiceSteps⟩ := second.steps ref once foundOnce
    refine ⟨twice, foundTwice, ?_⟩
    rcases twiceSteps with same | ⟨sessionId, active⟩
    · rcases onceSteps with sameOnce | active
      · exact .inl (same.trans sameOnce)
      · exact .inr active
    · rcases first.active sessionId ref active with before | new
      · exact .inr ⟨sessionId, before⟩
      · exact absurd (List.getElem_of_getElem? found).1 (Nat.not_lt.mpr new)
  · rcases second.active sessionId ref found with before | new
    · exact first.active sessionId ref before
    · exact .inr (first.size.trans new)
  · rcases second.finalized id result member with before | succeeded | settling
    · rcases first.finalized id result before with earlier | ⟨success, inMiddle, shape⟩ | settling
      · exact .inl earlier
      · exact .inr (.inl ⟨success, second.successes success inMiddle, shape⟩)
      · exact .inr (.inr settling)
    · exact .inr (.inl succeeded)
    · exact .inr (.inr (first.settling id result settling))

theorem of_steps (same : ∀ (ref : ObjectRef) object, state.objects[ref]? = some object →
      ∃ changed, after.objects[ref]? = some changed ∧ changed.session.steps = object.session.steps)
    (active : ∀ sessionId, after.active.get? sessionId = state.active.get? sessionId ∨
      after.active.get? sessionId = none)
    (tasks : after.tasks = state.tasks) (publications : after.publications = state.publications)
    (store : after.store = state.store) (successes : after.successes = state.successes)
    (replies : after.replies = state.replies) : Advance state after := by
  refine
    { steps := fun ref object found => ?_
      active := fun sessionId ref found => ?_
      publications := publications
      store := store
      successes := fun success member => by
        rw [successes]
        exact member
      finalized := fun id result member => by
        rw [replies] at member
        exact .inl member
      settling := fun id result settling => by
        unfold Settling at settling ⊢
        rw [tasks] at settling
        exact settling }
  · obtain ⟨changed, foundChanged, steps⟩ := same ref object found
    exact ⟨changed, foundChanged, .inl steps⟩
  · rcases active sessionId with kept | gone
    · exact .inl (kept ▸ found)
    · rw [gone] at found
      cases found

theorem modifyObject (ref : ObjectRef)
    {change : SessionObject Message Tool → SessionObject Message Tool}
    (same : ∀ object, state.objects[ref]? = some object →
      (change object).session.steps = object.session.steps) :
    Advance state (state.modifyObject ref change) := by
  refine of_steps (fun other object found => ?_) (fun _ => .inl rfl) rfl rfl rfl rfl rfl
  rw [getElem?_modifyObject, found, map_some]
  refine ⟨_, rfl, ?_⟩
  by_cases here : ref = other
  · subst other
    rw [if_pos rfl]
    exact same object found
  · rw [if_neg here]

theorem setSession {ref : ObjectRef} {object : SessionObject Message Tool}
    (found : state.objects[ref]? = some object) {session : Session Message Tool}
    (same : SameSteps object.session session) : Advance state (state.setSession ref session) := by
  refine modifyObject ref (fun other foundOther => ?_)
  rw [found, some_inj] at foundOther
  subst other
  exact same.steps

theorem touch (ref : ObjectRef) : Advance state (state.touch ref) :=
  modifyObject ref (fun _ _ => rfl)

theorem lock (ref : ObjectRef) (id : TaskId) : Advance state (state.lock ref id) :=
  modifyObject ref (fun _ _ => rfl)

theorem arrive : Advance state state.arrive :=
  of_steps (fun _ object found => ⟨object, found, rfl⟩) (fun _ => .inl rfl) rfl rfl rfl rfl rfl

theorem cleanupExpired (server : Server Message Tool Call) :
    Advance state (state.cleanupExpired server) := by
  refine of_steps (fun ref object found => ?_) (fun sessionId => get?_popAll_or _ _ sessionId) rfl
    rfl rfl rfl rfl
  obtain ⟨changed, foundChanged, -, same⟩ := (kept_refreshLocked server state).kept ref object found
  exact ⟨changed, foundChanged, same.steps⟩

theorem markHistoryRewritten (sessionId reason : String) :
    Advance state (state.markHistoryRewritten sessionId reason) := by
  unfold State.markHistoryRewritten
  split
  · exact refl state
  · exact modifyObject _ (fun object _ => (sameSteps_markHistoryRewritten object.session reason).steps)

variable {id : TaskId}

theorem reply {answer : Reply} (plain : ∀ result, answer ≠ .finalized result) :
    Advance state (state.reply id answer) :=
  { refl state with
    finalized := fun other result member => by
      rcases mem_append.mp member with old | new
      · exact .inl old
      · have same := mem_singleton.mp new
        exact absurd (Prod.mk.inj same).2.symm (plain result) }

theorem setTask {task : Task Message Tool}
    (unpublished : ∀ ref sessionId instanceId result,
      task ≠ .finalize ref sessionId instanceId (some result)) :
    Advance state (state.setTask id task) :=
  { refl state with
    settling := fun other result settling => by
      obtain ⟨ref, sessionId, instanceId, found⟩ := settling
      change (state.tasks.set id task).get? other = _ at found
      rw [get?_set] at found
      split at found
      · exact absurd (some_inj.mp found) (unpublished ref sessionId instanceId result)
      · exact ⟨ref, sessionId, instanceId, found⟩ }

theorem popTask (id : TaskId) : Advance state { state with tasks := state.tasks.pop id } :=
  { refl state with
    settling := fun other result settling => by
      obtain ⟨ref, sessionId, instanceId, found⟩ := settling
      rcases get?_pop_or state.tasks id other with same | gone
      · exact ⟨ref, sessionId, instanceId, same ▸ found⟩
      · exact absurd (gone.symm.trans found) (by simp) }

theorem drop {answer : Reply} (plain : ∀ result, answer ≠ .finalized result) :
    Advance state (state.drop id answer) :=
  (popTask id).trans (reply plain)

theorem leave {id : TaskId} {answer : Reply} (ref : ObjectRef)
    (plain : ∀ result, answer ≠ .finalized result) : Advance state (state.leave id ref answer) := by
  have released : Advance state (state.modifyObject ref
    (fun object => { object with requestLock := none })) := modifyObject ref (fun _ _ => rfl)
  exact (released.trans (popTask id)).trans (reply plain)

theorem noteAdmission (entry : TaskId × ObjectRef) :
    Advance state { state with admissions := state.admissions ++ [entry] } :=
  of_steps (fun _ object found => ⟨object, found, rfl⟩) (fun _ => .inl rfl) rfl rfl rfl rfl rfl

theorem openSession (sessionId instanceId : String) :
    Advance state (state.openSession sessionId instanceId) :=
  { refl state with
    steps := fun ref object found =>
      ⟨object, (getElem?_append_left (List.getElem_of_getElem? found).1).trans found, .inl rfl⟩
    active := fun other ref found => by
      change (state.active.set sessionId state.objects.length).get? other = some ref at found
      rw [get?_set] at found
      split at found
      · cases found
        exact .inr (Nat.le_refl _)
      · exact .inl found }

theorem recordStep (fingerprint : List Message → String) (sessionId : String) (id : TaskId)
    (step : StepRecord Message Tool) (cache : SnapshotCache) :
    Advance state (state.recordStep fingerprint sessionId id step cache) := by
  unfold State.recordStep
  cases active : state.active.get? sessionId with
  | none => exact refl state
  | some target =>
    refine
      { refl state with
        steps := fun ref object found => ?_ }
    dsimp only
    rw [getElem?_modifyObject, found, map_some]
    refine ⟨_, rfl, ?_⟩
    by_cases here : target = ref
    · subst here
      exact .inr ⟨sessionId, active⟩
    · rw [if_neg here]
      exact .inl rfl

theorem succeedReply (id : TaskId) (sessionId : String) (result : FinalizationResult) :
    Advance state ((state.succeed id sessionId result).reply id (.finalized result)) :=
  { refl state with
    successes := fun success member => mem_append_left _ member
    finalized := fun other answer member => by
      rcases mem_append.mp member with old | new
      · exact .inl old
      · cases mem_singleton.mp new
        exact .inr (.inl ⟨_, mem_append_right _ mem_cons_self, rfl, rfl⟩) }

theorem arriveChat (sessionId : String) (request : ChatRequest Message Tool) (uuid : String) :
    Advance state (arriveChat server sessionId request uuid state) := by
  have swept : Advance state (state.arrive.cleanupExpired server) :=
    arrive.trans (cleanupExpired server)
  unfold Lifecycle.arriveChat
  dsimp only
  split
  · exact swept.trans (reply (by simp))
  · split
    · rename_i ref active
      refine swept.trans (trans ?_ (setTask (by simp)))
      refine trans ?_ (touch ref)
      exact modifyObject ref (fun object _ => (sameSteps_adoptInstanceId request object.session).steps)
    · exact swept.trans ((openSession sessionId _).trans (setTask (by simp)))

theorem admitChat [BEq Message] (task : TaskId) (ref : ObjectRef)
    (request : ChatRequest Message Tool) (uuidHex : String) :
    Advance state (admitChat server task ref request uuidHex state) := by
  unfold Lifecycle.admitChat
  cases found : state.objects[ref]? with
  | none => exact refl state
  | some object =>
    dsimp only
    split
    · exact leave ref (by simp)
    · have resumed : Advance state ((state.setSession ref
          (object.session.resolveTurnId request.turnId uuidHex).2).touch ref) :=
        (setSession found (sameSteps_resolveTurnId object.session request.turnId uuidHex)).trans
          (touch ref)
      split
      · exact resumed.trans (leave ref (by simp))
      · split
        · exact resumed.trans (leave ref (by simp))
        · exact resumed.trans ((noteAdmission (task, ref)).trans (setTask (by simp)))

theorem enterChat [BEq Message] (task : TaskId) (uuidHex : String) :
    Advance state (enterChat server task uuidHex state) := by
  unfold Lifecycle.enterChat
  split
  · split
    · exact refl state
    · exact ((lock _ task).trans (cleanupExpired server)).trans (admitChat task _ _ uuidHex)
  · exact refl state

theorem routeChat [BEq Message] (task : TaskId) (metadata : List HookFailure) :
    Advance state (routeChat server task metadata state) := by
  unfold Lifecycle.routeChat
  split
  · rename_i ref request entered present
    cases found : state.objects[ref]? with
    | none => exact refl state
    | some object =>
      dsimp only
      have routed : Advance state (state.setSession ref (chooseRoute server.config server.format
          request { entered with metadata := metadata } object.session).2) :=
        setSession found (sameSteps_chooseRoute request _ object.session)
      split
      · exact routed.trans (leave ref (by simp))
      · split
        · exact routed.trans ((markHistoryRewritten _ _).trans (setTask (by simp)))
        · exact routed.trans (setTask (by simp))
  · exact refl state

theorem acceptChat (task : TaskId) (result : PreemptibleGenerateResult) :
    Advance state (acceptChat task result state) := by
  unfold Lifecycle.acceptChat
  split
  · exact modifyObject _ (fun _ _ => rfl)
  · exact refl state

theorem recordChat (task : TaskId) (draft : StepDraft Message Tool Call)
    (values : StepField → FieldValue) :
    Advance state (recordChat server task draft values state) := by
  unfold Lifecycle.recordChat
  split
  · rename_i ref request admission routed present
    cases found : state.objects[ref]? with
    | none => exact refl state
    | some object =>
      dsimp only
      have counted : Advance state (state.setSession ref object.session.nextStepId.2) :=
        setSession found (sameSteps_nextStepId object.session)
      split
      · exact counted.trans (leave ref (by simp))
      · split
        · exact counted.trans ((recordStep _ _ task _ _).trans (leave ref (by simp)))
        · exact counted.trans (setTask (by simp))
  · exact refl state

theorem commitChat (task : TaskId) (stored : Bool) :
    Advance state (commitChat server task stored state) := by
  unfold Lifecycle.commitChat
  split
  · split
    · exact refl state
    · split
      · exact leave _ (by simp)
      · split
        · exact leave _ (by simp)
        · exact (recordStep _ _ task _ _).trans (leave _ (by simp))
  · exact refl state

theorem arriveFinalize (sessionId : String) (instanceId : Option String) :
    Advance state (arriveFinalize server sessionId instanceId state) := by
  have swept : Advance state (state.arrive.cleanupExpired server) :=
    arrive.trans (cleanupExpired server)
  unfold Lifecycle.arriveFinalize
  dsimp only
  split
  · exact swept.trans (succeedReply _ sessionId _)
  · split
    · exact swept.trans (reply (by simp))
    · exact swept.trans (setTask (by simp))

theorem settleFinalize (task : TaskId) : Advance state (settleFinalize task state) := by
  unfold Lifecycle.settleFinalize
  split
  · rename_i ref sessionId instanceId result present
    have left : Advance state (state.leave task ref .cancelled) := leave ref (by simp)
    refine
      { left with
        finalized := fun id answer member => ?_ }
    rcases mem_append.mp member with old | new
    · exact .inl old
    · cases mem_singleton.mp new
      exact .inr (.inr ⟨ref, sessionId, instanceId, present⟩)
  · exact refl state

theorem settleDiscard (task : TaskId) : Advance state (settleDiscard task state) := by
  unfold Lifecycle.settleDiscard
  split
  · exact leave _ (by simp)
  · exact refl state

theorem abandon (task : TaskId) (status : Option Nat) :
    Advance state (abandon task status state) := by
  have plain : ∀ result, (status.elim Reply.cancelled (fun code => .refused code "")) ≠
      .finalized result := by
    intro result
    cases status with
    | none => exact (by simp)
    | some code => exact (by simp)
  unfold Lifecycle.abandon
  dsimp only
  split
  · exact refl state
  · exact refl state
  · split
    · exact leave _ plain
    · exact drop plain

theorem publish_cases (server : Server Message Tool Call) (task : TaskId) (ref : ObjectRef) (sessionId : String)
    (instanceId : Option String) (uuids : FinalizeUuids) (fault : Option String)
    (state : State Message Tool) :
    Advance state (publish server task ref sessionId instanceId uuids fault state) ∨
      ∃ object batch, state.objects[ref]? = some object ∧
        state.active.get? sessionId = some ref ∧
        buildBatch server object.session instanceId uuids fault state.now state.store = .ok batch ∧
        publish server task ref sessionId instanceId uuids fault state =
          publishBatch server task ref object.session sessionId instanceId uuids batch.1 batch.2
            state := by
  unfold publish
  split
  · rename_i result cached
    have answered : Advance state
        ((state.succeed task sessionId result).reply task (.finalized result)) :=
      succeedReply task sessionId result
    have released : Advance _ ((state.succeed task sessionId result).reply task
      (.finalized result) |>.modifyObject ref
        (fun object => { object with requestLock := none })) := modifyObject ref (fun _ _ => rfl)
    exact .inl ((answered.trans released).trans (popTask task))
  · cases found : state.objects[ref]? with
    | none => exact .inl (refl state)
    | some object =>
      dsimp only
      split
      · exact .inl (leave ref (by simp))
      · rename_i active
        split
        · exact .inl (leave ref (by simp))
        · split
          · exact .inl (leave ref (by simp))
          · rename_i batch built
            exact .inr ⟨object, batch, rfl, not_not.mp active, built, rfl⟩

end Advance

def Publication.writeTo (store : TrajectoryStore.Store) (publication : Publication Message Tool) :
    TrajectoryStore.Store :=
  (store.writeMany publication.publishedAt (batchOf publication.uuids publication.records)).2

structure Settled (server : Server Message Tool Call) (store : TrajectoryStore.Store)
    (state : State Message Tool) : Prop where
  unpublished : ∀ sessionId ref, state.active.get? sessionId = some ref →
    ∀ publication ∈ state.publications, publication.object ≠ ref
  once : (state.publications.map Publication.object).Nodup
  batches : ∀ publication ∈ state.publications,
    Complete server.config publication.steps publication.records ∧
      ∃ object, state.objects[publication.object]? = some object ∧
        object.session.steps = publication.steps
  stored : state.store = state.publications.foldl Publication.writeTo store
  answered : ∀ id result, (id, Reply.finalized result) ∈ state.replies → Succeeded state id result
  settling : ∀ id result, Settling state id result → Succeeded state id result

theorem settled_initial (server : Server Message Tool Call) (now : ℚ)
    (store : TrajectoryStore.Store) :
    Settled server store (State.initial now store : State Message Tool) :=
  { unpublished := fun _ _ found => by cases found
    once := nodup_nil
    batches := fun _ member => by cases member
    stored := rfl
    answered := fun _ _ member => by cases member
    settling := fun _ _ settling => by
      obtain ⟨_, _, _, found⟩ := settling
      cases found }

variable {store : TrajectoryStore.Store}

theorem Succeeded.advance {id : TaskId} {result : FinalizationResult}
    (succeeded : Succeeded state id result) (advance : Advance state after) :
    Succeeded after id result := by
  obtain ⟨success, member, shape⟩ := succeeded
  exact ⟨success, advance.successes success member, shape⟩

theorem Settled.advance (settled : Settled server store state) (advance : Advance state after) :
    Settled server store after := by
  refine
    { unpublished := fun sessionId ref found publication member => ?_
      once := by
        rw [advance.publications]
        exact settled.once
      batches := fun publication member => ?_
      stored := by
        rw [advance.store, advance.publications]
        exact settled.stored
      answered := fun id result member => ?_
      settling := fun id result settling =>
        (settled.settling id result (advance.settling id result settling)).advance advance }
  · rw [advance.publications] at member
    rcases advance.active sessionId ref found with before | new
    · exact settled.unpublished sessionId ref before publication member
    · obtain ⟨-, object, foundObject, -⟩ := settled.batches publication member
      exact Nat.ne_of_lt (Nat.lt_of_lt_of_le (List.getElem_of_getElem? foundObject).1 new)
  · rw [advance.publications] at member
    obtain ⟨complete, object, found, steps⟩ := settled.batches publication member
    obtain ⟨changed, foundChanged, kept⟩ := advance.steps publication.object object found
    refine ⟨complete, changed, foundChanged, ?_⟩
    rcases kept with same | ⟨sessionId, active⟩
    · exact same.trans steps
    · exact absurd rfl (settled.unpublished sessionId publication.object active publication member)
  · rcases advance.finalized id result member with before | succeeded | settling
    · exact (settled.answered id result before).advance advance
    · exact succeeded
    · exact (settled.settling id result settling).advance advance

theorem buildBatch_ok {now : ℚ} {before : TrajectoryStore.Store}
    (built : buildBatch server session instanceId uuids fault now before = .ok batch) :
    Proxy.finalizeSession server.config session instanceId = .ok batch.1 ∧
      (before.writeMany now (batchOf uuids batch.1)).2 = batch.2 := by
  unfold buildBatch at built
  split at built
  · cases built
  · split at built
    · cases built
    · rename_i records finalized
      split at built
      · cases built
      · rename_i items written committed
        cases built
        exact ⟨finalized, by rw [committed]⟩

theorem Settled.publishBatch (settled : Settled server store state) (sound : Owned lenient state)
    (found : state.objects[ref]? = some object) (active : state.active.get? sessionId = some ref)
    (built : buildBatch server object.session instanceId uuids fault state.now state.store =
      .ok batch) :
    Settled server store (Lifecycle.publishBatch server task ref object.session sessionId instanceId uuids
      batch.1 batch.2 state) := by
  obtain ⟨finalized, written⟩ := buildBatch_ok built
  have complete := complete_of_finalizeSession (sound.numbered ref object found) finalized
  have new : Succeeded (Lifecycle.publishBatch server task ref object.session sessionId instanceId uuids
      batch.1 batch.2 state) task
      (finalizationResult server object.session sessionId instanceId uuids.finalizationId) :=
    ⟨_, mem_append_right _ mem_cons_self, rfl, rfl⟩
  have old : ∀ id result, Succeeded state id result → Succeeded (Lifecycle.publishBatch server task ref
      object.session sessionId instanceId uuids batch.1 batch.2 state) id result := by
    rintro id result ⟨success, member, shape⟩
    exact ⟨success, mem_append_left _ member, shape⟩
  refine
    { unpublished := fun other target foundOther publication member => ?_
      once := ?_
      batches := fun publication member => ?_
      stored := ?_
      answered := fun id result member => old id result (settled.answered id result member)
      settling := fun id result settling => ?_ }
  · change (state.active.pop sessionId).get? other = some target at foundOther
    rw [get?_pop] at foundOther
    split at foundOther
    · cases foundOther
    · rename_i apart
      rcases mem_append.mp member with before | now
      · exact settled.unpublished other target foundOther publication before
      · rw [mem_singleton.mp now]
        intro same
        -- Two ids never name one object: it has one session id.
        obtain ⟨first, foundFirst, named⟩ := sound.activeObject other target foundOther
        obtain ⟨second, foundSecond, namedSecond⟩ := sound.activeObject sessionId ref active
        change ref = target at same
        subst same
        rw [foundFirst, some_inj] at foundSecond
        subst second
        exact apart (named.symm.trans namedSecond)
  · change ((state.publications ++ [_]).map Publication.object).Nodup
    rw [map_append, nodup_append]
    refine ⟨settled.once, nodup_singleton _, fun first inOld second inNew => ?_⟩
    obtain ⟨publication, member, rfl⟩ := List.mem_map.mp inOld
    rw [mem_singleton.mp inNew]
    exact settled.unpublished sessionId ref active publication member
  · rcases mem_append.mp member with before | now
    · exact settled.batches publication before
    · rw [mem_singleton.mp now]
      exact ⟨complete, object, found, rfl⟩
  · change batch.2 = (state.publications ++ [_]).foldl Publication.writeTo store
    rw [foldl_append, ← settled.stored]
    exact written.symm
  · obtain ⟨target, other, otherInstance, foundTask⟩ := settling
    change (state.tasks.set task _).get? id = _ at foundTask
    rw [get?_set] at foundTask
    split at foundTask
    · rename_i same
      cases foundTask
      rw [same]
      exact new
    · exact old id result (settled.settling id result ⟨target, other, otherInstance, foundTask⟩)

theorem Settled.enterFinalize (settled : Settled server store state) (sound : Owned lenient state)
    (task : TaskId) (uuids : FinalizeUuids) (fault : Option String) :
    Settled server store (enterFinalize server task uuids fault state) := by
  unfold Lifecycle.enterFinalize
  split
  · rename_i ref sessionId instanceId present
    split
    · exact settled
    · rename_i free
      have entered : Advance state ((state.lock ref task).cleanupExpired server) :=
        (Advance.lock ref task).trans (Advance.cleanupExpired server)
      have soundEntered := (sound.lock task (Bool.not_eq_true _ ▸ free)).cleanupExpired server
      rcases Advance.publish_cases server task ref sessionId instanceId uuids fault
        ((state.lock ref task).cleanupExpired server) with
        advance | ⟨object, batch, found, active, built, shape⟩
      · exact settled.advance (entered.trans advance)
      · rw [shape]
        exact (settled.advance entered).publishBatch soundEntered found active built
  · exact settled

def Action.discards : Action Message Tool Call → Bool
  | .arriveDiscard _ => true
  | .enterDiscard _ => true
  | _ => false

theorem settled_step [BEq Message] (action : Action Message Tool Call)
    (settled : Settled server store state) (sound : Owned lenient state)
    (kept : action.discards = false) : Settled server store (step server state action) := by
  cases action with
  | tick now =>
    exact settled.advance (Advance.of_steps (fun _ object found => ⟨object, found, rfl⟩)
      (fun _ => .inl rfl) rfl rfl rfl rfl rfl)
  | sweep => exact settled.advance (Advance.cleanupExpired server)
  | arriveChat sessionId request uuid =>
    exact settled.advance (Advance.arriveChat sessionId request uuid)
  | enterChat task uuidHex => exact settled.advance (Advance.enterChat task uuidHex)
  | routeChat task metadata => exact settled.advance (Advance.routeChat task metadata)
  | acceptChat task result => exact settled.advance (Advance.acceptChat task result)
  | recordChat task draft values => exact settled.advance (Advance.recordChat task draft values)
  | commitChat task stored => exact settled.advance (Advance.commitChat task stored)
  | arriveFinalize sessionId instanceId =>
    exact settled.advance (Advance.arriveFinalize sessionId instanceId)
  | enterFinalize task uuids fault => exact settled.enterFinalize sound task uuids fault
  | settleFinalize task => exact settled.advance (Advance.settleFinalize task)
  | arriveDiscard sessionId => cases kept
  | enterDiscard task => cases kept
  | settleDiscard task => exact settled.advance (Advance.settleDiscard task)
  | abandon task status => exact settled.advance (Advance.abandon task status)

@[simp] theorem successes_markHistoryRewritten (sessionId reason : String) :
    (state.markHistoryRewritten sessionId reason).successes = state.successes := by
  unfold State.markHistoryRewritten
  split <;> rfl

@[simp] theorem successes_recordStep (fingerprint : List Message → String) (sessionId : String)
    (id : TaskId) (step : StepRecord Message Tool) (cache : SnapshotCache) :
    (state.recordStep fingerprint sessionId id step cache).successes = state.successes := by
  unfold State.recordStep
  split <;> rfl

def CachesSuccess (state after : State Message Tool) : Prop :=
  after.successes = state.successes ∨
    ∃ success, after.successes = state.successes ++ [success] ∧
      after.finalizationResults.get? success.sessionId = some success.result

theorem cachesSuccess_step [BEq Message] (server : Server Message Tool Call)
    (state : State Message Tool) (action : Action Message Tool Call) :
    CachesSuccess state (step server state action) := by
  cases action with
  | tick now => exact .inl rfl
  | sweep => exact .inl rfl
  | arriveChat sessionId request uuid =>
    left
    simp only [step, arriveChat]
    split
    · rfl
    · split <;> rfl
  | enterChat task uuidHex =>
    left
    simp only [step, enterChat]
    split
    · split
      · rfl
      · unfold admitChat
        split
        · rfl
        · dsimp only
          split
          · rfl
          · split
            · rfl
            · split <;> rfl
    · rfl
  | routeChat task metadata =>
    left
    simp only [step, routeChat]
    split
    · split
      · rfl
      · split
        · rfl
        · split
          · simp [State.setTask, State.setSession, State.modifyObject]
          · rfl
    · rfl
  | acceptChat task result =>
    left
    simp only [step, acceptChat]
    split <;> rfl
  | recordChat task draft values =>
    left
    simp only [step, recordChat]
    split
    · split
      · rfl
      · split
        · rfl
        · split
          · simp [State.leave, State.reply, State.setSession, State.modifyObject]
          · rfl
    · rfl
  | commitChat task stored =>
    left
    simp only [step, commitChat]
    split
    · split
      · rfl
      · split
        · rfl
        · split
          · rfl
          · simp [State.leave, State.reply, State.modifyObject]
    · rfl
  | arriveFinalize sessionId instanceId =>
    simp only [step, arriveFinalize]
    split
    · rename_i result cached
      exact .inr ⟨_, rfl, cached⟩
    · left
      split <;> rfl
  | enterFinalize task uuids fault =>
    simp only [step, enterFinalize]
    split
    · rename_i ref sessionId instanceId present
      split
      · exact .inl rfl
      · unfold publish
        split
        · rename_i result cached
          exact .inr ⟨_, rfl, cached⟩
        · split
          · exact .inl rfl
          · split
            · exact .inl rfl
            · split
              · exact .inl rfl
              · split
                · exact .inl rfl
                · exact .inr ⟨_, rfl, get?_set_self ..⟩
    · exact .inl rfl
  | settleFinalize task =>
    left
    simp only [step, settleFinalize]
    split <;> rfl
  | arriveDiscard sessionId =>
    left
    simp only [step, arriveDiscard]
    split
    · rfl
    · split <;> rfl
  | enterDiscard task =>
    left
    simp only [step, enterDiscard]
    split
    · split <;> rfl
    · rfl
  | settleDiscard task =>
    left
    simp only [step, settleDiscard]
    split <;> rfl
  | abandon task status =>
    left
    simp only [step, abandon]
    split
    · rfl
    · rfl
    · split <;> rfl

def CachedThroughout [BEq Message] (server : Server Message Tool Call) (sessionId : String)
    (result : FinalizationResult) (state : State Message Tool)
    (actions : List (Action Message Tool Call)) : Prop :=
  Runs.Admits (step server) (fun current action =>
    (step server current action).finalizationResults.get? sessionId = some result) state actions

theorem successes_of_cached [BEq Message] (server : Server Message Tool Call) (sessionId : String)
    (result : FinalizationResult) (during : List (Action Message Tool Call))
    (state : State Message Tool)
    (cached : CachedThroughout server sessionId result state during) :
    ∃ new, (Runs.run (step server) state during).successes = state.successes ++ new ∧
      ∀ success ∈ new, success.sessionId = sessionId → success.result = result := by
  induction during generalizing state with
  | nil => exact ⟨[], (append_nil _).symm, fun _ member => by cases member⟩
  | cons action rest ih =>
    obtain ⟨now, later⟩ := cached
    obtain ⟨new, grown, shown⟩ := ih (step server state action) later
    rcases cachesSuccess_step server state action with same | ⟨success, added, stored⟩
    · refine ⟨new, ?_, shown⟩
      rw [Runs.run_cons, grown, same]
    · refine ⟨success :: new, ?_, fun other member named => ?_⟩
      · rw [Runs.run_cons, grown, added, append_assoc, singleton_append]
      · rcases mem_cons.mp member with rfl | inNew
        · rw [named, now, some_inj] at stored
          exact stored.symm
        · exact shown other inNew named

/-- A waiting call gets its lock, finds the session active and without a cached result, and
building or validating its records raises. -/
structure FailsToBuild (server : Server Message Tool Call) (state : State Message Tool)
    (task : TaskId) (uuids : FinalizeUuids) (fault : Option String) (ref : ObjectRef)
    (sessionId : String) (object : SessionObject Message Tool) : Prop where
  raised : ∃ instanceId message,
    state.tasks.get? task = some (.finalize ref sessionId instanceId none) ∧
      buildBatch server object.session instanceId uuids fault state.now state.store = .error message
  found : state.objects[ref]? = some object
  free : object.requestLock = none
  active : state.active.get? sessionId = some ref
  uncached : (state.cleanupExpired server).finalizationResults.get? sessionId = none
  recorded : object.session.steps ≠ []

def retry (task : TaskId) (sessionId : String) (instanceId : Option String)
    (uuids : FinalizeUuids) (fault : Option String) : List (Action Message Tool Call) :=
  [.arriveFinalize sessionId instanceId, .enterFinalize task uuids fault]

/-- Nothing is lost: the session is as it was, and the next call publishes it unless its records
cannot be built either. -/
structure Unharmed [BEq Message] (server : Server Message Tool Call)
    (state failed : State Message Tool) (ref : ObjectRef) (sessionId : String)
    (object : SessionObject Message Tool) : Prop where
  store : failed.store = state.store
  publications : failed.publications = state.publications
  active : failed.active.get? sessionId = some ref
  session : ∃ kept, failed.objects[ref]? = some kept ∧ kept.session = object.session
  retried : (failed.cleanupExpired server).active.get? sessionId = some ref →
    ∀ instanceId uuids fault batch,
      buildBatch server object.session instanceId uuids fault failed.now failed.store = .ok batch →
      ∃ publication,
        (Runs.run (step server) failed (retry failed.nextTask sessionId instanceId uuids
          fault)).publications = failed.publications ++ [publication] ∧
        publication.object = ref ∧ publication.steps = object.session.steps ∧
        Succeeded (Runs.run (step server) failed (retry failed.nextTask sessionId instanceId uuids
          fault)) failed.nextTask publication.result
  remains : 0 ≤ server.sessionTimeout →
    (failed.cleanupExpired server).active.get? sessionId = some ref

theorem active_cleanupExpired (active : state.active.get? sessionId = some ref)
    (found : state.objects[ref]? = some object)
    (busy : (State.idle server state.now object && object.requestLock.isNone) = false) :
    (state.cleanupExpired server).active.get? sessionId = some ref := by
  change (state.active.popAll (state.expiredSessions server)).get? sessionId = some ref
  rw [get?_popAll, if_neg, active]
  intro expired
  obtain ⟨-, idle⟩ := mem_filter.mp expired
  rw [active, bind_some, found] at idle
  dsimp only at idle
  rw [busy] at idle
  cases idle

theorem entered_session {task : TaskId} {sessionId : String} {ref : ObjectRef}
    {object : SessionObject Message Tool} (found : state.objects[ref]? = some object)
    (active : state.active.get? sessionId = some ref) (server : Server Message Tool Call) :
    ((state.lock ref task).cleanupExpired server).active.get? sessionId = some ref ∧
      ∃ entered, ((state.lock ref task).cleanupExpired server).objects[ref]? = some entered ∧
        entered.session = object.session ∧
        (0 ≤ server.sessionTimeout → State.idle server state.now entered = false) := by
  have locked : (state.lock ref task).objects[ref]? =
      some { object with requestLock := some task } := by
    unfold State.lock
    rw [getElem?_modifyObject, found, map_some, if_pos rfl]
  refine ⟨active_cleanupExpired active locked (Bool.and_false _), ?_⟩
  change ∃ entered, ((state.lock ref task).refreshLocked server)[ref]? = some entered ∧ _
  unfold State.refreshLocked
  rw [getElem?_mapIdx, locked, map_some]
  refine ⟨_, rfl, ?_⟩
  split
  · refine ⟨rfl, fun timeout => ?_⟩
    unfold State.idle
    apply decide_eq_false
    simpa [State.lock, State.modifyObject] using timeout
  · rename_i fresh
    refine ⟨rfl, fun _ => ?_⟩
    have listed : ref ∈ (state.lock ref task).active.values := mem_values_of_get? active
    have notIdle : ¬ State.idle server state.now { object with requestLock := some task } = true :=
      fun idle => fresh ⟨listed, idle, rfl⟩
    exact Bool.not_eq_true _ ▸ notIdle

theorem enterFinalize_builds
    (present : state.tasks.get? task = some (.finalize ref sessionId instanceId none))
    (found : state.objects[ref]? = some object) (free : object.requestLock = none)
    (active : state.active.get? sessionId = some ref)
    (uncached : (state.cleanupExpired server).finalizationResults.get? sessionId = none)
    (recorded : object.session.steps ≠ []) :
    enterFinalize server task uuids fault state =
      match buildBatch server object.session instanceId uuids fault state.now state.store with
      | .error message =>
        ((state.lock ref task).cleanupExpired server).leave task ref (.refused 500 message)
      | .ok batch =>
        publishBatch server task ref object.session sessionId instanceId uuids batch.1 batch.2
          ((state.lock ref task).cleanupExpired server) := by
  obtain ⟨stillActive, entered, foundEntered, same, -⟩ := entered_session found active server
  have none : ((state.lock ref task).cleanupExpired server).finalizationResults.get? sessionId =
    none := uncached
  unfold enterFinalize
  rw [present]
  dsimp only
  rw [found, bind_some, free, isSome_none, if_neg Bool.false_ne_true]
  unfold publish
  rw [none]
  dsimp only
  rw [foundEntered]
  dsimp only
  rw [if_neg (not_not.mpr stillActive), same, if_neg recorded]
  rfl

theorem retry_publishes [BEq Message] (found : state.objects[ref]? = some object)
    (free : object.requestLock = none) (recorded : object.session.steps ≠ [])
    (uncached : state.finalizationResults.get? sessionId = none)
    (active : (state.cleanupExpired server).active.get? sessionId = some ref)
    (built : buildBatch server object.session instanceId uuids fault state.now state.store =
      .ok batch) :
    ∃ publication,
      (Runs.run (step server) state (retry state.nextTask sessionId instanceId uuids
        fault)).publications = state.publications ++ [publication] ∧
      publication.object = ref ∧ publication.steps = object.session.steps ∧
      Succeeded (Runs.run (step server) state (retry state.nextTask sessionId instanceId uuids
        fault)) state.nextTask publication.result := by
  have stillUncached : ∀ keys, (state.finalizationResults.popAll keys).get? sessionId = none := by
    intro keys
    rcases get?_popAll_or state.finalizationResults keys sessionId with same | gone
    · exact same.trans uncached
    · exact gone
  have sweptActive : (state.arrive.cleanupExpired server).active.get? sessionId = some ref := active
  have sweptUncached :
      (state.arrive.cleanupExpired server).finalizationResults.get? sessionId = none :=
    stillUncached _
  have arrived : step server state (.arriveFinalize sessionId instanceId) =
      (state.arrive.cleanupExpired server).setTask state.nextTask
        (.finalize ref sessionId instanceId none) := by
    simp only [step, arriveFinalize, sweptUncached, sweptActive]
  obtain ⟨kept, foundKept, lock, same⟩ := @refreshLocked_found _ _ _ state.arrive server _ _ found
  have waiting : ((state.arrive.cleanupExpired server).setTask state.nextTask
    (.finalize ref sessionId instanceId none)).tasks.get? state.nextTask =
      some (.finalize ref sessionId instanceId none) := get?_set_self ..
  have againUncached : (((state.arrive.cleanupExpired server).setTask state.nextTask
      (.finalize ref sessionId instanceId none)).cleanupExpired server).finalizationResults.get?
        sessionId = none := by
    rcases get?_popAll_or (state.arrive.cleanupExpired server).finalizationResults _ sessionId
      with unchanged | gone
    · exact unchanged.trans sweptUncached
    · exact gone
  have builds : enterFinalize server state.nextTask uuids fault
      ((state.arrive.cleanupExpired server).setTask state.nextTask
        (.finalize ref sessionId instanceId none)) = _ :=
    enterFinalize_builds waiting foundKept (lock.trans free) sweptActive againUncached
      (same ▸ recorded)
  have rebuilt : buildBatch server kept.session instanceId uuids fault
      ((state.arrive.cleanupExpired server).setTask state.nextTask
        (.finalize ref sessionId instanceId none)).now
      ((state.arrive.cleanupExpired server).setTask state.nextTask
        (.finalize ref sessionId instanceId none)).store = .ok batch := by
    rw [same]
    exact built
  rw [rebuilt] at builds
  unfold retry
  rw [Runs.run_cons, Runs.run_cons, Runs.run_nil, arrived]
  change ∃ publication, (enterFinalize server state.nextTask uuids fault _).publications = _ ∧ _ ∧ _ ∧
    Succeeded (enterFinalize server state.nextTask uuids fault _) _ _
  rw [builds]
  exact ⟨_, rfl, rfl, congrArg Session.steps same, _, mem_append_right _ mem_cons_self, rfl, rfl⟩

theorem FailsToBuild.unharmed [BEq Message]
    (fails : FailsToBuild server state task uuids fault ref sessionId object) :
    Unharmed server state (step server state (.enterFinalize task uuids fault)) ref sessionId
      object := by
  obtain ⟨instanceId, message, present, raised⟩ := fails.raised
  obtain ⟨active, entered, foundEntered, sameSession, fresh⟩ :=
    @entered_session _ _ _ _ task _ _ _ fails.found fails.active server
  have shape : step server state (.enterFinalize task uuids fault) =
      ((state.lock ref task).cleanupExpired server).leave task ref (.refused 500 message) := by
    have builds : enterFinalize server task uuids fault state = _ :=
      enterFinalize_builds present fails.found fails.free fails.active fails.uncached fails.recorded
    rw [raised] at builds
    exact builds
  have left : (((state.lock ref task).cleanupExpired server).leave task ref
      (.refused 500 message)).objects[ref]? = some { entered with requestLock := none } := by
    change (State.modifyObject _ ref _).objects[ref]? = _
    rw [getElem?_modifyObject, foundEntered, map_some, if_pos rfl]
  rw [shape]
  refine
    { store := rfl
      publications := rfl
      active := active
      session := ⟨_, left, sameSession⟩
      retried := fun stays instanceId uuids fault batch built => ?_
      remains := fun timeout => ?_ }
  · obtain ⟨publication, published, place, steps, succeeded⟩ := retry_publishes left rfl
      (sameSession ▸ fails.recorded) fails.uncached stays (sameSession ▸ built)
    exact ⟨publication, published, place, steps.trans (congrArg Session.steps sameSession),
      succeeded⟩
  · refine active_cleanupExpired active left ?_
    rw [Bool.and_eq_false_iff]
    exact .inl (fresh timeout)

/-- What holds of finalization at one moment of a run. -/
structure ExactlyOnce [BEq Message] (server : Server Message Tool Call)
    (store : TrajectoryStore.Store) (state : State Message Tool) : Prop where
  /-- At most one batch is published per `Session` object. -/
  once : (state.publications.map Publication.object).Nodup
  /-- A batch contains the steps its session has, now as when it was published. -/
  exact : ∀ publication ∈ state.publications,
    Complete server.config publication.steps publication.records ∧
      ∃ object, state.objects[publication.object]? = some object ∧
        object.session.steps = publication.steps
  /-- The store holds these batches and nothing else. -/
  stored : state.store = state.publications.foldl Publication.writeTo store
  /-- A call answers with the result it succeeded with. -/
  answered : ∀ id result, (id, Reply.finalized result) ∈ state.replies → Succeeded state id result
  /-- While a result is cached, every call that succeeds for its session has this result. -/
  same : ∀ sessionId result during, CachedThroughout server sessionId result state during →
    ∃ new, (Runs.run (step server) state during).successes = state.successes ++ new ∧
      ∀ success ∈ new, success.sessionId = sessionId →
        success.result.finalizationId = result.finalizationId
  /-- A call that cannot build its records changes nothing and blocks nobody. -/
  failure : ∀ task uuids fault ref sessionId object,
    FailsToBuild server state task uuids fault ref sessionId object →
      Unharmed server state (step server state (.enterFinalize task uuids fault)) ref sessionId
        object

/-- In every run of chat completions, finalize calls and sweeps, at every moment. -/
theorem finalized_exactly_once [BEq Message] (server : Server Message Tool Call) (now : ℚ)
    (store : TrajectoryStore.Store) (actions : List (Action Message Tool Call))
    (undiscarded : ∀ action ∈ actions, action.discards = false)
    (past : List (Action Message Tool Call)) (early : past <+: actions) :
    ExactlyOnce server store (Runs.run (step server) (State.initial now store) past) := by
  have preserved : ∀ (state : State Message Tool) (action : Action Message Tool Call),
      Owned False state ∧ Settled server store state → action.discards = false →
        Owned False (step server state action) ∧
          Settled server store (step server state action) := by
    rintro state action ⟨sound, settled⟩ kept
    refine ⟨?_, settled_step action settled sound kept⟩
    refine owned_step server state action sound (sound.unreplaced server action) (.inr ?_)
    cases action with
    | arriveDiscard sessionId => cases kept
    | enterDiscard task => cases kept
    | _ => trivial
  obtain ⟨-, settled⟩ := Runs.run_invariant_of_forall preserved
    ⟨owned_initial now store, settled_initial server now store⟩
    (fun action member => undiscarded action (early.subset member))
  refine
    { settled with
      exact := settled.batches
      same := fun sessionId result during cached => ?_
      failure := fun task uuids fault ref sessionId object fails => fails.unharmed }
  obtain ⟨new, grown, shown⟩ := successes_of_cached server sessionId result during _ cached
  refine ⟨new, grown, fun success member named => ?_⟩
  rw [shown success member named]

def doubleFinalizeRun : List (Action PlainFormat.PlainMessage String String) :=
  [.arriveChat "session" (PlainFormat.request []) "instance", .enterChat 0 "0", .routeChat 0 [],
    .recordChat 0 emptyDraft (fun _ => .resident []),
    .arriveFinalize "session" none, .arriveFinalize "session" none,
    .enterFinalize 1
      { finalizationId := "first"
        uids := ["a", "b"] } none,
    .settleFinalize 1,
    .enterFinalize 2
      { finalizationId := "second"
        uids := ["c", "d"] } none]

theorem finalized_exactly_once_of_two_calls :
    (∀ action ∈ doubleFinalizeRun, action.discards = false) ∧
      (Runs.run (step plainServer) (State.initial 0 (TrajectoryStore.Store.initial 1 1))
        doubleFinalizeRun).publications.map Publication.object = [0] ∧
      (Runs.run (step plainServer) (State.initial 0 (TrajectoryStore.Store.initial 1 1))
        doubleFinalizeRun).successes.map
          (fun success => (success.task, success.result.finalizationId)) =
            [(1, "first"), (2, "first")] ∧
      ExactlyOnce plainServer (TrajectoryStore.Store.initial 1 1)
        (Runs.run (step plainServer) (State.initial 0 (TrajectoryStore.Store.initial 1 1))
          doubleFinalizeRun) := by
  have undiscarded : ∀ action ∈ doubleFinalizeRun, action.discards = false := by
    unfold doubleFinalizeRun
    simp [Action.discards]
  refine ⟨undiscarded, by decide +kernel, by decide +kernel, ?_⟩
  exact finalized_exactly_once plainServer 0 (TrajectoryStore.Store.initial 1 1) doubleFinalizeRun
    undiscarded doubleFinalizeRun (prefix_refl _)

end Dressage.Proxy.Lifecycle

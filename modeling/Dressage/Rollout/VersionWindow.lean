/-
Returned batches respect the version window.

Whatever order groups complete in and however often leftovers are drained again, every group a
call holds is dated inside the window of the tracker as it stands, and the tracker is never
asked for a version it has not observed.
-/

import Mathlib.Algebra.Field.Rat
import Dressage.Rollout.FullyAsync
import Dressage.Rollout.PartialAsync
import Dressage.Rollout.StalenessOrder

namespace Dressage.Rollout

open Lib List

structure GapMetrics where
  smallest : Int
  largest : Int
  mean : ℚ
deriving DecidableEq

structure StalenessMetrics where
  droppedGroups : Nat
  currentVersionIndex : Option Nat
  cutoffVersionIndex : Option Nat
  versionGap : Option GapMetrics
deriving DecidableEq

def gapMetrics : List Int → Option GapMetrics
  | [] => none
  | gap :: rest =>
    some
      { smallest := rest.foldl min gap
        largest := rest.foldl max gap
        mean := ((gap :: rest).sum : Int) / ((rest.length + 1 : Nat) : ℚ) }

def StalenessTracker.currentVersionIndex (tracker : StalenessTracker) : Option Nat :=
  if tracker.versions = [] then none else some (tracker.versions.length - 1)

/-- The `gaps` of `metrics_for_groups`; `none` is the `ValueError`. -/
def StalenessTracker.versionGaps (tracker : StalenessTracker) (current : Nat) :
    List TrajectoryVersionInfo → Option (List Int)
  | [] => some []
  | info :: rest => do
    let index ← tracker.versionIndex info.version
    let gaps ← tracker.versionGaps current rest
    some (((current : Int) - (index : Int)) :: gaps)

/-- `metrics_for_groups`; a disabled tracker reports nothing. -/
def StalenessTracker.metricsForGroups (tracker : StalenessTracker) (droppedGroups : Nat)
    (groups : List Group) : Option (Option StalenessMetrics) :=
  match tracker.keepVersions, tracker.currentVersionIndex with
  | none, _ => some none
  | some _, none =>
    some (some
      { droppedGroups := droppedGroups
        currentVersionIndex := none
        cutoffVersionIndex := none
        versionGap := none })
  | some _, some current => do
    let gaps ← tracker.versionGaps current (groups.flatMap trajectoryVersionInfos)
    some (some
      { droppedGroups := droppedGroups
        currentVersionIndex := some current
        cutoffVersionIndex := tracker.cutoffVersionIndex
        versionGap := gapMetrics gaps })

def Observed (tracker : StalenessTracker) (group : Group) : Prop :=
  ∀ info ∈ trajectoryVersionInfos group, info.version ∈ tracker.versions

/-- Every trajectory of the group ends in one of the last `keep` observed versions. -/
def Recent (keep : Nat) (tracker : StalenessTracker) (group : Group) : Prop :=
  ∀ info ∈ trajectoryVersionInfos group, info.version ∈ newest keep tracker.versions

instance (keep : Nat) (tracker : StalenessTracker) (group : Group) :
    Decidable (Recent keep tracker group) :=
  inferInstanceAs (Decidable (∀ info ∈ trajectoryVersionInfos group, _))

structure Tracking (keep : Nat) (tracker : StalenessTracker) : Prop where
  enabled : tracker.keepVersions = some keep
  distinct : tracker.versions.Nodup

variable {group : Group} {infos : List TrajectoryVersionInfo} {after before : StalenessTracker}
variable {advanced : Bool} {machine : Machine} {call : Call} {batch : List Group}

variable {keep : Nat} {tracker : StalenessTracker}

theorem Recent.observed (recent : Recent keep tracker group) :
    Observed tracker group := fun info member =>
  mem_of_mem_drop (recent info member)

theorem Observed.getD {result : Option Group}
    (observed : ∀ group, result = some group → Observed tracker group) :
    Observed tracker (result.getD []) := by
  cases result with
  | none => exact fun info member => by cases member
  | some group => exact observed group rfl

theorem anyBefore_observed {tracker : StalenessTracker} {cutoff : Nat}
    {infos : List TrajectoryVersionInfo} (distinct : tracker.versions.Nodup)
    (observed : ∀ info ∈ infos, info.version ∈ tracker.versions) :
    tracker.anyBefore cutoff infos =
      some (!decide (∀ info ∈ infos, info.version ∈ tracker.versions.drop cutoff)) := by
  induction infos with
  | nil => rfl
  | cons info rest ih =>
    have known := observed info mem_cons_self
    have later := ih (fun other member => observed other (mem_cons_of_mem info member))
    have placed : info.version ∈ tracker.versions.drop cutoff ↔
        ¬ tracker.versions.idxOf info.version < cutoff := by
      constructor
      · intro inRecent before
        exact disjoint_take_drop distinct (Nat.le_refl cutoff)
          ((mem_take_iff_idxOf_lt known).mpr before) inRecent
      · intro notBefore
        have split : info.version ∈
            tracker.versions.take cutoff ++ tracker.versions.drop cutoff := by
          rw [take_append_drop]
          exact known
        rcases mem_append.mp split with old | recent
        · exact absurd ((mem_take_iff_idxOf_lt known).mp old) notBefore
        · exact recent
    simp only [StalenessTracker.anyBefore, StalenessTracker.versionIndex, if_pos known,
      Option.bind_eq_bind, Option.bind_some, forall_mem_cons]
    by_cases before : tracker.versions.idxOf info.version < cutoff
    · rw [if_pos before]
      simp [placed, before]
    · rw [if_neg before, later]
      simp [placed, before]

theorem Tracking.keepGroup (tracking : Tracking keep tracker) (observed : Observed tracker group) :
    tracker.keepGroup group = some (decide (Recent keep tracker group)) := by
  unfold StalenessTracker.keepGroup StalenessTracker.shouldDropGroup
    StalenessTracker.cutoffVersionIndex
  rw [tracking.enabled]
  dsimp only
  by_cases unseen : tracker.versions = []
  · have recent : Recent keep tracker group := by
      intro info member
      have impossible := observed info member
      rw [unseen] at impossible
      cases impossible
    rw [if_pos unseen, decide_eq_true recent]
    rfl
  · rw [if_neg unseen]
    dsimp only
    rw [anyBefore_observed tracking.distinct observed, Option.map_some, Bool.not_not]
    rfl

theorem versionGaps_isSome (current : Nat)
    (observed : ∀ info ∈ infos, info.version ∈ tracker.versions) :
    (tracker.versionGaps current infos).isSome = true := by
  induction infos with
  | nil => rfl
  | cons info rest ih =>
    have later := ih (fun other member => observed other (mem_cons_of_mem info member))
    obtain ⟨gaps, isGaps⟩ := Option.isSome_iff_exists.mp later
    simp only [StalenessTracker.versionGaps, StalenessTracker.versionIndex,
      if_pos (observed info mem_cons_self), Option.bind_eq_bind, Option.bind_some, isGaps]
    rfl

theorem metricsForGroups_isSome (droppedGroups : Nat) {groups : List Group}
    (observed : ∀ group ∈ groups, Observed tracker group) :
    (tracker.metricsForGroups droppedGroups groups).isSome = true := by
  have infos : ∀ info ∈ groups.flatMap trajectoryVersionInfos, info.version ∈ tracker.versions := by
    intro info member
    obtain ⟨group, inGroups, inInfos⟩ := mem_flatMap.mp member
    exact observed group inGroups info inInfos
  unfold StalenessTracker.metricsForGroups
  split
  · rfl
  · rfl
  · next current _ _ =>
      obtain ⟨gaps, isGaps⟩ := Option.isSome_iff_exists.mp (versionGaps_isSome current infos)
      rw [isGaps]
      rfl

structure Advanced (before after : StalenessTracker) (advanced : Bool) : Prop where
  enabled : after.keepVersions = before.keepVersions
  grown : before.versions <+: after.versions
  distinct : before.versions.Nodup → after.versions.Nodup
  unmoved : advanced = false → after = before

theorem Advanced.observed (moved : Advanced before after advanced)
    (observed : Observed before group) :
    Observed after group := fun info member =>
  moved.grown.subset (observed info member)

theorem Advanced.tracking {keep : Nat} (moved : Advanced before after advanced)
    (tracking : Tracking keep before) :
    Tracking keep after :=
  { enabled := moved.enabled.trans tracking.enabled
    distinct := moved.distinct tracking.distinct }

private theorem foldl_observeVersion_nodup {versions : List String} (distinct : versions.Nodup) :
    (infos.foldl observeVersion versions).Nodup := by
  induction infos generalizing versions with
  | nil => exact distinct
  | cons info rest ih =>
    apply ih
    unfold observeVersion
    split
    · exact distinct
    · next new =>
        rw [nodup_append]
        refine ⟨distinct, nodup_singleton _, fun version old other isNew same => ?_⟩
        rw [mem_singleton] at isNew
        rw [same, isNew] at old
        exact new old

private theorem mem_foldl_observeVersion {versions : List String} {info : TrajectoryVersionInfo}
    (member : info ∈ infos) :
    info.version ∈ infos.foldl observeVersion versions := by
  rw [foldl_observeVersion, mem_append, mem_eraseDups, mem_filter]
  by_cases known : info.version ∈ versions
  · exact .inl known
  · exact .inr ⟨mem_map_of_mem member, decide_eq_true known⟩

theorem observeGroup_advanced (tracker : StalenessTracker) (group : Group) :
    Advanced tracker (tracker.observeGroup group).1 (tracker.observeGroup group).2 := by
  unfold StalenessTracker.observeGroup
  cases enabled : tracker.keepVersions with
  | none =>
    exact
      { enabled := rfl
        grown := prefix_refl _
        distinct := id
        unmoved := fun _ => rfl }
  | some keep =>
    have extends_ : tracker.versions <+:
        (trajectoryVersionInfos group).foldl observeVersion tracker.versions := by
      rw [foldl_observeVersion]
      exact prefix_append _ _
    refine
      { enabled := enabled.symm
        grown := extends_
        distinct := foldl_observeVersion_nodup
        unmoved := fun same => ?_ }
    have length : ((trajectoryVersionInfos group).foldl observeVersion tracker.versions).length =
        tracker.versions.length := by
      simpa using same
    dsimp only
    rw [← extends_.eq_of_length length.symm, ← enabled]

theorem observeGroup_observed (tracking : Tracking keep tracker) (group : Group) :
    Observed (tracker.observeGroup group).1 group := by
  intro info member
  unfold StalenessTracker.observeGroup
  rw [tracking.enabled]
  exact mem_foldl_observeVersion member

theorem Advanced.trans {first second third : StalenessTracker} {one other : Bool}
    (earlier : Advanced first second one) (later : Advanced second third other) :
    Advanced first third (one || other) :=
  { enabled := later.enabled.trans earlier.enabled
    grown := earlier.grown.trans later.grown
    distinct := fun distinct => later.distinct (earlier.distinct distinct)
    unmoved := fun still => by
      rw [Bool.or_eq_false_iff] at still
      rw [later.unmoved still.2, earlier.unmoved still.1] }

def Known (tracker : StalenessTracker) (completed : CompletedGroup) : Prop :=
  ∀ result, completed.result = some result → Observed tracker result

theorem Advanced.known (moved : Advanced before after advanced) {completed : CompletedGroup}
    (known : Known before completed) : Known after completed := fun result isResult =>
  moved.observed (known result isResult)

theorem observeCompleted_advanced (tracking : Tracking keep tracker) (batch : List CompletedGroup) :
    Advanced tracker (observeCompleted tracker batch).1 (observeCompleted tracker batch).2 ∧
      ∀ completed ∈ batch, Known (observeCompleted tracker batch).1 completed := by
  unfold observeCompleted
  -- The induction takes groups from the end: the last one observes behind the others.
  induction batch using List.reverseRecOn with
  | nil =>
    refine ⟨?_, fun completed member => by cases member⟩
    exact
      { enabled := rfl
        grown := prefix_refl _
        distinct := id
        unmoved := fun _ => rfl }
  | append_singleton front last ih =>
    rw [foldl_append]
    obtain ⟨moved, known⟩ := ih
    generalize front.foldl _ (tracker, false) = seen at moved known ⊢
    rw [foldl_cons, foldl_nil]
    cases isResult : last.result with
    | none =>
      refine ⟨moved, forall_snoc known (fun result impossible => ?_)⟩
      rw [isResult] at impossible
      cases impossible
    | some result =>
      have further := observeGroup_advanced seen.1 result
      have observed := observeGroup_observed (moved.tracking tracking) result
      refine ⟨moved.trans further, forall_snoc
        (fun completed member => further.known (known completed member))
        (fun other same => ?_)⟩
      rw [isResult] at same
      cases same
      exact observed

/-- What a call holds: drained groups the tracker knows, and accepted groups in the window. -/
structure Held (keep : Nat) (tracker : StalenessTracker) (completedById : OrderedDict Nat
    CompletedGroup) (data : List PendingGroup) : Prop where
  known : ∀ entry ∈ completedById.entries, Known tracker entry.2
  recent : ∀ pending ∈ data, Recent keep tracker pending.samples

/-- A pass goes on with what a call may hold, or fails for another reason than the versions. -/
def Judged (keep : Nat) (tracker : StalenessTracker) :
    Except CollectError Collection → Prop
  | .ok next => Held keep tracker next.completedById next.data
  | .error error => error ≠ .unknownVersion

section Pass

variable {marking : Marking} {rules : Rules} {tracker : StalenessTracker} {keep : Nat}

variable {state : Collection}

section

variable (tracking : Tracking keep tracker)
include tracking

theorem consumeOne_judged {groupId : Nat} {completed : CompletedGroup}
    (known : Known tracker completed) (held : Held keep tracker state.completedById state.data) :
    Judged keep tracker (consumeOne marking rules tracker groupId completed state) := by
  unfold consumeOne
  split
  · split
    · exact held
    · split
      · exact CollectError.noConfusion
      · exact held
  · have verdict := tracking.keepGroup (Observed.getD known)
    rw [verdict]
    by_cases recent : Recent keep tracker (completed.result.getD [])
    · rw [decide_eq_true recent]
      have marked : Recent keep tracker
          (marking.returned rules.rolloutId groupId (completed.result.getD [])) := by
        unfold Recent
        rw [marking.sameVersions]
        exact recent
      exact
        { known := held.known
          recent := forall_snoc held.recent marked }
    · rw [decide_eq_false recent]
      exact held

theorem consume_judged {ids : List Nat} (held : Held keep tracker state.completedById state.data) :
    Judged keep tracker (consume marking rules tracker ids state) := by
  induction ids generalizing state with
  | nil => exact held
  | cons groupId rest ih =>
    rw [consume]
    split
    · exact held
    · split
      · exact CollectError.noConfusion
      · next completed found =>
          have popped : Held keep tracker (state.completedById.pop groupId) state.data :=
            { known := fun entry member =>
                held.known entry (OrderedDict.mem_entries_pop member)
              recent := held.recent }
          have one : Judged keep tracker (consumeOne marking rules tracker groupId completed
              { state with completedById := state.completedById.pop groupId }) :=
            consumeOne_judged tracking
              (held.known (groupId, completed) (OrderedDict.mem_of_get? found)) popped
          cases outcome : consumeOne marking rules tracker groupId completed
            { state with completedById := state.completedById.pop groupId } with
          | error error =>
            rw [outcome] at one
            exact one
          | ok next =>
            rw [outcome] at one
            exact ih one

theorem filterPending_recent {data : List PendingGroup}
    (observed : ∀ pending ∈ data, Observed tracker pending.samples) :
    ∃ kept dropped, tracker.filterPending data = some (kept, dropped) ∧
      ∀ pending ∈ kept, Recent keep tracker pending.samples := by
  induction data with
  | nil => exact ⟨[], [], rfl, fun pending member => by cases member⟩
  | cons pending rest ih =>
    obtain ⟨kept, dropped, filtered, recent⟩ :=
      ih (fun other member => observed other (mem_cons_of_mem pending member))
    have verdict := tracking.keepGroup (observed pending mem_cons_self)
    unfold StalenessTracker.filterPending
    rw [verdict, filtered]
    by_cases isRecent : Recent keep tracker pending.samples
    · refine ⟨pending :: kept, dropped, ?_, forall_mem_cons.mpr ⟨isRecent, recent⟩⟩
      simp [isRecent]
    · refine ⟨kept, pending.groupId :: dropped, ?_, recent⟩
      simp [isRecent]

end

theorem refreshPending_recent {before : StalenessTracker} {observed : StalenessTracker × Bool}
    (tracking : Tracking keep observed.1) (moved : Advanced before observed.1 observed.2)
    {data : List PendingGroup} (recent : ∀ pending ∈ data, Recent keep before pending.samples) :
    ∃ kept dropped, refreshPending observed data = some (kept, dropped) ∧
      ∀ pending ∈ kept, Recent keep observed.1 pending.samples := by
  unfold refreshPending
  split
  · exact filterPending_recent tracking (fun pending member =>
      moved.observed (recent pending member).observed)
  · next kept =>
      refine ⟨data, [], rfl, fun pending member => ?_⟩
      have still : observed.2 = false := by
        by_contra advanced
        exact kept ⟨Bool.eq_true_of_not_eq_false advanced, ne_nil_of_mem member⟩
      rw [moved.unmoved still]
      exact recent pending member

theorem loadCompleted_known {batch : List CompletedGroup}
    {dict : OrderedDict Nat CompletedGroup}
    (dictKnown : ∀ entry ∈ dict.entries, Known tracker entry.2)
    (batchKnown : ∀ completed ∈ batch, Known tracker completed) :
    ∀ entry ∈ (loadCompleted dict batch).entries, Known tracker entry.2 := by
  unfold loadCompleted
  induction batch generalizing dict with
  | nil => exact dictKnown
  | cons completed rest ih =>
    apply ih
    · intro entry member
      rcases OrderedDict.mem_entries_set member with rfl | old
      · exact batchKnown completed mem_cons_self
      · exact dictKnown entry old
    · exact fun other member => batchKnown other (mem_cons_of_mem completed member)

theorem collectPass_judged (tracking : Tracking keep tracker) (batch : List CompletedGroup)
    (held : Held keep tracker state.completedById state.data) :
    Judged keep (observeCompleted tracker batch).1
      (collectPass marking rules tracker batch state) := by
  obtain ⟨moved, known⟩ := observeCompleted_advanced tracking batch
  have trackingAfter := moved.tracking tracking
  obtain ⟨kept, dropped, refreshed, recent⟩ :=
    refreshPending_recent trackingAfter moved held.recent
  unfold collectPass
  dsimp only
  rw [refreshed]
  apply consume_judged trackingAfter
  exact
    { known := loadCompleted_known
        (fun entry member => moved.known (held.known entry member)) known
      recent := recent }

end Pass

inductive Collector
  | fullyAsync
  | partialAsync
deriving DecidableEq, Repr

def Collector.marking : Collector → Marking
  | .fullyAsync => FullyAsync.marking
  | .partialAsync => PartialAsync.marking

def Collector.settle : Collector → Machine → Call → Machine
  | .fullyAsync => FullyAsync.settle
  | .partialAsync => PartialAsync.settle

def Collector.step (collector : Collector) (machine : Machine) (event : Event) : Machine :=
  machine.step collector.marking collector.settle event

def Collector.run (collector : Collector) (queueSize highWatermark maxActiveGroups keep : Nat)
    (events : List Event) : Machine :=
  Runs.run collector.step
    (Machine.initial queueSize highWatermark maxActiveGroups (some keep)) events

structure WindowKept (keep : Nat) (machine : Machine) : Prop where
  tracking : Tracking keep machine.worker.staleness
  held : ∀ call, machine.call = some call →
    Held keep machine.worker.staleness call.completedById call.data
  judged : CollectError.unknownVersion ∉ machine.failures

theorem windowKept_initial (queueSize highWatermark maxActiveGroups keep : Nat) :
    WindowKept keep (Machine.initial queueSize highWatermark maxActiveGroups (some keep)) :=
  { tracking :=
      { enabled := rfl
        distinct := nodup_nil }
    held := fun call impossible => by cases impossible
    judged := not_mem_nil }

theorem WindowKept.same {before after : Machine} (kept : WindowKept keep before)
    (tracker : after.worker.staleness = before.worker.staleness) (call : after.call = before.call)
    (failures : after.failures = before.failures) : WindowKept keep after :=
  { tracking := by
      rw [tracker]
      exact kept.tracking
    held := by
      rw [tracker, call]
      exact kept.held
    judged := by
      rw [failures]
      exact kept.judged }

theorem WindowKept.fail {error : CollectError} (tracking : Tracking keep machine.worker.staleness)
    (judged : CollectError.unknownVersion ∉ machine.failures) (other : error ≠ .unknownVersion) :
    WindowKept keep (machine.fail error) :=
  { tracking := tracking
    held := fun call impossible => by cases impossible
    judged := by
      unfold Machine.fail
      rw [mem_append, mem_singleton]
      rintro (old | new)
      · exact judged old
      · exact other new.symm }

theorem WindowKept.dispatch (kept : WindowKept keep machine) (marking : Marking)
    (fresh : Option Group) :
    WindowKept keep (machine.dispatch marking fresh) := by
  unfold Machine.dispatch
  dsimp only
  split
  · split
    · exact kept.same rfl rfl rfl
    · exact kept.same rfl rfl rfl
    · exact kept
  · exact kept

theorem putCompleted_staleness {worker after : Worker} {completed : CompletedGroup}
    (put : worker.putCompleted completed = some after) : after.staleness = worker.staleness := by
  unfold Worker.putCompleted at put
  split at put
  · cases put
    rfl
  · split at put
    · cases put
    · cases put
      rfl

section

variable (kept : WindowKept keep machine)
include kept

theorem WindowKept.finish (groupId : Nat) (outcome : Except String Group) :
    WindowKept keep (machine.finish groupId outcome) := by
  unfold Machine.finish
  split
  · exact kept
  · split
    · exact kept
    · next worker put =>
        have tracker : worker.staleness = machine.worker.staleness := putCompleted_staleness put
        exact kept.same tracker rfl rfl

theorem WindowKept.begin (rules : Rules) : WindowKept keep (machine.begin rules) := by
  unfold Machine.begin
  split
  · exact kept
  · exact
      { tracking := kept.tracking
        held := fun call begun => by
          cases begun
          exact
            { known := fun entry member => by cases member
              recent := fun pending member => by cases member }
        judged := kept.judged }

theorem WindowKept.pass (marking : Marking) (current : machine.call = some call) :
    WindowKept keep (machine.pass marking call) := by
  have moved := (observeCompleted_advanced kept.tracking machine.worker.outputQueue).1
  have outcome : Judged keep machine.drained.worker.staleness
      (collectPass marking call.rules machine.worker.staleness machine.worker.outputQueue
        (machine.collection call)) :=
    collectPass_judged kept.tracking machine.worker.outputQueue (kept.held call current)
  unfold Machine.pass
  split
  · next error failed =>
      rw [failed] at outcome
      exact WindowKept.fail (moved.tracking kept.tracking) kept.judged outcome
  · next collection passed =>
      rw [passed] at outcome
      exact
        { tracking := moved.tracking kept.tracking
          held := fun next same => by
            cases same
            exact outcome
          judged := kept.judged }

theorem WindowKept.finishCall (call : Call) : WindowKept keep (machine.finishCall call) := by
  unfold Machine.finishCall
  split
  · exact WindowKept.fail kept.tracking kept.judged CollectError.noConfusion
  · split
    · exact WindowKept.fail kept.tracking kept.judged CollectError.noConfusion
    · exact
        { kept with
          held := fun other impossible => by cases impossible }

theorem WindowKept.settle (collector : Collector) (current : machine.call = some call) :
    WindowKept keep (collector.settle machine call) := by
  cases collector with
  | fullyAsync => exact kept.finishCall call
  | partialAsync =>
    unfold Collector.settle PartialAsync.settle
    dsimp only
    split
    · have stopped : WindowKept keep (PartialAsync.stopWorker machine) :=
        kept.same rfl rfl rfl
      exact stopped.finishCall _
    · split
      · exact kept.finishCall call
      · next entry rest entries =>
          unfold PartialAsync.returnCompletedGroup
          split
          · exact kept
          · next put =>
              have held := kept.held call current
              refine
                { tracking := ?_
                  held := fun next same => ?_
                  judged := kept.judged }
              · rw [putCompleted_staleness put]
                exact kept.tracking
              · cases same
                dsimp only
                rw [putCompleted_staleness put]
                exact
                  { known := fun other member =>
                      held.known other (OrderedDict.mem_entries_pop member)
                    recent := held.recent }

theorem WindowKept.step (collector : Collector) (event : Event) :
    WindowKept keep (collector.step machine event) := by
  unfold Collector.step
  cases event with
  | prefetch group => exact kept.same rfl rfl rfl
  | dispatch fresh => exact kept.dispatch collector.marking fresh
  | finish groupId outcome => exact kept.finish groupId outcome
  | begin rules => exact kept.begin rules
  | pass =>
    unfold Machine.step
    dsimp only
    split
    · exact kept
    · next call current =>
        split
        · exact kept.pass collector.marking current
        · exact kept
  | settle =>
    unfold Machine.step
    dsimp only
    split
    · exact kept
    · next call current =>
        split
        · exact kept
        · exact kept.settle collector current

end

theorem windowKept_run (collector : Collector)
    (queueSize highWatermark maxActiveGroups keep : Nat) (events : List Event) :
    WindowKept keep (collector.run queueSize highWatermark maxActiveGroups keep events) := by
  have preserved : ∀ (machine : Machine) (event : Event), WindowKept keep machine →
      WindowKept keep (collector.step machine event) := fun _ event kept =>
    kept.step collector event
  exact Runs.run_preserves preserved
    (windowKept_initial queueSize highWatermark maxActiveGroups keep) events

/-- A batch as the trainer gets it: each group in the window, and its metrics computed. -/
structure BatchRecent (keep : Nat) (tracker : StalenessTracker) (batch : List Group) : Prop where
  recent : ∀ group ∈ batch, Recent keep tracker group
  metrics : ∀ droppedGroups, (tracker.metricsForGroups droppedGroups batch).isSome = true

theorem batchRecent_dataGroups {data : List PendingGroup}
    (recent : ∀ pending ∈ data, Recent keep tracker pending.samples) :
    BatchRecent keep tracker (dataGroups data) := by
  have each : ∀ group ∈ dataGroups data, Recent keep tracker group := by
    intro group member
    have inData : group ∈ data.map PendingGroup.samples :=
      (perm_insertionSort firstIndexLe _).mem_iff.mp member
    obtain ⟨pending, inPending, rfl⟩ := mem_map.mp inData
    exact recent pending inPending
  exact
    { recent := each
      metrics := fun droppedGroups =>
        metricsForGroups_isSome droppedGroups (fun group member => (each group member).observed) }

/-- The groups a call drained, now or before, that it has not walked yet. -/
def Machine.waiting (machine : Machine) (call : Call) (completed : CompletedGroup) : Prop :=
  completed ∈ machine.worker.outputQueue ∨
    ∃ groupId, (groupId, completed) ∈ call.completedById.entries

theorem finishCall_outputs
    (returned : (machine.finishCall call).outputs = machine.outputs ++ [batch]) :
    batch = dataGroups call.data ∧ (machine.finishCall call).worker = machine.worker := by
  unfold Machine.finishCall at returned ⊢
  split at returned
  · exact absurd returned (by simp [Machine.fail])
  · split at returned
    · exact absurd returned (by simp [Machine.fail])
    · next filled trainable =>
        rw [if_neg filled, if_neg trainable]
        have same := append_cancel_left returned
        exact ⟨(List.cons.inj same).1.symm, rfl⟩

theorem silent_outputs {before after : Machine} (same : after.outputs = before.outputs)
    (returned : after.outputs = before.outputs ++ [batch]) : False := by
  rw [same] at returned
  have sizes := congrArg List.length returned
  rw [length_append, length_singleton] at sizes
  omega

theorem settle_outputs {collector : Collector}
    (returned : (collector.settle machine call).outputs = machine.outputs ++ [batch]) :
    batch = dataGroups call.data ∧
      (collector.settle machine call).worker.staleness = machine.worker.staleness := by
  cases collector with
  | fullyAsync =>
    have finished : (machine.finishCall call).outputs = machine.outputs ++ [batch] := returned
    obtain ⟨isBatch, worker⟩ := finishCall_outputs finished
    exact ⟨isBatch, congrArg Worker.staleness worker⟩
  | partialAsync =>
    change (PartialAsync.settle machine call).outputs = _ at returned
    change _ ∧ (PartialAsync.settle machine call).worker.staleness = _
    unfold PartialAsync.settle at returned ⊢
    by_cases final : call.rules.drainFinalWorker = true
    · rw [if_pos final] at returned ⊢
      have finished : ((PartialAsync.stopWorker machine).finishCall
        { call with completedById := OrderedDict.empty }).outputs =
          (PartialAsync.stopWorker machine).outputs ++ [batch] := returned
      obtain ⟨isBatch, worker⟩ := finishCall_outputs finished
      rw [worker]
      exact ⟨isBatch, rfl⟩
    · rw [if_neg final] at returned ⊢
      cases entries : call.completedById.entries with
      | nil =>
        rw [entries] at returned
        obtain ⟨isBatch, worker⟩ := finishCall_outputs returned
        exact ⟨isBatch, congrArg Worker.staleness worker⟩
      | cons entry rest =>
        rw [entries] at returned
        refine (silent_outputs ?_ returned).elim
        dsimp only
        unfold PartialAsync.returnCompletedGroup
        split <;> rfl

theorem step_outputs {collector : Collector} {event : Event}
    (returned : (collector.step machine event).outputs = machine.outputs ++ [batch]) :
    ∃ call, machine.call = some call ∧ call.collecting = false ∧ batch = dataGroups call.data ∧
      (collector.step machine event).worker.staleness = machine.worker.staleness := by
  unfold Collector.step at returned ⊢
  cases event with
  | prefetch group => exact (silent_outputs rfl returned).elim
  | dispatch fresh =>
    refine (silent_outputs ?_ returned).elim
    unfold Machine.step Machine.dispatch
    dsimp only
    repeat' split
    all_goals rfl
  | finish groupId outcome =>
    refine (silent_outputs ?_ returned).elim
    unfold Machine.step Machine.finish
    dsimp only
    repeat' split
    all_goals rfl
  | begin rules =>
    refine (silent_outputs ?_ returned).elim
    unfold Machine.step Machine.begin
    dsimp only
    split <;> rfl
  | pass =>
    refine (silent_outputs ?_ returned).elim
    unfold Machine.step Machine.pass
    dsimp only
    repeat' split
    all_goals rfl
  | settle =>
    unfold Machine.step at returned ⊢
    dsimp only at returned ⊢
    split at returned
    · exact (silent_outputs rfl returned).elim
    · next call current =>
        split at returned
        · exact (silent_outputs rfl returned).elim
        · next full =>
            have done : call.collecting = false := Bool.eq_false_of_not_eq_true full
            rw [current, if_neg full]
            exact ⟨call, rfl, done, settle_outputs returned⟩

/-- Over every run of either collector, in any completion order: no version lookup fails; what a
call holds when its loop ends is in the window; a group still waiting is judged by the window of
the tracker that observed it, whether or not an earlier call put it back; and every batch is
returned with its groups in the window. -/
theorem returned_batches_within_window (collector : Collector)
    (queueSize highWatermark maxActiveGroups keep : Nat) (events : List Event) :
    CollectError.unknownVersion ∉
        (collector.run queueSize highWatermark maxActiveGroups keep events).failures ∧
      (∀ call, (collector.run queueSize highWatermark maxActiveGroups keep events).call =
          some call → call.collecting = false →
        BatchRecent keep
          (collector.run queueSize highWatermark maxActiveGroups keep events).worker.staleness
          (dataGroups call.data)) ∧
      (∀ call completed result,
        (collector.run queueSize highWatermark maxActiveGroups keep events).call = some call →
        (collector.run queueSize highWatermark maxActiveGroups keep events).waiting call completed →
        completed.result = some result →
        (collector.run queueSize highWatermark maxActiveGroups keep
            events).drained.worker.staleness.keepGroup result =
          some (decide (Recent keep (collector.run queueSize highWatermark maxActiveGroups keep
            events).drained.worker.staleness result))) ∧
      ∀ event batch,
        (collector.step (collector.run queueSize highWatermark maxActiveGroups keep events)
            event).outputs =
          (collector.run queueSize highWatermark maxActiveGroups keep events).outputs ++ [batch] →
        BatchRecent keep
          (collector.step (collector.run queueSize highWatermark maxActiveGroups keep events)
            event).worker.staleness batch := by
  have kept := windowKept_run collector queueSize highWatermark maxActiveGroups keep events
  generalize collector.run queueSize highWatermark maxActiveGroups keep events = machine at kept ⊢
  refine ⟨kept.judged, ?_, ?_, ?_⟩
  · intro call current _done
    exact batchRecent_dataGroups (kept.held call current).recent
  · intro call completed result current waiting isResult
    obtain ⟨moved, known⟩ :=
      observeCompleted_advanced kept.tracking machine.worker.outputQueue
    apply (moved.tracking kept.tracking).keepGroup
    rcases waiting with queued | ⟨groupId, drained⟩
    · exact known completed queued result isResult
    · exact moved.observed ((kept.held call current).known _ drained result isResult)
  · intro event batch returned
    obtain ⟨call, current, _done, rfl, tracker⟩ := step_outputs returned
    rw [tracker]
    exact batchRecent_dataGroups (kept.held call current).recent

end Dressage.Rollout

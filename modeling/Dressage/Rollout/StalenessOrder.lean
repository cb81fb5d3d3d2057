/-
What the staleness tracker calls old.

Version labels are opaque to the tracker, so it dates them by the call in which it first sees
them. Where labels are first observed in the order in which their weights were installed, its
recent labels are the newest installed ones; where an old label shows up late, they are not.
-/

import Dressage.Rollout.Staleness
import Mathlib.Data.List.Induction
import Mathlib.Data.List.Nodup

namespace Dressage.Rollout

open Lib List StalenessTracker

inductive TrackerCall
  | observeGroup (group : Group)
  | shouldDropGroup (group : Group)
deriving DecidableEq, Repr

def StalenessTracker.call (tracker : StalenessTracker) : TrackerCall → StalenessTracker
  | .observeGroup group => (tracker.observeGroup group).1
  | .shouldDropGroup _ => tracker

def StalenessTracker.after (tracker : StalenessTracker) (calls : List TrackerCall) :
    StalenessTracker :=
  calls.foldl call tracker

def StalenessTracker.fresh (keep : Nat) : StalenessTracker :=
  { keepVersions := some keep
    versions := [] }

def groupVersions (group : Group) : List String :=
  (trajectoryVersionInfos group).map TrajectoryVersionInfo.version

def TrackerCall.reveals : TrackerCall → List String
  | .observeGroup group => groupVersions group
  | .shouldDropGroup _ => []

def observedVersions (calls : List TrackerCall) : List String :=
  (calls.flatMap TrackerCall.reveals).eraseDups

def newest (keep : Nat) (versions : List String) : List String :=
  versions.drop (versions.length - keep)

def older (keep : Nat) (versions : List String) : List String :=
  versions.take (versions.length - keep)

def inInstallationOrder (installed observed : List String) : List String :=
  installed.filter (fun version => version ∈ observed)

theorem foldl_observeVersion (seen : List String) (infos : List TrajectoryVersionInfo) :
    infos.foldl observeVersion seen =
      seen ++ ((infos.map TrajectoryVersionInfo.version).filter (· ∉ seen)).eraseDups := by
  induction infos generalizing seen with
  | nil => simp
  | cons info rest ih =>
    rw [foldl_cons, ih, observeVersion, map_cons]
    by_cases known : info.version ∈ seen
    · simp [known]
    · rw [if_neg known, filter_cons_of_pos (by simpa using known), eraseDups_cons,
        append_assoc, singleton_append, filter_filter]
      congr 4
      funext version
      by_cases same : version = info.version
      · simp [same]
      · simp [same]

theorem eraseDups_append_filter (first second : List String) :
    (first ++ second).eraseDups =
      first.eraseDups ++ (second.filter (· ∉ first.eraseDups)).eraseDups := by
  rw [eraseDups_append]
  congr 2
  unfold List.removeAll
  refine filter_congr ?_
  intro version _inSecond
  simp [mem_eraseDups]

variable (keep : Nat)

theorem after_fresh (calls : List TrackerCall) :
    (fresh keep).after calls =
      { keepVersions := some keep
        versions := observedVersions calls } := by
  -- The induction takes calls from the end: the last call extends the list the others left.
  induction calls using List.reverseRecOn with
  | nil => rfl
  | append_singleton calls last ih =>
    have before : calls.foldl call (fresh keep) =
      { keepVersions := some keep
        versions := observedVersions calls } := ih
    unfold StalenessTracker.after
    rw [foldl_append, before]
    cases last with
    | observeGroup group =>
      simp only [foldl_cons, foldl_nil, call,
        observeGroup, foldl_observeVersion, observedVersions,
        flatMap_append, flatMap_cons, flatMap_nil, append_nil,
        TrackerCall.reveals, groupVersions]
      rw [eraseDups_append_filter]
    | shouldDropGroup group =>
      simp [call, observedVersions, TrackerCall.reveals]

theorem nodup_eraseDups (versions : List String) : versions.eraseDups.Nodup := by
  match versions with
  | [] => simp
  | version :: rest =>
    have shorter : (rest.filter (fun other => !other == version)).length < rest.length + 1 :=
      Nat.lt_succ_of_le (length_filter_le _ rest)
    rw [eraseDups_cons, nodup_cons]
    refine ⟨?_, nodup_eraseDups _⟩
    simp [mem_eraseDups]
termination_by versions.length

theorem anyBefore_true {tracker : StalenessTracker} {cutoff : Nat}
    {infos : List TrajectoryVersionInfo} (dropped : tracker.anyBefore cutoff infos = some true) :
    ∃ info ∈ infos, info.version ∈ tracker.versions.take cutoff := by
  induction infos with
  | nil => simp [anyBefore] at dropped
  | cons info rest ih =>
    by_cases known : info.version ∈ tracker.versions
    · by_cases before : tracker.versions.idxOf info.version < cutoff
      · exact ⟨info, mem_cons_self, (mem_take_iff_idxOf_lt known).mpr before⟩
      · simp only [anyBefore, versionIndex, if_pos known,
          Option.bind_eq_bind, Option.bind_some, if_neg before] at dropped
        obtain ⟨found, inRest, old⟩ := ih dropped
        exact ⟨found, mem_cons_of_mem info inRest, old⟩
    · simp [anyBefore, versionIndex, known] at dropped

theorem anyBefore_false {tracker : StalenessTracker} {cutoff : Nat}
    {infos : List TrajectoryVersionInfo} (distinct : tracker.versions.Nodup)
    (recent : ∀ info ∈ infos, info.version ∈ tracker.versions.drop cutoff) :
    tracker.anyBefore cutoff infos = some false := by
  induction infos with
  | nil => rfl
  | cons info rest ih =>
    have inRecent := recent info mem_cons_self
    have known : info.version ∈ tracker.versions := mem_of_mem_drop inRecent
    have notBefore : ¬ tracker.versions.idxOf info.version < cutoff := by
      intro before
      have inOlder := (mem_take_iff_idxOf_lt known).mpr before
      exact disjoint_take_drop distinct (Nat.le_refl cutoff) inOlder inRecent
    have later := ih (fun other member => recent other (mem_cons_of_mem info member))
    simp only [anyBefore, versionIndex, if_pos known,
      Option.bind_eq_bind, Option.bind_some, if_neg notBefore]
    exact later

theorem shouldDropGroup_after (calls : List TrackerCall) (group : Group)
    (seen : observedVersions calls ≠ []) :
    ((fresh keep).after calls).shouldDropGroup group =
      ((fresh keep).after calls).anyBefore
        ((observedVersions calls).length - keep) (trajectoryVersionInfos group) := by
  simp [after_fresh, shouldDropGroup, cutoffVersionIndex, seen]

theorem dropped_has_older (calls : List TrackerCall) (group : Group)
    (dropped : ((fresh keep).after calls).shouldDropGroup group = some true) :
    ∃ version ∈ groupVersions group, version ∈ older keep (observedVersions calls) := by
  by_cases seen : observedVersions calls = []
  · simp [after_fresh, shouldDropGroup, cutoffVersionIndex,
      seen] at dropped
  · rw [shouldDropGroup_after keep calls group seen] at dropped
    obtain ⟨info, member, old⟩ := anyBefore_true dropped
    rw [after_fresh] at old
    exact ⟨info.version, mem_map_of_mem member, old⟩

theorem recent_group_kept (calls : List TrackerCall) (group : Group)
    (recent : ∀ version ∈ groupVersions group, version ∈ newest keep (observedVersions calls)) :
    ((fresh keep).after calls).shouldDropGroup group = some false := by
  by_cases seen : observedVersions calls = []
  · simp [after_fresh, shouldDropGroup, cutoffVersionIndex, seen]
  · rw [shouldDropGroup_after keep calls group seen]
    refine anyBefore_false ?_ ?_
    · rw [after_fresh]
      exact nodup_eraseDups _
    · intro info member
      rw [after_fresh]
      exact recent info.version (mem_map_of_mem member)

theorem inInstallationOrder_of_sublist {installed observed : List String}
    (distinct : installed.Nodup) (inOrder : observed.Sublist installed) :
    inInstallationOrder installed observed = observed := by
  unfold inInstallationOrder
  induction inOrder with
  | slnil => rfl
  | @cons observed installed version inOrder ih =>
    have new := (nodup_cons.mp distinct).1
    have absent : version ∉ observed := fun member => new (inOrder.subset member)
    rw [filter_cons_of_neg (by simpa using absent)]
    exact ih (nodup_cons.mp distinct).2
  | @cons_cons observed installed version inOrder ih =>
    have new := (nodup_cons.mp distinct).1
    rw [filter_cons_of_pos (by simp)]
    congr 1
    refine Eq.trans (filter_congr ?_) (ih (nodup_cons.mp distinct).2)
    intro other member
    have different : other ≠ version := fun same => new (same ▸ member)
    simp [different]

/-- After any calls, a group is dropped only for a label observed before the
last `keep` first-observed ones, and a group whose labels are all among those
is kept. Where labels are first observed in installation order, the last `keep`
first-observed labels are the `keep` newest installed ones among the observed. -/
theorem dropped_by_first_observation (keep : Nat) (calls : List TrackerCall) (group : Group)
    (installed : List String) :
    (((fresh keep).after calls).shouldDropGroup group = some true →
      ∃ version ∈ groupVersions group, version ∈ older keep (observedVersions calls)) ∧
    ((∀ version ∈ groupVersions group, version ∈ newest keep (observedVersions calls)) →
      ((fresh keep).after calls).shouldDropGroup group = some false) ∧
    (installed.Nodup → (observedVersions calls).Sublist installed →
      newest keep (observedVersions calls) =
        newest keep (inInstallationOrder installed (observedVersions calls))) := by
  refine ⟨dropped_has_older keep calls group, recent_group_kept keep calls group, ?_⟩
  intro distinct inOrder
  rw [inInstallationOrder_of_sublist distinct inOrder]

def endingIn (trajectory version : String) : Sample :=
  { index := 0
    status := .completed
    removeSample := false
    responseLength := 1
    lossMask := none
    sessionId := some trajectory
    metadata :=
      { parentTrajId := some trajectory
        segmentIndex := some 0
        endTokenVersion := some version
        sessionId := some trajectory
        retryCount := none
        lastRetrySessionId := none
        startRolloutId := none
        asyncGroupId := none
        partialRollout := false
        returnRolloutId := none
        returnAsyncGroupId := none
        partialRolloutReturned := false } }

def lateOldGroup : List TrackerCall :=
  [.observeGroup [endingIn "fast" "v1"], .observeGroup [endingIn "slow" "v0"]]

theorem newest_group_dropped_after_late_old_group :
    ((fresh 1).after lateOldGroup).shouldDropGroup [endingIn "fast" "v1"] =
        some true ∧
      ∀ version ∈ groupVersions [endingIn "fast" "v1"],
        version ∈ newest 1 (inInstallationOrder ["v0", "v1"] (observedVersions lateOldGroup)) := by
  decide

theorem old_group_dropped_in_order :
    ((fresh 1).after lateOldGroup.reverse).shouldDropGroup
        [endingIn "fast" "v1"] = some false ∧
      newest 1 (observedVersions lateOldGroup.reverse) =
        newest 1 (inInstallationOrder ["v0", "v1"] (observedVersions lateOldGroup.reverse)) := by
  have spec := dropped_by_first_observation 1 lateOldGroup.reverse [endingIn "fast" "v1"]
    ["v0", "v1"]
  exact ⟨spec.2.1 (by decide), spec.2.2 (by decide) (by decide)⟩

end Dressage.Rollout

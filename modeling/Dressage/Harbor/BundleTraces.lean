/-
The bundles of an artifact store over whole runs.

Commits, invalidations and job manifests come in any order. A bundle that trains comes from a
clean commit that nothing rejected afterwards. Of a manifest only its first part is modelled,
which marks the bundles in memory; its files are left out.
-/

import Dressage.Harbor.AttemptBundles
import Dressage.Lib.Runs

namespace Dressage.Harbor

open Lib

inductive StoreEvent where
  | commit (request : AttemptRequest) (answers : CommitAnswers)
  | invalidate (key : AttemptKey) (failure : AttemptFailure)
  | reconcile (ofJob : AttemptKey → Bool) (finalKeys : List AttemptKey) (aborted : Bool)

def Bundle.reject (bundle : Bundle) (failure : AttemptFailure) : Bundle :=
  { bundle with
    failures := deduplicateFailures (bundle.failures ++ [failure])
    superseded := true
    trainable := false }

def notSelected (aborted : Bool) : AttemptFailure :=
  { code := if aborted then "JOB_ABORTED" else "ATTEMPT_NOT_SELECTED"
    stage := .lifecycle
    message :=
      if aborted then "Harbor Job aborted before artifact selection"
      else "physical attempt was not selected by final reconciliation"
    fatal := true }

def ArtifactStore.step (reader : Value → Option Value) (settings : StoreSettings)
    (store : ArtifactStore) : StoreEvent → ArtifactStore
  | .commit request answers => (store.commitAttempt reader settings request answers).1
  | .invalidate key failure =>
    match store.bundles.get? key with
    | none => store
    | some bundle => { store with bundles := store.bundles.set key (bundle.reject failure) }
  | .reconcile ofJob finalKeys aborted =>
    { store with
      bundles := store.bundles.mapValues (fun key bundle =>
        if ofJob key then
          if key ∈ finalKeys then { bundle with superseded := false }
          else bundle.reject (notSelected aborted)
        else bundle) }

def StoreEvent.selects (key : AttemptKey) : StoreEvent → Prop
  | .reconcile ofJob finalKeys _ => ofJob key = true ∧ key ∈ finalKeys
  | _ => False

def StoreEvent.rejects (key : AttemptKey) : StoreEvent → Prop
  | .invalidate other _ => other = key
  | .reconcile ofJob finalKeys _ => ofJob key = true ∧ key ∉ finalKeys
  | _ => False

/-- Neither the attempt, nor the proxy, nor the trial failed, and the checks passed. -/
structure CleanCommit (settings : StoreSettings) (request : AttemptRequest)
    (answers : CommitAnswers) (bundle : Bundle) : Prop where
  notCancelled : request.cancelled = false
  unfailed : (snapshot request answers).failures = []
  unfailedTrial : harborResultFailures request.trialResult = []
  reward : ¬ RewardRejected settings request
  checked : ¬ SegmentCheckFails settings request bundle.segments
  read : bundle.segments = readSegments request answers

variable {settings : StoreSettings} {request : AttemptRequest} {answers : CommitAnswers}
variable {reader : Value → Option Value} {read : Snapshot}

variable {bundle : Bundle}

theorem buildBundle_clean (fatal : AllFatal read.failures)
    (built : buildBundle reader settings request read = .ok bundle)
    (isTrainable : bundle.trainable = true) :
    request.cancelled = false ∧ read.failures = [] ∧
      harborResultFailures request.trialResult = [] ∧ ¬ RewardRejected settings request ∧
      ¬ SegmentCheckFails settings request (payloadSegments read.payload) := by
  obtain ⟨validation, checked, failures, same⟩ := buildBundle_ok built
  have passes : ¬ (RewardRejected settings request ∨
      SegmentCheckFails settings request (payloadSegments read.payload)) := by
    intro rejected
    rw [(buildBundle_of_rejected fatal built rejected).1] at isTrainable
    cases isTrainable
  rw [not_or] at passes
  simp only [same, trainable, Bool.and_eq_true, Bool.not_eq_true'] at isTrainable
  obtain ⟨⟨⟨notCancelled, _⟩, noFatal⟩, _⟩ := isTrainable
  have all := (fatal.append (harborResultFailures_fatal request.trialResult)).append
    (validateAttempt_fatal checked)
  obtain ⟨known, kept⟩ := deduplicateFailures_spec
    (read.failures ++ harborResultFailures request.trialResult ++ validation.failures)
  rw [← failures] at known kept
  have none : read.failures ++ harborResultFailures request.trialResult ++
      validation.failures = [] := by
    by_contra some
    obtain ⟨failure, member⟩ := List.exists_mem_of_ne_nil _ (kept some)
    exact List.any_eq_false.mp noFatal failure member (all failure (known failure member))
  simp only [List.append_eq_nil_iff] at none
  exact ⟨notCancelled, none.1.1, none.1.2, passes.1, passes.2⟩

theorem commitBundle_clean (committed : commitBundle reader settings request answers = .ok bundle) :
    bundle.superseded = true ∧
      (bundle.trainable = true → CleanCommit settings request answers bundle) := by
  unfold commitBundle at committed
  simp only at committed
  split at committed
  · cases committed
  · rename_i built isBuilt
    have fresh : built.superseded = true ∧ built.segments = readSegments request answers := by
      unfold buildBundle at isBuilt
      split at isBuilt
      · cases isBuilt
      · split at isBuilt
        · cases isBuilt
        · cases isBuilt
          exact ⟨rfl, rfl⟩
    split at committed
    · cases committed
    · split at committed
      · cases committed
      · cases committed
        have kept : ∀ changed : Bundle,
            (drainTrajectory answers (snapshot request answers).payload changed).superseded =
                changed.superseded ∧
              (drainTrajectory answers (snapshot request answers).payload changed).segments =
                changed.segments := by
          intro changed
          unfold drainTrajectory
          split
          · exact ⟨rfl, rfl⟩
          · split <;> exact ⟨rfl, rfl⟩
        refine ⟨(kept _).1.trans fresh.1, fun isTrainable => ?_⟩
        rw [(drainTrajectory_keeps _ _ _).1] at isTrainable
        obtain ⟨notCancelled, unfailed, ofTrial, reward, checked⟩ :=
          buildBundle_clean (snapshot_fatal request answers) isBuilt isTrainable
        have segments := (kept { built with
          finalizationCheckpoint := .artifactCommitted }).2.trans fresh.2
        exact
          { notCancelled := notCancelled
            unfailed := unfailed
            unfailedTrial := ofTrial
            reward := reward
            checked := by
              rw [segments]
              exact checked
            read := segments }

/-- Where a bundle of a run comes from: a trainable one from a clean commit after which
nothing rejected it, and one that is not superseded was selected since. -/
def Bundle.Traced (settings : StoreSettings) (events : List StoreEvent) (key : AttemptKey)
    (bundle : Bundle) : Prop :=
  ∃ past request answers later, events = past ++ .commit request answers :: later ∧
    request.key = key ∧
    (bundle.trainable = true → CleanCommit settings request answers bundle ∧
      ∀ event ∈ later, ¬ event.rejects key) ∧
    (bundle.superseded = false → ∃ event ∈ later, event.selects key)

theorem Bundle.Traced.snoc {events : List StoreEvent} {key : AttemptKey} {next : Bundle}
    (traced : bundle.Traced settings events key) (event : StoreEvent)
    (segments : next.segments = bundle.segments)
    (spared : next.trainable = true → bundle.trainable = true ∧ ¬ event.rejects key)
    (selected : next.superseded = false → bundle.superseded = false ∨ event.selects key) :
    next.Traced settings (events ++ [event]) key := by
  obtain ⟨past, request, answers, later, rfl, sameKey, clean, since⟩ := traced
  refine ⟨past, request, answers, later ++ [event], by simp, sameKey, ?_, ?_⟩
  · intro isTrainable
    obtain ⟨before, spares⟩ := spared isTrainable
    obtain ⟨committed, unrejected⟩ := clean before
    refine ⟨{ committed with checked := ?_, read := ?_ }, ?_⟩
    · rw [segments]
      exact committed.checked
    · rw [segments]
      exact committed.read
    · intro other member
      rcases List.mem_append.mp member with old | new
      · exact unrejected other old
      · rw [List.mem_singleton.mp new]
        exact spares
  · intro current
    rcases selected current with before | selects
    · obtain ⟨other, member, selects⟩ := since before
      exact ⟨other, List.mem_append_left _ member, selects⟩
    · exact ⟨event, List.mem_append_right _ (List.mem_singleton_self event), selects⟩

def ArtifactStore.Traced (settings : StoreSettings) (events : List StoreEvent)
    (store : ArtifactStore) : Prop :=
  ∀ key bundle, store.bundles.get? key = some bundle → bundle.Traced settings events key

theorem commitAttempt_found {store : ArtifactStore} {key : AttemptKey}
    (found : (store.commitAttempt reader settings request answers).1.bundles.get? key =
      some bundle) :
    store.bundles.get? key = some bundle ∨
      request.key = key ∧ commitBundle reader settings request answers = .ok bundle := by
  unfold ArtifactStore.commitAttempt ArtifactStore.commitAttemptOnce at found
  cases recorded : store.commitTasks.get? request.key with
  | some outcome =>
    rw [recorded] at found
    exact .inl found
  | none =>
    cases committed : commitBundle reader settings request answers with
    | error error =>
      rw [recorded, committed] at found
      exact .inl found
    | ok fresh =>
      simp only [recorded, committed, OrderedDict.get?_set] at found
      split at found
      · rename_i same
        exact .inr ⟨same.symm, congrArg _ (Option.some_inj.mp found)⟩
      · exact .inl found

theorem traced_step {events : List StoreEvent} {store : ArtifactStore}
    (traced : store.Traced settings events) (event : StoreEvent) :
    (store.step reader settings event).Traced settings (events ++ [event]) := by
  intro key bundle found
  have keeps (before : store.bundles.get? key = some bundle) (spares : ¬ event.rejects key) :
      bundle.Traced settings (events ++ [event]) key :=
    (traced key bundle before).snoc event rfl (fun isTrainable => ⟨isTrainable, spares⟩) .inl
  have rejected {old : Bundle} {failure : AttemptFailure}
      (before : store.bundles.get? key = some old) (same : old.reject failure = bundle) :
      bundle.Traced settings (events ++ [event]) key := by
    subst same
    exact (traced key old before).snoc event rfl (fun no => Bool.noConfusion no)
      (fun no => Bool.noConfusion no)
  cases event with
  | commit request answers =>
    rw [ArtifactStore.step] at found
    rcases commitAttempt_found found with before | ⟨sameKey, committed⟩
    · exact keeps before id
    · obtain ⟨superseded, clean⟩ := commitBundle_clean committed
      refine ⟨events, request, answers, [], rfl, sameKey,
        fun isTrainable => ⟨clean isTrainable, List.forall_mem_nil _⟩, ?_⟩
      rw [superseded]
      exact nofun
  | invalidate other failure =>
    unfold ArtifactStore.step at found
    simp only at found
    split at found
    · rename_i absent
      refine keeps found (fun same => ?_)
      change other = key at same
      rw [same, found] at absent
      cases absent
    · rename_i old present
      simp only [OrderedDict.get?_set] at found
      split at found
      · rename_i sameKey
        rw [← sameKey] at present
        exact rejected present (Option.some_inj.mp found)
      · rename_i different
        exact keeps found (fun same => different same.symm)
  | reconcile ofJob finalKeys aborted =>
    simp only [ArtifactStore.step, OrderedDict.get?_mapValues, Option.map_eq_some_iff] at found
    obtain ⟨old, before, same⟩ := found
    split at same
    · rename_i inJob
      split at same
      · rename_i final
        subst same
        exact (traced key old before).snoc _ rfl
          (fun isTrainable => ⟨isTrainable, fun passed => passed.2 final⟩)
          (fun _ => .inr ⟨inJob, final⟩)
      · exact rejected before same
    · rename_i otherJob
      subst same
      exact keeps before (fun passed => otherJob passed.1)

/-- Whatever is committed, invalidated and selected, in any order: a bundle that trains comes
from a clean commit that nothing rejected since, and one that counts was selected since. -/
theorem bundles_traced (reader : Value → Option Value) (settings : StoreSettings)
    (events : List StoreEvent) :
    (Runs.run (ArtifactStore.step reader settings) emptyStore events).Traced settings events := by
  induction events using List.reverseRecOn with
  | nil => exact nofun
  | append_singleton past event ih =>
    rw [Runs.run_snoc]
    exact traced_step ih event

end Dressage.Harbor

/-
Every ended attempt yields a bundle, or why not.

The checks of an attempt are total but for `float` on an integer that no float is near to,
and the bundle's typed model refuses rewards that the checks let pass: they look at the
selected reward alone. Otherwise a commit whose writes succeed returns its bundle, and a
failed check is a fatal failure of it.
-/

import Dressage.Harbor.AttemptCommit

namespace Dressage.Harbor

open Lib List Option

def selectedReward (settings : StoreSettings) (request : AttemptRequest) : Option Value :=
  OrderedDict.lookup settings.validation.rewardKey
    (textRewards (extractRewards request.trialResult))

def RewardRejected (settings : StoreSettings) (request : AttemptRequest) : Prop :=
  ∀ reward, selectedReward settings request = some reward →
    reward.isNumber = true → reward.isFinite ≠ some true

def needsVersions (settings : StoreSettings) (request : AttemptRequest) : Bool :=
  settings.validation.requireTokenVersions || request.expectedWeightVersion.isSome

inductive SegmentCheckFails (settings : StoreSettings) (request : AttemptRequest)
    (segments : List Segment) : Prop
  | empty (none : segments = [])
  | finalization (failure : AttemptFailure)
    (failed : failure ∈ trajectoryFinalizationFailures segments (some request.sessionId)
      (some request.instanceId))
  | segment (index : Nat) (segment : Segment) (report : Report) (failure : AttemptFailure)
    (found : segments[index]? = some segment)
    (checked : validateSegment (needsVersions settings request) index segment = some report)
    (failed : failure ∈ report.failures)
  | untrained (report : Report)
    (checked : validateSegments (needsVersions settings request) 0 segments = some report)
    (required : settings.validation.requireTrainableTokens = true)
    (none : report.trainableCount = 0)
  | severalVersions (report : Report)
    (checked : validateSegments (needsVersions settings request) 0 segments = some report)
    (required : settings.validation.requireTokenVersions = true)
    (several : 1 < report.versions.eraseDups.length)
  | otherVersion (report : Report) (expected : String)
    (checked : validateSegments (needsVersions settings request) 0 segments = some report)
    (required : request.expectedWeightVersion = some expected)
    (other : report.versions.eraseDups ≠ [expected])

def readSegments (request : AttemptRequest) (answers : CommitAnswers) : List Segment :=
  payloadSegments (snapshot request answers).payload

def WritesSucceed (settings : StoreSettings) (answers : CommitAnswers) : Prop :=
  settings.persists = true → answers.outsideTrialDir = true ∧ answers.firstWrite = none ∧
    answers.checkpointWrite = none ∧ answers.lastWrite = none

def YieldsBundle (reader : Value → Option Value) (settings : StoreSettings)
    (store : ArtifactStore) (request : AttemptRequest) (answers : CommitAnswers) : Prop :=
  WritesSucceed settings answers →
    ∃ bundle, (store.commitAttemptOnce reader settings request answers).2 = .ok bundle ∧
      (store.commitAttemptOnce reader settings request answers).1.bundles.get? request.key =
        some bundle ∧
      (RewardRejected settings request ∨
          SegmentCheckFails settings request (readSegments request answers) →
        bundle.trainable = false ∧ ∃ failure ∈ bundle.failures, failure.fatal = true)

/-- An integer that no float is near to, with nothing before it that `any` stops at. -/
def OverflowsFirst (values : List Value) : Prop :=
  ∃ before number after, values = before ++ .int number :: after ∧
    Value.overflows number = true ∧ ∀ value ∈ before, value.isFinite = some true

/-- The condition: `float` reads every number it is given, and the typed model every
reward. -/
structure Readable (reader : Value → Option Value) (settings : StoreSettings)
    (request : AttemptRequest) (answers : CommitAnswers) : Prop where
  reward : ∀ number, selectedReward settings request = some (.int number) →
    Value.overflows number = false
  logprobs : ∀ segment ∈ readSegments request answers,
    ¬ OverflowsFirst (Segment.items segment "full_logprobs")
  rewards : ∀ entry ∈ extractRewards request.trialResult,
    (∃ name, entry.1 = .text name) ∧ (reader entry.2).isSome = true

theorem isFinite_eq_none (value : Value) :
    value.isFinite = none ↔ ∃ number, value = .int number ∧ Value.overflows number = true := by
  constructor
  · intro raises
    cases value with
    | int number =>
      refine ⟨number, rfl, ?_⟩
      by_cases overflows : Value.overflows number = true
      · exact overflows
      · rw [Value.isFinite, if_neg overflows] at raises
        cases raises
    | null => cases raises
    | bool value => cases raises
    | float value => cases raises
    | text value => cases raises
    | list items => cases raises
    | dict entries => cases raises
  · rintro ⟨number, rfl, overflows⟩
    rw [Value.isFinite, if_pos overflows]

theorem anyNonFinite_eq_none (values : List Value) :
    anyNonFinite values = none ↔ OverflowsFirst values := by
  induction values with
  | nil =>
    constructor
    · exact nofun
    · rintro ⟨before, number, after, listed, _⟩
      exact absurd listed (by simp)
  | cons value rest ih =>
    constructor
    · intro raises
      cases finite : value.isFinite with
      | none =>
        obtain ⟨number, rfl, overflows⟩ := (isFinite_eq_none value).mp finite
        exact ⟨[], number, rest, rfl, overflows, by simp⟩
      | some isFinite =>
        simp only [anyNonFinite, finite, bind_some] at raises
        split at raises
        · rename_i isTrue
          obtain ⟨before, number, after, listed, overflows, earlier⟩ := ih.mp raises
          refine ⟨value :: before, number, after, by rw [listed]; rfl, overflows, ?_⟩
          intro other member
          rcases mem_cons.mp member with same | later
          · rw [same, finite, isTrue]
          · exact earlier other later
        · cases raises
    · rintro ⟨before, number, after, listed, overflows, earlier⟩
      cases before with
      | nil =>
        rw [nil_append, List.cons.injEq] at listed
        have raises := (isFinite_eq_none value).mpr ⟨number, listed.1, overflows⟩
        simp only [anyNonFinite, raises, bind_none]
      | cons first before =>
        rw [cons_append, List.cons.injEq] at listed
        have finite := earlier first mem_cons_self
        have later : OverflowsFirst rest :=
          ⟨before, number, after, listed.2, overflows,
            fun other member => earlier other (mem_cons_of_mem first member)⟩
        simp only [anyNonFinite, listed.1, finite, bind_some, if_true]
        exact ih.mpr later

theorem validateSegment_eq_none (needed : Bool) (index : Nat) (segment : Segment) :
    validateSegment needed index segment = none ↔
      OverflowsFirst (Segment.items segment "full_logprobs") := by
  unfold validateSegment
  simp only [map_eq_none_iff]
  exact anyNonFinite_eq_none _

theorem validateSegments_eq_none (needed : Bool) (index : Nat) (segments : List Segment) :
    validateSegments needed index segments = none ↔
      ∃ segment ∈ segments, OverflowsFirst (Segment.items segment "full_logprobs") := by
  induction segments generalizing index with
  | nil => simp [validateSegments]
  | cons segment rest ih =>
    simp only [validateSegments, mem_cons, exists_eq_or_imp]
    rw [← validateSegment_eq_none needed index segment, ← ih (index + 1)]
    cases validateSegment needed index segment with
    | none => simp
    | some report => simp

theorem rewardFailures_eq_none (settings : ValidationSettings) (rewards : List (String × Value)) :
    rewardFailures settings rewards = none ↔ ∃ number,
      OrderedDict.lookup settings.rewardKey rewards = some (.int number) ∧
        Value.overflows number = true := by
  unfold rewardFailures
  cases OrderedDict.lookup settings.rewardKey rewards with
  | none => simp
  | some reward =>
    simp only
    split
    · rw [map_eq_none_iff, isFinite_eq_none]
      simp
    · rename_i notNumber
      constructor
      · exact nofun
      · rintro ⟨number, same, _⟩
        cases same
        exact absurd rfl notNumber

theorem validateSnapshot_eq_none (settings : StoreSettings) (request : AttemptRequest)
    (read : Snapshot) :
    validateSnapshot settings request read = none ↔
      (∃ number, selectedReward settings request = some (.int number) ∧
        Value.overflows number = true) ∨
      ∃ segment ∈ payloadSegments read.payload,
        OverflowsFirst (Segment.items segment "full_logprobs") := by
  unfold validateSnapshot validateAttempt
  cases ofReward : rewardFailures settings.validation
    (textRewards (extractRewards request.trialResult)) with
  | none =>
    have overflow := (rewardFailures_eq_none _ _).mp ofReward
    simp only [bind_none, true_iff]
    exact .inl overflow
  | some failures =>
    have fine : ¬ ∃ number, selectedReward settings request = some (.int number) ∧
        Value.overflows number = true := by
      intro overflow
      have raises := (rewardFailures_eq_none _ _).mpr overflow
      rw [ofReward] at raises
      cases raises
    rw [bind_some, or_iff_right fine]
    split
    · rename_i isEmpty
      rw [List.isEmpty_iff.mp isEmpty]
      simp
    · rw [map_eq_none_iff, validateSegments_eq_none]

theorem readRewards_isSome (reader : Value → Option Value) (rewards : List (Value × Value)) :
    (readRewards reader rewards).isSome = true ↔ ∀ entry ∈ rewards,
      (∃ name, entry.1 = .text name) ∧ (reader entry.2).isSome = true := by
  induction rewards with
  | nil => simp [readRewards]
  | cons entry rest ih =>
    rcases entry with ⟨key, value⟩
    rw [forall_mem_cons, ← ih]
    cases key with
    | text name =>
      cases read : reader value with
      | none => simp [readRewards, read]
      | some number => simp [readRewards, read]
    | null => simp [readRewards]
    | bool value => simp [readRewards]
    | int value => simp [readRewards]
    | float value => simp [readRewards]
    | list items => simp [readRewards]
    | dict entries => simp [readRewards]

def AllFatal (failures : List AttemptFailure) : Prop :=
  ∀ failure ∈ failures, failure.fatal = true

section AllFatal

variable {first second : List AttemptFailure}

theorem allFatal_nil : AllFatal [] := nofun

theorem allFatal_failure (code message : String) : AllFatal [failure code message] := by
  intro other member
  rw [mem_singleton.mp member]
  rfl

theorem allFatal_failWhen (condition : Bool) (code message : String) :
    AllFatal (failWhen condition code message) := by
  cases condition with
  | false => exact allFatal_nil
  | true => exact allFatal_failure code message

theorem AllFatal.append (ofFirst : AllFatal first) (ofSecond : AllFatal second) :
    AllFatal (first ++ second) := by
  intro failure member
  rcases mem_append.mp member with inFirst | inSecond
  · exact ofFirst failure inFirst
  · exact ofSecond failure inSecond

theorem allFatal_flatMap {α : Type} {items : List α} {report : α → List AttemptFailure}
    (each : ∀ item ∈ items, AllFatal (report item)) : AllFatal (items.flatMap report) := by
  intro failure member
  obtain ⟨item, listed, reported⟩ := mem_flatMap.mp member
  exact each item listed failure reported

end AllFatal

theorem trajectoryFinalizationFailures_fatal (segments : List Segment)
    (expectedTrajectoryId expectedInstanceId : Option String) :
    AllFatal (trajectoryFinalizationFailures segments expectedTrajectoryId expectedInstanceId) := by
  unfold trajectoryFinalizationFailures
  apply AllFatal.append
  · apply AllFatal.append
    · apply AllFatal.append
      · apply allFatal_flatMap
        intro item _member
        exact (allFatal_failWhen _ _ _).append (allFatal_failWhen _ _ _)
      · exact allFatal_failWhen _ _ _
    · exact allFatal_failWhen _ _ _
  · exact allFatal_failWhen _ _ _

theorem versionsField_fatal (needed : Bool) (segmentIndex : Nat) (value : Value) :
    AllFatal
      (match value with
        | .list _ => []
        | .null =>
          failWhen needed "TOKEN_VERSIONS_MISSING" s!"segment {segmentIndex} has no full_versions"
        | _ =>
          if needed then
            [failure "TOKEN_VERSIONS_MISSING" s!"segment {segmentIndex} has no full_versions"]
          else
            [failure "TOKEN_VERSIONS_INVALID"
              s!"segment {segmentIndex} full_versions must be a list"]) := by
  split
  · exact allFatal_nil
  · exact allFatal_failWhen _ _ _
  · split <;> exact allFatal_failure _ _

variable {report : Report} {needed : Bool} {index : Nat} {segments : List Segment}
variable {settings : StoreSettings} {request : AttemptRequest} {read : Snapshot}
variable {reader : Value → Option Value} {answers : CommitAnswers}

theorem validateSegment_fatal {segment : Segment}
    (checked : validateSegment needed index segment = some report) : AllFatal report.failures := by
  unfold validateSegment at checked
  simp only [map_eq_some_iff] at checked
  obtain ⟨nonFinite, _raises, rfl⟩ := checked
  refine (((((((AllFatal.append ?_ ?_).append ?_).append ?_).append ?_).append ?_).append
    ?_).append ?_)
  · exact allFatal_flatMap (fun field _ => allFatal_failWhen _ _ _)
  · exact allFatal_flatMap (fun field _ => allFatal_failWhen _ _ _)
  · exact allFatal_failWhen _ _ _
  · exact allFatal_failWhen _ _ _
  · exact allFatal_failWhen _ _ _
  · exact versionsField_fatal needed index (Segment.get segment "full_versions")
  · exact allFatal_failWhen _ _ _
  · exact allFatal_flatMap (fun position _ => allFatal_failWhen _ _ _)

theorem validateSegments_fatal (checked : validateSegments needed index segments = some report) :
    AllFatal report.failures := by
  induction segments generalizing index report with
  | nil =>
    cases checked
    exact allFatal_nil
  | cons segment rest ih =>
    simp only [validateSegments, bind_eq_some_iff, map_eq_some_iff] at checked
    obtain ⟨first, ofFirst, others, ofOthers, rfl⟩ := checked
    exact (validateSegment_fatal ofFirst).append (ih ofOthers)

theorem rewardFailures_fatal {settings : ValidationSettings} {rewards : List (String × Value)}
    {failures : List AttemptFailure} (checked : rewardFailures settings rewards = some failures) :
    AllFatal failures := by
  unfold rewardFailures at checked
  split at checked
  · cases checked
    exact allFatal_failure _ _
  · split at checked
    · rw [map_eq_some_iff] at checked
      obtain ⟨finite, _isFinite, rfl⟩ := checked
      exact allFatal_failWhen _ _ _
    · cases checked
      exact allFatal_failure _ _

theorem validateAttempt_fatal {settings : ValidationSettings} {rewards : List (String × Value)}
    {version trajectoryId instanceId : Option String} {validation : Validation}
    (checked : validateAttempt settings rewards segments version trajectoryId instanceId =
      some validation) : AllFatal validation.failures := by
  unfold validateAttempt at checked
  rw [bind_eq_some_iff] at checked
  obtain ⟨ofReward, rewardChecked, rest⟩ := checked
  have reward := rewardFailures_fatal rewardChecked
  split at rest
  · cases rest
    exact reward.append (allFatal_failure _ _)
  · rw [map_eq_some_iff] at rest
    obtain ⟨report, reportChecked, rfl⟩ := rest
    have ofReport := validateSegments_fatal reportChecked
    have ofFinalization :=
      trajectoryFinalizationFailures_fatal segments trajectoryId instanceId
    exact ((((reward.append ofFinalization).append ofReport).append
      (allFatal_failWhen _ _ _)).append (allFatal_failWhen _ _ _)).append
      (allFatal_failWhen _ _ _)

theorem finalizeSession_fatal (request : AttemptRequest) (answers : CommitAnswers) :
    AllFatal (finalizeSession request answers).failures := by
  have failed : ∀ exc, AllFatal
      (request.failures ++
        [AttemptFailure.fromException "FINALIZE_FAILED" .finalize exc true]) := by
    intro exc failure member
    rcases mem_append.mp member with given | added
    · exact request.fatal failure given
    · rw [mem_singleton.mp added]
      rfl
  unfold finalizeSession
  split
  · exact request.fatal
  · simp only
    split
    · exact request.fatal
    · split
      · exact failed _
      · split
        · exact request.fatal
        · exact failed _

theorem snapshot_fatal (request : AttemptRequest) (answers : CommitAnswers) :
    AllFatal (snapshot request answers).failures := by
  have finalized := finalizeSession_fatal request answers
  have read : AllFatal (readTrajectory answers (finalizeSession request answers)).failures := by
    unfold readTrajectory
    split
    · split
      · exact finalized
      · apply finalized.append
        intro failure member
        rw [mem_singleton.mp member]
        rfl
    · exact finalized
  unfold snapshot
  simp only
  split <;> exact read

theorem harborResultFailures_fatal (result : TrialResult) :
    AllFatal (harborResultFailures result) := by
  intro failure member
  obtain ⟨info, _listed, rfl⟩ := List.mem_map.mp member
  rfl

theorem deduplicateFailures_spec (failures : List AttemptFailure) :
    (∀ failure ∈ deduplicateFailures failures, failure ∈ failures) ∧
      (failures ≠ [] → deduplicateFailures failures ≠ []) := by
  induction failures using List.reverseRecOn with
  | nil => exact ⟨nofun, fun some => absurd rfl some⟩
  | append_singleton earlier failure ih =>
    unfold deduplicateFailures at ih ⊢
    rw [foldl_append, foldl_cons, foldl_nil]
    split
    · rename_i known
      constructor
      · intro other member
        exact mem_append_left _ (ih.1 other member)
      · intro _some empty
        rw [empty] at known
        cases known
    · constructor
      · intro other member
        rcases mem_append.mp member with before | last
        · exact mem_append_left _ (ih.1 other before)
        · exact mem_append_right _ last
      · intro _some
        exact append_ne_nil_of_right_ne_nil _ (cons_ne_nil _ _)

theorem rewardFailures_of_rejected (rejected : RewardRejected settings request)
    {failures : List AttemptFailure}
    (checked : rewardFailures settings.validation
      (textRewards (extractRewards request.trialResult)) = some failures) : failures ≠ [] := by
  unfold rewardFailures at checked
  split at checked
  · cases checked
    exact cons_ne_nil _ _
  · rename_i reward found
    split at checked
    · rename_i isNumber
      rw [map_eq_some_iff] at checked
      obtain ⟨finite, isFinite, rfl⟩ := checked
      intro empty
      rw [failWhen_eq_nil] at empty
      cases finite with
      | false => cases empty
      | true => exact rejected reward found isNumber isFinite
    · cases checked
      exact cons_ne_nil _ _

theorem mem_validateSegments {start : Nat} {total : Report} {segment : Segment}
    {failure : AttemptFailure} (all : validateSegments needed start segments = some total)
    (found : segments[index]? = some segment)
    (checked : validateSegment needed (start + index) segment = some report)
    (failed : failure ∈ report.failures) : failure ∈ total.failures := by
  induction segments generalizing start index total with
  | nil => cases found
  | cons head rest ih =>
    simp only [validateSegments, bind_eq_some_iff, map_eq_some_iff] at all
    obtain ⟨first, ofFirst, others, ofOthers, rfl⟩ := all
    cases index with
    | zero =>
      rw [getElem?_cons_zero, some_inj] at found
      rw [found, ← Nat.add_zero start, checked, some_inj] at ofFirst
      rw [← ofFirst]
      exact mem_append_left _ failed
    | succ index =>
      rw [getElem?_cons_succ] at found
      rw [Nat.add_comm index 1, ← Nat.add_assoc] at checked
      exact mem_append_right _ (ih ofOthers found checked)

theorem failWhen_ne_nil {condition : Bool} (holds : condition = true) (code message : String) :
    failWhen condition code message ≠ [] := by
  rw [holds]
  exact cons_ne_nil _ _

theorem validation_of_rejected {validation : Validation}
    (checked : validateSnapshot settings request read = some validation)
    (rejected : RewardRejected settings request ∨
      SegmentCheckFails settings request (payloadSegments read.payload)) :
    validation.failures ≠ [] := by
  unfold validateSnapshot validateAttempt at checked
  rw [bind_eq_some_iff] at checked
  obtain ⟨ofReward, rewardChecked, rest⟩ := checked
  split at rest
  · cases rest
    exact append_ne_nil_of_right_ne_nil _ (cons_ne_nil _ _)
  · rename_i someSegment
    rw [map_eq_some_iff] at rest
    obtain ⟨report, reportChecked, rfl⟩ := rest
    change validateSegments (needsVersions settings request) 0 _ = some report at reportChecked
    intro empty
    simp only [append_eq_nil_iff] at empty
    obtain ⟨⟨⟨⟨⟨noReward, noFinalization⟩, noReport⟩, noUntrained⟩, noSeveral⟩, noOther⟩ := empty
    rcases rejected with reward | segments
    · exact rewardFailures_of_rejected reward rewardChecked noReward
    · cases segments with
      | empty none => exact someSegment (List.isEmpty_iff.mpr none)
      | finalization failure failed =>
        rw [noFinalization] at failed
        cases failed
      | segment index segment ofSegment failure found segmentChecked failed =>
        rw [← Nat.zero_add index] at segmentChecked
        have listed := mem_validateSegments reportChecked found segmentChecked failed
        rw [noReport] at listed
        cases listed
      | untrained other otherChecked required none =>
        rw [reportChecked, some_inj] at otherChecked
        subst other
        refine failWhen_ne_nil ?_ _ _ noUntrained
        rw [required, none]
        rfl
      | severalVersions other otherChecked required several =>
        rw [reportChecked, some_inj] at otherChecked
        subst other
        refine failWhen_ne_nil ?_ _ _ noSeveral
        rw [required]
        exact decide_eq_true several
      | otherVersion other expected otherChecked required different =>
        rw [reportChecked, some_inj] at otherChecked
        subst other
        refine failWhen_ne_nil ?_ _ _ noOther
        rw [required]
        exact decide_eq_true different

theorem buildBundle_ok {bundle : Bundle}
    (built : buildBundle reader settings request read = .ok bundle) :
    ∃ validation, validateSnapshot settings request read = some validation ∧
      bundle.failures = deduplicateFailures
        (read.failures ++ harborResultFailures request.trialResult ++ validation.failures) ∧
      bundle.trainable = trainable request.cancelled read.checkpoint bundle.failures
        validation.trainableCount := by
  unfold buildBundle at built
  split at built
  · cases built
  · rename_i validation checked
    split at built
    · cases built
    · cases built
      exact ⟨validation, checked, rfl, rfl⟩

theorem buildBundle_of_rejected {bundle : Bundle} (fatal : AllFatal read.failures)
    (built : buildBundle reader settings request read = .ok bundle)
    (rejected : RewardRejected settings request ∨
      SegmentCheckFails settings request (payloadSegments read.payload)) :
    bundle.trainable = false ∧ ∃ failure ∈ bundle.failures, failure.fatal = true := by
  obtain ⟨validation, checked, failures, isTrainable⟩ := buildBundle_ok built
  have some := validation_of_rejected checked rejected
  have all := (fatal.append (harborResultFailures_fatal request.trialResult)).append
    (validateAttempt_fatal checked)
  obtain ⟨known, kept⟩ := deduplicateFailures_spec
    (read.failures ++ harborResultFailures request.trialResult ++ validation.failures)
  rw [← failures] at known kept
  obtain ⟨failure, member⟩ :=
    exists_mem_of_ne_nil _ (kept (append_ne_nil_of_right_ne_nil _ some))
  have isFatal : failure.fatal = true := all failure (known failure member)
  refine ⟨?_, failure, member, isFatal⟩
  have anyFatal : bundle.failures.any AttemptFailure.fatal = true :=
    List.any_eq_true.mpr ⟨failure, member, isFatal⟩
  rw [isTrainable]
  unfold trainable
  rw [anyFatal, Bool.not_true, Bool.and_false, Bool.false_and]

theorem drainTrajectory_keeps (answers : CommitAnswers) (payload : Value) (bundle : Bundle) :
    (drainTrajectory answers payload bundle).trainable = bundle.trainable ∧
      ∀ failure ∈ bundle.failures, failure ∈ (drainTrajectory answers payload bundle).failures := by
  unfold drainTrajectory
  split
  · exact ⟨rfl, fun _ member => member⟩
  · split
    · exact ⟨rfl, fun _ member => member⟩
    · exact ⟨rfl, fun _ member => mem_append_left _ member⟩

theorem persistBundle_ok (succeed : WritesSucceed settings answers) :
    persistBundle settings answers = .ok () := by
  unfold persistBundle
  split
  · rename_i persists
    obtain ⟨outside, first, checkpoint, _last⟩ := succeed persists
    rw [if_pos outside, first, checkpoint]
  · rfl

theorem commitBundle_eq {reader : Value → Option Value} {settings : StoreSettings}
    {request : AttemptRequest} {answers : CommitAnswers}
    (succeed : WritesSucceed settings answers) :
    commitBundle reader settings request answers =
      (buildBundle reader settings request (snapshot request answers)).map (fun bundle =>
        drainTrajectory answers (snapshot request answers).payload
          { bundle with finalizationCheckpoint := .artifactCommitted }) := by
  unfold commitBundle
  simp only
  rw [persistBundle_ok succeed]
  cases buildBundle reader settings request (snapshot request answers) with
  | error error => rfl
  | ok bundle =>
    cases persists : settings.persists with
    | false => rfl
    | true =>
      obtain ⟨_outside, _first, _checkpoint, last⟩ := succeed persists
      rw [last]
      rfl

theorem buildBundle_isOk_iff :
    (∃ bundle, buildBundle reader settings request (snapshot request answers) = .ok bundle) ↔
      Readable reader settings request answers := by
  have raises := validateSnapshot_eq_none settings request (snapshot request answers)
  have reads := readRewards_isSome reader (extractRewards request.trialResult)
  constructor
  · rintro ⟨bundle, built⟩
    unfold buildBundle at built
    split at built
    · cases built
    · rename_i validation checked
      split at built
      · cases built
      · rename_i rewards isRead
        rw [checked] at raises
        have fine := mt raises.mpr (by simp)
        rw [not_or] at fine
        refine
          { reward := ?_
            logprobs := ?_
            rewards := reads.mp (by rw [isRead]; rfl) }
        · intro number selected
          cases overflows : Value.overflows number with
          | false => rfl
          | true => exact absurd ⟨number, selected, overflows⟩ fine.1
        · intro segment member overflow
          exact fine.2 ⟨segment, member, overflow⟩
  · intro readable
    have fine : validateSnapshot settings request (snapshot request answers) ≠ none := by
      intro isNone
      rcases raises.mp isNone with ⟨number, selected, overflows⟩ | ⟨segment, member, overflow⟩
      · rw [readable.reward number selected] at overflows
        cases overflows
      · exact readable.logprobs segment member overflow
    obtain ⟨validation, checked⟩ := ne_none_iff_exists'.mp fine
    obtain ⟨rewards, isRead⟩ := isSome_iff_exists.mp (reads.mpr readable.rewards)
    unfold buildBundle
    rw [checked, isRead]
    exact ⟨_, rfl⟩

theorem readable_of_yields {store : ArtifactStore} (succeed : WritesSucceed settings answers)
    (yields : YieldsBundle reader settings store request answers) :
    Readable reader settings request answers := by
  obtain ⟨bundle, committed, _stored, _rejected⟩ := yields succeed
  apply buildBundle_isOk_iff.mp
  unfold ArtifactStore.commitAttemptOnce at committed
  rw [commitBundle_eq succeed] at committed
  cases built : buildBundle reader settings request (snapshot request answers) with
  | error error =>
    rw [built] at committed
    cases committed
  | ok bundle => exact ⟨bundle, rfl⟩

/-- An ended attempt whose writes succeed yields its bundle exactly where `float` and the
typed model read every number given to them. -/
theorem yields_bundle_iff (reader : Value → Option Value) (settings : StoreSettings)
    (store : ArtifactStore) (request : AttemptRequest) (answers : CommitAnswers) :
    YieldsBundle reader settings store request answers ↔
      (WritesSucceed settings answers → Readable reader settings request answers) := by
  constructor
  · exact fun yields succeed => readable_of_yields succeed yields
  · intro readable succeed
    obtain ⟨bundle, built⟩ := buildBundle_isOk_iff.mpr (readable succeed)
    have committed := @commitBundle_eq reader settings request answers succeed
    rw [built] at committed
    unfold ArtifactStore.commitAttemptOnce
    rw [committed]
    refine ⟨_, rfl, OrderedDict.get?_set_self _ _ _, ?_⟩
    intro rejected
    obtain ⟨notTrainable, failure, member, isFatal⟩ :=
      buildBundle_of_rejected (snapshot_fatal request answers) built rejected
    obtain ⟨sameTrainable, kept⟩ := drainTrajectory_keeps answers (snapshot request answers).payload
      { bundle with finalizationCheckpoint := .artifactCommitted }
    exact ⟨sameTrainable.trans notTrainable, failure, kept failure member, isFatal⟩

theorem commitAttempt_again (reader : Value → Option Value) (settings : StoreSettings)
    (store : ArtifactStore) {again : AttemptRequest} (answers later : CommitAnswers)
    (same : again.key = request.key) :
    (store.commitAttempt reader settings request answers).1.commitAttempt reader settings again
        later =
      ((store.commitAttempt reader settings request answers).1,
        (store.commitAttempt reader settings request answers).2) := by
  have recorded : (store.commitAttempt reader settings request answers).1.commitTasks.get?
      again.key = some (store.commitAttempt reader settings request answers).2 := by
    rw [same]
    unfold ArtifactStore.commitAttempt
    split
    · assumption
    · exact OrderedDict.get?_set_self _ _ _
  conv_lhs => rw [ArtifactStore.commitAttempt, recorded]

def intOrFloat : Value → Option Value
  | .int number => some (.int number)
  | .float number => some (.float number)
  | .bool value => some (.int (if value then 1 else 0))
  | _ => none

def memorySettings : StoreSettings :=
  { validation :=
      { rewardKey := "reward"
        rewardKeyRepr := "'reward'"
        requireTokenVersions := false
        requireTrainableTokens := true }
    mode := .memory }

def rewarded (rewards : List (Value × Value)) : AttemptRequest :=
  { trialName := "trial"
    trialId := "1"
    sessionId := "session"
    instanceId := "instance"
    attemptOrdinal := 0
    trialResult :=
      { rewards := .mapping rewards
        stepResults := []
        exceptionInfo := none }
    failures := []
    fatal := nofun
    cancelled := false
    expectedWeightVersion := none }

def unreachable : Raised :=
  { type := "ConnectError"
    message := "unreachable" }

def noAnswers : CommitAnswers :=
  { finalize := some unreachable
    finalizeAgain := some unreachable
    recoveryRead := .error unreachable
    read := .error unreachable
    drain := none
    outsideTrialDir := true
    firstWrite := none
    checkpointWrite := none
    lastWrite := none }

def emptyStore : ArtifactStore :=
  { bundles := OrderedDict.empty
    commitTasks := OrderedDict.empty }

theorem malformed_rewards_raise :
    ¬ YieldsBundle intOrFloat memorySettings emptyStore
      (rewarded [(.text "reward", .int (10 ^ 400))]) noAnswers ∧
    ¬ YieldsBundle intOrFloat memorySettings emptyStore
      (rewarded [(.text "reward", .int 1), (.text "extra", .null)]) noAnswers := by
  have succeed : WritesSucceed memorySettings noAnswers := fun persists => by cases persists
  have selected : ∀ number, selectedReward memorySettings
    (rewarded [(.text "reward", .int number)]) = some (.int number) := fun _ => rfl
  constructor
  · intro yields
    have near := (readable_of_yields succeed yields).reward (10 ^ 400) (selected _)
    have far : Value.overflows (10 ^ 400) = true := by decide +kernel
    rw [far] at near
    cases near
  · intro yields
    have read := (readable_of_yields succeed yields).rewards (.text "extra", .null)
      (mem_cons_of_mem _ mem_cons_self)
    cases read.2

end Dressage.Harbor

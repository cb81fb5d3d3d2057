/-
Finalize cannot fail on a recorded session.

None of the errors that the builders and the store can raise is reached. The store's model
leaves routed experts out; the check on their layout is made here, behind the other checks of a
record.
-/

import Dressage.Proxy.PromptedSteps
import Dressage.Proxy.RecordRows
import Dressage.Proxy.TrajectoryStore

namespace Dressage.Proxy

open Lib Transport TrajectoryStore List

variable {Message Tool Call : Type} {config : TrainingConfig}

def SegmentView.text : SegmentView → String
  | .lineage => "lineage"
  | .timeline => "timeline"

def recordDict (finalizationId uid : String) (record : SegmentRecord Message Tool) : SegmentDict :=
  { uid := some uid
    trajectoryId := some record.trajectoryId
    sessionId := none
    turnId := some record.turnId
    instanceId := some record.instanceId
    segmentIndex := some record.segmentIndex
    segmentCount := some record.segmentCount
    tokens := some record.tokens
    fullLogprobs := some record.fullLogprobs
    fullLossMask := some record.fullLossMask
    alignedResponseLength := some record.alignedResponseLength
    fullVersions := record.fullVersions
    finishReason := some record.finishReason
    extraInfo := some
      { segmentView := some record.extraInfo.segmentView.text
        tokenBuildMode := some record.extraInfo.tokenBuildMode.text
        finalizationId := some finalizationId
        finalizationComplete := some true } }

/-- The check of `_item_from_dict` on a routed-experts layout; chunks in place are not checked. -/
def checkExpertsLayout (experts : Option (RecordField (List ExpertChunk))) (tokenCount : Nat) :
    Except String Unit :=
  match experts with
  | none => .ok ()
  | some (.values _) => .ok ()
  | some (.layout plan) =>
    if plan.tokenCount ≠ tokenCount then
      .error (lengthMismatch "routed_experts_chunks layout" plan.tokenCount tokenCount)
    else .ok ()

def itemFromRecord (now : ℚ) (finalizationId : String) (drawn : Uuids)
    (entry : TrainingRecord Message Tool) : Except String TrajectorySegment := do
  let item ← itemFromDict now (recordDict finalizationId drawn.uid entry.record) drawn
  checkExpertsLayout entry.routedExperts entry.record.tokens.length
  .ok item

def preparedBatch (now : ℚ) (finalizationId : String) (drawn : Nat → Uuids)
    (published : List (TrainingRecord Message Tool)) :
    Except String (List TrajectorySegment) := do
  let items ← buildAll (fun entry => itemFromRecord now finalizationId (drawn entry.2) entry.1)
    published.zipIdx
  validateFinalizedBatch items
  .ok items

variable {steps : List (StepRecord Message Tool)} {proxy : ProxyConfig}
variable {step : StepRecord Message Tool} {tokenCount : Nat} {state : TrainingState Message Tool}
variable {view : SegmentView} {placement : Placement} {entry : TrainingRecord Message Tool}
variable {session : Session Message Tool} {segment : Segment Message Tool}
variable {publisher : Option String}

theorem WellRecorded.startsSegment_chained {state : ProxyState Message Tool}
    (recorded : WellRecorded proxy Call state) {before after : List (StepRecord Message Tool)}
    (chained : Chained state.session steps) (here : steps = before ++ step :: after) :
    startsSegment step = true ↔ before = [] := by
  obtain ⟨past, later, split, opened⟩ := chained before step after here
  obtain ⟨draft, origin⟩ := recorded.origins past step later split
  constructor
  · exact origin.before_nil opened
  · rintro rfl
    by_contra continues
    have unbounded : ¬ lineageBoundary step = true := by
      intro bounded
      apply continues
      unfold startsSegment
      rw [Bool.or_eq_true]
      exact .inr bounded
    have appended : step.routeType = .append := by
      cases kind : step.routeType with
      | append => rfl
      | branch => exact absurd (by simp [startsSegment, kind]) continues
      | create => exact absurd (by simp [startsSegment, kind]) continues
    obtain ⟨refOf, _index, shape, _reads⟩ := origin.built
    have lineage : draft.routed.route.lineageId = step.lineageId := by rw [shape]; rfl
    have route : draft.routed.route.type = step.routeType := by rw [shape]; rfl
    obtain ⟨other, member, same⟩ := origin.fits.continued (route.trans appended)
    rw [Boundary.openSegment_snoc, if_neg unbounded] at opened
    have empty := (append_inj' opened rfl).1
    have some_ : past.filter (fun other => other.lineageId = step.lineageId) ≠ [] :=
      ne_nil_of_mem (mem_filter.mpr ⟨member, decide_eq_true (same.trans lineage)⟩)
    exact Boundary.segments_ne_nil (Boundary.openSegment_mem_segments some_) empty

theorem WellRecorded.sum_rowCounts {state : ProxyState Message Tool}
    (tito : proxy.tokenBuildMode = .tito) (recorded : WellRecorded proxy Call state)
    (prompted : Prompted state.session.steps) (chained : Chained state.session steps) :
    (steps.map (stepRoutedExpertsRowCount .tito)).sum =
      (steps.flatMap StepRecord.concatTokenIds).length - 1 := by
  cases steps with
  | nil => rfl
  | cons first rest =>
    have opening : first :: rest = [] ++ first :: rest := rfl
    have starts : startsSegment first = true :=
      (recorded.startsSegment_chained chained opening).mpr rfl
    have continues : ∀ step ∈ rest,
        stepRoutedExpertsRowCount .tito step = step.concatTokenIds.length := by
      intro step member
      obtain ⟨before, after, here⟩ := append_of_mem member
      have later : ¬ startsSegment step = true := by
        intro starting
        have within : first :: rest = (first :: before) ++ step :: after := by
          rw [here]
          rfl
        have none_ := (recorded.startsSegment_chained chained within).mp starting
        cases none_
      unfold stepRoutedExpertsRowCount
      exact if_neg later
    have filled : first.concatTokenIds.length ≠ 0 := by
      obtain ⟨past, later, split, opened⟩ := chained [] first rest rfl
      obtain ⟨draft, origin⟩ := recorded.origins past first later split
      have stream := origin.openSegment tito
      rw [opened, nil_append, flatMap_singleton] at stream
      have member : first ∈ state.session.steps := by
        rw [split]
        exact mem_append_right past mem_cons_self
      rw [stream, length_append]
      have prompt := length_pos_iff.mpr (prompted first member).1
      omega
    have own : stepRoutedExpertsRowCount .tito first = first.concatTokenIds.length - 1 := by
      unfold stepRoutedExpertsRowCount
      exact if_pos starts
    rw [map_cons, sum_cons, own, map_congr_left continues, flatMap_cons,
      length_append, length_flatMap]
    omega

def ExpertsFit (experts : Option (RecordField (List ExpertChunk))) (tokenCount : Nat) : Prop :=
  ∀ plan, experts = some (.layout plan) → plan.tokenCount = tokenCount

theorem checkExpertsLayout_ok {experts : Option (RecordField (List ExpertChunk))}
    (fit : ExpertsFit experts tokenCount) :
    checkExpertsLayout experts tokenCount = .ok () := by
  cases experts with
  | none => rfl
  | some field =>
    cases field with
    | values _ => rfl
    | layout plan => exact if_neg (not_not_intro (fit plan rfl))

theorem buildRoutedExpertsField_ok (stored : ∀ step ∈ steps, StoredAt config state step)
    (counted : (steps.map (stepRoutedExpertsRowCount config.proxy.tokenBuildMode)).sum =
      tokenCount - 1) :
    ∃ field, buildRoutedExpertsField config state.fields.get? steps tokenCount = .ok field ∧
      ExpertsFit field tokenCount := by
  unfold buildRoutedExpertsField buildConcatenatedRoutedExperts
  rw [routedExperts_fields stored]
  dsimp only
  cases offloads : config.offloadsRoutedExperts with
  | false =>
    rw [filterMap_ref?_resident, if_pos rfl]
    refine ⟨_, rfl, fun plan isPlan => ?_⟩
    split at isPlan
    · cases isPlan
    · cases isPlan
  | true =>
    rw [filterMap_ref?_keptIf]
    split
    · refine ⟨_, rfl, fun plan isPlan => ?_⟩
      split at isPlan
      · cases isPlan
      · cases isPlan
    · rw [if_neg (by simp), if_neg (not_not_intro counted), if_neg (by simp)]
      refine ⟨_, rfl, fun plan isPlan => ?_⟩
      cases isPlan
      rfl

theorem buildConcatenatedEntries_ok (tito : config.proxy.tokenBuildMode = .tito)
    (kept : ColumnsKept config Call state)
    (recorded : ∀ step ∈ steps, step ∈ state.proxy.session.steps) :
    ∃ logprobs, buildConcatenatedEntries
      (steps.filterMap (fun step =>
        (state.fields.get? step.stepId).map StepFields.concatResponseLogprobs))
      (steps.map (fun step => step.concatTokenIds.length))
      (steps.flatMap StepRecord.concatTokenIds).length = .ok logprobs := by
  have aligned : (steps.map (fun step => step.concatTokenIds.length)).sum =
      (steps.flatMap StepRecord.concatTokenIds).length :=
    length_flatMap.symm
  have whole : (steps.flatMap (fun step =>
      (recordedColumns state step).concatResponseLogprobs)).length =
        (steps.flatMap StepRecord.concatTokenIds).length :=
    length_flatMap_congr (fun step member =>
      length_concatResponseLogprobs tito kept (recorded step member))
  have fields : steps.filterMap (fun step =>
      (state.fields.get? step.stepId).map StepFields.concatResponseLogprobs) =
        steps.map (fun step => keptIf config.offloadsLogprobs
          (placeOf state.proxy.session step) .concatResponseLogprobs
            (recordedColumns state step).concatResponseLogprobs) := by
    rw [filterMap_fields (fun step member => kept.storedAt (recorded step member))]
    apply map_congr_left
    intro step _member
    unfold TrainingConfig.fieldsOf
    rw [tito, decide_eq_true rfl, Bool.and_true]
  unfold buildConcatenatedEntries
  rw [if_neg (not_not_intro aligned), fields]
  dsimp only
  cases offloads : config.offloadsLogprobs with
  | false =>
    rw [filterMap_ref?_resident, if_pos rfl, filterMap_value?_resident, ← flatMap_def,
      if_neg (not_not_intro whole)]
    exact ⟨_, rfl⟩
  | true =>
    rw [filterMap_ref?_keptIf]
    split
    · next noRefs =>
        have empty : steps = [] := map_eq_nil_iff.mp noRefs
        rw [empty]
        exact ⟨_, rfl⟩
    · rw [if_neg (by simp), if_neg (by simp)]
      exact ⟨_, rfl⟩

theorem fieldLength_buildConcatenatedLogprobs {values : List FieldValue} {lengths : List Nat}
    {tokenCount : Nat} {field : SegmentField}
    (built : buildConcatenatedLogprobs values lengths tokenCount = .ok field) :
    fieldLength field = tokenCount := by
  unfold buildConcatenatedLogprobs at built
  split at built
  · cases built
  · dsimp only at built
    split at built
    · split at built
      · cases built
      · next whole =>
          cases built
          exact Decidable.not_not.mp whole
    · split at built
      · cases built
      · obtain ⟨layout, laid, made⟩ := Effect.except_bind_eq_ok.mp built
        cases made
        unfold buildLinearLayout at laid
        split at laid
        · cases laid
          rfl
        · cases laid

theorem fieldLength_buildSnapshotLogprobs {value : FieldValue} {promptLength responseLength : Nat}
    {remoteInvalid invalid : Bool} {field : SegmentField}
    (built : buildSnapshotLogprobs value promptLength responseLength tokenCount remoteInvalid =
      .ok (field, invalid)) :
    fieldLength field = tokenCount := by
  unfold buildSnapshotLogprobs at built
  split at built
  · cases built
  · next aligned =>
      cases value with
      | resident values =>
        cases built
        unfold fieldLength
        dsimp only
        rw [length_append, length_replicate, normalizeLogprobsToLength_length]
        exact Decidable.not_not.mp aligned
      | remote ref =>
        obtain ⟨layout, laid, made⟩ := Effect.except_bind_eq_ok.mp built
        cases made
        unfold buildLinearLayout at laid
        split at laid
        · cases laid
          rfl
        · cases laid

structure Storable (view : SegmentView) (placement : Placement)
    (entry : TrainingRecord Message Tool) : Prop where
  view : entry.record.extraInfo.segmentView = view
  trajectoryId : entry.record.trajectoryId = placement.trajectoryId
  instanceId : entry.record.instanceId = placement.instanceId
  segmentIndex : entry.record.segmentIndex = placement.segmentIndex
  segmentCount : entry.record.segmentCount = placement.segmentCount
  logprobs : fieldLength entry.record.fullLogprobs = entry.record.tokens.length
  mask : entry.record.fullLossMask.length = entry.record.tokens.length
  versions : ∀ versions, entry.record.fullVersions = some versions →
    versions.length = entry.record.tokens.length
  experts : ExpertsFit entry.routedExperts entry.record.tokens.length

def storedItem (now : ℚ) (finalizationId : String) (drawn : Uuids)
    (entry : TrainingRecord Message Tool) : TrajectorySegment :=
  { uid := drawn.uid
    trajectoryId := entry.record.trajectoryId
    turnId := entry.record.turnId
    instanceId := entry.record.instanceId
    segmentIndex := entry.record.segmentIndex
    segmentCount := entry.record.segmentCount
    tokens := entry.record.tokens
    fullLogprobs := entry.record.fullLogprobs
    fullLossMask := entry.record.fullLossMask
    alignedResponseLength := entry.record.alignedResponseLength
    fullVersions := entry.record.fullVersions
    finishReason := entry.record.finishReason
    timestamp := now
    extraInfo :=
      { segmentView := some entry.record.extraInfo.segmentView.text
        tokenBuildMode := some entry.record.extraInfo.tokenBuildMode.text
        finalizationId := some finalizationId
        finalizationComplete := some true } }

theorem Storable.itemFromRecord (storable : Storable view placement entry)
    (named : placement.trajectoryId ≠ "") (now : ℚ) (finalizationId : String) (drawn : Uuids) :
    itemFromRecord now finalizationId drawn entry =
      .ok (storedItem now finalizationId drawn entry) := by
  have trajectory : orElse (some entry.record.trajectoryId) none =
      some entry.record.trajectoryId := by
    unfold orElse
    rw [storable.trajectoryId]
    exact if_neg named
  have versions : ¬ ((entry.record.fullVersions.getD []).length ≠ entry.record.tokens.length ∧
      entry.record.fullVersions.isSome = true) := by
    rintro ⟨long, some_⟩
    obtain ⟨versions, isVersions⟩ := Option.isSome_iff_exists.mp some_
    rw [isVersions] at long
    exact long (storable.versions versions isVersions)
  have converted : itemFromDict now (recordDict finalizationId drawn.uid entry.record) drawn =
      .ok (storedItem now finalizationId drawn entry) := by
    unfold itemFromDict recordDict
    simp only [Option.elim_some, trajectory, Option.getD_some, bind, Except.bind]
    rw [if_neg (not_not_intro storable.logprobs), if_neg (not_not_intro storable.mask),
      if_neg versions]
    rfl
  unfold Proxy.itemFromRecord
  rw [converted]
  change (checkExpertsLayout entry.routedExperts entry.record.tokens.length >>= fun _ =>
    Except.ok (storedItem now finalizationId drawn entry)) = _
  rw [checkExpertsLayout_ok storable.experts]
  rfl

theorem buildStepSnapshotRecord_storable (last : segment.steps.getLast? = some step)
    (built : buildStepSnapshotRecord proxy session segment placement = .ok entry.record)
    (experts : ExpertsFit entry.routedExperts entry.record.tokens.length) :
    Storable .timeline placement entry := by
  unfold buildStepSnapshotRecord at built
  rw [last] at built
  dsimp only at built
  split at built
  · cases built
  · next logprobs invalid laid =>
      have whole : min step.promptTokenIds.length step.allTokenIds.length +
          (step.allTokenIds.length - min step.promptTokenIds.length step.allTokenIds.length) =
            step.allTokenIds.length := by
        omega
      have isRecord := Except.ok.inj built
      refine
        { view := by rw [← isRecord]; rfl
          trajectoryId := by rw [← isRecord]; rfl
          instanceId := by rw [← isRecord]; rfl
          segmentIndex := by rw [← isRecord]; rfl
          segmentCount := by rw [← isRecord]; rfl
          logprobs := ?_
          mask := ?_
          versions := fun versions isVersions => ?_
          experts := experts }
      · rw [← isRecord]
        exact fieldLength_buildSnapshotLogprobs laid
      · rw [← isRecord]
        change (_ ++ _ : List Nat).length = step.allTokenIds.length
        rw [length_append, length_replicate, length_replicate, whole]
      · rw [← isRecord] at isVersions ⊢
        change (if proxy.recordTokenVersions then _ else none) = some versions at isVersions
        split at isVersions
        · cases isVersions
          change (_ ++ _ : List String).length = step.allTokenIds.length
          rw [length_append, length_replicate, length_replicate, whole]
        · cases isVersions

theorem buildTitoLineageSegmentRecord_storable
    (built : buildTitoLineageSegmentRecord proxy session segment placement = .ok entry.record)
    (experts : ExpertsFit entry.routedExperts entry.record.tokens.length) :
    Storable .lineage placement entry := by
  unfold buildTitoLineageSegmentRecord at built
  split at built
  · cases built
  · next baseStep last =>
      dsimp only at built
      split at built
      · cases built
      · next logprobs laid =>
          split at built
          · cases built
          · next maskAligned =>
              split at built
              · cases built
              · next versionsAligned =>
                  have isRecord := Except.ok.inj built
                  refine
                    { view := by rw [← isRecord]; rfl
                      trajectoryId := by rw [← isRecord]; rfl
                      instanceId := by rw [← isRecord]; rfl
                      segmentIndex := by rw [← isRecord]; rfl
                      segmentCount := by rw [← isRecord]; rfl
                      logprobs := ?_
                      mask := ?_
                      versions := fun versions isVersions => ?_
                      experts := experts }
                  · rw [← isRecord]
                    exact fieldLength_buildConcatenatedLogprobs laid
                  · rw [← isRecord]
                    exact (Decidable.not_not.mp maskAligned).symm
                  · rw [← isRecord] at isVersions ⊢
                    change (if proxy.recordTokenVersions then _ else none) = some versions
                      at isVersions
                    split at isVersions
                    · next records =>
                        cases isVersions
                        by_contra misaligned
                        exact versionsAligned ⟨records, misaligned⟩
                    · cases isVersions

theorem ColumnsKept.publishLineage_ok {state : TrainingState Message Tool}
    (tito : config.proxy.tokenBuildMode = .tito) (kept : ColumnsKept config Call state)
    (prompted : Prompted state.proxy.session.steps) {segment : Segment Message Tool}
    (member : segment ∈ splitSessionIntoLineageSegments state.proxy.session)
    (placement : Placement) :
    ∃ entry, publishLineage config state.proxy.session state.fields.get? segment placement =
      .ok entry ∧ Storable .lineage placement entry := by
  have recorded : ∀ step ∈ segment.steps, step ∈ state.proxy.session.steps :=
    fun step inside => segment_steps_recorded member inside
  have stored : ∀ step ∈ segment.steps, StoredAt config state step := fun step inside =>
    kept.storedAt (recorded step inside)
  obtain ⟨record, built, _fits⟩ := kept.steps.lineageRecord tito member placement
  have tokens := buildTitoLineageSegmentRecord_tokens built
  obtain ⟨logprobs, concatenated⟩ := buildConcatenatedEntries_ok tito kept recorded
  have counted : (segment.steps.map
      (stepRoutedExpertsRowCount config.proxy.tokenBuildMode)).sum = record.tokens.length - 1 := by
    rw [tito, tokens]
    exact kept.steps.sum_rowCounts tito prompted (chained_segment member)
  obtain ⟨experts, field, fit⟩ := buildRoutedExpertsField_ok stored counted
  rw [← tokens] at concatenated
  have published : LineagePublished config state.proxy.session state.fields.get? segment placement
      { record := record
        steps := segment.steps
        fullLogprobs := logprobs
        routedExperts := experts } :=
    { record := built
      steps := rfl
      logprobs := concatenated
      experts := field }
  exact ⟨_, publishLineage_iff.mpr published, buildTitoLineageSegmentRecord_storable built fit⟩

theorem ColumnsKept.publishStep_ok (kept : ColumnsKept config Call state)
    (prompted : config.proxy.tokenBuildMode = .tito → Prompted state.proxy.session.steps)
    (member : step ∈ state.proxy.session.steps) (alone : segment.steps = [step])
    (placement : Placement) :
    ∃ entry, publishStep config state.proxy.session state.fields.get? segment placement =
      .ok entry ∧ Storable .timeline placement entry := by
  have last : segment.steps.getLast? = some step := by
    rw [alone]
    rfl
  obtain ⟨record, built, _fits⟩ : ∃ record,
      buildStepSnapshotRecord config.proxy state.proxy.session segment placement = .ok record ∧
        TimelineRecord config.proxy state.proxy step record :=
    timelineRecord segment placement alone
  have tokens := buildStepSnapshotRecord_tokens last built
  have stored := kept.storedAt member
  have rows : (∀ other ∈ routedExpertsSteps config.proxy.tokenBuildMode state.proxy.session step,
        StoredAt config state other) ∧
      ((routedExpertsSteps config.proxy.tokenBuildMode state.proxy.session step).map
        (stepRoutedExpertsRowCount config.proxy.tokenBuildMode)).sum =
          record.tokens.length - 1 := by
    cases mode : config.proxy.tokenBuildMode with
    | snapshot =>
      constructor
      · intro other inside
        rw [mem_singleton.mp inside]
        exact stored
      · rw [tokens]
        exact Nat.add_zero _
    | tito =>
      obtain ⟨past, later, split⟩ := append_of_mem member
      have chained := kept.steps.chained_routedExpertsSteps split
      obtain ⟨draft, origin⟩ := kept.steps.origins past step later split
      constructor
      · intro other inside
        obtain ⟨before, after, here⟩ := append_of_mem inside
        obtain ⟨early, late, whole, _opened⟩ := chained before other after here
        apply kept.storedAt
        rw [whole]
        exact mem_append_right early mem_cons_self
      · rw [kept.steps.sum_rowCounts mode (prompted mode) chained, tokens,
          (origin.shape mode).allTokens, kept.steps.routedExpertsSteps split,
          origin.openSegment mode]
  obtain ⟨experts, field, fit⟩ := buildRoutedExpertsField_ok rows.1 rows.2
  have whole : min step.promptTokenIds.length step.allTokenIds.length +
      (step.allTokenIds.length - min step.promptTokenIds.length step.allTokenIds.length) =
        record.tokens.length := by
    rw [tokens]
    omega
  obtain ⟨logprobs, laid⟩ : ∃ logprobs, buildSnapshotEntries
      (config.fieldsOf (placeOf state.proxy.session step)
        (recordedColumns state step)).responseLogprobs
      (min step.promptTokenIds.length step.allTokenIds.length)
      (step.allTokenIds.length - min step.promptTokenIds.length step.allTokenIds.length)
      record.tokens.length = .ok logprobs := by
    unfold buildSnapshotEntries
    rw [if_neg (not_not_intro whole)]
    split <;> exact ⟨_, rfl⟩
  have published : StepPublished config state.proxy.session state.fields.get? segment placement
      step
      { record := record
        steps := routedExpertsSteps config.proxy.tokenBuildMode state.proxy.session step
        fullLogprobs := logprobs
        routedExperts := experts } :=
    { record := built
      steps := rfl
      logprobs := ⟨_, stored.fields, laid⟩
      experts := field }
  exact ⟨_, (publishStep_iff last).mpr published, buildStepSnapshotRecord_storable last built fit⟩

/-- The segments of one finalized trajectory: marked alike, of one identity, and each view the
complete set `0..N-1`. -/
structure CompleteBatch (trajectoryId instanceId finalizationId : String)
    (items : List TrajectorySegment) : Prop where
  identity : ∀ item ∈ items, item.trajectoryId = trajectoryId ∧ item.instanceId = instanceId
  marked : ∀ item ∈ items, item.extraInfo.finalizationId = some finalizationId ∧
    item.extraInfo.finalizationComplete = some true
  viewed : ∀ item ∈ items, ∃ view : SegmentView, item.extraInfo.segmentView = some view.text
  counted : ∀ view : SegmentView, ∀ item ∈ itemsOfView items view.text,
    item.segmentCount = (itemsOfView items view.text).length
  indexed : ∀ view : SegmentView,
    (itemsOfView items view.text).map TrajectorySegment.segmentIndex =
      (List.range (itemsOfView items view.text).length).map Int.ofNat

theorem single_of_forall {α : Type} [DecidableEq α] {values : List α} {value : α}
    (some_ : values ≠ []) (all : ∀ other ∈ values, other = value) : single values = true := by
  cases values with
  | nil => exact absurd rfl some_
  | cons first rest =>
    unfold single
    rw [all_eq_true]
    intro other member
    rw [all first mem_cons_self]
    exact decide_eq_true (all other (mem_cons_of_mem first member))

theorem CompleteBatch.completeView {trajectoryId instanceId finalizationId : String}
    {items : List TrajectorySegment}
    (batch : CompleteBatch trajectoryId instanceId finalizationId items) (view : SegmentView)
    (some_ : itemsOfView items view.text ≠ []) :
    completeView (itemsOfView items view.text) = true := by
  have counts : ∀ count ∈ (itemsOfView items view.text).map TrajectorySegment.segmentCount,
      count = ((itemsOfView items view.text).length : Int) := by
    intro count isCount
    obtain ⟨item, member, rfl⟩ := mem_map.mp isCount
    exact batch.counted view item member
  have distinct : ((itemsOfView items view.text).map TrajectorySegment.segmentIndex).Nodup := by
    rw [batch.indexed view]
    exact nodup_range.map (fun left right same => Int.ofNat.inj same)
  have bounds : ∀ item ∈ itemsOfView items view.text,
      0 ≤ item.segmentIndex ∧ item.segmentIndex < (itemsOfView items view.text).length := by
    intro item member
    have here := mem_map_of_mem (f := TrajectorySegment.segmentIndex) member
    rw [batch.indexed view] at here
    obtain ⟨index, inRange, same⟩ := mem_map.mp here
    have inside := mem_range.mp inRange
    rw [← same]
    exact ⟨Int.natCast_nonneg index, Int.ofNat_lt.mpr inside⟩
  unfold TrajectoryStore.completeView
  rw [single_of_forall (fun empty => some_ (map_eq_nil_iff.mp empty)) counts,
    all_eq_true.mpr (fun item member => decide_eq_true (batch.counted view item member)),
    decide_eq_true distinct,
    all_eq_true.mpr (fun item member => decide_eq_true (bounds item member))]
  rfl

theorem CompleteBatch.validate {trajectoryId instanceId finalizationId : String}
    {items : List TrajectorySegment}
    (batch : CompleteBatch trajectoryId instanceId finalizationId items)
    (drawn : finalizationId ≠ "") (some_ : items ≠ []) :
    validateFinalizedBatch items = .ok () := by
  have ids : single (items.map (fun item => item.extraInfo.finalizationId)) = true := by
    have all : ∀ id ∈ items.map (fun item => item.extraInfo.finalizationId),
        id = some finalizationId := by
      intro id isId
      obtain ⟨item, member, rfl⟩ := mem_map.mp isId
      exact (batch.marked item member).1
    exact single_of_forall (fun empty => some_ (map_eq_nil_iff.mp empty)) all
  have trajectories : single (items.map TrajectorySegment.trajectoryId) = true := by
    have all : ∀ id ∈ items.map TrajectorySegment.trajectoryId, id = trajectoryId := by
      intro id isId
      obtain ⟨item, member, rfl⟩ := mem_map.mp isId
      exact (batch.identity item member).1
    exact single_of_forall (fun empty => some_ (map_eq_nil_iff.mp empty)) all
  have instances : single (items.map TrajectorySegment.instanceId) = true := by
    have all : ∀ id ∈ items.map TrajectorySegment.instanceId, id = instanceId := by
      intro id isId
      obtain ⟨item, member, rfl⟩ := mem_map.mp isId
      exact (batch.identity item member).2
    exact single_of_forall (fun empty => some_ (map_eq_nil_iff.mp empty)) all
  have complete : ∀ view ∈ ["lineage", "timeline"],
      ¬ (itemsOfView items view ≠ [] ∧
        ¬ TrajectoryStore.completeView (itemsOfView items view)) := by
    rintro view isView ⟨nonempty, incomplete⟩
    rcases mem_cons.mp isView with rfl | isTimeline
    · exact incomplete (batch.completeView .lineage nonempty)
    · rw [mem_singleton] at isTimeline
      subst isTimeline
      exact incomplete (batch.completeView .timeline nonempty)
  have unnamed : items.any (fun item => (item.extraInfo.finalizationId.getD "") = "") = false := by
    rw [any_eq_false]
    intro item member
    rw [(batch.marked item member).1]
    simpa using drawn
  have unfinished :
      items.any (fun item => item.extraInfo.finalizationComplete ≠ some true) = false := by
    rw [any_eq_false]
    intro item member
    rw [(batch.marked item member).2]
    simp
  have strange : items.any (fun item => item.extraInfo.segmentView ≠ some "lineage" ∧
      item.extraInfo.segmentView ≠ some "timeline") = false := by
    rw [any_eq_false]
    intro item member
    obtain ⟨view, isView⟩ := batch.viewed item member
    rw [isView]
    cases view with
    | lineage => simp [SegmentView.text]
    | timeline => simp [SegmentView.text]
  unfold validateFinalizedBatch
  split
  · rfl
  · rw [ids, unnamed, unfinished, trajectories, instances, strange, if_neg (by simp),
      if_neg (by simp), if_neg (by simp),
      find?_eq_none.mpr (fun view isView => by simpa using complete view isView)]

def ViewBuilt (view : SegmentView) (session : Session Message Tool) (publisher : Option String)
    (records : List (TrainingRecord Message Tool)) : Prop :=
  List.Forall₂ (fun index entry =>
      Storable view (placementOf session publisher index records.length) entry)
    (List.range records.length) records

theorem viewBuilt_nil (view : SegmentView) (session : Session Message Tool)
    (publisher : Option String) : ViewBuilt view session publisher [] :=
  List.Forall₂.nil

variable {records : List (TrainingRecord Message Tool)}

theorem ViewBuilt.mem {view : SegmentView} {session : Session Message Tool}
    {publisher : Option String} (built : ViewBuilt view session publisher records)
    {entry : TrainingRecord Message Tool} (member : entry ∈ records) :
    ∃ index, Storable view (placementOf session publisher index records.length) entry := by
  obtain ⟨sizes, each⟩ := forall₂_iff_get.mp built
  obtain ⟨⟨index, inside⟩, rfl⟩ := mem_iff_get.mp member
  exact ⟨_, each index (by omega) inside⟩

theorem ViewBuilt.indices (built : ViewBuilt view session publisher records) :
    records.map (fun entry => entry.record.segmentIndex) = List.range records.length := by
  have same : List.Forall₂ (fun index placed => placed = index) (List.range records.length)
      (records.map (fun entry => entry.record.segmentIndex)) := by
    rw [forall₂_map_right_iff]
    exact built.imp (fun index entry storable => storable.segmentIndex)
  have flipped := same.flip
  rw [forall₂_eq_eq_eq] at flipped
  exact flipped

theorem viewBuilt_buildAll (publisher : Option String) {segments : List (Segment Message Tool)}
    {build : Segment Message Tool → Placement → Except String (TrainingRecord Message Tool)}
    (each : ∀ segment ∈ segments, ∀ placement, ∃ entry, build segment placement = .ok entry ∧
      Storable view placement entry) :
    ∃ records, buildAll (fun entry => build entry.1
        (placementOf session publisher entry.2 segments.length)) segments.zipIdx = .ok records ∧
      ViewBuilt view session publisher records ∧ records.length = segments.length := by
  have eachPlaced : ∀ entry ∈ segments.zipIdx, ∃ record,
      build entry.1 (placementOf session publisher entry.2 segments.length) = .ok record ∧
        Storable view (placementOf session publisher entry.2 segments.length) record :=
    fun entry member => each entry.1 (fst_mem_of_mem_zipIdx member) _
  obtain ⟨records, built, fits⟩ := buildAll_ok eachPlaced
  have sizes : records.length = segments.length := by
    rw [← fits.length_eq, length_zipIdx]
  refine ⟨records, built, ?_, sizes⟩
  unfold ViewBuilt
  rw [sizes, range_eq_range', ← zipIdx_map_snd 0 segments, forall₂_map_left_iff]
  exact fits

def recordsOfView (view : SegmentView) (records : List (TrainingRecord Message Tool)) :
    List (TrainingRecord Message Tool) :=
  records.filter (fun entry => entry.record.extraInfo.segmentView = view)

theorem ViewBuilt.recordsOfView (built : ViewBuilt view session publisher records)
    (other : SegmentView) :
    recordsOfView other records = if other = view then records else [] := by
  unfold Proxy.recordsOfView
  split
  · next same =>
      rw [filter_eq_self]
      intro entry member
      obtain ⟨_index, storable⟩ := built.mem member
      exact decide_eq_true (storable.view.trans same.symm)
  · next apart =>
      rw [filter_eq_nil_iff]
      intro entry member isOther
      obtain ⟨_index, storable⟩ := built.mem member
      exact apart ((of_decide_eq_true isOther).symm.trans storable.view)

theorem viewBuilt_recordsOfView {lineages timeline : List (TrainingRecord Message Tool)}
    (lineagesBuilt : ViewBuilt .lineage session publisher lineages)
    (timelineBuilt : ViewBuilt .timeline session publisher timeline) (view : SegmentView) :
    ViewBuilt view session publisher (recordsOfView view (lineages ++ timeline)) := by
  have split : recordsOfView view (lineages ++ timeline) =
      recordsOfView view lineages ++ recordsOfView view timeline :=
    filter_append lineages timeline
  rw [split, lineagesBuilt.recordsOfView, timelineBuilt.recordsOfView]
  cases view with
  | lineage =>
    rw [if_pos rfl, if_neg (by decide), append_nil]
    exact lineagesBuilt
  | timeline =>
    rw [if_neg (by decide), if_pos rfl, nil_append]
    exact timelineBuilt

def storedItems (now : ℚ) (finalizationId : String) (drawn : Nat → Uuids) (start : Nat)
    (published : List (TrainingRecord Message Tool)) : List TrajectorySegment :=
  (published.zipIdx start).map (fun entry =>
    storedItem now finalizationId (drawn entry.2) entry.1)

theorem SegmentView.text_injective {left right : SegmentView} (same : left.text = right.text) :
    left = right := by
  cases left with
  | lineage =>
    cases right with
    | lineage => rfl
    | timeline => simp [SegmentView.text] at same
  | timeline =>
    cases right with
    | lineage => simp [SegmentView.text] at same
    | timeline => rfl

theorem map_itemsOfView_storedItems {β : Type} (now : ℚ) (finalizationId : String)
    (drawn : Nat → Uuids) (itemValue : TrajectorySegment → β)
    (recordValue : TrainingRecord Message Tool → β)
    (same : ∀ ids entry, itemValue (storedItem now finalizationId ids entry) = recordValue entry)
    (view : SegmentView) (start : Nat) (published : List (TrainingRecord Message Tool)) :
    (itemsOfView (storedItems now finalizationId drawn start published) view.text).map itemValue =
      (recordsOfView view published).map recordValue := by
  induction published generalizing start with
  | nil => rfl
  | cons entry rest ih =>
    have later := ih (start + 1)
    unfold itemsOfView storedItems recordsOfView at later ⊢
    rw [zipIdx_cons, map_cons, filter_cons, filter_cons]
    by_cases isView : entry.record.extraInfo.segmentView = view
    · have shown : (storedItem now finalizationId (drawn start) entry).extraInfo.segmentView =
          some view.text := congrArg (fun kind : SegmentView => some kind.text) isView
      rw [if_pos (decide_eq_true shown), if_pos (decide_eq_true isView), map_cons,
        map_cons, same, later]
    · have apart : (storedItem now finalizationId (drawn start) entry).extraInfo.segmentView ≠
          some view.text := fun shown =>
        isView (SegmentView.text_injective (Option.some.inj shown))
      rw [if_neg (by simpa using apart), if_neg (by simpa using isView), later]

theorem completeBatch_storedItems {lineages timeline : List (TrainingRecord Message Tool)}
    (lineagesBuilt : ViewBuilt .lineage session publisher lineages)
    (timelineBuilt : ViewBuilt .timeline session publisher timeline) (now : ℚ)
    (finalizationId : String) (drawn : Nat → Uuids) :
    CompleteBatch session.sessionId (placementOf session publisher 0 0).instanceId finalizationId
      (storedItems now finalizationId drawn 0 (lineages ++ timeline)) := by
  have storable : ∀ entry ∈ lineages ++ timeline, ∃ view index count,
      Storable view (placementOf session publisher index count) entry := by
    intro entry member
    rcases mem_append.mp member with inLineages | inTimeline
    · obtain ⟨index, fits⟩ := lineagesBuilt.mem inLineages
      exact ⟨_, index, _, fits⟩
    · obtain ⟨index, fits⟩ := timelineBuilt.mem inTimeline
      exact ⟨_, index, _, fits⟩
  have source : ∀ item ∈ storedItems now finalizationId drawn 0 (lineages ++ timeline),
      ∃ entry ∈ lineages ++ timeline, ∃ ids, item = storedItem now finalizationId ids entry := by
    intro item member
    obtain ⟨entry, inEntries, rfl⟩ := mem_map.mp member
    exact ⟨entry.1, fst_mem_of_mem_zipIdx inEntries, _, rfl⟩
  have views : ∀ view : SegmentView, ViewBuilt view session publisher
      (recordsOfView view (lineages ++ timeline)) :=
    viewBuilt_recordsOfView lineagesBuilt timelineBuilt
  have sizes : ∀ view : SegmentView,
      (itemsOfView (storedItems now finalizationId drawn 0 (lineages ++ timeline))
        view.text).length = (recordsOfView view (lineages ++ timeline)).length := by
    intro view
    have units := congrArg List.length (map_itemsOfView_storedItems now finalizationId drawn
      (fun _ => ()) (fun _ => ()) (fun _ _ => rfl) view 0 (lineages ++ timeline))
    rw [length_map, length_map] at units
    exact units
  refine
    { identity := fun item member => ?_
      marked := fun item member => ?_
      viewed := fun item member => ?_
      counted := fun view item member => ?_
      indexed := fun view => ?_ }
  · obtain ⟨entry, inEntries, ids, rfl⟩ := source item member
    obtain ⟨view, index, count, fits⟩ := storable entry inEntries
    exact ⟨fits.trajectoryId, fits.instanceId⟩
  · obtain ⟨entry, _inEntries, ids, rfl⟩ := source item member
    exact ⟨rfl, rfl⟩
  · obtain ⟨entry, _inEntries, ids, rfl⟩ := source item member
    exact ⟨entry.record.extraInfo.segmentView, rfl⟩
  · have counts := map_itemsOfView_storedItems now finalizationId drawn
      TrajectorySegment.segmentCount (fun entry => (entry.record.segmentCount : Int))
      (fun _ _ => rfl) view 0 (lineages ++ timeline)
    have here := mem_map_of_mem (f := TrajectorySegment.segmentCount) member
    rw [counts] at here
    obtain ⟨entry, inView, isCount⟩ := mem_map.mp here
    obtain ⟨index, fits⟩ := (views view).mem inView
    rw [← isCount, fits.segmentCount, sizes view]
    rfl
  · rw [map_itemsOfView_storedItems now finalizationId drawn _ (fun entry =>
        (entry.record.segmentIndex : Int)) (fun _ _ => rfl) view 0 (lineages ++ timeline),
      sizes view, ← (views view).indices, map_map]
    rfl

theorem buildAll_map {α β : Type} {build : α → Except String β} {made : α → β} {items : List α}
    (each : ∀ item ∈ items, build item = .ok (made item)) :
    buildAll build items = .ok (items.map made) := by
  rw [buildAll_iff, forall₂_map_right_iff, forall₂_same]
  exact each

theorem ColumnsKept.finalizeTraining_ok (kept : ColumnsKept config Call state)
    (prompted : config.proxy.tokenBuildMode = .tito → Prompted state.proxy.session.steps)
    (some_ : state.proxy.session.steps ≠ []) (publisher : Option String) :
    ∃ lineages timeline,
      finalizeTraining config state.proxy.session state.fields.get? publisher =
          .ok (lineages ++ timeline) ∧
        ViewBuilt .lineage state.proxy.session publisher lineages ∧
          ViewBuilt .timeline state.proxy.session publisher timeline ∧ timeline ≠ [] := by
  have steps : ∀ segment ∈ splitSessionIntoTimelineSegments state.proxy.session, ∀ placement,
      ∃ entry, publishStep config state.proxy.session state.fields.get? segment placement =
        .ok entry ∧ Storable .timeline placement entry := by
    intro segment member placement
    obtain ⟨step, inSteps, shape⟩ := mem_map.mp member
    have alone : segment.steps = [step] := by rw [← shape]
    exact kept.publishStep_ok prompted inSteps alone placement
  obtain ⟨timeline, timelineBuilt, timelineView, timelineSize⟩ :=
    viewBuilt_buildAll publisher steps
  have nonempty : timeline ≠ [] := by
    intro empty
    rw [empty] at timelineSize
    apply some_
    apply length_eq_zero_iff.mp
    unfold splitSessionIntoTimelineSegments at timelineSize
    rw [length_map] at timelineSize
    exact timelineSize.symm
  unfold finalizeTraining
  rw [if_neg some_]
  cases mode : config.proxy.tokenBuildMode with
  | snapshot =>
    exact ⟨[], timeline, timelineBuilt, viewBuilt_nil _ _ _, timelineView, nonempty⟩
  | tito =>
    obtain ⟨lineages, lineagesBuilt, lineagesView, _size⟩ :=
      viewBuilt_buildAll publisher
        (fun segment member placement =>
          kept.publishLineage_ok mode (prompted mode) member placement)
    refine ⟨lineages, timeline, ?_, lineagesView, timelineView, nonempty⟩
    apply Effect.except_bind_eq_ok.mpr
    refine ⟨lineages, lineagesBuilt, ?_⟩
    apply Effect.except_bind_eq_ok.mpr
    exact ⟨timeline, timelineBuilt, rfl⟩

theorem sessionId_trainingRun [BEq Message] (format : ChatFormat Message Tool Call)
    (sessionId instanceId : String) (now : ℚ)
    (events : List (TrainingEvent Message Tool Call)) :
    (trainingRun config format sessionId instanceId now events).proxy.session.sessionId =
      sessionId := by
  have preserved : ∀ (state : TrainingState Message Tool)
      (event : TrainingEvent Message Tool Call),
      ColumnsKept config Call state ∧ state.proxy.session.sessionId = sessionId → True →
        ColumnsKept config Call (serveTraining config format state event) ∧
          (serveTraining config format state event).proxy.session.sessionId = sessionId := by
    intro state event holds _
    obtain ⟨kept, same⟩ := holds
    have served : ∀ chat,
        (serve config.proxy format state.proxy chat).session.sessionId = sessionId := by
      intro chat
      have outcome : Served config.proxy Call state.proxy
          (serve config.proxy format state.proxy chat) :=
        served_serve chat (fun step member => (kept.steps.placed step member).2)
      rcases outcome with undisturbed | ⟨draft, step, _fits, appended⟩
      · exact undisturbed.session.sessionId.trans same
      · exact appended.sessionId.trans same
    refine ⟨columnsKept_serveTraining event kept, ?_⟩
    unfold serveTraining
    dsimp only
    split
    · exact served _
    · split <;> exact served _
  have start : ColumnsKept config Call
        (TrainingState.initial sessionId instanceId now : TrainingState Message Tool) ∧
      (TrainingState.initial sessionId instanceId now :
        TrainingState Message Tool).proxy.session.sessionId = sessionId :=
    ⟨columnsKept_initial sessionId instanceId now, rfl⟩
  exact (Runs.run_invariant_of_forall preserved start (fun _ _ => trivial)).2

/-- Finalize succeeds on every session with a recorded step: all records are built, converted and
validated, and the batch is complete. A session's id and a finalization id are never empty, since
an empty id is replaced by a uuid. -/
theorem finalize_cannot_fail [BEq Message] (config : TrainingConfig)
    (format : ChatFormat Message Tool Call) (rendered : PromptsRendered format)
    (sessionId instanceId : String) (named : sessionId ≠ "") (now : ℚ)
    (events : List (TrainingEvent Message Tool Call))
    (recorded :
      (trainingRun config format sessionId instanceId now events).proxy.session.steps ≠ [])
    (publisher : Option String) (finalizationId : String) (marked : finalizationId ≠ "")
    (drawn : Nat → Uuids) (committed : ℚ) :
    ∃ published items,
      finalizeTraining config
          (trainingRun config format sessionId instanceId now events).proxy.session
          (trainingRun config format sessionId instanceId now events).fields.get? publisher =
        .ok published ∧
      preparedBatch committed finalizationId drawn published = .ok items ∧
      items.length = published.length ∧
      CompleteBatch sessionId
        (placementOf (trainingRun config format sessionId instanceId now events).proxy.session
          publisher 0 0).instanceId finalizationId items := by
  have kept : ColumnsKept config Call (trainingRun config format sessionId instanceId now events) :=
    columnsKept_trainingRun format sessionId instanceId now events
  have id_ : (trainingRun config format sessionId instanceId now events).proxy.session.sessionId =
    sessionId := sessionId_trainingRun format sessionId instanceId now events
  obtain ⟨lineages, timeline, finalized, lineagesView, timelineView, some_⟩ :=
    kept.finalizeTraining_ok
      (fun tito => prompted_trainingRun rendered tito sessionId instanceId now events) recorded
      publisher
  have batch := completeBatch_storedItems lineagesView timelineView committed finalizationId drawn
  rw [id_] at batch
  have storable : ∀ entry ∈ lineages ++ timeline, ∃ view placement,
      placement.trajectoryId = sessionId ∧ Storable view placement entry := by
    intro entry member
    rcases mem_append.mp member with inLineages | inTimeline
    · obtain ⟨index, fits⟩ := lineagesView.mem inLineages
      exact ⟨_, _, id_, fits⟩
    · obtain ⟨index, fits⟩ := timelineView.mem inTimeline
      exact ⟨_, _, id_, fits⟩
  have converted : buildAll
      (fun entry => itemFromRecord committed finalizationId (drawn entry.2) entry.1)
      (lineages ++ timeline).zipIdx =
        .ok (storedItems committed finalizationId drawn 0 (lineages ++ timeline)) := by
    apply buildAll_map
    intro entry member
    obtain ⟨view, placement, isId, fits⟩ := storable entry.1 (fst_mem_of_mem_zipIdx member)
    exact fits.itemFromRecord (by rw [isId]; exact named) committed finalizationId _
  have size : (storedItems committed finalizationId drawn 0 (lineages ++ timeline)).length =
      (lineages ++ timeline).length := by
    unfold storedItems
    rw [length_map, length_zipIdx]
  have filled : storedItems committed finalizationId drawn 0 (lineages ++ timeline) ≠ [] := by
    intro empty
    rw [empty] at size
    exact some_ (append_eq_nil_iff.mp (length_eq_zero_iff.mp size.symm)).2
  refine ⟨lineages ++ timeline, _, finalized, ?_, size, batch⟩
  unfold preparedBatch
  rw [converted]
  apply Effect.except_bind_eq_ok.mpr
  refine ⟨_, rfl, ?_⟩
  apply Effect.except_bind_eq_ok.mpr
  exact ⟨(), batch.validate marked filled, rfl⟩

theorem promptsRendered_plain : PromptsRendered PlainFormat.format := by
  intro messages tools ids tokenized empty
  have rendered : PlainFormat.encode (PlainFormat.render messages tools true) = ids :=
    Except.ok.inj tokenized
  rw [empty] at rendered
  unfold PlainFormat.encode PlainFormat.render at rendered
  rw [map_eq_nil_iff, String.toList_append] at rendered
  have prompt := (append_eq_nil_iff.mp rendered).2
  cases prompt

def drawnIds : Uuids :=
  { uid := "uid"
    trajectoryId := "trajectory"
    instanceId := "instance" }

theorem finalize_cannot_fail_resumed :
    ∃ published items,
      finalizeTraining offloading
          (trainingRun offloading PlainFormat.format "session" "instance" 0
            resumedThenAsked).proxy.session
          (trainingRun offloading PlainFormat.format "session" "instance" 0
            resumedThenAsked).fields.get? none =
        .ok published ∧
      preparedBatch 5 "finalization" (fun _ => drawnIds) published = .ok items ∧
      items.length = published.length ∧
      CompleteBatch "session"
        (placementOf (trainingRun offloading PlainFormat.format "session" "instance" 0
          resumedThenAsked).proxy.session none 0 0).instanceId "finalization" items := by
  have steps : (trainingRun offloading PlainFormat.format "session" "instance" 0
      resumedThenAsked).proxy.session.steps.length ≠ 0 := by
    decide +kernel
  exact finalize_cannot_fail offloading PlainFormat.format promptsRendered_plain "session"
    "instance" (by decide) 0 resumedThenAsked (fun empty => steps (by rw [empty]; rfl)) none
    "finalization" (by decide) (fun _ => drawnIds) 5

end Dressage.Proxy

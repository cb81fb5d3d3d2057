/-
What finalize publishes for a served session.

Every step of a served tito session carries aligned arrays, so both builders
succeed: one record per lineage segment, in the order of the segments, and one
per step, in the order of the steps.
-/

import Mathlib.Data.List.Forall2
import Dressage.Lib.Ledger
import Dressage.Proxy.TokenStream
import Dressage.Transport.LayoutReads

namespace Dressage.Proxy

open Lib Transport Generation List

variable {Message Tool Call : Type} {config : ProxyConfig} {state : ProxyState Message Tool}

structure StepShape (config : ProxyConfig) (state : ProxyState Message Tool)
    (step : StepRecord Message Tool) (delta : List Nat) (logprobs : List Logprob) : Prop where
  tokens : step.concatTokenIds = delta ++ step.responseTokenIds
  mask : step.concatResponseMask =
    List.replicate delta.length 0 ++ List.replicate step.responseTokenIds.length 1
  versions : step.concatVersions =
    List.replicate delta.length inputTokenVersion ++ step.responseVersions
  versionCount : step.responseVersions.length = step.responseTokenIds.length
  allTokens : step.allTokenIds = step.promptTokenIds ++ step.responseTokenIds
  response : step.responseLogprobs.read state.queue = some logprobs
  concat : step.concatResponseLogprobs.read state.queue =
    some (List.replicate delta.length 0 ++
      (normalizeLogprobsToLength logprobs step.responseTokenIds.length).1)
  residence : (∃ ref, step.concatResponseLogprobs = .remote ref) ↔
    StepField.concatResponseLogprobs ∈ transferFields config

theorem chunkVersions_length (chunks : List GenerationChunk) :
    (chunkVersions chunks).length = (chunks.flatMap GenerationChunk.outputIds).length := by
  induction chunks with
  | nil => rfl
  | cons chunk rest ih =>
    unfold chunkVersions at ih ⊢
    rw [flatMap_cons, flatMap_cons, length_append, length_append, ih, length_replicate]

variable {result : PreemptibleGenerateResult} {inputIds : List Nat} {step : StepRecord Message Tool}
variable {segment : Segment Message Tool} {α β : Type} {items : List α}
variable {steps : List (StepRecord Message Tool)} {instanceId : Option String}
variable {timeline lineages : List (SegmentRecord Message Tool)}

section

variable (chunks : FromChunks inputIds result)
include chunks

theorem FromChunks.versionCount : result.outputVersions.length = result.outputIds.length := by
  rw [chunks.outputVersions, chunks.outputIds, chunkVersions_length]

theorem acceptedOf_responseVersions :
    (acceptedOf config result).responseVersions = result.outputVersions := by
  unfold acceptedOf
  dsimp only
  rw [if_pos (FromChunks.versionCount chunks)]

theorem recordedResponse_shape :
    (recordedResponse result (acceptedOf config result) inputIds).versions.length =
        (recordedResponse result (acceptedOf config result) inputIds).tokenIds.length ∧
      (recordedResponse result (acceptedOf config result) inputIds).allTokenIds =
        inputIds ++ (recordedResponse result (acceptedOf config result) inputIds).tokenIds := by
  unfold recordedResponse
  dsimp only
  split
  · exact ⟨rfl, (append_nil inputIds).symm⟩
  · dsimp only
    rw [acceptedOf_responseVersions chunks]
    exact ⟨FromChunks.versionCount chunks, chunks.allTokenIds⟩

end

theorem Origin.shape {past : List (StepRecord Message Tool)} {draft : StepDraft Message Tool Call}
    (tito : config.tokenBuildMode = .tito) (origin : Origin config state past step draft) :
    StepShape config state step draft.prepared.payload.contextDeltaIds draft.recorded.logprobs := by
  have recorded : draft.recorded.versions.length = draft.recorded.tokenIds.length ∧
      draft.recorded.allTokenIds = draft.prepared.payload.inputIds ++ draft.recorded.tokenIds := by
    unfold StepDraft.recorded
    rw [origin.fits.accepted]
    exact recordedResponse_shape origin.fits.result
  obtain ⟨refOf, _index, shape, reads⟩ := origin.built
  have concat : draft.concat config.tokenBuildMode =
      buildConcatStepPayload draft.prepared.payload.contextDeltaIds draft.recorded.tokenIds
        draft.recorded.logprobs draft.recorded.versions
        draft.prepared.payload.titoIncrementalTokenizationFailed := by
    rw [tito]
    rfl
  have response : step.responseTokenIds = draft.recorded.tokenIds := by rw [shape]; rfl
  constructor
  · exact origin.concatTokenIds tito
  · rw [response, shape]
    simp only [StepDraft.step, concat, buildConcatStepPayload]
  · have versions : step.responseVersions = draft.recorded.versions := by rw [shape]; rfl
    rw [versions, shape]
    simp only [StepDraft.step, concat, buildConcatStepPayload, normalizeVersions]
    rw [if_pos recorded.1]
  · rw [shape]
    exact recorded.1
  · rw [shape]
    exact recorded.2
  · rw [shape]
    exact reads .responseLogprobs
  · have stored := reads .concatResponseLogprobs
    rw [response, shape]
    simp only [StepDraft.columns, concat, buildConcatStepPayload] at stored
    exact stored
  · rw [shape]
    simp only [StepDraft.step, fieldValueOf]
    split
    · next listed => exact ⟨fun _ => listed, fun _ => ⟨_, rfl⟩⟩
    · next unlisted =>
        constructor
        · rintro ⟨ref, same⟩
          cases same
        · exact fun listed => absurd listed unlisted

theorem WellRecorded.stepShape (tito : config.tokenBuildMode = .tito)
    (recorded : WellRecorded config Call state) (member : step ∈ state.session.steps) :
    ∃ delta logprobs, StepShape config state step delta logprobs := by
  obtain ⟨past, later, split⟩ := append_of_mem member
  obtain ⟨draft, origin⟩ := recorded.origins past step later split
  exact ⟨_, _, origin.shape tito⟩

theorem getElem?_stepMask_one (zeros ones : Nat) (offset : Nat) :
    (List.replicate zeros 0 ++ List.replicate ones 1)[offset]? = some 1 ↔
      ∃ index < ones, offset = zeros + index := by
  constructor
  · intro found
    by_cases early : offset < zeros
    · rw [getElem?_append_left (by simpa using early), getElem?_replicate,
        if_pos early] at found
      cases found
    · rw [getElem?_append_right (by simpa using early), length_replicate,
        getElem?_replicate] at found
      split at found
      · exact ⟨offset - zeros, by assumption, by omega⟩
      · cases found
  · rintro ⟨index, inside, rfl⟩
    rw [getElem?_append_right (by simp), length_replicate, Nat.add_sub_cancel_left,
      getElem?_replicate, if_pos inside]

theorem getElem?_stepMask_zero {zeros ones offset : Nat}
    (found : (List.replicate zeros 0 ++ List.replicate ones 1)[offset]? = some 0) :
    offset < zeros := by
  by_contra late
  rw [getElem?_append_right (by simpa using late), length_replicate, getElem?_replicate] at found
  split at found
  · cases found
  · cases found

def storedLogprobs (queue : TransferQueue) (step : StepRecord Message Tool) : List Logprob :=
  (step.concatResponseLogprobs.read queue).getD []

theorem StepShape.storedLogprobs {delta : List Nat} {logprobs : List Logprob}
    (shape : StepShape config state step delta logprobs) :
    step.concatResponseLogprobs.read state.queue = some (storedLogprobs state.queue step) ∧
      (Proxy.storedLogprobs state.queue step).length = step.concatTokenIds.length := by
  unfold Proxy.storedLogprobs
  rw [shape.concat]
  refine ⟨rfl, ?_⟩
  rw [Option.getD_some, length_append, length_replicate,
    normalizeLogprobsToLength_length, shape.tokens, length_append]

structure LineageRecord (config : ProxyConfig) (state : ProxyState Message Tool)
    (segment : Segment Message Tool) (placement : Placement)
    (record : SegmentRecord Message Tool) : Prop where
  built : ∃ baseStep logprobs, record =
    titoLineageRecord config state.session segment placement baseStep logprobs
  logprobs : ∀ position, record.fullLogprobs.at? state.queue position =
    (segment.steps.flatMap (storedLogprobs state.queue))[position]?

structure TimelineRecord (config : ProxyConfig) (state : ProxyState Message Tool)
    (step : StepRecord Message Tool) (record : SegmentRecord Message Tool) : Prop where
  built : ∃ segment placement logprobs invalid, record =
    stepSnapshotRecord config state.session segment placement step logprobs invalid

theorem segment_steps_recorded {session : Session Message Tool}
    (member : segment ∈ splitSessionIntoLineageSegments session) (inside : step ∈ segment.steps) :
    step ∈ session.steps := by
  obtain ⟨before, after, here⟩ := append_of_mem inside
  obtain ⟨past, later, split, _⟩ := segment_step_split member here
  rw [split]
  exact mem_append_right past mem_cons_self

theorem segment_steps_ne_nil {session : Session Message Tool}
    (member : segment ∈ splitSessionIntoLineageSegments session) : segment.steps ≠ [] := by
  obtain ⟨lineage, _listed, _id, _index, cut⟩ := mem_splitSessionIntoLineageSegments member
  exact Boundary.segments_ne_nil cut

theorem length_flatMap_congr {γ : Type} {first : α → List β} {second : α → List γ}
    (sizes : ∀ item ∈ items, (first item).length = (second item).length) :
    (items.flatMap first).length = (items.flatMap second).length := by
  rw [length_flatMap, length_flatMap, map_congr_left sizes]

section

variable (tito : config.tokenBuildMode = .tito)
include tito

section

variable (recorded : WellRecorded config Call state)
include recorded

theorem WellRecorded.length_masks (listed : ∀ step ∈ steps, step ∈ state.session.steps) :
    (steps.flatMap StepRecord.concatResponseMask).length =
      (steps.flatMap StepRecord.concatTokenIds).length := by
  refine length_flatMap_congr (fun step inside => ?_)
  obtain ⟨delta, logprobs, shape⟩ := recorded.stepShape tito (listed step inside)
  rw [shape.mask, shape.tokens]
  simp

theorem WellRecorded.length_versions (listed : ∀ step ∈ steps, step ∈ state.session.steps) :
    (steps.flatMap StepRecord.concatVersions).length =
      (steps.flatMap StepRecord.concatTokenIds).length := by
  refine length_flatMap_congr (fun step inside => ?_)
  obtain ⟨delta, logprobs, shape⟩ := recorded.stepShape tito (listed step inside)
  rw [shape.tokens, shape.versions, length_append, length_append, shape.versionCount,
    length_replicate]

theorem WellRecorded.length_stored (listed : ∀ step ∈ steps, step ∈ state.session.steps) :
    (steps.flatMap (storedLogprobs state.queue)).length =
      (steps.flatMap StepRecord.concatTokenIds).length := by
  refine length_flatMap_congr (fun step inside => ?_)
  obtain ⟨delta, logprobs, shape⟩ := recorded.stepShape tito (listed step inside)
  exact shape.storedLogprobs.2

theorem WellRecorded.lineageRecord
    (member : segment ∈ splitSessionIntoLineageSegments state.session) (placement : Placement) :
    ∃ record, buildTitoLineageSegmentRecord config state.session segment placement = .ok record ∧
      LineageRecord config state segment placement record := by
  have shapes : ∀ step ∈ segment.steps, ∃ delta logprobs,
      StepShape config state step delta logprobs := fun step inside =>
    recorded.stepShape tito (segment_steps_recorded member inside)
  have reads : ∀ step ∈ segment.steps,
      step.concatResponseLogprobs.read state.queue = some (storedLogprobs state.queue step) := by
    intro step inside
    obtain ⟨delta, logprobs, shape⟩ := shapes step inside
    exact shape.storedLogprobs.1
  have sizes : ∀ step ∈ segment.steps,
      (storedLogprobs state.queue step).length = step.concatTokenIds.length := by
    intro step inside
    obtain ⟨delta, logprobs, shape⟩ := shapes step inside
    exact shape.storedLogprobs.2
  have uniform : Uniform (segment.steps.map StepRecord.concatResponseLogprobs) := by
    by_cases listed : StepField.concatResponseLogprobs ∈ transferFields config
    · refine .inr (fun value isValue => ?_)
      obtain ⟨step, inside, rfl⟩ := mem_map.mp isValue
      obtain ⟨delta, logprobs, shape⟩ := shapes step inside
      exact shape.residence.mpr listed
    · refine .inl (fun value isValue => ?_)
      obtain ⟨step, inside, rfl⟩ := mem_map.mp isValue
      obtain ⟨delta, logprobs, shape⟩ := shapes step inside
      cases kind : step.concatResponseLogprobs with
      | resident column => exact ⟨column, rfl⟩
      | remote ref => exact absurd (shape.residence.mp ⟨ref, kind⟩) listed
  obtain ⟨field, fieldBuilt, fieldReads⟩ :=
    buildConcatenatedLogprobs_reads segment.steps reads uniform
  rw [map_congr_left sizes, length_flatMap_congr sizes] at fieldBuilt
  have listed : ∀ step ∈ segment.steps, step ∈ state.session.steps := fun step inside =>
    segment_steps_recorded member inside
  have maskSizes := recorded.length_masks tito listed
  have versionSizes := recorded.length_versions tito listed
  cases last : segment.steps.getLast? with
  | none => exact absurd (getLast?_eq_none_iff.mp last) (segment_steps_ne_nil member)
  | some baseStep =>
    refine ⟨titoLineageRecord config state.session segment placement baseStep field, ?_, ?_⟩
    · unfold buildTitoLineageSegmentRecord
      rw [last]
      dsimp only
      rw [fieldBuilt]
      dsimp only
      rw [if_neg (not_not_intro maskSizes.symm), if_neg (fun bad => bad.2 versionSizes)]
    · exact
        { built := ⟨baseStep, field, rfl⟩
          logprobs := fieldReads }

end

end

theorem timelineRecord (segment : Segment Message Tool) (placement : Placement)
    (alone : segment.steps = [step]) :
    ∃ record, buildStepSnapshotRecord config state.session segment placement = .ok record ∧
      TimelineRecord config state step record := by
  have aligned : min step.promptTokenIds.length step.allTokenIds.length +
      (step.allTokenIds.length - min step.promptTokenIds.length step.allTokenIds.length) =
        step.allTokenIds.length := by
    omega
  obtain ⟨field, invalid, built⟩ :=
    buildSnapshotLogprobs_ok step.responseLogprobs aligned step.allLogprobsInvalid
  refine ⟨stepSnapshotRecord config state.session segment placement step field invalid, ?_, ?_⟩
  · unfold buildStepSnapshotRecord
    rw [alone]
    simp only [getLast?_singleton, built]
  · exact { built := ⟨segment, placement, field, invalid, rfl⟩ }

theorem buildAll_ok {build : α → Except String β} {fits : α → β → Prop}
    (each : ∀ item ∈ items, ∃ record, build item = .ok record ∧ fits item record) :
    ∃ records, buildAll build items = .ok records ∧ List.Forall₂ fits items records := by
  induction items with
  | nil => exact ⟨[], rfl, List.Forall₂.nil⟩
  | cons item rest ih =>
    obtain ⟨record, built, fit⟩ := each item mem_cons_self
    obtain ⟨records, others, fitting⟩ :=
      ih (fun other member => each other (mem_cons_of_mem item member))
    refine ⟨record :: records, ?_, List.Forall₂.cons fit fitting⟩
    rw [buildAll, built]
    dsimp only
    rw [others]

structure Published (config : ProxyConfig) (state : ProxyState Message Tool)
    (instanceId : Option String) (lineages timeline : List (SegmentRecord Message Tool)) :
    Prop where
  lineages : List.Forall₂
    (fun entry record => LineageRecord config state entry.1
      (placementOf state.session instanceId entry.2
        (splitSessionIntoLineageSegments state.session).length) record)
    (splitSessionIntoLineageSegments state.session).zipIdx lineages
  timeline : List.Forall₂ (TimelineRecord config state) state.session.steps timeline

private theorem forall₂_zipIdx_map {γ : Type} {fits : α → β → Prop} {wrap : α → γ} {start : Nat}
    {records : List β}
    (fitting : List.Forall₂ (fun (entry : γ × Nat) record =>
      ∀ item, entry.1 = wrap item → fits item record) ((items.map wrap).zipIdx start) records) :
    List.Forall₂ fits items records := by
  induction items generalizing start records with
  | nil =>
    cases fitting
    exact List.Forall₂.nil
  | cons item rest ih =>
    rw [map_cons, zipIdx_cons] at fitting
    cases fitting with
    | cons fit others => exact List.Forall₂.cons (fit item rfl) (ih others)

theorem timelineRecords_ok (config : ProxyConfig) (state : ProxyState Message Tool)
    (instanceId : Option String) :
    ∃ timeline, timelineRecords config state.session instanceId = .ok timeline ∧
      List.Forall₂ (TimelineRecord config state) state.session.steps timeline := by
  have each : ∀ entry ∈ (splitSessionIntoTimelineSegments state.session).zipIdx,
      ∃ record, buildStepSnapshotRecord config state.session entry.1
          (placementOf state.session instanceId entry.2
            (splitSessionIntoTimelineSegments state.session).length) = .ok record ∧
        ∀ step, entry.1.steps = [step] → TimelineRecord config state step record := by
    intro entry member
    obtain ⟨step, _inSteps, shape⟩ := mem_map.mp (fst_mem_of_mem_zipIdx member)
    have alone : entry.1.steps = [step] := by rw [← shape]
    obtain ⟨record, built, fits⟩ := timelineRecord entry.1
      (placementOf state.session instanceId entry.2
        (splitSessionIntoTimelineSegments state.session).length) alone
    refine ⟨record, built, fun other same => ?_⟩
    rw [alone] at same
    cases same
    exact fits
  obtain ⟨timeline, built, fit⟩ := buildAll_ok each
  refine ⟨timeline, built, ?_⟩
  refine forall₂_zipIdx_map (fit.imp (fun entry record fits step same => fits step ?_))
  rw [same]

theorem WellRecorded.finalizeSession (tito : config.tokenBuildMode = .tito)
    (recorded : WellRecorded config Call state) (nonempty : state.session.steps ≠ [])
    (instanceId : Option String) :
    ∃ lineages timeline,
      finalizeSession config state.session instanceId = .ok (lineages ++ timeline) ∧
        Published config state instanceId lineages timeline := by
  have lineageEach : ∀ entry ∈ (splitSessionIntoLineageSegments state.session).zipIdx,
      ∃ record, buildTitoLineageSegmentRecord config state.session entry.1
          (placementOf state.session instanceId entry.2
            (splitSessionIntoLineageSegments state.session).length) = .ok record ∧
        LineageRecord config state entry.1 (placementOf state.session instanceId entry.2
          (splitSessionIntoLineageSegments state.session).length) record := by
    intro entry member
    exact recorded.lineageRecord tito (fst_mem_of_mem_zipIdx member) _
  obtain ⟨lineages, lineagesBuilt, lineagesFit⟩ := buildAll_ok lineageEach
  obtain ⟨timeline, timelineBuilt, timelineFit⟩ := timelineRecords_ok config state instanceId
  refine ⟨lineages, timeline, ?_, ?_⟩
  · unfold Proxy.finalizeSession lineageRecords
    rw [if_neg nonempty, tito]
    dsimp only
    rw [lineagesBuilt]
    dsimp only
    rw [timelineBuilt]
  · exact
      { lineages := lineagesFit
        timeline := timelineFit }

section

variable (published : Published config state instanceId lineages timeline)
include published

theorem Published.getElem?_lineages {index : Nat} {record : SegmentRecord Message Tool}
    (here : lineages[index]? = some record) :
    ∃ segment, (splitSessionIntoLineageSegments state.session)[index]? = some segment ∧
      LineageRecord config state segment
        (placementOf state.session instanceId index
          (splitSessionIntoLineageSegments state.session).length) record := by
  obtain ⟨sizes, each⟩ := forall₂_iff_get.mp published.lineages
  rw [length_zipIdx] at sizes
  obtain ⟨inside, rfl⟩ := List.getElem_of_getElem? here
  have inSegments : index < (splitSessionIntoLineageSegments state.session).length := by omega
  refine ⟨(splitSessionIntoLineageSegments state.session)[index],
    getElem?_eq_getElem inSegments, ?_⟩
  have fit := each index (by rw [length_zipIdx]; exact inSegments) inside
  simpa using fit

theorem Published.lineages_getElem? {index : Nat}
    (here : (splitSessionIntoLineageSegments state.session)[index]? = some segment) :
    ∃ record, lineages[index]? = some record ∧
      LineageRecord config state segment
        (placementOf state.session instanceId index
          (splitSessionIntoLineageSegments state.session).length) record := by
  have sizes := (forall₂_iff_get.mp published.lineages).1
  rw [length_zipIdx] at sizes
  obtain ⟨inside, _⟩ := List.getElem_of_getElem? here
  have inRecords : index < lineages.length := by omega
  obtain ⟨found, isFound, fits⟩ :=
    published.getElem?_lineages (getElem?_eq_getElem inRecords)
  rw [here] at isFound
  cases isFound
  exact ⟨_, getElem?_eq_getElem inRecords, fits⟩

theorem Published.ofView_lineage : ofView .lineage (lineages ++ timeline) = lineages := by
  have isLineage : ∀ record ∈ lineages, record.extraInfo.segmentView = .lineage := by
    intro record member
    obtain ⟨index, here⟩ := mem_iff_getElem?.mp member
    obtain ⟨segment, _found, fits⟩ := published.getElem?_lineages here
    obtain ⟨baseStep, logprobs, rfl⟩ := fits.built
    rfl
  have isTimeline : ∀ record ∈ timeline, record.extraInfo.segmentView = .timeline := by
    intro record member
    obtain ⟨index, inside, rfl⟩ := mem_iff_getElem.mp member
    obtain ⟨sizes, each⟩ := forall₂_iff_get.mp published.timeline
    obtain ⟨segment, placement, logprobs, invalid, same⟩ :=
      (each index (by omega) inside).built
    rw [get_eq_getElem, get_eq_getElem] at same
    rw [same]
    rfl
  unfold ofView
  rw [filter_append, filter_eq_self.mpr (fun record member => by
    simpa using isLineage record member)]
  rw [filter_eq_nil_iff.mpr (fun record member => by
    rw [isTimeline record member]
    decide), append_nil]

end

end Dressage.Proxy

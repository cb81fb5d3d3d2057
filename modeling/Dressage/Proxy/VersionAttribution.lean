/-
Which weights produced which token.

A response may be stitched from chunks of several weight versions. The lineage
builder copies one version per token; the timeline builder stamps the whole
response with its last version. So every published record names the version of
the chunk behind each token exactly when no recorded response mixes versions.
-/

import Dressage.Proxy.TrainedOnce

namespace Dressage.Proxy

open Lib Lib.Ledger Transport Generation List

variable {Message Tool Call : Type} {config : ProxyConfig} {state : ProxyState Message Tool}

/-- Token `index` of a step's response stands at this position of the record: the step is one
of the record's, and the position lies that far behind the step's prompt. -/
structure TokenAt (session : Session Message Tool) (record : SegmentRecord Message Tool)
    (position : Nat) (step : StepRecord Message Tool) (index : Nat) : Prop where
  recorded : step ∈ session.steps
  held : step.stepId ∈ record.extraInfo.stepIds
  inside : index < step.responseTokenIds.length
  place : position = step.promptTokenIds.length + index

def NamesChunk (state : ProxyState Message Tool) (record : SegmentRecord Message Tool)
    (position : Nat) (step : StepRecord Message Tool) (index : Nat) : Prop :=
  ∃ chunks versions version, state.journal.generations.get? step.stepId = some chunks ∧
    (chunkVersions chunks)[index]? = some version ∧ record.fullVersions = some versions ∧
      versions[position]? = some version

structure Attributed (state : ProxyState Message Tool) (record : SegmentRecord Message Tool) :
    Prop where
  produced : ∀ position : Nat, record.fullLossMask[position]? = some 1 →
    ∃ step index, TokenAt state.session record position step index ∧
      record.tokens[position]? = step.responseTokenIds[index]?
  generated : ∀ position : Nat, record.fullLossMask[position]? = some 1 →
    ∀ step index, TokenAt state.session record position step index →
      NamesChunk state record position step index
  context : ∀ position : Nat, record.fullLossMask[position]? = some 0 →
    ∃ versions, record.fullVersions = some versions ∧ versions[position]? = some inputTokenVersion

def OneVersion (chunks : List GenerationChunk) : Prop :=
  ∀ first ∈ chunks, ∀ second ∈ chunks, first.outputIds ≠ [] → second.outputIds ≠ [] →
    first.version = second.version

def UnmixedResponses (state : ProxyState Message Tool) : Prop :=
  ∀ step ∈ state.session.steps, step.responseTokenIds ≠ [] →
    ∀ chunks, state.journal.generations.get? step.stepId = some chunks → OneVersion chunks

variable {chunks : List GenerationChunk} {step : StepRecord Message Tool} {index : Nat}

theorem mem_chunkVersions {version : String} :
    version ∈ chunkVersions chunks ↔
      ∃ chunk ∈ chunks, chunk.outputIds ≠ [] ∧ version = chunk.version := by
  unfold chunkVersions
  simp only [mem_flatMap, mem_replicate, ne_eq, length_eq_zero_iff]

theorem oneVersion_iff {last : String} (isLast : last ∈ chunkVersions chunks) :
    OneVersion chunks ↔ ∀ version ∈ chunkVersions chunks, version = last := by
  constructor
  · intro one version member
    obtain ⟨first, firstIn, firstSpoke, rfl⟩ := mem_chunkVersions.mp member
    obtain ⟨second, secondIn, secondSpoke, rfl⟩ := mem_chunkVersions.mp isLast
    exact one first firstIn second secondIn firstSpoke secondSpoke
  · intro all first firstIn second secondIn firstSpoke secondSpoke
    have firstLast := all first.version (mem_chunkVersions.mpr ⟨first, firstIn, firstSpoke, rfl⟩)
    have secondLast :=
      all second.version (mem_chunkVersions.mpr ⟨second, secondIn, secondSpoke, rfl⟩)
    exact firstLast.trans secondLast.symm

/-- A recorded step and the chunks its response was stitched from, in any build mode. -/
structure Stamped (state : ProxyState Message Tool) (step : StepRecord Message Tool)
    (chunks : List GenerationChunk) : Prop where
  journaled : state.journal.generations.get? step.stepId = some chunks
  allTokens : step.allTokenIds = step.promptTokenIds ++ step.responseTokenIds
  versions : step.responseTokenIds ≠ [] → step.responseVersions = chunkVersions chunks ∧
    (chunkVersions chunks).length = step.responseTokenIds.length ∧
      (chunkVersions chunks).getLast? = some (stepResponseVersion step)

private theorem stepResponseVersion_named {version : String}
    (stamped : step.responseVersion = some version) (named : version ≠ "") :
    stepResponseVersion step = version := by
  unfold stepResponseVersion
  rw [stamped]
  simp [Option.filter, named]

theorem Origin.stamped {past : List (StepRecord Message Tool)} {draft : StepDraft Message Tool Call}
    (origin : Origin config state past step draft) :
    Stamped state step draft.result.chunks := by
  have fromChunks := origin.fits.result
  obtain ⟨refOf, _index, shape, _reads⟩ := origin.built
  have response : step.responseTokenIds = draft.recorded.tokenIds := by rw [shape]; rfl
  have versions : step.responseVersions = draft.recorded.versions := by rw [shape]; rfl
  have stamp : step.responseVersion = some draft.accepted.responseVersion := by rw [shape]; rfl
  refine
    { journaled := origin.chunks
      allTokens := ?_
      versions := fun spoke => ?_ }
  · have tokens : draft.recorded.allTokenIds =
        draft.prepared.payload.inputIds ++ draft.recorded.tokenIds := by
      unfold StepDraft.recorded
      rw [origin.fits.accepted]
      exact (recordedResponse_shape fromChunks).2
    rw [response, shape]
    exact tokens
  · rw [response] at spoke
    unfold StepDraft.recorded recordedResponse at spoke response versions
    dsimp only at spoke response versions
    split at spoke
    · exact absurd rfl spoke
    · next kept =>
        rw [if_neg kept] at response versions
        dsimp only at response versions spoke
        rw [origin.fits.accepted, acceptedOf_responseVersions fromChunks,
          fromChunks.outputVersions] at versions
        have sizes : (chunkVersions draft.result.chunks).length =
            step.responseTokenIds.length := by
          rw [response, chunkVersions_length, fromChunks.outputIds]
        refine ⟨versions, sizes, ?_⟩
        cases last : (chunkVersions draft.result.chunks).getLast? with
        | none =>
          rw [getLast?_eq_none_iff.mp last, length_nil, response] at sizes
          exact absurd (length_eq_zero_iff.mp sizes.symm) spoke
        | some version =>
          have result : resultVersion draft.result = version := by
            unfold resultVersion
            rw [fromChunks.outputVersions, last]
          rw [origin.fits.accepted] at stamp
          have stampIs : step.responseVersion = some version := by
            rw [stamp, ← result]
            rfl
          obtain ⟨chunk, inChunks, _spoke, same⟩ :=
            mem_chunkVersions.mp (mem_of_getLast? last)
          have named : version ≠ "" := by
            rw [same]
            exact fromChunks.named chunk inChunks
          rw [stepResponseVersion_named stampIs named]

theorem WellRecorded.stamped (recorded : WellRecorded config Call state)
    (member : step ∈ state.session.steps) :
    ∃ chunks, Stamped state step chunks := by
  obtain ⟨past, later, split⟩ := append_of_mem member
  obtain ⟨draft, origin⟩ := recorded.origins past step later split
  exact ⟨_, origin.stamped⟩

structure SnapshotShape (record : SegmentRecord Message Tool) (step : StepRecord Message Tool) :
    Prop where
  stepIds : record.extraInfo.stepIds = [step.stepId]
  tokens : record.tokens = step.promptTokenIds ++ step.responseTokenIds
  mask : record.fullLossMask = List.replicate step.promptTokenIds.length 0 ++
    List.replicate step.responseTokenIds.length 1
  versions : record.fullVersions =
    some (List.replicate step.promptTokenIds.length inputTokenVersion ++
      List.replicate step.responseTokenIds.length (stepResponseVersion step))

variable {record : SegmentRecord Message Tool}

theorem TimelineRecord.shape (stamping : config.recordTokenVersions = true)
    (stamped : Stamped state step chunks) (fits : TimelineRecord config state step record) :
    SnapshotShape record step := by
  obtain ⟨segment, placement, logprobs, invalid, built⟩ := fits.built
  have sizes := congrArg List.length stamped.allTokens
  rw [length_append] at sizes
  have promptLen : min step.promptTokenIds.length step.allTokenIds.length =
      step.promptTokenIds.length := by
    omega
  have responseLen : step.allTokenIds.length - step.promptTokenIds.length =
      step.responseTokenIds.length := by
    omega
  refine
    { stepIds := by rw [built]; rfl
      tokens := ?_
      mask := ?_
      versions := ?_ }
  · rw [built, ← stamped.allTokens]
    rfl
  · rw [built]
    simp only [stepSnapshotRecord, promptLen, responseLen]
  · rw [built]
    simp only [stepSnapshotRecord, promptLen, responseLen, stamping, if_true]

theorem SnapshotShape.step_eq (recorded : WellRecorded config Call state)
    {other : StepRecord Message Tool} (member : step ∈ state.session.steps)
    (shape : SnapshotShape record step) {position : Nat}
    (here : TokenAt state.session record position other index) : other = step := by
  have held := here.held
  rw [shape.stepIds, mem_singleton] at held
  exact recorded.eq_of_stepId here.recorded member held

theorem SnapshotShape.tokenAt (member : step ∈ state.session.steps)
    (shape : SnapshotShape record step) (inside : index < step.responseTokenIds.length) :
    TokenAt state.session record (step.promptTokenIds.length + index) step index :=
  { recorded := member
    held := by rw [shape.stepIds]; exact mem_singleton_self _
    inside := inside
    place := rfl }

theorem SnapshotShape.versionAt (shape : SnapshotShape record step)
    (inside : index < step.responseTokenIds.length) :
    ∃ versions, record.fullVersions = some versions ∧
      versions[step.promptTokenIds.length + index]? = some (stepResponseVersion step) := by
  refine ⟨_, shape.versions, ?_⟩
  rw [getElem?_append_right (by simp), length_replicate, Nat.add_sub_cancel_left,
    getElem?_replicate, if_pos inside]

theorem SnapshotShape.oneVersion (member : step ∈ state.session.steps)
    (stamped : Stamped state step chunks) (shape : SnapshotShape record step)
    (attributed : Attributed state record) (spoke : step.responseTokenIds ≠ []) :
    OneVersion chunks := by
  obtain ⟨_same, sizes, isLast⟩ := stamped.versions spoke
  rw [oneVersion_iff (mem_of_getLast? isLast)]
  intro version inVersions
  obtain ⟨index, found⟩ := mem_iff_getElem?.mp inVersions
  have inside : index < step.responseTokenIds.length := by
    rw [← sizes]
    exact (List.getElem_of_getElem? found).1
  have one : record.fullLossMask[step.promptTokenIds.length + index]? = some 1 := by
    rw [shape.mask, getElem?_stepMask_one]
    exact ⟨index, inside, rfl⟩
  obtain ⟨others, versions, named, journaled, atIndex, isVersions, atPosition⟩ :=
    attributed.generated _ one step index (shape.tokenAt member inside)
  obtain ⟨stamps, isStamps, lastStamp⟩ := shape.versionAt inside
  rw [stamped.journaled] at journaled
  cases journaled
  rw [found] at atIndex
  cases atIndex
  rw [isVersions] at isStamps
  cases isStamps
  rw [lastStamp] at atPosition
  exact (Option.some_inj.mp atPosition).symm

theorem SnapshotShape.attributed (recorded : WellRecorded config Call state)
    (member : step ∈ state.session.steps) (stamped : Stamped state step chunks)
    (shape : SnapshotShape record step) (unmixed : step.responseTokenIds ≠ [] → OneVersion chunks) :
    Attributed state record := by
  refine
    { produced := fun position one => ?_
      generated := fun position _one other index here => ?_
      context := fun position zero => ?_ }
  · rw [shape.mask, getElem?_stepMask_one] at one
    obtain ⟨index, inside, rfl⟩ := one
    refine ⟨step, index, shape.tokenAt member inside, ?_⟩
    rw [shape.tokens, getElem?_append_right (by omega), Nat.add_sub_cancel_left]
  · have same := shape.step_eq recorded member here
    subst same
    have inside := here.inside
    have spoke : other.responseTokenIds ≠ [] := ne_nil_of_length_pos (by omega)
    obtain ⟨_same, sizes, isLast⟩ := stamped.versions spoke
    have all := (oneVersion_iff (mem_of_getLast? isLast)).mp (unmixed spoke)
    have inVersions : index < (chunkVersions chunks).length := by
      rw [sizes]
      exact inside
    obtain ⟨versions, isVersions, lastStamp⟩ := shape.versionAt inside
    refine ⟨chunks, versions, stepResponseVersion other, stamped.journaled, ?_, isVersions, ?_⟩
    · rw [getElem?_eq_getElem inVersions, all _ (getElem_mem inVersions)]
    · rw [here.place]
      exact lastStamp
  · rw [shape.mask] at zero
    have early := getElem?_stepMask_zero zero
    refine ⟨_, shape.versions, ?_⟩
    rw [getElem?_append_left (by simpa using early), getElem?_replicate, if_pos early]

theorem SnapshotShape.attributed_iff (recorded : WellRecorded config Call state)
    (member : step ∈ state.session.steps) (stamped : Stamped state step chunks)
    (shape : SnapshotShape record step) :
    Attributed state record ↔ (step.responseTokenIds ≠ [] → OneVersion chunks) := by
  constructor
  · exact shape.oneVersion member stamped
  · exact shape.attributed recorded member stamped

structure LineageShape (record : SegmentRecord Message Tool) (segment : Segment Message Tool) :
    Prop where
  stepIds : record.extraInfo.stepIds = segment.steps.map StepRecord.stepId
  tokens : record.tokens = segment.steps.flatMap StepRecord.concatTokenIds
  mask : record.fullLossMask = segment.steps.flatMap StepRecord.concatResponseMask
  versions : record.fullVersions = some (segment.steps.flatMap StepRecord.concatVersions)

theorem LineageRecord.shape (stamping : config.recordTokenVersions = true)
    {segment : Segment Message Tool} {placement : Placement}
    (fits : LineageRecord config state segment placement record) :
    LineageShape record segment := by
  obtain ⟨baseStep, field, built⟩ := fits.built
  refine
    { stepIds := by rw [built]; rfl
      tokens := by rw [built]; rfl
      mask := by rw [built]; rfl
      versions := ?_ }
  rw [built]
  simp only [titoLineageRecord, stamping, if_true]

section Lineage

variable {segment : Segment Message Tool} {record : SegmentRecord Message Tool}

variable {position : Nat}

section

variable (tito : config.tokenBuildMode = .tito)
include tito

section

variable (recorded : WellRecorded config Call state)
include recorded

theorem LineageShape.produced (member : segment ∈ splitSessionIntoLineageSegments state.session)
    (shape : LineageShape record segment) (one : record.fullLossMask[position]? = some 1) :
    ∃ step index, TokenAt state.session record position step index ∧
      record.tokens[position]? = step.responseTokenIds[index]? := by
  rw [shape.mask, recorded.mask_one_iff tito member] at one
  obtain ⟨before, step, after, index, split, inside, place⟩ := one
  have inSegment : step ∈ segment.steps := by
    rw [split]
    exact mem_append_right before mem_cons_self
  refine ⟨step, index,
    { recorded := segment_steps_recorded member inSegment
      held := by rw [shape.stepIds]; exact mem_map_of_mem inSegment
      inside := inside
      place := place }, ?_⟩
  have stream := recorded.segment_stream tito member split
  rw [shape.tokens, split, append_cons, flatMap_append, stream, append_assoc, place,
    getElem?_append_right (by omega), Nat.add_sub_cancel_left,
    getElem?_append_left inside]

theorem LineageShape.generated (member : segment ∈ splitSessionIntoLineageSegments state.session)
    (shape : LineageShape record segment) {index : Nat} {step : StepRecord Message Tool}
    (here : TokenAt state.session record position step index) :
    NamesChunk state record position step index := by
  have held := here.held
  rw [shape.stepIds, mem_map] at held
  obtain ⟨other, inSegment, same⟩ := held
  have equal := recorded.eq_of_stepId (segment_steps_recorded member inSegment) here.recorded same
  subst equal
  obtain ⟨before, after, split⟩ := append_of_mem inSegment
  obtain ⟨delta, logprobs, arrays⟩ := recorded.stepShape tito here.recorded
  obtain ⟨chunks, stamped⟩ := recorded.stamped here.recorded
  have inside := here.inside
  have spoke : other.responseTokenIds ≠ [] := ne_nil_of_length_pos (by omega)
  obtain ⟨responseVersions, sizes, _isLast⟩ := stamped.versions spoke
  have inVersions : index < (chunkVersions chunks).length := by omega
  refine ⟨chunks, _, _, stamped.journaled, getElem?_eq_getElem inVersions, shape.versions, ?_⟩
  refine (getElem?_flatMap _ _ _ _).mpr ⟨before, other, after, delta.length + index, split, ?_, ?_⟩
  · rw [arrays.versions, responseVersions, getElem?_append_right (by simp),
      length_replicate, Nat.add_sub_cancel_left]
    exact getElem?_eq_getElem inVersions
  · -- The earlier steps and the delta fill the step's prompt.
    have prompt := congrArg List.length (recorded.prompt_position tito member split arrays)
    rw [length_append] at prompt
    have columns := recorded.length_versions tito (fun earlier inBefore =>
      segment_steps_recorded member (by rw [split]; exact mem_append_left _ inBefore))
    have place := here.place
    omega

theorem LineageShape.context (member : segment ∈ splitSessionIntoLineageSegments state.session)
    (shape : LineageShape record segment) (zero : record.fullLossMask[position]? = some 0) :
    ∃ versions, record.fullVersions = some versions ∧
      versions[position]? = some inputTokenVersion := by
  rw [shape.mask, getElem?_flatMap] at zero
  obtain ⟨before, step, after, offset, split, found, place⟩ := zero
  have listed : step ∈ state.session.steps := segment_steps_recorded member (by
    rw [split]
    exact mem_append_right before mem_cons_self)
  have listedBefore : ∀ earlier ∈ before, earlier ∈ state.session.steps := fun earlier inBefore =>
    segment_steps_recorded member (by rw [split]; exact mem_append_left _ inBefore)
  obtain ⟨delta, logprobs, arrays⟩ := recorded.stepShape tito listed
  rw [arrays.mask] at found
  have early := getElem?_stepMask_zero found
  refine ⟨_, shape.versions, (getElem?_flatMap _ _ _ _).mpr
    ⟨before, step, after, offset, split, ?_, ?_⟩⟩
  · rw [arrays.versions, getElem?_append_left (by simpa using early),
      getElem?_replicate, if_pos early]
  · rw [place, recorded.length_masks tito listedBefore, recorded.length_versions tito listedBefore]

theorem LineageShape.attributed (member : segment ∈ splitSessionIntoLineageSegments state.session)
    (shape : LineageShape record segment) : Attributed state record :=
  { produced := fun _ one => shape.produced tito recorded member one
    generated := fun _ _one _ _ here => shape.generated tito recorded member here
    context := fun _ zero => shape.context tito recorded member zero }

end

end

end Lineage

theorem WellRecorded.timeline_attributed_iff (stamping : config.recordTokenVersions = true)
    (recorded : WellRecorded config Call state) {timeline : List (SegmentRecord Message Tool)}
    (fitting : List.Forall₂ (TimelineRecord config state) state.session.steps timeline) :
    (∀ record ∈ timeline, Attributed state record) ↔ UnmixedResponses state := by
  have exactly : ∀ step ∈ state.session.steps, ∀ record, TimelineRecord config state step record →
      (Attributed state record ↔ (step.responseTokenIds ≠ [] →
        ∀ chunks, state.journal.generations.get? step.stepId = some chunks →
          OneVersion chunks)) := by
    intro step member record fits
    obtain ⟨chunks, stamped⟩ := recorded.stamped member
    rw [(fits.shape stamping stamped).attributed_iff recorded member stamped, stamped.journaled]
    refine forall_congr' (fun _spoke => ?_)
    constructor
    · rintro one others ⟨⟩
      exact one
    · exact fun all => all chunks rfl
  have each := forall₂_iff_get.mp fitting
  constructor
  · intro attributed step member
    obtain ⟨index, inside, rfl⟩ := mem_iff_getElem.mp member
    have inTimeline : index < timeline.length := by omega
    exact (exactly _ member _ (each.2 index inside inTimeline)).mp
      (attributed _ (getElem_mem inTimeline))
  · intro unmixed record member
    obtain ⟨index, inside, rfl⟩ := mem_iff_getElem.mp member
    have inSteps : index < state.session.steps.length := by omega
    exact (exactly _ (getElem_mem inSteps) _ (each.2 index inSteps inside)).mpr
      (unmixed _ (getElem_mem inSteps))

/-- With token versions recorded, in either build mode, everything finalize publishes names the
version behind each generated token exactly when no recorded response mixes versions. -/
theorem versions_attributed_iff [BEq Message] {format : ChatFormat Message Tool Call}
    (stamping : config.recordTokenVersions = true) (sessionId instanceId : String) (now : ℚ)
    (events : List (ChatEvent Message Tool Call)) (finalInstanceId : Option String)
    (nonempty : (Runs.run (serve config format)
      (ProxyState.initial sessionId instanceId now) events).session.steps ≠ []) :
    ∃ records, finalizeSession config
        (Runs.run (serve config format) (ProxyState.initial sessionId instanceId now)
          events).session finalInstanceId = .ok records ∧
      ((∀ record ∈ records, Attributed (Runs.run (serve config format)
          (ProxyState.initial sessionId instanceId now) events) record) ↔
        UnmixedResponses (Runs.run (serve config format)
          (ProxyState.initial sessionId instanceId now) events)) := by
  have recorded : WellRecorded config Call
      (Runs.run (serve config format) (ProxyState.initial sessionId instanceId now) events) :=
    wellRecorded_run sessionId instanceId now events
  cases mode : config.tokenBuildMode with
  | snapshot =>
    obtain ⟨timeline, built, fitting⟩ := timelineRecords_ok config
      (Runs.run (serve config format) (ProxyState.initial sessionId instanceId now) events)
      finalInstanceId
    refine ⟨timeline, ?_, recorded.timeline_attributed_iff stamping fitting⟩
    unfold finalizeSession
    rw [if_neg nonempty, mode]
    exact built
  | tito =>
    obtain ⟨lineages, timeline, finalized, published⟩ :=
      recorded.finalizeSession mode nonempty finalInstanceId
    refine ⟨lineages ++ timeline, finalized, ?_⟩
    rw [← recorded.timeline_attributed_iff stamping published.timeline]
    constructor
    · exact fun all record member => all record (mem_append_right lineages member)
    · intro attributed record member
      rcases mem_append.mp member with inLineages | inTimeline
      · obtain ⟨index, here⟩ := mem_iff_getElem?.mp inLineages
        obtain ⟨segment, segmentHere, fits⟩ := published.getElem?_lineages here
        exact (fits.shape stamping).attributed mode recorded (mem_of_getElem? segmentHere)
      · exact attributed record inTimeline

theorem versions_attributed_iff_followUp :
    ∃ records, finalizeSession PlainFormat.config
        (Runs.run (serve PlainFormat.config PlainFormat.format) PlainFormat.start
          followUp).session none = .ok records ∧
      ∀ record ∈ records, Attributed (Runs.run (serve PlainFormat.config PlainFormat.format)
        PlainFormat.start followUp) record := by
  have chunkCounts : (Runs.run (serve PlainFormat.config PlainFormat.format) PlainFormat.start
      followUp).journal.generations.values.map List.length = [1, 1] := by
    decide +kernel
  have recordedBoth : (Runs.run (serve PlainFormat.config PlainFormat.format) PlainFormat.start
      followUp).session.steps.length = 2 := by
    decide +kernel
  have unmixed : UnmixedResponses (Runs.run (serve PlainFormat.config PlainFormat.format)
      PlainFormat.start followUp) := by
    intro step _member _spoke chunks journaled
    have listed := mem_map_of_mem (f := List.length)
      (mem_map_of_mem (f := Prod.snd) (OrderedDict.mem_of_get? journaled))
    unfold OrderedDict.values at chunkCounts
    rw [chunkCounts] at listed
    have single : chunks.length = 1 := by simpa using listed
    obtain ⟨chunk, rfl⟩ := length_eq_one_iff.mp single
    intro first firstIn second secondIn _ _
    rw [mem_singleton.mp firstIn, mem_singleton.mp secondIn]
  obtain ⟨records, finalized, exactly⟩ :=
    versions_attributed_iff rfl "session" "instance" 0 followUp none
      (ne_nil_of_length_pos (Nat.lt_of_lt_of_eq (by decide) recordedBoth.symm))
  exact ⟨records, finalized, exactly.mpr unmixed⟩

def resumedUnderNewWeights : List (ChatEvent PlainFormat.PlainMessage String String) :=
  [{ request := { PlainFormat.request [⟨"user", "hi"⟩] with maxTokens := some 8 }
     answers := PlainFormat.answers
      [.answered 0
        { PlainFormat.response "a" "v1" with
          finishReason := "abort"
          metaFinishReason := some "abort" } true,
       .answered 0 (PlainFormat.response "b#" "v2") false] "ab" [] }]

def stampedAt {Message Tool : Type} (position : Nat)
    (finalized : Except String (List (SegmentRecord Message Tool))) :
    List (List StepId × Option Nat × Option String) :=
  match finalized with
  | .error _ => []
  | .ok records => records.map (fun record =>
    (record.extraInfo.stepIds, record.fullLossMask[position]?,
      record.fullVersions.bind (fun versions => versions[position]?)))

/-- The timeline record names `v2` for the token that `v1` produced. -/
theorem resumed_response_misattributed :
    ∃ records, finalizeSession PlainFormat.config
        (Runs.run (serve PlainFormat.config PlainFormat.format) PlainFormat.start
          resumedUnderNewWeights).session none = .ok records ∧
      ¬ ∀ record ∈ records, Attributed (Runs.run (serve PlainFormat.config PlainFormat.format)
        PlainFormat.start resumedUnderNewWeights) record := by
  have stamps : stampedAt 19 (finalizeSession PlainFormat.config
      (Runs.run (serve PlainFormat.config PlainFormat.format) PlainFormat.start
        resumedUnderNewWeights).session none) =
      [([1], some 1, some "v1"), ([1], some 1, some "v2")] := by
    decide +kernel
  have stepIs : (Runs.run (serve PlainFormat.config PlainFormat.format) PlainFormat.start
      resumedUnderNewWeights).session.steps.map (fun step =>
        (step.stepId, step.promptTokenIds.length, step.responseTokenIds.length)) =
      [(1, 19, 3)] := by
    decide +kernel
  have producedBy : ((Runs.run (serve PlainFormat.config PlainFormat.format) PlainFormat.start
      resumedUnderNewWeights).journal.generations.get? 1).map chunkVersions =
      some ["v1", "v2", "v2"] := by
    decide +kernel
  cases finalized : finalizeSession PlainFormat.config
    (Runs.run (serve PlainFormat.config PlainFormat.format) PlainFormat.start
      resumedUnderNewWeights).session none with
  | error message =>
    rw [finalized] at stamps
    cases stamps
  | ok records =>
    refine ⟨records, rfl, fun attributed => ?_⟩
    rw [finalized] at stamps
    obtain ⟨record, inRecords, row⟩ : ∃ record ∈ records,
        (record.extraInfo.stepIds, record.fullLossMask[19]?,
          record.fullVersions.bind (fun versions => versions[19]?)) = ([1], some 1, some "v2") := by
      have listed : ([1], some 1, some "v2") ∈ stampedAt 19 (Except.ok records) := by
        rw [stamps]
        exact mem_cons_of_mem _ mem_cons_self
      exact mem_map.mp listed
    simp only [Prod.mk.injEq] at row
    obtain ⟨stepIds, one, version⟩ := row
    obtain ⟨step, member, shape⟩ := mem_map.mp
      (show (1, 19, 3) ∈ (Runs.run (serve PlainFormat.config PlainFormat.format)
          PlainFormat.start resumedUnderNewWeights).session.steps.map (fun step =>
            (step.stepId, step.promptTokenIds.length, step.responseTokenIds.length)) by
        rw [stepIs]
        exact mem_singleton_self _)
    simp only [Prod.mk.injEq] at shape
    obtain ⟨stepId, promptLen, responseLen⟩ := shape
    -- Token 0 of the step's response, the one `v1` produced, stands at position 19.
    have first : TokenAt (Runs.run (serve PlainFormat.config PlainFormat.format)
        PlainFormat.start resumedUnderNewWeights).session record 19 step 0 :=
      { recorded := member
        held := by rw [stepIds, stepId]; exact mem_singleton_self _
        inside := by rw [responseLen]; decide
        place := by rw [promptLen] }
    obtain ⟨chunks, versions, named, journaled, produced, isVersions, stamped⟩ :=
      (attributed record inRecords).generated 19 one step 0 first
    rw [isVersions, Option.bind_some, stamped] at version
    rw [stepId] at journaled
    rw [journaled, Option.map_some, Option.some_inj] at producedBy
    rw [producedBy, version] at produced
    exact absurd produced (by decide)

end Dressage.Proxy

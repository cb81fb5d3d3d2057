/-
Every generated token is trained exactly once in the lineage view.

Token `j` of a step's response sits behind the step's prompt, and nothing else has mask 1. Slots
are ordered by segment and position, tokens by lineage, recording order and index.
-/

import Dressage.Proxy.SegmentOrder

namespace Dressage.Proxy

open Lib Lib.Ledger Transport List

variable {Message Tool Call : Type} {config : ProxyConfig} {state : ProxyState Message Tool}

def Trainable (records : List (SegmentRecord Message Tool)) (slot : Nat × Nat) : Prop :=
  ∃ record, records[slot.1]? = some record ∧ record.fullLossMask[slot.2]? = some 1

def Generated (session : Session Message Tool) (token : StepId × Nat) : Prop :=
  ∃ step ∈ session.steps, step.stepId = token.1 ∧ token.2 < step.responseTokenIds.length

def tokenBefore (session : Session Message Tool) (first second : StepId × Nat) : Prop :=
  ∃ left ∈ session.steps, ∃ right ∈ session.steps, left.stepId = first.1 ∧
    right.stepId = second.1 ∧ (stepBefore left right ∨ left = right ∧ first.2 < second.2)

/-- The slot holds the token: its id behind exactly the ids the engine saw before it, and its
recorded logprob, normalised to the length of the response. -/
structure Carries (state : ProxyState Message Tool) (records : List (SegmentRecord Message Tool))
    (slot : Nat × Nat) (token : StepId × Nat) : Prop where
  holds : ∃ record step tokenId logprobs logprob, records[slot.1]? = some record ∧
    step ∈ state.session.steps ∧ step.stepId = token.1 ∧
    step.responseTokenIds[token.2]? = some tokenId ∧ record.tokens[slot.2]? = some tokenId ∧
    record.tokens.take slot.2 = step.promptTokenIds ++ step.responseTokenIds.take token.2 ∧
    step.responseLogprobs.read state.queue = some logprobs ∧
    (normalizeLogprobsToLength logprobs step.responseTokenIds.length).1[token.2]? = some logprob ∧
    record.fullLogprobs.at? state.queue slot.2 = some logprob

structure TrainedOnce (state : ProxyState Message Tool)
    (records : List (SegmentRecord Message Tool)) : Prop where
  masks : ∀ (index : Nat) (record : SegmentRecord Message Tool),
    records[index]? = some record → record.segmentIndex = index ∧
    record.fullLossMask.length = record.tokens.length ∧
    ∀ value ∈ record.fullLossMask, value = 0 ∨ value = 1
  bijection : ∃ origin : Nat × Nat → StepId × Nat,
    Set.BijOn origin {slot | Trainable records slot} {token | Generated state.session token} ∧
      (∀ slot, Trainable records slot → Carries state records slot (origin slot)) ∧
      ∀ first second, Trainable records first → Trainable records second →
        Earlier first second → tokenBefore state.session (origin first) (origin second)

variable {step : StepRecord Message Tool} {segment : Segment Message Tool}
variable {session : Session Message Tool} {place : Nat} {slot : Nat × Nat} {token : StepId × Nat}

theorem WellRecorded.prompt_position (tito : config.tokenBuildMode = .tito)
    (recorded : WellRecorded config Call state)
    (member : segment ∈ splitSessionIntoLineageSegments state.session)
    {before after : List (StepRecord Message Tool)} (here : segment.steps = before ++ step :: after)
    {delta : List Nat} {logprobs : List Logprob}
    (shape : StepShape config state step delta logprobs) :
    before.flatMap StepRecord.concatTokenIds ++ delta = step.promptTokenIds := by
  have stream := recorded.segment_stream tito member here
  rw [flatMap_append, flatMap_singleton, shape.tokens, ← append_assoc] at stream
  exact append_cancel_right stream

theorem WellRecorded.mask_one_iff (tito : config.tokenBuildMode = .tito)
    (recorded : WellRecorded config Call state)
    (member : segment ∈ splitSessionIntoLineageSegments state.session) (position : Nat) :
    (segment.steps.flatMap StepRecord.concatResponseMask)[position]? = some 1 ↔
      ∃ before step after index, segment.steps = before ++ step :: after ∧
        index < step.responseTokenIds.length ∧ position = step.promptTokenIds.length + index := by
  have prompt : ∀ before step after, segment.steps = before ++ step :: after →
      ∃ count, step.concatResponseMask =
          List.replicate count 0 ++ List.replicate step.responseTokenIds.length 1 ∧
        (before.flatMap StepRecord.concatResponseMask).length + count =
          step.promptTokenIds.length := by
    intro before step after here
    have listed : ∀ other ∈ segment.steps, other ∈ state.session.steps := fun other inside =>
      segment_steps_recorded member inside
    rw [here] at listed
    obtain ⟨delta, logprobs, shape⟩ :=
      recorded.stepShape tito (listed step (mem_append_right before mem_cons_self))
    refine ⟨delta.length, shape.mask, ?_⟩
    rw [recorded.length_masks tito (fun other inside =>
      listed other (mem_append_left _ inside)), ← length_append,
      recorded.prompt_position tito member here shape]
  rw [getElem?_flatMap]
  constructor
  · rintro ⟨before, step, after, offset, here, found, place⟩
    obtain ⟨count, mask, total⟩ := prompt before step after here
    rw [mask, getElem?_stepMask_one] at found
    obtain ⟨index, inside, same⟩ := found
    exact ⟨before, step, after, index, here, inside, by omega⟩
  · rintro ⟨before, step, after, index, here, inside, place⟩
    obtain ⟨count, mask, total⟩ := prompt before step after here
    refine ⟨before, step, after, count + index, here, ?_, by omega⟩
    rw [mask, getElem?_stepMask_one]
    exact ⟨index, inside, rfl⟩

structure Sits (session : Session Message Tool) (slot : Nat × Nat) (token : StepId × Nat)
    (place : Nat) (segment : Segment Message Tool) (step : StepRecord Message Tool) : Prop where
  inSegment : (splitSessionIntoLineageSegments session)[slot.1]? = some segment
  atPlace : segment.steps[place]? = some step
  stepId : step.stepId = token.1
  index : token.2 < step.responseTokenIds.length
  position : slot.2 = step.promptTokenIds.length + token.2

def SitsIn (session : Session Message Tool) (slot : Nat × Nat) (token : StepId × Nat) : Prop :=
  ∃ place segment step, Sits session slot token place segment step

section

variable (sits : Sits session slot token place segment step)
include sits

theorem Sits.member : segment ∈ splitSessionIntoLineageSegments session :=
  mem_of_getElem? sits.inSegment

theorem Sits.recorded : step ∈ session.steps :=
  segment_steps_recorded sits.member (mem_of_getElem? sits.atPlace)

theorem Sits.block :
    ((splitSessionIntoLineageSegments session).map Segment.steps)[slot.1]? =
      some segment.steps := by
  rw [getElem?_map, sits.inSegment]
  rfl

end

theorem split_at {α : Type} {items : List α} {item : α} (here : items[place]? = some item) :
    items = items.take place ++ item :: items.drop (place + 1) := by
  obtain ⟨inside, rfl⟩ := List.getElem_of_getElem? here
  rw [← drop_eq_getElem_cons inside, take_append_drop]

theorem WellRecorded.prompt_covers (tito : config.tokenBuildMode = .tito)
    (recorded : WellRecorded config Call state)
    (member : segment ∈ splitSessionIntoLineageSegments state.session) {early late : Nat}
    {first second : StepRecord Message Tool} (firstHere : segment.steps[early]? = some first)
    (secondHere : segment.steps[late]? = some second) (before : early < late) :
    first.promptTokenIds.length + first.responseTokenIds.length ≤
      second.promptTokenIds.length := by
  obtain ⟨delta, logprobs, shape⟩ := recorded.stepShape tito
    (segment_steps_recorded member (mem_of_getElem? secondHere))
  have firstStream := recorded.segment_stream tito member (split_at firstHere)
  have secondPrompt := recorded.prompt_position tito member (split_at secondHere) shape
  obtain ⟨inside, firstIs⟩ := List.getElem_of_getElem? firstHere
  have shorter : segment.steps.take early ++ [first] <+: segment.steps.take late := by
    rw [← firstIs, ← take_succ_eq_append_getElem inside]
    exact take_prefix_take_left before
  obtain ⟨rest, whole⟩ := shorter
  rw [← whole, flatMap_append, firstStream] at secondPrompt
  rw [← secondPrompt]
  simp only [length_append]
  omega

theorem SitsIn.carried (tito : config.tokenBuildMode = .tito)
    (recorded : WellRecorded config Call state) {other : Nat × Nat} {later : StepId × Nat}
    (here : SitsIn state.session slot token) (there : SitsIn state.session other later)
    (before : tokenBefore state.session token later) : Earlier slot other := by
  obtain ⟨place, segment, step, sits⟩ := here
  obtain ⟨place', segment', step', sits'⟩ := there
  obtain ⟨left, leftIn, right, rightIn, leftId, rightId, ordered⟩ := before
  have leftIs : left = step :=
    recorded.eq_of_stepId leftIn sits.recorded (leftId.trans sits.stepId.symm)
  have rightIs : right = step' :=
    recorded.eq_of_stepId rightIn sits'.recorded (rightId.trans sits'.stepId.symm)
  subst leftIs
  subst rightIs
  have atLeft := sits.position
  have atRight := sits'.position
  have inLeft := sits.index
  rcases ordered with stepOrdered | ⟨same, indexOrdered⟩
  · have earlier : Earlier (slot.1, place) (other.1, place') :=
      earlier_of_below recorded.segments_sorted stepBefore_irrefl stepBefore_asymm sits.block
        sits.atPlace sits'.block sits'.atPlace stepOrdered
    rcases earlier with segmentBefore | ⟨sameSegment, placeBefore⟩
    · exact .inl segmentBefore
    · refine .inr ⟨sameSegment, ?_⟩
      have equal : segment = segment' := by
        have segmentThere := sits'.inSegment
        rw [← sameSegment, sits.inSegment] at segmentThere
        exact Option.some_inj.mp segmentThere
      subst equal
      have covers := recorded.prompt_covers tito sits.member sits.atPlace sits'.atPlace placeBefore
      omega
  · subst same
    have samePlace : (slot.1, place) = (other.1, place') :=
      place_unique recorded.segments_sorted stepBefore_irrefl sits.block sits.atPlace sits'.block
        sits'.atPlace
    simp only [Prod.mk.injEq] at samePlace
    exact .inr ⟨samePlace.1, by omega⟩

section

variable (recorded : WellRecorded config Call state)
include recorded

theorem SitsIn.oneSlot {other : Nat × Nat} (here : SitsIn state.session slot token)
    (there : SitsIn state.session other token) :
    slot = other := by
  obtain ⟨place, segment, step, sits⟩ := here
  obtain ⟨place', segment', step', sits'⟩ := there
  have same : step = step' :=
    recorded.eq_of_stepId sits.recorded sits'.recorded (sits.stepId.trans sits'.stepId.symm)
  subst same
  have samePlace : (slot.1, place) = (other.1, place') :=
    place_unique recorded.segments_sorted stepBefore_irrefl sits.block sits.atPlace sits'.block
      sits'.atPlace
  simp only [Prod.mk.injEq] at samePlace
  refine Prod.ext samePlace.1 ?_
  rw [sits.position, sits'.position]

theorem WellRecorded.tokens_trichotomy {later : StepId × Nat}
    (generated : Generated state.session token) (generatedLater : Generated state.session later) :
    tokenBefore state.session token later ∨ token = later ∨
      tokenBefore state.session later token := by
  obtain ⟨step, stepIn, stepId, _inside⟩ := generated
  obtain ⟨step', stepIn', stepId', _inside'⟩ := generatedLater
  rcases Nat.lt_trichotomy step.lineageIndex step'.lineageIndex with less | sameLineage | more
  · exact .inl ⟨step, stepIn, step', stepIn', stepId, stepId', .inl (.inl less)⟩
  · rcases Nat.lt_trichotomy step.stepId step'.stepId with less | sameStep | more
    · exact .inl ⟨step, stepIn, step', stepIn', stepId, stepId',
        .inl (.inr ⟨sameLineage, less⟩)⟩
    · have equal := recorded.eq_of_stepId stepIn stepIn' sameStep
      rcases Nat.lt_trichotomy token.2 later.2 with less | sameIndex | more
      · exact .inl ⟨step, stepIn, step', stepIn', stepId, stepId', .inr ⟨equal, less⟩⟩
      · refine .inr (.inl (Prod.ext ?_ sameIndex))
        rw [← stepId, ← stepId', equal]
      · exact .inr (.inr ⟨step', stepIn', step, stepIn, stepId', stepId,
          .inr ⟨equal.symm, more⟩⟩)
    · exact .inr (.inr ⟨step', stepIn', step, stepIn, stepId', stepId,
        .inl (.inr ⟨sameLineage.symm, more⟩)⟩)
  · exact .inr (.inr ⟨step', stepIn', step, stepIn, stepId', stepId, .inl (.inl more)⟩)

theorem WellRecorded.sitsIn_of_generated (generated : Generated state.session token) :
    ∃ slot, SitsIn state.session slot token := by
  obtain ⟨step, stepIn, stepId, inside⟩ := generated
  obtain ⟨segment, member, inSegment⟩ := recorded.mem_segment stepIn
  obtain ⟨index, segmentHere⟩ := mem_iff_getElem?.mp member
  obtain ⟨place, stepHere⟩ := mem_iff_getElem?.mp inSegment
  exact ⟨(index, step.promptTokenIds.length + token.2), place, segment, step,
    { inSegment := segmentHere
      atPlace := stepHere
      stepId := stepId
      index := inside
      position := rfl }⟩

end

theorem SitsIn.generated (sitsIn : SitsIn session slot token) : Generated session token := by
  obtain ⟨place, segment, step, sits⟩ := sitsIn
  exact ⟨step, sits.recorded, sits.stepId, sits.index⟩

section Records

variable {instanceId : Option String} {lineages timeline : List (SegmentRecord Message Tool)}

section

variable (tito : config.tokenBuildMode = .tito)
include tito

section

variable (recorded : WellRecorded config Call state)
include recorded

theorem Published.trainable_iff (published : Published config state instanceId lineages timeline)
    (slot : Nat × Nat) :
    Trainable lineages slot ↔ ∃ token, SitsIn state.session slot token := by
  constructor
  · rintro ⟨record, here, one⟩
    obtain ⟨segment, segmentHere, fits⟩ := published.getElem?_lineages here
    obtain ⟨baseStep, logprobs, shape⟩ := fits.built
    have member := mem_of_getElem? segmentHere
    have mask : record.fullLossMask = segment.steps.flatMap StepRecord.concatResponseMask := by
      rw [shape]
      rfl
    rw [mask, recorded.mask_one_iff tito member] at one
    obtain ⟨before, step, after, index, split, inside, position⟩ := one
    refine ⟨(step.stepId, index), before.length, segment, step,
      { inSegment := segmentHere
        atPlace := ?_
        stepId := rfl
        index := inside
        position := position }⟩
    rw [split, getElem?_append_right (Nat.le_refl _), Nat.sub_self]
    rfl
  · rintro ⟨token, place, segment, step, sits⟩
    obtain ⟨record, here, fits⟩ := published.lineages_getElem? sits.inSegment
    obtain ⟨baseStep, logprobs, shape⟩ := fits.built
    refine ⟨record, here, ?_⟩
    have mask : record.fullLossMask = segment.steps.flatMap StepRecord.concatResponseMask := by
      rw [shape]
      rfl
    rw [mask, recorded.mask_one_iff tito sits.member]
    exact ⟨_, step, _, token.2, split_at sits.atPlace, sits.index, sits.position⟩

theorem Published.carries (published : Published config state instanceId lineages timeline)
    {slot : Nat × Nat} {token : StepId × Nat} (sitsIn : SitsIn state.session slot token) :
    Carries state lineages slot token := by
  obtain ⟨place, segment, step, sits⟩ := sitsIn
  obtain ⟨record, here, fits⟩ := published.lineages_getElem? sits.inSegment
  obtain ⟨baseStep, field, shape⟩ := fits.built
  obtain ⟨delta, logprobs, arrays⟩ := recorded.stepShape tito sits.recorded
  have split := split_at sits.atPlace
  have stream := recorded.segment_stream tito sits.member split
  have prompt := recorded.prompt_position tito sits.member split arrays
  have inside := sits.index
  have position := sits.position
  have listed : ∀ other ∈ segment.steps.take place, other ∈ state.session.steps :=
    fun other inTake => segment_steps_recorded sits.member (mem_of_mem_take inTake)
  have tokens : record.tokens = step.promptTokenIds ++ (step.responseTokenIds ++
      (segment.steps.drop (place + 1)).flatMap StepRecord.concatTokenIds) := by
    have whole : record.tokens = segment.steps.flatMap StepRecord.concatTokenIds := by
      rw [shape]
      rfl
    have pieces := congrArg (List.flatMap StepRecord.concatTokenIds) split
    rw [append_cons, flatMap_append, stream, append_assoc] at pieces
    exact whole.trans pieces
  have normalizedHere : token.2 <
      (normalizeLogprobsToLength logprobs step.responseTokenIds.length).1.length := by
    rw [normalizeLogprobsToLength_length]
    exact inside
  refine
    { holds := ⟨record, step, step.responseTokenIds[token.2], logprobs, _, here, sits.recorded,
      sits.stepId, getElem?_eq_getElem inside, ?_, ?_, arrays.response,
      getElem?_eq_getElem normalizedHere, ?_⟩ }
  · rw [tokens, position, getElem?_append_right (by omega), Nat.add_sub_cancel_left,
      getElem?_append_left inside]
    exact getElem?_eq_getElem inside
  · rw [tokens, position, take_length_add_append, take_append_of_le_length (by omega)]
  · -- The earlier steps' columns fill the positions before the delta.
    have columns := recorded.length_stored tito listed
    have stored : storedLogprobs state.queue step = List.replicate delta.length 0 ++
        (normalizeLogprobsToLength logprobs step.responseTokenIds.length).1 := by
      unfold storedLogprobs
      rw [arrays.concat]
      rfl
    rw [fits.logprobs]
    refine (getElem?_flatMap _ _ _ _).mpr ⟨_, step, _, delta.length + token.2, split, ?_, ?_⟩
    · rw [stored, getElem?_append_right (by simp), length_replicate,
        Nat.add_sub_cancel_left]
      exact getElem?_eq_getElem normalizedHere
    · have sizes := congrArg List.length prompt
      rw [length_append] at sizes
      omega

theorem Published.trainedOnce (published : Published config state instanceId lineages timeline) :
    TrainedOnce state lineages := by
  constructor
  · intro index record here
    obtain ⟨segment, segmentHere, fits⟩ := published.getElem?_lineages here
    obtain ⟨baseStep, logprobs, rfl⟩ := fits.built
    have member := mem_of_getElem? segmentHere
    refine ⟨rfl, recorded.length_masks tito (fun step inside =>
      segment_steps_recorded member inside), fun value inMask => ?_⟩
    obtain ⟨step, inside, inStep⟩ := mem_flatMap.mp inMask
    obtain ⟨delta, columns, arrays⟩ :=
      recorded.stepShape tito (segment_steps_recorded member inside)
    rw [arrays.mask, mem_append] at inStep
    rcases inStep with zero | one
    · exact .inl (eq_of_mem_replicate zero)
    · exact .inr (eq_of_mem_replicate one)
  · have earlierIrreflexive : ∀ slot : Nat × Nat, ¬ Earlier slot slot := by
      rintro slot (impossible | ⟨_, impossible⟩)
      · exact absurd impossible (Nat.lt_irrefl _)
      · exact absurd impossible (Nat.lt_irrefl _)
    have earlierAsymmetric : ∀ slot other : Nat × Nat,
        Earlier slot other → ¬ Earlier other slot := by
      intro slot other before after
      unfold Earlier at before after
      omega
    have covered : ∀ slot ∈ {slot | Trainable lineages slot},
        ∃ token ∈ {token | Generated state.session token}, SitsIn state.session slot token := by
      intro slot trainable
      obtain ⟨token, sitsIn⟩ := (published.trainable_iff tito recorded slot).mp trainable
      exact ⟨token, sitsIn.generated, sitsIn⟩
    have placed : ∀ token ∈ {token | Generated state.session token},
        ∃ slot ∈ {slot | Trainable lineages slot}, SitsIn state.session slot token := by
      intro token generated
      obtain ⟨slot, sitsIn⟩ := recorded.sitsIn_of_generated generated
      exact ⟨slot, (published.trainable_iff tito recorded slot).mpr ⟨token, sitsIn⟩, sitsIn⟩
    obtain ⟨origin, bijective, sits, increasing⟩ := exists_increasing_bijection (0, 0) covered
      placed (fun _ _ _ here there => SitsIn.oneSlot recorded here there)
      (fun _ _ _ _ here there before => SitsIn.carried tito recorded here there before)
      (fun _ generated _ generatedLater =>
        recorded.tokens_trichotomy generated generatedLater)
      earlierIrreflexive earlierAsymmetric
    refine ⟨origin, bijective, fun slot trainable => ?_, fun first second here there => ?_⟩
    · exact published.carries tito recorded (sits slot trainable)
    · exact increasing first here second there

end

end

end Records

/-- Finalizing any served tito session trains every generated token exactly once, under its
own id and logprob, in the order of the lineage view. -/
theorem every_token_trained_once [BEq Message] {format : ChatFormat Message Tool Call}
    (tito : config.tokenBuildMode = .tito) (sessionId instanceId : String) (now : ℚ)
    (events : List (ChatEvent Message Tool Call)) (finalInstanceId : Option String)
    (nonempty : (Runs.run (serve config format)
      (ProxyState.initial sessionId instanceId now) events).session.steps ≠ []) :
    ∃ records, finalizeSession config
        (Runs.run (serve config format) (ProxyState.initial sessionId instanceId now)
          events).session finalInstanceId = .ok records ∧
      TrainedOnce (Runs.run (serve config format) (ProxyState.initial sessionId instanceId now)
        events) (ofView .lineage records) := by
  have recorded : WellRecorded config Call
      (Runs.run (serve config format) (ProxyState.initial sessionId instanceId now) events) :=
    wellRecorded_run sessionId instanceId now events
  obtain ⟨lineages, timeline, finalized, published⟩ :=
    recorded.finalizeSession tito nonempty finalInstanceId
  refine ⟨lineages ++ timeline, finalized, ?_⟩
  rw [published.ofView_lineage]
  exact published.trainedOnce tito recorded

theorem every_token_trained_once_followUp :
    ∃ records, finalizeSession PlainFormat.config
        (Runs.run (serve PlainFormat.config PlainFormat.format) PlainFormat.start
          followUp).session none = .ok records ∧
      TrainedOnce (Runs.run (serve PlainFormat.config PlainFormat.format) PlainFormat.start
        followUp) (ofView .lineage records) := by
  have recordedBoth : (Runs.run (serve PlainFormat.config PlainFormat.format) PlainFormat.start
      followUp).session.steps.length = 2 := by
    decide +kernel
  refine every_token_trained_once rfl "session" "instance" 0 followUp none (fun empty => ?_)
  have none := congrArg List.length empty
  rw [length_nil] at none
  exact absurd (recordedBoth.symm.trans none) (by decide)

end Dressage.Proxy

/-
The segment that stands for a whole trajectory.

Segment indices follow the order lineages were opened in, so the anchor record holds the
session's last step exactly when no step was recorded in a lineage opened after the one the
session ended in.
-/

import Dressage.Proxy.SegmentOrder

namespace Dressage.Proxy

open Lib Lib.Ledger List

variable {Message Tool Call : Type} {config : ProxyConfig} {state : ProxyState Message Tool}

/-- `max(segments, key=segment_index)`. -/
def Anchor (records : List (SegmentRecord Message Tool)) (record : SegmentRecord Message Tool) :
    Prop :=
  record ∈ records ∧ ∀ other ∈ records, other.segmentIndex ≤ record.segmentIndex

structure AnchorTerminal (session : Session Message Tool)
    (records : List (SegmentRecord Message Tool)) : Prop where
  exists_anchor : ∃ record, Anchor records record
  holds : ∀ record, Anchor records record → ∀ last, session.steps.getLast? = some last →
    last.stepId ∈ record.extraInfo.stepIds

def EndsInYoungest (session : Session Message Tool) : Prop :=
  ∀ last, session.steps.getLast? = some last →
    ∀ step ∈ session.steps, step.lineageIndex ≤ last.lineageIndex

section

variable (recorded : WellRecorded config Call state)
include recorded

theorem WellRecorded.stepId_le_last {last : StepRecord Message Tool}
    (isLast : state.session.steps.getLast? = some last) {step : StepRecord Message Tool}
    (member : step ∈ state.session.steps) :
    step.stepId ≤ last.stepId := by
  obtain ⟨before, whole⟩ := getLast?_eq_some_iff.mp isLast
  have increasing := recorded.increasing
  rw [whole, pairwise_append] at increasing
  rw [whole, mem_append, mem_singleton] at member
  rcases member with early | rfl
  · exact Nat.le_of_lt (increasing.2.2 step early last (mem_singleton_self last))
  · exact Nat.le_refl _

theorem WellRecorded.segment_lineageIndex {segment : Segment Message Tool}
    (member : segment ∈ splitSessionIntoLineageSegments state.session)
    {first second : StepRecord Message Tool} (firstIn : first ∈ segment.steps)
    (secondIn : second ∈ segment.steps) : first.lineageIndex = second.lineageIndex := by
  have lineageOf : ∀ step ∈ segment.steps, step.lineageIndex + 1 = segment.lineageId := by
    intro step inside
    obtain ⟨before, after, here⟩ := append_of_mem inside
    obtain ⟨past, later, _split, sameLineage, _opened⟩ := segment_step_split member here
    rw [← sameLineage]
    exact (recorded.placed step (segment_steps_recorded member inside)).1.symm
  exact Nat.succ.inj ((lineageOf first firstIn).trans (lineageOf second secondIn).symm)

theorem WellRecorded.stepBefore_of_segments {early late : Nat} {first second : Segment Message Tool}
    (firstHere : (splitSessionIntoLineageSegments state.session)[early]? = some first)
    (secondHere : (splitSessionIntoLineageSegments state.session)[late]? = some second)
    (before : early < late) {step other : StepRecord Message Tool} (stepIn : step ∈ first.steps)
    (otherIn : other ∈ second.steps) : stepBefore step other := by
  obtain ⟨place, atPlace⟩ := mem_iff_getElem?.mp stepIn
  obtain ⟨place', atPlace'⟩ := mem_iff_getElem?.mp otherIn
  have block : ((splitSessionIntoLineageSegments state.session).map Segment.steps)[early]? =
      some first.steps := by
    rw [getElem?_map, firstHere]
    rfl
  have block' : ((splitSessionIntoLineageSegments state.session).map Segment.steps)[late]? =
      some second.steps := by
    rw [getElem?_map, secondHere]
    rfl
  have earlier : Earlier (early, place) (late, place') := .inl before
  exact below_of_earlier recorded.segments_sorted block atPlace block' atPlace' earlier

theorem WellRecorded.last_mem_iff {segment : Segment Message Tool} {final : Nat}
    (here : (splitSessionIntoLineageSegments state.session)[final]? = some segment)
    (highest : (splitSessionIntoLineageSegments state.session).length = final + 1)
    {last : StepRecord Message Tool} (isLast : state.session.steps.getLast? = some last) :
    last ∈ segment.steps ↔ ∀ step ∈ state.session.steps, step.lineageIndex ≤ last.lineageIndex := by
  have member := mem_of_getElem? here
  have placeOf : ∀ step ∈ state.session.steps, ∃ index found,
      (splitSessionIntoLineageSegments state.session)[index]? = some found ∧
        step ∈ found.steps ∧ index ≤ final := by
    intro step inSteps
    obtain ⟨found, inSegments, inside⟩ := recorded.mem_segment inSteps
    obtain ⟨index, atIndex⟩ := mem_iff_getElem?.mp inSegments
    obtain ⟨bound, _⟩ := List.getElem_of_getElem? atIndex
    exact ⟨index, found, atIndex, inside, by omega⟩
  constructor
  · intro inSegment step inSteps
    obtain ⟨index, found, atIndex, inside, bound⟩ := placeOf step inSteps
    rcases Nat.lt_or_eq_of_le bound with before | same
    · rcases recorded.stepBefore_of_segments atIndex here before inside inSegment with
        less | ⟨equal, _⟩
      · exact Nat.le_of_lt less
      · exact Nat.le_of_eq equal
    · rw [same, here] at atIndex
      cases atIndex
      exact Nat.le_of_eq (recorded.segment_lineageIndex member inside inSegment)
  · intro youngest
    obtain ⟨index, found, atIndex, inside, bound⟩ := placeOf last (mem_of_getLast? isLast)
    rcases Nat.lt_or_eq_of_le bound with before | same
    · -- A later segment would have a step of the same lineage recorded after the last one.
      obtain ⟨other, otherIn⟩ := exists_mem_of_ne_nil _ (segment_steps_ne_nil member)
      have otherRecorded := segment_steps_recorded member otherIn
      rcases recorded.stepBefore_of_segments atIndex here before inside otherIn with
        less | ⟨_, later⟩
      · exact absurd (youngest other otherRecorded) (Nat.not_le_of_lt less)
      · exact absurd (recorded.stepId_le_last isLast otherRecorded) (Nat.not_le_of_lt later)
    · rw [same, here] at atIndex
      cases atIndex
      exact inside

end

section Records

variable {instanceId : Option String} {lineages timeline : List (SegmentRecord Message Tool)}

section

variable (published : Published config state instanceId lineages timeline)
include published

theorem Published.segmentIndex {index : Nat} {record : SegmentRecord Message Tool}
    (here : lineages[index]? = some record) :
    record.segmentIndex = index := by
  obtain ⟨segment, _segmentHere, fits⟩ := published.getElem?_lineages here
  obtain ⟨baseStep, logprobs, rfl⟩ := fits.built
  rfl

theorem Published.length_lineages :
    lineages.length = (splitSessionIntoLineageSegments state.session).length := by
  have sizes := published.lineages.length_eq
  rw [length_zipIdx] at sizes
  exact sizes.symm

theorem Published.anchor_iff {final : Nat} (highest : lineages.length = final + 1)
    (record : SegmentRecord Message Tool) :
    Anchor lineages record ↔ lineages[final]? = some record := by
  have bound : final < lineages.length := by omega
  constructor
  · rintro ⟨member, maximal⟩
    obtain ⟨index, here⟩ := mem_iff_getElem?.mp member
    obtain ⟨inside, _⟩ := List.getElem_of_getElem? here
    have atFinal : lineages[final]? = some lineages[final] := getElem?_eq_getElem bound
    have above := maximal lineages[final] (getElem_mem bound)
    rw [published.segmentIndex here, published.segmentIndex atFinal] at above
    have same : index = final := by omega
    rw [← same]
    exact here
  · intro here
    refine ⟨mem_of_getElem? here, fun other member => ?_⟩
    obtain ⟨index, otherHere⟩ := mem_iff_getElem?.mp member
    obtain ⟨inside, _⟩ := List.getElem_of_getElem? otherHere
    rw [published.segmentIndex here, published.segmentIndex otherHere]
    omega

end

theorem Published.anchorTerminal_iff (recorded : WellRecorded config Call state)
    (nonempty : state.session.steps ≠ [])
    (published : Published config state instanceId lineages timeline) :
    AnchorTerminal state.session lineages ↔ EndsInYoungest state.session := by
  obtain ⟨last, isLast⟩ : ∃ last, state.session.steps.getLast? = some last :=
    ⟨_, getLast?_eq_some_getLast nonempty⟩
  obtain ⟨some', inSegments, _inside⟩ := recorded.mem_segment (mem_of_getLast? isLast)
  have positive := length_pos_of_mem inSegments
  obtain ⟨final, highest⟩ : ∃ final,
      (splitSessionIntoLineageSegments state.session).length = final + 1 :=
    ⟨_, (Nat.succ_pred_eq_of_pos positive).symm⟩
  have bound : final < (splitSessionIntoLineageSegments state.session).length := by omega
  have segmentHere := getElem?_eq_getElem bound
  obtain ⟨record, recordHere, fits⟩ := published.lineages_getElem? segmentHere
  obtain ⟨baseStep, logprobs, shape⟩ := fits.built
  have isAnchor : ∀ other, Anchor lineages other ↔ other = record := by
    intro other
    rw [published.anchor_iff (published.length_lineages.trans highest) other, recordHere,
      Option.some_inj]
    exact eq_comm
  have stepIds : last.stepId ∈ record.extraInfo.stepIds ↔
      last ∈ (splitSessionIntoLineageSegments state.session)[final].steps := by
    have listed : record.extraInfo.stepIds =
        (splitSessionIntoLineageSegments state.session)[final].steps.map StepRecord.stepId := by
      rw [shape]
      rfl
    rw [listed, mem_map]
    constructor
    · rintro ⟨step, inside, same⟩
      have recordedStep := segment_steps_recorded (getElem_mem bound) inside
      rw [← recorded.eq_of_stepId recordedStep (mem_of_getLast? isLast) same]
      exact inside
    · exact fun inside => ⟨last, inside, rfl⟩
  have holdsLast := recorded.last_mem_iff segmentHere highest isLast
  constructor
  · intro terminal other isOther
    rw [isLast] at isOther
    cases isOther
    exact holdsLast.mp (stepIds.mp (terminal.holds record ((isAnchor record).mpr rfl) last isLast))
  · intro youngest
    refine
      { exists_anchor := ⟨record, (isAnchor record).mpr rfl⟩
        holds := fun other anchor lastStep isOther => ?_ }
    rw [(isAnchor other).mp anchor]
    rw [isLast] at isOther
    cases isOther
    exact stepIds.mpr (holdsLast.mpr (youngest last isLast))

end Records

/-- In every served tito session, the anchor holds the last recorded step if and only if the
session ended in the youngest lineage that has steps. -/
theorem anchor_terminal_iff [BEq Message] {format : ChatFormat Message Tool Call}
    (tito : config.tokenBuildMode = .tito) (sessionId instanceId : String) (now : ℚ)
    (events : List (ChatEvent Message Tool Call)) (finalInstanceId : Option String)
    (nonempty : (Runs.run (serve config format)
      (ProxyState.initial sessionId instanceId now) events).session.steps ≠ []) :
    ∃ records, finalizeSession config
        (Runs.run (serve config format) (ProxyState.initial sessionId instanceId now)
          events).session finalInstanceId = .ok records ∧
      (AnchorTerminal (Runs.run (serve config format)
          (ProxyState.initial sessionId instanceId now) events).session (ofView .lineage records) ↔
        EndsInYoungest (Runs.run (serve config format)
          (ProxyState.initial sessionId instanceId now) events).session) := by
  have recorded : WellRecorded config Call
      (Runs.run (serve config format) (ProxyState.initial sessionId instanceId now) events) :=
    wellRecorded_run sessionId instanceId now events
  obtain ⟨lineages, timeline, finalized, published⟩ :=
    recorded.finalizeSession tito nonempty finalInstanceId
  refine ⟨lineages ++ timeline, finalized, ?_⟩
  rw [published.ofView_lineage]
  exact published.anchorTerminal_iff recorded nonempty

theorem anchor_terminal_iff_followUp :
    ∃ records, finalizeSession PlainFormat.config
        (Runs.run (serve PlainFormat.config PlainFormat.format) PlainFormat.start
          followUp).session none = .ok records ∧
      AnchorTerminal (Runs.run (serve PlainFormat.config PlainFormat.format) PlainFormat.start
        followUp).session (ofView .lineage records) := by
  have oneLineage : (Runs.run (serve PlainFormat.config PlainFormat.format) PlainFormat.start
      followUp).session.steps.map StepRecord.lineageIndex = [0, 0] := by
    decide +kernel
  have lineageOf : ∀ step ∈ (Runs.run (serve PlainFormat.config PlainFormat.format)
      PlainFormat.start followUp).session.steps, step.lineageIndex = 0 := by
    intro step member
    have listed := mem_map_of_mem (f := StepRecord.lineageIndex) member
    rw [oneLineage] at listed
    simpa using listed
  have nonempty : (Runs.run (serve PlainFormat.config PlainFormat.format) PlainFormat.start
      followUp).session.steps ≠ [] := by
    intro empty
    rw [empty] at oneLineage
    cases oneLineage
  obtain ⟨records, finalized, exactly⟩ :=
    anchor_terminal_iff rfl "session" "instance" 0 followUp none nonempty
  refine ⟨records, finalized, exactly.mpr (fun last isLast step member => ?_)⟩
  exact Nat.le_of_eq ((lineageOf step member).trans (lineageOf last (mem_of_getLast? isLast)).symm)

/-- The main agent asks, a subagent asks something of its own, and the main agent goes on. -/
def mainSubMain : List (ChatEvent PlainFormat.PlainMessage String String) :=
  [PlainFormat.asked [⟨"user", "hi"⟩] "yo" "v1",
    PlainFormat.asked [⟨"user", "sub"⟩] "x" "v1",
    PlainFormat.asked [⟨"user", "hi"⟩, ⟨"assistant", "yo"⟩, ⟨"user", "ok"⟩] "k" "v1"]

def numberedSteps {Message Tool : Type}
    (finalized : Except String (List (SegmentRecord Message Tool))) : List (Nat × List StepId) :=
  match finalized with
  | .error _ => []
  | .ok records =>
    (ofView .lineage records).map (fun record => (record.segmentIndex, record.extraInfo.stepIds))

theorem main_sub_main_anchor :
    ∃ records, finalizeSession PlainFormat.config
        (Runs.run (serve PlainFormat.config PlainFormat.format) PlainFormat.start
          mainSubMain).session none = .ok records ∧
      ¬ AnchorTerminal (Runs.run (serve PlainFormat.config PlainFormat.format) PlainFormat.start
        mainSubMain).session (ofView .lineage records) := by
  have numbered : numberedSteps (finalizeSession PlainFormat.config
      (Runs.run (serve PlainFormat.config PlainFormat.format) PlainFormat.start
        mainSubMain).session none) = [(0, [1, 3]), (1, [2])] := by
    decide +kernel
  have lastIs : ((Runs.run (serve PlainFormat.config PlainFormat.format) PlainFormat.start
      mainSubMain).session.steps.getLast?).map StepRecord.stepId = some 3 := by
    decide +kernel
  cases finalized : finalizeSession PlainFormat.config
    (Runs.run (serve PlainFormat.config PlainFormat.format) PlainFormat.start
      mainSubMain).session none with
  | error message =>
    rw [finalized] at numbered
    cases numbered
  | ok records =>
    refine ⟨records, rfl, fun terminal => ?_⟩
    rw [finalized] at numbered
    obtain ⟨last, isLast, lastId⟩ := Option.map_eq_some_iff.mp lastIs
    obtain ⟨record, anchor⟩ := terminal.exists_anchor
    have holds := terminal.holds record anchor last isLast
    have indices : ∀ other ∈ ofView .lineage records,
        (other.segmentIndex, other.extraInfo.stepIds) ∈ [(0, [1, 3]), (1, [2])] := by
      intro other member
      rw [← numbered]
      exact mem_map_of_mem member
    obtain ⟨subagent, inRecords, shape⟩ : ∃ subagent ∈ ofView .lineage records,
        (subagent.segmentIndex, subagent.extraInfo.stepIds) = (1, [2]) := by
      have listed : (1, [2]) ∈ numberedSteps (Except.ok records) := by
        rw [numbered]
        exact mem_cons_of_mem _ mem_cons_self
      exact mem_map.mp listed
    have highest := anchor.2 subagent inRecords
    rw [(Prod.mk.inj shape).1] at highest
    rw [lastId] at holds
    have place := indices record anchor.1
    simp only [mem_cons, Prod.mk.injEq, not_mem_nil, or_false] at place
    rcases place with ⟨lowest, _⟩ | ⟨_, held⟩
    · rw [lowest] at highest
      exact absurd highest (by decide)
    · rw [held] at holds
      exact absurd holds (by decide)

end Dressage.Proxy

/-
Offloaded trajectories train like local ones.

A sample written from an offloaded record keeps layouts in place of columns.
Hydrating a shard of such samples gives the log-probabilities and the rows that
the samples of the twins hold, as long as the trainer replays routing at all and
the cap leaves something to train on.
-/

import Mathlib.Algebra.Order.BigOperators.Group.List
import Mathlib.Algebra.Order.Ring.Nat
import Dressage.Training.SampleTwins

namespace Dressage.Training

open Lib Transport Proxy Rollout List OrderedDict

variable {Message Tool Call : Type} {config : TrainingConfig} {args : SampleArgs}
variable {store : OrderedDict Nat StepColumns}

def wholeArrays (segment : TrainingRecord Message Tool) : SegmentArrays :=
  { tokens := segment.record.tokens
    fullLossMask := segment.record.fullLossMask
    fullLogprobs := segment.fullLogprobs
    fullVersions := segment.record.fullVersions }

/-- The checks of `_segment_arrays`. -/
structure ArraysFit (segment : TrainingRecord Message Tool) : Prop where
  mask : normalizeSegmentLossMask segment.record.fullLossMask = .ok segment.record.fullLossMask
  tokens : segment.record.tokens ≠ []
  maskLength : segment.record.tokens.length = segment.record.fullLossMask.length
  logprobs : segment.record.tokens.length = logprobsCount segment.fullLogprobs
  versions : segment.record.fullVersions.any
    (fun versions => versions.length ≠ segment.record.tokens.length) = false

theorem normalizeSegmentLossMask_ok {mask normal : List Nat}
    (ok : normalizeSegmentLossMask mask = .ok normal) : normal = mask := by
  unfold normalizeSegmentLossMask at ok
  split at ok
  · cases ok
    rfl
  · cases ok

theorem segmentArrays_iff {segment : TrainingRecord Message Tool} {whole : SegmentArrays} :
    segmentArrays segment = .ok whole ↔ ArraysFit segment ∧ whole = wholeArrays segment := by
  unfold segmentArrays
  dsimp only
  rw [Effect.except_bind_eq_ok]
  constructor
  · rintro ⟨mask, normal, rest⟩
    cases normalizeSegmentLossMask_ok normal
    split at rest
    · cases rest
    · next some_ =>
        split at rest
        · cases rest
        · next masked =>
            split at rest
            · cases rest
            · next counted =>
                split at rest
                · cases rest
                · next versioned =>
                    cases rest
                    refine ⟨?_, rfl⟩
                    exact
                      { mask := normal
                        tokens := some_
                        maskLength := Decidable.not_not.mp masked
                        logprobs := Decidable.not_not.mp counted
                        versions := Bool.eq_false_of_not_eq_true versioned }
  · rintro ⟨fit, rfl⟩
    refine ⟨_, fit.mask, ?_⟩
    rw [if_neg fit.tokens, if_neg (not_not_intro fit.maskLength),
      if_neg (not_not_intro fit.logprobs), if_neg (Bool.not_eq_true _ ▸ fit.versions)]
    rfl

def sampleOf (args : SampleArgs) (segment : TrainingRecord Message Tool)
    (experts : Option (List (List Int))) : TrainingSample :=
  let arrays := cappedArrays args (wholeArrays segment)
  let start := responseStart arrays
  { tokens := arrays.tokens
    responseLength := arrays.tokens.length - start
    lossMask := (trainFullLossMask segment arrays).drop start
    rolloutLogProbs := writtenLogprobs arrays
    rolloutRoutedExperts := experts
    layouts := keptLayouts arrays.fullLogprobs segment.routedExperts
    truncated := isTruncated (segmentTokenCap args) segment.record.tokens.length
    status := if segment.record.finishReason = "length" then .truncated else .completed }

structure Writes (args : SampleArgs) (segment : TrainingRecord Message Tool)
    (experts : Option (List (List Int))) : Prop where
  arrays : ArraysFit segment
  mask : (sampleOf args segment experts).lossMask.length =
    (sampleOf args segment experts).responseLength
  logprobs : (sampleOf args segment experts).rolloutLogProbs.any
    (fun values => values.length ≠ (sampleOf args segment experts).responseLength) = false
  experts : writtenExperts args segment.routedExperts (sampleOf args segment experts).tokens.length =
    .ok experts

theorem writeSampleFromSegment_iff {segment : TrainingRecord Message Tool}
    {sample : TrainingSample} :
    writeSampleFromSegment args segment = .ok sample ↔
      ∃ experts, Writes args segment experts ∧ sample = sampleOf args segment experts := by
  unfold writeSampleFromSegment
  rw [Effect.except_bind_eq_ok]
  constructor
  · rintro ⟨whole, read, rest⟩
    obtain ⟨fit, rfl⟩ := segmentArrays_iff.mp read
    dsimp only at rest
    split at rest
    · cases rest
    · next masked =>
        split at rest
        · cases rest
        · next probed =>
            obtain ⟨experts, written, made⟩ := Effect.except_bind_eq_ok.mp rest
            cases made
            refine ⟨experts, ?_, rfl⟩
            exact
              { arrays := fit
                mask := Decidable.not_not.mp masked
                logprobs := Bool.eq_false_of_not_eq_true probed
                experts := written }
  · rintro ⟨experts, writes, rfl⟩
    refine ⟨_, segmentArrays_iff.mpr ⟨writes.arrays, rfl⟩, ?_⟩
    have masked := writes.mask
    have probed := writes.logprobs
    unfold sampleOf at masked probed
    dsimp only at masked probed ⊢
    rw [if_neg (not_not_intro masked), if_neg (Bool.not_eq_true _ ▸ probed)]
    exact Effect.except_bind_eq_ok.mpr ⟨experts, writes.experts, rfl⟩

variable {logprobs : RecordField (List Logprob)} {plan : Layout}
variable {remote twin : TrainingRecord Message Tool} {experts : Option (List (List Int))}

theorem logprobLayouts_get? {field : String}
    (found : (logprobLayouts logprobs).get? field = some plan) :
    field = plan.logicalField ∧ logprobs = .layout plan := by
  cases logprobs with
  | values values => cases found
  | layout other =>
    rw [logprobLayouts, get?_set] at found
    split at found
    · next same =>
        cases found
        exact ⟨same, rfl⟩
    · cases found

theorem keptLayouts_get? {experts : Option (RecordField (List ExpertChunk))} {field : String}
    (found : (keptLayouts logprobs experts).get? field = some plan) :
    field = plan.logicalField ∧ (logprobs = .layout plan ∨ experts = some (.layout plan)) := by
  unfold keptLayouts at found
  split at found
  · next other =>
      rw [get?_set] at found
      split at found
      · next same =>
          cases found
          exact ⟨same, .inr rfl⟩
      · obtain ⟨same, isLayout⟩ := logprobLayouts_get? found
        exact ⟨same, .inl isLayout⟩
  · obtain ⟨same, isLayout⟩ := logprobLayouts_get? found
    exact ⟨same, .inl isLayout⟩

theorem decodeLayoutBundle_keptLayouts (logprobs : RecordField (List Logprob))
    (experts : Option (RecordField (List ExpertChunk))) :
    decodeLayoutBundle (keptLayouts logprobs experts) = .ok (keptLayouts logprobs experts) := by
  have named : (keptLayouts logprobs experts).entries.any
      (fun entry => entry.2.logicalField ≠ entry.1) = false := by
    rw [any_eq_false]
    intro entry member
    have named := (keptLayouts_get? (get?_of_mem member)).1
    simpa using named.symm
  unfold decodeLayoutBundle
  rw [named]
  rfl

theorem keptLayouts_logprobs {experts : Option (RecordField (List ExpertChunk))}
    (named : plan.logicalField = fullLogprobsField)
    (apart : ∀ other, experts = some (.layout other) → other.logicalField = routedExpertsField) :
    (keptLayouts (.layout plan) experts).get? fullLogprobsField = some plan := by
  have own : (logprobLayouts (.layout plan)).get? fullLogprobsField = some plan := by
    rw [logprobLayouts, named, get?_set_self]
  unfold keptLayouts
  split
  · next other =>
      have different : fullLogprobsField ≠ other.logicalField := by
        rw [apart other rfl]
        decide
      rw [get?_set_of_ne _ _ different]
      exact own
  · exact own

theorem keptLayouts_experts (named : plan.logicalField = routedExpertsField) :
    (keptLayouts logprobs (some (.layout plan))).get? routedExpertsField = some plan := by
  rw [keptLayouts, named, get?_set_self]

theorem sampleOf_congr {remote twin : TrainingRecord Message Tool}
    (record : twin.record = remote.record) (first second : Option (List (List Int))) :
    (sampleOf args remote first).tokens = (sampleOf args twin second).tokens ∧
      (sampleOf args remote first).responseLength = (sampleOf args twin second).responseLength ∧
      (sampleOf args remote first).lossMask = (sampleOf args twin second).lossMask := by
  simp only [sampleOf, cappedArrays, wholeArrays, trainFullLossMask, responseStart, record,
    and_self]

theorem Twins.arraysFit (pair : Twins config store remote twin) (fit : ArraysFit twin) :
    ArraysFit remote := by
  have counted : remote.record.tokens.length = logprobsCount remote.fullLogprobs := by
    have kinds := pair.logprobs
    split at kinds
    · obtain ⟨refs, lengths, start, isLayout, _reads, _values⟩ := kinds
      rw [isLayout]
      rfl
    · rw [kinds.1, ← fit.logprobs, pair.record]
  have mask := fit.mask
  have tokens := fit.tokens
  have maskLength := fit.maskLength
  have versions := fit.versions
  rw [pair.record] at mask tokens maskLength versions
  exact
    { mask := mask
      tokens := tokens
      maskLength := maskLength
      logprobs := counted
      versions := versions }

def sentExperts (config : TrainingConfig) (experts : Option (List (List Int))) :
    Option (List (List Int)) :=
  if config.offloadsRoutedExperts then none else experts

theorem Twins.writes (pair : Twins config store remote twin) (writes : Writes args twin experts) :
    Writes args remote (sentExperts config experts) := by
  obtain ⟨tokens, responseLength, lossMask⟩ :=
    @sampleOf_congr Message Tool args remote twin pair.record (sentExperts config experts) experts
  refine
    { arrays := pair.arraysFit writes.arrays
      mask := by
        rw [lossMask, responseLength]
        exact writes.mask
      logprobs := ?_
      experts := ?_ }
  · have kinds := pair.logprobs
    split at kinds
    · obtain ⟨refs, lengths, start, isLayout, _reads, _values⟩ := kinds
      have absent : (sampleOf args remote (sentExperts config experts)).rolloutLogProbs =
          none := by
        simp only [sampleOf, cappedArrays, wholeArrays, isLayout, cappedLogprobs, writtenLogprobs]
      rw [absent]
      rfl
    · have same : (sampleOf args remote (sentExperts config experts)).rolloutLogProbs =
          (sampleOf args twin experts).rolloutLogProbs := by
        simp only [sampleOf, cappedArrays, wholeArrays, kinds.1, writtenLogprobs, responseStart,
          pair.record]
      rw [same, responseLength]
      exact writes.logprobs
  · have kinds := pair.experts
    unfold sentExperts
    split at kinds
    · next offloaded =>
        obtain ⟨refs, lengths, isLayout, _⟩ := kinds
        rw [if_pos offloaded, isLayout]
        rfl
    · next local_ =>
        have written := writes.experts
        have sizes := tokens
        unfold sentExperts at sizes
        rw [if_neg local_] at sizes ⊢
        rw [kinds.1, sizes]
        exact written

theorem responseStart_le {arrays : SegmentArrays}
    (sizes : arrays.fullLossMask.length = arrays.tokens.length) :
    responseStart arrays ≤ arrays.tokens.length := by
  unfold responseStart
  cases found : arrays.fullLossMask.findIdx? (fun value => value = 1) with
  | none => exact Nat.le_refl _
  | some index =>
    rw [Option.getD_some, ← sizes]
    exact Nat.le_of_lt (findIdx?_eq_some_iff_findIdx_eq.mp found).1

theorem length_cappedMask {segment : TrainingRecord Message Tool} (fit : ArraysFit segment) :
    (cappedArrays args (wholeArrays segment)).fullLossMask.length =
      (cappedArrays args (wholeArrays segment)).tokens.length := by
  change (capped (segmentTokenCap args) segment.record.tokens.length
    segment.record.fullLossMask).length =
      (capped (segmentTokenCap args) segment.record.tokens.length segment.record.tokens).length
  rw [capped_eq_take (segmentTokenCap args) fit.maskLength.symm, length_take, ← fit.maskLength]
  exact Nat.min_eq_left (length_capped_le _ _ _)

section

variable (pair : Twins config store remote twin)
include pair

theorem Twins.logprobsLaidOut {cap : Option Int} {count : Nat}
    (isPlan : cappedLogprobs cap count remote.fullLogprobs = .layout plan) :
    config.offloadsLogprobs = true ∧
      ∃ refs lengths start,
        plan = logprobsLayout refs lengths start remote.record.tokens.length ∧
          ∀ part ∈ refs.zip lengths,
            readColumn store part.1 = some (.logprobs (logprobsAt store part.1)) := by
  have kinds := pair.logprobs
  split at kinds
  · next offloaded =>
      obtain ⟨refs, lengths, start, isLayout, reads, _values⟩ := kinds
      rw [isLayout, cappedLogprobs] at isPlan
      cases isPlan
      exact ⟨offloaded, refs, lengths, start, rfl, reads⟩
  · obtain ⟨values, isValues⟩ := kinds.2
    rw [kinds.1, isValues] at isPlan
    cases isPlan

theorem Twins.expertsLaidOut (isPlan : remote.routedExperts = some (.layout plan)) :
    config.offloadsRoutedExperts = true ∧
      ∃ refs lengths, plan = expertsLayout refs lengths remote.record.tokens.length ∧
        ∀ part ∈ refs.zip lengths,
          readColumn store part.1 = some (.experts (expertsAt store part.1)) := by
  have kinds := pair.experts
  split at kinds
  · next offloaded =>
      obtain ⟨refs, lengths, isLayout, _aligned, reads, _twin⟩ := kinds
      rw [isLayout] at isPlan
      cases isPlan
      exact ⟨offloaded, refs, lengths, rfl, fun part member => (reads part member).1⟩
  · obtain ⟨chunks, isChunks⟩ := kinds.2
    rw [kinds.1, isChunks] at isPlan
    unfold chunksField at isPlan
    split at isPlan
    · cases isPlan
    · cases isPlan

theorem Twins.expertsNamed (isPlan : remote.routedExperts = some (.layout plan)) :
    plan.logicalField = routedExpertsField := by
  obtain ⟨_offloaded, refs, lengths, isLayout, _reads⟩ := pair.expertsLaidOut isPlan
  rw [isLayout]
  rfl

end

theorem hydrateLogprobs_layout {row : ShardRow} {column : ColumnRef → List LogprobEntry}
    {refs : List ColumnRef} {lengths : List Nat} {start count : Nat}
    (bundle : row.bundle.get? fullLogprobsField = some (logprobsLayout refs lengths start count))
    (reads : ∀ part ∈ refs.zip lengths, readColumn store part.1 = some (.logprobs (column part.1)))
    (size : (laidLogprobs column start (refs.zip lengths)).length = count)
    (shorter : row.totalLength ≤ count) :
    hydrateLogprobs (readColumn store) none row =
      .ok (((laidLogprobs column start (refs.zip lengths)).take row.totalLength).drop
        (row.totalLength - row.responseLength)) := by
  unfold hydrateLogprobs
  rw [bundle]
  dsimp only
  rw [materializeLogprobs_eq reads shorter, Fragments.fit_eq_take (by rw [size]; exact shorter)]
  change Except.ok ((((laidLogprobs column start (refs.zip lengths)).take row.totalLength).take
    row.totalLength).drop (row.totalLength - row.responseLength)) = _
  rw [take_take, Nat.min_self]

theorem Twins.hydrateLogprobs {remote twin : TrainingRecord Message Tool}
    (pair : Twins config store remote twin) {experts : Option (List (List Int))}
    (fit : ArraysFit twin) (offloaded : config.offloadsLogprobs = true) :
    ∃ values, (sampleOf args twin experts).rolloutLogProbs = some values ∧
      Training.hydrateLogprobs (readColumn store) none
        (shardRow (sampleOf args remote (sentExperts config experts))) = .ok values := by
  have kinds := pair.logprobs
  rw [if_pos offloaded] at kinds
  obtain ⟨refs, lengths, start, isLayout, reads, isValues⟩ := kinds
  have size : (laidLogprobs (logprobsAt store) start (refs.zip lengths)).length =
      twin.record.tokens.length := by
    rw [fit.logprobs, isValues]
    rfl
  have bundle : (shardRow (sampleOf args remote (sentExperts config experts))).bundle.get?
      fullLogprobsField = some (logprobsLayout refs lengths start remote.record.tokens.length) := by
    change (keptLayouts (cappedLogprobs _ _ remote.fullLogprobs) remote.routedExperts).get?
      fullLogprobsField = _
    rw [isLayout]
    exact keptLayouts_logprobs rfl (fun plan isPlan => pair.expertsNamed isPlan)
  obtain ⟨tokens, responseLength, _lossMask⟩ :=
    @sampleOf_congr Message Tool args remote twin pair.record (sentExperts config experts) experts
  have shorter : (shardRow (sampleOf args remote (sentExperts config experts))).totalLength ≤
    remote.record.tokens.length := length_capped_le _ _ _
  refine ⟨_, ?_, hydrateLogprobs_layout bundle reads (by rw [size, pair.record]) shorter⟩
  have total : (shardRow (sampleOf args remote (sentExperts config experts))).totalLength =
      (cappedArrays args (wholeArrays twin)).tokens.length := by
    change (sampleOf args remote (sentExperts config experts)).tokens.length = _
    rw [tokens]
    rfl
  have response : (shardRow (sampleOf args remote (sentExperts config experts))).responseLength =
    (cappedArrays args (wholeArrays twin)).tokens.length -
      responseStart (cappedArrays args (wholeArrays twin)) := responseLength
  have start_ : (cappedArrays args (wholeArrays twin)).tokens.length -
      ((cappedArrays args (wholeArrays twin)).tokens.length -
        responseStart (cappedArrays args (wholeArrays twin))) =
          responseStart (cappedArrays args (wholeArrays twin)) := by
    have early := responseStart_le (@length_cappedMask Message Tool args twin fit)
    omega
  rw [total, response, start_]
  have written : (cappedArrays args (wholeArrays twin)).fullLogprobs =
      .values ((laidLogprobs (logprobsAt store) start (refs.zip lengths)).take
        (cappedArrays args (wholeArrays twin)).tokens.length) := by
    change cappedLogprobs _ _ twin.fullLogprobs = _
    rw [isValues, cappedLogprobs]
    congr 1
    exact capped_eq_take (segmentTokenCap args) size
  change writtenLogprobs (cappedArrays args (wholeArrays twin)) = _
  unfold writtenLogprobs
  rw [written]

theorem readColumn_experts {ref : ColumnRef} {chunks : List ExpertChunk}
    (read : readColumn store ref = some (.experts chunks)) :
    ∃ columns, store.get? ref.key = some columns ∧ columns.routedExperts = chunks := by
  unfold readColumn at read
  cases found : store.get? ref.key with
  | none =>
    rw [found] at read
    cases read
  | some columns =>
    rw [found, Option.map_some, Option.some.injEq] at read
    refine ⟨columns, rfl, ?_⟩
    split at read
    · cases read
    · cases read
    · cases read
      rfl

theorem length_expertRows_le {parts : List (ColumnRef × Nat)}
    (reads : ∀ part ∈ parts, readColumn store part.1 = some (.experts (expertsAt store part.1)))
    (offset : Nat) :
    ((Fragments.linear offset parts).flatMap (fragmentRows store)).length ≤
      (parts.map (fun part => emittedRows (expertsAt store part.1))).sum := by
  induction parts generalizing offset with
  | nil => exact Nat.le_refl 0
  | cons part rest ih =>
    obtain ⟨columns, found, same⟩ := readColumn_experts (reads part mem_cons_self)
    have others := ih (fun other member => reads other (mem_cons_of_mem part member))
      (offset + part.2)
    have own : (fragmentRows store
        { ref := part.1
          sourceStart := 0
          targetStart := offset
          length := part.2 }).length ≤ emittedRows (expertsAt store part.1) := by
      unfold fragmentRows
      rw [found, Option.map_some, Option.getD_some, same, drop_zero, ← length_flatMap_rows]
      exact length_take_le' _ _
    rw [Fragments.linear, flatMap_cons, length_append, map_cons, sum_cons]
    exact Nat.add_le_add own others

theorem eq_of_sum_le {α : Type} {items : List α} {count length : α → Nat}
    (each : ∀ item ∈ items, count item ≤ length item)
    (together : (items.map length).sum ≤ (items.map count).sum) :
    ∀ item ∈ items, count item = length item := by
  induction items with
  | nil => intro item member; cases member
  | cons first rest ih =>
    rw [map_cons, map_cons, sum_cons, sum_cons] at together
    have here := each first mem_cons_self
    have later : (rest.map count).sum ≤ (rest.map length).sum :=
      sum_le_sum (fun item member => each item (mem_cons_of_mem first member))
    intro item member
    rcases mem_cons.mp member with rfl | inRest
    · omega
    · exact ih (fun other inside => each other (mem_cons_of_mem first inside))
        (by omega) item inRest

theorem writtenExperts_replayed {chunks : List ExpertChunk} {tokenCount : Nat}
    (replay : args.useRolloutRoutingReplay = true) (left : tokenCount ≠ 0)
    (written : writtenExperts args (chunksField chunks) tokenCount = .ok experts) :
    ∃ numLayers topk, args.numLayers = some numLayers ∧ args.moeRouterTopk = some topk ∧
      (∀ chunk ∈ chunks, chunk.data.length = chunk.rowCount * (numLayers * topk)) ∧
      experts = some ((chunks.flatMap (decodedRows (numLayers * topk))).take (tokenCount - 1)) ∧
      tokenCount - 1 ≤ emittedRows chunks := by
  unfold chunksField at written
  split at written
  · rw [writtenExperts, if_pos replay] at written
    cases written
  · rw [writtenExperts] at written
    obtain ⟨rows, extracted, rest⟩ := Effect.except_bind_eq_ok.mp written
    cases rows with
    | none =>
      rw [replay] at rest
      cases rest
    | some found =>
      cases rest
      obtain ⟨numLayers, topk, hasLayers, hasTopk, sizes, cut, enough⟩ :=
        extractRoutedExperts_some left extracted
      exact ⟨numLayers, topk, hasLayers, hasTopk, sizes, congrArg some cut, enough⟩

theorem Twins.hydrateExperts (pair : Twins config store remote twin)
    (writes : Writes args twin experts) (offloaded : config.offloadsRoutedExperts = true)
    (replay : args.useRolloutRoutingReplay = true) (left : (sampleOf args twin experts).tokens ≠ [])
    (complete : (sampleOf args twin experts).truncated = true →
      (expertRows store remote.routedExperts).length = remote.record.tokens.length - 1) :
    ∃ shape rows, expertShape args = .ok shape ∧ experts = some rows ∧
      Training.hydrateExperts (readColumn store) shape.1 shape.2
        (shardRow (sampleOf args remote (sentExperts config experts))) = .ok rows := by
  have kinds := pair.experts
  rw [if_pos offloaded] at kinds
  obtain ⟨refs, lengths, isLayout, aligned, reads, isTwin⟩ := kinds
  have nonzero : (sampleOf args twin experts).tokens.length ≠ 0 := fun empty =>
    left (length_eq_zero_iff.mp empty)
  have written := writes.experts
  rw [isTwin] at written
  obtain ⟨numLayers, topk, hasLayers, hasTopk, sizes, cut, enough⟩ :=
    writtenExperts_replayed replay nonzero written
  have emitted : emittedRows ((refs.zip lengths).flatMap (fun part => expertsAt store part.1)) =
      ((refs.zip lengths).map (fun part => emittedRows (expertsAt store part.1))).sum := by
    rw [← length_flatMap_rows, flatMap_assoc, length_flatMap]
    congr 1
    exact map_congr_left (fun part _ => length_flatMap_rows _)
  obtain ⟨tokens, _responseLength, _lossMask⟩ :=
    @sampleOf_congr Message Tool args remote twin pair.record (sentExperts config experts) experts
  -- An uncut sample needs all its rows; a cut one has them by assumption.
  have all : remote.record.tokens.length - 1 ≤
      ((refs.zip lengths).map (fun part => emittedRows (expertsAt store part.1))).sum := by
    cases truncated : (sampleOf args twin experts).truncated with
    | true =>
      rw [← complete truncated, isLayout]
      exact length_expertRows_le (fun part member => (reads part member).1) 0
    | false =>
      have whole : (sampleOf args twin experts).tokens = twin.record.tokens :=
        capped_of_not_truncated _ truncated
      rw [whole, emitted, pair.record] at enough
      exact enough
  have exactly : ∀ part ∈ refs.zip lengths, emittedRows (expertsAt store part.1) = part.2 :=
    eq_of_sum_le (fun part member => (reads part member).2) (by rw [aligned]; exact all)
  have decoded : ∀ part ∈ refs.zip lengths,
      decodeRoutedExpertsChunks (expertsAt store part.1) (numLayers * topk) =
        .ok ((expertsAt store part.1).flatMap (decodedRows (numLayers * topk))) := by
    intro part member
    apply decodeRoutedExpertsChunks_ok
    intro chunk inside
    exact sizes chunk (mem_flatMap.mpr ⟨part, member, inside⟩)
  have rowCounts : ∀ part ∈ refs.zip lengths,
      ((expertsAt store part.1).flatMap (decodedRows (numLayers * topk))).length = part.2 := by
    intro part member
    rw [length_flatMap_decodedRows]
    exact exactly part member
  have shorter : (sampleOf args twin experts).tokens.length ≤ remote.record.tokens.length := by
    rw [← tokens]
    exact length_capped_le _ _ _
  have bundle : (shardRow (sampleOf args remote (sentExperts config experts))).bundle.get?
      routedExpertsField = some (expertsLayout refs lengths remote.record.tokens.length) := by
    change (keptLayouts _ remote.routedExperts).get? routedExpertsField = _
    rw [isLayout]
    exact keptLayouts_experts rfl
  have total : (shardRow (sampleOf args remote (sentExperts config experts))).totalLength =
    (sampleOf args twin experts).tokens.length := congrArg List.length tokens
  have materialized : materializeRoutedExperts
      (expertsLayout refs lengths remote.record.tokens.length) (readColumn store)
      (sampleOf args twin experts).tokens.length numLayers topk =
        .ok (Fragments.fit (zeroRow (numLayers * topk))
          ((sampleOf args twin experts).tokens.length - 1)
          ((refs.zip lengths).flatMap fun part =>
            (expertsAt store part.1).flatMap (decodedRows (numLayers * topk)))) :=
    @materializeRoutedExperts_eq (readColumn store) (expertsAt store)
      (fun ref => (expertsAt store ref).flatMap (decodedRows (numLayers * topk))) numLayers topk
      remote.record.tokens.length refs lengths (fun part member => (reads part member).1) decoded
      rowCounts _ shorter
  refine ⟨(numLayers, topk), _, ?_, cut, ?_⟩
  · unfold expertShape
    rw [hasLayers, hasTopk]
  · unfold Training.hydrateExperts
    rw [bundle]
    dsimp only
    rw [total, materialized, ← flatMap_assoc, Fragments.fit_eq_take]
    rw [length_flatMap_decodedRows]
    exact enough

end Dressage.Training

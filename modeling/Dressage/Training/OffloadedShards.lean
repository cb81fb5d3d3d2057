/-
A shard of offloaded samples trains like the local one.

The samples of a shard are hydrated together: their references are read at once
and a field is read as soon as one sample keeps a layout for it. Sample by sample
the result is what the twins were written with.
-/

import Dressage.Training.OffloadedSamples

namespace Dressage.Training

open Lib Transport Proxy Rollout List

variable {Message Tool Call : Type} {config : TrainingConfig} {args : SampleArgs}
variable {store : OrderedDict Nat StepColumns}

structure TwinSample (Message Tool : Type) where
  remote : TrainingRecord Message Tool
  twin : TrainingRecord Message Tool
  sample : TrainingSample

def TwinSample.sent (config : TrainingConfig) (args : SampleArgs)
    (item : TwinSample Message Tool) : TrainingSample :=
  sampleOf args item.remote (sentExperts config item.sample.rolloutRoutedExperts)

structure TwinSample.Written (config : TrainingConfig) (args : SampleArgs)
    (store : OrderedDict Nat StepColumns) (item : TwinSample Message Tool) : Prop where
  twins : Twins config store item.remote item.twin
  writes : Writes args item.twin item.sample.rolloutRoutedExperts
  sample : item.sample = sampleOf args item.twin item.sample.rolloutRoutedExperts

/-- A record whose rows can be read back under the cap: the cap leaves a token, and a record that
is cut has all its rows stored. -/
structure Replayable (args : SampleArgs) (store : OrderedDict Nat StepColumns)
    (entry : TrainingRecord Message Tool) : Prop where
  left : capped (segmentTokenCap args) entry.record.tokens.length entry.record.tokens ≠ []
  complete : isTruncated (segmentTokenCap args) entry.record.tokens.length = true →
    (expertRows store entry.routedExperts).length = entry.record.tokens.length - 1

instance (args : SampleArgs) (store : OrderedDict Nat StepColumns)
    (entry : TrainingRecord Message Tool) : Decidable (Replayable args store entry) :=
  decidable_of_iff
    (capped (segmentTokenCap args) entry.record.tokens.length entry.record.tokens ≠ [] ∧
      (isTruncated (segmentTokenCap args) entry.record.tokens.length = true →
        (expertRows store entry.routedExperts).length = entry.record.tokens.length - 1))
    ⟨fun both => { left := both.1, complete := both.2 }, fun replayable =>
      ⟨replayable.left, replayable.complete⟩⟩

variable {item : TwinSample Message Tool}

theorem TwinSample.Written.sentWritten (written : item.Written config args store) :
    writeSampleFromSegment args item.remote = .ok (item.sent config args) :=
  writeSampleFromSegment_iff.mpr ⟨_, written.twins.writes written.writes, rfl⟩

theorem TwinSample.layouts_eq (item : TwinSample Message Tool) :
    (item.sent config args).layouts =
      keptLayouts (cappedLogprobs (segmentTokenCap args) item.remote.record.tokens.length
        item.remote.fullLogprobs) item.remote.routedExperts := rfl

theorem TwinSample.decoded (item : TwinSample Message Tool) :
    decodeLayoutBundle (item.sent config args).layouts = .ok (item.sent config args).layouts :=
  decodeLayoutBundle_keptLayouts _ _

section

variable (written : item.Written config args store)
include written

theorem TwinSample.Written.stored {field : String} {plan : Layout}
    (found : (item.sent config args).layouts.get? field = some plan)
    {fragment : Fragments.Fragment ColumnRef} (member : fragment ∈ plan.fragments) :
    (readColumn store fragment.ref).isSome = true := by
  rw [item.layouts_eq] at found
  rcases (keptLayouts_get? found).2 with isLogprobs | isExperts
  · obtain ⟨_offloaded, refs, lengths, start, rfl, reads⟩ := written.twins.logprobsLaidOut isLogprobs
    obtain ⟨part, inside, same, _⟩ := ref_mem_linear member
    rw [same, reads part inside]
    rfl
  · obtain ⟨_offloaded, refs, lengths, rfl, reads⟩ := written.twins.expertsLaidOut isExperts
    obtain ⟨part, inside, same, _⟩ := ref_mem_linear member
    rw [same, reads part inside]
    rfl

theorem TwinSample.Written.logprobsKept :
    fullLogprobsField ∈ (item.sent config args).layouts.keys ↔ config.offloadsLogprobs = true := by
  rw [item.layouts_eq, OrderedDict.mem_keys_iff]
  constructor
  · rintro ⟨plan, found⟩
    obtain ⟨named, isLogprobs | isExperts⟩ := keptLayouts_get? found
    · exact (written.twins.logprobsLaidOut isLogprobs).1
    · rw [written.twins.expertsNamed isExperts] at named
      exact absurd named (by decide)
  · intro offloaded
    have kinds := written.twins.logprobs
    rw [if_pos offloaded] at kinds
    obtain ⟨refs, lengths, start, isLayout, _⟩ := kinds
    rw [isLayout, cappedLogprobs]
    exact ⟨_, keptLayouts_logprobs rfl (fun plan isPlan => written.twins.expertsNamed isPlan)⟩

theorem TwinSample.Written.expertsKept :
    routedExpertsField ∈ (item.sent config args).layouts.keys ↔
      config.offloadsRoutedExperts = true := by
  rw [item.layouts_eq, OrderedDict.mem_keys_iff]
  constructor
  · rintro ⟨plan, found⟩
    obtain ⟨named, isLogprobs | isExperts⟩ := keptLayouts_get? found
    · obtain ⟨_offloaded, refs, lengths, start, rfl, _⟩ := written.twins.logprobsLaidOut isLogprobs
      have apart : routedExpertsField ≠ fullLogprobsField := by decide
      exact absurd named apart
    · exact (written.twins.expertsLaidOut isExperts).1
  · intro offloaded
    have kinds := written.twins.experts
    rw [if_pos offloaded] at kinds
    obtain ⟨refs, lengths, isLayout, _⟩ := kinds
    rw [isLayout]
    exact ⟨_, keptLayouts_experts rfl⟩

theorem TwinSample.Written.logprobs :
    if config.offloadsLogprobs then
      ∃ values, item.sample.rolloutLogProbs = some values ∧
        hydrateLogprobs (readColumn store) none (shardRow (item.sent config args)) = .ok values
    else (item.sent config args).rolloutLogProbs = item.sample.rolloutLogProbs := by
  split
  · next offloaded =>
      obtain ⟨values, isValues, hydrated⟩ := @Twins.hydrateLogprobs Message Tool config args store
        _ _ written.twins item.sample.rolloutRoutedExperts written.writes.arrays offloaded
      refine ⟨values, ?_, hydrated⟩
      rw [written.sample]
      exact isValues
  · next local_ =>
      have kinds := written.twins.logprobs
      rw [if_neg local_] at kinds
      rw [written.sample]
      simp only [TwinSample.sent, sampleOf, cappedArrays, wholeArrays, kinds.1, writtenLogprobs,
        responseStart, written.twins.record]

theorem TwinSample.Written.experts :
    if config.offloadsRoutedExperts then
      args.useRolloutRoutingReplay = true → Replayable args store item.remote →
        ∃ shape rows, expertShape args = .ok shape ∧
          item.sample.rolloutRoutedExperts = some rows ∧
          hydrateExperts (readColumn store) shape.1 shape.2
            (shardRow (item.sent config args)) = .ok rows
    else
      (item.sent config args).rolloutRoutedExperts = item.sample.rolloutRoutedExperts := by
  split
  · next offloaded =>
      intro replay replayable
      have left := replayable.left
      have complete := replayable.complete
      rw [← written.twins.record] at left
      refine written.twins.hydrateExperts written.writes offloaded replay left ?_
      intro truncated
      apply complete
      rw [← written.twins.record]
      exact truncated
  · next local_ =>
      change sentExperts config item.sample.rolloutRoutedExperts = _
      unfold sentExperts
      rw [if_neg local_]

end

variable {items : List (TwinSample Message Tool)}

def sentSamples (config : TrainingConfig) (args : SampleArgs)
    (items : List (TwinSample Message Tool)) : List TrainingSample :=
  items.map (TwinSample.sent config args)

theorem mem_remoteFields {field : String} {offloaded : Bool}
    (kept : ∀ item ∈ items, field ∈ (item.sent config args).layouts.keys ↔ offloaded = true) :
    field ∈ remoteFieldsFromLayouts ((sentSamples config args items).map TrainingSample.layouts) ↔
      items ≠ [] ∧ offloaded = true := by
  unfold remoteFieldsFromLayouts sentSamples
  rw [map_map, mem_flatMap]
  constructor
  · rintro ⟨bundle, inBundles, isKey⟩
    obtain ⟨item, member, rfl⟩ := mem_map.mp inBundles
    exact ⟨ne_nil_of_mem member, (kept item member).mp isKey⟩
  · rintro ⟨some_, isOffloaded⟩
    obtain ⟨item, rest, rfl⟩ := exists_cons_of_ne_nil some_
    exact ⟨_, mem_map_of_mem mem_cons_self, (kept item mem_cons_self).mpr isOffloaded⟩

theorem mem_fieldsToRead_logprobs {fields : List String} :
    fullLogprobsField ∈ fieldsToRead args fields ↔ fullLogprobsField ∈ fields := by
  have apart : fullLogprobsField ≠ routedExpertsField := by decide
  unfold fieldsToRead
  split
  · exact Iff.rfl
  · rw [mem_filter, decide_eq_true apart]
    exact and_iff_left rfl

theorem mem_fieldsToRead_experts {fields : List String} :
    routedExpertsField ∈ fieldsToRead args fields ↔
      routedExpertsField ∈ fields ∧ args.useRolloutRoutingReplay = true := by
  unfold fieldsToRead
  split
  · next replay => exact (and_iff_left replay).symm
  · next unplayed =>
      constructor
      · intro member
        have different := (mem_filter.mp member).2
        exact absurd rfl (of_decide_eq_true different)
      · rintro ⟨_, replay⟩
        exact absurd replay unplayed

theorem readLayoutValues_sent (written : ∀ item ∈ items, item.Written config args store)
    (fields : List String) :
    readLayoutValues store ((sentSamples config args items).map TrainingSample.layouts) fields =
      .ok (readColumn store) := by
  have all : (requestedRefs ((sentSamples config args items).map TrainingSample.layouts)
      fields).all (fun ref => (readColumn store ref).isSome) = true := by
    rw [all_eq_true]
    intro ref member
    unfold requestedRefs sentSamples at member
    rw [map_map] at member
    obtain ⟨bundle, inBundles, inBundle⟩ := mem_flatMap.mp member
    obtain ⟨item, inItems, rfl⟩ := mem_map.mp inBundles
    obtain ⟨field, _inFields, inField⟩ := mem_flatMap.mp inBundle
    split at inField
    · cases inField
    · next plan found =>
        obtain ⟨fragment, inside, rfl⟩ := mem_map.mp inField
        exact (written item inItems).stored found inside
  unfold readLayoutValues
  rw [if_pos all]

theorem buildAll_found {α β γ : Type} {build : β → Except String γ} {rowOf : α → β}
    {valueOf : α → Option γ} {list : List α}
    (each : ∀ item ∈ list, ∃ value, valueOf item = some value ∧ build (rowOf item) = .ok value) :
    ∃ values, buildAll build (list.map rowOf) = .ok values ∧
      values.map some = list.map valueOf := by
  induction list with
  | nil => exact ⟨[], rfl, rfl⟩
  | cons item rest ih =>
    obtain ⟨value, isValue, built⟩ := each item mem_cons_self
    obtain ⟨values, others, areValues⟩ := ih (fun other member =>
      each other (mem_cons_of_mem item member))
    refine ⟨value :: values, ?_, ?_⟩
    · rw [map_cons, buildAll, built]
      dsimp only
      rw [others]
    · rw [map_cons, map_cons, isValue, areValues]

/-- What a shard trains on next to the samples of the twins. Rows that no replay asks for are
neither written nor read. -/
structure TrainsLike (config : TrainingConfig) (args : SampleArgs) (sent : List TrainingSample)
    (hydrated : Hydrated) (samples : List TrainingSample) : Prop where
  logprobs : trainedOn hydrated.rolloutLogProbs (sent.map TrainingSample.rolloutLogProbs) =
    samples.map TrainingSample.rolloutLogProbs
  experts : config.offloadsRoutedExperts = false ∨ args.useRolloutRoutingReplay = true →
    trainedOn hydrated.rolloutRoutedExperts (sent.map TrainingSample.rolloutRoutedExperts) =
      samples.map TrainingSample.rolloutRoutedExperts
  unplayed : config.offloadsRoutedExperts = true → args.useRolloutRoutingReplay = false →
    hydrated.rolloutRoutedExperts = none ∧ ∀ sample ∈ sent, sample.rolloutRoutedExperts = none

section

variable (written : ∀ item ∈ items, item.Written config args store)
include written

theorem shardLogprobs_sent :
    ∃ column,
      shardLogprobs (readColumn store) none
          (fieldsToRead args (remoteFieldsFromLayouts
            ((sentSamples config args items).map TrainingSample.layouts)))
          ((sentSamples config args items).map shardRow) =
        .ok column ∧
        trainedOn column ((sentSamples config args items).map TrainingSample.rolloutLogProbs) =
          items.map (fun item => item.sample.rolloutLogProbs) := by
  have asked := (@mem_fieldsToRead_logprobs args _).trans
    (mem_remoteFields (fun item member => (written item member).logprobsKept))
  unfold shardLogprobs
  unfold sentSamples at asked ⊢
  by_cases read : items ≠ [] ∧ config.offloadsLogprobs = true
  · obtain ⟨lists, built, areLists⟩ := @buildAll_found (TwinSample Message Tool) ShardRow
      (List Logprob) (hydrateLogprobs (readColumn store) none)
      (fun item => shardRow (item.sent config args)) (fun item => item.sample.rolloutLogProbs)
      items (fun item member => by
        have found := (written item member).logprobs
        rw [if_pos read.2] at found
        exact found)
    rw [if_pos (asked.mpr read), map_map]
    exact ⟨some lists, Effect.except_bind_eq_ok.mpr ⟨lists, built, rfl⟩, areLists⟩
  · rw [if_neg (fun asks => read (asked.mp asks)), map_map]
    refine ⟨none, rfl, map_congr_left (fun item member => ?_)⟩
    have local_ : ¬config.offloadsLogprobs = true := fun offloaded =>
      read ⟨ne_nil_of_mem member, offloaded⟩
    have found := (written item member).logprobs
    rw [if_neg local_] at found
    exact found

theorem shardExperts_sent
    (replayable : config.offloadsRoutedExperts = true → args.useRolloutRoutingReplay = true →
      ∀ item ∈ items, Replayable args store item.remote) :
    ∃ column,
      shardExperts args (readColumn store)
          (fieldsToRead args (remoteFieldsFromLayouts
            ((sentSamples config args items).map TrainingSample.layouts)))
          ((sentSamples config args items).map shardRow) =
        .ok column ∧
        (config.offloadsRoutedExperts = false ∨ args.useRolloutRoutingReplay = true →
          trainedOn column
              ((sentSamples config args items).map TrainingSample.rolloutRoutedExperts) =
            items.map (fun item => item.sample.rolloutRoutedExperts)) ∧
        (config.offloadsRoutedExperts = true → args.useRolloutRoutingReplay = false →
          column = none) := by
  have asked := (@mem_fieldsToRead_experts args _).trans
    (and_congr_left' (mem_remoteFields (fun item member => (written item member).expertsKept)))
  unfold shardExperts
  unfold sentSamples at asked ⊢
  by_cases read : (items ≠ [] ∧ config.offloadsRoutedExperts = true) ∧
    args.useRolloutRoutingReplay = true
  · obtain ⟨⟨some_, offloaded⟩, replay⟩ := read
    have each : ∀ item ∈ items, ∃ shape rows, expertShape args = .ok shape ∧
        item.sample.rolloutRoutedExperts = some rows ∧
          hydrateExperts (readColumn store) shape.1 shape.2
            (shardRow (item.sent config args)) = .ok rows := by
      intro item member
      have found := (written item member).experts
      rw [if_pos offloaded] at found
      exact found replay (replayable offloaded replay item member)
    obtain ⟨first, rest, isCons⟩ := exists_cons_of_ne_nil some_
    obtain ⟨shape, _rows, isShape, _⟩ := each first (by rw [isCons]; exact mem_cons_self)
    obtain ⟨lists, built, areLists⟩ := @buildAll_found (TwinSample Message Tool) ShardRow
      (List (List Int)) (hydrateExperts (readColumn store) shape.1 shape.2)
      (fun item => shardRow (item.sent config args))
      (fun item => item.sample.rolloutRoutedExperts) items (fun item member => by
        obtain ⟨other, rows, isOther, isRows, hydrated⟩ := each item member
        rw [isShape] at isOther
        cases isOther
        exact ⟨rows, isRows, hydrated⟩)
    rw [if_pos (asked.mpr ⟨⟨some_, offloaded⟩, replay⟩), map_map]
    refine ⟨some lists, ?_, fun _ => areLists, fun _ unplayed => ?_⟩
    · exact Effect.except_bind_eq_ok.mpr ⟨shape, isShape,
        Effect.except_bind_eq_ok.mpr ⟨lists, built, rfl⟩⟩
    · rw [replay] at unplayed
      cases unplayed
  · rw [if_neg (fun asks => read (asked.mp asks)), map_map]
    refine ⟨none, rfl, fun reason => ?_, fun _ _ => rfl⟩
    refine map_congr_left (fun item member => ?_)
    have local_ : ¬config.offloadsRoutedExperts = true := by
      intro offloaded
      rcases reason with resident | replay
      · rw [offloaded] at resident
        cases resident
      · exact read ⟨⟨ne_nil_of_mem member, offloaded⟩, replay⟩
    have found := (written item member).experts
    rw [if_neg local_] at found
    exact found

theorem hydrateTrainingLayouts_sent
    (replayable : config.offloadsRoutedExperts = true → args.useRolloutRoutingReplay = true →
      ∀ item ∈ items, Replayable args store item.remote) :
    ∃ hydrated,
      hydrateTrainingLayouts args store ((sentSamples config args items).map shardRow)
          (remoteFieldsFromLayouts ((sentSamples config args items).map TrainingSample.layouts))
          none =
        .ok hydrated ∧
      TrainsLike config args (sentSamples config args items) hydrated
        (items.map TwinSample.sample) := by
  obtain ⟨logprobs, logprobsRead, sameLogprobs⟩ := shardLogprobs_sent written
  obtain ⟨experts, expertsRead, sameExperts, unread⟩ := shardExperts_sent written replayable
  have bundles : ((sentSamples config args items).map shardRow).map ShardRow.bundle =
    (sentSamples config args items).map TrainingSample.layouts := map_map
  have decoded : buildAll decodeLayoutBundle
      ((sentSamples config args items).map TrainingSample.layouts) =
        .ok ((sentSamples config args items).map TrainingSample.layouts) := by
    rw [buildAll_iff, forall₂_same]
    intro bundle member
    unfold sentSamples at member
    rw [map_map] at member
    obtain ⟨item, _inItems, rfl⟩ := mem_map.mp member
    exact item.decoded
  refine ⟨
    { rolloutLogProbs := logprobs
      rolloutRoutedExperts := experts }, ?_, ?_⟩
  · unfold hydrateTrainingLayouts
    rw [bundles]
    exact Effect.except_bind_eq_ok.mpr ⟨_, decoded,
      Effect.except_bind_eq_ok.mpr ⟨_, readLayoutValues_sent written _,
        Effect.except_bind_eq_ok.mpr ⟨_, logprobsRead,
          Effect.except_bind_eq_ok.mpr ⟨_, expertsRead, rfl⟩⟩⟩⟩
  · exact
      { logprobs := by
          rw [map_map]
          exact sameLogprobs
        experts := fun reason => by
          rw [map_map]
          exact sameExperts reason
        unplayed := fun offloaded unplayed => by
          refine ⟨unread offloaded unplayed, fun sample member => ?_⟩
          obtain ⟨item, _inItems, rfl⟩ := mem_map.mp member
          change sentExperts config item.sample.rolloutRoutedExperts = none
          unfold sentExperts
          rw [if_pos offloaded] }

end

theorem twinSamples_of_written
    {shard : List (TrainingRecord Message Tool × TrainingRecord Message Tool)}
    {samples : List TrainingSample}
    (pairs : ∀ pair ∈ shard, Twins config store pair.1 pair.2)
    (built : buildAll (writeSampleFromSegment args) (shard.map Prod.snd) = .ok samples) :
    ∃ list : List (TwinSample Message Tool),
      list.map (fun item => (item.remote, item.twin)) = shard ∧
        list.map TwinSample.sample = samples ∧ ∀ item ∈ list, item.Written config args store := by
  have each := forall₂_map_left_iff.mp (buildAll_iff.mp built)
  clear built
  induction each with
  | nil => exact ⟨[], rfl, rfl, fun item member => by cases member⟩
  | @cons pair sample rest others here _ ih =>
    obtain ⟨list, isRest, areOthers, written⟩ := ih (fun other member =>
      pairs other (mem_cons_of_mem pair member))
    obtain ⟨experts, writes, rfl⟩ := writeSampleFromSegment_iff.mp here
    refine ⟨
      { remote := pair.1
        twin := pair.2
        sample := sampleOf args pair.2 experts } :: list, ?_, ?_, ?_⟩
    · rw [map_cons, isRest]
    · rw [map_cons, areOthers]
    · intro item member
      rcases mem_cons.mp member with rfl | inList
      · exact
          { twins := pairs pair mem_cons_self
            writes := writes
            sample := rfl }
      · exact written item inList

theorem writeSamples_sent (written : ∀ item ∈ items, item.Written config args store) :
    buildAll (writeSampleFromSegment args) (items.map TwinSample.remote) =
      .ok (sentSamples config args items) := by
  unfold sentSamples
  rw [buildAll_iff, forall₂_map_left_iff, forall₂_map_right_iff, forall₂_same]
  exact fun item member => (written item member).sentWritten

theorem twins_of_zip {published twins : List (TrainingRecord Message Tool)}
    (areTwins : List.Forall₂ (Twins config store) published twins) :
    ∀ pair ∈ published.zip twins, Twins config store pair.1 pair.2 := fun _ member =>
  (forall₂_iff_zip.mp areTwins).2 member

/-- Any shard of the records a session run publishes trains like the samples of the same records
without offloading. -/
theorem offloaded_shard_trains_like_local [BEq Message] (config : TrainingConfig)
    (format : ChatFormat Message Tool Call) (sessionId instanceId : String) (now : ℚ)
    (events : List (TrainingEvent Message Tool Call)) (publisher : Option String)
    (args : SampleArgs) {published : List (TrainingRecord Message Tool)}
    (finalized : finalizeTraining config
      (trainingRun config format sessionId instanceId now events).proxy.session
      (trainingRun config format sessionId instanceId now events).fields.get? publisher =
        .ok published) :
    ∃ twins,
      finalizeTraining config
          (trainingRun config format sessionId instanceId now events).proxy.session
          (residentFields (trainingRun config format sessionId instanceId now events))
          publisher =
        .ok twins ∧
      twins.length = published.length ∧
      ∀ (shard : List (TrainingRecord Message Tool × TrainingRecord Message Tool)) samples,
        (∀ pair ∈ shard, pair ∈ published.zip twins) →
        buildAll (writeSampleFromSegment args) (shard.map Prod.snd) = .ok samples →
        (config.offloadsRoutedExperts = true → args.useRolloutRoutingReplay = true →
          ∀ pair ∈ shard, Replayable args
            (trainingRun config format sessionId instanceId now events).store pair.1) →
        ∃ sent hydrated,
          buildAll (writeSampleFromSegment args) (shard.map Prod.fst) = .ok sent ∧
          hydrateTrainingLayouts args
              (trainingRun config format sessionId instanceId now events).store
              (sent.map shardRow)
              (remoteFieldsFromLayouts (sent.map TrainingSample.layouts)) none =
            .ok hydrated ∧
          TrainsLike config args sent hydrated samples := by
  have kept : ColumnsKept config Call (trainingRun config format sessionId instanceId now events) :=
    columnsKept_trainingRun format sessionId instanceId now events
  obtain ⟨twins, twinsFinalized, areTwins⟩ := finalizeTraining_twins kept finalized
  refine ⟨twins, twinsFinalized, areTwins.length_eq.symm, ?_⟩
  intro shard samples fromRun built replayable
  obtain ⟨items, rfl, rfl, written⟩ := twinSamples_of_written
    (fun pair member => twins_of_zip areTwins pair (fromRun pair member)) built
  have replayed : config.offloadsRoutedExperts = true → args.useRolloutRoutingReplay = true →
      ∀ item ∈ items, Replayable args
        (trainingRun config format sessionId instanceId now events).store item.remote :=
    fun offloaded replay item member =>
      replayable offloaded replay _ (mem_map_of_mem member)
  obtain ⟨hydrated, isHydrated, alike⟩ := hydrateTrainingLayouts_sent written replayed
  refine ⟨sentSamples config args items, hydrated, ?_, isHydrated, alike⟩
  rw [map_map]
  exact writeSamples_sent written

def trainer (cap : Option Int) (replay : Bool) : SampleArgs :=
  { maxTokensPerGpu := cap
    contextParallelSize := none
    cpSize := none
    numLayers := some 1
    moeRouterTopk := some 1
    useRolloutRoutingReplay := replay }

abbrev PlainEvent := TrainingEvent PlainFormat.PlainMessage String String

abbrev PlainRecord := TrainingRecord PlainFormat.PlainMessage String

def plainRun (events : List PlainEvent) : TrainingState PlainFormat.PlainMessage String :=
  trainingRun offloading PlainFormat.format "session" "instance" 0 events

def publishedPlain (events : List PlainEvent) : Except String (List PlainRecord) :=
  finalizeTraining offloading (plainRun events).proxy.session (plainRun events).fields.get? none

def publishedTwins (events : List PlainEvent) : Except String (List PlainRecord) :=
  finalizeTraining offloading (plainRun events).proxy.session (residentFields (plainRun events))
    none

def localSamples (args : SampleArgs) (events : List PlainEvent) :
    Except String (List TrainingSample) := do
  let twins ← publishedTwins events
  buildAll (writeSampleFromSegment args) twins

def offloadedRows (args : SampleArgs) (events : List PlainEvent) :
    Except String (List (Option (List (List Int)))) := do
  let published ← publishedPlain events
  let sent ← buildAll (writeSampleFromSegment args) published
  let hydrated ← hydrateTrainingLayouts args (plainRun events).store (sent.map shardRow)
    (remoteFieldsFromLayouts (sent.map TrainingSample.layouts)) none
  .ok (trainedOn hydrated.rolloutRoutedExperts (sent.map TrainingSample.rolloutRoutedExperts))

def rowCounts (rows : List (Option (List (List Int)))) : List (Option Nat) :=
  rows.map (fun sample => sample.map List.length)

def payloadMissing : List PlainEvent :=
  resumedThenAsked.map fun event =>
    if event.payloads.length = 1 then { event with payloads := [none] } else event

/-- Rows of the samples that trained locally are not trained on when the trainer does not replay
routing or the cap leaves nothing, and a cut sample is refused when a payload behind the cap is
missing. -/
theorem offloaded_rows_differ :
    (((localSamples (trainer none false) resumedThenAsked).toOption.map (fun samples =>
        rowCounts (samples.map TrainingSample.rolloutRoutedExperts)) =
          some [some 43, some 21, some 43]) ∧
      (offloadedRows (trainer none false) resumedThenAsked).toOption.map rowCounts =
        some [none, none, none]) ∧
    (((localSamples (trainer (some 0) true) resumedThenAsked).toOption.map (fun samples =>
        rowCounts (samples.map TrainingSample.rolloutRoutedExperts)) =
          some [some 43, some 21, some 43]) ∧
      (offloadedRows (trainer (some 0) true) resumedThenAsked).toOption.map rowCounts =
        some [some 0, some 0, some 0]) ∧
    (((localSamples (trainer (some 20) true) payloadMissing).toOption.map (fun samples =>
        rowCounts (samples.map TrainingSample.rolloutRoutedExperts)) =
          some [some 19, some 19, some 19]) ∧
      (offloadedRows (trainer (some 20) true) payloadMissing).toOption = none) := by
  decide +kernel

theorem resumedThenAsked_trains_like_local :
    ∃ published twins samples sent hydrated,
      publishedPlain resumedThenAsked = .ok published ∧
      publishedTwins resumedThenAsked = .ok twins ∧
      buildAll (writeSampleFromSegment (trainer (some 30) true)) twins = .ok samples ∧
      samples.map (fun sample => sample.tokens.length) = [30, 22, 30] ∧
      buildAll (writeSampleFromSegment (trainer (some 30) true)) published = .ok sent ∧
      hydrateTrainingLayouts (trainer (some 30) true) (plainRun resumedThenAsked).store
          (sent.map shardRow)
          (remoteFieldsFromLayouts (sent.map TrainingSample.layouts)) none =
        .ok hydrated ∧
      TrainsLike offloading (trainer (some 30) true) sent hydrated samples := by
  have replayables : (publishedPlain resumedThenAsked).toOption.map (fun published =>
      decide (∀ entry ∈ published, Replayable (trainer (some 30) true)
        (plainRun resumedThenAsked).store entry)) = some true := by
    decide +kernel
  have sizes : (localSamples (trainer (some 30) true) resumedThenAsked).toOption.map
      (fun samples => samples.map (fun sample => sample.tokens.length)) = some [30, 22, 30] := by
    decide +kernel
  cases finalized : publishedPlain resumedThenAsked with
  | error message =>
    rw [finalized] at replayables
    cases replayables
  | ok published =>
    rw [finalized] at replayables
    have replayable := of_decide_eq_true (Option.some.inj replayables)
    obtain ⟨twins, twinsFinalized, counts, each⟩ :=
      offloaded_shard_trains_like_local offloading PlainFormat.format "session" "instance" 0
        resumedThenAsked none (trainer (some 30) true) finalized
    have same : localSamples (trainer (some 30) true) resumedThenAsked =
        buildAll (writeSampleFromSegment (trainer (some 30) true)) twins := by
      unfold localSamples publishedTwins plainRun
      rw [twinsFinalized]
      rfl
    rw [same] at sizes
    cases written : buildAll (writeSampleFromSegment (trainer (some 30) true)) twins with
    | error message =>
      rw [written] at sizes
      cases sizes
    | ok samples =>
      rw [written] at sizes
      have ends : (published.zip twins).map Prod.snd = twins :=
        map_snd_zip (Nat.le_of_eq counts)
      have starts : (published.zip twins).map Prod.fst = published :=
        map_fst_zip (Nat.le_of_eq counts.symm)
      obtain ⟨sent, hydrated, isSent, isHydrated, alike⟩ :=
        each (published.zip twins) samples (fun pair member => member)
          (by rw [ends]; exact written)
          (fun _ _ pair member => replayable pair.1 (of_mem_zip member).1)
      rw [starts] at isSent
      exact ⟨published, twins, samples, sent, hydrated, rfl, twinsFinalized, written,
        Option.some.inj sizes, isSent, isHydrated, alike⟩

end Dressage.Training

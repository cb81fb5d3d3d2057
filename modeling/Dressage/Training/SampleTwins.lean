/-
A published record and its local twin, written as samples.

The twin of a record holds in place what the record refers to. Writing both under
one cap cuts their tokens and masks alike; what is left of the twin's columns is
what hydration reads for the record.
-/

import Dressage.Training.Materialize

namespace Dressage.Training

open Lib Transport Proxy Rollout List

variable {Message Tool Call : Type} {config : TrainingConfig} {args : SampleArgs}

variable {α : Type} {count : Nat} {chunks : List ExpertChunk}
variable {steps : List (StepRecord Message Tool)} {state : TrainingState Message Tool}

theorem capped_eq_take {β : Type} (cap : Option Int) {tokens : List α} {values : List β}
    (sizes : values.length = tokens.length) :
    capped cap tokens.length values = values.take (capped cap tokens.length tokens).length := by
  have prefix_ : ∀ kept : Nat, values.take kept = values.take (tokens.take kept).length := by
    intro kept
    rw [length_take, ← sizes, take_eq_take_iff]
    omega
  unfold capped
  cases cap with
  | none =>
    dsimp only
    rw [← sizes, take_length]
  | some stop =>
    dsimp only
    split
    · unfold TrajectoryStore.sliceTo
      split
      · exact prefix_ _
      · rw [sizes]
        exact prefix_ _
    · rw [← sizes, take_length]

theorem length_capped_le (cap : Option Int) (count : Nat) (values : List α) :
    (capped cap count values).length ≤ values.length := by
  unfold capped
  cases cap with
  | none => exact Nat.le_refl _
  | some stop =>
    dsimp only
    split
    · unfold TrajectoryStore.sliceTo
      split <;> exact length_take_le' _ _
    · exact Nat.le_refl _

theorem capped_of_not_truncated {cap : Option Int} (values : List α)
    (whole : isTruncated cap count = false) : capped cap count values = values := by
  unfold capped
  unfold isTruncated at whole
  cases cap with
  | none => rfl
  | some stop =>
    dsimp only at whole ⊢
    rw [if_neg (of_decide_eq_false whole)]

def decodedRows (width : Nat) (chunk : ExpertChunk) : List (List Int) :=
  rowsOfWidth width chunk.rowCount chunk.data

theorem length_flatMap_decodedRows (width : Nat) (chunks : List ExpertChunk) :
    (chunks.flatMap (decodedRows width)).length = emittedRows chunks := by
  unfold emittedRows
  rw [length_flatMap]
  congr 1
  apply map_congr_left
  intro chunk _member
  unfold decodedRows rowsOfWidth
  rw [length_map, length_range]

theorem decodeChunk_ok {numLayers topk : Nat} {chunk : ExpertChunk} {rows : List (List Int)}
    (ok : decodeChunk numLayers topk chunk = .ok rows) :
    rows = decodedRows (numLayers * topk) chunk ∧
      chunk.data.length = chunk.rowCount * (numLayers * topk) := by
  unfold decodeChunk at ok
  dsimp only at ok
  split at ok
  · cases ok
  · next whole =>
      split at ok
      · cases ok
      · next counted =>
          cases ok
          refine ⟨rfl, ?_⟩
          have parts := Nat.div_add_mod chunk.data.length (numLayers * topk)
          have exact_ : chunk.data.length / (numLayers * topk) = chunk.rowCount := by omega
          rw [exact_, Nat.mul_comm] at parts
          omega

theorem decodeRoutedExpertsChunks_ok {width : Nat}
    (sizes : ∀ chunk ∈ chunks, chunk.data.length = chunk.rowCount * width) :
    decodeRoutedExpertsChunks chunks width = .ok (chunks.flatMap (decodedRows width)) := by
  have all : buildAll (decodeStoredChunk width) chunks = .ok (chunks.map (decodedRows width)) := by
    rw [buildAll_iff, forall₂_map_right_iff, forall₂_same]
    intro chunk member
    unfold decodeStoredChunk
    rw [if_neg (not_not_intro (sizes chunk member))]
    rfl
  unfold decodeRoutedExpertsChunks
  rw [all]
  rfl

theorem buildAll_decodeChunk {numLayers topk : Nat} {arrays : List (List (List Int))}
    (built : buildAll (decodeChunk numLayers topk) chunks = .ok arrays) :
    arrays.flatten = chunks.flatMap (decodedRows (numLayers * topk)) ∧
      ∀ chunk ∈ chunks, chunk.data.length = chunk.rowCount * (numLayers * topk) := by
  have each := buildAll_iff.mp built
  clear built
  induction each with
  | nil => exact ⟨rfl, fun chunk member => by cases member⟩
  | cons decoded _ ih =>
    obtain ⟨rows, size⟩ := decodeChunk_ok decoded
    obtain ⟨others, sizes⟩ := ih
    constructor
    · rw [flatten_cons, flatMap_cons, rows, others]
    · intro chunk member
      rcases mem_cons.mp member with rfl | inRest
      · exact size
      · exact sizes chunk inRest

theorem extractRoutedExperts_some {tokenCount : Nat} {rows : List (List Int)}
    (some_ : tokenCount ≠ 0)
    (extracted : extractRoutedExperts args chunks tokenCount = .ok (some rows)) :
    ∃ numLayers topk, args.numLayers = some numLayers ∧ args.moeRouterTopk = some topk ∧
      (∀ chunk ∈ chunks, chunk.data.length = chunk.rowCount * (numLayers * topk)) ∧
      rows = (chunks.flatMap (decodedRows (numLayers * topk))).take (tokenCount - 1) ∧
      tokenCount - 1 ≤ emittedRows chunks := by
  unfold extractRoutedExperts at extracted
  split at extracted
  · next numLayers topk hasLayers hasTopk =>
      split at extracted
      · cases extracted
      · obtain ⟨arrays, built, rest⟩ := Effect.except_bind_eq_ok.mp extracted
        obtain ⟨flat, sizes⟩ := buildAll_decodeChunk built
        dsimp only at rest
        rw [flat, length_flatMap_decodedRows] at rest
        split at rest
        · cases rest
        · next enough =>
            cases rest
            exact ⟨numLayers, topk, hasLayers, hasTopk, sizes, rfl, by omega⟩
  · cases extracted

def residentFields (state : TrainingState Message Tool) (stepId : StepId) : Option StepFields :=
  (state.recorded.get? stepId).map StepColumns.resident

def logprobsAt (store : OrderedDict Nat StepColumns) (ref : ColumnRef) : List LogprobEntry :=
  match readColumn store ref with
  | some (.logprobs entries) => entries
  | _ => []

def expertsAt (store : OrderedDict Nat StepColumns) (ref : ColumnRef) : List ExpertChunk :=
  match readColumn store ref with
  | some (.experts chunks) => chunks
  | _ => []

def StoredLogprobs (store : OrderedDict Nat StepColumns) (count : Nat)
    (remote twin : RecordField (List Logprob)) : Prop :=
  ∃ refs lengths start, remote = .layout (logprobsLayout refs lengths start count) ∧
    (∀ part ∈ refs.zip lengths,
      readColumn store part.1 = some (.logprobs (logprobsAt store part.1))) ∧
    twin = .values (laidLogprobs (logprobsAt store) start (refs.zip lengths))

def chunksField (chunks : List ExpertChunk) : Option (RecordField (List ExpertChunk)) :=
  if chunks = [] then none else some (.values chunks)

def StoredExperts (store : OrderedDict Nat StepColumns) (count : Nat)
    (remote twin : Option (RecordField (List ExpertChunk))) : Prop :=
  ∃ refs lengths, remote = some (.layout (expertsLayout refs lengths count)) ∧
    ((refs.zip lengths).map Prod.snd).sum = count - 1 ∧
    (∀ part ∈ refs.zip lengths,
      readColumn store part.1 = some (.experts (expertsAt store part.1)) ∧
        emittedRows (expertsAt store part.1) ≤ part.2) ∧
    twin = chunksField ((refs.zip lengths).flatMap fun part => expertsAt store part.1)

/-- A published record and the one of the same steps without offloading. -/
structure Twins (config : TrainingConfig) (store : OrderedDict Nat StepColumns)
    (remote twin : TrainingRecord Message Tool) : Prop where
  record : twin.record = remote.record
  logprobs : if config.offloadsLogprobs then
      StoredLogprobs store remote.record.tokens.length remote.fullLogprobs twin.fullLogprobs
    else remote.fullLogprobs = twin.fullLogprobs ∧ ∃ values, twin.fullLogprobs = .values values
  experts : if config.offloadsRoutedExperts then
      StoredExperts store remote.record.tokens.length remote.routedExperts twin.routedExperts
    else remote.routedExperts = twin.routedExperts ∧
      ∃ chunks, twin.routedExperts = chunksField chunks

theorem filterMap_residentFields (stored : ∀ step ∈ steps, StoredAt config state step)
    (fieldOf : StepFields → α) :
    steps.filterMap (fun step => (residentFields state step.stepId).map fieldOf) =
      steps.map (fun step => fieldOf (recordedColumns state step).resident) := by
  induction steps with
  | nil => rfl
  | cons step rest ih =>
    have here : residentFields state step.stepId = some (recordedColumns state step).resident := by
      unfold residentFields
      rw [(stored step mem_cons_self).recorded]
      rfl
    rw [filterMap_cons, here, Option.map_some,
      ih (fun other member => stored other (mem_cons_of_mem step member))]
    rfl

theorem experts_twin (kept : ColumnsKept config Call state) (some_ : steps ≠ [])
    (recorded : ∀ step ∈ steps, step ∈ state.proxy.session.steps)
    {remote : Option (RecordField (List ExpertChunk))}
    (built : buildRoutedExpertsField config state.fields.get? steps count = .ok remote) :
    ∃ twin, buildRoutedExpertsField config (residentFields state) steps count = .ok twin ∧
      if config.offloadsRoutedExperts then StoredExperts state.store count remote twin
      else remote = twin ∧ ∃ chunks, twin = chunksField chunks := by
  have stored : ∀ step ∈ steps, StoredAt config state step := fun step member =>
    kept.storedAt (recorded step member)
  have twinBuilt : buildRoutedExpertsField config (residentFields state) steps count =
      .ok (chunksField (steps.flatMap (fun step =>
        (recordedColumns state step).routedExperts))) := by
    have fields : steps.filterMap (fun step =>
        (residentFields state step.stepId).map StepFields.routedExperts) =
          steps.map (fun step => keptIf false 0 .routedExperts
            (recordedColumns state step).routedExperts) :=
      filterMap_residentFields stored StepFields.routedExperts
    unfold buildRoutedExpertsField buildConcatenatedRoutedExperts
    dsimp only
    rw [fields, filterMap_ref?_resident steps (fun _ => 0), if_pos rfl,
      filterMap_value?_resident steps (fun _ => 0), ← flatMap_def]
    rfl
  refine ⟨_, twinBuilt, ?_⟩
  unfold buildRoutedExpertsField at built
  rw [routedExperts_fields stored] at built
  unfold buildConcatenatedRoutedExperts at built
  dsimp only at built
  cases offloads : config.offloadsRoutedExperts with
  | false =>
    rw [offloads, filterMap_ref?_resident, if_pos rfl, filterMap_value?_resident,
      ← flatMap_def] at built
    cases built
    exact ⟨rfl, _, rfl⟩
  | true =>
    rw [offloads, filterMap_ref?_keptIf,
      if_neg (fun empty => some_ (map_eq_nil_iff.mp empty))] at built
    split at built
    · cases built
    · split at built
      · cases built
      · next aligned =>
          split at built
          · cases built
          · cases built
            have reads : ∀ step ∈ steps, readColumn state.store
                { key := placeOf state.proxy.session step, field := .routedExperts } =
                  some (.experts (recordedColumns state step).routedExperts) := by
              intro step member
              unfold readColumn
              rw [(stored step member).stored]
              rfl
            have experts : ∀ step ∈ steps, expertsAt state.store
                { key := placeOf state.proxy.session step, field := .routedExperts } =
                  (recordedColumns state step).routedExperts := by
              intro step member
              unfold expertsAt
              rw [reads step member]
            refine ⟨_, _, rfl, ?_, ?_, ?_⟩
            · rw [zip_map', map_map]
              exact Decidable.not_not.mp aligned
            · intro part member
              rw [zip_map'] at member
              obtain ⟨step, inside, rfl⟩ := mem_map.mp member
              dsimp only
              rw [reads step inside, experts step inside]
              exact ⟨rfl, (kept.length_columnRows (recorded step inside)).2⟩
            · rw [zip_map', flatMap_map]
              congr 1
              exact flatMap_congr (fun step member => (experts step member).symm)

theorem normalizeEntries_numbers {values : List Logprob} (size : values.length = count) :
    normalizeEntries (values.map LogprobEntry.number) count = values := by
  unfold normalizeEntries
  rw [map_map]
  change Fragments.fit 0 count (values.map id) = values
  rw [map_id, Fragments.fit_eq_of_length size]

theorem lineageLogprobs_twin (tito : config.proxy.tokenBuildMode = .tito)
    (kept : ColumnsKept config Call state) (some_ : steps ≠ [])
    (recorded : ∀ step ∈ steps, step ∈ state.proxy.session.steps)
    {remote : RecordField (List Logprob)}
    (built : buildConcatenatedEntries
      (steps.filterMap (fun step =>
        (state.fields.get? step.stepId).map StepFields.concatResponseLogprobs))
      (steps.map (fun step => step.concatTokenIds.length)) count = .ok remote) :
    ∃ twin, buildConcatenatedEntries
        (steps.filterMap (fun step =>
          (residentFields state step.stepId).map StepFields.concatResponseLogprobs))
        (steps.map (fun step => step.concatTokenIds.length)) count = .ok twin ∧
      if config.offloadsLogprobs then StoredLogprobs state.store count remote twin
      else remote = twin ∧ ∃ values, twin = .values values := by
  have stored : ∀ step ∈ steps, StoredAt config state step := fun step member =>
    kept.storedAt (recorded step member)
  have aligned : (steps.map (fun step => step.concatTokenIds.length)).sum = count := by
    by_contra misaligned
    unfold buildConcatenatedEntries at built
    rw [if_pos misaligned] at built
    cases built
  have whole : (steps.flatMap (fun step =>
      (recordedColumns state step).concatResponseLogprobs)).length = count := by
    rw [length_flatMap, ← aligned]
    congr 1
    exact map_congr_left (fun step member =>
      length_concatResponseLogprobs tito kept (recorded step member))
  have twinBuilt : buildConcatenatedEntries
      (steps.filterMap (fun step =>
        (residentFields state step.stepId).map StepFields.concatResponseLogprobs))
      (steps.map (fun step => step.concatTokenIds.length)) count =
        .ok (.values (steps.flatMap (fun step =>
          (recordedColumns state step).concatResponseLogprobs))) := by
    have fields : steps.filterMap (fun step =>
        (residentFields state step.stepId).map StepFields.concatResponseLogprobs) =
          steps.map (fun step => keptIf false 0 .concatResponseLogprobs
            (recordedColumns state step).concatResponseLogprobs) :=
      filterMap_residentFields stored StepFields.concatResponseLogprobs
    unfold buildConcatenatedEntries
    rw [if_neg (not_not_intro aligned), fields]
    dsimp only
    rw [filterMap_ref?_resident steps (fun _ => 0), if_pos rfl,
      filterMap_value?_resident steps (fun _ => 0), ← flatMap_def,
      if_neg (not_not_intro whole)]
  refine ⟨_, twinBuilt, ?_⟩
  have fields : steps.filterMap (fun step =>
      (state.fields.get? step.stepId).map StepFields.concatResponseLogprobs) =
        steps.map (fun step => keptIf config.offloadsLogprobs
          (placeOf state.proxy.session step) .concatResponseLogprobs
            (recordedColumns state step).concatResponseLogprobs) := by
    rw [filterMap_fields stored]
    apply map_congr_left
    intro step _member
    unfold TrainingConfig.fieldsOf
    rw [tito, decide_eq_true rfl, Bool.and_true]
  unfold buildConcatenatedEntries at built
  rw [if_neg (not_not_intro aligned), fields] at built
  dsimp only at built
  cases offloads : config.offloadsLogprobs with
  | false =>
    rw [offloads, filterMap_ref?_resident, if_pos rfl, filterMap_value?_resident,
      ← flatMap_def, if_neg (not_not_intro whole)] at built
    cases built
    exact ⟨rfl, _, rfl⟩
  | true =>
    rw [offloads, filterMap_ref?_keptIf,
      if_neg (fun empty => some_ (map_eq_nil_iff.mp empty))] at built
    split at built
    · cases built
    · split at built
      · cases built
      · cases built
        have reads : ∀ step ∈ steps, readColumn state.store
            { key := placeOf state.proxy.session step, field := .concatResponseLogprobs } =
              some (.logprobs
                ((recordedColumns state step).concatResponseLogprobs.map .number)) := by
          intro step member
          unfold readColumn
          rw [(stored step member).stored]
          rfl
        have entries : ∀ step ∈ steps, logprobsAt state.store
            { key := placeOf state.proxy.session step, field := .concatResponseLogprobs } =
              (recordedColumns state step).concatResponseLogprobs.map .number := by
          intro step member
          unfold logprobsAt
          rw [reads step member]
        refine ⟨_, _, 0, rfl, ?_, ?_⟩
        · intro part member
          rw [zip_map'] at member
          obtain ⟨step, inside, rfl⟩ := mem_map.mp member
          dsimp only
          rw [reads step inside, entries step inside]
        · unfold laidLogprobs
          rw [zip_map', flatMap_map, replicate_zero, nil_append]
          congr 1
          apply flatMap_congr
          intro step member
          dsimp only
          have size := length_concatResponseLogprobs tito kept (recorded step member)
          rw [entries step member, normalizeEntries_numbers size]

theorem snapshotLogprobs_twin {step : StepRecord Message Tool} (stored : StoredAt config state step)
    {promptLength responseLength : Nat} {remote : RecordField (List Logprob)}
    (built : buildSnapshotEntries
      (config.fieldsOf (placeOf state.proxy.session step)
        (recordedColumns state step)).responseLogprobs promptLength responseLength count =
          .ok remote) :
    ∃ twin, buildSnapshotEntries (.resident (recordedColumns state step).responseLogprobs)
        promptLength responseLength count = .ok twin ∧
      if config.offloadsLogprobs then StoredLogprobs state.store count remote twin
      else remote = twin ∧ ∃ values, twin = .values values := by
  unfold buildSnapshotEntries at built
  split at built
  · cases built
  · next aligned =>
      refine ⟨.values (List.replicate promptLength 0 ++
        normalizeEntries (recordedColumns state step).responseLogprobs responseLength), ?_, ?_⟩
      · unfold buildSnapshotEntries
        rw [if_neg aligned]
      · cases offloads : config.offloadsLogprobs with
        | false =>
          unfold TrainingConfig.fieldsOf keptIf at built
          rw [offloads] at built
          cases built
          exact ⟨rfl, _, rfl⟩
        | true =>
          unfold TrainingConfig.fieldsOf keptIf at built
          rw [offloads] at built
          cases built
          have reads : readColumn state.store
              { key := placeOf state.proxy.session step, field := .responseLogprobs } =
                some (.logprobs (recordedColumns state step).responseLogprobs) := by
            unfold readColumn
            rw [stored.stored]
            rfl
          have entries : logprobsAt state.store
              { key := placeOf state.proxy.session step, field := .responseLogprobs } =
                (recordedColumns state step).responseLogprobs := by
            unfold logprobsAt
            rw [reads]
          refine ⟨_, _, promptLength, rfl, ?_, ?_⟩
          · intro part member
            rw [zip_cons_cons, zip_nil_left, mem_singleton] at member
            rw [member]
            dsimp only
            rw [reads, entries]
          · unfold laidLogprobs
            rw [zip_cons_cons, zip_nil_left, flatMap_singleton, entries]

theorem lineage_twin (tito : config.proxy.tokenBuildMode = .tito)
    (kept : ColumnsKept config Call state) {segment : Segment Message Tool}
    (member : segment ∈ splitSessionIntoLineageSegments state.proxy.session) {placement : Placement}
    {remote : TrainingRecord Message Tool}
    (made : LineagePublished config state.proxy.session state.fields.get? segment placement
      remote) :
    ∃ twin, LineagePublished config state.proxy.session (residentFields state) segment placement
      twin ∧ Twins config state.store remote twin := by
  have steps := made.steps
  have some_ : remote.steps ≠ [] := by
    rw [steps]
    exact segment_steps_ne_nil member
  have recorded : ∀ step ∈ remote.steps, step ∈ state.proxy.session.steps := by
    intro step inside
    rw [steps] at inside
    exact segment_steps_recorded member inside
  obtain ⟨logprobs, logprobsBuilt, logprobsTwin⟩ :=
    lineageLogprobs_twin tito kept some_ recorded made.logprobs
  obtain ⟨experts, expertsBuilt, expertsTwin⟩ := experts_twin kept some_ recorded made.experts
  refine ⟨
    { record := remote.record
      steps := remote.steps
      fullLogprobs := logprobs
      routedExperts := experts }, ?_, ?_⟩
  · exact
      { record := made.record
        steps := steps
        logprobs := logprobsBuilt
        experts := expertsBuilt }
  · exact
      { record := rfl
        logprobs := logprobsTwin
        experts := expertsTwin }

theorem timeline_twin (kept : ColumnsKept config Call state) {step : StepRecord Message Tool}
    (member : step ∈ state.proxy.session.steps) {segment : Segment Message Tool}
    {placement : Placement} {remote : TrainingRecord Message Tool}
    (made : StepPublished config state.proxy.session state.fields.get? segment placement step
      remote) :
    ∃ twin, StepPublished config state.proxy.session (residentFields state) segment placement step
      twin ∧ Twins config state.store remote twin := by
  have stored := kept.storedAt member
  have reached : remote.steps ≠ [] ∧ ∀ other ∈ remote.steps, other ∈ state.proxy.session.steps := by
    obtain ⟨past, later, split⟩ := append_of_mem member
    rw [made.steps]
    cases mode : config.proxy.tokenBuildMode with
    | snapshot =>
      refine ⟨cons_ne_nil step [], fun other inside => ?_⟩
      rw [mem_singleton.mp inside]
      exact member
    | tito =>
      have chained := kept.steps.chained_routedExpertsSteps split
      constructor
      · rw [kept.steps.routedExpertsSteps split]
        exact Boundary.segments_ne_nil (Boundary.openSegment_mem_segments
          (append_ne_nil_of_right_ne_nil _ (cons_ne_nil step [])))
      · intro other inside
        obtain ⟨before, after, here⟩ := append_of_mem inside
        obtain ⟨pastHere, laterHere, whole, _opened⟩ := chained before other after here
        rw [whole]
        exact mem_append_right pastHere mem_cons_self
  obtain ⟨fields, found, laid⟩ := made.logprobs
  rw [stored.fields] at found
  cases found
  obtain ⟨logprobs, logprobsBuilt, logprobsTwin⟩ := snapshotLogprobs_twin stored laid
  obtain ⟨experts, expertsBuilt, expertsTwin⟩ :=
    experts_twin kept reached.1 reached.2 made.experts
  refine ⟨
    { record := remote.record
      steps := remote.steps
      fullLogprobs := logprobs
      routedExperts := experts }, ?_, ?_⟩
  · have resident : residentFields state step.stepId =
        some (recordedColumns state step).resident := by
      unfold residentFields
      rw [stored.recorded]
      rfl
    exact
      { made with
        logprobs := ⟨_, resident, logprobsBuilt⟩
        experts := expertsBuilt }
  · exact
      { record := rfl
        logprobs := logprobsTwin
        experts := expertsTwin }

theorem forall₂_twins {β γ : Type} {built : α → β → Prop} {twins : β → γ → Prop}
    {twinOf : α → γ → Prop} {items : List α} {records : List β}
    (each : List.Forall₂ built items records)
    (one : ∀ item ∈ items, ∀ record, built item record →
      ∃ twin, twinOf item twin ∧ twins record twin) :
    ∃ others, List.Forall₂ twinOf items others ∧ List.Forall₂ twins records others := by
  induction each with
  | nil => exact ⟨[], List.Forall₂.nil, List.Forall₂.nil⟩
  | cons here _ ih =>
    obtain ⟨twin, isTwinOf, areTwins⟩ := one _ mem_cons_self _ here
    obtain ⟨others, twinsOf, others_⟩ := ih (fun item member =>
      one item (mem_cons_of_mem _ member))
    exact ⟨twin :: others, List.Forall₂.cons isTwinOf twinsOf, List.Forall₂.cons areTwins others_⟩

theorem finalizeTraining_twins (kept : ColumnsKept config Call state) {publisher : Option String}
    {published : List (TrainingRecord Message Tool)}
    (finalized : finalizeTraining config state.proxy.session state.fields.get? publisher =
      .ok published) :
    ∃ twins, finalizeTraining config state.proxy.session (residentFields state) publisher =
      .ok twins ∧ List.Forall₂ (Twins config state.store) published twins := by
  have timelineTwins : ∀ {records},
      publishTimeline config state.proxy.session state.fields.get? publisher = .ok records →
        ∃ twins, publishTimeline config state.proxy.session (residentFields state) publisher =
          .ok twins ∧ List.Forall₂ (Twins config state.store) records twins := by
    intro records built
    obtain ⟨twins, twinsOf, areTwins⟩ := forall₂_twins (buildAll_iff.mp built)
      (fun item inItems record made => by
        obtain ⟨step, inSteps, shape⟩ := mem_map.mp (fst_mem_of_mem_zipIdx inItems)
        have alone : item.1.steps.getLast? = some step := by
          rw [← shape]
          rfl
        obtain ⟨twin, twinMade, areTwins⟩ :=
          timeline_twin kept inSteps ((publishStep_iff alone).mp made)
        exact ⟨twin, (publishStep_iff alone).mpr twinMade, areTwins⟩)
    exact ⟨twins, buildAll_iff.mpr twinsOf, areTwins⟩
  unfold finalizeTraining at finalized ⊢
  split at finalized
  · cases finalized
  · next some_ =>
      rw [if_neg some_]
      cases mode : config.proxy.tokenBuildMode with
      | snapshot =>
        rw [mode] at finalized
        exact timelineTwins finalized
      | tito =>
        rw [mode] at finalized
        obtain ⟨lineages, built, rest⟩ := Effect.except_bind_eq_ok.mp finalized
        obtain ⟨timeline, others, made⟩ := Effect.except_bind_eq_ok.mp rest
        cases made
        obtain ⟨lineageTwins, lineageTwinsOf, areLineageTwins⟩ :=
          forall₂_twins (buildAll_iff.mp built) (fun item inItems record made => by
            obtain ⟨twin, twinMade, areTwins⟩ := lineage_twin mode kept
              (fst_mem_of_mem_zipIdx inItems) (publishLineage_iff.mp made)
            exact ⟨twin, publishLineage_iff.mpr twinMade, areTwins⟩)
        obtain ⟨timelineTwins_, timelineBuilt, areTimelineTwins⟩ := timelineTwins others
        refine ⟨lineageTwins ++ timelineTwins_, ?_, rel_append areLineageTwins areTimelineTwins⟩
        exact Effect.except_bind_eq_ok.mpr ⟨lineageTwins, buildAll_iff.mpr lineageTwinsOf,
          Effect.except_bind_eq_ok.mpr ⟨timelineTwins_, timelineBuilt, rfl⟩⟩

end Dressage.Training

/-
Where the training columns of recorded steps come from.

Serving a request with its columns serves it, so the steps of a training run are
well recorded. Beside that every recorded step keeps what it was recorded with:
its fields, its stored columns and the rows cut for it, in a session that held
exactly the steps before it.
-/

import Dressage.Proxy.StepOrigins
import Dressage.Proxy.TrainingColumns

namespace Dressage.Proxy

open Lib Transport Generation List OrderedDict

variable {Message Tool Call : Type} {config : TrainingConfig}

def rawChunksOf (chunks : List GenerationChunk) (step : StepRecord Message Tool)
    (payloads : List (Option (List Int))) : List RawExpertChunk :=
  routedExpertsChunks step.promptTokenIds.length 0 chunks payloads

structure ColumnsOf (config : TrainingConfig) (state : TrainingState Message Tool)
    (past : List (StepRecord Message Tool)) (step : StepRecord Message Tool)
    (columns : StepColumns) (carried : List (Option (List Int))) : Prop where
  recorded : state.recorded.get? step.stepId = some columns
  payloads : state.payloads.get? step.stepId = some carried
  fields : state.fields.get? step.stepId = some (config.fieldsOf past.length columns)
  stored : state.store.get? past.length = some columns
  concat : columns.concatResponseLogprobs =
    concatLogprobs config.proxy.tokenBuildMode step columns.responseLogprobs
  rows : ∃ session : Session Message Tool, session.steps = past ∧
    canonicalizeRoutedExperts (rawChunksOf (generationOf state.proxy step) step carried)
        (routedExpertsTarget config.proxy.tokenBuildMode session step).1
        (routedExpertsTarget config.proxy.tokenBuildMode session step).2
        config.routedExpertsDtype =
      .ok columns.routedExperts

structure ColumnsKept (config : TrainingConfig) (Call : Type)
    (state : TrainingState Message Tool) : Prop where
  steps : WellRecorded config.proxy Call state.proxy
  columns : ∀ past step later, state.proxy.session.steps = past ++ step :: later →
    ∃ columns payloads, ColumnsOf config state past step columns payloads

theorem columnsKept_initial (sessionId instanceId : String) (now : ℚ) :
    ColumnsKept config Call (TrainingState.initial sessionId instanceId now :
      TrainingState Message Tool) :=
  { steps := wellRecorded_initial sessionId instanceId now
    columns := fun past step later split => by
      have sizes := congrArg List.length split
      simp [TrainingState.initial, ProxyState.initial, Session.new] at sizes }

variable {past : List (StepRecord Message Tool)} {step : StepRecord Message Tool}
variable {after : ProxyState Message Tool} {state : TrainingState Message Tool} {α β : Type}

theorem ColumnsOf.kept {before after : TrainingState Message Tool} {columns : StepColumns}
    {payloads : List (Option (List Int))}
    (kept : ColumnsOf config before past step columns payloads)
    (recorded : after.recorded.get? step.stepId = before.recorded.get? step.stepId)
    (payloadsKept : after.payloads.get? step.stepId = before.payloads.get? step.stepId)
    (fields : after.fields.get? step.stepId = before.fields.get? step.stepId)
    (stored : after.store.get? past.length = before.store.get? past.length)
    (generations : after.proxy.journal.generations.get? step.stepId =
      before.proxy.journal.generations.get? step.stepId) :
    ColumnsOf config after past step columns payloads := by
  have chunks : generationOf after.proxy step = generationOf before.proxy step := by
    unfold generationOf
    rw [generations]
  exact
    { recorded := recorded.trans kept.recorded
      payloads := payloadsKept.trans kept.payloads
      fields := fields.trans kept.fields
      stored := stored.trans kept.stored
      concat := kept.concat
      rows := by
        rw [chunks]
        exact kept.rows }

theorem ColumnsKept.keepLeftover (event : TrainingEvent Message Tool Call)
    (kept : ColumnsKept config Call state) (steps : WellRecorded config.proxy Call after)
    (undisturbed : Undisturbed state.proxy after) :
    ColumnsKept config Call (keepLeftover state after event) :=
  { steps := steps
    columns := fun past step later split => by
      change after.session.steps = past ++ step :: later at split
      rw [undisturbed.session.steps] at split
      obtain ⟨columns, payloads, columnsOf⟩ := kept.columns past step later split
      have early : past.length ≠ state.proxy.session.steps.length := by
        rw [split, length_append, length_cons]
        omega
      refine ⟨columns, payloads, columnsOf.kept rfl rfl rfl ?_ ?_⟩
      · unfold Proxy.keepLeftover
        cases event.leftover with
        | none => rfl
        | some left => exact get?_set_of_ne _ left early
      · change after.journal.generations.get? step.stepId = _
        rw [undisturbed.generations] }

theorem addedStep_of_undisturbed {before : ProxyState Message Tool}
    (undisturbed : Undisturbed before after) : addedStep before after = none := by
  unfold addedStep
  rw [undisturbed.session.steps, if_pos rfl]

theorem addedStep_of_recorded {before after : ProxyState Message Tool}
    {draft : StepDraft Message Tool Call} {step : StepRecord Message Tool}
    (recorded : Recorded config.proxy before after draft step) :
    addedStep before after = some step := by
  unfold addedStep
  rw [recorded.steps, length_append, length_singleton, if_neg (by omega), getLast?_append]
  rfl

theorem ColumnsKept.recordColumns {event : TrainingEvent Message Tool Call}
    {draft : StepDraft Message Tool Call} {experts : List ExpertChunk}
    (kept : ColumnsKept config Call state) (steps : WellRecorded config.proxy Call after)
    (appended : Recorded config.proxy state.proxy after draft step)
    (cut : cutRoutedExperts config state.proxy after step event.payloads = .ok experts) :
    ColumnsKept config Call (recordColumns config state after step event experts) :=
  { steps := steps
    columns := fun past earlier later split => by
      change after.session.steps = past ++ earlier :: later at split
      rw [appended.steps] at split
      rcases eq_nil_or_concat later with rfl | ⟨front, last, rfl⟩
      · obtain ⟨rfl, same⟩ := append_inj' split rfl
        cases same
        refine ⟨
          { responseLogprobs := event.responseLogprobs
            concatResponseLogprobs :=
              concatLogprobs config.proxy.tokenBuildMode step event.responseLogprobs
            routedExperts := experts }, event.payloads, ?_⟩
        exact
          { recorded := get?_set_self _ _ _
            payloads := get?_set_self _ _ _
            fields := get?_set_self _ _ _
            stored := get?_set_self _ _ _
            concat := rfl
            rows := ⟨state.proxy.session, rfl, cut⟩ }
      · -- An older step: its entries are under other keys.
        rw [concat_eq_append, ← cons_append, ← append_assoc] at split
        have oldSplit := (append_inj' split rfl).1
        have member : earlier ∈ state.proxy.session.steps := by
          rw [oldSplit]
          exact mem_append_right past mem_cons_self
        have older : earlier.stepId ≠ step.stepId := Nat.ne_of_lt
          (Nat.lt_of_le_of_lt (kept.steps.counted earlier member) appended.stepId.1)
        have early : past.length ≠ state.proxy.session.steps.length := by
          rw [oldSplit, length_append, length_cons]
          omega
        obtain ⟨columns, payloads, columnsOf⟩ := kept.columns past earlier front oldSplit
        refine ⟨columns, payloads, columnsOf.kept ?_ ?_ ?_ ?_ ?_⟩
        · exact get?_set_of_ne _ _ older
        · exact get?_set_of_ne _ _ older
        · exact get?_set_of_ne _ _ older
        · exact get?_set_of_ne _ _ early
        · change after.journal.generations.get? earlier.stepId = _
          rw [appended.generations, get?_set_of_ne _ _ older] }

theorem columnsKept_serveTraining [BEq Message] {format : ChatFormat Message Tool Call}
    (event : TrainingEvent Message Tool Call) (kept : ColumnsKept config Call state) :
    ColumnsKept config Call (serveTraining config format state event) := by
  have bounded : ∀ step ∈ state.proxy.session.steps,
      step.lineageId ≤ state.proxy.session.lineageCounter := fun step member =>
    (kept.steps.placed step member).2
  have stepsKept : ∀ chat, WellRecorded config.proxy Call
      (serve config.proxy format state.proxy chat) := fun chat =>
    wellRecorded_serve chat kept.steps
  have served : Served config.proxy Call state.proxy
      (serve config.proxy format state.proxy (event.withRows (.ok ()))) :=
    served_serve (event.withRows (.ok ())) bounded
  unfold serveTraining
  dsimp only
  rcases served with undisturbed | ⟨draft, step, _fits, appended⟩
  · rw [addedStep_of_undisturbed undisturbed]
    exact kept.keepLeftover event (stepsKept _) undisturbed
  · rw [addedStep_of_recorded appended]
    dsimp only
    split
    · next experts cut => exact kept.recordColumns (stepsKept _) appended cut
    · next message _uncut =>
        exact kept.keepLeftover event (stepsKept _) (undisturbed_serve bounded rfl)

theorem columnsKept_trainingRun [BEq Message] (format : ChatFormat Message Tool Call)
    (sessionId instanceId : String) (now : ℚ)
    (events : List (TrainingEvent Message Tool Call)) :
    ColumnsKept config Call (trainingRun config format sessionId instanceId now events) := by
  have preserved : ∀ (state : TrainingState Message Tool)
      (event : TrainingEvent Message Tool Call), ColumnsKept config Call state → True →
        ColumnsKept config Call (serveTraining config format state event) :=
    fun _ event kept _ => columnsKept_serveTraining event kept
  exact Runs.run_invariant_of_forall preserved (columnsKept_initial sessionId instanceId now)
    (fun _ _ => trivial)

def placeOf (session : Session Message Tool) (step : StepRecord Message Tool) : Nat :=
  session.steps.findIdx (fun other => other.stepId = step.stepId)

def recordedColumns (state : TrainingState Message Tool) (step : StepRecord Message Tool) :
    StepColumns :=
  (state.recorded.get? step.stepId).getD
    { responseLogprobs := []
      concatResponseLogprobs := []
      routedExperts := [] }

variable {later : List (StepRecord Message Tool)}

theorem findIdx_stepId (older : ∀ other ∈ past, other.stepId < step.stepId) :
    (past ++ step :: later).findIdx (fun other => other.stepId = step.stepId) = past.length := by
  have absent : ¬ past.findIdx (fun other => decide (other.stepId = step.stepId)) <
      past.length := by
    rw [findIdx_lt_length]
    rintro ⟨other, member, same⟩
    exact absurd (of_decide_eq_true same) (Nat.ne_of_lt (older other member))
  rw [findIdx_append, if_neg absent, findIdx_cons, decide_eq_true rfl]
  exact Nat.zero_add _

theorem WellRecorded.older {proxy : ProxyConfig} {state : ProxyState Message Tool}
    (recorded : WellRecorded proxy Call state) {past : List (StepRecord Message Tool)}
    {step : StepRecord Message Tool} (split : state.session.steps = past ++ step :: later) :
    ∀ other ∈ past, other.stepId < step.stepId := by
  intro other member
  have increasing := recorded.increasing
  rw [split, pairwise_append] at increasing
  exact increasing.2.2 other member step mem_cons_self

theorem ColumnsKept.columnsOf (kept : ColumnsKept config Call state)
    (split : state.proxy.session.steps = past ++ step :: later) :
    ∃ carried, ColumnsOf config state past step (recordedColumns state step) carried := by
  obtain ⟨columns, carried, columnsOf⟩ := kept.columns past step later split
  have same : recordedColumns state step = columns := by
    unfold recordedColumns
    rw [columnsOf.recorded]
    rfl
  rw [same]
  exact ⟨carried, columnsOf⟩

structure StoredAt (config : TrainingConfig) (state : TrainingState Message Tool)
    (step : StepRecord Message Tool) : Prop where
  recorded : state.recorded.get? step.stepId = some (recordedColumns state step)
  fields : state.fields.get? step.stepId =
    some (config.fieldsOf (placeOf state.proxy.session step) (recordedColumns state step))
  stored : state.store.get? (placeOf state.proxy.session step) = some (recordedColumns state step)

theorem ColumnsKept.storedAt (kept : ColumnsKept config Call state)
    (member : step ∈ state.proxy.session.steps) : StoredAt config state step := by
  obtain ⟨past, later, split⟩ := append_of_mem member
  obtain ⟨_carried, columnsOf⟩ := kept.columnsOf split
  have place : placeOf state.proxy.session step = past.length := by
    unfold placeOf
    rw [split]
    exact findIdx_stepId (kept.steps.older split)
  refine
    { recorded := columnsOf.recorded
      fields := ?_
      stored := ?_ }
  · rw [place]
    exact columnsOf.fields
  · rw [place]
    exact columnsOf.stored

theorem filterMap_fields {steps : List (StepRecord Message Tool)}
    (stored : ∀ step ∈ steps, StoredAt config state step) (fieldOf : StepFields → α) :
    steps.filterMap (fun step => (state.fields.get? step.stepId).map fieldOf) =
      steps.map (fun step => fieldOf
        (config.fieldsOf (placeOf state.proxy.session step) (recordedColumns state step))) := by
  induction steps with
  | nil => rfl
  | cons step rest ih =>
    rw [filterMap_cons, (stored step mem_cons_self).fields, Option.map_some,
      ih (fun other member => stored other (mem_cons_of_mem step member))]
    rfl

variable (items : List β)

theorem filterMap_ref?_keptIf (place : β → Nat) (field : TrainingColumn) (value : β → α) :
    (items.map (fun item => keptIf true (place item) field (value item))).filterMap Kept.ref? =
      items.map (fun item => ({ key := place item, field := field } : ColumnRef)) := by
  induction items with
  | nil => rfl
  | cons item rest ih =>
    rw [map_cons, filterMap_cons, ih]
    rfl

theorem filterMap_ref?_resident (place : β → Nat) (field : TrainingColumn) (value : β → α) :
    (items.map (fun item => keptIf false (place item) field (value item))).filterMap
      Kept.ref? = [] := by
  induction items with
  | nil => rfl
  | cons item rest ih =>
    rw [map_cons, filterMap_cons, ih]
    rfl

theorem filterMap_value?_resident (place : β → Nat) (field : TrainingColumn) (value : β → α) :
    (items.map (fun item => keptIf false (place item) field (value item))).filterMap
      Kept.value? = items.map value := by
  induction items with
  | nil => rfl
  | cons item rest ih =>
    rw [map_cons, filterMap_cons, ih]
    rfl

end Dressage.Proxy

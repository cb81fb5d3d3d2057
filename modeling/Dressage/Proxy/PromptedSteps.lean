/-
Recorded steps were prompted with something.

A chat template asked for a generation prompt renders at least one token, and a
merged prompt starts with the tokens of the step it continues. So no recorded tito
step has an empty prompt, and the tokens a lineage segment opens with are there.
-/

import Dressage.Proxy.ColumnOrigins
import Dressage.Proxy.TokenStream

namespace Dressage.Proxy

open Lib Transport Generation Effect

variable {Message Tool Call : Type}

def PromptsRendered (format : ChatFormat Message Tool Call) : Prop :=
  ∀ messages tools ids, format.tokenizeMessages messages tools true = .ok ids → ids ≠ []

def Prompted (steps : List (StepRecord Message Tool)) : Prop :=
  ∀ step ∈ steps, step.promptTokenIds ≠ [] ∧ step.snapshotTokenIds ≠ []

variable {config : ProxyConfig} {format : ChatFormat Message Tool Call}

theorem fullPromptPayload_ne_nil (rendered : PromptsRendered format) {messages : List Message}
    {tools : Option (List Tool)} {failed : Bool} {payload : PromptPayload}
    (built : fullPromptPayload format messages tools failed = .ok payload) :
    payload.inputIds ≠ [] := by
  obtain ⟨inputIds, tokenized, made⟩ := Effect.except_bind_eq_ok.mp built
  cases made
  exact rendered messages tools inputIds tokenized

variable {state before : ProxyState Message Tool}

theorem WellRecorded.lineageTitoPrefixTokenIds_ne_nil (tito : config.tokenBuildMode = .tito)
    (recorded : WellRecorded config Call state) (prompted : Prompted state.session.steps)
    {lineageId : LineageId} (some_ : ∃ step ∈ state.session.steps, step.lineageId = lineageId) :
    lineageTitoPrefixTokenIds state.session lineageId ≠ [] := by
  have inLineage : state.session.lineageSteps lineageId ≠ [] := by
    obtain ⟨step, member, same⟩ := some_
    apply List.ne_nil_of_mem
    exact List.mem_filter.mpr ⟨member, decide_eq_true same⟩
  obtain ⟨early, last, split⟩ := List.eq_nil_or_concat'
    (state.session.lineageSteps lineageId) |>.resolve_left inLineage
  obtain ⟨past, later, whole, _same, kept⟩ := lineageSteps_split split
  obtain ⟨draft, origin⟩ := recorded.origins past last later whole
  have stream := origin.openSegment tito
  rw [kept, ← split, ← lineageTitoPrefixTokenIds_eq] at stream
  rw [stream]
  have member : last ∈ state.session.steps := by
    rw [whole]
    exact List.mem_append_right past List.mem_cons_self
  intro empty
  exact (prompted last member).1 (List.append_eq_nil_iff.mp empty).1

theorem buildPromptTokens_ne_nil (rendered : PromptsRendered format) {mode : TokenBuildMode}
    {model : TitoModel} {session : Session Message Tool} {route : Route} {boundary : Bool}
    {messages : List Message} {tools : Option (List Tool)} {payload : PromptPayload}
    (merging : ∀ base, route.baseStepId.bind session.stepById = some base →
      prefixTokens session route base ≠ [])
    (built : buildPromptTokens format mode model session route boundary messages tools =
      .ok payload) :
    payload.inputIds ≠ [] := by
  unfold buildPromptTokens at built
  split at built
  · exact fullPromptPayload_ne_nil rendered built
  · next base found =>
      split at built
      · exact fullPromptPayload_ne_nil rendered built
      · dsimp only at built
        split at built
        · exact fullPromptPayload_ne_nil rendered built
        · next merged returned =>
            cases built
            dsimp only
            rw [TitoTokenizer.mergeTokens_extends format returned]
            intro empty
            exact merging base found (List.append_eq_nil_iff.mp empty).1

private theorem preparePrompt_prompted (rendered : PromptsRendered format)
    (tito : config.tokenBuildMode = .tito) (request : ChatRequest Message Tool)
    (admission : Admission Message Tool) {routed : Routed Message Tool}
    (recorded : WellRecorded config Call state) (prompted : Prompted state.session.steps)
    (same : state.session.steps = before.session.steps)
    (fits : RouteFits before.session routed.route routed.routeBaseStep.isSome)
    (base : routed.routeBaseStep = routed.route.baseStepId.bind state.session.stepById) :
    Ensures (preparePrompt config format request admission routed) state
      (fun prepared after => after = state ∧ prepared.payload.inputIds ≠ [])
      (fun _ after => after = state) := by
  refine ensures_bind (ensures_getSession ?_)
  refine ensures_bind (ensures_raising (fun payload built => ?_) (fun _ => rfl))
  have filled : payload.inputIds ≠ [] := by
    refine buildPromptTokens_ne_nil rendered (fun baseStep found => ?_) built
    rw [found] at base
    rw [base] at fits
    have member : baseStep ∈ state.session.steps := by
      obtain ⟨stepId, _isBase, isStep⟩ := Option.bind_eq_some_iff.mp found
      exact List.mem_of_find?_eq_some isStep
    unfold prefixTokens
    cases kind : routed.route.type with
    | branch => exact (prompted baseStep member).2
    | create => exact absurd (fits.created kind) (by simp)
    | append =>
      apply recorded.lineageTitoPrefixTokenIds_ne_nil tito prompted
      rw [same]
      exact fits.continued kind
  have kept : (preparedOf routed payload).payload = payload := by
    unfold preparedOf
    split <;> rfl
  refine ensures_pure ⟨rfl, ?_⟩
  rw [kept]
  exact filled

private theorem draftStep_snapshot (tito : config.tokenBuildMode = .tito)
    {request : ChatRequest Message Tool} {admission : Admission Message Tool}
    {routed : Routed Message Tool} {prepared : Prepared} {result : PreemptibleGenerateResult}
    {accepted : Accepted} {interpreted : Interpreted Call} {draft : StepDraft Message Tool Call}
    (drafted : draftStep config format request admission routed prepared result accepted
      interpreted = .ok draft) :
    ∃ response, draft.snapshotTokenIds = prepared.payload.inputIds ++ response := by
  obtain ⟨normalized, _normal, rest⟩ := Effect.except_bind_eq_ok.mp drafted
  obtain ⟨tokenIds, tokens, made⟩ := Effect.except_bind_eq_ok.mp rest
  unfold Proxy.snapshotTokenIds at tokens
  rw [tito] at tokens
  cases tokens
  cases made
  exact ⟨_, rfl⟩

private theorem respond_session (maxTokens : Int) (stepIndex : Nat)
    (draft : StepDraft Message Tool Call) (state : ProxyState Message Tool) :
    Ensures (respond config maxTokens stepIndex draft) state
      (fun _ after => after.session = state.session)
      (fun _ after => after.session = state.session) := by
  refine ensures_bind (ensures_getSession ?_)
  refine ensures_bind ((looks_failIf _ _).ensures (fun _ => ?_) (fun _ => rfl))
  refine ensures_bind (ensures_modify (ensures_pure ?_))
  split <;> rfl

theorem Undisturbed.prompted {after : ProxyState Message Tool} (kept : Undisturbed before after)
    (prompted : Prompted before.session.steps) :
    Prompted after.session.steps := by
  rw [kept.session.steps]
  exact prompted

private theorem Recorded.prompted {after : ProxyState Message Tool}
    {draft : StepDraft Message Tool Call} {step : StepRecord Message Tool}
    (recorded : Recorded config before after draft step)
    (filled : draft.prepared.payload.inputIds ≠ []) (snapshot : draft.snapshotTokenIds ≠ [])
    (prompted : Prompted before.session.steps) : Prompted after.session.steps := by
  obtain ⟨refOf, _index, shape, _reads⟩ := recorded.built
  rw [recorded.steps]
  intro other member
  rcases List.mem_append.mp member with old | new
  · exact prompted other old
  · rw [List.mem_singleton] at new
    rw [new, shape]
    exact ⟨filled, snapshot⟩

section

variable (rendered : PromptsRendered format)
include rendered

private theorem chatCompletions_prompted [BEq Message] (tito : config.tokenBuildMode = .tito)
    (request : ChatRequest Message Tool) (answers : Answers Call)
    (wellRecorded : WellRecorded config Call state) (prompted : Prompted state.session.steps) :
    Ensures (chatCompletions config format request answers) state
      (fun _ after => Prompted after.session.steps)
      (fun _ after => Prompted after.session.steps) := by
  refine ensures_bind ((admitRequest_ensures request answers state).mono
    (fun admission admitted entry => ?_) (fun _ _ kept => kept.prompted prompted))
  obtain ⟨keptAdmit, previous, _turn⟩ := entry
  rw [← keptAdmit.session.steps] at previous
  have atAdmit := keptAdmit.prompted prompted
  refine ensures_bind ((routeRequest_ensures request previous).mono
    (fun routed atRoute routing => ?_) (fun _ _ kept => kept.prompted atAdmit))
  obtain ⟨keptRoute, fits, base⟩ := routing
  have here := keptRoute.prompted atAdmit
  have recordedHere : WellRecorded config Call atRoute :=
    wellRecorded.undisturbed (keptAdmit.trans keptRoute)
  refine ensures_bind ((preparePrompt_prompted rendered tito request admission recordedHere here
    keptRoute.session.steps fits base).mono (fun prepared same ready => ?_) (fun _ _ ended => by
      rw [ended]
      exact here))
  obtain ⟨rfl, filled⟩ := ready
  refine ensures_bind ((checkBudget_looks request admission.turnId prepared same).mono
    (fun maxTokens unchanged budget => ?_) (fun _ _ refused => by
      rw [refused]
      exact here))
  cases budget
  refine ensures_bind ((generate_ensures request answers admission prepared.payload.inputIds
    maxTokens same).mono (fun result after generation => ?_) (fun _ _ refused => by
      rw [refused]
      exact here))
  obtain ⟨rfl, _chunks⟩ := generation
  refine ensures_bind ((acceptResult_ensures result after).mono
    (fun accepted stamped acceptance => ?_) (fun _ _ kept => kept.prompted here))
  have atAccept := acceptance.1.prompted here
  refine ensures_bind ((interpret_ensures request answers admission result accepted stamped).mono
    (fun interpreted parsed kept => ?_) (fun _ _ kept => kept.prompted atAccept))
  have atParse := kept.prompted atAccept
  refine ensures_bind (ensures_raising (fun draft drafted => ?_) (fun _ => atParse))
  obtain ⟨response, snapshot⟩ := draftStep_snapshot tito drafted
  obtain ⟨_routed, isPrepared, _result, _accepted, _admission, _interpreted⟩ :=
    draftStep_ok drafted
  have filledDraft : draft.prepared.payload.inputIds ≠ [] := by
    rw [isPrepared]
    exact filled
  have snapshotDraft : draft.snapshotTokenIds ≠ [] := by
    rw [snapshot]
    intro empty
    exact filled (List.append_eq_nil_iff.mp empty).1
  refine ensures_bind (ensures_getSession ?_)
  refine ensures_bind ((recordStep_ensures answers draft parsed).mono
    (fun _ committed recorded => ?_) (fun _ committed ended => ?_))
  · obtain ⟨step, recorded⟩ := recorded
    have atCommit := recorded.prompted filledDraft snapshotDraft atParse
    refine (respond_session maxTokens _ draft committed).mono (fun _ _ done => ?_)
      (fun _ _ done => ?_)
    · rw [done]
      exact atCommit
    · rw [done]
      exact atCommit
  · rcases ended with kept | ⟨step, recorded⟩
    · exact kept.prompted atParse
    · exact recorded.prompted filledDraft snapshotDraft atParse

theorem prompted_serve [BEq Message] (tito : config.tokenBuildMode = .tito)
    (event : ChatEvent Message Tool Call) (wellRecorded : WellRecorded config Call state)
    (prompted : Prompted state.session.steps) :
    Prompted (serve config format state event).session.steps :=
  (chatCompletions_prompted rendered tito event.request event.answers wellRecorded prompted).final

theorem prompted_trainingRun [BEq Message] {config : TrainingConfig}
    (tito : config.proxy.tokenBuildMode = .tito) (sessionId instanceId : String) (now : ℚ)
    (events : List (TrainingEvent Message Tool Call)) :
    Prompted (trainingRun config format sessionId instanceId now events).proxy.session.steps := by
  have preserved : ∀ (state : TrainingState Message Tool)
      (event : TrainingEvent Message Tool Call),
      ColumnsKept config Call state ∧ Prompted state.proxy.session.steps → True →
        ColumnsKept config Call (serveTraining config format state event) ∧
          Prompted (serveTraining config format state event).proxy.session.steps := by
    intro state event holds _
    obtain ⟨kept, prompted⟩ := holds
    have served : ∀ chat, Prompted (serve config.proxy format state.proxy chat).session.steps :=
      fun chat => prompted_serve rendered tito chat kept.steps prompted
    refine ⟨columnsKept_serveTraining event kept, ?_⟩
    unfold serveTraining
    dsimp only
    split
    · exact served _
    · split <;> exact served _
  have start : ColumnsKept config Call
        (TrainingState.initial sessionId instanceId now : TrainingState Message Tool) ∧
      Prompted (TrainingState.initial sessionId instanceId now :
        TrainingState Message Tool).proxy.session.steps :=
    ⟨columnsKept_initial sessionId instanceId now, fun step member => by cases member⟩
  exact (Runs.run_invariant_of_forall preserved start (fun _ _ => trivial)).2

end

end Dressage.Proxy

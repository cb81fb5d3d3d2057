/-
Required tool-call hooks and the responses they gate.

The key of a dispatch is claimed before its hooks run, and a step index does not advance while
requests fail: when a required hook fails, the retry meets the claimed key, runs nothing and
hands its tool calls out.
-/

import Dressage.Proxy.HookClaims
import Dressage.Proxy.PlainFormat
import Dressage.Proxy.StepOrigins

namespace Dressage.Proxy

open Lib Lib.Effect Generation List

variable {Message Tool Call : Type} {config : ProxyConfig} {format : ChatFormat Message Tool Call}

structure SameHooks (before after : ProxyState Message Tool) : Prop where
  chain : after.chain = before.chain
  dispatches : after.journal.dispatches = before.journal.dispatches
  responses : after.journal.toolCallResponses = before.journal.toolCallResponses

theorem SameHooks.refl (state : ProxyState Message Tool) : SameHooks state state :=
  { chain := rfl
    dispatches := rfl
    responses := rfl }

theorem SameHooks.trans {first second third : ProxyState Message Tool}
    (left : SameHooks first second) (right : SameHooks second third) : SameHooks first third :=
  { chain := right.chain.trans left.chain
    dispatches := right.dispatches.trans left.dispatches
    responses := right.responses.trans left.responses }

def Quiet {α : Type} (stage : Pipeline Message Tool α) : Prop :=
  ∀ state, Ensures stage state (fun _ after => SameHooks state after)
    (fun _ after => SameHooks state after)

variable {α : Type}

theorem Looks.quiet {stage : Pipeline Message Tool α} (looks : Looks stage) :
    Quiet stage := fun state =>
  looks.ensures (fun _ => SameHooks.refl state) (fun _ => SameHooks.refl state)

theorem quiet_pure (value : α) : Quiet (pure value : Pipeline Message Tool α) :=
  fun state => SameHooks.refl state

theorem quiet_fail (refusal : Refusal) : Quiet (fail refusal : Pipeline Message Tool α) :=
  fun state => SameHooks.refl state

theorem quiet_bind {β : Type} {first : Pipeline Message Tool α} {next : α → Pipeline Message Tool β}
    (quiet : Quiet first) (rest : ∀ value, Quiet (next value)) :
    Quiet (first >>= next) := fun state =>
  ensures_bind ((quiet state).mono
    (fun value middle same => (rest value middle).mono (fun _ _ later => same.trans later)
      (fun _ _ later => same.trans later))
    (fun _ _ same => same))

theorem quiet_getSession : Quiet (getSession : Pipeline Message Tool (Session Message Tool)) :=
  fun state => SameHooks.refl state

theorem quiet_modifySession (change : Session Message Tool → Session Message Tool) :
    Quiet (modifySession change) := fun _ =>
  { chain := rfl
    dispatches := rfl
    responses := rfl }

theorem quiet_onSession (operation : Effect (Session Message Tool) String α) :
    Quiet (onSession operation) := fun _ =>
  { chain := rfl
    dispatches := rfl
    responses := rfl }

theorem quiet_raising (result : Except String α) :
    Quiet (raising result : Pipeline Message Tool α) := fun state =>
  ensures_raising (fun _ _ => SameHooks.refl state) (fun _ => SameHooks.refl state)

theorem quiet_resolveTurn (requested : Option String) (uuidHex : String) :
    Quiet (resolveTurn requested uuidHex : Pipeline Message Tool String) := by
  refine quiet_bind (quiet_onSession _) (fun resolved => ?_)
  cases resolved with
  | ok turnId => exact quiet_pure turnId
  | error message => exact quiet_fail _

variable (request : ChatRequest Message Tool)

theorem quiet_routeRequest [BEq Message] (admission : Admission Message Tool) :
    Quiet (routeRequest config format request admission) :=
  quiet_bind (quiet_onSession _) (fun _ => quiet_bind (quiet_raising _) (fun _ =>
    quiet_bind quiet_getSession (fun _ => quiet_bind (quiet_modifySession _) (fun _ =>
      quiet_pure _))))

theorem looks_preparePrompt (admission : Admission Message Tool) (routed : Routed Message Tool) :
    Looks (preparePrompt config format request admission routed) := fun _ =>
  ensures_bind (ensures_getSession (ensures_bind (ensures_raising (fun _ _ => ensures_pure rfl)
    (fun _ => rfl))))

theorem looks_generate (answers : Answers Call) (admission : Admission Message Tool)
    (inputIds : List Nat) (maxTokens : Int) :
    Looks (generate config request answers admission inputIds maxTokens) := fun state =>
  (generate_ensures request answers admission inputIds maxTokens state).mono
    (fun _ _ generated => generated.1) (fun _ _ same => same)

theorem quiet_acceptResult (result : PreemptibleGenerateResult) :
    Quiet (acceptResult config result : Pipeline Message Tool Accepted) := by
  have finish : Quiet (do
      modifySession (stampRolloutEpoch result)
      pure (acceptedOf config result) : Pipeline Message Tool Accepted) :=
    quiet_bind (quiet_modifySession _) (fun _ => quiet_pure _)
  refine quiet_bind quiet_getSession (fun session => ?_)
  refine quiet_bind (looks_failIf _ _).quiet (fun _ => ?_)
  split
  · exact finish
  · exact quiet_bind (looks_raiseIfPartialVersionSpanExceeded _ _).quiet (fun _ => finish)

theorem quiet_recordStep (answers : Answers Call) (draft : StepDraft Message Tool Call) :
    Quiet (recordStep config format answers draft) := by
  refine quiet_bind (quiet_raising _) (fun _ => ?_)
  refine quiet_bind quiet_getSession (fun session => ?_)
  refine quiet_bind (quiet_modifySession _) (fun _ => ?_)
  have committed : ∀ (change : ProxyState Message Tool → ProxyState Message Tool),
    (∀ state, SameHooks state (change state)) →
      Quiet (modify change : Pipeline Message Tool Unit) := fun _ same state => same state
  have same : ∀ (step : StepRecord Message Tool) (cache : SnapshotCache)
      (chunks : List GenerationChunk) (queue : ProxyState Message Tool → Transport.TransferQueue)
      (state : ProxyState Message Tool),
      SameHooks state (commitStep format step cache chunks (queue state) state) := fun _ _ _ _ _ =>
    { chain := rfl
      dispatches := rfl
      responses := rfl }
  cases session.lineages.get? draft.routed.route.lineageId with
  | none => exact quiet_fail _
  | some lineage =>
    dsimp only
    cases config.transferQueue with
    | none => exact committed _ (fun state => same _ _ _ (fun current => current.queue) state)
    | some queueConfig =>
      refine quiet_bind (quiet_modifySession _) (fun _ => ?_)
      refine quiet_bind quiet_getSession (fun _ => ?_)
      dsimp only
      cases answers.put with
      | failed message written =>
        refine quiet_bind (committed _ (fun state => ?_)) (fun _ => quiet_fail _)
        exact
          { chain := rfl
            dispatches := rfl
            responses := rfl }
      | stored =>
        exact quiet_bind (committed _ (fun state => same _ _ _
          (fun current => storeColumns _ _ _ current.queue) state))
          (fun _ => (looks_failIf _ _).quiet)

structure HooksSound (state : ProxyState Message Tool) : Prop where
  claims : ClaimsJournaled state
  gated : Gated state.journal

theorem hooksSound_initial (sessionId instanceId : String) (now : ℚ) :
    HooksSound (ProxyState.initial sessionId instanceId now : ProxyState Message Tool) :=
  { claims := nofun
    gated := nofun }

theorem HooksSound.kept {before after : ProxyState Message Tool} (sound : HooksSound before)
    (same : SameHooks before after)
    (sessionId : after.session.sessionId = before.session.sessionId) : HooksSound after := by
  constructor
  · unfold ClaimsJournaled
    rw [same.chain, same.dispatches, sessionId]
    exact sound.claims
  · unfold Gated Completed
    rw [same.dispatches, same.responses]
    exact sound.gated

theorem HooksSound.dispatched {before after : ProxyState Message Tool} {entry : Dispatch}
    (sound : HooksSound before) (dispatched : Dispatched before after entry) :
    HooksSound after := by
  refine
    { claims := dispatched.claims
      gated := ?_ }
  intro response member
  rw [dispatched.responses] at member
  obtain ⟨dispatch, listed, completed⟩ := sound.gated response member
  refine ⟨dispatch, ?_, completed⟩
  rw [dispatched.dispatches]
  exact mem_append_left _ listed

def resolvedTurn (state : ProxyState Message Tool) (event : ChatEvent Message Tool Call) :
    Option String :=
  match (state.session.resolveTurnId event.request.turnId event.answers.uuidHex).1 with
  | .ok turnId => some turnId
  | .error _ => none

def parsesToolCalls (answers : Answers Call) : Bool :=
  match answers.toolCalls with
  | .done parsed => !parsed.2.isEmpty
  | _ => false

/-- The request does not come back to a spoiled key: a `before` dispatch that has claimed the
key of its turn and step index was made for that very turn, and its required hooks completed. -/
def Unspoiled (state : ProxyState Message Tool) (event : ChatEvent Message Tool Call) : Prop :=
  parsesToolCalls event.answers = true → ∀ turnId ∈ resolvedTurn state event,
    ∀ dispatch ∈ state.journal.dispatches, dispatch.stage = .before → dispatch.claimed = true →
      dispatch.stepIndex = state.session.steps.length →
        turnKey (some dispatch.turnId) = turnKey (some turnId) →
          dispatch.turnId = turnId ∧ dispatch.requiredCompleted

instance (state : ProxyState Message Tool) (event : ChatEvent Message Tool Call) :
    Decidable (Unspoiled state event) :=
  inferInstanceAs (Decidable (parsesToolCalls event.answers = true →
    ∀ turnId ∈ resolvedTurn state event, _))

/-- A request on its way to the `before` stage. -/
structure Underway (start now : ProxyState Message Tool) : Prop where
  sound : HooksSound now
  steps : now.session.steps = start.session.steps
  sessionId : now.session.sessionId = start.session.sessionId
  earlier : ∀ dispatch ∈ now.journal.dispatches, dispatch.stage = .before →
    dispatch ∈ start.journal.dispatches

theorem Underway.kept {start now later : ProxyState Message Tool} (underway : Underway start now)
    (undisturbed : Undisturbed now later) (same : SameHooks now later) : Underway start later :=
  { sound := underway.sound.kept same undisturbed.session.sessionId
    steps := undisturbed.session.steps.trans underway.steps
    sessionId := undisturbed.session.sessionId.trans underway.sessionId
    earlier := by
      rw [same.dispatches]
      exact underway.earlier }

section Request

variable {chain : ToolCallHookChain} {sandbox : String} {request : ChatRequest Message Tool}

private theorem dispatchAfter_underway (configured : config.toolCallHookChain = some chain)
    (present : sandbox ≠ "") (instanceId turnId : String) (stepIndex : Nat)
    (messages : List Message) (answers : DispatchAnswers) {start now : ProxyState Message Tool}
    (underway : Underway start now) :
    Ensures (dispatchAfterToolCallHooks config format (some sandbox) instanceId turnId stepIndex
        messages answers) now (fun _ after => Underway start after)
      (fun _ after => HooksSound after) := by
  have dispatchedAfter : ∀ (after : ProxyState Message Tool) (entry : Dispatch),
      Dispatched now after entry → entry.stage = .after → Underway start after := by
    intro after entry dispatched isAfter
    refine
      { sound := underway.sound.dispatched dispatched
        steps := by rw [dispatched.session]; exact underway.steps
        sessionId := by rw [dispatched.session]; exact underway.sessionId
        earlier := fun dispatch member isBefore => ?_ }
    rw [dispatched.dispatches, mem_append, mem_singleton] at member
    rcases member with old | rfl
    · exact underway.earlier dispatch old isBefore
    · rw [isAfter] at isBefore
      cases isBefore
  unfold dispatchAfterToolCallHooks
  split
  · refine (dispatchToolCallHooks_claims configured present _ _ _ _ _ _
      underway.sound.claims).mono (fun _ after outcome => ?_) (fun _ after outcome => ?_)
    · obtain ⟨entry, dispatched, isAfter, _⟩ := outcome
      exact dispatchedAfter after entry dispatched isAfter
    · obtain ⟨entry, dispatched, _⟩ := outcome
      exact underway.sound.dispatched dispatched
  · exact underway

variable {state : ProxyState Message Tool}

private theorem admitRequest_underway [BEq Message]
    (configured : config.toolCallHookChain = some chain) (present : sandbox ≠ "")
    (sandboxed : request.sandboxId = some sandbox) (answers : Answers Call)
    (sound : HooksSound state) :
    Ensures (admitRequest config format request answers) state (fun _ after => Underway state after)
      (fun _ after => HooksSound after) := by
  have here : Underway state state :=
    { sound := sound
      steps := rfl
      sessionId := rfl
      earlier := fun _ member _ => member }
  refine ensures_bind (undisturbed_modifySession ?_)
  have adopted := here.kept (Undisturbed.of_session (sameSteps_adoptInstanceId request
    state.session)) (quiet_modifySession (adoptInstanceId request) state)
  refine ensures_bind (((resolveTurn_ensures request.turnId answers.uuidHex _).and
    (quiet_resolveTurn request.turnId answers.uuidHex _)).mono (fun turnId resolved turn => ?_)
    (fun _ _ ended => (adopted.kept ended.1 ended.2).sound))
  have underway := adopted.kept turn.1.1 turn.2
  refine ensures_bind (ensures_getSession ?_)
  refine ensures_bind ((looks_raiseIfStaleRolloutEpoch _ _).ensures (fun _ => ?_)
    (fun _ => underway.sound))
  refine ensures_bind (ensures_raising (fun normalized _ => ?_) (fun _ => underway.sound))
  apply ensures_bind
  rw [sandboxed]
  exact (dispatchAfter_underway configured present _ _ _ _ _ underway).mono
    (fun _ _ onward => ensures_pure onward) (fun _ _ ended => ended)

private theorem interpret_completed (configured : config.toolCallHookChain = some chain)
    (present : sandbox ≠ "") (sandboxed : request.sandboxId = some sandbox)
    {answers : Answers Call} {start now : ProxyState Message Tool}
    {admission : Admission Message Tool}
    (turn : (start.session.resolveTurnId request.turnId answers.uuidHex).1 = .ok admission.turnId)
    (unspoiled : Unspoiled start { request := request, answers := answers })
    (result : PreemptibleGenerateResult) (accepted : Accepted) (underway : Underway start now) :
    Ensures (interpret config request answers admission result accepted) now
      (fun interpreted after => HooksSound after ∧ (interpreted.toolCalls.isEmpty = false →
        Completed after.journal admission.turnId start.session.steps.length))
      (fun _ after => HooksSound after) := by
  unfold interpret
  dsimp only
  split
  · exact ⟨underway.sound, nofun⟩
  · refine ensures_bind (ensures_awaitOutcome (fun reasoning _ => ?_) (fun _ => underway.sound))
    refine ensures_bind (ensures_awaitOutcome (fun parsed isParsed => ?_) (fun _ => underway.sound))
    split
    · exact ⟨underway.sound, nofun⟩
    · next calls =>
        refine ensures_bind (ensures_getSession ?_)
        apply ensures_bind
        rw [sandboxed]
        refine (dispatchToolCallHooks_claims configured present _ _ _ _ _ _
          underway.sound.claims).mono (fun metadata after outcome => ensures_pure ?_)
          (fun _ after outcome => ?_)
        · obtain ⟨entry, dispatched, stage, turnId, stepIndex, completed⟩ := outcome
          refine ⟨underway.sound.dispatched dispatched, fun _ => ?_⟩
          rw [underway.steps] at stepIndex
          rcases completed with ran | ⟨dispatch, listed, claimed, sameKey⟩
          · refine ⟨entry, ?_, stage, turnId, stepIndex, ran⟩
            rw [dispatched.dispatches]
            exact mem_append_right _ (mem_singleton_self _)
          · -- The key was claimed before: by a dispatch of this turn and step that completed.
            obtain ⟨sameTurn, sameIndex, sameStage⟩ := buildToolCallIdempotencyKey_inj sameKey
            rw [stage] at sameStage
            rw [turnId] at sameTurn
            rw [stepIndex] at sameIndex
            have wanted : parsesToolCalls answers = true := by
              unfold parsesToolCalls
              rw [isParsed]
              simpa using calls
            have resolved : admission.turnId ∈ resolvedTurn start
                { request := request, answers := answers } := by
              unfold resolvedTurn
              rw [turn]
              rfl
            obtain ⟨isTurn, ranBefore⟩ := unspoiled wanted admission.turnId resolved dispatch
              (underway.earlier dispatch listed sameStage) sameStage claimed sameIndex sameTurn
            refine ⟨dispatch, ?_, sameStage, isTurn, sameIndex, ranBefore⟩
            rw [dispatched.dispatches]
            exact mem_append_left _ listed
        · obtain ⟨entry, dispatched, _⟩ := outcome
          exact underway.sound.dispatched dispatched

private theorem respond_sound {draft : StepDraft Message Tool Call} {maxTokens : Int}
    {stepIndex : Nat} (sound : HooksSound state)
    (completed : draft.interpreted.toolCalls.isEmpty = false →
      Completed state.journal draft.admission.turnId stepIndex) :
    Ensures (respond config maxTokens stepIndex draft) state (fun _ after => HooksSound after)
      (fun _ after => HooksSound after) := by
  refine ensures_bind (ensures_getSession ?_)
  refine ensures_bind ((looks_failIf _ _).ensures (fun _ => ?_) (fun _ => sound))
  refine ensures_bind (ensures_modify (ensures_pure ?_))
  split
  · exact sound
  · next calls =>
      refine
        { claims := sound.claims
          gated := fun response member => ?_ }
      simp only [journalResponse, mem_append, mem_singleton] at member
      rcases member with old | rfl
      · exact sound.gated response old
      · exact completed (by simpa using calls)

private theorem chatCompletions_sound [BEq Message]
    (configured : config.toolCallHookChain = some chain) (present : sandbox ≠ "")
    (sandboxed : request.sandboxId = some sandbox) {answers : Answers Call}
    (unspoiled : Unspoiled state { request := request, answers := answers })
    (sound : HooksSound state) :
    Ensures (chatCompletions config format request answers) state (fun _ after => HooksSound after)
      (fun _ after => HooksSound after) := by
  refine ensures_bind (((admitRequest_ensures request answers state).and
    (admitRequest_underway configured present sandboxed answers sound)).mono (fun admission admitted entry => ?_)
    (fun _ _ ended => ended.2))
  obtain ⟨⟨keptAdmit, previous, turn⟩, underway⟩ := entry
  rw [← keptAdmit.session.steps] at previous
  refine ensures_bind (((routeRequest_ensures request previous).and (quiet_routeRequest request
    admission admitted)).mono (fun routed atRoute routing => ?_)
    (fun _ _ ended => (underway.kept ended.1 ended.2).sound))
  have underway := underway.kept routing.1.1 routing.2
  refine ensures_bind ((looks_preparePrompt request admission routed).ensures (fun prepared => ?_)
    (fun _ => underway.sound))
  refine ensures_bind ((checkBudget_looks request admission.turnId prepared).ensures
    (fun maxTokens => ?_) (fun _ => underway.sound))
  refine ensures_bind ((looks_generate request answers admission prepared.payload.inputIds
    maxTokens).ensures (fun result => ?_) (fun _ => underway.sound))
  refine ensures_bind (((acceptResult_ensures result atRoute).and (quiet_acceptResult result
    atRoute)).mono (fun accepted stamped acceptance => ?_)
    (fun _ _ ended => (underway.kept ended.1 ended.2).sound))
  have underway := underway.kept acceptance.1.1 acceptance.2
  refine ensures_bind (((interpret_ensures request answers admission result accepted stamped).and
    (interpret_completed configured present sandboxed turn unspoiled result accepted
      underway)).mono (fun interpreted parsed reading => ?_) (fun _ _ ended => ended.2))
  obtain ⟨keptParse, soundParse, completed⟩ := reading
  refine ensures_bind (ensures_raising (fun draft drafted => ?_) (fun _ => soundParse))
  obtain ⟨_, _, _, _, admissionIs, interpretedIs⟩ := draftStep_ok drafted
  rw [← interpretedIs, ← admissionIs, ← underway.steps, ← keptParse.session.steps] at completed
  refine ensures_bind (ensures_getSession ?_)
  refine ensures_bind (((recordStep_ensures answers draft parsed).and (quiet_recordStep answers
    draft parsed)).mono (fun _ committed recording => ?_) (fun _ after ended => ?_))
  · obtain ⟨⟨step, recorded⟩, same⟩ := recording
    refine respond_sound (soundParse.kept same recorded.sessionId) (fun calls => ?_)
    unfold Completed
    rw [same.dispatches]
    exact completed calls
  · obtain ⟨kept | ⟨step, recorded⟩, same⟩ := ended
    · exact soundParse.kept same kept.session.sessionId
    · exact soundParse.kept same recorded.sessionId

end Request

def Sandboxed (event : ChatEvent Message Tool Call) : Prop :=
  ∃ sandbox, event.request.sandboxId = some sandbox ∧ sandbox ≠ ""

theorem hooksSound_serve [BEq Message] {chain : ToolCallHookChain}
    (configured : config.toolCallHookChain = some chain) {state : ProxyState Message Tool}
    {event : ChatEvent Message Tool Call} (sound : HooksSound state) (sandboxed : Sandboxed event)
    (unspoiled : Unspoiled state event) : HooksSound (serve config format state event) := by
  obtain ⟨sandbox, named, present⟩ := sandboxed
  exact (chatCompletions_sound configured present named unspoiled sound).final

/-- With a chain and a sandbox, at every moment of a run in which no request comes back to a
spoiled key, every response with tool calls had its required hooks completed. -/
theorem required_hooks_gate_tool_calls [BEq Message] {chain : ToolCallHookChain}
    (configured : config.toolCallHookChain = some chain) (sessionId instanceId : String) (now : ℚ)
    {events : List (ChatEvent Message Tool Call)} (sandboxed : ∀ event ∈ events, Sandboxed event)
    (unspoiled : Runs.Admits (serve config format) Unspoiled
      (ProxyState.initial sessionId instanceId now) events)
    {past : List (ChatEvent Message Tool Call)} (early : past <+: events) :
    Gated (Runs.run (serve config format) (ProxyState.initial sessionId instanceId now)
      past).journal := by
  have preserved : ∀ (state : ProxyState Message Tool) (event : ChatEvent Message Tool Call),
      HooksSound state → Unspoiled state event ∧ Sandboxed event →
        HooksSound (serve config format state event) := fun _ _ sound admissible =>
    hooksSound_serve configured sound admissible.2 admissible.1
  have admitted := Runs.admits_and unspoiled (Runs.admits_of_forall sandboxed)
  exact (Runs.prefix_invariant preserved (hooksSound_initial sessionId instanceId now) admitted
    early).gated

def requiredHook : ToolCallHook :=
  { typeName := "SandboxHook"
    name := "prepare"
    required := true
    order := 0 }

def hookedConfig : ProxyConfig :=
  { PlainFormat.config with
    toolCallHookChain := buildToolCallHookChain [requiredHook] none none }

def toolCallAsked (outcome : HookOutcome) : ChatEvent PlainFormat.PlainMessage String String :=
  { request := PlainFormat.request [⟨"user", "hi"⟩]
    answers :=
      { PlainFormat.answers [.answered 0 (PlainFormat.response "go#" "v1") false] "go" ["call"] with
        beforeDispatch :=
          { now := 0
            appliesTo := fun _ => some true
            outcome := fun _ => outcome } } }

theorem toolCallAsked_sandboxed (outcome : HookOutcome) : Sandboxed (toolCallAsked outcome) :=
  ⟨"sandbox", rfl, by decide⟩

theorem required_hooks_gate_tool_calls_prepared :
    (Runs.run (serve hookedConfig PlainFormat.format) PlainFormat.start
        [toolCallAsked .completed]).journal.toolCallResponses = [("turn", 0)] ∧
      Gated (Runs.run (serve hookedConfig PlainFormat.format) PlainFormat.start
        [toolCallAsked .completed]).journal := by
  have unspoiled : Runs.Admits (serve hookedConfig PlainFormat.format) Unspoiled PlainFormat.start
      [toolCallAsked .completed] := by
    decide +kernel
  refine ⟨by decide +kernel, ?_⟩
  refine required_hooks_gate_tool_calls rfl "session" "instance" 0 (fun event member => ?_)
    unspoiled (prefix_refl _)
  rw [mem_singleton.mp member]
  exact toolCallAsked_sandboxed .completed

/-- The hook fails, the request is refused, and the agent asks again: the retry carries its
tool calls though the hook never completed. No key expires here. -/
theorem retry_passes_failed_hook :
    hookedConfig.toolCallHookChain.map ToolCallHookChain.keyTtlSeconds = some none ∧
      (∀ event ∈ [toolCallAsked (.raised "RuntimeError" "unprepared"),
        toolCallAsked (.raised "RuntimeError" "unprepared")], Sandboxed event) ∧
      (Runs.run (serve hookedConfig PlainFormat.format) PlainFormat.start
        [toolCallAsked (.raised "RuntimeError" "unprepared"),
          toolCallAsked (.raised "RuntimeError" "unprepared")]).journal.toolCallResponses =
            [("turn", 0)] ∧
      ¬ Gated (Runs.run (serve hookedConfig PlainFormat.format) PlainFormat.start
        [toolCallAsked (.raised "RuntimeError" "unprepared"),
          toolCallAsked (.raised "RuntimeError" "unprepared")]).journal := by
  refine ⟨rfl, fun event member => ?_, by decide +kernel, by decide +kernel⟩
  simp only [mem_cons, not_mem_nil, or_false, or_self] at member
  rw [member]
  exact toolCallAsked_sandboxed _

end Dressage.Proxy

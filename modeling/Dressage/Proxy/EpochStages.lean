/-
What the stages of a request do to the guards of its session.

Apart from accepting a result and recording a step, every stage leaves the recorded steps and
the stamped epoch alone. Only the check at admission and a call whose epoch has passed refuse a
request as stale.
-/

import Dressage.Proxy.RolloutEpochs

namespace Dressage.Proxy.RolloutEpochs

open Lib Lib.Effect Generation GenerationController

variable {Message Tool Call : Type}

def staleRefusal : Refusal → Bool
  | .http _ (.trajectoryVersionChanged _ (.epochs _ _) _ _) => true
  | _ => false

structure SameGuards (before after : Session Message Tool) : Prop where
  steps : after.steps = before.steps
  rolloutEpoch : after.rolloutEpoch = before.rolloutEpoch

theorem SameGuards.refl (session : Session Message Tool) : SameGuards session session :=
  { steps := rfl
    rolloutEpoch := rfl }

theorem SameGuards.trans {first second third : Session Message Tool}
    (left : SameGuards first second) (right : SameGuards second third) :
    SameGuards first third :=
  { steps := right.steps.trans left.steps
    rolloutEpoch := right.rolloutEpoch.trans left.rolloutEpoch }

def Keeps {α : Type} (stage : Pipeline Message Tool α) : Prop :=
  ∀ state, Ensures stage state (fun _ after => SameGuards state.session after.session)
    (fun refusal after => SameGuards state.session after.session ∧ staleRefusal refusal = false)

section Rules

variable {α β : Type}

theorem keeps_bind {first : Pipeline Message Tool α} {next : α → Pipeline Message Tool β}
    (keepsFirst : Keeps first) (keepsNext : ∀ value, Keeps (next value)) :
    Keeps (first >>= next) := by
  intro state
  apply ensures_bind
  refine (keepsFirst state).mono (fun value middle kept => ?_) (fun _ _ kept => kept)
  exact (keepsNext value middle).mono (fun _ _ later => kept.trans later)
    (fun _ _ later => ⟨kept.trans later.1, later.2⟩)

theorem keeps_pure (value : α) : Keeps (pure value : Pipeline Message Tool α) := fun state =>
  ensures_pure (SameGuards.refl state.session)

theorem keeps_getSession : Keeps (getSession : Pipeline Message Tool (Session Message Tool)) :=
  fun state => ensures_getSession (SameGuards.refl state.session)

theorem keeps_fail {refusal : Refusal} (fresh : staleRefusal refusal = false) :
    Keeps (Effect.fail refusal : Pipeline Message Tool α) := fun state =>
  ensures_fail ⟨SameGuards.refl state.session, fresh⟩

theorem keeps_failIf (condition : Prop) [Decidable condition] {refusal : Refusal}
    (fresh : staleRefusal refusal = false) :
    Keeps (Effect.failIf condition refusal : Pipeline Message Tool Unit) := fun state =>
  ensures_failIf (fun _ => SameGuards.refl state.session)
    (fun _ => ⟨SameGuards.refl state.session, fresh⟩)

theorem keeps_raising (result : Except String α) :
    Keeps (raising result : Pipeline Message Tool α) := by
  cases result with
  | ok value => exact keeps_pure value
  | error message => exact keeps_fail rfl

theorem keeps_awaitOutcome (outcome : Await α) :
    Keeps (awaitOutcome outcome : Pipeline Message Tool α) := by
  cases outcome with
  | done value => exact keeps_pure value
  | raised message => exact keeps_fail rfl
  | cancelled => exact keeps_fail rfl

theorem keeps_ofExcept {result : Except Refusal α}
    (fresh : ∀ refusal, result = .error refusal → staleRefusal refusal = false) :
    Keeps (Effect.ofExcept result : Pipeline Message Tool α) := fun state =>
  ensures_ofExcept (fun _ _ => SameGuards.refl state.session)
    (fun refusal failed => ⟨SameGuards.refl state.session, fresh refusal failed⟩)

theorem keeps_modifySession {change : Session Message Tool → Session Message Tool}
    (same : ∀ session, SameGuards session (change session)) :
    Keeps (modifySession change : Pipeline Message Tool Unit) := fun state =>
  undisturbed_modifySession (same state.session)

theorem keeps_onSession {operation : Effect (Session Message Tool) String α}
    (same : ∀ session, SameGuards session (operation session).2) :
    Keeps (onSession operation : Pipeline Message Tool (Except String α)) := fun state => by
  apply ensures_onSession
  have kept := same state.session
  refine (ensures_outcome operation state.session).mono (fun value after outcome => ?_)
    (fun message after outcome => ?_)
  · rw [outcome] at kept
    exact kept
  · rw [outcome] at kept
    exact kept

end Rules

variable {config : ProxyConfig} {format : ChatFormat Message Tool Call}

variable (request : ChatRequest Message Tool)

theorem adoptInstanceId_guards (session : Session Message Tool) :
    SameGuards session (adoptInstanceId request session) := by
  unfold adoptInstanceId
  split
  · exact SameGuards.refl session
  · split <;> exact ⟨rfl, rfl⟩

theorem resolveTurnId_guards (requested : Option String) (uuidHex : String)
    (session : Session Message Tool) :
    SameGuards session (session.resolveTurnId requested uuidHex).2 := by
  unfold Session.resolveTurnId
  dsimp only
  repeat' split
  all_goals exact ⟨rfl, rfl⟩

theorem keeps_resolveTurn (requested : Option String) (uuidHex : String) :
    Keeps (resolveTurn requested uuidHex : Pipeline Message Tool String) := by
  apply keeps_bind (keeps_onSession (resolveTurnId_guards requested uuidHex))
  intro resolved
  cases resolved with
  | ok turnId => exact keeps_pure turnId
  | error message => exact keeps_fail rfl

theorem keeps_dispatchToolCallHooks (stage : Stage) (sandboxId : Option String)
    (instanceId turnId : String) (stepIndex : Nat) (answers : DispatchAnswers)
    (metadata : List HookFailure) :
    Keeps (dispatchToolCallHooks config stage sandboxId instanceId turnId stepIndex answers
      metadata : Pipeline Message Tool (List HookFailure)) := by
  intro state
  have same : SameGuards state.session state.session := SameGuards.refl state.session
  unfold Ensures dispatchToolCallHooks
  cases config.toolCallHookChain with
  | none => exact same
  | some chain =>
    cases sandboxId with
    | none => exact same
    | some sandbox =>
      dsimp only
      by_cases blank : sandbox = ""
      · rw [if_pos blank]
        exact same
      · rw [if_neg blank]
        split
        · next value after outcome =>
            split at outcome
            · cases outcome
              exact same
            · cases outcome
        · next refusal after outcome =>
            split at outcome
            · cases outcome
            · rename_i failure _
              cases outcome
              refine ⟨same, ?_⟩
              cases failure <;> rfl

theorem keeps_dispatchAfterToolCallHooks (sandboxId : Option String) (instanceId turnId : String)
    (stepIndex : Nat) (messages : List Message) (answers : DispatchAnswers) :
    Keeps (dispatchAfterToolCallHooks config format sandboxId instanceId turnId stepIndex messages
      answers) := by
  unfold dispatchAfterToolCallHooks
  split
  · exact keeps_dispatchToolCallHooks _ _ _ _ _ _ _
  · exact keeps_pure []

theorem admitRequest_guards [BEq Message] (request : ChatRequest Message Tool)
    (answers : Answers Call) (state : ProxyState Message Tool) :
    Ensures (admitRequest config format request answers) state
      (fun _ after => SameGuards state.session after.session ∧
        ∀ epoch, config.partialRollout = false → state.session.steps ≠ [] →
          state.session.rolloutEpoch = some epoch → epoch = answers.currentEpoch)
      (fun refusal after => SameGuards state.session after.session ∧
        (staleRefusal refusal = true → config.partialRollout = false ∧
          state.session.steps ≠ [] ∧
          ∃ epoch, state.session.rolloutEpoch = some epoch ∧ epoch ≠ answers.currentEpoch)) := by
  have adopted := adoptInstanceId_guards request state.session
  refine ensures_bind (undisturbed_modifySession ?_)
  apply ensures_bind
  refine (keeps_resolveTurn request.turnId answers.uuidHex _).mono (fun turnId resolved kept => ?_)
    (fun refusal after kept => ⟨adopted.trans kept.1, fun stale => ?_⟩)
  · have here := adopted.trans kept
    refine ensures_bind (ensures_getSession ?_)
    apply ensures_bind
    have checked : Ensures
        (raiseIfStaleRolloutEpoch config resolved.session answers.currentEpoch) resolved
        (fun _ after => after = resolved ∧
          ∀ epoch, config.partialRollout = false → state.session.steps ≠ [] →
            state.session.rolloutEpoch = some epoch → epoch = answers.currentEpoch)
        (fun _ after => after = resolved ∧ config.partialRollout = false ∧
          state.session.steps ≠ [] ∧
          ∃ epoch, state.session.rolloutEpoch = some epoch ∧ epoch ≠ answers.currentEpoch) := by
      unfold raiseIfStaleRolloutEpoch
      rw [here.rolloutEpoch, here.steps]
      cases stamped : state.session.rolloutEpoch with
      | none =>
        refine ensures_pure ⟨rfl, ?_⟩
        intro epoch _ _ same
        cases same
      | some sessionEpoch =>
        refine ensures_failIf (fun fresh => ⟨rfl, ?_⟩) (fun stale => ⟨rfl, stale.1, stale.2.1,
          sessionEpoch, rfl, stale.2.2⟩)
        intro epoch whole recorded same
        cases same
        by_contra different
        exact fresh ⟨whole, recorded, different⟩
    refine checked.mono (fun _ middle fresh => ?_) (fun refusal after stale => ?_)
    · obtain ⟨rfl, met⟩ := fresh
      refine Ensures.mono (keeps_bind (keeps_raising _) (fun normalized =>
        keeps_bind (keeps_dispatchAfterToolCallHooks _ _ _ _ _ _)
          (fun metadata => keeps_pure _)) middle)
        (fun _ _ later => ⟨here.trans later, met⟩)
        (fun refusal after later => ⟨here.trans later.1, fun stale => ?_⟩)
      rw [later.2] at stale
      cases stale
    · obtain ⟨rfl, reason⟩ := stale
      exact ⟨here, fun _ => reason⟩
  · rw [kept.2] at stale
    cases stale

variable {before after : Session Message Tool} {result : PreemptibleGenerateResult}

theorem CachesOnly.guards (only : CachesOnly before after) : SameGuards before after := by
  obtain ⟨caches, rfl⟩ := only
  exact ⟨rfl, rfl⟩

theorem RouteTaken.guards {route : Route} (taken : RouteTaken before after route) :
    SameGuards before after := by
  cases taken with
  | append step recorded unchanged => exact CachesOnly.guards unchanged
  | branch step recorded middle unchanged opened | create middle unchanged opened =>
    rw [opened]
    exact (CachesOnly.guards unchanged).trans ⟨rfl, rfl⟩

theorem chooseRoute_guards [BEq Message] (admission : Admission Message Tool)
    (session : Session Message Tool) :
    SameGuards session (chooseRoute config format request admission session).2 := by
  apply Ensures.final
  refine ensures_bind (ensures_attempt ?_)
  refine (selectRoute_ensures config.noneEqualsEmptyTools admission.normalizedMessages
    request.tools admission.toolsHash session).mono (fun route after taken => RouteTaken.guards taken)
    (fun message middle only => ?_)
  have opened : SameGuards session (middle.createLineage none).2 :=
    (CachesOnly.guards only).trans ⟨rfl, rfl⟩
  apply ensures_bind
  unfold safetyRoute
  split
  · exact ensures_bind (ensures_get (ensures_bind (ensures_modify (ensures_pure opened))))
  · split
    · exact CachesOnly.guards only
    · exact ensures_bind (ensures_get (ensures_bind (ensures_modify (ensures_pure opened))))

theorem markHistoryRewritten_guards (reason : String) (session : Session Message Tool) :
    SameGuards session (session.markHistoryRewritten reason) := by
  unfold Session.markHistoryRewritten
  split <;> exact ⟨rfl, rfl⟩

theorem keeps_routeRequest [BEq Message] (admission : Admission Message Tool) :
    Keeps (routeRequest config format request admission) := by
  apply keeps_bind (keeps_onSession (chooseRoute_guards request admission))
  intro chosen
  apply keeps_bind (keeps_raising chosen)
  intro routing
  apply keeps_bind keeps_getSession
  intro session
  refine keeps_bind (keeps_modifySession ?_) (fun _ => keeps_pure _)
  intro current
  split
  · exact markHistoryRewritten_guards rewriteText current
  · exact SameGuards.refl current

theorem keeps_preparePrompt (admission : Admission Message Tool) (routed : Routed Message Tool) :
    Keeps (preparePrompt config format request admission routed) := by
  apply keeps_bind keeps_getSession
  intro session
  exact keeps_bind (keeps_raising _) (fun _ => keeps_pure _)

theorem keeps_checkBudget (turnId : String) (prepared : Prepared) :
    Keeps (checkBudget config request turnId prepared : Pipeline Message Tool Int) := by
  apply keeps_bind keeps_getSession
  intro session
  refine keeps_bind (keeps_failIf _ rfl) (fun _ => ?_)
  refine keeps_bind (keeps_ofExcept ?_) (fun _ => keeps_bind (keeps_failIf _ rfl)
    (fun _ => keeps_pure _))
  intro refusal failed
  unfold windowBudget at failed
  split at failed
  · cases failed
  split at failed
  · cases failed
    rfl
  split at failed
  · cases failed
  split at failed
  · cases failed
    rfl
  · cases failed

theorem keeps_prepareJob [BEq Message] (request : ChatRequest Message Tool)
    (answers : Answers Call) (admission : Admission Message Tool) :
    Keeps (prepareJob config format request answers admission) := by
  apply keeps_bind (keeps_routeRequest request admission)
  intro routed
  apply keeps_bind (keeps_preparePrompt request admission routed)
  intro prepared
  apply keeps_bind (keeps_checkBudget request admission.turnId prepared)
  intro maxTokens
  apply keeps_bind keeps_getSession
  intro session
  exact keeps_bind (keeps_failIf _ rfl) (fun _ => keeps_pure _)

theorem prepareJob_answers [BEq Message] (answers : Answers Call)
    (admission : Admission Message Tool) (state : ProxyState Message Tool) :
    Ensures (prepareJob config format request answers admission) state
      (fun job _ => job.answers = answers) (fun _ _ => True) := by
  have always : ∀ {α : Type} (stage : Pipeline Message Tool α) (state : ProxyState Message Tool)
      {returns : α → ProxyState Message Tool → Prop} (_ : ∀ value after, returns value after),
      Ensures stage state returns (fun _ _ => True) := by
    intro α stage start returns holds
    exact (ensures_outcome stage start).mono (fun value after _ => holds value after)
      (fun _ _ _ => trivial)
  refine ensures_bind (always _ _ (fun routed _ => ?_))
  refine ensures_bind (always _ _ (fun prepared _ => ?_))
  refine ensures_bind (always _ _ (fun maxTokens _ => ?_))
  refine ensures_bind (always _ _ (fun session _ => ?_))
  refine ensures_bind (always _ _ (fun _ _ => ?_))
  exact ensures_pure rfl

theorem keeps_acquireLease (answer : LeaseAnswer) :
    Keeps (acquireLease answer : Pipeline Message Tool Unit) := by
  cases answer with
  | acquired => exact keeps_pure ()
  | unavailable message => exact keeps_fail rfl
  | raised message => exact keeps_fail rfl
  | cancelled => exact keeps_fail rfl

theorem keeps_interpret (answers : Answers Call) (admission : Admission Message Tool)
    (result : PreemptibleGenerateResult) (accepted : Accepted) :
    Keeps (interpret config request answers admission result accepted) := by
  unfold interpret
  dsimp only
  split
  · exact keeps_pure _
  · apply keeps_bind (keeps_awaitOutcome _)
    intro reasoning
    apply keeps_bind (keeps_awaitOutcome _)
    intro parsed
    split
    · exact keeps_pure _
    · apply keeps_bind keeps_getSession
      intro session
      exact keeps_bind (keeps_dispatchToolCallHooks _ _ _ _ _ _ _) (fun _ => keeps_pure _)

theorem failJob_ensures (job : Job Message Tool Call)
    (refusalOf : Session Message Tool → Refusal) (state : ProxyState Message Tool) :
    Ensures (failJob job refusalOf) state (fun _ _ => False)
      (fun refusal after => after = state ∧
        (refusal = refusalOf state.session ∨ refusal = .cancelled)) := by
  refine ensures_bind (ensures_getSession ?_)
  refine ensures_bind (ensures_failIf (fun _ => ?_) (fun _ => ⟨rfl, .inr rfl⟩))
  exact ensures_fail ⟨rfl, .inl rfl⟩

structure Passed (config : ProxyConfig) (session : Session Message Tool)
    (result : PreemptibleGenerateResult) : Prop where
  versions : ∀ version ∈ ((acceptedOf config result).responseVersions.map some ++
      [some (acceptedOf config result).responseVersion,
        some (acceptedOf config result).responseVersion]).filterMap realTokenVersion,
    config.partialRollout = false → sessionRealVersions session ≠ [] →
      version ∈ sessionRealVersions session
  span : ∀ maxPreempts, config.maxPartialRolloutPreempts = some maxPreempts →
    config.partialRollout = true → (acceptedOf config result).outputOverflow = false →
      (orderedRealVersions (sessionResponseVersions session ++
        (acceptedOf config result).responseVersions)).length ≤ maxPreempts + 1

theorem acceptResult_guards (result : PreemptibleGenerateResult)
    (state : ProxyState Message Tool) :
    Ensures (acceptResult config result) state
      (fun accepted after => accepted = acceptedOf config result ∧
        Passed config state.session result ∧
        after = { state with session := stampRolloutEpoch result state.session })
      (fun refusal after => after = state ∧ staleRefusal refusal = false) := by
  refine ensures_bind (ensures_getSession ?_)
  refine ensures_bind (ensures_failIf (fun crossed => ?_) (fun _ => ⟨rfl, rfl⟩))
  have versions : ∀ version ∈ ((acceptedOf config result).responseVersions.map some ++
      [some (acceptedOf config result).responseVersion,
        some (acceptedOf config result).responseVersion]).filterMap realTokenVersion,
      config.partialRollout = false → sessionRealVersions state.session ≠ [] →
        version ∈ sessionRealVersions state.session := by
    intro version member whole known
    by_contra new
    exact crossed ⟨whole, known, version, member, new⟩
  have stamp : ∀ span, Ensures (do
      modifySession (stampRolloutEpoch result)
      pure (acceptedOf config result)) state
      (fun accepted after => accepted = acceptedOf config result ∧
        Passed config state.session result ∧
        after = { state with session := stampRolloutEpoch result state.session })
      (fun refusal after => after = state ∧ staleRefusal refusal = false) := fun span =>
    ensures_bind (undisturbed_modifySession (ensures_pure
      ⟨rfl, { versions := versions, span := span }, rfl⟩))
  split
  · rename_i overflow
    apply stamp
    intro maxPreempts _ _ fits
    rw [overflow] at fits
    cases fits
  · apply ensures_bind
    unfold raiseIfPartialVersionSpanExceeded
    cases limit : config.maxPartialRolloutPreempts with
    | none =>
      refine ensures_pure (stamp ?_)
      intro maxPreempts same
      rw [limit] at same
      cases same
    | some maxPreempts =>
      refine ensures_failIf (fun within => stamp ?_) (fun _ => ⟨rfl, rfl⟩)
      intro other same mixed _
      rw [limit] at same
      cases same
      by_contra exceeded
      apply within
      refine ⟨mixed, ?_⟩
      omega

theorem recordStep_stamp (answers : Answers Call) (draft : StepDraft Message Tool Call)
    (state : ProxyState Message Tool) :
    Ensures (recordStep config format answers draft) state
      (fun _ after => after.session.rolloutEpoch = state.session.rolloutEpoch)
      (fun refusal after => after.session.rolloutEpoch = state.session.rolloutEpoch ∧
        staleRefusal refusal = false) := by
  refine ensures_bind ((keeps_raising answers.routedExperts state).mono (fun _ middle kept => ?_)
    (fun _ _ kept => ⟨kept.1.rolloutEpoch, kept.2⟩))
  rw [← kept.rolloutEpoch]
  refine ensures_bind (ensures_getSession ?_)
  refine ensures_bind (undisturbed_modifySession ?_)
  cases middle.session.lineages.get? draft.routed.route.lineageId with
  | none => exact ensures_fail ⟨rfl, rfl⟩
  | some lineage =>
    dsimp only
    cases config.transferQueue with
    | none => exact ensures_modify rfl
    | some queueConfig =>
      refine ensures_bind (undisturbed_modifySession ?_)
      refine ensures_bind (ensures_getSession ?_)
      cases answers.put with
      | failed message written =>
        refine ensures_bind (ensures_modify (ensures_fail ⟨rfl, ?_⟩))
        split <;> rfl
      | stored =>
        refine ensures_bind (ensures_modify ?_)
        exact ensures_failIf (fun _ => rfl) (fun _ => ⟨rfl, rfl⟩)

theorem respond_guards (maxTokens : Int) (stepIndex : Nat)
    (draft : StepDraft Message Tool Call) :
    Keeps (respond config maxTokens stepIndex draft) := by
  apply keeps_bind keeps_getSession
  intro session
  refine keeps_bind (keeps_failIf _ rfl) (fun _ => ?_)
  refine keeps_bind (fun state => ensures_modify ?_) (fun _ => keeps_pure _)
  split <;> exact SameGuards.refl state.session

inductive Finished (config : ProxyConfig) (result : PreemptibleGenerateResult)
    (before after : Session Message Tool) : Prop
  | unaccepted (same : SameGuards before after)
  | stamped (steps : after.steps = before.steps)
    (epoch : after.rolloutEpoch = (stampRolloutEpoch result before).rolloutEpoch)
  | recorded (step : StepRecord Message Tool) (passed : Passed config before result)
    (steps : after.steps = before.steps ++ [step])
    (epoch : after.rolloutEpoch = (stampRolloutEpoch result before).rolloutEpoch)
    (responseVersions : step.responseVersions =
      if (acceptedOf config result).outputOverflow then []
      else (acceptedOf config result).responseVersions)
    (responseVersion : step.responseVersion = some (acceptedOf config result).responseVersion)
    (requestVersion : step.requestVersion = some (acceptedOf config result).responseVersion)

theorem Recorded.finished {before stamped after : ProxyState Message Tool}
    {draft : StepDraft Message Tool Call} {step : StepRecord Message Tool}
    (passed : Passed config before.session result)
    (steps : stamped.session.steps = before.session.steps)
    (epoch : after.session.rolloutEpoch = (stampRolloutEpoch result before.session).rolloutEpoch)
    (accepted : draft.accepted = acceptedOf config result)
    (recorded : Recorded config stamped after draft step) :
    Finished config result before.session after.session := by
  obtain ⟨refOf, _, built, _⟩ := recorded.built
  have versions : step.responseVersions = draft.recorded.versions := by
    rw [built]
    rfl
  refine .recorded step passed ?_ epoch ?_ ?_ ?_
  · rw [recorded.steps, steps]
  · rw [versions, StepDraft.recorded, recordedResponse, accepted]
    split <;> rfl
  · rw [built, ← accepted]
    rfl
  · rw [built, ← accepted]
    rfl

theorem Finished.onward {middle : Session Message Tool}
    (finished : Finished config result before middle) (kept : SameGuards middle after) :
    Finished config result before after := by
  cases finished with
  | unaccepted same => exact .unaccepted (same.trans kept)
  | stamped steps epoch =>
    exact .stamped (kept.steps.trans steps) (kept.rolloutEpoch.trans epoch)
  | recorded step passed steps epoch responseVersions responseVersion requestVersion =>
    exact .recorded step passed (kept.steps.trans steps) (kept.rolloutEpoch.trans epoch)
      responseVersions responseVersion requestVersion

theorem recordDraft_ensures {before state : ProxyState Message Tool} (answers : Answers Call)
    (maxTokens : Int) {draft : StepDraft Message Tool Call}
    (passed : Passed config before.session result)
    (accepted : draft.accepted = acceptedOf config result)
    (stamped : SameGuards (stampRolloutEpoch result before.session) state.session) :
    Ensures (do
      let session ← getSession
      recordStep config format answers draft
      respond config maxTokens session.steps.length draft) state
      (fun _ after => Finished config result before.session after.session)
      (fun refusal after => Finished config result before.session after.session ∧
        staleRefusal refusal = false) := by
  refine ensures_bind (ensures_getSession ?_)
  apply ensures_bind
  have stamp : Ensures (recordStep config format answers draft) state
    (fun _ after => after.session.rolloutEpoch = state.session.rolloutEpoch)
    (fun refusal after => after.session.rolloutEpoch = state.session.rolloutEpoch ∧
      staleRefusal refusal = false) := recordStep_stamp answers draft state
  refine ((recordStep_ensures answers draft state).and stamp).mono
    (fun _ after outcome => ?_) (fun refusal after outcome => ⟨?_, outcome.2.2⟩)
  · obtain ⟨⟨step, recorded⟩, epoch⟩ := outcome
    have finished := Recorded.finished passed stamped.steps (epoch.trans stamped.rolloutEpoch)
      accepted recorded
    exact (respond_guards maxTokens state.session.steps.length draft after).mono
      (fun _ _ kept => finished.onward kept)
      (fun _ _ kept => ⟨finished.onward kept.1, kept.2⟩)
  · obtain ⟨unrecorded | ⟨step, recorded⟩, epoch, _⟩ := outcome
    · exact .stamped (unrecorded.session.steps.trans stamped.steps)
        (epoch.trans stamped.rolloutEpoch)
    · exact Recorded.finished passed stamped.steps (epoch.trans stamped.rolloutEpoch) accepted
        recorded

theorem finishJob_ensures (job : Job Message Tool Call) (result : PreemptibleGenerateResult)
    (state : ProxyState Message Tool) :
    Ensures (finishJob config format job result) state
      (fun _ after => Finished config result state.session after.session)
      (fun refusal after => Finished config result state.session after.session ∧
        staleRefusal refusal = false) := by
  refine ensures_bind (ensures_failIf (fun _ => ?_)
    (fun _ => ⟨.unaccepted (SameGuards.refl _), rfl⟩))
  refine ensures_bind ((acceptResult_guards result state).mono (fun accepted stamped outcome => ?_)
    (fun refusal after refused => ?_))
  · obtain ⟨rfl, passed, rfl⟩ := outcome
    have stampedOnly : ∀ {after : ProxyState Message Tool},
        SameGuards (stampRolloutEpoch result state.session) after.session →
          Finished config result state.session after.session :=
      fun kept => .stamped kept.steps kept.rolloutEpoch
    refine ensures_bind ((keeps_interpret job.request job.answers job.admission result
      (acceptedOf config result) _).mono (fun interpreted middle kept => ?_)
      (fun refusal after kept => ⟨stampedOnly kept.1, kept.2⟩))
    apply ensures_bind
    cases drafted : draftStep config format job.request job.admission job.routed job.prepared
      result (acceptedOf config result) interpreted with
    | error message => exact ensures_fail ⟨stampedOnly kept, rfl⟩
    | ok draft =>
      obtain ⟨_, _, _, sameAccepted, _, _⟩ := draftStep_ok drafted
      exact ensures_pure (recordDraft_ensures job.answers job.maxTokens passed sameAccepted kept)
  · obtain ⟨rfl, fresh⟩ := refused
    exact ⟨.unaccepted (SameGuards.refl _), fresh⟩

inductive FailedCall (job : Job Message Tool Call) (session : Session Message Tool) :
    GenerationController.Pc → Refusal → Prop
  | raised (error : GenerateError) : FailedCall job session (.raised error)
    (generateRefusal session job.admission.instanceId job.answers.requestError error)
  | raisedUnsettled (error : GenerateError) : FailedCall job session (.raised error) .cancelled
  | cancelled : FailedCall job session .cancelled .cancelled

inductive Move (config : ProxyConfig) (state : State Message Tool Call) :
    Action Message Tool Call → State Message Tool Call → Prop
  | idle (action : Action Message Tool Call) : Move config state action state
  | admitted (request : ChatRequest Message Tool) (answers told : Answers Call)
    (admission : Admission Message Tool) (proxy : ProxyState Message Tool)
    (current : told.currentEpoch = state.controller.rolloutEpoch)
    (same : SameGuards state.proxy.session proxy.session)
    (met : ∀ epoch, config.partialRollout = false → state.proxy.session.steps ≠ [] →
      state.proxy.session.rolloutEpoch = some epoch → epoch = state.controller.rolloutEpoch) :
    Move config state (.arrive request answers)
      { state with
        proxy := proxy
        underway := some (.admitted request told admission) }
  | unadmitted (request : ChatRequest Message Tool) (answers : Answers Call) (refusal : Refusal)
    (proxy : ProxyState Message Tool) (same : SameGuards state.proxy.session proxy.session)
    (stale : staleRefusal refusal = true → config.partialRollout = false ∧
      state.proxy.session.steps ≠ [] ∧ ∃ epoch,
        state.proxy.session.rolloutEpoch = some epoch ∧ epoch ≠ state.controller.rolloutEpoch) :
    Move config state (.arrive request answers) (state.refuse refusal proxy)
  | prepared (request : ChatRequest Message Tool) (answers : Answers Call)
    (admission : Admission Message Tool) (job : Job Message Tool Call)
    (proxy : ProxyState Message Tool)
    (underway : state.underway = some (.admitted request answers admission))
    (sameEpoch : job.answers.currentEpoch = answers.currentEpoch)
    (same : SameGuards state.proxy.session proxy.session) :
    Move config state .prepare
      { state with
        proxy := proxy
        underway := some (.leasing job) }
  | refused (action : Action Message Tool Call) (refusal : Refusal)
    (proxy : ProxyState Message Tool) (same : SameGuards state.proxy.session proxy.session)
    (fresh : staleRefusal refusal = false) :
    Move config state action (state.refuse refusal proxy)
  | leased (job : Job Message Tool Call) (proxy : ProxyState Message Tool)
    (underway : state.underway = some (.leasing job))
    (same : SameGuards state.proxy.session proxy.session) :
    Move config state .lease
      { state with
        proxy := proxy
        controller := state.controller.enter (job.generation config proxy.session)
        underway := some (.generating job state.controller.nextCallId) }
  | controlled (action : GenerationController.Action) :
    Move config state (.control action) (state.control action)
  | finished (job : Job Message Tool Call) (callId : Nat) (call : GenerationController.Call)
    (result : PreemptibleGenerateResult)
    (outcome : Except Refusal (Completion Call) × ProxyState Message Tool)
    (underway : state.underway = some (.generating job callId))
    (found : state.controller.calls.get? callId = some call)
    (returned : call.pc = .returned result)
    (effect : Finished config result state.proxy.session outcome.2.session)
    (fresh : ∀ refusal, outcome.1 = .error refusal → staleRefusal refusal = false) :
    Move config state .finish (state.conclude callId outcome)
  | failed (job : Job Message Tool Call) (callId : Nat) (call : GenerationController.Call)
    (refusal : Refusal) (underway : state.underway = some (.generating job callId))
    (found : state.controller.calls.get? callId = some call)
    (ended : FailedCall job state.proxy.session call.pc refusal) :
    Move config state .finish (state.refuse refusal state.proxy)

variable {state : State Message Tool Call}

private theorem arrive_move [BEq Message] (answers : Answers Call) :
    Move config state (.arrive request answers) (state.arrive config format request answers) := by
  unfold State.arrive
  split
  · exact .idle _
  · dsimp only
    have admitted := @admitRequest_guards Message Tool Call config format _ request
      { answers with currentEpoch := state.controller.rolloutEpoch } state.proxy
    unfold Ensures at admitted
    split
    · rename_i admission proxy outcome
      rw [outcome] at admitted
      exact .admitted request answers _ admission proxy rfl admitted.1 admitted.2
    · rename_i refusal proxy outcome
      rw [outcome] at admitted
      exact .unadmitted request answers refusal proxy admitted.1 admitted.2

private theorem prepare_move [BEq Message] :
    Move config state .prepare (state.prepare config format) := by
  unfold State.prepare
  split
  · rename_i request answers admission underway
    dsimp only
    have prepared := (@keeps_prepareJob Message Tool Call config format _ request
      { answers with currentVersion := state.controller.currentVersion } admission
      state.proxy).and (prepareJob_answers request _ admission state.proxy)
    unfold Ensures at prepared
    split
    · rename_i job proxy outcome
      rw [outcome] at prepared
      exact .prepared request answers admission job proxy underway (by rw [prepared.2]) prepared.1
    · rename_i refusal proxy outcome
      rw [outcome] at prepared
      exact .refused _ refusal proxy prepared.1.1 prepared.1.2
  · exact .idle _

private theorem lease_move : Move config state .lease (state.lease config) := by
  unfold State.lease
  split
  · rename_i job underway
    have acquired := keeps_acquireLease job.answers.lease state.proxy
    unfold Ensures at acquired
    split
    · rename_i proxy outcome
      rw [outcome] at acquired
      exact .leased job proxy underway acquired
    · rename_i refusal proxy outcome
      rw [outcome] at acquired
      exact .refused _ refusal proxy acquired.1 acquired.2
  · exact .idle _

private theorem conclude_failJob {job : Job Message Tool Call} {callId : Nat}
    {call : GenerationController.Call} {refusalOf : Session Message Tool → Refusal}
    (underway : state.underway = some (.generating job callId))
    (found : state.controller.calls.get? callId = some call)
    (ended : ∀ refusal, refusal = refusalOf state.proxy.session ∨ refusal = .cancelled →
      FailedCall job state.proxy.session call.pc refusal) :
    Move config state .finish (state.conclude callId (failJob job refusalOf state.proxy)) := by
  have failed := failJob_ensures job refusalOf state.proxy
  unfold Ensures at failed
  split at failed
  · exact failed.elim
  · rename_i refusal proxy outcome
    obtain ⟨rfl, reason⟩ := failed
    have concluded : state.conclude callId (failJob job refusalOf state.proxy) =
        state.refuse refusal state.proxy := by
      unfold State.conclude
      rw [outcome, if_pos rfl]
    rw [concluded]
    exact .failed job callId call refusal underway found (ended refusal reason)

private theorem finish_move : Move config state .finish (state.finish config format) := by
  unfold State.finish
  split
  · rename_i job callId underway
    cases found : state.controller.calls.get? callId with
    | none => exact .idle _
    | some call =>
      dsimp only [Option.map_some]
      split
      · rename_i result returned
        have finished := @finishJob_ensures Message Tool Call config format job result state.proxy
        unfold Ensures at finished
        dsimp only [concludeJob]
        refine .finished job callId call result _ underway found (Option.some.inj returned) ?_ ?_
        · split at finished
          · rename_i outcome
            rw [outcome]
            exact finished
          · rename_i outcome
            rw [outcome]
            exact finished.1
        · intro refusal failed
          split at finished
          · rename_i outcome
            rw [outcome] at failed
            cases failed
          · rename_i outcome
            rw [outcome] at failed
            cases failed
            exact finished.2
      · rename_i error raised
        refine conclude_failJob underway found ?_
        rw [Option.some.inj raised]
        rintro refusal (rfl | rfl)
        · exact .raised error
        · exact .raisedUnsettled error
      · rename_i cancelled
        refine conclude_failJob underway found ?_
        rw [Option.some.inj cancelled]
        rintro refusal (rfl | rfl)
        · exact .cancelled
        · exact .cancelled
      · exact .idle _
  · exact .idle _

theorem step_move [BEq Message] (state : State Message Tool Call)
    (action : Action Message Tool Call) :
    Move config state action (state.step config format action) := by
  cases action with
  | arrive request answers => exact arrive_move request answers
  | prepare => exact prepare_move
  | lease => exact lease_move
  | control action => exact .controlled action
  | finish => exact finish_move

end Dressage.Proxy.RolloutEpochs

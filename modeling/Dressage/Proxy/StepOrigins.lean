/-
Where the recorded steps of a session come from.

A served request either leaves the steps of its session alone or appends one, built from a draft
whose prompt fits the steps before it.
-/

import Dressage.Lib.Runs
import Dressage.Proxy.ChatPipeline

namespace Dressage.Proxy

open Lib Lib.Effect Transport Generation List OrderedDict

variable {Message Tool Call : Type}

def LineagesNumbered (session : Session Message Tool) : Prop :=
  session.lineages.entries.map (fun entry => (entry.1, entry.2.id, entry.2.index)) =
    (List.range session.lineageCounter).map (fun index => (index + 1, index + 1, index))

structure SameSteps (before after : Session Message Tool) : Prop where
  steps : after.steps = before.steps
  stepCounter : before.stepCounter ≤ after.stepCounter
  lineageCounter : before.lineageCounter ≤ after.lineageCounter
  numbered : LineagesNumbered before → LineagesNumbered after
  sessionId : after.sessionId = before.sessionId

theorem SameSteps.refl (session : Session Message Tool) : SameSteps session session :=
  { steps := rfl
    stepCounter := Nat.le_refl _
    lineageCounter := Nat.le_refl _
    numbered := id
    sessionId := rfl }

theorem SameSteps.trans {first second third : Session Message Tool}
    (left : SameSteps first second) (right : SameSteps second third) : SameSteps first third :=
  { steps := right.steps.trans left.steps
    stepCounter := Nat.le_trans left.stepCounter right.stepCounter
    lineageCounter := Nat.le_trans left.lineageCounter right.lineageCounter
    numbered := fun numbered => right.numbered (left.numbered numbered)
    sessionId := right.sessionId.trans left.sessionId }

/-- No step recorded: the columns of recorded steps and the journal of their chunks stand. -/
structure Undisturbed (before after : ProxyState Message Tool) : Prop where
  session : SameSteps before.session after.session
  generations : after.journal.generations = before.journal.generations
  columns : ∀ ref : TQFieldRef, ref.stepIndex < before.session.steps.length →
    after.queue.get? ref = before.queue.get? ref

theorem Undisturbed.refl (state : ProxyState Message Tool) : Undisturbed state state :=
  { session := SameSteps.refl _
    generations := rfl
    columns := fun _ _ => rfl }

theorem Undisturbed.trans {first second third : ProxyState Message Tool}
    (left : Undisturbed first second) (right : Undisturbed second third) :
    Undisturbed first third :=
  { session := left.session.trans right.session
    generations := right.generations.trans left.generations
    columns := fun ref early => by
      rw [right.columns ref (by rw [left.session.steps]; exact early), left.columns ref early] }

variable {session after : Session Message Tool} {state before : ProxyState Message Tool}
variable {lineage : Lineage} {admission : Admission Message Tool}
variable {fails : Refusal → ProxyState Message Tool → Prop} {α : Type}
variable {returns : α → ProxyState Message Tool → Prop} {routed : Routed Message Tool}
variable {queue : TransferQueue} {refOf : StepField → TQFieldRef} {step : StepRecord Message Tool}
variable {draft : StepDraft Message Tool Call} {cache : SnapshotCache} {stepId : StepId}

theorem Undisturbed.of_session (same : SameSteps state.session session) :
    Undisturbed state { state with session := session } :=
  { session := same
    generations := rfl
    columns := fun _ _ => rfl }

theorem sameSteps_of_cachesOnly {before : Session Message Tool} (only : CachesOnly before after) :
    SameSteps before after := by
  obtain ⟨caches, rfl⟩ := only
  exact { SameSteps.refl before with }

section

variable (numbered : LineagesNumbered session)
include numbered

theorem LineagesNumbered.keys :
    session.lineages.keys = (List.range session.lineageCounter).map (· + 1) := by
  have ids := congrArg (List.map Prod.fst) numbered
  rw [map_map, map_map] at ids
  exact ids

theorem LineagesNumbered.mem_keys {lineageId : LineageId}
    (member : lineageId ∈ session.lineages.keys) : lineageId ≤ session.lineageCounter := by
  rw [numbered.keys, mem_map] at member
  obtain ⟨index, inRange, rfl⟩ := member
  exact mem_range.mp inRange

theorem LineagesNumbered.of_get? {lineageId : LineageId}
    (found : session.lineages.get? lineageId = some lineage) :
    lineage.id = lineageId ∧ lineageId = lineage.index + 1 ∧
      lineageId ≤ session.lineageCounter := by
  have entry := mem_of_get? found
  have shown : (lineageId, lineage.id, lineage.index) ∈
      (List.range session.lineageCounter).map (fun index => (index + 1, index + 1, index)) := by
    rw [← numbered]
    exact mem_map.mpr ⟨(lineageId, lineage), entry, rfl⟩
  obtain ⟨index, inRange, same⟩ := mem_map.mp shown
  simp only [Prod.mk.injEq] at same
  refine ⟨?_, ?_, ?_⟩
  · rw [← same.1, same.2.1]
  · rw [← same.1, same.2.2]
  · rw [← same.1]
    exact mem_range.mp inRange

end

theorem sameSteps_createLineage (session : Session Message Tool) (branchFrom : Option StepId) :
    SameSteps session (session.createLineage branchFrom).2 :=
  { steps := rfl
    stepCounter := Nat.le_refl _
    lineageCounter := Nat.le_succ _
    numbered := fun numbered => by
      have new : session.lineageCounter + 1 ∉ session.lineages.keys := by
        intro member
        exact absurd (numbered.mem_keys member) (Nat.not_succ_le_self _)
      unfold LineagesNumbered at numbered ⊢
      simp only [Session.createLineage]
      rw [entries_set_new new, map_append, numbered, range_succ, map_append]
      rfl
    sessionId := rfl }

/-- What the rest of the pipeline needs to know about a route. -/
structure RouteFits (before : Session Message Tool) (route : Route) (baseFound : Bool) : Prop where
  appended : route.type = .append → baseFound = true
  continued : route.type = .append → ∃ step ∈ before.steps, step.lineageId = route.lineageId
  opened : route.type ≠ .append → before.lineageCounter < route.lineageId
  created : route.type = .create → baseFound = false

theorem RouteTaken.sameSteps {before : Session Message Tool} {route : Route}
    (taken : RouteTaken before after route) : SameSteps before after := by
  cases taken with
  | append step recorded unchanged => exact sameSteps_of_cachesOnly unchanged
  | branch step recorded middle unchanged opened | create middle unchanged opened =>
    rw [opened]
    exact (sameSteps_of_cachesOnly unchanged).trans (sameSteps_createLineage middle _)

theorem RouteTaken.fits {before : Session Message Tool} {route : Route}
    (taken : RouteTaken before after route) :
    RouteFits before route (route.baseStepId.bind after.stepById).isSome := by
  have same := taken.sameSteps
  cases taken with
  | append step recorded unchanged =>
    refine
      { appended := fun _ => ?_
        continued := fun _ => ⟨step, recorded, rfl⟩
        opened := fun notAppend => absurd rfl notAppend
        created := nofun }
    rw [← same.steps] at recorded
    exact stepById_isSome recorded
  | branch step recorded middle unchanged opened =>
    refine
      { appended := nofun
        continued := nofun
        opened := fun _ => ?_
        created := nofun }
    exact Nat.lt_succ_of_le (sameSteps_of_cachesOnly unchanged).lineageCounter
  | create middle unchanged opened =>
    refine
      { appended := nofun
        continued := nofun
        opened := fun _ => ?_
        created := fun _ => rfl }
    exact Nat.lt_succ_of_le (sameSteps_of_cachesOnly unchanged).lineageCounter

variable {config : ProxyConfig} {format : ChatFormat Message Tool Call}

private theorem safetyRoute_ensures {before middle : Session Message Tool}
    (unchanged : CachesOnly before middle)
    (previous : ∀ step, admission.previousStep = some step → step ∈ before.steps) :
    Ensures (safetyRoute admission) middle (fun route after => RouteTaken before after route)
      (fun _ after => SameSteps before after) := by
  have created : Ensures createRoute middle (fun route after => RouteTaken before after route)
      (fun _ after => SameSteps before after) :=
    ensures_bind (ensures_get (ensures_bind (ensures_modify (ensures_pure
      (RouteTaken.create middle unchanged rfl)))))
  unfold safetyRoute
  cases found : admission.previousStep with
  | none => exact created
  | some step =>
    dsimp only
    split
    · exact RouteTaken.append step (previous step found) unchanged
    · exact created

private theorem chooseRoute_ensures [BEq Message] {request : ChatRequest Message Tool}
    (previous : ∀ step, admission.previousStep = some step → step ∈ session.steps) :
    Ensures (chooseRoute config format request admission) session
      (fun chosen after => RouteTaken session after chosen.1)
      (fun _ after => SameSteps session after) := by
  refine ensures_bind (ensures_attempt ?_)
  refine (selectRoute_ensures config.noneEqualsEmptyTools admission.normalizedMessages
    request.tools admission.toolsHash session).mono (fun route after taken => taken)
    (fun message middle only => ?_)
  apply ensures_bind
  exact (safetyRoute_ensures only previous).mono (fun route after taken => taken)
    (fun _ _ same => same)

variable (request : ChatRequest Message Tool)

theorem sameSteps_chooseRoute [BEq Message] (admission : Admission Message Tool)
    (session : Session Message Tool) :
    SameSteps session (chooseRoute config format request admission session).2 := by
  apply Ensures.final
  refine ensures_bind (ensures_attempt ?_)
  refine (selectRoute_ensures config.noneEqualsEmptyTools admission.normalizedMessages
    request.tools admission.toolsHash session).mono (fun route after taken => taken.sameSteps)
    (fun message middle only => ?_)
  have opened : SameSteps session (middle.createLineage none).2 :=
    (sameSteps_of_cachesOnly only).trans (sameSteps_createLineage middle none)
  apply ensures_bind
  unfold safetyRoute
  split
  · exact ensures_bind (ensures_get (ensures_bind (ensures_modify (ensures_pure opened))))
  · split
    · exact sameSteps_of_cachesOnly only
    · exact ensures_bind (ensures_get (ensures_bind (ensures_modify (ensures_pure opened))))

theorem ensures_getSession {returns : Session Message Tool → ProxyState Message Tool → Prop}
    (holds : returns state.session state) :
    Ensures getSession state returns fails :=
  holds

theorem ensures_onSession {operation : Effect (Session Message Tool) String α}
    {returns : Except String α → ProxyState Message Tool → Prop}
    (holds : Ensures operation state.session
      (fun value after => returns (.ok value) { state with session := after })
      (fun message after => returns (.error message) { state with session := after })) :
    Ensures (onSession operation) state returns fails := by
  revert holds
  unfold Ensures onSession
  rcases operation state.session with ⟨result, after⟩
  cases result with
  | ok value => exact id
  | error message => exact id

theorem ensures_raising {result : Except String α}
    (onReturn : ∀ value, result = .ok value → returns value state)
    (onFailure : ∀ refusal, fails refusal state) :
    Ensures (raising result) state returns fails := by
  cases result with
  | ok value => exact onReturn value rfl
  | error message => exact onFailure _

theorem ensures_awaitOutcome {outcome : Await α}
    (onReturn : ∀ value, outcome = .done value → returns value state)
    (onFailure : ∀ refusal, fails refusal state) :
    Ensures (awaitOutcome outcome) state returns fails := by
  cases outcome with
  | done value => exact onReturn value rfl
  | raised message => exact onFailure _
  | cancelled => exact onFailure _

/-- The stages that only look: they refuse or go on, and change nothing. -/
def Looks {α : Type} (stage : Pipeline Message Tool α) : Prop :=
  ∀ state, Ensures stage state (fun _ after => after = state) (fun _ after => after = state)

theorem looks_failIf (condition : Prop) [Decidable condition] (refusal : Refusal) :
    Looks (failIf condition refusal : Pipeline Message Tool Unit) := fun _ =>
  ensures_failIf (fun _ => rfl) (fun _ => rfl)

theorem Looks.ensures {stage : Pipeline Message Tool α} (looks : Looks stage)
    (onReturn : ∀ value, returns value state) (onFailure : ∀ refusal, fails refusal state) :
    Ensures stage state returns fails :=
  (looks state).mono (fun value after same => by rw [same]; exact onReturn value)
    (fun refusal after same => by rw [same]; exact onFailure refusal)

theorem looks_raiseIfStaleRolloutEpoch (session : Session Message Tool) (epoch : Nat) :
    Looks (raiseIfStaleRolloutEpoch config session epoch) := by
  unfold raiseIfStaleRolloutEpoch
  cases session.rolloutEpoch with
  | none => exact fun _ => rfl
  | some sessionEpoch => exact looks_failIf _ _

theorem looks_raiseIfPartialVersionSpanExceeded (session : Session Message Tool)
    (candidates : List String) :
    Looks (raiseIfPartialVersionSpanExceeded config session candidates) := by
  unfold raiseIfPartialVersionSpanExceeded
  cases config.maxPartialRolloutPreempts with
  | none => exact fun _ => rfl
  | some maxPreempts => exact looks_failIf _ _

theorem looks_acquireLease (answer : LeaseAnswer) :
    Looks (acquireLease answer : Pipeline Message Tool Unit) := by
  cases answer with
  | acquired => exact fun _ => rfl
  | unavailable message => exact fun _ => rfl
  | raised message => exact fun _ => rfl
  | cancelled => exact fun _ => rfl

theorem undisturbed_modifySession {change : Session Message Tool → Session Message Tool}
    {returns : Unit → ProxyState Message Tool → Prop}
    (holds : returns () { state with session := change state.session }) :
    Ensures (modifySession change) state returns fails :=
  holds

theorem sameSteps_adoptInstanceId (session : Session Message Tool) :
    SameSteps session (adoptInstanceId request session) := by
  unfold adoptInstanceId
  split
  · exact SameSteps.refl session
  · split
    · exact SameSteps.refl session
    · exact { SameSteps.refl session with }

theorem sameSteps_resolveTurnId (session : Session Message Tool)
    (requested : Option String) (uuidHex : String) :
    SameSteps session (session.resolveTurnId requested uuidHex).2 := by
  unfold Session.resolveTurnId
  dsimp only
  repeat' split
  all_goals exact { SameSteps.refl session with }

theorem resolveTurn_ensures (requested : Option String) (uuidHex : String)
    (state : ProxyState Message Tool) :
    Ensures (resolveTurn requested uuidHex) state
      (fun turnId after => Undisturbed state after ∧
        (state.session.resolveTurnId requested uuidHex).1 = .ok turnId)
      (fun _ after => Undisturbed state after) := by
  have same : Undisturbed state
      { state with session := (state.session.resolveTurnId requested uuidHex).2 } :=
    Undisturbed.of_session (sameSteps_resolveTurnId state.session requested uuidHex)
  refine ensures_bind (ensures_onSession ?_)
  refine (ensures_outcome _ _).mono (fun turnId after outcome => ?_)
    (fun message after outcome => ?_)
  · rw [outcome] at same
    exact ensures_pure ⟨same, by rw [outcome]⟩
  · rw [outcome] at same
    exact ensures_fail same

theorem dispatchToolCallHooks_ensures (stage : Stage) (sandboxId : Option String)
    (instanceId turnId : String) (stepIndex : Nat) (answers : DispatchAnswers)
    (metadata : List HookFailure) (state : ProxyState Message Tool) :
    Ensures (dispatchToolCallHooks config stage sandboxId instanceId turnId stepIndex answers
      metadata) state (fun _ after => Undisturbed state after)
      (fun _ after => Undisturbed state after) := by
  have journaled : ∀ (entry : Dispatch) (chain : ChainState),
      Undisturbed state (journalDispatch entry { state with chain := chain }) := fun _ _ =>
    { session := SameSteps.refl _
      generations := rfl
      columns := fun _ _ => rfl }
  unfold Ensures dispatchToolCallHooks
  cases config.toolCallHookChain with
  | none => exact Undisturbed.refl state
  | some chain =>
    cases sandboxId with
    | none => exact Undisturbed.refl state
    | some sandbox =>
      dsimp only
      by_cases blank : sandbox = ""
      · rw [if_pos blank]
        exact Undisturbed.refl state
      · rw [if_neg blank]
        split
        · next value after outcome =>
            split at outcome
            · cases outcome
              exact journaled _ _
            · cases outcome
        · next failure after outcome =>
            split at outcome
            · cases outcome
            · cases outcome
              exact journaled _ _

private theorem dispatchAfterToolCallHooks_ensures (sandboxId : Option String)
    (instanceId turnId : String) (stepIndex : Nat) (messages : List Message)
    (answers : DispatchAnswers) (state : ProxyState Message Tool) :
    Ensures (dispatchAfterToolCallHooks config format sandboxId instanceId turnId stepIndex messages
      answers) state (fun _ after => Undisturbed state after)
      (fun _ after => Undisturbed state after) := by
  unfold dispatchAfterToolCallHooks
  split
  · exact dispatchToolCallHooks_ensures _ _ _ _ _ _ _ _
  · exact Undisturbed.refl state

theorem resolveTurnId_adoptInstanceId (session : Session Message Tool) (requested : Option String)
    (uuidHex : String) :
    ((adoptInstanceId request session).resolveTurnId requested uuidHex).1 =
      (session.resolveTurnId requested uuidHex).1 := by
  have fields : ∃ instanceId, adoptInstanceId request session =
      { session with instanceId := instanceId } := by
    unfold adoptInstanceId
    split
    · exact ⟨session.instanceId, rfl⟩
    · split
      · exact ⟨session.instanceId, rfl⟩
      · exact ⟨_, rfl⟩
  obtain ⟨instanceId, adopted⟩ := fields
  rw [adopted]
  unfold Session.resolveTurnId
  dsimp only
  repeat' split
  all_goals rfl

theorem admitRequest_ensures [BEq Message] (answers : Answers Call)
    (state : ProxyState Message Tool) :
    Ensures (admitRequest config format request answers) state
      (fun admission after => Undisturbed state after ∧
        (∀ step, admission.previousStep = some step → step ∈ state.session.steps) ∧
        (state.session.resolveTurnId request.turnId answers.uuidHex).1 = .ok admission.turnId)
      (fun _ after => Undisturbed state after) := by
  refine ensures_bind (undisturbed_modifySession ?_)
  have adopted : Undisturbed state
      { state with session := adoptInstanceId request state.session } :=
    Undisturbed.of_session (sameSteps_adoptInstanceId request state.session)
  apply ensures_bind
  refine (resolveTurn_ensures request.turnId answers.uuidHex _).mono
    (fun turnId resolved turn => ?_) (fun _ _ kept => adopted.trans kept)
  obtain ⟨kept, isTurn⟩ := turn
  rw [resolveTurnId_adoptInstanceId] at isTurn
  have upToHere := adopted.trans kept
  refine ensures_bind (ensures_getSession ?_)
  refine ensures_bind ((looks_raiseIfStaleRolloutEpoch _ _).ensures (fun _ => ?_)
    (fun _ => upToHere))
  refine ensures_bind (ensures_raising (fun normalized _ => ?_) (fun _ => upToHere))
  apply ensures_bind
  refine (dispatchAfterToolCallHooks_ensures _ _ _ _ _ _ resolved).mono
    (fun metadata after dispatched => ?_) (fun _ _ dispatched => upToHere.trans dispatched)
  refine ensures_pure ⟨upToHere.trans dispatched, fun step latest => ?_, isTurn⟩
  rw [← upToHere.session.steps]
  exact mem_of_getLast? latest

theorem sameSteps_markHistoryRewritten (session : Session Message Tool) (reason : String) :
    SameSteps session (session.markHistoryRewritten reason) := by
  unfold Session.markHistoryRewritten
  split
  · exact SameSteps.refl session
  · exact { SameSteps.refl session with }

private theorem stepById_congr {before : Session Message Tool} (same : after.steps = before.steps)
    (stepId : StepId) :
    after.stepById stepId = before.stepById stepId := by
  unfold Session.stepById
  rw [same]

theorem routeRequest_ensures [BEq Message]
    (previous : ∀ step, admission.previousStep = some step → step ∈ state.session.steps) :
    Ensures (routeRequest config format request admission) state
      (fun routed after => Undisturbed state after ∧
        RouteFits state.session routed.route routed.routeBaseStep.isSome ∧
        routed.routeBaseStep = routed.route.baseStepId.bind after.session.stepById)
      (fun _ after => Undisturbed state after) := by
  refine ensures_bind (ensures_onSession ?_)
  refine (chooseRoute_ensures previous).mono (fun chosen middle taken => ?_)
    (fun message middle same => ?_)
  · have routedHere : Undisturbed state { state with session := middle } :=
      Undisturbed.of_session taken.sameSteps
    refine ensures_bind (ensures_raising (fun routing same => ?_) (fun _ => routedHere))
    cases same
    refine ensures_bind (ensures_getSession ?_)
    refine ensures_bind (undisturbed_modifySession (ensures_pure ⟨?_, taken.fits, ?_⟩))
    · refine routedHere.trans (Undisturbed.of_session ?_)
      dsimp only
      split
      · exact sameSteps_markHistoryRewritten middle rewriteText
      · exact SameSteps.refl middle
    · dsimp only [routedOf]
      split
      · congr 1
        funext stepId
        exact (stepById_congr (sameSteps_markHistoryRewritten middle rewriteText).steps stepId).symm
      · rfl
  · exact ensures_bind (ensures_raising nofun (fun _ => Undisturbed.of_session same))

/-- A prompt fits the steps before it: it opens its segment and is its own delta, or it is
the lineage's open segment followed by the delta. -/
def PromptFits (past : List (StepRecord Message Tool)) (lineageId : LineageId) (boundary : Bool)
    (payload : PromptPayload) : Prop :=
  payload.contextDeltaIds = payload.inputIds ∧
      (boundary = true ∨ ∀ step ∈ past, step.lineageId ≠ lineageId) ∨
    boundary = false ∧
      payload.inputIds =
        (Boundary.openSegment lineageBoundary
          (past.filter (fun step => step.lineageId = lineageId))).flatMap
            StepRecord.concatTokenIds ++ payload.contextDeltaIds

private theorem promptFits_preparedOf {payload : PromptPayload} {model : TitoModel}
    {messages : List Message} {tools : Option (List Tool)} {bound : Nat}
    (base : routed.routeBaseStep = routed.route.baseStepId.bind session.stepById)
    (appended : routed.route.type = .append → routed.routeBaseStep.isSome = true)
    (opened : routed.route.type ≠ .append → bound < routed.route.lineageId)
    (bounded : ∀ step ∈ session.steps, step.lineageId ≤ bound)
    (built : buildPromptTokens format .tito model session routed.route
      (!routed.lineageSegmentReasonsBefore.isEmpty) messages tools = .ok payload) :
    PromptFits session.steps routed.route.lineageId
      (preparedOf routed payload).lineageSegmentBoundaryBefore payload := by
  have fresh : routed.route.type ≠ .append →
      ∀ step ∈ session.steps, step.lineageId ≠ routed.route.lineageId := by
    intro notAppend step member same
    have most := bounded step member
    rw [same] at most
    exact absurd (opened notAppend) (Nat.not_lt.mpr most)
  rcases buildPromptTokens_delta rfl built with ⟨whole, why⟩ | ⟨notBounded, notFailed, grown⟩
  · refine .inl ⟨whole, ?_⟩
    rcases why with isBoundary | failed | isBranch | noBase
    · refine .inl ?_
      unfold preparedOf
      split
      · rfl
      · exact isBoundary
    · by_cases appending : routed.route.type = .append
      · refine .inl ?_
        unfold preparedOf
        rw [if_pos ⟨failed, appended appending⟩]
      · exact .inr (fresh appending)
    · refine .inr (fresh ?_)
      rw [isBranch]
      decide
    · refine .inr (fresh ?_)
      intro appending
      have found := appended appending
      rw [base, noBase] at found
      cases found
  · refine .inr ⟨?_, ?_⟩
    · unfold preparedOf
      rw [if_neg (fun failed => by rw [notFailed] at failed; exact absurd failed.1 (by decide))]
      exact notBounded
    · rw [grown, lineageTitoPrefixTokenIds_eq]
      rfl

private theorem preparePrompt_ensures (admission : Admission Message Tool) {bound : Nat}
    (base : routed.routeBaseStep = routed.route.baseStepId.bind state.session.stepById)
    (appended : routed.route.type = .append → routed.routeBaseStep.isSome = true)
    (opened : routed.route.type ≠ .append → bound < routed.route.lineageId)
    (bounded : ∀ step ∈ state.session.steps, step.lineageId ≤ bound) :
    Ensures (preparePrompt config format request admission routed) state
      (fun prepared after => after = state ∧
        (config.tokenBuildMode = .tito → PromptFits state.session.steps routed.route.lineageId
          prepared.lineageSegmentBoundaryBefore prepared.payload))
      (fun _ after => after = state) := by
  refine ensures_bind (ensures_getSession ?_)
  refine ensures_bind (ensures_raising (fun payload built => ?_) (fun _ => rfl))
  refine ensures_pure ⟨rfl, fun tito => ?_⟩
  rw [tito] at built
  have fits := promptFits_preparedOf base appended opened bounded built
  have kept : (preparedOf routed payload).payload = payload := by
    unfold preparedOf
    split <;> rfl
  rw [kept]
  exact fits

theorem checkBudget_looks (turnId : String) (prepared : Prepared) :
    Looks (checkBudget config request turnId prepared) := by
  intro state
  refine ensures_bind (ensures_getSession ?_)
  refine ensures_bind ((looks_failIf _ _).ensures (fun _ => ?_) (fun _ => rfl))
  refine ensures_bind (ensures_ofExcept (fun maxTokens _ => ?_) (fun _ _ => rfl))
  exact ensures_bind ((looks_failIf _ _).ensures (fun _ => ensures_pure rfl) (fun _ => rfl))

theorem checkBudget_window (request : ChatRequest Message Tool) (turnId : String)
    (prepared : Prepared) (state : ProxyState Message Tool) :
    Ensures (checkBudget config request turnId prepared) state
      (fun _ _ => ∀ window, config.contextWindow = some window →
        prepared.payload.inputIds.length < window)
      (fun _ _ => True) := by
  refine ensures_bind (ensures_getSession ?_)
  refine ensures_bind ((looks_failIf _ _).ensures (fun _ => ?_) (fun _ => trivial))
  refine ensures_bind (ensures_ofExcept (fun maxTokens within => ?_) (fun _ _ => trivial))
  refine ensures_bind ((looks_failIf _ _).ensures (fun _ => ensures_pure ?_) (fun _ => trivial))
  intro window set
  unfold windowBudget at within
  rw [set] at within
  dsimp only at within
  split at within
  · cases within
  · omega

def GeneratedFrom (config : ProxyConfig) (inputIds : List Nat) (result : PreemptibleGenerateResult) :
    Prop :=
  ∃ (request : Generation.Request) (events : List ChunkEvent), request.inputIds = inputIds ∧
    request.contextWindow = config.contextWindow ∧
    generatePreemptible config.partialRollout request events = some (.ok result)

theorem generate_generated (answers : Answers Call) (admission : Admission Message Tool)
    (inputIds : List Nat) (maxTokens : Int) (state : ProxyState Message Tool) :
    Ensures (generate config request answers admission inputIds maxTokens) state
      (fun result _ => GeneratedFrom config inputIds result) (fun _ _ => True) := by
  refine ensures_bind (ensures_getSession ?_)
  refine ensures_bind ((looks_failIf _ _).ensures (fun _ => ?_) (fun _ => trivial))
  refine ensures_bind ((looks_acquireLease answers.lease).ensures (fun _ => ?_) (fun _ => trivial))
  refine ensures_bind ((looks_failIf _ _).ensures (fun _ => ?_) (fun _ => trivial))
  split
  · exact ensures_fail trivial
  · exact ensures_fail trivial
  · next result returned => exact ensures_pure ⟨_, _, rfl, rfl, returned⟩

theorem generate_ensures (answers : Answers Call) (admission : Admission Message Tool)
    (inputIds : List Nat) (maxTokens : Int) (state : ProxyState Message Tool) :
    Ensures (generate config request answers admission inputIds maxTokens) state
      (fun result after => after = state ∧ FromChunks inputIds result)
      (fun _ after => after = state) := by
  refine ensures_bind (ensures_getSession ?_)
  refine ensures_bind ((looks_failIf _ _).ensures (fun _ => ?_) (fun _ => rfl))
  refine ensures_bind ((looks_acquireLease answers.lease).ensures (fun _ => ?_) (fun _ => rfl))
  refine ensures_bind ((looks_failIf _ _).ensures (fun _ => ?_) (fun _ => rfl))
  split
  · exact ensures_fail rfl
  · exact ensures_fail rfl
  · next result returned => exact ensures_pure ⟨rfl, fromChunks_generatePreemptible returned⟩

theorem sameSteps_stampRolloutEpoch (result : PreemptibleGenerateResult)
    (session : Session Message Tool) : SameSteps session (stampRolloutEpoch result session) :=
  { SameSteps.refl session with }

theorem acceptResult_ensures (result : PreemptibleGenerateResult)
    (state : ProxyState Message Tool) :
    Ensures (acceptResult config result) state
      (fun accepted after => Undisturbed state after ∧ accepted = acceptedOf config result)
      (fun _ after => Undisturbed state after) := by
  have stamped : Undisturbed state
      { state with session := stampRolloutEpoch result state.session } :=
    Undisturbed.of_session (sameSteps_stampRolloutEpoch result state.session)
  have finish : Ensures (do
      modifySession (stampRolloutEpoch result)
      pure (acceptedOf config result)) state
      (fun accepted after => Undisturbed state after ∧ accepted = acceptedOf config result)
      (fun _ after => Undisturbed state after) :=
    ensures_bind (undisturbed_modifySession (ensures_pure ⟨stamped, rfl⟩))
  refine ensures_bind (ensures_getSession ?_)
  refine ensures_bind ((looks_failIf _ _).ensures (fun _ => ?_) (fun _ => Undisturbed.refl state))
  split
  · exact finish
  · exact ensures_bind ((looks_raiseIfPartialVersionSpanExceeded _ _).ensures (fun _ => finish)
      (fun _ => Undisturbed.refl state))

theorem interpret_ensures (answers : Answers Call) (admission : Admission Message Tool)
    (result : PreemptibleGenerateResult) (accepted : Accepted) (state : ProxyState Message Tool) :
    Ensures (interpret config request answers admission result accepted) state
      (fun _ after => Undisturbed state after) (fun _ after => Undisturbed state after) := by
  unfold interpret
  dsimp only
  split
  · exact Undisturbed.refl state
  · refine ensures_bind (ensures_awaitOutcome (fun reasoning _ => ?_)
      (fun _ => Undisturbed.refl state))
    refine ensures_bind (ensures_awaitOutcome (fun parsed _ => ?_)
      (fun _ => Undisturbed.refl state))
    split
    · exact Undisturbed.refl state
    · refine ensures_bind (ensures_getSession ?_)
      apply ensures_bind
      exact (dispatchToolCallHooks_ensures _ _ _ _ _ _ _ state).mono
        (fun metadata after kept => ensures_pure kept) (fun _ _ kept => kept)

theorem read_fieldValueOf {fields : List StepField} {columns : Columns}
    (apart : ∀ left right, refOf left = refOf right → left = right) (field : StepField) :
    (fieldValueOf fields refOf columns field).read (storeColumns fields refOf columns queue) =
      some (columns field) := by
  have stored : ∀ (listed : List StepField) (current : TransferQueue),
      (field ∈ listed ∨ current.get? (refOf field) = some (columns field)) →
      (storeColumns listed refOf columns current).get? (refOf field) = some (columns field) := by
    intro listed
    induction listed with
    | nil =>
      intro current known
      exact known.resolve_left (not_mem_nil)
    | cons first rest ih =>
      intro current known
      refine ih (current.set (refOf first) (columns first)) ?_
      by_cases same : field = first
      · subst first
        exact .inr (get?_set_self _ _ _)
      · rcases known with listed | found
        · exact .inl ((mem_cons.mp listed).resolve_left same)
        · refine .inr ?_
          rw [get?_set_of_ne _ _ (fun equal => same (apart _ _ equal)), found]
  unfold fieldValueOf
  by_cases member : field ∈ fields
  · rw [if_pos member]
    exact stored fields queue (.inl member)
  · rw [if_neg member]
    rfl

theorem get?_storeColumns_of_ne {fields : List StepField} {columns : Columns} {ref : TQFieldRef}
    (different : ∀ field, ref ≠ refOf field) :
    (storeColumns fields refOf columns queue).get? ref = queue.get? ref := by
  unfold storeColumns
  induction fields generalizing queue with
  | nil => rfl
  | cons first rest ih =>
    rw [foldl_cons, ih, get?_set_of_ne _ _ (different first)]

theorem stepRef_injective {storeId sessionId incarnationId : String} {stepIndex : Nat}
    (left right : StepField)
    (same : stepRef storeId sessionId incarnationId stepIndex left =
      stepRef storeId sessionId incarnationId stepIndex right) : left = right := by
  simp only [stepRef, TQFieldRef.mk.injEq] at same
  exact same.2.2.2.2

structure Recorded (config : ProxyConfig) (before after : ProxyState Message Tool)
    (draft : StepDraft Message Tool Call) (step : StepRecord Message Tool) : Prop where
  steps : after.session.steps = before.session.steps ++ [step]
  stepId : before.session.stepCounter < step.stepId ∧ step.stepId ≤ after.session.stepCounter
  lineageCounter : before.session.lineageCounter ≤ after.session.lineageCounter
  numbered : LineagesNumbered before.session → LineagesNumbered after.session ∧
    step.lineageId = step.lineageIndex + 1 ∧ step.lineageId ≤ after.session.lineageCounter
  sessionId : after.session.sessionId = before.session.sessionId
  generations : after.journal.generations =
    before.journal.generations.set step.stepId draft.result.chunks
  columns : ∀ ref : TQFieldRef, ref.stepIndex < before.session.steps.length →
    after.queue.get? ref = before.queue.get? ref
  built : ∃ refOf : StepField → TQFieldRef,
    (∀ field, (refOf field).stepIndex = before.session.steps.length) ∧
      step = draft.step config.tokenBuildMode step.stepId step.lineageIndex
        (fieldValueOf (transferFields config) refOf (draft.columns config.tokenBuildMode)) ∧
      ∀ field, (fieldValueOf (transferFields config) refOf
        (draft.columns config.tokenBuildMode) field).read after.queue =
          some (draft.columns config.tokenBuildMode field)

theorem Undisturbed.recorded {first second third : ProxyState Message Tool}
    (kept : Undisturbed first second) (recorded : Recorded config second third draft step) :
    Recorded config first third draft step :=
  { steps := by rw [recorded.steps, kept.session.steps]
    stepId := ⟨Nat.lt_of_le_of_lt kept.session.stepCounter recorded.stepId.1, recorded.stepId.2⟩
    lineageCounter := Nat.le_trans kept.session.lineageCounter recorded.lineageCounter
    numbered := fun numbered => recorded.numbered (kept.session.numbered numbered)
    sessionId := recorded.sessionId.trans kept.session.sessionId
    generations := by rw [recorded.generations, kept.generations]
    columns := fun ref early => by
      rw [recorded.columns ref (by rw [kept.session.steps]; exact early), kept.columns ref early]
    built := by
      obtain ⟨refOf, index, shape, reads⟩ := recorded.built
      rw [kept.session.steps] at index
      exact ⟨refOf, index, shape, reads⟩ }

theorem numbered_recordStep {fingerprint : List Message → String}
    (found : session.lineages.get? step.lineageId = some lineage)
    (numbered : LineagesNumbered session) :
    LineagesNumbered (session.recordStep fingerprint step cache) := by
  unfold LineagesNumbered at numbered ⊢
  simp only [Session.recordStep, found]
  have same : ∀ changed : Lineage, (changed.id, changed.index) = (lineage.id, lineage.index) →
      (session.lineages.set step.lineageId changed).entries.map
          (fun entry => (entry.1, entry.2.id, entry.2.index)) =
        session.lineages.entries.map (fun entry => (entry.1, entry.2.id, entry.2.index)) := by
    intro changed shown
    apply map_entries_set _ found
    rw [shown]
  exact (same { lineage with latestStepId := some step.stepId } rfl).trans numbered

private theorem recorded_commitStep (kept : Undisturbed before state)
    (fresh : before.session.stepCounter < stepId ∧ stepId ≤ state.session.stepCounter)
    (found : state.session.lineages.get? draft.routed.route.lineageId = some lineage)
    (index : ∀ field, (refOf field).stepIndex = before.session.steps.length)
    (old : ∀ ref : TQFieldRef, ref.stepIndex < before.session.steps.length →
      queue.get? ref = before.queue.get? ref)
    (reads : ∀ field, (fieldValueOf (transferFields config) refOf
      (draft.columns config.tokenBuildMode) field).read queue =
        some (draft.columns config.tokenBuildMode field)) :
    Recorded config before
      (commitStep format
        (draft.step config.tokenBuildMode stepId lineage.index
          (fieldValueOf (transferFields config) refOf (draft.columns config.tokenBuildMode)))
        cache draft.result.chunks queue state)
      draft
      (draft.step config.tokenBuildMode stepId lineage.index
        (fieldValueOf (transferFields config) refOf (draft.columns config.tokenBuildMode))) :=
  { steps := by rw [← kept.session.steps]; rfl
    stepId := fresh
    lineageCounter := kept.session.lineageCounter
    numbered := fun numbered => by
      have atState := kept.session.numbered numbered
      have position := atState.of_get? found
      exact ⟨numbered_recordStep found atState, position.2.1, position.2.2⟩
    sessionId := kept.session.sessionId
    generations := by rw [← kept.generations]; rfl
    columns := old
    built := ⟨refOf, index, rfl, reads⟩ }

private theorem recordLocally_ensures (localOnly : config.transferQueue = none)
    (kept : Undisturbed before state)
    (fresh : before.session.stepCounter < stepId ∧ stepId ≤ state.session.stepCounter)
    (found : state.session.lineages.get? draft.routed.route.lineageId = some lineage) :
    Ensures (recordLocally config format draft stepId lineage.index cache) state
      (fun _ after => ∃ step, Recorded config before after draft step)
      (fun _ after => Undisturbed before after ∨
        ∃ step, Recorded config before after draft step) := by
  have fields : transferFields config = [] := by
    unfold transferFields
    rw [localOnly]
  let refOf : StepField → TQFieldRef := stepRef "" "" "" before.session.steps.length
  have resident : (fun field => FieldValue.resident (draft.columns config.tokenBuildMode field)) =
      fieldValueOf (transferFields config) refOf (draft.columns config.tokenBuildMode) := by
    funext field
    rw [fieldValueOf, fields, if_neg not_mem_nil]
  have reads : ∀ field, (fieldValueOf (transferFields config) refOf
      (draft.columns config.tokenBuildMode) field).read state.queue =
        some (draft.columns config.tokenBuildMode field) := by
    intro field
    rw [← congrFun resident field]
    rfl
  unfold recordLocally
  rw [resident]
  exact ensures_modify ⟨_, recorded_commitStep kept fresh found (fun _ => rfl) kept.columns reads⟩

private theorem recordRemotely_ensures {queueConfig : TransferQueueConfig} {answers : Answers Call}
    (kept : Undisturbed before state)
    (fresh : before.session.stepCounter < stepId ∧ stepId ≤ state.session.stepCounter)
    (found : state.session.lineages.get? draft.routed.route.lineageId = some lineage) :
    Ensures (recordRemotely config format queueConfig answers draft stepId lineage.index cache)
      state
      (fun _ after => ∃ step, Recorded config before after draft step)
      (fun _ after => Undisturbed before after ∨
        ∃ step, Recorded config before after draft step) := by
  refine ensures_bind (undisturbed_modifySession ?_)
  refine ensures_bind (ensures_getSession ?_)
  dsimp only
  let refOf := stepRef queueConfig.storeId state.session.sessionId
    (state.session.incarnationId.getD answers.incarnationHex) state.session.steps.length
  have index : ∀ field, (refOf field).stepIndex = before.session.steps.length := by
    intro field
    rw [← kept.session.steps]
    rfl
  have old : ∀ ref : TQFieldRef, ref.stepIndex < before.session.steps.length →
      (storeColumns (transferFields config) refOf (draft.columns config.tokenBuildMode)
        state.queue).get? ref = before.queue.get? ref := by
    intro ref early
    rw [get?_storeColumns_of_ne, kept.columns ref early]
    intro field same
    rw [same, index field] at early
    exact absurd early (Nat.lt_irrefl _)
  have named : Undisturbed before
      { state with
        session :=
          { state.session with
            incarnationId := some (state.session.incarnationId.getD answers.incarnationHex) } } :=
    kept.trans (Undisturbed.of_session { SameSteps.refl state.session with })
  cases answers.put with
  | failed message written =>
    refine ensures_bind (ensures_modify (ensures_fail (.inl ?_)))
    exact
      { named with
        columns := fun ref early => by
          dsimp only
          split
          · exact old ref early
          · exact kept.columns ref early }
  | stored =>
    have reads : ∀ field, (fieldValueOf (transferFields config) refOf
        (draft.columns config.tokenBuildMode) field).read
          (storeColumns (transferFields config) refOf (draft.columns config.tokenBuildMode)
            state.queue) = some (draft.columns config.tokenBuildMode field) :=
      read_fieldValueOf stepRef_injective
    refine ensures_bind (ensures_modify ?_)
    exact (looks_failIf _ _).ensures
      (fun _ => ⟨_, recorded_commitStep named fresh found index old reads⟩)
      (fun _ => .inr ⟨_, recorded_commitStep named fresh found index old reads⟩)

theorem recordStep_rows (answers : Answers Call) (draft : StepDraft Message Tool Call)
    (state : ProxyState Message Tool) :
    Ensures (recordStep config format answers draft) state
      (fun _ _ => answers.routedExperts = .ok ())
      (fun _ after => answers.routedExperts = .ok () ∨ after = state) := by
  refine ensures_bind (ensures_raising (fun _ cut => ?_) (fun _ => .inr rfl))
  exact (ensures_outcome _ state).mono (fun _ _ _ => cut) (fun _ _ _ => .inl cut)

theorem recordStep_ensures (answers : Answers Call) (draft : StepDraft Message Tool Call)
    (state : ProxyState Message Tool) :
    Ensures (recordStep config format answers draft) state
      (fun _ after => ∃ step, Recorded config state after draft step)
      (fun _ after => Undisturbed state after ∨
        ∃ step, Recorded config state after draft step) := by
  refine ensures_bind (ensures_raising (fun _ _ => ?_) (fun _ => .inl (Undisturbed.refl state)))
  refine ensures_bind (ensures_getSession ?_)
  refine ensures_bind (undisturbed_modifySession ?_)
  have numberedNext : Undisturbed state
      { state with session := state.session.nextStepId.2 } :=
    Undisturbed.of_session
      { steps := rfl
        stepCounter := Nat.le_succ _
        lineageCounter := Nat.le_refl _
        numbered := id
        sessionId := rfl }
  have fresh : state.session.stepCounter < state.session.nextStepId.1 ∧
      state.session.nextStepId.1 ≤ state.session.nextStepId.2.stepCounter :=
    ⟨Nat.lt_succ_self _, Nat.le_refl _⟩
  cases found : state.session.lineages.get? draft.routed.route.lineageId with
  | none => exact ensures_fail (.inl numberedNext)
  | some lineage =>
    dsimp only
    cases transfer : config.transferQueue with
    | none => exact recordLocally_ensures transfer numberedNext fresh found
    | some queueConfig => exact recordRemotely_ensures numberedNext fresh found

structure DraftFits (config : ProxyConfig) (past : List (StepRecord Message Tool))
    (draft : StepDraft Message Tool Call) : Prop where
  result : FromChunks draft.prepared.payload.inputIds draft.result
  generated : GeneratedFrom config draft.prepared.payload.inputIds draft.result
  window : ∀ window, config.contextWindow = some window →
    draft.prepared.payload.inputIds.length < window
  accepted : draft.accepted = acceptedOf config draft.result
  continued : draft.routed.route.type = .append →
    ∃ step ∈ past, step.lineageId = draft.routed.route.lineageId
  opened : draft.routed.route.type ≠ .append →
    ∀ step ∈ past, step.lineageId ≠ draft.routed.route.lineageId
  prompt : config.tokenBuildMode = .tito → PromptFits past draft.routed.route.lineageId
    draft.prepared.lineageSegmentBoundaryBefore draft.prepared.payload

theorem draftStep_ok {request : ChatRequest Message Tool} {prepared : Prepared}
    {result : PreemptibleGenerateResult} {accepted : Accepted} {interpreted : Interpreted Call}
    (drafted : draftStep config format request admission routed prepared result accepted
      interpreted = .ok draft) :
    draft.routed = routed ∧ draft.prepared = prepared ∧ draft.result = result ∧
      draft.accepted = accepted ∧ draft.admission = admission ∧
        draft.interpreted = interpreted := by
  unfold draftStep at drafted
  dsimp only at drafted
  cases normal : format.normalizeTemplateMessages (request.messages ++
    [format.assistantMessage interpreted.content interpreted.toolCalls
      interpreted.reasoningContent]) with
  | error message =>
    rw [normal] at drafted
    cases drafted
  | ok normalized =>
    rw [normal] at drafted
    cases tokens : snapshotTokenIds config format prepared.payload.inputIds
      (recordedResponse result accepted prepared.payload.inputIds).tokenIds normalized
      request.tools with
    | error message =>
      have failed : (Except.error message : Except String (StepDraft Message Tool Call)) =
          .ok draft := by
        rw [← drafted]
        simp only [tokens, bind, Except.bind]
      cases failed
    | ok tokenIds =>
      simp only [tokens, bind, Except.bind, Except.ok.injEq] at drafted
      rw [← drafted]
      exact ⟨rfl, rfl, rfl, rfl, rfl, rfl⟩

private theorem respond_ensures {maxTokens : Int} {stepIndex : Nat}
    (recorded : Recorded config before state draft step) :
    Ensures (respond config maxTokens stepIndex draft) state
      (fun _ after => Recorded config before after draft step)
      (fun _ after => Recorded config before after draft step) := by
  refine ensures_bind (ensures_getSession ?_)
  refine ensures_bind ((looks_failIf _ _).ensures (fun _ => ?_) (fun _ => recorded))
  refine ensures_bind (ensures_modify (ensures_pure ?_))
  split
  · exact recorded
  · exact
      { steps := recorded.steps
        stepId := recorded.stepId
        lineageCounter := recorded.lineageCounter
        numbered := recorded.numbered
        sessionId := recorded.sessionId
        generations := recorded.generations
        columns := recorded.columns
        built := recorded.built }

def Served (config : ProxyConfig) (Call : Type) (before after : ProxyState Message Tool) : Prop :=
  Undisturbed before after ∨
    ∃ (draft : StepDraft Message Tool Call) (step : StepRecord Message Tool),
      DraftFits config before.session.steps draft ∧ Recorded config before after draft step

private def ServedBy (config : ProxyConfig) (answers : Answers Call)
    (before after : ProxyState Message Tool) : Prop :=
  Undisturbed before after ∨
    answers.routedExperts = .ok () ∧
      ∃ (draft : StepDraft Message Tool Call) (step : StepRecord Message Tool),
        DraftFits config before.session.steps draft ∧ Recorded config before after draft step

private theorem chatCompletions_ensures [BEq Message] (answers : Answers Call)
    (bounded : ∀ step ∈ state.session.steps, step.lineageId ≤ state.session.lineageCounter) :
    Ensures (chatCompletions config format request answers) state
      (fun _ after => ServedBy config answers state after)
      (fun _ after => ServedBy config answers state after) := by
  refine ensures_bind ((admitRequest_ensures request answers state).mono
    (fun admission admitted entry => ?_) (fun _ _ kept => .inl kept))
  obtain ⟨keptAdmit, previous, _turn⟩ := entry
  rw [← keptAdmit.session.steps] at previous
  refine ensures_bind ((routeRequest_ensures request previous).mono
    (fun routed atRoute routing => ?_) (fun _ _ kept => .inl (keptAdmit.trans kept)))
  obtain ⟨keptRoute, fits, base⟩ := routing
  have keptHere := keptAdmit.trans keptRoute
  have boundedHere : ∀ step ∈ atRoute.session.steps,
      step.lineageId ≤ admitted.session.lineageCounter := by
    intro step member
    rw [keptHere.session.steps] at member
    exact Nat.le_trans (bounded step member) keptAdmit.session.lineageCounter
  refine ensures_bind ((preparePrompt_ensures request admission base fits.appended fits.opened
    boundedHere).mono (fun prepared same ready => ?_)
    (fun _ after same => by rw [same]; exact .inl keptHere))
  obtain ⟨rfl, promptFits⟩ := ready
  refine ensures_bind (((checkBudget_looks request admission.turnId prepared same).and
    (checkBudget_window request admission.turnId prepared same)).mono
    (fun maxTokens unchanged budget => ?_) (fun _ _ refused => by
      rw [refused.1]
      exact .inl keptHere))
  obtain ⟨rfl, window⟩ := budget
  refine ensures_bind (((generate_ensures request answers admission prepared.payload.inputIds
    maxTokens unchanged).and (generate_generated request answers admission
      prepared.payload.inputIds maxTokens unchanged)).mono (fun result after generation => ?_)
    (fun _ after refused => by rw [refused.1]; exact .inl keptHere))
  obtain ⟨⟨rfl, chunks⟩, generated⟩ := generation
  refine ensures_bind ((acceptResult_ensures result after).mono
    (fun accepted stamped acceptance => ?_) (fun _ _ kept => .inl (keptHere.trans kept)))
  obtain ⟨keptAccept, acceptedIs⟩ := acceptance
  have keptStamp := keptHere.trans keptAccept
  refine ensures_bind ((interpret_ensures request answers admission result accepted stamped).mono
    (fun interpreted parsed kept => ?_) (fun _ _ kept => .inl (keptStamp.trans kept)))
  have keptParse := keptStamp.trans kept
  refine ensures_bind (ensures_raising (fun draft drafted => ?_) (fun _ => .inl keptParse))
  obtain ⟨routedIs, preparedIs, resultIs, acceptedIs', _, _⟩ := draftStep_ok drafted
  have draftFits : DraftFits config state.session.steps draft :=
    { result := by rw [preparedIs, resultIs]; exact chunks
      generated := by rw [preparedIs, resultIs]; exact generated
      window := by rw [preparedIs]; exact window
      accepted := by rw [acceptedIs', resultIs, acceptedIs]
      continued := by
        rw [routedIs, ← keptAdmit.session.steps]
        exact fits.continued
      opened := fun notAppend step member sameLineage => by
        rw [routedIs] at notAppend sameLineage
        have most := Nat.le_trans (bounded step member) keptAdmit.session.lineageCounter
        rw [sameLineage] at most
        exact Nat.not_lt.mpr most (fits.opened notAppend)
      prompt := fun tito => by
        rw [routedIs, preparedIs, ← keptHere.session.steps]
        exact promptFits tito }
  refine ensures_bind (ensures_getSession ?_)
  refine ensures_bind (((recordStep_ensures answers draft parsed).and
    (recordStep_rows answers draft parsed)).mono
    (fun _ committed recorded => ?_) (fun _ _ ended => ?_))
  · obtain ⟨⟨step, recorded⟩, cut⟩ := recorded
    refine (respond_ensures (keptParse.recorded recorded)).mono (fun _ _ done => ?_)
      (fun _ _ done => ?_)
    · exact .inr ⟨cut, draft, step, draftFits, done⟩
    · exact .inr ⟨cut, draft, step, draftFits, done⟩
  · rcases ended with ⟨ended, cut | rfl⟩
    · rcases ended with kept | ⟨step, recorded⟩
      · exact .inl (keptParse.trans kept)
      · exact .inr ⟨cut, draft, step, draftFits, keptParse.recorded recorded⟩
    · exact .inl keptParse

theorem served_serve [BEq Message] (event : ChatEvent Message Tool Call)
    (bounded : ∀ step ∈ state.session.steps, step.lineageId ≤ state.session.lineageCounter) :
    Served config Call state (serve config format state event) := by
  rcases (chatCompletions_ensures event.request event.answers bounded).final with
    kept | ⟨_cut, recorded⟩
  · exact .inl kept
  · exact .inr recorded

theorem undisturbed_serve [BEq Message] {event : ChatEvent Message Tool Call} {message : String}
    (bounded : ∀ step ∈ state.session.steps, step.lineageId ≤ state.session.lineageCounter)
    (uncut : event.answers.routedExperts = .error message) :
    Undisturbed state (serve config format state event) := by
  rcases (chatCompletions_ensures event.request event.answers bounded).final with
    kept | ⟨cut, _recorded⟩
  · exact kept
  · rw [uncut] at cut
    cases cut

structure Origin (config : ProxyConfig) (state : ProxyState Message Tool)
    (past : List (StepRecord Message Tool)) (step : StepRecord Message Tool)
    (draft : StepDraft Message Tool Call) : Prop where
  fits : DraftFits config past draft
  chunks : state.journal.generations.get? step.stepId = some draft.result.chunks
  built : ∃ refOf : StepField → TQFieldRef, (∀ field, (refOf field).stepIndex = past.length) ∧
    step = draft.step config.tokenBuildMode step.stepId step.lineageIndex
      (fieldValueOf (transferFields config) refOf (draft.columns config.tokenBuildMode)) ∧
    ∀ field, (fieldValueOf (transferFields config) refOf
      (draft.columns config.tokenBuildMode) field).read state.queue =
        some (draft.columns config.tokenBuildMode field)

/-- The invariant of a session served by the pipeline. -/
structure WellRecorded (config : ProxyConfig) (Call : Type) (state : ProxyState Message Tool) :
    Prop where
  numbered : LineagesNumbered state.session
  increasing : state.session.steps.Pairwise (fun first second => first.stepId < second.stepId)
  counted : ∀ step ∈ state.session.steps, step.stepId ≤ state.session.stepCounter
  placed : ∀ step ∈ state.session.steps, step.lineageId = step.lineageIndex + 1 ∧
    step.lineageId ≤ state.session.lineageCounter
  origins : ∀ past step later, state.session.steps = past ++ step :: later →
    ∃ draft : StepDraft Message Tool Call, Origin config state past step draft

theorem wellRecorded_initial (sessionId instanceId : String) (now : ℚ) :
    WellRecorded config Call (ProxyState.initial sessionId instanceId now :
      ProxyState Message Tool) :=
  { numbered := rfl
    increasing := List.Pairwise.nil
    counted := fun step member => by cases member
    placed := fun step member => by cases member
    origins := fun past step later split => by
      have sizes := congrArg List.length split
      simp [ProxyState.initial, Session.new] at sizes }

private theorem Origin.kept {after : ProxyState Message Tool}
    {past : List (StepRecord Message Tool)} (origin : Origin config before past step draft)
    (generations : after.journal.generations.get? step.stepId =
      before.journal.generations.get? step.stepId)
    (columns : ∀ ref : TQFieldRef, ref.stepIndex = past.length →
      after.queue.get? ref = before.queue.get? ref) :
    Origin config after past step draft := by
  obtain ⟨refOf, index, shape, reads⟩ := origin.built
  refine
    { fits := origin.fits
      chunks := by rw [generations]; exact origin.chunks
      built := ⟨refOf, index, shape, fun field => ?_⟩ }
  rw [← reads field]
  unfold fieldValueOf
  split
  · exact columns (refOf field) (index field)
  · rfl

theorem WellRecorded.undisturbed {after : ProxyState Message Tool}
    (recorded : WellRecorded config Call before) (kept : Undisturbed before after) :
    WellRecorded config Call after :=
  { numbered := kept.session.numbered recorded.numbered
    increasing := by rw [kept.session.steps]; exact recorded.increasing
    counted := fun step member => by
      rw [kept.session.steps] at member
      exact Nat.le_trans (recorded.counted step member) kept.session.stepCounter
    placed := fun step member => by
      rw [kept.session.steps] at member
      have place := recorded.placed step member
      exact ⟨place.1, Nat.le_trans place.2 kept.session.lineageCounter⟩
    origins := fun past step later split => by
      rw [kept.session.steps] at split
      obtain ⟨draft, origin⟩ := recorded.origins past step later split
      refine ⟨draft, origin.kept (by rw [kept.generations]) (fun ref index => ?_)⟩
      apply kept.columns ref
      rw [index, split, length_append, length_cons]
      omega }

private theorem WellRecorded.snoc {after : ProxyState Message Tool} {new : StepRecord Message Tool}
    (recorded : WellRecorded config Call before)
    (fits : DraftFits config before.session.steps draft)
    (appended : Recorded config before after draft new) : WellRecorded config Call after := by
  have numbered := appended.numbered recorded.numbered
  have older : ∀ step ∈ before.session.steps, step.stepId < new.stepId := fun step member =>
    Nat.lt_of_le_of_lt (recorded.counted step member) appended.stepId.1
  refine
    { numbered := numbered.1
      increasing := ?_
      counted := ?_
      placed := ?_
      origins := ?_ }
  · rw [appended.steps, pairwise_append]
    refine ⟨recorded.increasing, pairwise_singleton _ _, fun first inOld second isNew => ?_⟩
    rw [mem_singleton.mp isNew]
    exact older first inOld
  · intro step member
    rw [appended.steps, mem_append, mem_singleton] at member
    rcases member with inOld | rfl
    · exact Nat.le_of_lt (Nat.lt_of_lt_of_le (older step inOld) appended.stepId.2)
    · exact appended.stepId.2
  · intro step member
    rw [appended.steps, mem_append, mem_singleton] at member
    rcases member with inOld | rfl
    · have place := recorded.placed step inOld
      exact ⟨place.1, Nat.le_trans place.2 appended.lineageCounter⟩
    · exact numbered.2
  · intro past step later split
    rw [appended.steps] at split
    rcases eq_nil_or_concat later with rfl | ⟨front, last, rfl⟩
    · obtain ⟨rfl, same⟩ := append_inj' split rfl
      cases same
      refine ⟨draft, fits, ?_, appended.built⟩
      rw [appended.generations, get?_set_self]
    · -- The step is an old one: its split ends before the appended step.
      rw [concat_eq_append, ← cons_append, ← append_assoc] at split
      have oldSplit := (append_inj' split rfl).1
      obtain ⟨source, origin⟩ := recorded.origins past step front oldSplit
      have inOld : step ∈ before.session.steps := by
        rw [oldSplit]
        exact mem_append_right past mem_cons_self
      refine ⟨source, origin.kept ?_ (fun ref index => appended.columns ref ?_)⟩
      · rw [appended.generations, get?_set_of_ne _ _ (Nat.ne_of_lt (older step inOld))]
      · rw [index, oldSplit, length_append, length_cons]
        omega

theorem wellRecorded_serve [BEq Message] (event : ChatEvent Message Tool Call)
    (recorded : WellRecorded config Call state) :
    WellRecorded config Call (serve config format state event) := by
  have served : Served config Call state (serve config format state event) :=
    served_serve event (fun step member => (recorded.placed step member).2)
  rcases served with kept | ⟨draft, step, fits, appended⟩
  · exact recorded.undisturbed kept
  · exact recorded.snoc fits appended

theorem wellRecorded_run [BEq Message] (sessionId instanceId : String) (now : ℚ)
    (events : List (ChatEvent Message Tool Call)) :
    WellRecorded config Call
      (Runs.run (serve config format) (ProxyState.initial sessionId instanceId now) events) := by
  have preserved : ∀ (state : ProxyState Message Tool) (event : ChatEvent Message Tool Call),
      WellRecorded config Call state → True → WellRecorded config Call
        (serve config format state event) := fun _ event recorded _ =>
    wellRecorded_serve event recorded
  exact Runs.run_invariant_of_forall preserved (wellRecorded_initial sessionId instanceId now)
    (fun _ _ => trivial)

end Dressage.Proxy

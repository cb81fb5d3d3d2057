/-
Routing in the sessions the pipeline reaches.

The index of every reached session lists its steps. The hash of a request's tools is taken with
their keys sorted; a template that renders them as they come spoils the caches as soon as a
client reorders the keys of a tool.
-/

import Dressage.Proxy.PlainFormat
import Dressage.Proxy.RouteChoice
import Dressage.Proxy.StepOrigins

namespace Dressage.Proxy

open Lib Lib.Effect Transport Generation

variable {Message Tool Call : Type}

def IndexedState (state : ProxyState Message Tool) : Prop := Indexed state.session

section Rules

variable {α : Type}

private theorem indexed_modifySession {change : Session Message Tool → Session Message Tool}
    (kept : ∀ session, Indexed session → Indexed (change session)) :
    Preserves IndexedState (modifySession change : Pipeline Message Tool Unit) :=
  fun state indexed => kept state.session indexed

private theorem indexed_onSession {operation : Effect (Session Message Tool) String α}
    (kept : Preserves Indexed operation) :
    Preserves IndexedState (onSession operation : Pipeline Message Tool (Except String α)) :=
  fun state indexed => kept state.session indexed

private theorem indexed_raising (result : Except String α) :
    Preserves IndexedState (raising result : Pipeline Message Tool α) := by
  cases result with
  | ok value => exact preserves_pure value
  | error message => exact preserves_fail _

private theorem indexed_raising_bind {β : Type} {result : Except String α}
    {next : α → Pipeline Message Tool β}
    (later : ∀ value, result = .ok value → Preserves IndexedState (next value)) :
    Preserves IndexedState (raising result >>= next) := by
  cases result with
  | ok value => exact later value rfl
  | error message => exact fun _ indexed => indexed

private theorem indexed_awaitOutcome (outcome : Await α) :
    Preserves IndexedState (awaitOutcome outcome : Pipeline Message Tool α) := by
  cases outcome with
  | done value => exact preserves_pure value
  | raised message => exact preserves_fail _
  | cancelled => exact preserves_fail _

private theorem indexed_getSession :
    Preserves IndexedState (getSession : Pipeline Message Tool (Session Message Tool)) :=
  fun _ indexed => indexed

end Rules

section Pipeline

variable {config : ProxyConfig} {format : ChatFormat Message Tool Call}

private theorem indexed_resolveTurn (requested : Option String) (uuidHex : String) :
    Preserves IndexedState (resolveTurn requested uuidHex : Pipeline Message Tool String) := by
  have resolved : Preserves Indexed (fun session : Session Message Tool =>
      session.resolveTurnId requested uuidHex) := by
    intro session indexed
    unfold Session.resolveTurnId
    dsimp only
    repeat' split
    all_goals exact indexed
  refine preserves_bind (indexed_onSession resolved) (fun outcome => ?_)
  cases outcome with
  | ok turnId => exact preserves_pure turnId
  | error message => exact preserves_fail _

private theorem indexed_dispatch (stage : Stage) (sandboxId : Option String)
    (instanceId turnId : String) (stepIndex : Nat) (answers : DispatchAnswers)
    (metadata : List HookFailure) :
    Preserves IndexedState (dispatchToolCallHooks config stage sandboxId instanceId turnId
      stepIndex answers metadata : Pipeline Message Tool (List HookFailure)) := by
  intro state indexed
  unfold dispatchToolCallHooks
  cases config.toolCallHookChain with
  | none => exact indexed
  | some chain =>
    cases sandboxId with
    | none => exact indexed
    | some sandbox =>
      dsimp only
      split
      · exact indexed
      · split <;> exact indexed

variable (request : ChatRequest Message Tool)

private theorem indexed_admitRequest [BEq Message] (answers : Answers Call) :
    Preserves IndexedState (admitRequest config format request answers) := by
  have adopted : ∀ session : Session Message Tool, Indexed session →
      Indexed (adoptInstanceId request session) := by
    intro session indexed
    unfold adoptInstanceId
    split
    · exact indexed
    · split <;> exact indexed
  refine preserves_bind (indexed_modifySession adopted) (fun _ => ?_)
  refine preserves_bind (indexed_resolveTurn request.turnId answers.uuidHex) (fun turnId => ?_)
  refine preserves_bind indexed_getSession (fun session => ?_)
  have looked : Preserves IndexedState (raiseIfStaleRolloutEpoch config session
      answers.currentEpoch : Pipeline Message Tool Unit) := by
    unfold raiseIfStaleRolloutEpoch
    cases session.rolloutEpoch with
    | none => exact preserves_pure ()
    | some epoch => exact preserves_failIf _ _
  refine preserves_bind looked (fun _ => ?_)
  refine preserves_bind (indexed_raising _) (fun normalized => ?_)
  refine preserves_bind ?_ (fun metadata => preserves_pure _)
  unfold dispatchAfterToolCallHooks
  split
  · exact indexed_dispatch _ _ _ _ _ _ _
  · exact preserves_pure []

theorem CachesOnly.indexed {before after : Session Message Tool} (only : CachesOnly before after)
    (indexed : Indexed before) : Indexed after := by
  obtain ⟨_, rfl⟩ := only
  exact indexed

private theorem RouteTaken.indexed {before after : Session Message Tool} {route : Route}
    (taken : RouteTaken before after route) (indexed : Indexed before) : Indexed after := by
  cases taken with
  | append step recorded unchanged => exact unchanged.indexed indexed
  | branch step recorded middle unchanged opened | create middle unchanged opened =>
    rw [opened]
    exact unchanged.indexed indexed

private theorem indexed_selectRoute [BEq Message] (noneEqualsEmpty : Bool)
    (messages : List Message) (tools : Option (List Tool)) (hash : String) :
    Preserves Indexed (selectRoute format noneEqualsEmpty messages tools hash) := by
  intro session indexed
  apply Ensures.final
  exact (selectRoute_ensures noneEqualsEmpty messages tools hash session).mono
    (fun route after taken => RouteTaken.indexed taken indexed)
    (fun _ after only => only.indexed indexed)

private theorem indexed_createRoute :
    Preserves Indexed (createRoute : Effect (Session Message Tool) String Route) := by
  refine preserves_bind preserves_get (fun session => ?_)
  exact preserves_bind (preserves_modify (fun _ indexed => indexed)) (fun _ => preserves_pure _)

private theorem indexed_chooseRoute [BEq Message] (admission : Admission Message Tool) :
    Preserves Indexed (chooseRoute config format request admission) := by
  refine preserves_bind (preserves_attempt (indexed_selectRoute _ _ _ _)) (fun selected => ?_)
  cases selected with
  | ok route => exact preserves_pure (route, false)
  | error message =>
    refine preserves_bind ?_ (fun route => preserves_pure (route, true))
    unfold safetyRoute
    split
    · exact indexed_createRoute
    · split
      · exact preserves_pure _
      · exact indexed_createRoute

private theorem indexed_routeRequest [BEq Message] (admission : Admission Message Tool) :
    Preserves IndexedState (routeRequest config format request admission) := by
  refine preserves_bind (indexed_onSession (indexed_chooseRoute request admission)) (fun chosen => ?_)
  refine preserves_bind (indexed_raising chosen) (fun routing => ?_)
  refine preserves_bind indexed_getSession (fun session => ?_)
  refine preserves_bind (indexed_modifySession ?_) (fun _ => preserves_pure _)
  intro current indexed
  split
  · unfold Session.markHistoryRewritten
    split <;> exact indexed
  · exact indexed

private theorem indexed_preparePrompt (admission : Admission Message Tool)
    (routed : Routed Message Tool) :
    Preserves IndexedState (preparePrompt config format request admission routed) := by
  refine preserves_bind indexed_getSession (fun session => ?_)
  exact preserves_bind (indexed_raising _) (fun _ => preserves_pure _)

private theorem indexed_of_looks {α : Type} {stage : Pipeline Message Tool α}
    (looks : Looks stage) : Preserves IndexedState stage := by
  intro state indexed
  apply Ensures.final
  exact looks.ensures (fun _ => indexed) (fun _ => indexed)

private theorem indexed_generate (answers : Answers Call) (admission : Admission Message Tool)
    (inputIds : List Nat) (maxTokens : Int) :
    Preserves IndexedState (generate config request answers admission inputIds maxTokens) := by
  apply indexed_of_looks
  intro state
  exact (generate_ensures request answers admission inputIds maxTokens state).mono
    (fun _ _ generated => generated.1) (fun _ _ same => same)

private theorem indexed_acceptResult (result : PreemptibleGenerateResult) :
    Preserves IndexedState (acceptResult config result : Pipeline Message Tool Accepted) := by
  refine preserves_bind indexed_getSession (fun session => ?_)
  refine preserves_bind (preserves_failIf _ _) (fun _ => ?_)
  have finish : Preserves IndexedState (do
      modifySession (stampRolloutEpoch result)
      pure (acceptedOf config result) : Pipeline Message Tool Accepted) :=
    preserves_bind (indexed_modifySession (fun _ indexed => indexed)) (fun _ => preserves_pure _)
  dsimp only
  split
  · exact finish
  · exact preserves_bind
      (indexed_of_looks (looks_raiseIfPartialVersionSpanExceeded session _)) (fun _ => finish)

private theorem indexed_interpret (answers : Answers Call) (admission : Admission Message Tool)
    (result : PreemptibleGenerateResult) (accepted : Accepted) :
    Preserves IndexedState (interpret config request answers admission result accepted) := by
  unfold interpret
  dsimp only
  split
  · exact preserves_pure _
  · refine preserves_bind (indexed_awaitOutcome _) (fun reasoning => ?_)
    refine preserves_bind (indexed_awaitOutcome _) (fun parsed => ?_)
    split
    · exact preserves_pure _
    · refine preserves_bind indexed_getSession (fun session => ?_)
      exact preserves_bind (indexed_dispatch _ _ _ _ _ _ _) (fun _ => preserves_pure _)

variable {session : Session Message Tool}

theorem indexed_recordSession (indexed : Indexed session) (fingerprint : List Message → String)
    {step : StepRecord Message Tool} (cache : SnapshotCache)
    (messages : step.normalizedMessagesSnapshot ≠ []) :
    Indexed (session.recordStep fingerprint step cache) := by
  unfold Indexed Session.recordStep at *
  rw [if_neg messages, List.map_append, ← indexed]
  rfl

private theorem indexed_recordStep (answers : Answers Call)
    {draft : StepDraft Message Tool Call} (messages : draft.fullMessages ≠ []) :
    Preserves IndexedState (recordStep config format answers draft) := by
  have committed : ∀ (state : ProxyState Message Tool) (stepId lineageIndex : Nat)
      (values : StepField → FieldValue) (cache : SnapshotCache) (queue : TransferQueue),
      IndexedState state → IndexedState (commitStep format
        (draft.step config.tokenBuildMode stepId lineageIndex values) cache draft.result.chunks
          queue state) := by
    intro state stepId lineageIndex values cache queue indexed
    apply indexed_recordSession indexed
    dsimp only [StepDraft.step]
    split
    · exact messages
    · next present => exact present
  refine preserves_bind (indexed_raising _) (fun _ => ?_)
  refine preserves_bind indexed_getSession (fun session => ?_)
  refine preserves_bind (indexed_modifySession (fun _ indexed => indexed)) (fun _ => ?_)
  split
  · exact preserves_fail _
  · dsimp only
    split
    · exact preserves_modify (fun state indexed => committed state _ _ _ _ _ indexed)
    · unfold recordRemotely
      refine preserves_bind (indexed_modifySession (fun _ indexed => indexed)) (fun _ => ?_)
      refine preserves_bind indexed_getSession (fun named => ?_)
      dsimp only
      split
      · exact preserves_bind (preserves_modify (fun _ indexed => indexed))
          (fun _ => preserves_fail _)
      · exact preserves_bind
          (preserves_modify (fun state indexed => committed state _ _ _ _ _ indexed))
          (fun _ => preserves_failIf _ _)

private theorem indexed_respond (maxTokens : Int) (stepIndex : Nat)
    (draft : StepDraft Message Tool Call) :
    Preserves IndexedState (respond config maxTokens stepIndex draft) := by
  refine preserves_bind indexed_getSession (fun session => ?_)
  refine preserves_bind (preserves_failIf _ _) (fun _ => ?_)
  refine preserves_bind (preserves_modify (fun state indexed => ?_)) (fun _ => preserves_pure _)
  split <;> exact indexed

private theorem draftStep_fullMessages {request : ChatRequest Message Tool}
    {admission : Admission Message Tool} {routed : Routed Message Tool} {prepared : Prepared}
    {result : PreemptibleGenerateResult} {accepted : Accepted} {interpreted : Interpreted Call}
    {draft : StepDraft Message Tool Call}
    (drafted : draftStep config format request admission routed prepared result accepted
      interpreted = .ok draft) : draft.fullMessages ≠ [] := by
  unfold draftStep at drafted
  obtain ⟨normalized, _, drafted⟩ := except_bind_eq_ok.mp drafted
  obtain ⟨tokenIds, _, drafted⟩ := except_bind_eq_ok.mp drafted
  cases drafted
  exact List.append_ne_nil_of_right_ne_nil _ (List.cons_ne_nil _ _)

theorem indexed_chatCompletions [BEq Message] (answers : Answers Call) :
    Preserves IndexedState (chatCompletions config format request answers) := by
  refine preserves_bind (indexed_admitRequest request answers) (fun admission => ?_)
  refine preserves_bind (indexed_routeRequest request admission) (fun routed => ?_)
  refine preserves_bind (indexed_preparePrompt request admission routed) (fun prepared => ?_)
  refine preserves_bind (indexed_of_looks (checkBudget_looks request admission.turnId prepared)) (fun maxTokens => ?_)
  refine preserves_bind (indexed_generate request answers admission _ maxTokens) (fun result => ?_)
  refine preserves_bind (indexed_acceptResult result) (fun accepted => ?_)
  refine preserves_bind (indexed_interpret request answers admission result accepted) (fun interpreted => ?_)
  refine indexed_raising_bind (fun draft drafted => ?_)
  refine preserves_bind indexed_getSession (fun session => ?_)
  refine preserves_bind (indexed_recordStep answers (draftStep_fullMessages drafted)) (fun _ => ?_)
  exact indexed_respond maxTokens session.steps.length draft

theorem indexed_run [BEq Message] (sessionId instanceId : String) (now : ℚ)
    (events : List (ChatEvent Message Tool Call)) :
    IndexedState
      (Runs.run (serve config format) (ProxyState.initial sessionId instanceId now) events) := by
  have preserved : ∀ (state : ProxyState Message Tool) (event : ChatEvent Message Tool Call),
      IndexedState state → True → IndexedState (serve config format state event) :=
    fun state event indexed _ => indexed_chatCompletions event.request event.answers state indexed
  have start : IndexedState (ProxyState.initial sessionId instanceId now :
    ProxyState Message Tool) := rfl
  exact Runs.run_invariant_of_forall preserved start (fun _ _ => trivial)

/-- The sessions a request finds when it is routed: earlier requests were served one after
another, and this one has passed through admission. -/
inductive ReachesRouting [BEq Message] (config : ProxyConfig)
    (format : ChatFormat Message Tool Call) : Session Message Tool → Prop
  | admitted (sessionId instanceId : String) (now : ℚ)
    (events : List (ChatEvent Message Tool Call)) (event : ChatEvent Message Tool Call) :
    ReachesRouting config format
      (admitRequest config format event.request event.answers
        (Runs.run (serve config format) (ProxyState.initial sessionId instanceId now)
          events)).2.session

theorem ReachesRouting.indexed [BEq Message] (reached : ReachesRouting config format session) :
    Indexed session := by
  cases reached with
  | admitted sessionId instanceId now events event =>
    exact indexed_admitRequest event.request event.answers _
      (indexed_run sessionId instanceId now events)

private theorem wellRecorded_admitRequest [BEq Message] (event : ChatEvent Message Tool Call)
    {state : ProxyState Message Tool} (recorded : WellRecorded config Call state) :
    WellRecorded config Call (admitRequest config format event.request event.answers state).2 := by
  apply Ensures.final
  exact (admitRequest_ensures event.request event.answers _).mono
    (fun admission after admitted => recorded.undisturbed admitted.1)
    (fun refusal after kept => recorded.undisturbed kept)

theorem ReachesRouting.increasing [BEq Message] (reached : ReachesRouting config format session) :
    Increasing session := by
  cases reached with
  | admitted sessionId instanceId now events event =>
    exact (wellRecorded_admitRequest event
      (wellRecorded_run sessionId instanceId now events)).increasing

theorem ReachesRouting.unused [BEq Message] (reached : ReachesRouting config format session) :
    session.lineageCounter + 1 ∉ session.lineages.keys := by
  intro member
  cases reached with
  | admitted sessionId instanceId now events event =>
    have bounded := (wellRecorded_admitRequest event
      (wellRecorded_run sessionId instanceId now events)).numbered.mem_keys member
    exact absurd bounded (Nat.not_succ_le_self _)

/-- In every reached session with sound caches a request is routed as by a search over all
recorded steps, whatever the order of the candidate sets and whatever else is cached. -/
theorem routes_by_brute_force [BEq Message] (config : ProxyConfig)
    (format : ChatFormat Message Tool Call) (session : Session Message Tool)
    (messages : List Message) (tools : Option (List Tool))
    (reached : ReachesRouting config format session)
    (sound : CacheSound format tools (toolsHash format config.noneEqualsEmptyTools tools) session) :
    RoutedByBruteForce format.renderMessages session
      (toolsChanged format config.noneEqualsEmptyTools · tools) messages tools
      (selectRoute format config.noneEqualsEmptyTools messages tools
        (toolsHash format config.noneEqualsEmptyTools tools) session).1 ∧
    ∀ (iterate : List StepId → List StepId) (caches : OrderedDict StepId SnapshotCache),
      CacheSound format tools (toolsHash format config.noneEqualsEmptyTools tools)
        { session with snapshotCaches := caches } →
      SameOutcome
        (selectRoute format config.noneEqualsEmptyTools messages tools
          (toolsHash format config.noneEqualsEmptyTools tools) session).1
        (selectRoute { format with iterate := iterate } config.noneEqualsEmptyTools messages tools
          (toolsHash format config.noneEqualsEmptyTools tools)
          { session with snapshotCaches := caches }).1 := by
  have routed := selectRoute_bruteForce config.noneEqualsEmptyTools messages reached.indexed
    reached.increasing reached.unused sound
  refine ⟨routed, fun iterate caches sound' => ?_⟩
  have routed' : RoutedByBruteForce format.renderMessages { session with snapshotCaches := caches }
      (toolsChanged format config.noneEqualsEmptyTools · tools) messages tools
      (selectRoute { format with iterate := iterate } config.noneEqualsEmptyTools messages tools
        (toolsHash format config.noneEqualsEmptyTools tools)
        { session with snapshotCaches := caches }).1 :=
    selectRoute_bruteForce config.noneEqualsEmptyTools messages reached.indexed reached.increasing
      reached.unused sound'
  have only : CachesOnly session { session with snapshotCaches := caches } := ⟨caches, rfl⟩
  exact routed.same (routed'.of_caches only.symm)

end Pipeline

namespace KeyedTools

open PlainFormat

/-- A tool is the list of its keys: hashed in sorted order, rendered as it comes. -/
def sortKeys (tool : String) : String := String.ofList (tool.toList.insertionSort (· ≤ ·))

def format : ChatFormat PlainMessage String String :=
  { PlainFormat.format with
    canonicalTools := fun tools => String.join (tools.map sortKeys) }

def asked (messages : List PlainMessage) (tools : List String) (reply : String) :
    ChatEvent PlainMessage String String :=
  { PlainFormat.asked messages reply "v" with
    request := { request messages with tools := some tools } }

def firstTurn : List PlainMessage := [⟨"user", "hello"⟩]

def secondTurn : List PlainMessage := firstTurn ++ [⟨"assistant", "hi"⟩, ⟨"user", "more"⟩]

def session (tools : List String) : Session PlainMessage String :=
  (admitRequest config format (asked secondTurn tools "yes").request
    (asked secondTurn tools "yes").answers
    (Runs.run (serve config format) start [asked firstTurn ["ab"] "hi"])).2.session

theorem reachesRouting (tools : List String) : ReachesRouting config format (session tools) :=
  ReachesRouting.admitted "session" "instance" 0 [asked firstTurn ["ab"] "hi"]
    (asked secondTurn tools "yes")

def request (tools : List String) : String := render secondTurn (some tools) true

def routed (tools : List String) : Except String Route :=
  (selectRoute format config.noneEqualsEmptyTools secondTurn (some tools)
    (toolsHash format config.noneEqualsEmptyTools (some tools)) (session tools)).1

theorem request_qualifies (tools : List String) (same : tools = ["ba"] ∨ tools = ["ab"]) :
    ∃ step ∈ (session tools).steps,
      Qualifies format.renderMessages (some tools) (request tools) step := by
  rcases same with rfl | rfl <;> decide +kernel

end KeyedTools

/-- The second request names the keys of the first one's tool in another order. The rendering
cached for the first one is taken for that of these tools, is no prefix of the request, and the
recorded step is missed: the request gets a lineage of its own. -/
theorem reordered_keys_miss :
    ReachesRouting PlainFormat.config KeyedTools.format (KeyedTools.session ["ba"]) ∧
      Function.Injective KeyedTools.format.sha256 ∧
      (∀ messages flag, KeyedTools.format.renderMessages messages none flag =
        KeyedTools.format.renderMessages messages (some []) flag) ∧
      (∃ step ∈ (KeyedTools.session ["ba"]).steps,
        Qualifies KeyedTools.format.renderMessages (some ["ba"]) (KeyedTools.request ["ba"]) step) ∧
      KeyedTools.routed ["ba"] = .ok
        { lineageId := 2
          type := .create
          baseStepId := none } ∧
      ¬ RoutedByBruteForce KeyedTools.format.renderMessages (KeyedTools.session ["ba"])
        (toolsChanged KeyedTools.format PlainFormat.config.noneEqualsEmptyTools · (some ["ba"]))
        KeyedTools.secondTurn (some ["ba"]) (KeyedTools.routed ["ba"]) := by
  have value : KeyedTools.routed ["ba"] = .ok
      { lineageId := 2
        type := .create
        baseStepId := none } := by
    decide +kernel
  refine ⟨KeyedTools.reachesRouting ["ba"], fun left right same => same, fun _ _ => rfl,
    KeyedTools.request_qualifies ["ba"] (.inl rfl), value, ?_⟩
  rw [value]
  rintro ⟨request, renders, taken, _⟩
  obtain ⟨step, inSteps, qualified⟩ := KeyedTools.request_qualifies ["ba"] (.inl rfl)
  have same : request = KeyedTools.request ["ba"] := (Except.ok.inj renders.request).symm
  rw [same] at taken
  exact taken.create_unqualified rfl step inSteps qualified

theorem same_tools_append :
    RoutedByBruteForce KeyedTools.format.renderMessages (KeyedTools.session ["ab"])
        (toolsChanged KeyedTools.format PlainFormat.config.noneEqualsEmptyTools · (some ["ab"]))
        KeyedTools.secondTurn (some ["ab"])
        (selectRoute KeyedTools.format PlainFormat.config.noneEqualsEmptyTools
          KeyedTools.secondTurn (some ["ab"])
          (toolsHash KeyedTools.format PlainFormat.config.noneEqualsEmptyTools (some ["ab"]))
          (KeyedTools.session ["ab"])).1 ∧
      KeyedTools.routed ["ab"] = .ok
        { lineageId := 1
          type := .append
          baseStepId := some 1 } :=
  ⟨(routes_by_brute_force PlainFormat.config KeyedTools.format (KeyedTools.session ["ab"])
    KeyedTools.secondTurn (some ["ab"]) (KeyedTools.reachesRouting ["ab"])
    (by decide +kernel)).1, by decide +kernel⟩

end Dressage.Proxy

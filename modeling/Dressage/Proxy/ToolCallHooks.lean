/-
Pluggable side-effect hooks around tool-call boundaries.

One chain serves the whole proxy. A dispatch claims its idempotency key, then
runs the applicable hooks in order; a required hook that raises or times out
aborts the dispatch. Hooks are foreign code: what each one answers, and the
monotonic clock, are arguments of a dispatch.
-/

import Mathlib.Data.List.Sort
import Mathlib.Data.Rat.Defs
import Mathlib.Algebra.Order.Ring.Rat
import Dressage.Lib.OrderedDict

namespace Dressage.Proxy

open Lib

inductive Stage
  | before
  | after
deriving DecidableEq, Repr

def Stage.text : Stage → String
  | .before => "before"
  | .after => "after"

structure ToolCallHook where
  typeName : String
  name : String
  required : Bool
  order : Int
deriving DecidableEq, Repr

structure Seconds where
  value : ℚ
  text : String
deriving DecidableEq

structure ToolCallHookChain where
  hooks : List ToolCallHook
  beforeTimeout : Option Seconds
  keyTtlSeconds : Option ℚ
deriving DecidableEq

def buildToolCallHookChain (hooks : List ToolCallHook) (beforeTimeout : Option Seconds)
    (keyTtlSeconds : Option ℚ) : Option ToolCallHookChain :=
  if hooks = [] then none
  else
    some
      { hooks := hooks.insertionSort (fun left right => left.order ≤ right.order)
        beforeTimeout := beforeTimeout
        keyTtlSeconds := keyTtlSeconds }

structure ToolCallContext where
  instanceId : Option String
  sessionId : String
  turnId : Option String
  stepIndex : Nat
  sandboxId : String
  idempotencyKey : Option String
deriving DecidableEq

inductive HookOutcome
  | completed
  | raised (errorType message : String)
  | timedOut (message : String)
  | cancelled
deriving DecidableEq, Repr

/-- What the hooks of one dispatch do, by their place in the chain. `appliesTo` is `none`
where the hook's own predicate raises. -/
structure DispatchAnswers where
  now : ℚ
  appliesTo : Nat → Option Bool
  outcome : Nat → HookOutcome

structure HookFailure where
  hook : String
  stage : Stage
  required : Bool
  errorType : String
  message : String
  timedOut : Bool
  timeoutSeconds : Option Seconds
deriving DecidableEq

inductive DispatchFailure
  | toolCallHookError (message : String)
  | cancelled
deriving DecidableEq

def turnKey (turnId : Option String) : String :=
  match turnId with
  | none => "-"
  | some text => if text = "" then "-" else text

def buildToolCallIdempotencyKey (sessionId : String) (turnId : Option String) (stepIndex : Nat)
    (stage : Stage) : String :=
  s!"{sessionId}:{turnKey turnId}:{stepIndex}:{stage.text}"

/-- The chain's mutable state: claimed keys by session with their claim times. -/
structure ChainState where
  seenKeys : OrderedDict String (OrderedDict String ℚ)
  lastPrune : ℚ

def ChainState.initial (now : ℚ) : ChainState :=
  { seenKeys := OrderedDict.empty
    lastPrune := now }

def pruneIntervalSeconds : ℚ := 300

def pruneMaxKeysPerRound : Nat := 10000

def ToolCallHookChain.expired (chain : ToolCallHookChain) (claimedAt now : ℚ) : Bool :=
  match chain.keyTtlSeconds with
  | none => false
  | some ttl => decide (ttl ≤ now - claimedAt)

def pruneSessionKeys (expired : ℚ → Bool) (scanned : Nat) (keys : OrderedDict String ℚ) :
    Nat × OrderedDict String ℚ :=
  keys.entries.foldl
    (fun progress entry =>
      if pruneMaxKeysPerRound ≤ progress.1 then progress
      else (progress.1 + 1, if expired entry.2 then progress.2.pop entry.1 else progress.2))
    (scanned, keys)

def pruneRound (expired : ℚ → Bool) (seenKeys : OrderedDict String (OrderedDict String ℚ)) :
    OrderedDict String (OrderedDict String ℚ) :=
  (seenKeys.entries.foldl
    (fun progress entry =>
      if pruneMaxKeysPerRound ≤ progress.1 then progress
      else
        let pruned := pruneSessionKeys expired progress.1 entry.2
        (pruned.1,
          if pruned.2.entries = [] then progress.2.pop entry.1
          else progress.2.set entry.1 pruned.2))
    (0, seenKeys)).2

def ToolCallHookChain.maybePrune (chain : ToolCallHookChain) (now : ℚ) (state : ChainState) :
    ChainState :=
  if chain.keyTtlSeconds.isNone then state
  else if now - state.lastPrune < pruneIntervalSeconds then state
  else
    { seenKeys := pruneRound (fun claimedAt => chain.expired claimedAt now) state.seenKeys
      lastPrune := now }

/-- True when this key has not been dispatched yet. The claim stands whatever the hooks do
afterwards. -/
def ToolCallHookChain.claimIdempotency (chain : ToolCallHookChain) (context : ToolCallContext)
    (now : ℚ) (state : ChainState) : Bool × ChainState :=
  match context.idempotencyKey with
  | none => (true, state)
  | some key =>
    if key = "" then (true, state)
    else
      let pruned := chain.maybePrune now state
      let sessionKeys := pruned.seenKeys.getD context.sessionId OrderedDict.empty
      let duplicate :=
        match sessionKeys.get? key with
        | none => false
        | some claimedAt => !chain.expired claimedAt now
      if duplicate then
        (false, { pruned with seenKeys := pruned.seenKeys.set context.sessionId sessionKeys })
      else
        (true,
          { pruned with
            seenKeys := pruned.seenKeys.set context.sessionId (sessionKeys.set key now) })

def ToolCallHookChain.applicable (chain : ToolCallHookChain) (answers : DispatchAnswers) :
    List (ToolCallHook × Nat) :=
  chain.hooks.zipIdx.filter (fun entry => answers.appliesTo entry.2 = some true)

def ToolCallHook.label (hook : ToolCallHook) : String := s!"{hook.typeName}({hook.name})"

def ToolCallHookChain.timeoutText (chain : ToolCallHookChain) : String :=
  match chain.beforeTimeout with
  | none => "None"
  | some seconds => seconds.text

def recordedName (hook : ToolCallHook) : String :=
  if hook.name = "" then hook.typeName else hook.name

def ToolCallHookChain.runOne (chain : ToolCallHookChain) (stage : Stage) (hook : ToolCallHook)
    (outcome : HookOutcome) (metadata : List HookFailure) :
    Except DispatchFailure (List HookFailure) :=
  match outcome with
  | .completed => .ok metadata
  | .cancelled => .error .cancelled
  | .timedOut message =>
    if hook.required then
      .error (.toolCallHookError
        (s!"required tool-call hook {hook.label} timed out after " ++
          s!"{chain.timeoutText}s at stage={stage.text}"))
    else
      .ok (metadata ++
        [{ hook := recordedName hook
           stage := stage
           required := hook.required
           errorType := "builtins.TimeoutError"
           message := if message = "" then "timeout" else message
           timedOut := true
           timeoutSeconds := chain.beforeTimeout }])
  | .raised errorType message =>
    if hook.required then
      .error (.toolCallHookError
        s!"required tool-call hook {hook.label} failed at stage={stage.text}: {message}")
    else
      .ok (metadata ++
        [{ hook := recordedName hook
           stage := stage
           required := hook.required
           errorType := errorType
           message := if message = "" then "timeout" else message
           timedOut := false
           timeoutSeconds := none }])

def ToolCallHookChain.runHooks (chain : ToolCallHookChain) (stage : Stage)
    (answers : DispatchAnswers) :
    List (ToolCallHook × Nat) → List HookFailure → Except DispatchFailure (List HookFailure)
  | [], metadata => .ok metadata
  | (hook, place) :: rest, metadata =>
    match chain.runOne stage hook (answers.outcome place) metadata with
    | .error failure => .error failure
    | .ok extended => chain.runHooks stage answers rest extended

def ToolCallHookChain.stageHooks (chain : ToolCallHookChain) (stage : Stage)
    (answers : DispatchAnswers) : List (ToolCallHook × Nat) :=
  match stage with
  | .before => chain.applicable answers
  | .after => (chain.applicable answers).reverse

def ToolCallHookChain.runStage (chain : ToolCallHookChain) (stage : Stage)
    (context : ToolCallContext) (answers : DispatchAnswers) (metadata : List HookFailure)
    (state : ChainState) : Except DispatchFailure (List HookFailure) × ChainState :=
  match chain.claimIdempotency context answers.now state with
  | (false, claimed) => (.ok metadata, claimed)
  | (true, claimed) =>
    (chain.runHooks stage answers (chain.stageHooks stage answers) metadata, claimed)

/-- Whether every required hook of a dispatch ran and completed. An optional hook that fails is
passed over; a cancelled one ends the dispatch, so no hook behind it runs. -/
def requiredHooksCompleted : List (ToolCallHook × HookOutcome) → Bool
  | [] => true
  | (hook, outcome) :: rest =>
    match outcome with
    | .completed => requiredHooksCompleted rest
    | .cancelled => !hook.required && rest.all (fun entry => !entry.1.required)
    | .timedOut _ => !hook.required && requiredHooksCompleted rest
    | .raised _ _ => !hook.required && requiredHooksCompleted rest

theorem ToolCallHookChain.runOne_ok {chain : ToolCallHookChain} {stage : Stage}
    {hook : ToolCallHook} {outcome : HookOutcome} {metadata extended : List HookFailure}
    (returned : chain.runOne stage hook outcome metadata = .ok extended)
    (rest : List (ToolCallHook × HookOutcome)) :
    requiredHooksCompleted ((hook, outcome) :: rest) = requiredHooksCompleted rest := by
  cases outcome with
  | completed => rfl
  | cancelled => cases returned
  | timedOut message | raised errorType message =>
    cases required : hook.required with
    | true =>
      rw [runOne, if_pos required] at returned
      cases returned
    | false => simp only [requiredHooksCompleted, required, Bool.not_false, Bool.true_and]

theorem ToolCallHookChain.runHooks_ok {chain : ToolCallHookChain} {stage : Stage}
    {answers : DispatchAnswers} {hooks : List (ToolCallHook × Nat)}
    {metadata extended : List HookFailure}
    (returned : chain.runHooks stage answers hooks metadata = .ok extended) :
    requiredHooksCompleted (hooks.map (fun entry => (entry.1, answers.outcome entry.2))) =
      true := by
  induction hooks generalizing metadata with
  | nil => rfl
  | cons first rest ih =>
    rcases first with ⟨hook, place⟩
    rw [runHooks] at returned
    cases ran : chain.runOne stage hook (answers.outcome place) metadata with
    | error failure =>
      rw [ran] at returned
      cases returned
    | ok next =>
      rw [ran] at returned
      rw [List.map_cons, runOne_ok ran]
      exact ih returned

end Dressage.Proxy

/-
One session beside the generation controller.

The requests of a session run one after another under its lock, while pauses, resumes, version
changes and the generations of other sessions go on. The generation of a request is a call of
the controller, and what the call ends with is what the rest of the pipeline works on.

The journal is bookkeeping of the model: the epoch in which each request was registered, the
call behind each recorded step, and every refused request with the epochs of the steps recorded
by then.
-/

import Dressage.Proxy.CallMoves
import Dressage.Proxy.StepOrigins

namespace Dressage.Proxy.RolloutEpochs

open Lib Lib.Effect Generation GenerationController

variable {Message Tool Call : Type}

/-- What a request knows once it has a prompt and a budget. -/
structure Job (Message Tool Call : Type) where
  request : ChatRequest Message Tool
  answers : Answers Call
  admission : Admission Message Tool
  routed : Routed Message Tool
  prepared : Prepared
  maxTokens : Int

section Stages

variable (config : ProxyConfig) (format : ChatFormat Message Tool Call)

def prepareJob [BEq Message] (request : ChatRequest Message Tool) (answers : Answers Call)
    (admission : Admission Message Tool) : Pipeline Message Tool (Job Message Tool Call) := do
  let routed ← routeRequest config format request admission
  let prepared ← preparePrompt config format request admission routed
  let maxTokens ← checkBudget config request admission.turnId prepared
  let session ← getSession
  raiseIfCrossVersionTrajectory config session [request.expectedVersion, answers.currentVersion]
  pure
    { request := request
      answers := answers
      admission := admission
      routed := routed
      prepared := prepared
      maxTokens := maxTokens }

def Job.generation (job : Job Message Tool Call) (session : Session Message Tool) : Request :=
  generationRequest config job.request job.answers session job.admission
    job.prepared.payload.inputIds job.maxTokens

def failJob (job : Job Message Tool Call) (refusalOf : Session Message Tool → Refusal) :
    Pipeline Message Tool (Completion Call) := do
  let session ← getSession
  settleLease job.answers.settlement
  Effect.fail (refusalOf session)

def finishJob (job : Job Message Tool Call) (result : PreemptibleGenerateResult) :
    Pipeline Message Tool (Completion Call) := do
  settleLease job.answers.settlement
  let accepted ← acceptResult config result
  let interpreted ← interpret config job.request job.answers job.admission result accepted
  let draft ← raising (draftStep config format job.request job.admission job.routed job.prepared
    result accepted interpreted)
  let session ← getSession
  recordStep config format job.answers draft
  respond config job.maxTokens session.steps.length draft

def concludeJob (job : Job Message Tool Call) :
    Option (Except GenerateError PreemptibleGenerateResult) →
      Pipeline Message Tool (Completion Call)
  | none => failJob job (fun _ => .cancelled)
  | some (.error error) => failJob job (fun session =>
    generateRefusal session job.admission.instanceId job.answers.requestError error)
  | some (.ok result) => finishJob config format job result

theorem chatCompletions_eq_stages [BEq Message] (request : ChatRequest Message Tool)
    (answers : Answers Call) :
    chatCompletions config format request answers = (do
      let admission ← admitRequest config format request answers
      let job ← prepareJob config format request answers admission
      acquireLease job.answers.lease
      let session ← getSession
      concludeJob config format job (generatePreemptible config.partialRollout
        (job.generation config session) job.answers.chunks)) := by
  unfold chatCompletions prepareJob generate
  simp only [bind_assoc, pure_bind]
  congr 1; funext admission
  congr 1; funext routed
  congr 1; funext prepared
  congr 1; funext maxTokens
  funext state
  -- Neither the version check nor the lease changes the session the call is made for.
  change (raiseIfCrossVersionTrajectory config state.session
      [request.expectedVersion, answers.currentVersion] >>= _) state =
    (raiseIfCrossVersionTrajectory config state.session
      [request.expectedVersion, answers.currentVersion] >>= _) state
  unfold raiseIfCrossVersionTrajectory Effect.failIf
  dsimp only
  split
  · rfl
  · cases answers.lease with
    | unavailable message => rfl
    | raised message => rfl
    | cancelled => rfl
    | acquired =>
      change (settleLease answers.settlement >>= _) state = concludeJob config format _
        (generatePreemptible config.partialRollout (generationRequest config request answers
          state.session admission prepared.payload.inputIds maxTokens) answers.chunks) state
      cases generatePreemptible config.partialRollout (generationRequest config request answers
        state.session admission prepared.payload.inputIds maxTokens) answers.chunks with
      | none => rfl
      | some outcome =>
        cases outcome with
        | error error => rfl
        | ok result => rfl

end Stages

inductive Underway (Message Tool Call : Type)
  | admitted (request : ChatRequest Message Tool) (answers : Answers Call)
    (admission : Admission Message Tool)
  | leasing (job : Job Message Tool Call)
  | generating (job : Job Message Tool Call) (callId : Nat)

structure Refused where
  refusal : Refusal
  currentEpoch : Nat
  stepEpochs : List Nat

structure EpochJournal where
  registrations : List (Nat × Nat)
  stepCalls : List Nat
  refused : List Refused

def EpochJournal.epochsOf (journal : EpochJournal) (callId : Nat) : List Nat :=
  (journal.registrations.filter (fun registration => registration.1 = callId)).map Prod.snd

def EpochJournal.stepEpochs (journal : EpochJournal) : List Nat :=
  journal.stepCalls.flatMap journal.epochsOf

structure State (Message Tool Call : Type) where
  controller : Controller
  proxy : ProxyState Message Tool
  underway : Option (Underway Message Tool Call)
  journal : EpochJournal

def State.initial (config : ProxyConfig) (sessionId instanceId : String) (now : ℚ) :
    State Message Tool Call :=
  { controller := Controller.initial config.partialRollout
    proxy := ProxyState.initial sessionId instanceId now
    underway := none
    journal :=
      { registrations := []
        stepCalls := []
        refused := [] } }

inductive Action (Message Tool Call : Type)
  | arrive (request : ChatRequest Message Tool) (answers : Answers Call)
  | prepare
  | lease
  | control (action : GenerationController.Action)
  | finish

namespace State

def refuse (state : State Message Tool Call) (refusal : Refusal)
    (proxy : ProxyState Message Tool) : State Message Tool Call :=
  { state with
    proxy := proxy
    underway := none
    journal :=
      { state.journal with
        refused := state.journal.refused ++
          [{ refusal := refusal
             currentEpoch := state.controller.rolloutEpoch
             stepEpochs := state.journal.stepEpochs }] } }

variable (config : ProxyConfig) (format : ChatFormat Message Tool Call)

/-- The lock is free: the request is checked against the epoch the controller has now. -/
def arrive [BEq Message] (state : State Message Tool Call) (request : ChatRequest Message Tool)
    (answers : Answers Call) : State Message Tool Call :=
  match state.underway with
  | some _ => state
  | none =>
    let told := { answers with currentEpoch := state.controller.rolloutEpoch }
    match admitRequest config format request told state.proxy with
    | (.ok admission, proxy) =>
      { state with
        proxy := proxy
        underway := some (.admitted request told admission) }
    | (.error refusal, proxy) => state.refuse refusal proxy

def prepare [BEq Message] (state : State Message Tool Call) : State Message Tool Call :=
  match state.underway with
  | some (.admitted request answers admission) =>
    let told := { answers with currentVersion := state.controller.currentVersion }
    match prepareJob config format request told admission state.proxy with
    | (.ok job, proxy) =>
      { state with
        proxy := proxy
        underway := some (.leasing job) }
    | (.error refusal, proxy) => state.refuse refusal proxy
  | _ => state

def lease (state : State Message Tool Call) : State Message Tool Call :=
  match state.underway with
  | some (.leasing job) =>
    match acquireLease job.answers.lease state.proxy with
    | (.ok (), proxy) =>
      { state with
        proxy := proxy
        controller := state.controller.enter (job.generation config proxy.session)
        underway := some (.generating job state.controller.nextCallId) }
    | (.error refusal, proxy) => state.refuse refusal proxy
  | _ => state

def control (state : State Message Tool Call) (action : GenerationController.Action) :
    State Message Tool Call :=
  { state with
    controller := state.controller.step action
    journal :=
      { state.journal with
        registrations := state.journal.registrations ++
          ((state.controller.registersCall action).map
            (fun callId => (callId, state.controller.rolloutEpoch))).toList } }

def conclude (state : State Message Tool Call) (callId : Nat)
    (outcome : Except Refusal (Completion Call) × ProxyState Message Tool) :
    State Message Tool Call :=
  let journal :=
    if outcome.2.session.steps.length = state.proxy.session.steps.length then state.journal
    else { state.journal with stepCalls := state.journal.stepCalls ++ [callId] }
  match outcome.1 with
  | .ok _ =>
    { state with
      proxy := outcome.2
      underway := none
      journal := journal }
  | .error refusal => { state with journal := journal }.refuse refusal outcome.2

def finish (state : State Message Tool Call) : State Message Tool Call :=
  match state.underway with
  | some (.generating job callId) =>
    match (state.controller.calls.get? callId).map GenerationController.Call.pc with
    | some (.returned result) =>
      state.conclude callId (concludeJob config format job (some (.ok result)) state.proxy)
    | some (.raised error) =>
      state.conclude callId (concludeJob config format job (some (.error error)) state.proxy)
    | some .cancelled => state.conclude callId (concludeJob config format job none state.proxy)
    | _ => state
  | _ => state

def step [BEq Message] (state : State Message Tool Call) :
    Action Message Tool Call → State Message Tool Call
  | .arrive request answers => state.arrive config format request answers
  | .prepare => state.prepare config format
  | .lease => state.lease config
  | .control action => state.control action
  | .finish => state.finish config format

end State

def after [BEq Message] (config : ProxyConfig) (format : ChatFormat Message Tool Call)
    (sessionId instanceId : String) (now : ℚ) (actions : List (Action Message Tool Call)) :
    State Message Tool Call :=
  Runs.run (State.step config format) (State.initial config sessionId instanceId now) actions

end Dressage.Proxy.RolloutEpochs

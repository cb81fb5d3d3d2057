/-
The E2B sandbox provider.

A create call requests a sandbox in a task of its own, so the SDK may answer
after the caller was cancelled; it then runs the setup commands, looks up the
endpoints and puts the sandbox into the provider's map. A terminate call takes it
out of the map and kills it. Every section between two awaits is one transition
here. The kill() calls and those that a cancellation of the caller broke off are
written down beside the state that the code keeps.
-/

import Dressage.Lib.OrderedDict

namespace Dressage.Sandbox.E2B

open Lib

abbrev SandboxId := Nat

structure SandboxObject where
  create : Nat
  hasKill : Bool
deriving DecidableEq

inductive SetupStep
  | command
  | endpoint (service : String)
deriving DecidableEq

/-- A failed endpoint lookup is swallowed, except that of the blackbox service. -/
def SetupStep.required : SetupStep → Bool
  | .command => true
  | .endpoint service => service == "blackbox"

inductive Request
  | pending
  | returned (sandbox : SandboxId)
  | failed
deriving DecidableEq

inductive CreatePhase
  | requesting
  /-- Cancelled there; waits for the request and ignores cancellations. -/
  | awaitingRequest
  | killPending (sandbox : SandboxId)
  | cancelKilling (sandbox : SandboxId)
  | settingUp (sandbox : SandboxId) (remaining : List SetupStep)
  | failureKilling (sandbox : SandboxId)
  | returned (sandbox : SandboxId)
  | raised
deriving DecidableEq

def CreatePhase.hasEnded : CreatePhase → Bool
  | .returned _ | .raised => true
  | _ => false

structure Create where
  trajectoryId : String
  setup : List SetupStep
  request : Request
  phase : CreatePhase
deriving DecidableEq

structure Provider where
  creates : List Create
  objects : List SandboxObject
  sandboxes : OrderedDict String SandboxId
  terminates : List (Option SandboxId)
  kills : List SandboxId
  interrupted : List SandboxId

namespace Provider

def initial : Provider :=
  { creates := []
    objects := []
    sandboxes := OrderedDict.empty
    terminates := []
    kills := []
    interrupted := [] }

variable (state : Provider)

def setPhase (number : Nat) (phase : CreatePhase) : Provider :=
  { state with
    creates := state.creates.modify number (fun create => { create with phase := phase }) }

def setRequest (number : Nat) (request : Request) : Provider :=
  { state with
    creates := state.creates.modify number (fun create => { create with request := request }) }

def hasKill (sandbox : SandboxId) : Bool := (state.objects[sandbox]?).any SandboxObject.hasKill

/-- `_best_effort_kill` up to its await. Without a kill() it does nothing, and
its caller goes on to raise. -/
def bestEffortKill (number : Nat) (sandbox : SandboxId) (waiting : CreatePhase) : Provider :=
  if state.hasKill sandbox then
    { state.setPhase number waiting with kills := state.kills ++ [sandbox] }
  else state.setPhase number .raised

def startCreate (trajectoryId : String) (setup : List SetupStep) : Provider :=
  if trajectoryId ∈ state.creates.map Create.trajectoryId then state
  else
    { state with
      creates := state.creates ++
        [{ trajectoryId := trajectoryId
           setup := setup
           request := .pending
           phase := .requesting }] }

def requestReturns (number : Nat) (hasKill : Bool) : Provider :=
  match state.creates[number]? with
  | some { request := .pending, .. } =>
    { state.setRequest number (.returned state.objects.length) with
      objects := state.objects ++
        [{ create := number
           hasKill := hasKill }] }
  | _ => state

def requestFails (number : Nat) : Provider :=
  match state.creates[number]? with
  | some { request := .pending, .. } => state.setRequest number .failed
  | _ => state

def continueSetup (number : Nat) (trajectoryId : String) (sandbox : SandboxId)
    (remaining : List SetupStep) : Provider :=
  match remaining with
  | [] =>
    { state.setPhase number (.returned sandbox) with
      sandboxes := state.sandboxes.set trajectoryId sandbox }
  | _ :: _ => state.setPhase number (.settingUp sandbox remaining)

def resumeCreate (number : Nat) : Provider :=
  match state.creates[number]? with
  | none => state
  | some create =>
    match create.phase, create.request with
    | .requesting, .returned sandbox =>
      state.continueSetup number create.trajectoryId sandbox create.setup
    | .requesting, .failed => state.setPhase number .raised
    | .awaitingRequest, .returned sandbox => state.setPhase number (.killPending sandbox)
    | .awaitingRequest, .failed => state.setPhase number .raised
    | _, _ => state

def finishSetupStep (number : Nat) (succeeded : Bool) : Provider :=
  match state.creates[number]? with
  | some { trajectoryId, phase := .settingUp sandbox (current :: remaining), .. } =>
    if succeeded = false ∧ current.required = true then
      state.bestEffortKill number sandbox (.failureKilling sandbox)
    else state.continueSetup number trajectoryId sandbox remaining
  | _ => state

def startKill (number : Nat) : Provider :=
  match state.creates[number]? with
  | some { phase := .killPending sandbox, .. } =>
    state.bestEffortKill number sandbox (.cancelKilling sandbox)
  | _ => state

def endKill (number : Nat) : Provider :=
  match state.creates[number]? with
  | some { phase := .cancelKilling _, .. } | some { phase := .failureKilling _, .. } =>
    state.setPhase number .raised
  | _ => state

def cancelCreate (number : Nat) : Provider :=
  match state.creates[number]? with
  | none => state
  | some create =>
    match create.phase with
    | .requesting => state.setPhase number .awaitingRequest
    | .settingUp sandbox _ => state.bestEffortKill number sandbox (.failureKilling sandbox)
    -- nothing shields this kill()
    | .failureKilling sandbox =>
      { state.setPhase number .raised with interrupted := state.interrupted ++ [sandbox] }
    | .awaitingRequest | .killPending _ | .cancelKilling _ | .returned _ | .raised => state

def terminate (trajectoryId : String) : Provider :=
  match state.sandboxes.get? trajectoryId with
  | none => state
  | some sandbox =>
    if state.hasKill sandbox then
      { state with
        sandboxes := state.sandboxes.pop trajectoryId
        terminates := state.terminates ++ [some sandbox]
        kills := state.kills ++ [sandbox] }
    else { state with sandboxes := state.sandboxes.pop trajectoryId }

def endTerminate (call : Nat) : Provider :=
  { state with terminates := state.terminates.set call none }

def cancelTerminate (call : Nat) : Provider :=
  match state.terminates[call]? with
  | some (some sandbox) =>
    { state.endTerminate call with interrupted := state.interrupted ++ [sandbox] }
  | _ => state

end Provider

inductive Event
  | startCreate (trajectoryId : String) (setup : List SetupStep)
  | requestReturns (number : Nat) (hasKill : Bool)
  | requestFails (number : Nat)
  | resumeCreate (number : Nat)
  | finishSetupStep (number : Nat) (succeeded : Bool)
  | startKill (number : Nat)
  | endKill (number : Nat)
  | cancelCreate (number : Nat)
  | terminate (trajectoryId : String)
  | endTerminate (call : Nat)
  | cancelTerminate (call : Nat)
deriving DecidableEq

def step (state : Provider) : Event → Provider
  | .startCreate trajectoryId setup => state.startCreate trajectoryId setup
  | .requestReturns number hasKill => state.requestReturns number hasKill
  | .requestFails number => state.requestFails number
  | .resumeCreate number => state.resumeCreate number
  | .finishSetupStep number succeeded => state.finishSetupStep number succeeded
  | .startKill number => state.startKill number
  | .endKill number => state.endKill number
  | .cancelCreate number => state.cancelCreate number
  | .terminate trajectoryId => state.terminate trajectoryId
  | .endTerminate call => state.endTerminate call
  | .cancelTerminate call => state.cancelTerminate call

end Dressage.Sandbox.E2B

/-
The preemptible generation controller as a transition system.

A step is the code one task runs between two suspension points of the event
loop. A generation waits for the resume event, then for the pause lock to
register its request, then for the engine, then for the lock again to remove
the request. The lock is held across an await only while a resume waits for
the backend to become ready. Cancellation may arrive at any await.

Request ids are drawn from a counter in place of fresh uuids. Abort payloads,
log lines and the reply dictionaries of the control calls are left out.
-/

import Dressage.Lib.OrderedDict
import Dressage.Lib.Runs
import Dressage.Proxy.Generation

namespace Dressage.GenerationController

open Lib Generation

inductive RequestState
  | running
  | preempting
  | quiesced
deriving DecidableEq, Repr

structure ActiveGeneration where
  owner : Nat
  sessionId : Option String
  instanceId : Option String
  state : RequestState
  abortSucceeded : Bool
  preemptedChunkCollected : Bool
  quiescedEvent : Bool
deriving DecidableEq, Repr

inductive Exit
  | raises (error : GenerateError)
  | chunk (preempted : Bool)
deriving DecidableEq

inductive Pc
  | waitingResume
  | waitingLock
  | generating (requestId : Nat)
  | leaving (requestId : Nat) (exit : Exit)
  | suspended
  | returned (result : PreemptibleGenerateResult)
  | raised (error : GenerateError)
  | cancelled
deriving DecidableEq

structure Call where
  request : Request
  progress : Progress
  pc : Pc
deriving DecidableEq

def Pc.ended : Pc → Bool
  | .returned _ => true
  | .raised _ => true
  | .cancelled => true
  | _ => false

def Pc.holds : Pc → Option Nat
  | .generating requestId => some requestId
  | .leaving requestId _ => some requestId
  | _ => none

structure PendingResume where
  version : Option String
deriving DecidableEq, Repr

structure Controller where
  partialRollout : Bool
  paused : Bool
  resumeEvent : Bool
  currentVersion : Option String
  rolloutEpoch : Nat
  shuttingDown : Bool
  active : List Nat
  requests : OrderedDict Nat ActiveGeneration
  nextRequestId : Nat
  calls : OrderedDict Nat Call
  nextCallId : Nat
  suspendedGenerations : Nat
  lockHolder : Option PendingResume
  pauses : List (List Nat)

def Controller.initial (partialRollout : Bool) : Controller :=
  { partialRollout := partialRollout
    paused := false
    resumeEvent := true
    currentVersion := none
    rolloutEpoch := 0
    shuttingDown := false
    active := []
    requests := OrderedDict.empty
    nextRequestId := 0
    calls := OrderedDict.empty
    nextCallId := 0
    suspendedGenerations := 0
    lockHolder := none
    pauses := [] }

inductive Action
  | call (request : Request)
  | proceed (callId : Nat)
  | register (callId : Nat)
  | respond (callId : Nat) (response : SGLangResponse)
  | fail (callId : Nat) (message : String)
  | leave (callId : Nat)
  | wake (callId : Nat)
  | cancel (callId : Nat)
  | pause (sessionId instanceId : Option String)
  | abortSucceeds (requestId : Nat)
  | abortFails (requestId : Nat)
  | resumeBegin (version : Option String)
  | resumeEnd (ready : Bool)
  | synchronizeVersion (version : String)
  | shutdown
deriving DecidableEq

def Controller.setCall (controller : Controller) (callId : Nat) (call : Call) : Controller :=
  { controller with calls := controller.calls.set callId call }

def Controller.lockFree (controller : Controller) : Bool := controller.lockHolder.isNone

def Controller.gateError (controller : Controller) (request : Request) : Option GenerateError :=
  if controller.shuttingDown then some .proxyShuttingDown
  else
    match request.expectedEpoch with
    | none => none
    | some expected =>
      if controller.rolloutEpoch = expected then none
      else some (.staleEpoch expected controller.rolloutEpoch)

def Controller.enter (controller : Controller) (request : Request) : Controller :=
  { controller with
    calls := controller.calls.set controller.nextCallId
      { request := request
        progress := Progress.initial request
        pc := if controller.shuttingDown then .raised .proxyShuttingDown else .waitingResume }
    nextCallId := controller.nextCallId + 1 }

def Controller.proceed (controller : Controller) (callId : Nat) (call : Call) : Controller :=
  if controller.resumeEvent then
    match controller.gateError call.request with
    | some error => controller.setCall callId { call with pc := .raised error }
    | none => controller.setCall callId { call with pc := .waitingLock }
  else controller

def activeOf (callId : Nat) (request : Request) : ActiveGeneration :=
  { owner := callId
    sessionId := request.sessionId
    instanceId := request.instanceId
    state := .running
    abortSucceeded := false
    preemptedChunkCollected := false
    quiescedEvent := false }

/-- The locked registration block; a paused controller sends the call back to wait. -/
def Controller.register (controller : Controller) (callId : Nat) (call : Call) : Controller :=
  match controller.gateError call.request with
  | some error => controller.setCall callId { call with pc := .raised error }
  | none =>
    if controller.paused then controller.setCall callId { call with pc := .waitingResume }
    else
      { controller with
        active := controller.active ++ [controller.nextRequestId]
        requests := controller.requests.set controller.nextRequestId (activeOf callId call.request)
        nextRequestId := controller.nextRequestId + 1
        calls := controller.calls.set callId
          { call with
            progress := stampEpoch call.progress controller.rolloutEpoch
            pc := .generating controller.nextRequestId } }

def Controller.abortSucceeded (controller : Controller) (requestId : Nat) : Bool :=
  match controller.requests.get? requestId with
  | none => false
  | some record => record.abortSucceeded

def cacheVersion (current : Option String) (response : SGLangResponse) : Option String :=
  if chunkVersion response = "unknown" then current else some (chunkVersion response)

/-- A response in hand: stitched in, or refused for its version, before the lock. -/
def Controller.stitch (controller : Controller) (callId : Nat) (call : Call) (requestId : Nat)
    (response : SGLangResponse) (forced : Bool) : Controller :=
  match versionError call.request response with
  | some error =>
    controller.setCall callId { call with pc := .leaving requestId (.raises error) }
  | none =>
    let preempted := forced || isPreempted response
    { controller with
      currentVersion := cacheVersion controller.currentVersion response
      calls := controller.calls.set callId
        { call with
          progress := absorb call.request response preempted call.progress
          pc := .leaving requestId (.chunk preempted) } }

def Controller.engineRaises (controller : Controller) (callId : Nat) (call : Call)
    (requestId : Nat) (message : String) : Controller :=
  if controller.shuttingDown then
    controller.setCall callId
      { call with pc := .leaving requestId (.raises .proxyShuttingDown) }
  else if controller.abortSucceeded requestId then
    controller.stitch callId call requestId interruptedResponse true
  else
    controller.setCall callId
      { call with pc := .leaving requestId (.raises (.upstream message)) }

def quiesce (exit : Exit) (record : ActiveGeneration) : ActiveGeneration :=
  { record with
    state := .quiesced
    quiescedEvent := true
    preemptedChunkCollected :=
      match exit with
      | .raises _ => record.preemptedChunkCollected
      | .chunk preempted => preempted }

def Controller.modifyRequest (controller : Controller) (requestId : Nat)
    (change : ActiveGeneration → ActiveGeneration) : Controller :=
  match controller.requests.get? requestId with
  | none => controller
  | some record =>
    { controller with requests := controller.requests.set requestId (change record) }

def Controller.remove (controller : Controller) (requestId : Nat) (exit : Exit) : Controller :=
  { controller.modifyRequest requestId (quiesce exit) with
    active := controller.active.filter (fun other => other ≠ requestId) }

def Controller.leave (controller : Controller) (callId : Nat) (call : Call) (requestId : Nat)
    (exit : Exit) : Controller :=
  let removed := controller.remove requestId exit
  match exit with
  | .raises error => removed.setCall callId { call with pc := .raised error }
  | .chunk preempted =>
    match afterChunk controller.partialRollout call.request call.progress preempted with
    | .raises error => removed.setCall callId { call with pc := .raised error }
    | .breaks progress =>
      removed.setCall callId
        { call with
          progress := progress
          pc := .returned (resultOf call.request progress) }
    | .suspends progress =>
      { removed.setCall callId
          { call with
            progress := progress
            pc := .suspended } with
        suspendedGenerations := controller.suspendedGenerations + 1 }

/-- A suspended call sees the resume event and goes round the loop, or ends. -/
def Controller.wake (controller : Controller) (callId : Nat) (call : Call) : Controller :=
  if controller.resumeEvent then
    let woken :=
      { controller with suspendedGenerations := controller.suspendedGenerations - 1 }
    if controller.shuttingDown then
      woken.setCall callId { call with pc := .raised .proxyShuttingDown }
    else if wantsMore call.request call.progress then
      woken.setCall callId { call with pc := .waitingResume }
    else
      woken.setCall callId { call with pc := .returned (resultOf call.request call.progress) }
  else controller

/-- `CancelledError` ends the call where it stands; only the suspension count is undone. -/
def Controller.cancel (controller : Controller) (callId : Nat) (call : Call) : Controller :=
  match call.pc with
  | .suspended =>
    { controller.setCall callId { call with pc := .cancelled } with
      suspendedGenerations := controller.suspendedGenerations - 1 }
  | _ => controller.setCall callId { call with pc := .cancelled }

def matchesFilter (filter value : Option String) : Bool := filter.isNone || value == filter

def Controller.selected (controller : Controller) (sessionId instanceId : Option String) :
    List Nat :=
  controller.active.filter fun requestId =>
    match controller.requests.get? requestId with
    | none => false
    | some record =>
      matchesFilter sessionId record.sessionId && matchesFilter instanceId record.instanceId

def markPreempting (record : ActiveGeneration) : ActiveGeneration :=
  { record with state := .preempting }

def Controller.modifyAll (controller : Controller) (ids : List Nat)
    (change : ActiveGeneration → ActiveGeneration) : Controller :=
  ids.foldl (fun current requestId => current.modifyRequest requestId change) controller

/-- The locked part of `pause`; the task then aborts and waits for its snapshot. -/
def Controller.pause (controller : Controller) (sessionId instanceId : Option String) :
    Controller :=
  let snapshot := controller.selected sessionId instanceId
  { controller.modifyAll snapshot markPreempting with
    paused := true
    resumeEvent := false
    pauses := controller.pauses ++ [snapshot] }

def Controller.resumeNow (controller : Controller) (version : Option String) : Controller :=
  { controller with
    currentVersion := version.or controller.currentVersion
    rolloutEpoch := if controller.paused then controller.rolloutEpoch + 1
      else controller.rolloutEpoch
    paused := false
    resumeEvent := true
    lockHolder := none }

/-- `resume` up to the readiness wait, which keeps the lock. -/
def Controller.resumeBegin (controller : Controller) (version : Option String) : Controller :=
  if controller.shuttingDown then controller
  else if controller.paused then { controller with lockHolder := some { version := version } }
  else controller.resumeNow version

def Controller.resumeEnd (controller : Controller) (pending : PendingResume) (ready : Bool) :
    Controller :=
  if ready then controller.resumeNow pending.version else { controller with lockHolder := none }

def Controller.busy (controller : Controller) : Bool :=
  decide (controller.active ≠ []) || controller.paused || controller.shuttingDown

def Controller.synchronizeVersion (controller : Controller) (version : String) : Controller :=
  let normalized := Text.strip version
  if normalized = "" then controller
  else if controller.busy then controller
  else
    { controller with
      currentVersion := some normalized
      rolloutEpoch := if controller.currentVersion = some normalized then controller.rolloutEpoch
        else controller.rolloutEpoch + 1 }

def Controller.shutdown (controller : Controller) : Controller :=
  { controller.modifyAll controller.active markPreempting with
    shuttingDown := true
    paused := true
    resumeEvent := true
    pauses := controller.pauses ++ [controller.active] }

def abortResult (succeeded : Bool) (record : ActiveGeneration) : ActiveGeneration :=
  { record with abortSucceeded := succeeded }

def Controller.step (controller : Controller) (action : Action) : Controller :=
  match action with
  | .call request => controller.enter request
  | .proceed callId =>
    match controller.calls.get? callId with
    | some call => if call.pc = .waitingResume then controller.proceed callId call else controller
    | none => controller
  | .register callId =>
    match controller.calls.get? callId with
    | some call =>
      if call.pc = .waitingLock ∧ controller.lockFree then controller.register callId call
      else controller
    | none => controller
  | .respond callId response =>
    match controller.calls.get? callId with
    | some call =>
      match call.pc with
      | .generating requestId =>
        controller.stitch callId call requestId response (controller.abortSucceeded requestId)
      | _ => controller
    | none => controller
  | .fail callId message =>
    match controller.calls.get? callId with
    | some call =>
      match call.pc with
      | .generating requestId => controller.engineRaises callId call requestId message
      | _ => controller
    | none => controller
  | .leave callId =>
    match controller.calls.get? callId with
    | some call =>
      match call.pc with
      | .leaving requestId exit =>
        if controller.lockFree then controller.leave callId call requestId exit
        else controller
      | _ => controller
    | none => controller
  | .wake callId =>
    match controller.calls.get? callId with
    | some call => if call.pc = .suspended then controller.wake callId call else controller
    | none => controller
  | .cancel callId =>
    match controller.calls.get? callId with
    | some call => if call.pc.ended then controller else controller.cancel callId call
    | none => controller
  | .pause sessionId instanceId =>
    if controller.lockFree then controller.pause sessionId instanceId else controller
  | .abortSucceeds requestId => controller.modifyRequest requestId (abortResult true)
  | .abortFails requestId => controller.modifyRequest requestId (abortResult false)
  | .resumeBegin version =>
    if controller.lockFree then controller.resumeBegin version else controller
  | .resumeEnd ready =>
    match controller.lockHolder with
    | some pending => controller.resumeEnd pending ready
    | none => controller
  | .synchronizeVersion version =>
    if controller.lockFree then controller.synchronizeVersion version else controller
  | .shutdown => if controller.lockFree then controller.shutdown else controller

variable (controller : Controller)

theorem modifyRequest_eq (requestId : Nat) (change : ActiveGeneration → ActiveGeneration) :
    ∃ requests,
    controller.modifyRequest requestId change = { controller with requests := requests } := by
  unfold Controller.modifyRequest
  split
  · exact ⟨controller.requests, rfl⟩
  · exact ⟨_, rfl⟩

theorem modifyAll_eq (ids : List Nat) (change : ActiveGeneration → ActiveGeneration) : ∃ requests,
    controller.modifyAll ids change = { controller with requests := requests } := by
  unfold Controller.modifyAll
  induction ids generalizing controller with
  | nil => exact ⟨controller.requests, rfl⟩
  | cons requestId rest ih =>
    obtain ⟨first, changed⟩ := modifyRequest_eq controller requestId change
    obtain ⟨all, later⟩ := ih { controller with requests := first }
    rw [List.foldl_cons, changed]
    exact ⟨all, later⟩

theorem remove_eq (requestId : Nat) (exit : Exit) :
    ∃ requests active, controller.remove requestId exit =
      { controller with
        requests := requests
        active := active } := by
  obtain ⟨requests, changed⟩ := modifyRequest_eq controller requestId (quiesce exit)
  unfold Controller.remove
  rw [changed]
  exact ⟨requests, _, rfl⟩

structure SameGenerations (before after : Controller) : Prop where
  partialRollout : after.partialRollout = before.partialRollout
  shuttingDown : after.shuttingDown = before.shuttingDown
  active : after.active = before.active
  requests : after.requests = before.requests
  nextRequestId : after.nextRequestId = before.nextRequestId
  calls : after.calls = before.calls
  nextCallId : after.nextCallId = before.nextCallId

/-- Nothing, or what the action does where its guard lets it. -/
inductive StepEffect (controller : Controller) : Action → Controller → Prop
  | idle (action : Action) : StepEffect controller action controller
  | enters (request : Request) : StepEffect controller (.call request) (controller.enter request)
  | proceeds (callId : Nat) (call : Call) (found : controller.calls.get? callId = some call)
    (waiting : call.pc = .waitingResume) :
    StepEffect controller (.proceed callId) (controller.proceed callId call)
  | registers (callId : Nat) (call : Call) (found : controller.calls.get? callId = some call)
    (waiting : call.pc = .waitingLock) :
    StepEffect controller (.register callId) (controller.register callId call)
  | responds (callId : Nat) (call : Call) (requestId : Nat) (response : SGLangResponse)
    (found : controller.calls.get? callId = some call)
    (generating : call.pc = .generating requestId) :
    StepEffect controller (.respond callId response)
      (controller.stitch callId call requestId response (controller.abortSucceeded requestId))
  | fails (callId : Nat) (call : Call) (requestId : Nat) (message : String)
    (found : controller.calls.get? callId = some call)
    (generating : call.pc = .generating requestId) :
    StepEffect controller (.fail callId message)
      (controller.engineRaises callId call requestId message)
  | leaves (callId : Nat) (call : Call) (requestId : Nat) (exit : Exit)
    (found : controller.calls.get? callId = some call)
    (leaving : call.pc = .leaving requestId exit) :
    StepEffect controller (.leave callId) (controller.leave callId call requestId exit)
  | wakes (callId : Nat) (call : Call) (found : controller.calls.get? callId = some call)
    (suspended : call.pc = .suspended) :
    StepEffect controller (.wake callId) (controller.wake callId call)
  | cancels (callId : Nat) (call : Call) (found : controller.calls.get? callId = some call)
    (live : call.pc.ended = false) :
    StepEffect controller (.cancel callId) (controller.cancel callId call)
  | pauses (sessionId instanceId : Option String) :
    StepEffect controller (.pause sessionId instanceId) (controller.pause sessionId instanceId)
  | abortSucceeded (requestId : Nat) :
    StepEffect controller (.abortSucceeds requestId)
      (controller.modifyRequest requestId (abortResult true))
  | abortFailed (requestId : Nat) :
    StepEffect controller (.abortFails requestId)
      (controller.modifyRequest requestId (abortResult false))
  | controls (action : Action) (after : Controller) (same : SameGenerations controller after) :
    StepEffect controller action after
  | shutsDown : StepEffect controller .shutdown controller.shutdown

theorem resumeBegin_same (version : Option String) :
    SameGenerations controller (controller.resumeBegin version) := by
  unfold Controller.resumeBegin
  split
  · exact ⟨rfl, rfl, rfl, rfl, rfl, rfl, rfl⟩
  · split <;> exact ⟨rfl, rfl, rfl, rfl, rfl, rfl, rfl⟩

theorem resumeEnd_same (pending : PendingResume) (ready : Bool) :
    SameGenerations controller (controller.resumeEnd pending ready) := by
  unfold Controller.resumeEnd
  split <;> exact ⟨rfl, rfl, rfl, rfl, rfl, rfl, rfl⟩

theorem synchronizeVersion_same (version : String) :
    SameGenerations controller (controller.synchronizeVersion version) := by
  unfold Controller.synchronizeVersion
  simp only
  split
  · exact ⟨rfl, rfl, rfl, rfl, rfl, rfl, rfl⟩
  · split <;> exact ⟨rfl, rfl, rfl, rfl, rfl, rfl, rfl⟩

theorem step_effect (action : Action) : StepEffect controller action (controller.step action) := by
  cases action with
  | call request => exact .enters request
  | proceed callId =>
    simp only [Controller.step]
    split
    · rename_i call found
      split
      · exact .proceeds callId call found ‹_›
      · exact .idle _
    · exact .idle _
  | register callId =>
    simp only [Controller.step]
    split
    · rename_i call found
      split
      · rename_i ready
        exact .registers callId call found ready.1
      · exact .idle _
    · exact .idle _
  | respond callId response =>
    simp only [Controller.step]
    split
    · rename_i call found
      split
      · exact .responds callId call _ response found ‹_›
      · exact .idle _
    · exact .idle _
  | fail callId message =>
    simp only [Controller.step]
    split
    · rename_i call found
      split
      · exact .fails callId call _ message found ‹_›
      · exact .idle _
    · exact .idle _
  | leave callId =>
    simp only [Controller.step]
    split
    · rename_i call found
      split
      · rename_i requestId exit leaving
        split
        · exact .leaves callId call requestId exit found leaving
        · exact .idle _
      · exact .idle _
    · exact .idle _
  | wake callId =>
    simp only [Controller.step]
    split
    · rename_i call found
      split
      · exact .wakes callId call found ‹_›
      · exact .idle _
    · exact .idle _
  | cancel callId =>
    simp only [Controller.step]
    split
    · rename_i call found
      split
      · exact .idle _
      · rename_i live
        rw [Bool.not_eq_true] at live
        exact .cancels callId call found live
    · exact .idle _
  | pause sessionId instanceId =>
    simp only [Controller.step]
    split
    · exact .pauses sessionId instanceId
    · exact .idle _
  | abortSucceeds requestId => exact .abortSucceeded requestId
  | abortFails requestId => exact .abortFailed requestId
  | resumeBegin version =>
    simp only [Controller.step]
    split
    · exact .controls _ _ (resumeBegin_same controller version)
    · exact .idle _
  | resumeEnd ready =>
    simp only [Controller.step]
    split
    · exact .controls _ _ (resumeEnd_same controller _ ready)
    · exact .idle _
  | synchronizeVersion version =>
    simp only [Controller.step]
    split
    · exact .controls _ _ (synchronizeVersion_same controller version)
    · exact .idle _
  | shutdown =>
    simp only [Controller.step]
    split
    · exact .shutsDown
    · exact .idle _

end Dressage.GenerationController

/-
Shutdown of the generation controller.

`shutdown` sets the resume event, so that every waiting call runs into its
shutdown check. `resume` and `synchronize_version` look at the flag before they
change anything; `pause` does not, and clears the event again. A waiting call
is then woken by nothing but another `shutdown`.
-/

import Dressage.Proxy.GenerationController

namespace Dressage.GenerationController

open Lib Generation OrderedDict Controller

def Call.isSuspended (call : Call) : Bool := decide (call.pc = .suspended)

def Controller.waitingAfterChunk (controller : Controller) : Nat :=
  controller.calls.values.countP Call.isSuspended

/-- The action takes the call to one of the places that read `_shutting_down`. -/
inductive Checks (controller : Controller) : Action → Nat → Prop
  | entry (request : Request) : Checks controller (.call request) controller.nextCallId
  | gate (callId : Nat) (call : Call) (found : controller.calls.get? callId = some call)
    (waiting : call.pc = .waitingResume) (signalled : controller.resumeEvent = true) :
    Checks controller (.proceed callId) callId
  | registration (callId : Nat) (call : Call) (found : controller.calls.get? callId = some call)
    (waiting : call.pc = .waitingLock) (free : controller.lockFree = true) :
    Checks controller (.register callId) callId
  | failure (callId : Nat) (call : Call) (requestId : Nat) (message : String)
    (found : controller.calls.get? callId = some call)
    (generating : call.pc = .generating requestId) :
    Checks controller (.fail callId message) callId
  | suspension (callId : Nat) (call : Call) (found : controller.calls.get? callId = some call)
    (suspended : call.pc = .suspended) (signalled : controller.resumeEvent = true) :
    Checks controller (.wake callId) callId

def Pc.refused : Pc → Bool
  | .raised .proxyShuttingDown => true
  | .leaving _ (.raises .proxyShuttingDown) => true
  | _ => false

structure ShutdownFinal (controller : Controller) : Prop where
  stays : controller.shuttingDown = true → ∀ action, (controller.step action).shuttingDown = true
  silent : controller.shuttingDown = true → ∀ action callId call requestId,
    (controller.step action).calls.get? callId = some call → call.pc = .generating requestId →
      ∃ earlier, controller.calls.get? callId = some earlier ∧ earlier.pc = .generating requestId
  released : controller.shuttingDown = true → controller.resumeEvent = true
  refuses : controller.shuttingDown = true → ∀ action callId, Checks controller action callId →
    ∃ call, (controller.step action).calls.get? callId = some call ∧ call.pc.refused = true
  raises : controller.shuttingDown = true → ∀ callId call requestId error,
    controller.calls.get? callId = some call → call.pc = .leaving requestId (.raises error) →
      (controller.step (.leave callId)).calls.get? callId = some { call with pc := .raised error }
  counted : controller.suspendedGenerations = controller.waitingAfterChunk

def PausesBeforeShutdown (controller : Controller) (action : Action) : Prop :=
  ∀ sessionId instanceId, action = .pause sessionId instanceId → controller.shuttingDown = false

structure Released (controller : Controller) : Prop where
  signalled : controller.shuttingDown = true → controller.resumeEvent = true
  unheld : controller.shuttingDown = true → controller.lockHolder = none
  counted : controller.suspendedGenerations = controller.waitingAfterChunk
  entered : ∀ callId call, controller.calls.get? callId = some call → callId < controller.nextCallId

theorem initial_released (partialRollout : Bool) :
    Released (initial partialRollout) := by
  refine
    { signalled := ?_
      unheld := ?_
      counted := rfl
      entered := ?_ }
  · intro down
    cases down
  · intro down
    cases down
  · intro callId call found
    cases found

section Updates

variable {controller : Controller}

theorem Released.congr {other : Controller} (released : Released controller)
    (shuttingDown : other.shuttingDown = controller.shuttingDown)
    (resumeEvent : other.resumeEvent = controller.resumeEvent)
    (lockHolder : other.lockHolder = controller.lockHolder)
    (suspendedGenerations : other.suspendedGenerations = controller.suspendedGenerations)
    (calls : other.calls = controller.calls)
    (nextCallId : other.nextCallId = controller.nextCallId) : Released other := by
  constructor
  · rw [shuttingDown, resumeEvent]
    exact released.signalled
  · rw [shuttingDown, lockHolder]
    exact released.unheld
  · unfold waitingAfterChunk
    rw [suspendedGenerations, calls]
    exact released.counted
  · rw [calls, nextCallId]
    exact released.entered

variable {callId requestId : Nat} {after before call : Call}

section

variable (released : Released controller)
include released

theorem Released.move {suspendedGenerations : Nat}
    (found : controller.calls.get? callId = some before)
    (balance : suspendedGenerations + (if before.isSuspended then 1 else 0) =
      controller.suspendedGenerations + (if after.isSuspended then 1 else 0)) :
    Released
      { controller with
        calls := controller.calls.set callId after
        suspendedGenerations := suspendedGenerations } := by
  refine
    { released with
      counted := ?_
      entered := ?_ }
  · have moved := countP_values_set Call.isSuspended found after
    have counted := released.counted
    unfold waitingAfterChunk at counted ⊢
    simp only
    omega
  · intro other call current
    simp only at current
    rw [get?_set] at current
    split at current
    · rename_i isCall
      rw [isCall]
      exact released.entered callId before found
    · exact released.entered other call current

theorem Released.setCall (found : controller.calls.get? callId = some before)
    (same : after.isSuspended = before.isSuspended) :
    Released (controller.setCall callId after) :=
  released.move found (by rw [same])

theorem Released.unsuspend (found : controller.calls.get? callId = some before)
    (suspended : before.pc = .suspended) (left : after.isSuspended = false) :
    Released
      { controller with
        calls := controller.calls.set callId after
        suspendedGenerations := controller.suspendedGenerations - 1 } := by
  apply released.move found
  have wasSuspended : before.isSuspended = true := decide_eq_true suspended
  have positive : 0 < controller.waitingAfterChunk := by
    apply List.countP_pos_iff.mpr
    refine ⟨before, ?_, wasSuspended⟩
    exact List.mem_map.mpr ⟨_, mem_of_get? found, rfl⟩
  have counted := released.counted
  rw [wasSuspended, left]
  simp only [if_true, Bool.false_eq_true, if_false]
  omega

end

theorem not_suspended_of_ne (different : call.pc ≠ .suspended) :
    call.isSuspended = false := decide_eq_false different

section

variable (released : Released controller)

include released

theorem enter_released (request : Request) : Released (controller.enter request) := by
  have fresh : controller.calls.get? controller.nextCallId = none := by
    cases found : controller.calls.get? controller.nextCallId with
    | none => rfl
    | some call => exact absurd (released.entered _ call found) (Nat.lt_irrefl _)
  refine
    { released with
      counted := ?_
      entered := ?_ }
  · have counted := released.counted
    unfold waitingAfterChunk enter at *
    simp only
    rw [countP_values_set_new Call.isSuspended fresh, ← counted, not_suspended_of_ne]
    · rfl
    · simp only
      split <;> exact fun same => nomatch same
  · intro callId call current
    unfold enter at current ⊢
    simp only at current ⊢
    rw [get?_set] at current
    split at current
    · omega
    · have known := released.entered callId call current
      omega

section

variable (found : controller.calls.get? callId = some call)
include found

theorem proceed_released (waiting : call.pc = .waitingResume) :
    Released (controller.proceed callId call) := by
  have before : call.isSuspended = false := not_suspended_of_ne (by rw [waiting]; nofun)
  unfold proceed
  split
  · split <;> exact released.setCall found (by rw [before]; rfl)
  · exact released

theorem register_released (waiting : call.pc = .waitingLock) :
    Released (controller.register callId call) := by
  have before : call.isSuspended = false := not_suspended_of_ne (by rw [waiting]; nofun)
  unfold register
  split
  · exact released.setCall found (by rw [before]; rfl)
  · split
    · exact released.setCall found (by rw [before]; rfl)
    · have moved : Released (controller.setCall callId
          { call with
            progress := stampEpoch call.progress controller.rolloutEpoch
            pc := .generating controller.nextRequestId }) :=
        released.setCall found (by rw [before]; rfl)
      exact moved.congr rfl rfl rfl rfl rfl rfl

theorem stitch_released (generating : call.pc = .generating requestId) (response : SGLangResponse)
    (forced : Bool) :
    Released (controller.stitch callId call requestId response forced) := by
  have before : call.isSuspended = false := not_suspended_of_ne (by rw [generating]; nofun)
  unfold stitch
  split
  · exact released.setCall found (by rw [before]; rfl)
  · have moved : Released (controller.setCall callId
        { call with
          progress := absorb call.request response (forced || isPreempted response) call.progress
          pc := .leaving requestId (.chunk (forced || isPreempted response)) }) :=
      released.setCall found (by rw [before]; rfl)
    exact moved.congr rfl rfl rfl rfl rfl rfl

theorem engineRaises_released (generating : call.pc = .generating requestId) (message : String) :
    Released (controller.engineRaises callId call requestId message) := by
  have before : call.isSuspended = false := not_suspended_of_ne (by rw [generating]; nofun)
  unfold engineRaises
  split
  · exact released.setCall found (by rw [before]; rfl)
  · split
    · exact stitch_released released found generating interruptedResponse true
    · exact released.setCall found (by rw [before]; rfl)

theorem leave_released {requestId : Nat} {exit : Exit}
    (leaving : call.pc = .leaving requestId exit) :
    Released (controller.leave callId call requestId exit) := by
  have before : call.isSuspended = false := not_suspended_of_ne (by rw [leaving]; nofun)
  obtain ⟨requests, active, removed⟩ := remove_eq controller requestId exit
  have gone : Released (controller.remove requestId exit) := by
    rw [removed]
    exact released.congr rfl rfl rfl rfl rfl rfl
  have still : (controller.remove requestId exit).calls.get? callId = some call := by
    rw [removed]
    exact found
  unfold leave
  cases exit with
  | raises error => exact gone.setCall still (by rw [before]; rfl)
  | chunk preempted =>
    simp only
    split
    · exact gone.setCall still (by rw [before]; rfl)
    · exact gone.setCall still (by rw [before]; rfl)
    · rename_i progress _follows
      have counted : (controller.remove requestId (.chunk preempted)).suspendedGenerations =
        controller.suspendedGenerations := by rw [removed]
      have balance : controller.suspendedGenerations + 1 + (if call.isSuspended then 1 else 0) =
          (controller.remove requestId (.chunk preempted)).suspendedGenerations + 1 := by
        rw [before, counted]
        rfl
      exact gone.move still balance

theorem wake_released (suspended : call.pc = .suspended) :
    Released (controller.wake callId call) := by
  unfold wake
  split
  · simp only
    split
    · exact released.unsuspend found suspended rfl
    · split <;> exact released.unsuspend found suspended rfl
  · exact released

theorem cancel_released : Released (controller.cancel callId call) := by
  unfold cancel
  split
  · rename_i suspended
    exact released.unsuspend found suspended rfl
  · rename_i different
    exact released.setCall found (not_suspended_of_ne different).symm

end

theorem modifyAll_released (ids : List Nat) (change : ActiveGeneration → ActiveGeneration) :
    Released (controller.modifyAll ids change) := by
  obtain ⟨requests, changed⟩ := modifyAll_eq controller ids change
  rw [changed]
  exact released.congr rfl rfl rfl rfl rfl rfl

theorem modifyRequest_released (requestId : Nat) (change : ActiveGeneration → ActiveGeneration) :
    Released (controller.modifyRequest requestId change) := by
  obtain ⟨requests, changed⟩ := modifyRequest_eq controller requestId change
  rw [changed]
  exact released.congr rfl rfl rfl rfl rfl rfl

theorem pause_released (sessionId instanceId : Option String)
    (running : controller.shuttingDown = false) :
    Released (controller.pause sessionId instanceId) := by
  obtain ⟨requests, changed⟩ :=
    modifyAll_eq controller (controller.selected sessionId instanceId) markPreempting
  unfold pause
  simp only
  rw [changed]
  refine
    { released with
      signalled := ?_ }
  intro down
  simp only at down
  rw [running] at down
  cases down

theorem resumeNow_released (version : Option String) : Released (controller.resumeNow version) :=
  { released with
    signalled := fun _ => rfl
    unheld := fun _ => rfl }

theorem resumeBegin_released (version : Option String) :
    Released (controller.resumeBegin version) := by
  unfold resumeBegin
  split
  · exact released
  · rename_i running
    split
    · refine
        { released with
          unheld := ?_ }
      intro down
      exact absurd down running
    · exact resumeNow_released released version

theorem resumeEnd_released (pending : PendingResume) (ready : Bool) :
    Released (controller.resumeEnd pending ready) := by
  unfold resumeEnd
  split
  · exact resumeNow_released released pending.version
  · exact
      { released with
        unheld := fun _ => rfl }

theorem synchronizeVersion_released (version : String) :
    Released (controller.synchronizeVersion version) := by
  unfold synchronizeVersion
  simp only
  split
  · exact released
  · split
    · exact released
    · exact released.congr rfl rfl rfl rfl rfl rfl

theorem shutdown_released (free : controller.lockFree = true) : Released controller.shutdown := by
  have marked := modifyAll_released released controller.active markPreempting
  obtain ⟨requests, changed⟩ := modifyAll_eq controller controller.active markPreempting
  unfold shutdown
  refine
    { marked with
      signalled := fun _ => rfl
      unheld := ?_ }
  intro _down
  rw [changed]
  exact Option.isNone_iff_eq_none.mp free

theorem step_released (action : Action) (early : PausesBeforeShutdown controller action) :
    Released (controller.step action) := by
  cases action with
  | call request => exact enter_released released request
  | proceed callId =>
    simp only [step]
    split
    · rename_i call found
      split
      · exact proceed_released released found ‹_›
      · exact released
    · exact released
  | register callId =>
    simp only [step]
    split
    · rename_i call found
      split
      · rename_i ready
        exact register_released released found ready.1
      · exact released
    · exact released
  | respond callId response =>
    simp only [step]
    split
    · rename_i call found
      split
      · exact stitch_released released found ‹_› response _
      · exact released
    · exact released
  | fail callId message =>
    simp only [step]
    split
    · rename_i call found
      split
      · exact engineRaises_released released found ‹_› message
      · exact released
    · exact released
  | leave callId =>
    simp only [step]
    split
    · rename_i call found
      split
      · rename_i requestId exit leaving
        split
        · exact leave_released released found leaving
        · exact released
      · exact released
    · exact released
  | wake callId =>
    simp only [step]
    split
    · rename_i call found
      split
      · exact wake_released released found ‹_›
      · exact released
    · exact released
  | cancel callId =>
    simp only [step]
    split
    · rename_i call found
      split
      · exact released
      · exact cancel_released released found
    · exact released
  | pause sessionId instanceId =>
    simp only [step]
    split
    · exact pause_released released sessionId instanceId (early sessionId instanceId rfl)
    · exact released
  | abortSucceeds requestId => exact modifyRequest_released released requestId (abortResult true)
  | abortFails requestId => exact modifyRequest_released released requestId (abortResult false)
  | resumeBegin version =>
    simp only [step]
    split
    · exact resumeBegin_released released version
    · exact released
  | resumeEnd ready =>
    simp only [step]
    split
    · exact resumeEnd_released released _ ready
    · exact released
  | synchronizeVersion version =>
    simp only [step]
    split
    · exact synchronizeVersion_released released version
    · exact released
  | shutdown =>
    simp only [step]
    split
    · rename_i free
      exact shutdown_released released free
    · exact released

end

theorem gateError_down (down : controller.shuttingDown = true) (request : Request) :
    controller.gateError request = some .proxyShuttingDown := by
  unfold gateError
  rw [if_pos down]

/-- A shutdown stays, and no call starts to generate. -/
structure Silent (before after : Controller) : Prop where
  stays : after.shuttingDown = true
  silent : ∀ callId call requestId, after.calls.get? callId = some call →
    call.pc = .generating requestId →
      ∃ earlier, before.calls.get? callId = some earlier ∧ earlier.pc = .generating requestId

theorem Silent.of_same {before after : Controller} (down : after.shuttingDown = true)
    (same : after.calls = before.calls) : Silent before after :=
  { stays := down
    silent := by
      intro callId call requestId found generating
      rw [same] at found
      exact ⟨call, found, generating⟩ }

theorem Silent.of_set {before after : Controller} {next : Call}
    (down : after.shuttingDown = true) (set : after.calls = before.calls.set callId next)
    (idle : ∀ requestId, next.pc ≠ .generating requestId) : Silent before after :=
  { stays := down
    silent := by
      intro other call requestId found generating
      rw [set, get?_set] at found
      split at found
      · cases found
        exact absurd generating (idle requestId)
      · exact ⟨call, found, generating⟩ }

theorem step_silent (down : controller.shuttingDown = true) (action : Action) :
    Silent controller (controller.step action) := by
  have effect := step_effect controller action
  generalize controller.step action = after at effect ⊢
  cases effect with
  | idle => exact .of_same down rfl
  | enters request =>
    refine .of_set down rfl ?_
    intro requestId
    rw [if_pos down]
    simp
  | proceeds callId call found waiting =>
    unfold proceed
    rw [gateError_down down]
    split
    · exact .of_set down rfl (by simp)
    · exact .of_same down rfl
  | registers callId call found waiting =>
    unfold register
    rw [gateError_down down]
    exact .of_set down rfl (by simp)
  | responds callId call requestId response found generating =>
    unfold stitch
    split <;> exact .of_set down rfl (by simp)
  | fails callId call requestId message found generating =>
    unfold engineRaises
    rw [if_pos down]
    exact .of_set down rfl (by simp)
  | leaves callId call requestId exit found leaving =>
    obtain ⟨requests, active, removed⟩ := remove_eq controller requestId exit
    unfold leave
    rw [removed]
    split
    · exact .of_set down rfl (by simp)
    · split <;> exact .of_set down rfl (by simp)
  | wakes callId call found suspended =>
    unfold wake
    simp only [down, if_true]
    split
    · exact .of_set rfl rfl (by simp)
    · exact .of_same down rfl
  | cancels callId call found live =>
    unfold cancel
    split <;> exact .of_set down rfl (by simp)
  | pauses sessionId instanceId =>
    obtain ⟨requests, changed⟩ :=
      modifyAll_eq controller (controller.selected sessionId instanceId) markPreempting
    unfold pause
    simp only
    rw [changed]
    exact .of_same down rfl
  | abortSucceeded requestId =>
    obtain ⟨requests, changed⟩ := modifyRequest_eq controller requestId (abortResult true)
    rw [changed]
    exact .of_same down rfl
  | abortFailed requestId =>
    obtain ⟨requests, changed⟩ := modifyRequest_eq controller requestId (abortResult false)
    rw [changed]
    exact .of_same down rfl
  | controls _ after same => exact .of_same (same.shuttingDown.trans down) same.calls
  | shutsDown =>
    obtain ⟨requests, changed⟩ := modifyAll_eq controller controller.active markPreempting
    unfold shutdown
    rw [changed]
    exact .of_same rfl rfl

theorem step_refuses (down : controller.shuttingDown = true) {action : Action}
    (checks : Checks controller action callId) :
    ∃ call, (controller.step action).calls.get? callId = some call ∧ call.pc.refused = true := by
  cases checks with
  | entry request =>
    refine ⟨_, get?_set_self controller.calls _ _, ?_⟩
    simp only
    rw [if_pos down]
    rfl
  | gate callId call found waiting signalled =>
    refine ⟨{ call with pc := .raised .proxyShuttingDown }, ?_, rfl⟩
    simp only [step, found, waiting, if_true, proceed, signalled,
      gateError_down down]
    exact get?_set_self controller.calls _ _
  | registration callId call found waiting free =>
    refine ⟨{ call with pc := .raised .proxyShuttingDown }, ?_, rfl⟩
    simp only [step, found, waiting, free, and_self, if_true, register,
      gateError_down down]
    exact get?_set_self controller.calls _ _
  | failure callId call requestId message found generating =>
    refine ⟨{ call with pc := .leaving requestId (.raises .proxyShuttingDown) }, ?_, rfl⟩
    simp only [step, found, generating, engineRaises, down, if_true]
    exact get?_set_self controller.calls _ _
  | suspension callId call found suspended signalled =>
    refine ⟨{ call with pc := .raised .proxyShuttingDown }, ?_, rfl⟩
    simp only [step, found, suspended, if_true, wake, signalled, down]
    exact get?_set_self controller.calls _ _

theorem step_raises (free : controller.lockHolder = none) {error : GenerateError}
    (found : controller.calls.get? callId = some call)
    (leaving : call.pc = .leaving requestId (.raises error)) :
    (controller.step (.leave callId)).calls.get? callId =
      some { call with pc := .raised error } := by
  have unlocked : controller.lockFree = true := by
    unfold lockFree
    rw [free]
    rfl
  simp only [step, found, leaving, unlocked, if_true, leave]
  exact get?_set_self _ _ _

theorem Released.shutdownFinal (released : Released controller) : ShutdownFinal controller :=
  { stays := fun down action => (step_silent down action).stays
    silent := fun down action => (step_silent down action).silent
    released := released.signalled
    refuses := fun down _action _callId checks => step_refuses down checks
    raises := fun down _callId _call _requestId _error found leaving =>
      step_raises (released.unheld down) found leaving
    counted := released.counted }

theorem pause_clears (sessionId instanceId : Option String)
    (free : controller.lockHolder = none) :
    (controller.step (.pause sessionId instanceId)).resumeEvent = false := by
  have unlocked : controller.lockFree = true := by
    unfold lockFree
    rw [free]
    rfl
  simp only [step, unlocked, if_true]
  rfl

theorem early_of_final (released : Released controller) (action : Action)
    (final : ShutdownFinal (controller.step action)) : PausesBeforeShutdown controller action := by
  intro sessionId instanceId isPause
  subst action
  cases down : controller.shuttingDown with
  | false => rfl
  | true =>
    have cleared := pause_clears sessionId instanceId (released.unheld down)
    rw [final.released (step_silent down _).stays] at cleared
    cases cleared

end Updates

/-- Shutdown is final and releases every waiter throughout a run exactly when no pause of
the run takes the lock after it. -/
theorem shutdown_final_iff_pauses_before (partialRollout : Bool) (actions : List Action) :
    (∀ past, past <+: actions →
      ShutdownFinal (Runs.run step (initial partialRollout) past)) ↔
      Runs.Admits step PausesBeforeShutdown (initial partialRollout)
        actions := by
  have preserved : ∀ controller action, Released controller →
      PausesBeforeShutdown controller action → Released (step controller action) :=
    fun _ action released early => step_released released action early
  have sharp : ∀ controller action, Released controller →
      ShutdownFinal (step controller action) →
      PausesBeforeShutdown controller action :=
    fun _ action released final => early_of_final released action final
  exact Runs.holds_iff_admits preserved (fun _ released => released.shutdownFinal) sharp
    (initial_released partialRollout) actions

def pausedRequest : Request :=
  { inputIds := [7, 8]
    maxNewTokens := 4
    sessionId := some "session"
    instanceId := some "instance"
    turnId := none
    expectedVersion := none
    expectedEpoch := none
    logprobStartLen := -1
    contextWindow := none }

/-- A call is preempted by one pause; the next pause arrives after shutdown, before the
call has polled the event. -/
def lateRun : List Action :=
  [.call pausedRequest, .proceed 0, .register 0, .pause none none, .abortSucceeds 0,
    .fail 0 "aborted", .leave 0, .shutdown, .pause none none]

theorem late_pause_hangs :
    ¬ (∀ past, past <+: lateRun →
      ShutdownFinal (Runs.run step (initial true) past)) ∧
    ∃ call, (Runs.run step (initial true)
      (lateRun ++ [.wake 0, .resumeBegin none, .wake 0])).calls.get? 0 = some call ∧
      call.pc = .suspended := by
  constructor
  · intro promise
    have signalled := (promise lateRun (List.prefix_refl _)).released (by decide)
    exact absurd signalled (by decide)
  · exact ⟨_, rfl, by decide⟩

end Dressage.GenerationController

/-
How one call moves in a step of the generation controller.

Whatever a step does elsewhere, a call is left alone, enters, registers a
request, or makes one of the moves below. An invariant of calls is checked
against these moves, not against the whole step.
-/

import Dressage.Proxy.GenerationController

namespace Dressage.GenerationController

open Lib Generation Controller

inductive CallMove (controller : Controller) : Call → Call → Prop
  | gated (call : Call) (error : GenerateError)
    (refused : controller.gateError call.request = some error)
    (waiting : call.pc = .waitingResume ∨ call.pc = .waitingLock) :
    CallMove controller call { call with pc := .raised error }
  | proceeds (call : Call) (waiting : call.pc = .waitingResume) :
    CallMove controller call { call with pc := .waitingLock }
  | sentBack (call : Call) (waiting : call.pc = .waitingLock) :
    CallMove controller call { call with pc := .waitingResume }
  | fails (call : Call) (requestId : Nat) (error : GenerateError)
    (generating : call.pc = .generating requestId)
    (other : ∀ expected current, error ≠ .staleEpoch expected current) :
    CallMove controller call { call with pc := .leaving requestId (.raises error) }
  | absorbs (call : Call) (requestId : Nat) (response : SGLangResponse) (preempted : Bool)
    (generating : call.pc = .generating requestId) :
    CallMove controller call
      { call with
        progress := absorb call.request response preempted call.progress
        pc := .leaving requestId (.chunk preempted) }
  | raises (call : Call) (requestId : Nat) (error : GenerateError)
    (leaving : call.pc = .leaving requestId (.raises error)) :
    CallMove controller call { call with pc := .raised error }
  | preempted (call : Call) (requestId : Nat)
    (leaving : call.pc = .leaving requestId (.chunk true)) :
    CallMove controller call { call with pc := .raised .generationPreempted }
  | returns (call : Call) (requestId : Nat) (preempted : Bool) (progress : Progress)
    (leaving : call.pc = .leaving requestId (.chunk preempted))
    (breaks : afterChunk controller.partialRollout call.request call.progress preempted =
      .breaks progress) :
    CallMove controller call
      { call with
        progress := progress
        pc := .returned (resultOf call.request progress) }
  | suspends (call : Call) (requestId : Nat) (preempted : Bool) (progress : Progress)
    (leaving : call.pc = .leaving requestId (.chunk preempted))
    (follows : afterChunk controller.partialRollout call.request call.progress preempted =
      .suspends progress) :
    CallMove controller call
      { call with
        progress := progress
        pc := .suspended }
  | wakes (call : Call) (suspended : call.pc = .suspended) :
    CallMove controller call { call with pc := .waitingResume }
  | wakesToEnd (call : Call) (suspended : call.pc = .suspended) :
    CallMove controller call { call with pc := .raised .proxyShuttingDown }
  | wakesFull (call : Call) (suspended : call.pc = .suspended) :
    CallMove controller call { call with pc := .returned (resultOf call.request call.progress) }
  | cancels (call : Call) (live : call.pc.ended = false) :
    CallMove controller call { call with pc := .cancelled }

variable {after before : Call} {callId other requestId : Nat} {action : Action}

theorem CallMove.live {controller : Controller} (move : CallMove controller before after) :
    before.pc.ended = false := by
  cases move with
  | gated error refused waiting =>
    rcases waiting with waiting | waiting <;> rw [waiting] <;> rfl
  | proceeds waiting => rw [waiting]; rfl
  | sentBack waiting => rw [waiting]; rfl
  | fails requestId error generating other => rw [generating]; rfl
  | absorbs requestId response preempted generating => rw [generating]; rfl
  | raises requestId error leaving => rw [leaving]; rfl
  | preempted requestId leaving => rw [leaving]; rfl
  | returns requestId preempted progress leaving breaks => rw [leaving]; rfl
  | suspends requestId preempted progress leaving follows => rw [leaving]; rfl
  | wakes suspended => rw [suspended]; rfl
  | wakesToEnd suspended => rw [suspended]; rfl
  | wakesFull suspended => rw [suspended]; rfl
  | cancels live => exact live

theorem CallMove.request {controller : Controller} (move : CallMove controller before after) :
    after.request = before.request := by
  cases move <;> rfl

def Controller.registersCall (controller : Controller) (action : Action) : Option Nat :=
  match action with
  | .register callId =>
    if (controller.step action).nextRequestId = controller.nextRequestId then none
    else some callId
  | _ => none

def Controller.registeredCall (controller : Controller) (call : Call) : Call :=
  { call with
    progress := stampEpoch call.progress controller.rolloutEpoch
    pc := .generating controller.nextRequestId }

def Controller.enteredCall (controller : Controller) (request : Request) : Call :=
  { request := request
    progress := Progress.initial request
    pc := if controller.shuttingDown then .raised .proxyShuttingDown else .waitingResume }

inductive CallStep (controller : Controller) (action : Action) (callId : Nat) (after : Call) : Prop
  | kept (found : controller.calls.get? callId = some after)
  | entered (request : Request) (action_eq : action = .call request)
    (fresh : callId = controller.nextCallId) (made : after = controller.enteredCall request)
  | moved (before : Call) (found : controller.calls.get? callId = some before)
    (move : CallMove controller before after)

variable {controller : Controller}

private theorem callStep_set {new : Call} {calls : OrderedDict Nat Call}
    (found : controller.calls.get? callId = some before)
    (changed : calls = controller.calls.set callId new) (move : CallMove controller before new)
    (at_ : calls.get? other = some after) : CallStep controller action other after := by
  rw [changed, OrderedDict.get?_set] at at_
  split at at_
  · rename_i same
    cases at_
    rw [← same] at found
    exact .moved before found move
  · exact .kept at_

private theorem callStep_same {calls : OrderedDict Nat Call} (same : calls = controller.calls)
    (at_ : calls.get? other = some after) : CallStep controller action other after := by
  rw [same] at at_
  exact .kept at_

section

variable (found : controller.calls.get? callId = some before)
include found

private theorem stitch_callStep {response : SGLangResponse} {forced : Bool}
    (generating : before.pc = .generating requestId)
    (at_ : (controller.stitch callId before requestId response forced).calls.get? other =
      some after) : CallStep controller action other after := by
  unfold stitch at at_
  split at at_
  · rename_i error refused
    refine callStep_set found rfl (.fails before requestId error generating ?_) at_
    intro expected current same
    subst same
    unfold versionError at refused
    split at refused
    · cases refused
    · cases refused
    · split at refused <;> cases refused
  · exact callStep_set found rfl (.absorbs before requestId response _ generating) at_

private theorem engineRaises_callStep {message : String}
    (generating : before.pc = .generating requestId)
    (at_ : (controller.engineRaises callId before requestId message).calls.get? other =
      some after) : CallStep controller action other after := by
  unfold engineRaises at at_
  split at at_
  · exact callStep_set found rfl
      (.fails before requestId .proxyShuttingDown generating (by intro _ _ same; cases same)) at_
  split at at_
  · exact stitch_callStep found generating at_
  · exact callStep_set found rfl
      (.fails before requestId (.upstream message) generating (by intro _ _ same; cases same)) at_

private theorem leave_callStep {exit : Exit} (leaving : before.pc = .leaving requestId exit)
    (at_ : (controller.leave callId before requestId exit).calls.get? other = some after) :
    CallStep controller action other after := by
  obtain ⟨requests, active, removed⟩ := remove_eq controller requestId exit
  unfold leave at at_
  rw [removed] at at_
  dsimp only at at_
  cases exit with
  | raises error => exact callStep_set found rfl (.raises before requestId error leaving) at_
  | chunk preempted =>
    dsimp only at at_
    split at at_
    · rename_i error followed
      -- Only a preempted chunk without partial rollout raises here.
      unfold afterChunk at followed
      split at followed
      · rename_i refused
        cases followed
        rw [refused.1] at leaving
        exact callStep_set found rfl (.preempted before requestId leaving) at_
      · split at followed
        · cases followed
        · split at followed <;> cases followed
    · rename_i progress followed
      exact callStep_set found rfl
        (.returns before requestId preempted progress leaving followed) at_
    · rename_i progress followed
      exact callStep_set found rfl
        (.suspends before requestId preempted progress leaving followed) at_

private theorem wake_callStep (suspended : before.pc = .suspended)
    (at_ : (controller.wake callId before).calls.get? other = some after) :
    CallStep controller action other after := by
  unfold wake at at_
  split at at_
  · dsimp only at at_
    split at at_
    · exact callStep_set found rfl (.wakesToEnd before suspended) at_
    split at at_
    · exact callStep_set found rfl (.wakes before suspended) at_
    · exact callStep_set found rfl (.wakesFull before suspended) at_
  · exact .kept at_

private theorem proceed_callStep (waiting : before.pc = .waitingResume)
    (at_ : (controller.proceed callId before).calls.get? other = some after) :
    CallStep controller action other after := by
  unfold proceed at at_
  split at at_
  · split at at_
    · rename_i error refused
      exact callStep_set found rfl (.gated before error refused (.inl waiting)) at_
    · exact callStep_set found rfl (.proceeds before waiting) at_
  · exact .kept at_

end

theorem step_call (quiet : controller.registersCall action = none)
    (at_ : (controller.step action).calls.get? callId = some after) :
    CallStep controller action callId after := by
  unfold registersCall at quiet
  have effect := step_effect controller action
  generalize controller.step action = next at effect at_ quiet
  cases effect with
  | idle => exact .kept at_
  | enters request =>
    unfold enter at at_
    dsimp only at at_
    rw [OrderedDict.get?_set] at at_
    split at at_
    · rename_i same
      cases at_
      exact .entered request rfl same rfl
    · exact .kept at_
  | proceeds target call found waiting => exact proceed_callStep found waiting at_
  | registers target call found waiting =>
    unfold register at at_ quiet
    split at at_
    · rename_i error refused
      exact callStep_set found rfl (.gated call error refused (.inr waiting)) at_
    · rename_i admitted
      by_cases paused : controller.paused = true
      · rw [if_pos paused] at at_
        exact callStep_set found rfl (.sentBack call waiting) at_
      · simp only [admitted, if_neg paused, Nat.succ_ne_self, if_false] at quiet
        cases quiet
  | responds target call requestId response found generating =>
    exact stitch_callStep found generating at_
  | fails target call requestId message found generating =>
    exact engineRaises_callStep found generating at_
  | leaves target call requestId exit found leaving => exact leave_callStep found leaving at_
  | wakes target call found suspended => exact wake_callStep found suspended at_
  | cancels target call found live =>
    unfold cancel at at_
    split at at_ <;> exact callStep_set found rfl (.cancels call live) at_
  | pauses sessionId instanceId =>
    obtain ⟨requests, changed⟩ :=
      modifyAll_eq controller (controller.selected sessionId instanceId) markPreempting
    unfold pause at at_
    dsimp only at at_
    rw [changed] at at_
    exact .kept at_
  | abortSucceeded requestId =>
    obtain ⟨requests, changed⟩ := modifyRequest_eq controller requestId (abortResult true)
    rw [changed] at at_
    exact .kept at_
  | abortFailed requestId =>
    obtain ⟨requests, changed⟩ := modifyRequest_eq controller requestId (abortResult false)
    rw [changed] at at_
    exact .kept at_
  | controls _ _ same => exact callStep_same same.calls at_
  | shutsDown =>
    obtain ⟨requests, changed⟩ := modifyAll_eq controller controller.active markPreempting
    unfold shutdown at at_
    rw [changed] at at_
    exact .kept at_

theorem step_registers (registers : controller.registersCall action = some callId) :
    ∃ call, controller.calls.get? callId = some call ∧ call.pc = .waitingLock ∧
      controller.gateError call.request = none ∧
      (controller.step action).calls =
        controller.calls.set callId (controller.registeredCall call) := by
  unfold registersCall at registers
  split at registers
  · rename_i target
    split at registers
    · cases registers
    rename_i issued
    cases registers
    simp only [step] at issued ⊢
    split at issued
    · rename_i call found
      simp only [found] at issued ⊢
      split at issued
      · rename_i ready
        rw [if_pos ready]
        unfold register at issued ⊢
        split at issued
        · exact absurd rfl issued
        · rename_i admitted
          split at issued
          · exact absurd rfl issued
          · rename_i unpaused
            exact ⟨call, rfl, ready.1, admitted, by rw [if_neg unpaused]; rfl⟩
      · exact absurd rfl issued
    · exact absurd rfl issued
  · cases registers

inductive OldCallStep (controller : Controller) (action : Action) (callId : Nat) (after : Call) :
    Prop
  | kept (found : controller.calls.get? callId = some after)
    (quiet : controller.registersCall action ≠ some callId)
  | moved (before : Call) (found : controller.calls.get? callId = some before)
    (move : CallMove controller before after)
    (quiet : controller.registersCall action ≠ some callId)
  | registered (before : Call) (found : controller.calls.get? callId = some before)
    (waiting : before.pc = .waitingLock)
    (admitted : controller.gateError before.request = none)
    (made : after = controller.registeredCall before)
    (registers : controller.registersCall action = some callId)

theorem step_old_call (old : callId < controller.nextCallId)
    (at_ : (controller.step action).calls.get? callId = some after) :
    OldCallStep controller action callId after := by
  cases registers : controller.registersCall action with
  | none =>
    have quiet : controller.registersCall action ≠ some callId := by
      rw [registers]
      intro same
      cases same
    cases step_call registers at_ with
    | kept found => exact .kept found quiet
    | entered request action_eq fresh made => omega
    | moved before found move => exact .moved before found move quiet
  | some target =>
    obtain ⟨call, found, waiting, admitted, calls⟩ := step_registers registers
    rw [calls, OrderedDict.get?_set] at at_
    split at at_
    · rename_i same
      cases at_
      subst same
      exact .registered call found waiting admitted rfl registers
    · rename_i different
      refine .kept at_ (fun same => different ?_)
      rw [registers] at same
      exact (Option.some.inj same).symm

structure Onward (before after : Controller) : Prop where
  partialRollout : after.partialRollout = before.partialRollout
  nextCallId : before.nextCallId ≤ after.nextCallId
  rolloutEpoch : before.rolloutEpoch ≤ after.rolloutEpoch

theorem Onward.of_eq {before after : Controller}
    (partialRollout : after.partialRollout = before.partialRollout)
    (nextCallId : after.nextCallId = before.nextCallId)
    (rolloutEpoch : after.rolloutEpoch = before.rolloutEpoch) : Onward before after :=
  { partialRollout := partialRollout
    nextCallId := Nat.le_of_eq nextCallId.symm
    rolloutEpoch := Nat.le_of_eq rolloutEpoch.symm }

private theorem resumeNow_onward (version : Option String) :
    Onward controller (controller.resumeNow version) := by
  refine
    { partialRollout := rfl
      nextCallId := Nat.le_refl _
      rolloutEpoch := ?_ }
  unfold resumeNow
  dsimp only
  split
  · exact Nat.le_succ _
  · exact Nat.le_refl _

private theorem synchronizeVersion_onward (version : String) :
    Onward controller (controller.synchronizeVersion version) := by
  unfold synchronizeVersion
  dsimp only
  split
  · exact Onward.of_eq rfl rfl rfl
  split
  · exact Onward.of_eq rfl rfl rfl
  · refine
      { partialRollout := rfl
        nextCallId := Nat.le_refl _
        rolloutEpoch := ?_ }
    dsimp only
    split
    · exact Nat.le_refl _
    · exact Nat.le_succ _

theorem step_onward (controller : Controller) (action : Action) :
    Onward controller (controller.step action) := by
  cases action with
  | call request =>
    exact
      { partialRollout := rfl
        nextCallId := Nat.le_succ _
        rolloutEpoch := Nat.le_refl _ }
  | proceed callId =>
    simp only [step, proceed]
    repeat' split
    all_goals exact Onward.of_eq rfl rfl rfl
  | register callId =>
    simp only [step, register]
    repeat' split
    all_goals exact Onward.of_eq rfl rfl rfl
  | respond callId response =>
    simp only [step, stitch]
    repeat' split
    all_goals exact Onward.of_eq rfl rfl rfl
  | fail callId message =>
    simp only [step, engineRaises, stitch]
    repeat' split
    all_goals exact Onward.of_eq rfl rfl rfl
  | leave callId =>
    simp only [step]
    split
    · split
      · rename_i requestId exit _
        split
        · obtain ⟨requests, active, removed⟩ := remove_eq controller requestId exit
          unfold leave
          rw [removed]
          dsimp only
          repeat' split
          all_goals exact Onward.of_eq rfl rfl rfl
        · exact Onward.of_eq rfl rfl rfl
      · exact Onward.of_eq rfl rfl rfl
    · exact Onward.of_eq rfl rfl rfl
  | wake callId =>
    simp only [step, wake]
    repeat' split
    all_goals exact Onward.of_eq rfl rfl rfl
  | cancel callId =>
    simp only [step, cancel]
    repeat' split
    all_goals exact Onward.of_eq rfl rfl rfl
  | pause sessionId instanceId =>
    obtain ⟨requests, changed⟩ :=
      modifyAll_eq controller (controller.selected sessionId instanceId) markPreempting
    simp only [step, pause, changed]
    split <;> exact Onward.of_eq rfl rfl rfl
  | abortSucceeds requestId =>
    obtain ⟨requests, changed⟩ := modifyRequest_eq controller requestId (abortResult true)
    simp only [step, changed]
    exact Onward.of_eq rfl rfl rfl
  | abortFails requestId =>
    obtain ⟨requests, changed⟩ := modifyRequest_eq controller requestId (abortResult false)
    simp only [step, changed]
    exact Onward.of_eq rfl rfl rfl
  | resumeBegin version =>
    simp only [step, resumeBegin]
    split
    · split
      · exact Onward.of_eq rfl rfl rfl
      split
      · exact Onward.of_eq rfl rfl rfl
      · exact resumeNow_onward version
    · exact Onward.of_eq rfl rfl rfl
  | resumeEnd ready =>
    simp only [step, resumeEnd]
    split
    · split
      · exact resumeNow_onward _
      · exact Onward.of_eq rfl rfl rfl
    · exact Onward.of_eq rfl rfl rfl
  | synchronizeVersion version =>
    simp only [step]
    split
    · exact synchronizeVersion_onward version
    · exact Onward.of_eq rfl rfl rfl
  | shutdown =>
    obtain ⟨requests, changed⟩ := modifyAll_eq controller controller.active markPreempting
    simp only [step, shutdown, changed]
    split <;> exact Onward.of_eq rfl rfl rfl

theorem step_entered
    (entered : ∀ callId call, controller.calls.get? callId = some call →
      callId < controller.nextCallId)
    (at_ : (controller.step action).calls.get? callId = some after) :
    callId < (controller.step action).nextCallId := by
  have onward := (step_onward controller action).nextCallId
  cases registers : controller.registersCall action with
  | none =>
    cases step_call registers at_ with
    | kept found | moved before found move =>
      exact Nat.lt_of_lt_of_le (entered callId _ found) onward
    | entered request action_eq fresh made =>
      rw [action_eq, fresh]
      exact Nat.lt_succ_self _
  | some target =>
    obtain ⟨call, found, waiting, admitted, calls⟩ := step_registers registers
    rw [calls, OrderedDict.get?_set] at at_
    split at at_
    · rename_i same
      rw [same]
      exact Nat.lt_of_lt_of_le (entered target _ found) onward
    · exact Nat.lt_of_lt_of_le (entered callId _ at_) onward

end Dressage.GenerationController

/-
Version safety of recorded trajectories.

Without partial rollout the steps of a session are generated in the one epoch it carries. The
versions are guarded when a result is taken up, against those of the steps recorded so far; with
partial rollout and a limit, the guard counts the distinct versions.
-/

import Mathlib.Data.Finset.Card
import Dressage.Proxy.CallEpochs
import Dressage.Proxy.PlainFormat

namespace Dressage.Proxy.RolloutEpochs

open Lib Generation GenerationController List

variable {Message Tool Call : Type}

structure Quiet (before after : State Message Tool Call) : Prop where
  controller : after.controller = before.controller
  registrations : after.journal.registrations = before.journal.registrations
  stepCalls : after.journal.stepCalls = before.journal.stepCalls
  guards : SameGuards before.proxy.session after.proxy.session

theorem Quiet.epochsOf {before after : State Message Tool Call} (quiet : Quiet before after)
    (callId : Nat) : after.journal.epochsOf callId = before.journal.epochsOf callId := by
  unfold EpochJournal.epochsOf
  rw [quiet.registrations]

theorem refuse_quiet {state : State Message Tool Call} {refusal : Refusal}
    {proxy : ProxyState Message Tool} (same : SameGuards state.proxy.session proxy.session) :
    Quiet state (state.refuse refusal proxy) :=
  { controller := rfl
    registrations := rfl
    stepCalls := rfl
    guards := same }

theorem advance_quiet {state : State Message Tool Call}
    {underway : Option (Underway Message Tool Call)} {proxy : ProxyState Message Tool}
    (same : SameGuards state.proxy.session proxy.session) :
    Quiet state
      { state with
        proxy := proxy
        underway := underway } :=
  { controller := rfl
    registrations := rfl
    stepCalls := rfl
    guards := same }

structure Journaled (state : State Message Tool Call) : Prop where
  entered : ∀ callId call, state.controller.calls.get? callId = some call →
    callId < state.controller.nextCallId
  registered : ∀ registration ∈ state.journal.registrations,
    registration.1 < state.controller.nextCallId
  ended : ∀ callId ∈ state.journal.stepCalls, callId < state.controller.nextCallId ∧
    ∀ call, state.controller.calls.get? callId = some call → call.pc.ended = true

/-- All recorded steps are of one epoch, no earlier than the stamp, and of one version. -/
structure Trajectory (state : State Message Tool Call) : Prop where
  whole : state.controller.partialRollout = false
  journaled : Journaled state
  recorded : state.journal.stepCalls.length = state.proxy.session.steps.length
  stamp : ∀ stamped, state.proxy.session.rolloutEpoch = some stamped →
    stamped ≤ state.controller.rolloutEpoch
  epoch : ∃ epoch, epoch ≤ state.controller.rolloutEpoch ∧
    (∀ callId ∈ state.journal.stepCalls, state.journal.epochsOf callId = [epoch]) ∧
    (state.proxy.session.steps ≠ [] →
      ∃ stamped, state.proxy.session.rolloutEpoch = some stamped ∧ stamped ≤ epoch)
  versions : ∀ version ∈ sessionRealVersions state.proxy.session,
    ∀ other ∈ sessionRealVersions state.proxy.session, version = other

structure Admitted (epoch : Nat) (state : State Message Tool Call) : Prop where
  passed : epoch ≤ state.controller.rolloutEpoch
  stamp : ∀ stamped, state.proxy.session.rolloutEpoch = some stamped → stamped ≤ epoch
  epochs : ∀ callId ∈ state.journal.stepCalls, state.journal.epochsOf callId = [epoch]

structure Generating (epoch callId : Nat) (state : State Message Tool Call) : Prop where
  admitted : Admitted epoch state
  entered : callId < state.controller.nextCallId
  known : ∀ call, state.controller.calls.get? callId = some call →
    CallEpochs epoch state.controller.rolloutEpoch (state.journal.epochsOf callId) call ∧
      call.request.expectedEpoch =
        if state.proxy.session.steps ≠ [] then some epoch else none

def Underway.Sound (state : State Message Tool Call) : Underway Message Tool Call → Prop
  | .admitted _ answers _ => Admitted answers.currentEpoch state
  | .leasing job => Admitted job.answers.currentEpoch state
  | .generating job callId => Generating job.answers.currentEpoch callId state

structure Whole (state : State Message Tool Call) : Prop where
  trajectory : Trajectory state
  sound : ∀ underway, state.underway = some underway → underway.Sound state

section Quiet

variable {before after : State Message Tool Call}

theorem Quiet.trajectory (quiet : Quiet before after) (holds : Trajectory before) :
    Trajectory after := by
  have realVersions : sessionRealVersions after.proxy.session =
      sessionRealVersions before.proxy.session := by
    unfold sessionRealVersions
    rw [quiet.guards.steps]
  obtain ⟨epoch, passed, epochs, stamped⟩ := holds.epoch
  refine
    { whole := by rw [quiet.controller, holds.whole]
      journaled :=
        { entered := by rw [quiet.controller]; exact holds.journaled.entered
          registered := by
            rw [quiet.controller, quiet.registrations]
            exact holds.journaled.registered
          ended := by
            rw [quiet.controller, quiet.stepCalls]
            exact holds.journaled.ended }
      recorded := by rw [quiet.stepCalls, quiet.guards.steps, holds.recorded]
      stamp := by
        rw [quiet.controller, quiet.guards.rolloutEpoch]
        exact holds.stamp
      epoch := ⟨epoch, ?_, ?_, ?_⟩
      versions := by
        rw [realVersions]
        exact holds.versions }
  · rw [quiet.controller]
    exact passed
  · intro callId member
    rw [quiet.epochsOf]
    exact epochs callId (quiet.stepCalls ▸ member)
  · rw [quiet.guards.steps, quiet.guards.rolloutEpoch]
    exact stamped

theorem Quiet.admitted (quiet : Quiet before after) {epoch : Nat} (holds : Admitted epoch before) :
    Admitted epoch after :=
  { passed := by
      rw [quiet.controller]
      exact holds.passed
    stamp := by
      rw [quiet.guards.rolloutEpoch]
      exact holds.stamp
    epochs := by
      intro callId member
      rw [quiet.epochsOf]
      exact holds.epochs callId (quiet.stepCalls ▸ member) }

end Quiet

section Control

variable {state : State Message Tool Call} {action : GenerationController.Action}

theorem epochsOf_control (callId : Nat) :
    (state.control action).journal.epochsOf callId = state.journal.epochsOf callId ++
      if state.controller.registersCall action = some callId then [state.controller.rolloutEpoch]
      else [] := by
  unfold EpochJournal.epochsOf State.control
  rw [filter_append, map_append]
  congr 1
  cases registers : state.controller.registersCall action with
  | none => rfl
  | some target =>
    by_cases same : target = callId
    · simp [same]
    · simp [same]

variable {callId : Nat}

theorem epochsOf_control_quiet (quiet : state.controller.registersCall action ≠ some callId) :
    (state.control action).journal.epochsOf callId = state.journal.epochsOf callId := by
  rw [epochsOf_control, if_neg quiet, append_nil]

theorem control_ended (old : callId < state.controller.nextCallId)
    (ended : ∀ call, state.controller.calls.get? callId = some call → call.pc.ended = true) :
    (∀ call, (state.control action).controller.calls.get? callId = some call →
      call.pc.ended = true) ∧
    (state.control action).journal.epochsOf callId = state.journal.epochsOf callId := by
  constructor
  · intro call found
    cases step_old_call old found with
    | kept found => exact ended call found
    | moved before found move =>
      have live := move.live
      rw [ended before found] at live
      cases live
    | registered before found waiting =>
      have done := ended before found
      rw [waiting] at done
      cases done
  · apply epochsOf_control_quiet
    intro registers
    obtain ⟨call, found, waiting, _⟩ := step_registers registers
    have done := ended call found
    rw [waiting] at done
    cases done

theorem Journaled.control (journaled : Journaled state) : Journaled (state.control action) := by
  have onward := (step_onward state.controller action).nextCallId
  refine
    { entered := fun callId call found => step_entered journaled.entered found
      registered := ?_
      ended := ?_ }
  · intro registration member
    rcases mem_append.mp member with old | new
    · exact Nat.lt_of_lt_of_le (journaled.registered registration old) onward
    · cases registers : state.controller.registersCall action with
      | none =>
        rw [registers] at new
        cases new
      | some target =>
        obtain ⟨call, found, _⟩ := step_registers registers
        rw [registers] at new
        cases mem_singleton.mp new
        exact Nat.lt_of_lt_of_le (journaled.entered target call found) onward
  · intro callId member
    obtain ⟨old, ended⟩ := journaled.ended callId member
    exact ⟨Nat.lt_of_lt_of_le old onward, (control_ended old ended).1⟩

theorem epochsOf_recorded (journaled : Journaled state) {callId : Nat}
    (member : callId ∈ state.journal.stepCalls) :
    (state.control action).journal.epochsOf callId = state.journal.epochsOf callId :=
  (control_ended (journaled.ended callId member).1 (journaled.ended callId member).2).2

theorem Trajectory.control (holds : Trajectory state) : Trajectory (state.control action) := by
  have onward := (step_onward state.controller action).rolloutEpoch
  obtain ⟨epoch, passed, epochs, stamped⟩ := holds.epoch
  refine
    { holds with
      whole := (step_onward state.controller action).partialRollout.trans holds.whole
      journaled := holds.journaled.control
      stamp := fun stamped same => Nat.le_trans (holds.stamp stamped same) onward
      epoch := ⟨epoch, Nat.le_trans passed onward, ?_, stamped⟩ }
  intro callId member
  rw [epochsOf_recorded holds.journaled member]
  exact epochs callId member

theorem Admitted.control {epoch : Nat} (journaled : Journaled state)
    (admitted : Admitted epoch state) : Admitted epoch (state.control action) := by
  refine
    { passed := Nat.le_trans admitted.passed (step_onward state.controller action).rolloutEpoch
      stamp := admitted.stamp
      epochs := ?_ }
  intro callId member
  rw [epochsOf_recorded journaled member]
  exact admitted.epochs callId member

theorem Generating.control {epoch : Nat} (holds : Trajectory state)
    (generating : Generating epoch callId state) :
    Generating epoch callId (state.control action) := by
  have onward := step_onward state.controller action
  refine
    { admitted := generating.admitted.control holds.journaled
      entered := Nat.lt_of_lt_of_le generating.entered onward.nextCallId
      known := ?_ }
  intro call found
  cases step_old_call generating.entered found with
  | kept found quiet =>
    obtain ⟨known, expected⟩ := generating.known call found
    rw [epochsOf_control_quiet quiet]
    exact ⟨known.later onward.rolloutEpoch, expected⟩
  | moved before found move quiet =>
    obtain ⟨known, expected⟩ := generating.known before found
    rw [epochsOf_control_quiet quiet, move.request]
    exact ⟨(known.move holds.whole generating.admitted.passed move).later onward.rolloutEpoch,
      expected⟩
  | registered before found waiting admitted made registers =>
    obtain ⟨known, expected⟩ := generating.known before found
    rw [epochsOf_control, if_pos registers, made]
    exact ⟨(known.register generating.admitted.passed waiting admitted).later
      onward.rolloutEpoch, expected⟩

theorem Whole.control (whole : Whole state) : Whole (state.control action) := by
  refine
    { trajectory := whole.trajectory.control
      sound := fun underway held => ?_ }
  have sound := whole.sound underway held
  cases underway with
  | admitted request answers admission =>
    exact Admitted.control whole.trajectory.journaled sound
  | leasing job => exact Admitted.control whole.trajectory.journaled sound
  | generating job callId => exact Generating.control whole.trajectory sound

end Control

section Requests

variable {config : ProxyConfig} {state : State Message Tool Call}

theorem Trajectory.unrecorded (holds : Trajectory state)
    (empty : state.proxy.session.steps = []) : state.journal.stepCalls = [] := by
  apply length_eq_zero_iff.mp
  rw [holds.recorded, empty, length_nil]

theorem Trajectory.admitted (holds : Trajectory state)
    (met : ∀ epoch, state.proxy.session.steps ≠ [] →
      state.proxy.session.rolloutEpoch = some epoch → epoch = state.controller.rolloutEpoch) :
    Admitted state.controller.rolloutEpoch state := by
  refine
    { passed := Nat.le_refl _
      stamp := holds.stamp
      epochs := ?_ }
  intro callId member
  by_cases empty : state.proxy.session.steps = []
  · rw [holds.unrecorded empty] at member
    cases member
  · obtain ⟨epoch, passed, epochs, stamped⟩ := holds.epoch
    obtain ⟨carried, same, since⟩ := stamped empty
    have now := met carried empty same
    have equal : epoch = state.controller.rolloutEpoch := by omega
    rw [epochs callId member, equal]

theorem Whole.leased (whole : Whole state) {job : Job Message Tool Call}
    {proxy : ProxyState Message Tool} (single : config.partialRollout = false)
    (underway : state.underway = some (.leasing job))
    (same : SameGuards state.proxy.session proxy.session) :
    Whole
      { state with
        proxy := proxy
        controller := state.controller.enter (job.generation config proxy.session)
        underway := some (.generating job state.controller.nextCallId) } := by
  have admitted : Admitted job.answers.currentEpoch state := whole.sound _ underway
  have journaled := whole.trajectory.journaled
  -- For the trajectory this is the step in which any session's call enters.
  have entering : Quiet (state.control (.call (job.generation config proxy.session)))
      { state with
        proxy := proxy
        controller := state.controller.enter (job.generation config proxy.session)
        underway := some (.generating job state.controller.nextCallId) } :=
    { controller := rfl
      registrations := (append_nil _).symm
      stepCalls := rfl
      guards := same }
  refine
    { trajectory := entering.trajectory whole.trajectory.control
      sound := fun other held => ?_ }
  cases held
  refine
    { admitted := entering.admitted (admitted.control journaled)
      entered := Nat.lt_succ_self _
      known := ?_ }
  intro call found
  have entered : call = state.controller.enteredCall (job.generation config proxy.session) := by
    change (state.controller.calls.set state.controller.nextCallId
      (state.controller.enteredCall (job.generation config proxy.session))).get?
        state.controller.nextCallId = some call at found
    rw [OrderedDict.get?_set, if_pos rfl] at found
    exact (Option.some.inj found).symm
  have unregistered : state.journal.epochsOf state.controller.nextCallId = [] := by
    unfold EpochJournal.epochsOf
    rw [map_eq_nil_iff, filter_eq_nil_iff]
    intro registration member
    have old := journaled.registered registration member
    simp only [decide_eq_true_eq]
    omega
  constructor
  · change CallEpochs job.answers.currentEpoch state.controller.rolloutEpoch
      (state.journal.epochsOf state.controller.nextCallId) call
    rw [unregistered, entered]
    exact CallEpochs.entered _ _ _
  · rw [entered]
    change (if config.partialRollout = false ∧ proxy.session.steps ≠ [] then
      some job.answers.currentEpoch else none) = _
    simp only [single, true_and]

end Requests

section Recording

variable {config : ProxyConfig} {state : State Message Tool Call}

theorem conclude_controller (callId : Nat)
    (outcome : Except Refusal (Completion Call) × ProxyState Message Tool) :
    (state.conclude callId outcome).controller = state.controller := by
  unfold State.conclude
  dsimp only
  split <;> rfl

theorem conclude_proxy (callId : Nat)
    (outcome : Except Refusal (Completion Call) × ProxyState Message Tool) :
    (state.conclude callId outcome).proxy = outcome.2 := by
  unfold State.conclude
  dsimp only
  split <;> rfl

theorem conclude_underway (callId : Nat)
    (outcome : Except Refusal (Completion Call) × ProxyState Message Tool) :
    (state.conclude callId outcome).underway = none := by
  unfold State.conclude
  dsimp only
  split <;> rfl

theorem conclude_registrations (callId : Nat)
    (outcome : Except Refusal (Completion Call) × ProxyState Message Tool) :
    (state.conclude callId outcome).journal.registrations = state.journal.registrations := by
  unfold State.conclude State.refuse
  dsimp only
  split <;> split <;> rfl

theorem conclude_stepCalls (callId : Nat)
    (outcome : Except Refusal (Completion Call) × ProxyState Message Tool) :
    (state.conclude callId outcome).journal.stepCalls =
      if outcome.2.session.steps.length = state.proxy.session.steps.length then
        state.journal.stepCalls
      else state.journal.stepCalls ++ [callId] := by
  unfold State.conclude State.refuse
  dsimp only
  split <;> split <;> rfl

theorem conclude_epochsOf (callId other : Nat)
    (outcome : Except Refusal (Completion Call) × ProxyState Message Tool) :
    (state.conclude callId outcome).journal.epochsOf other = state.journal.epochsOf other := by
  unfold EpochJournal.epochsOf
  rw [conclude_registrations]

variable {result : PreemptibleGenerateResult} {epoch floor callId : Nat}
variable {call : GenerationController.Call}
variable {outcome : Except Refusal (Completion Call) × ProxyState Message Tool}
variable {step : StepRecord Message Tool}

theorem stampRolloutEpoch_some {stamped : Nat} {session : Session Message Tool}
    (ran : result.rolloutEpoch = some epoch)
    (carried : (stampRolloutEpoch result session).rolloutEpoch = some stamped) :
    session.rolloutEpoch = some stamped ∨ session.rolloutEpoch = none ∧ stamped = epoch := by
  unfold stampRolloutEpoch at carried
  dsimp only at carried
  split at carried
  · rename_i bare
    rw [ran] at carried
    cases carried
    exact .inr ⟨bare, rfl⟩
  · rename_i other found
    cases carried
    exact .inl found

theorem stampRolloutEpoch_isSome (session : Session Message Tool)
    (ran : result.rolloutEpoch = some epoch) :
    ∃ stamped, (stampRolloutEpoch result session).rolloutEpoch = some stamped := by
  unfold stampRolloutEpoch
  dsimp only
  split
  · exact ⟨epoch, ran⟩
  · rename_i other _
    exact ⟨other, rfl⟩

theorem Admitted.stamp_le (admitted : Admitted floor state) (since : floor ≤ epoch)
    (ran : result.rolloutEpoch = some epoch) {stamped : Nat}
    (carried : (stampRolloutEpoch result state.proxy.session).rolloutEpoch = some stamped) :
    stamped ≤ epoch := by
  rcases stampRolloutEpoch_some ran carried with before | ⟨_, now⟩
  · exact Nat.le_trans (admitted.stamp stamped before) since
  · exact Nat.le_of_eq now

theorem Journaled.conclude (journaled : Journaled state)
    (found : state.controller.calls.get? callId = some call) (ended : call.pc.ended = true)
    (outcome : Except Refusal (Completion Call) × ProxyState Message Tool) :
    Journaled (state.conclude callId outcome) := by
  refine
    { entered := by rw [conclude_controller]; exact journaled.entered
      registered := by
        rw [conclude_controller, conclude_registrations]
        exact journaled.registered
      ended := ?_ }
  intro other member
  rw [conclude_controller]
  rw [conclude_stepCalls] at member
  split at member
  · exact journaled.ended other member
  · rcases mem_append.mp member with old | new
    · exact journaled.ended other old
    · cases mem_singleton.mp new
      refine ⟨journaled.entered callId call found, fun again same => ?_⟩
      rw [found] at same
      cases same
      exact ended

theorem Trajectory.stamped (holds : Trajectory state)
    (found : state.controller.calls.get? callId = some call) (ended : call.pc.ended = true)
    (admitted : Admitted floor state)
    (ran : RanIn floor state.controller.rolloutEpoch epoch (state.journal.epochsOf callId) call)
    (stamped : result.rolloutEpoch = some epoch)
    (steps : outcome.2.session.steps = state.proxy.session.steps)
    (carried : outcome.2.session.rolloutEpoch =
      (stampRolloutEpoch result state.proxy.session).rolloutEpoch) :
    Trajectory (state.conclude callId outcome) := by
  have stepCalls : (state.conclude callId outcome).journal.stepCalls = state.journal.stepCalls := by
    rw [conclude_stepCalls, if_pos (by rw [steps])]
  have realVersions : sessionRealVersions outcome.2.session =
      sessionRealVersions state.proxy.session := by
    unfold sessionRealVersions
    rw [steps]
  obtain ⟨old, passed, same, since⟩ := holds.epoch
  refine
    { whole := by rw [conclude_controller, holds.whole]
      journaled := holds.journaled.conclude found ended outcome
      recorded := by rw [stepCalls, conclude_proxy, steps, holds.recorded]
      stamp := ?_
      epoch := ⟨old, by rw [conclude_controller]; exact passed, ?_, ?_⟩
      versions := by
        rw [conclude_proxy, realVersions]
        exact holds.versions }
  · intro mark known
    rw [conclude_proxy, carried] at known
    rw [conclude_controller]
    exact Nat.le_trans (admitted.stamp_le ran.since stamped known) ran.passed
  · intro other member
    rw [conclude_epochsOf]
    exact same other (stepCalls ▸ member)
  · intro recorded
    rw [conclude_proxy, steps] at recorded
    obtain ⟨mark, known, early⟩ := since recorded
    refine ⟨mark, ?_, early⟩
    rw [conclude_proxy, carried]
    unfold stampRolloutEpoch
    dsimp only
    rw [known]

def stepRealVersions (step : StepRecord Message Tool) : List String :=
  (step.responseVersions.map some ++ [step.responseVersion, step.requestVersion]).filterMap
    realTokenVersion

theorem sessionRealVersions_snoc {before after : Session Message Tool}
    (steps : after.steps = before.steps ++ [step]) :
    sessionRealVersions after = sessionRealVersions before ++ stepRealVersions step := by
  unfold sessionRealVersions
  rw [steps, flatMap_append, flatMap_singleton]
  rfl

theorem realTokenVersion_some {value : Option String} {version : String}
    (real : realTokenVersion value = some version) : value = some version := by
  unfold realTokenVersion at real
  cases value with
  | none => cases real
  | some text =>
    dsimp only [Option.bind_some] at real
    split at real
    · cases real
    · exact real

theorem Finished.versions {before after : Session Message Tool}
    (single : config.partialRollout = false) (one : OneVersion result.outputVersions)
    (passed : Passed config before result) (steps : after.steps = before.steps ++ [step])
    (responseVersions : step.responseVersions =
      if (acceptedOf config result).outputOverflow then []
      else (acceptedOf config result).responseVersions)
    (responseVersion : step.responseVersion = some (acceptedOf config result).responseVersion)
    (requestVersion : step.requestVersion = some (acceptedOf config result).responseVersion)
    (same : ∀ version ∈ sessionRealVersions before, ∀ other ∈ sessionRealVersions before,
      version = other) :
    ∀ version ∈ sessionRealVersions after, ∀ other ∈ sessionRealVersions after,
      version = other := by
  have guarded : ∀ version ∈ stepRealVersions step, version ∈
      ((acceptedOf config result).responseVersions.map some ++
        [some (acceptedOf config result).responseVersion,
          some (acceptedOf config result).responseVersion]).filterMap realTokenVersion := by
    unfold stepRealVersions
    rw [responseVersions, responseVersion, requestVersion]
    intro version member
    split at member
    · rw [filterMap_append]
      exact mem_append.mpr (.inr member)
    · exact member
  have ownVersion : ∀ version ∈ stepRealVersions step, version = resultVersion result := by
    intro version member
    obtain ⟨value, among, real⟩ := mem_filterMap.mp (guarded version member)
    cases realTokenVersion_some real
    rcases mem_append.mp among with response | rest
    · obtain ⟨text, listed, equal⟩ := mem_map.mp response
      cases equal
      exact one.accepted listed
    · rcases mem_pair.mp rest with equal | equal <;> exact Option.some.inj equal
  rw [sessionRealVersions_snoc steps]
  -- A session with a real version takes up no other one; without one, the step has its own.
  by_cases empty : sessionRealVersions before = []
  · rw [empty, nil_append]
    intro version member other otherMember
    rw [ownVersion version member, ownVersion other otherMember]
  · have old : ∀ version ∈ sessionRealVersions before ++ stepRealVersions step,
        version ∈ sessionRealVersions before := by
      intro version member
      rcases mem_append.mp member with known | new
      · exact known
      · exact passed.versions version (guarded version new) single empty
    intro version member other otherMember
    exact same version (old version member) other (old other otherMember)

theorem Trajectory.record (holds : Trajectory state) (generating : Generating floor callId state)
    (found : state.controller.calls.get? callId = some call) (ended : call.pc.ended = true)
    (ran : RanIn floor state.controller.rolloutEpoch epoch (state.journal.epochsOf callId) call)
    (stamped : result.rolloutEpoch = some epoch)
    (steps : outcome.2.session.steps = state.proxy.session.steps ++ [step])
    (carried : outcome.2.session.rolloutEpoch =
      (stampRolloutEpoch result state.proxy.session).rolloutEpoch)
    (versions : ∀ version ∈ sessionRealVersions outcome.2.session,
      ∀ other ∈ sessionRealVersions outcome.2.session, version = other) :
    Trajectory (state.conclude callId outcome) := by
  have grown : outcome.2.session.steps.length = state.proxy.session.steps.length + 1 := by
    rw [steps, length_append, length_singleton]
  have stepCalls : (state.conclude callId outcome).journal.stepCalls =
      state.journal.stepCalls ++ [callId] := by
    rw [conclude_stepCalls, if_neg (by omega)]
  obtain ⟨mark, marked⟩ := stampRolloutEpoch_isSome state.proxy.session stamped
  refine
    { whole := by rw [conclude_controller, holds.whole]
      journaled := holds.journaled.conclude found ended outcome
      recorded := by
        rw [stepCalls, conclude_proxy, grown, length_append, holds.recorded, length_singleton]
      stamp := ?_
      epoch := ⟨epoch, by rw [conclude_controller]; exact ran.passed, ?_, fun _ => ⟨mark, ?_, ?_⟩⟩
      versions := by
        rw [conclude_proxy]
        exact versions }
  · intro other known
    rw [conclude_proxy, carried] at known
    rw [conclude_controller]
    exact Nat.le_trans (generating.admitted.stamp_le ran.since stamped known) ran.passed
  · intro other member
    rw [conclude_epochsOf]
    rw [stepCalls] at member
    rcases mem_append.mp member with old | new
    · -- The session has steps, so the call expected the epoch it was admitted in.
      have filled : state.proxy.session.steps ≠ [] := by
        intro empty
        rw [holds.unrecorded empty] at old
        cases old
      have asked := (generating.known call found).2
      rw [if_pos filled] at asked
      rw [generating.admitted.epochs other old, ran.expected floor asked]
    · cases mem_singleton.mp new
      exact ran.registered
  · rw [conclude_proxy, carried]
    exact marked
  · exact generating.admitted.stamp_le ran.since stamped marked

theorem Whole.finished (whole : Whole state) {job : Job Message Tool Call}
    (single : config.partialRollout = false)
    (underway : state.underway = some (.generating job callId))
    (found : state.controller.calls.get? callId = some call) (returned : call.pc = .returned result)
    (effect : Finished config result state.proxy.session outcome.2.session) :
    Whole (state.conclude callId outcome) := by
  have generating : Generating job.answers.currentEpoch callId state := whole.sound _ underway
  obtain ⟨epoch, ran, stamped, one⟩ := (generating.known call found).1.ran_of_returned returned
  have ended : call.pc.ended = true := by
    rw [returned]
    rfl
  refine
    { trajectory := ?_
      sound := fun other held => ?_ }
  · cases effect with
    | unaccepted same =>
      have quiet : Quiet state (state.conclude callId outcome) :=
        { controller := conclude_controller callId outcome
          registrations := conclude_registrations callId outcome
          stepCalls := by rw [conclude_stepCalls, if_pos (by rw [same.steps])]
          guards := by
            rw [conclude_proxy]
            exact same }
      exact quiet.trajectory whole.trajectory
    | stamped steps carried =>
      exact whole.trajectory.stamped found ended generating.admitted ran stamped steps carried
    | recorded step passed steps carried responseVersions responseVersion requestVersion =>
      refine whole.trajectory.record generating found ended ran stamped steps carried ?_
      exact Finished.versions single one passed steps responseVersions responseVersion
        requestVersion whole.trajectory.versions
  · rw [conclude_underway] at held
    cases held

end Recording

section Runs

variable {config : ProxyConfig} {format : ChatFormat Message Tool Call}

section

variable (single : config.partialRollout = false)
include single

theorem initial_whole (sessionId instanceId : String) (now : ℚ) :
    Whole (State.initial config sessionId instanceId now : State Message Tool Call) := by
  refine
    { trajectory :=
        { whole := single
          journaled :=
            { entered := fun callId call found => by cases found
              registered := fun registration member => by cases member
              ended := fun callId member => by cases member }
          recorded := rfl
          stamp := fun stamped same => by cases same
          epoch := ⟨0, Nat.le_refl _, (fun callId member => by cases member),
            (fun recorded => absurd rfl recorded)⟩
          versions := fun version member => by cases member }
      sound := fun underway held => by cases held }

theorem move_whole {state after : State Message Tool Call} {action : Action Message Tool Call}
    (whole : Whole state) (move : Move config state action after) : Whole after := by
  have trajectory := whole.trajectory
  cases move with
  | idle => exact whole
  | admitted request answers told admission proxy current same met =>
    have quiet := @advance_quiet Message Tool Call state
      (some (.admitted request told admission)) proxy same
    refine
      { trajectory := quiet.trajectory trajectory
        sound := fun other held => ?_ }
    cases held
    have admitted := trajectory.admitted (fun epoch => met epoch single)
    rw [← current] at admitted
    exact quiet.admitted admitted
  | unadmitted request answers refusal proxy same stale | refused _ refusal proxy same fresh =>
    exact
      { trajectory := (refuse_quiet same).trajectory trajectory
        sound := fun other held => by cases held }
  | prepared request answers admission job proxy underway sameEpoch same =>
    have quiet := @advance_quiet Message Tool Call state (some (.leasing job)) proxy same
    refine
      { trajectory := quiet.trajectory trajectory
        sound := fun other held => ?_ }
    cases held
    have admitted : Admitted answers.currentEpoch state := whole.sound _ underway
    rw [← sameEpoch] at admitted
    exact quiet.admitted admitted
  | leased job proxy underway same => exact whole.leased single underway same
  | controlled action => exact whole.control
  | finished job callId call result outcome underway found returned effect fresh =>
    exact whole.finished single underway found returned effect
  | failed job callId call refusal underway found ended =>
    exact
      { trajectory := (refuse_quiet (SameGuards.refl _)).trajectory trajectory
        sound := fun other held => by cases held }

theorem after_whole [BEq Message] (sessionId instanceId : String) (now : ℚ)
    (actions : List (Action Message Tool Call)) :
    Whole (after config format sessionId instanceId now actions) :=
  Runs.run_preserves (fun state action whole => move_whole single whole (step_move state action))
    (initial_whole single sessionId instanceId now) actions

end

end Runs

section Span

variable {config : ProxyConfig} {format : ChatFormat Message Tool Call}

def realResponseVersions (session : Session Message Tool) : List String :=
  (sessionResponseVersions session).filterMap (fun version => realTokenVersion (some version))

theorem mem_foldl_distinct {version : String} (versions seen : List String)
    (member : version ∈ seen ∨ version ∈ versions) :
    version ∈ versions.foldl
      (fun seen version => if version ∈ seen then seen else seen ++ [version]) seen := by
  induction versions generalizing seen with
  | nil =>
    rcases member with old | absent
    · exact old
    · cases absent
  | cons head rest ih =>
    rw [foldl_cons]
    apply ih
    rcases member with old | new
    · left
      split
      · exact old
      · exact mem_append_left _ old
    · rcases mem_cons.mp new with rfl | later
      · left
        split
        · assumption
        · exact mem_append_right _ (mem_singleton_self _)
      · exact .inr later

theorem card_realVersions_le (values : List String) :
    (values.filterMap (fun version => realTokenVersion (some version))).toFinset.card ≤
      (orderedRealVersions values).length := by
  refine Nat.le_trans (Finset.card_le_card ?_) (toFinset_card_le _)
  intro version member
  rw [mem_toFinset] at member ⊢
  exact mem_foldl_distinct _ [] (.inr member)

def SpanWithin (config : ProxyConfig) (state : State Message Tool Call) : Prop :=
  ∀ limit, config.maxPartialRolloutPreempts = some limit →
    (orderedRealVersions (sessionResponseVersions state.proxy.session)).length ≤ limit + 1

theorem SpanWithin.of_steps {before after : State Message Tool Call}
    (within : SpanWithin config before)
    (steps : after.proxy.session.steps = before.proxy.session.steps) : SpanWithin config after := by
  intro limit set
  unfold sessionResponseVersions
  rw [steps]
  exact within limit set

theorem move_span {state after : State Message Tool Call} {action : Action Message Tool Call}
    (mixed : config.partialRollout = true) (within : SpanWithin config state)
    (move : Move config state action after) : SpanWithin config after := by
  cases move with
  | idle => exact within
  | admitted request answers told admission proxy current same met
  | prepared request answers admission job proxy underway sameEpoch same =>
    exact within.of_steps same.steps
  | unadmitted request answers refusal proxy same stale | refused _ refusal proxy same fresh
  | leased job proxy underway same => exact within.of_steps same.steps
  | controlled action => exact within.of_steps rfl
  | finished job callId call result outcome underway found returned effect fresh =>
    cases effect with
    | unaccepted same =>
      apply within.of_steps
      rw [conclude_proxy, same.steps]
    | stamped steps carried =>
      apply within.of_steps
      rw [conclude_proxy, steps]
    | recorded step passed steps carried responseVersions _ _ =>
      intro limit set
      rw [conclude_proxy, sessionResponseVersions, steps, flatMap_append,
        flatMap_singleton, responseVersions]
      split
      · rw [append_nil]
        exact within limit set
      · rename_i fits
        exact passed.span limit set mixed (Bool.eq_false_iff.mpr fits)
  | failed job callId call refusal underway found ended => exact within.of_steps rfl

theorem after_span [BEq Message] (mixed : config.partialRollout = true)
    (sessionId instanceId : String) (now : ℚ) (actions : List (Action Message Tool Call)) :
    SpanWithin config (after config format sessionId instanceId now actions) := by
  refine Runs.run_preserves
    (fun state action within => move_span mixed within (step_move state action)) ?_ actions
  intro limit _
  exact Nat.zero_le _

end Span

theorem recorded_versions_safe [BEq Message] (config : ProxyConfig)
    (format : ChatFormat Message Tool Call) (sessionId instanceId : String) (now : ℚ)
    (actions : List (Action Message Tool Call)) :
    let state := after config format sessionId instanceId now actions
    (config.partialRollout = false →
      state.journal.stepCalls.length = state.proxy.session.steps.length ∧
      (∃ epoch, ∀ callId ∈ state.journal.stepCalls, state.journal.epochsOf callId = [epoch]) ∧
      (sessionRealVersions state.proxy.session).toFinset.card ≤ 1) ∧
    (config.partialRollout = true → ∀ limit, config.maxPartialRolloutPreempts = some limit →
      (realResponseVersions state.proxy.session).toFinset.card ≤ limit + 1) := by
  intro state
  constructor
  · intro single
    have trajectory : Trajectory state :=
      (after_whole single sessionId instanceId now actions).trajectory
    obtain ⟨epoch, _, epochs, _⟩ := trajectory.epoch
    refine ⟨trajectory.recorded, ⟨epoch, epochs⟩, ?_⟩
    rw [Finset.card_le_one]
    intro version member other otherMember
    rw [mem_toFinset] at member otherMember
    exact trajectory.versions version member other otherMember
  · intro mixed limit set
    have within : SpanWithin config state := after_span mixed sessionId instanceId now actions
    exact Nat.le_trans (card_realVersions_le _) (within limit set)

section Plain

open PlainFormat

def wholeConfig : ProxyConfig := { PlainFormat.config with partialRollout := false }

def turn (callId : Nat) (messages : List PlainMessage) (reply version : String)
    (told : Answers String) : List (Action PlainMessage String String) :=
  [.arrive (PlainFormat.request messages) told,
    .prepare,
    .lease,
    .control (.proceed callId),
    .control (.register callId),
    .control (.respond callId (PlainFormat.response (reply ++ "#") version)),
    .control (.leave callId),
    .finish]

def spoken (reply : String) : Answers String := PlainFormat.answers [] reply []

def twoTurns : List (Action PlainMessage String String) :=
  turn 0 [⟨"user", "hi"⟩] "yo" "v1" (spoken "yo") ++
    turn 1 [⟨"user", "hi"⟩, ⟨"assistant", "yo"⟩, ⟨"user", "ok"⟩] "k" "v1" (spoken "k")

theorem twoTurns_versions_safe :
    (after wholeConfig PlainFormat.format "session" "instance" 0 twoTurns).journal.stepEpochs =
        [0, 0] ∧
      (sessionRealVersions (after wholeConfig PlainFormat.format "session" "instance" 0
        twoTurns).proxy.session).toFinset.card ≤ 1 :=
  ⟨by decide +kernel,
    ((recorded_versions_safe wholeConfig PlainFormat.format "session" "instance" 0 twoTurns).1
      rfl).2.2⟩

end Plain

end Dressage.Proxy.RolloutEpochs

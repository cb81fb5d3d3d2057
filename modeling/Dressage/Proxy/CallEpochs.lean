/-
The epochs of one call when rollouts are not partial.

Without partial rollout a call registers one request and takes one response, so
it has one epoch and its tokens have one version. A call that expects an epoch
registers in that epoch or is refused as stale.
-/

import Dressage.Proxy.EpochStages

namespace Dressage.Proxy.RolloutEpochs

open Lib Generation GenerationController

variable {Message Tool Call : Type}

def OneVersion (versions : List String) : Prop :=
  ∃ count version, versions = List.replicate count version

theorem OneVersion.eq_resultVersion {result : PreemptibleGenerateResult}
    (one : OneVersion result.outputVersions) {version : String}
    (member : version ∈ result.outputVersions) : version = resultVersion result := by
  obtain ⟨count, only, versions⟩ := one
  rw [versions] at member
  obtain ⟨positive, same⟩ := List.mem_replicate.mp member
  have last : result.outputVersions.getLast? = some only := by
    rw [versions, List.getLast?_replicate, if_neg positive]
  unfold resultVersion
  rw [last, same]

theorem OneVersion.accepted {config : ProxyConfig} {result : PreemptibleGenerateResult}
    (one : OneVersion result.outputVersions) {version : String}
    (member : version ∈ (acceptedOf config result).responseVersions) :
    version = resultVersion result := by
  unfold acceptedOf at member
  dsimp only at member
  split at member
  · exact one.eq_resultVersion member
  · exact (List.mem_replicate.mp member).2

structure RanIn (floor current epoch : Nat) (epochs : List Nat) (call : GenerationController.Call) :
    Prop where
  registered : epochs = [epoch]
  since : floor ≤ epoch
  passed : epoch ≤ current
  expected : ∀ other, call.request.expectedEpoch = some other → other = epoch
  stamped : call.progress.rolloutEpoch = some epoch

/-- A call that entered in the epoch `floor`, seen in the epoch `current`. -/
inductive CallEpochs (floor current : Nat) (epochs : List Nat) (call : GenerationController.Call) :
    Prop
  | waiting (waiting : call.pc = .waitingResume ∨ call.pc = .waitingLock)
    (unregistered : epochs = []) (fresh : call.progress = Progress.initial call.request)
  | generating (requestId epoch : Nat) (generating : call.pc = .generating requestId)
    (ran : RanIn floor current epoch epochs call) (empty : call.progress.outputVersions = [])
  | leaving (requestId epoch : Nat) (exit : Exit) (leaving : call.pc = .leaving requestId exit)
    (ran : RanIn floor current epoch epochs call) (one : OneVersion call.progress.outputVersions)
    (other : ∀ expected seen, exit ≠ .raises (.staleEpoch expected seen))
  | returned (epoch : Nat) (result : PreemptibleGenerateResult) (returned : call.pc = .returned result)
    (ran : RanIn floor current epoch epochs call) (stamped : result.rolloutEpoch = some epoch)
    (one : OneVersion result.outputVersions)
  | raised (error : GenerateError) (raised : call.pc = .raised error)
    (stale : ∀ expected seen, error = .staleEpoch expected seen →
      call.request.expectedEpoch = some expected ∧ expected ≠ seen ∧ floor ≤ seen ∧ seen ≤ current)
  | cancelled (cancelled : call.pc = .cancelled)

variable {call : GenerationController.Call} {floor : Nat} {epochs : List Nat} {request : Request}
variable {progress : Progress} {preempted : Bool}

theorem RanIn.later {current epoch : Nat} (ran : RanIn floor current epoch epochs call)
    {later : Nat} (onward : current ≤ later) : RanIn floor later epoch epochs call :=
  { ran with passed := Nat.le_trans ran.passed onward }

theorem CallEpochs.later {current : Nat} (known : CallEpochs floor current epochs call)
    {later : Nat} (onward : current ≤ later) : CallEpochs floor later epochs call := by
  cases known with
  | waiting waiting unregistered fresh => exact .waiting waiting unregistered fresh
  | generating requestId epoch generating ran empty =>
    exact .generating requestId epoch generating (ran.later onward) empty
  | leaving requestId epoch exit leaving ran one other =>
    exact .leaving requestId epoch exit leaving (ran.later onward) one other
  | returned epoch result returned ran stamped one =>
    exact .returned epoch result returned (ran.later onward) stamped one
  | raised error raised stale =>
    refine .raised error raised (fun expected seen same => ?_)
    obtain ⟨asked, different, since, passed⟩ := stale expected seen same
    exact ⟨asked, different, since, Nat.le_trans passed onward⟩
  | cancelled cancelled => exact .cancelled cancelled

variable {controller : Controller}

theorem gateError_stale {expected seen : Nat}
    (refused : controller.gateError request = some (.staleEpoch expected seen)) :
    request.expectedEpoch = some expected ∧ expected ≠ seen ∧ seen = controller.rolloutEpoch := by
  unfold Controller.gateError at refused
  split at refused
  · cases refused
  split at refused
  · cases refused
  split at refused
  · cases refused
  · rename_i other asked different
    cases refused
    exact ⟨asked, fun same => different same.symm, rfl⟩

theorem gateError_met {expected : Nat} (admitted : controller.gateError request = none)
    (asked : request.expectedEpoch = some expected) : expected = controller.rolloutEpoch := by
  unfold Controller.gateError at admitted
  rw [asked] at admitted
  split at admitted
  · cases admitted
  · dsimp only at admitted
    split at admitted
    · rename_i same
      exact same.symm
    · cases admitted

theorem absorb_oneVersion {response : SGLangResponse} (empty : progress.outputVersions = []) :
    OneVersion (absorb request response preempted progress).outputVersions := by
  unfold absorb
  rw [empty, List.nil_append]
  exact ⟨_, _, rfl⟩

theorem afterChunk_breaks {partialRollout : Bool} {after : Progress}
    (breaks : afterChunk partialRollout request progress preempted = .breaks after) :
    after.outputVersions = progress.outputVersions ∧
      after.rolloutEpoch = progress.rolloutEpoch := by
  unfold afterChunk at breaks
  split at breaks
  · cases breaks
  split at breaks
  · cases breaks
    exact ⟨rfl, rfl⟩
  split at breaks
  · cases breaks
  · cases breaks
    exact ⟨rfl, rfl⟩

theorem afterChunk_whole {after : Progress} :
    afterChunk false request progress preempted ≠ .suspends after := by
  intro suspends
  unfold afterChunk at suspends
  split at suspends
  · cases suspends
  · rename_i unbroken
    split at suspends
    · cases suspends
    split at suspends
    · rename_i preempting
      exact unbroken ⟨preempting, by simp⟩
    · cases suspends

section Readings

variable {floor current : Nat} {epochs : List Nat} {call : GenerationController.Call}

section

variable (known : CallEpochs floor current epochs call)
include known

theorem CallEpochs.unregistered (waiting : call.pc = .waitingResume ∨ call.pc = .waitingLock) :
    epochs = [] ∧ call.progress = Progress.initial call.request := by
  cases known with
  | waiting _ unregistered fresh => exact ⟨unregistered, fresh⟩
  | generating requestId epoch generating => simp [generating] at waiting
  | leaving requestId epoch exit leaving => simp [leaving] at waiting
  | returned epoch result returned => simp [returned] at waiting
  | raised error raised => simp [raised] at waiting
  | cancelled cancelled => simp [cancelled] at waiting

theorem CallEpochs.ran_of_generating {requestId : Nat}
    (generating : call.pc = .generating requestId) :
    ∃ epoch, RanIn floor current epoch epochs call ∧ call.progress.outputVersions = [] := by
  cases known with
  | waiting waiting => simp [generating] at waiting
  | generating _ epoch _ ran empty => exact ⟨epoch, ran, empty⟩
  | leaving _ epoch exit leaving => simp [generating] at leaving
  | returned epoch result returned => simp [generating] at returned
  | raised error raised => simp [generating] at raised
  | cancelled cancelled => simp [generating] at cancelled

theorem CallEpochs.ran_of_leaving {requestId : Nat} {exit : Exit}
    (leaving : call.pc = .leaving requestId exit) :
    ∃ epoch, RanIn floor current epoch epochs call ∧ OneVersion call.progress.outputVersions ∧
      ∀ expected seen, exit ≠ .raises (.staleEpoch expected seen) := by
  cases known with
  | waiting waiting => simp [leaving] at waiting
  | generating _ epoch generating => simp [leaving] at generating
  | leaving _ epoch other same ran one unstale =>
    rw [leaving] at same
    cases same
    exact ⟨epoch, ran, one, unstale⟩
  | returned epoch result returned => simp [leaving] at returned
  | raised error raised => simp [leaving] at raised
  | cancelled cancelled => simp [leaving] at cancelled

theorem CallEpochs.ran_of_returned {result : PreemptibleGenerateResult}
    (returned : call.pc = .returned result) :
    ∃ epoch, RanIn floor current epoch epochs call ∧ result.rolloutEpoch = some epoch ∧
      OneVersion result.outputVersions := by
  cases known with
  | waiting waiting => simp [returned] at waiting
  | generating requestId epoch generating => simp [returned] at generating
  | leaving requestId epoch exit leaving => simp [returned] at leaving
  | returned epoch other same ran stamped one =>
    rw [returned] at same
    cases same
    exact ⟨epoch, ran, stamped, one⟩
  | raised error raised => simp [returned] at raised
  | cancelled cancelled => simp [returned] at cancelled

theorem CallEpochs.stale_of_raised {expected seen : Nat}
    (raised : call.pc = .raised (.staleEpoch expected seen)) :
    call.request.expectedEpoch = some expected ∧ expected ≠ seen ∧ floor ≤ seen ∧
      seen ≤ current := by
  cases known with
  | waiting waiting => simp [raised] at waiting
  | generating requestId epoch generating => simp [raised] at generating
  | leaving requestId epoch exit leaving => simp [raised] at leaving
  | returned epoch result returned => simp [raised] at returned
  | raised error same stale =>
    rw [raised] at same
    cases same
    exact stale expected seen rfl
  | cancelled cancelled => simp [raised] at cancelled

theorem CallEpochs.not_suspended (suspended : call.pc = .suspended) : False := by
  cases known with
  | waiting waiting => simp [suspended] at waiting
  | generating requestId epoch generating => simp [suspended] at generating
  | leaving requestId epoch exit leaving => simp [suspended] at leaving
  | returned epoch result returned => simp [suspended] at returned
  | raised error raised => simp [suspended] at raised
  | cancelled cancelled => simp [suspended] at cancelled

end

end Readings

theorem CallEpochs.move {before after : GenerationController.Call}
    (whole : controller.partialRollout = false) (since : floor ≤ controller.rolloutEpoch)
    (known : CallEpochs floor controller.rolloutEpoch epochs before)
    (move : CallMove controller before after) :
    CallEpochs floor controller.rolloutEpoch epochs after := by
  cases move with
  | gated error refused waiting =>
    refine .raised error rfl (fun expected seen same => ?_)
    rw [same] at refused
    obtain ⟨asked, different, now⟩ := gateError_stale refused
    exact ⟨asked, different, now ▸ since, Nat.le_of_eq now⟩
  | proceeds waiting =>
    obtain ⟨unregistered, fresh⟩ := known.unregistered (.inl waiting)
    exact .waiting (.inr rfl) unregistered fresh
  | sentBack waiting =>
    obtain ⟨unregistered, fresh⟩ := known.unregistered (.inr waiting)
    exact .waiting (.inl rfl) unregistered fresh
  | fails requestId error generating other =>
    obtain ⟨epoch, ran, empty⟩ := known.ran_of_generating generating
    refine .leaving requestId epoch (.raises error) rfl
      { ran with } ⟨0, "", empty⟩ (fun expected seen same => ?_)
    cases same
    exact other expected seen rfl
  | absorbs requestId response preempted generating =>
    obtain ⟨epoch, ran, empty⟩ := known.ran_of_generating generating
    refine .leaving requestId epoch (.chunk preempted) rfl
      { ran with } (absorb_oneVersion empty) (fun expected seen same => ?_)
    cases same
  | raises requestId error leaving =>
    obtain ⟨epoch, ran, one, other⟩ := known.ran_of_leaving leaving
    refine .raised error rfl (fun expected seen same => ?_)
    rw [same] at other
    exact absurd rfl (other expected seen)
  | preempted requestId leaving =>
    refine .raised .generationPreempted rfl (fun expected seen same => ?_)
    cases same
  | returns requestId preempted progress leaving breaks =>
    obtain ⟨epoch, ran, one, other⟩ := known.ran_of_leaving leaving
    obtain ⟨versions, stamp⟩ := afterChunk_breaks breaks
    have stamped : progress.rolloutEpoch = some epoch := stamp.trans ran.stamped
    refine .returned epoch _ rfl { ran with stamped := stamped } stamped ?_
    change OneVersion progress.outputVersions
    rw [versions]
    exact one
  | suspends requestId preempted progress leaving follows =>
    rw [whole] at follows
    exact absurd follows afterChunk_whole
  | wakes suspended | wakesToEnd suspended | wakesFull suspended =>
    exact (known.not_suspended suspended).elim
  | cancels live => exact .cancelled rfl

theorem CallEpochs.register (since : floor ≤ controller.rolloutEpoch)
    (known : CallEpochs floor controller.rolloutEpoch epochs call)
    (waiting : call.pc = .waitingLock) (admitted : controller.gateError call.request = none) :
    CallEpochs floor controller.rolloutEpoch (epochs ++ [controller.rolloutEpoch])
      (controller.registeredCall call) := by
  obtain ⟨unregistered, fresh⟩ := known.unregistered (.inr waiting)
  refine .generating controller.nextRequestId controller.rolloutEpoch rfl ?_ ?_
  · exact
      { registered := by rw [unregistered, List.nil_append]
        since := since
        passed := Nat.le_refl _
        expected := fun other asked => gateError_met admitted asked
        stamped := by
          unfold Controller.registeredCall stampEpoch
          rw [fresh]
          rfl }
  · unfold Controller.registeredCall stampEpoch
    rw [fresh]
    rfl

theorem CallEpochs.entered (request : Request) (floor current : Nat) :
    CallEpochs floor current [] (controller.enteredCall request) := by
  cases down : controller.shuttingDown with
  | true =>
    refine .raised .proxyShuttingDown ?_ (fun expected seen same => ?_)
    · unfold Controller.enteredCall
      rw [down]
      rfl
    · cases same
  | false =>
    refine .waiting (.inl ?_) rfl rfl
    unfold Controller.enteredCall
    rw [down]
    rfl

end Dressage.Proxy.RolloutEpochs

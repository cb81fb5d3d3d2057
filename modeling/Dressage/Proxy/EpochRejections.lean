/-
When a request is refused as stale.

The session is stamped with the epoch of the first result it takes up, before the result is
recorded, and the stamp stays. When its first step is recorded in another epoch, the session is
refused from then on although all its steps are of the current one.
-/

import Dressage.Proxy.VersionSafety

namespace Dressage.Proxy.RolloutEpochs

open Lib Generation GenerationController

variable {Message Tool Call : Type}

/-- A stale refusal of a session with a step of another epoch than the controller's. -/
def Refused.justified (refused : Refused) : Prop :=
  staleRefusal refused.refusal = true → ∃ epoch ∈ refused.stepEpochs, epoch ≠ refused.currentEpoch

instance (refused : Refused) : Decidable refused.justified :=
  inferInstanceAs (Decidable (_ → _))

def State.takenUp (state : State Message Tool Call) :
    Action Message Tool Call → Option PreemptibleGenerateResult
  | .finish =>
    match state.underway with
    | some (.generating _ callId) =>
      match (state.controller.calls.get? callId).map GenerationController.Call.pc with
      | some (.returned result) => some result
      | _ => none
    | _ => none
  | _ => none

def stampMatches (state : State Message Tool Call) (action : Action Message Tool Call) : Prop :=
  ∀ result ∈ state.takenUp action, state.proxy.session.steps = [] →
    state.proxy.session.rolloutEpoch = none ∨ state.proxy.session.rolloutEpoch = result.rolloutEpoch

instance (state : State Message Tool Call) (action : Action Message Tool Call) :
    Decidable (stampMatches state action) :=
  inferInstanceAs (Decidable (∀ result ∈ state.takenUp action, _))

/-- The stamp is the epoch of the recorded steps, and the refusals so far are justified. -/
structure Honest (state : State Message Tool Call) : Prop where
  whole : Whole state
  stamp : ∀ callId ∈ state.journal.stepCalls, ∀ epoch,
    state.journal.epochsOf callId = [epoch] → state.proxy.session.rolloutEpoch = some epoch
  justified : ∀ refused ∈ state.journal.refused, refused.justified

variable {config : ProxyConfig} {format : ChatFormat Message Tool Call}
  {state : State Message Tool Call}

theorem Trajectory.exists_stepCall (holds : Trajectory state)
    (filled : state.proxy.session.steps ≠ []) : ∃ callId, callId ∈ state.journal.stepCalls := by
  apply List.exists_mem_of_length_pos
  rw [holds.recorded]
  exact List.length_pos_iff.mpr filled

theorem mem_stepEpochs {callId epoch : Nat} (member : callId ∈ state.journal.stepCalls)
    (epochs : state.journal.epochsOf callId = [epoch]) : epoch ∈ state.journal.stepEpochs := by
  refine List.mem_flatMap.mpr ⟨callId, member, ?_⟩
  rw [epochs]
  exact List.mem_singleton_self epoch

theorem Quiet.stamp {before after : State Message Tool Call} (quiet : Quiet before after)
    (stamp : ∀ callId ∈ before.journal.stepCalls, ∀ epoch,
      before.journal.epochsOf callId = [epoch] → before.proxy.session.rolloutEpoch = some epoch) :
    ∀ callId ∈ after.journal.stepCalls, ∀ epoch,
      after.journal.epochsOf callId = [epoch] → after.proxy.session.rolloutEpoch = some epoch := by
  intro callId member epoch epochs
  rw [quiet.epochsOf] at epochs
  rw [quiet.guards.rolloutEpoch]
  exact stamp callId (quiet.stepCalls ▸ member) epoch epochs

theorem refuse_justified {refusal : Refusal} {proxy : ProxyState Message Tool}
    (justified : ∀ refused ∈ state.journal.refused, refused.justified)
    (reason : staleRefusal refusal = true →
      ∃ epoch ∈ state.journal.stepEpochs, epoch ≠ state.controller.rolloutEpoch) :
    ∀ refused ∈ (state.refuse refusal proxy).journal.refused, refused.justified := by
  intro refused member
  rcases List.mem_append.mp member with old | new
  · exact justified refused old
  · cases List.mem_singleton.mp new
    exact reason

theorem Honest.unadmitted (honest : Honest state) {epoch : Nat}
    (filled : state.proxy.session.steps ≠ [])
    (stamped : state.proxy.session.rolloutEpoch = some epoch)
    (passed : epoch ≠ state.controller.rolloutEpoch) :
    ∃ epoch ∈ state.journal.stepEpochs, epoch ≠ state.controller.rolloutEpoch := by
  obtain ⟨callId, member⟩ := honest.whole.trajectory.exists_stepCall filled
  obtain ⟨own, _, epochs, _⟩ := honest.whole.trajectory.epoch
  have same := honest.stamp callId member own (epochs callId member)
  rw [stamped] at same
  cases same
  exact ⟨epoch, mem_stepEpochs member (epochs callId member), passed⟩

theorem staleRefusal_generate {session : Session Message Tool} {instanceId : String}
    {requestError : Bool} {error : GenerateError}
    (stale : staleRefusal (generateRefusal session instanceId requestError error) = true) :
    ∃ expected seen, error = .staleEpoch expected seen := by
  cases error with
  | staleEpoch expected seen => exact ⟨expected, seen, rfl⟩
  | upstream message =>
    unfold generateRefusal at stale
    cases requestError <;> cases stale
  | proxyShuttingDown => cases stale
  | generationPreempted => cases stale
  | versionUnavailable => cases stale
  | versionMismatch expected observed => cases stale

theorem Whole.failed (whole : Whole state) {job : Job Message Tool Call} {callId : Nat}
    {call : GenerationController.Call} {refusal : Refusal}
    (underway : state.underway = some (.generating job callId))
    (found : state.controller.calls.get? callId = some call)
    (ended : FailedCall job state.proxy.session call.pc refusal)
    (stale : staleRefusal refusal = true) :
    ∃ epoch ∈ state.journal.stepEpochs, epoch ≠ state.controller.rolloutEpoch := by
  have generating : Generating job.answers.currentEpoch callId state := whole.sound _ underway
  obtain ⟨known, asked⟩ := generating.known call found
  generalize pc : call.pc = place at ended
  cases ended with
  | raised error =>
    obtain ⟨expected, seen, rfl⟩ := staleRefusal_generate stale
    obtain ⟨wanted, different, since, passed⟩ := known.stale_of_raised pc
    rw [wanted] at asked
    split at asked
    · rename_i filled
      cases asked
      obtain ⟨recorded, member⟩ := whole.trajectory.exists_stepCall filled
      refine ⟨_, mem_stepEpochs member (generating.admitted.epochs recorded member), ?_⟩
      omega
    · cases asked
  | raisedUnsettled error => cases stale
  | cancelled => cases stale

theorem conclude_refused (callId : Nat)
    (outcome : Except Refusal (Completion Call) × ProxyState Message Tool)
    (fresh : ∀ refusal, outcome.1 = .error refusal → staleRefusal refusal = false)
    (justified : ∀ refused ∈ state.journal.refused, refused.justified) :
    ∀ refused ∈ (state.conclude callId outcome).journal.refused, refused.justified := by
  have same : ∀ journal : EpochJournal, journal = (if outcome.2.session.steps.length =
      state.proxy.session.steps.length then state.journal
      else { state.journal with stepCalls := state.journal.stepCalls ++ [callId] }) →
        journal.refused = state.journal.refused := by
    rintro journal rfl
    split <;> rfl
  unfold State.conclude
  dsimp only
  split
  · intro refused member
    dsimp only at member
    rw [same _ rfl] at member
    exact justified refused member
  · rename_i refusal failed
    apply refuse_justified
    · intro refused member
      dsimp only at member
      rw [same _ rfl] at member
      exact justified refused member
    · intro stale
      rw [fresh refusal failed] at stale
      cases stale

theorem Honest.finished_stamp (honest : Honest state) {job : Job Message Tool Call} {callId : Nat}
    {call : GenerationController.Call} {result : PreemptibleGenerateResult}
    {outcome : Except Refusal (Completion Call) × ProxyState Message Tool}
    (underway : state.underway = some (.generating job callId))
    (found : state.controller.calls.get? callId = some call)
    (returned : call.pc = .returned result)
    (effect : Finished config result state.proxy.session outcome.2.session)
    (bare : state.proxy.session.steps = [] → state.proxy.session.rolloutEpoch = none ∨
      state.proxy.session.rolloutEpoch = result.rolloutEpoch) :
    ∀ other ∈ (state.conclude callId outcome).journal.stepCalls, ∀ epoch,
      (state.conclude callId outcome).journal.epochsOf other = [epoch] →
        (state.conclude callId outcome).proxy.session.rolloutEpoch = some epoch := by
  have trajectory := honest.whole.trajectory
  have generating : Generating job.answers.currentEpoch callId state :=
    honest.whole.sound _ underway
  obtain ⟨epoch, ran, stamped, _⟩ := (generating.known call found).1.ran_of_returned returned
  -- A session with steps keeps its stamp.
  have kept : ∀ other ∈ state.journal.stepCalls, ∀ own, state.journal.epochsOf other = [own] →
      (stampRolloutEpoch result state.proxy.session).rolloutEpoch = some own := by
    intro other member own epochs
    unfold stampRolloutEpoch
    rw [honest.stamp other member own epochs]
  intro other member own epochs
  rw [conclude_epochsOf] at epochs
  rw [conclude_stepCalls] at member
  rw [conclude_proxy]
  cases effect with
  | unaccepted same =>
    rw [if_pos (by rw [same.steps])] at member
    rw [same.rolloutEpoch]
    exact honest.stamp other member own epochs
  | stamped steps carried =>
    rw [if_pos (by rw [steps])] at member
    rw [carried]
    exact kept other member own epochs
  | recorded step passed steps carried responseVersions responseVersion requestVersion =>
    rw [carried]
    split at member
    · exact kept other member own epochs
    rcases List.mem_append.mp member with old | new
    · exact kept other old own epochs
    · cases List.mem_singleton.mp new
      have same : epoch = own := by
        rw [ran.registered] at epochs
        exact List.head_eq_of_cons_eq epochs
      subst same
      by_cases empty : state.proxy.session.steps = []
      · unfold stampRolloutEpoch
        rcases bare empty with none_ | same
        · rw [none_]
          exact stamped
        · rw [same, stamped]
      · obtain ⟨recorded, among⟩ := trajectory.exists_stepCall empty
        have asked := (generating.known call found).2
        rw [if_pos empty] at asked
        have floor := ran.expected _ asked
        have before := generating.admitted.epochs recorded among
        rw [floor] at before
        exact kept recorded among epoch before

theorem initial_honest (single : config.partialRollout = false) (sessionId instanceId : String)
    (now : ℚ) :
    Honest (State.initial config sessionId instanceId now : State Message Tool Call) :=
  { whole := initial_whole single sessionId instanceId now
    stamp := fun callId member => by cases member
    justified := fun refused member => by cases member }

theorem Honest.control (honest : Honest state) (action : GenerationController.Action) :
    Honest (state.control action) := by
  refine
    { whole := honest.whole.control
      stamp := ?_
      justified := honest.justified }
  intro callId member epoch epochs
  rw [epochsOf_recorded honest.whole.trajectory.journaled member] at epochs
  exact honest.stamp callId member epoch epochs

theorem move_honest {after : State Message Tool Call} {action : Action Message Tool Call}
    (single : config.partialRollout = false) (honest : Honest state)
    (stamped : stampMatches state action) (move : Move config state action after) :
    Honest after := by
  have whole := move_whole single honest.whole move
  cases move with
  | idle => exact honest
  | admitted request answers told admission proxy current same met
  | prepared request answers admission job proxy underway sameEpoch same =>
    exact
      { whole := whole
        stamp := (advance_quiet same).stamp honest.stamp
        justified := honest.justified }
  | unadmitted request answers refusal proxy same stale =>
    refine
      { whole := whole
        stamp := (refuse_quiet same).stamp honest.stamp
        justified := refuse_justified honest.justified (fun isStale => ?_) }
    obtain ⟨_, filled, epoch, carried, passed⟩ := stale isStale
    exact honest.unadmitted filled carried passed
  | refused _ refusal proxy same fresh =>
    refine
      { whole := whole
        stamp := (refuse_quiet same).stamp honest.stamp
        justified := refuse_justified honest.justified (fun isStale => ?_) }
    rw [fresh] at isStale
    cases isStale
  | leased job proxy underway same =>
    exact
      { whole := whole
        stamp := by
          intro callId member epoch epochs
          exact same.rolloutEpoch.trans (honest.stamp callId member epoch epochs)
        justified := honest.justified }
  | controlled action => exact honest.control action
  | finished job callId call result outcome underway found returned effect fresh =>
    have takenUp : state.takenUp .finish = some result := by
      unfold State.takenUp
      rw [underway]
      dsimp only
      rw [found, Option.map_some, returned]
    exact
      { whole := whole
        stamp := honest.finished_stamp underway found returned effect (stamped result takenUp)
        justified := conclude_refused callId outcome fresh honest.justified }
  | failed job callId call refusal underway found ended =>
    exact
      { whole := whole
        stamp := (refuse_quiet (SameGuards.refl _)).stamp honest.stamp
        justified := refuse_justified honest.justified (honest.whole.failed underway found ended) }

theorem stale_refusals_justified [BEq Message] (config : ProxyConfig)
    (format : ChatFormat Message Tool Call) (single : config.partialRollout = false)
    (sessionId instanceId : String) (now : ℚ) (actions : List (Action Message Tool Call))
    (stamped : Runs.Admits (State.step config format) stampMatches
      (State.initial config sessionId instanceId now) actions) :
    ∀ refused ∈ (after config format sessionId instanceId now actions).journal.refused,
      staleRefusal refused.refusal = true →
        ∃ epoch ∈ refused.stepEpochs, epoch ≠ refused.currentEpoch := by
  have honest : Honest (after config format sessionId instanceId now actions) :=
    Runs.run_invariant
      (fun state action held admitted => move_honest single held admitted (step_move state action))
      (initial_honest single sessionId instanceId now) stamped
  exact honest.justified

section Plain

open PlainFormat

def queueConfig : ProxyConfig :=
  { wholeConfig with
    transferQueue := some
      { storeId := "store"
        logprobs := true } }

def hi : List PlainMessage := [⟨"user", "hi"⟩]

def hiAgain : List PlainMessage := [⟨"user", "hi"⟩, ⟨"assistant", "yo"⟩, ⟨"user", "ok"⟩]

def newEpoch : List (Action PlainMessage String String) :=
  [.control (.pause none none), .control (.resumeBegin none), .control (.resumeEnd true)]

def unstored : List (Action PlainMessage String String) :=
  turn 0 hi "yo" "v1" { spoken "yo" with put := .failed "TransferQueue is down" false }

def retried : List (Action PlainMessage String String) :=
  unstored ++ newEpoch ++ turn 1 hi "yo" "v1" (spoken "yo") ++
    [.arrive (PlainFormat.request hiAgain) (spoken "k")]

/-- The first request is recorded, and the one after it comes an epoch too late. -/
def overtaken : List (Action PlainMessage String String) :=
  turn 0 hi "yo" "v1" (spoken "yo") ++ newEpoch ++
    [.arrive (PlainFormat.request hiAgain) (spoken "k")]

theorem retried_session_refused :
    queueConfig.partialRollout = false ∧
      ¬ ∀ refused ∈ (after queueConfig PlainFormat.format "session" "instance" 0
          retried).journal.refused,
        staleRefusal refused.refusal = true →
          ∃ epoch ∈ refused.stepEpochs, epoch ≠ refused.currentEpoch := by
  decide +kernel

theorem overtaken_refusal_justified :
    (∃ refused ∈ (after wholeConfig PlainFormat.format "session" "instance" 0
        overtaken).journal.refused, staleRefusal refused.refusal = true) ∧
      ∀ refused ∈ (after wholeConfig PlainFormat.format "session" "instance" 0
          overtaken).journal.refused,
        staleRefusal refused.refusal = true →
          ∃ epoch ∈ refused.stepEpochs, epoch ≠ refused.currentEpoch :=
  ⟨by decide +kernel,
    stale_refusals_justified wholeConfig PlainFormat.format rfl "session" "instance" 0 overtaken
      (by decide +kernel)⟩

end Plain

end Dressage.Proxy.RolloutEpochs

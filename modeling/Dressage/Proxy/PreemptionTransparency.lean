/-
Transparency of preemption.

The engine is deterministic: a request is answered by the continuation of its ids, cut short
only by an abort. The controller trusts the abort call's success over the response, so a
response that had already finished is stitched wrongly.
-/

import Dressage.Lib.Continuation
import Dressage.Proxy.GenerationController

namespace Dressage.GenerationController

open Lib Generation Transport List OrderedDict Controller

abbrev Engine := Generator Nat Logprob

def uninterrupted (engine : Engine) (request : Request) : List (Nat × Logprob) :=
  engine.continuation request.maxNewTokens.toNat request.inputIds

def naturalFinish (engine : Engine) (output : List (Nat × Logprob)) : String :=
  if engine.stopped output then "stop" else "length"

def budgetLeft (request : Request) (progress : Progress) : Nat :=
  (request.maxNewTokens - progress.outputIds.length).toNat

def contextOf (request : Request) (progress : Progress) : List Nat :=
  request.inputIds ++ progress.outputIds

def Carries (response : SGLangResponse) (output : List (Nat × Logprob)) : Prop :=
  response.outputIds = output.map Prod.fst ∧ response.outputTokenLogprobs = output.map Prod.snd

/-- An engine answers with the whole continuation and its own finish reason, whether or
not an abort came too late, or with a part of it and an abort finish reason. -/
inductive Answers (engine : Engine) (request : Request) (progress : Progress)
    (response : SGLangResponse) : Prop
  | finished (output : List (Nat × Logprob)) (carries : Carries response output)
    (whole : output =
      engine.continuation (budgetLeft request progress) (contextOf request progress))
    (reason : response.finishReason = naturalFinish engine output)
    (metaReason : response.metaFinishReason = some (naturalFinish engine output))
  | aborted (output : List (Nat × Logprob)) (carries : Carries response output)
    (cut : output <+:
      engine.continuation (budgetLeft request progress) (contextOf request progress))
    (reason : Text.lower response.finishReason ∈ preemptFinishReasons)

/-- A partial-rollout request: no epoch fence, and a budget inside the context window. -/
structure Unfenced (request : Request) : Prop where
  noEpoch : request.expectedEpoch = none
  fits : ∀ window, request.contextWindow = some window →
    request.inputIds.length + request.maxNewTokens.toNat ≤ window

/-- Any schedule without shutdown, over an engine that answers as above. -/
def Scenario (engine : Engine) (controller : Controller) (action : Action) : Prop :=
  match action with
  | .call request => Unfenced request
  | .respond callId response => ∀ call requestId,
    controller.calls.get? callId = some call → call.pc = .generating requestId →
      Answers engine call.request call.progress response
  | .shutdown => False
  | _ => True

def stopsIn (engine : Engine) (response : SGLangResponse) : Bool :=
  response.outputIds.any engine.isStop

def Exhausts (call : Call) (response : SGLangResponse) : Prop :=
  0 < call.request.maxNewTokens ∧
    ((call.progress.outputIds.length + response.outputIds.length : Nat) : Int) =
      call.request.maxNewTokens

/-- A chunk taken for preempted has not met the stop token before the end of the budget,
and does not end the budget under an abort finish reason. -/
def ReallyCut (engine : Engine) (call : Call) (response : SGLangResponse) : Prop :=
  (stopsIn engine response = true → Exhausts call response) ∧
    (Exhausts call response → stopsIn engine response = false → response.finishReason = "length")

/-- The condition on a step: preempted chunks are really cut, an engine call raises only
after its abort succeeded, and pinned versions are served. -/
def TrulyPreempted (engine : Engine) (controller : Controller) (action : Action) : Prop :=
  match action with
  | .respond callId response => ∀ call requestId,
    controller.calls.get? callId = some call → call.pc = .generating requestId →
      versionError call.request response = none ∧
      ((controller.abortSucceeded requestId || isPreempted response) = true →
        ReallyCut engine call response)
  | .fail callId _ => ∀ call requestId,
    controller.calls.get? callId = some call → call.pc = .generating requestId →
      controller.abortSucceeded requestId = true ∧ call.request.expectedVersion = none
  | _ => True

def Seamless (engine : Engine) (call : Call) : Prop :=
  (∀ error, call.pc ≠ .raised error) ∧
  ∀ result, call.pc = .returned result →
    result.outputIds = (uninterrupted engine call.request).map Prod.fst ∧
    result.outputTokenLogprobs = (uninterrupted engine call.request).map Prod.snd ∧
    publicFinishReason result = naturalFinish engine (uninterrupted engine call.request)

def Tracks (progress : Progress) (output : List (Nat × Logprob)) : Prop :=
  progress.outputIds = output.map Prod.fst ∧ progress.outputLogprobs = output.map Prod.snd

def Open (engine : Engine) (request : Request) (progress : Progress) : Prop :=
  wantsMore request progress = true ∧ ∃ output, Tracks progress output ∧
    output <+: uninterrupted engine request ∧ engine.stopped output = false

def Done (engine : Engine) (request : Request) (progress : Progress) : Prop :=
  Tracks progress (uninterrupted engine request) ∧ progress.contextOverflow = none ∧
    (progress.finishReason = "length" ↔ engine.stopped (uninterrupted engine request) = false)

def Fine (engine : Engine) (call : Call) : Prop :=
  match call.pc with
  | .waitingResume => Open engine call.request call.progress
  | .waitingLock => Open engine call.request call.progress
  | .generating _ => Open engine call.request call.progress
  | .leaving _ (.chunk true) => Open engine call.request call.progress ∨
    Done engine call.request call.progress ∧ wantsMore call.request call.progress = false
  | .leaving _ (.chunk false) => Done engine call.request call.progress
  | .leaving _ (.raises _) => False
  | .suspended => Open engine call.request call.progress ∨
    Done engine call.request call.progress ∧ wantsMore call.request call.progress = false
  | .returned result => ∃ progress, Done engine call.request progress ∧
    result = resultOf call.request progress
  | .raised _ => False
  | .cancelled => True

theorem Fine.seamless {engine : Engine} {call : Call} (fine : Fine engine call) :
    Seamless engine call := by
  constructor
  · intro error isRaised
    rw [Fine, isRaised] at fine
    exact fine
  · intro result isReturned
    simp only [Fine, isReturned] at fine
    obtain ⟨progress, ⟨⟨ids, logprobs⟩, noOverflow, reason⟩, rfl⟩ := fine
    refine ⟨ids, logprobs, ?_⟩
    unfold publicFinishReason naturalFinish
    change (if progress.contextOverflow.isSome = true ∨ progress.finishReason = "length"
      then "length" else "stop") = _
    simp only [noOverflow, reason, Option.isSome_none, Bool.false_eq_true, false_or]
    cases engine.stopped (uninterrupted engine call.request) with
    | true => rfl
    | false => rfl

section Chunk

variable {engine : Engine} {request : Request} {progress : Progress} {response : SGLangResponse}

variable {output chunk : List (Nat × Logprob)}

private theorem tracks_length (tracks : Tracks progress output) :
    progress.outputIds.length = output.length := by
  rw [tracks.1, length_map]

private theorem carries_length (carries : Carries response output) :
    response.outputIds.length = output.length := by
  rw [carries.1, length_map]

private theorem carries_stops (carries : Carries response output) :
    stopsIn engine response = engine.stopped output := by
  unfold stopsIn Generator.stopped
  rw [carries.1, any_map]
  rfl

private theorem absorb_tracks (tracks : Tracks progress output) (carries : Carries response chunk)
    (preempted : Bool) :
    Tracks (absorb request response preempted progress) (output ++ chunk) := by
  constructor
  · change progress.outputIds ++ response.outputIds = _
    rw [tracks.1, carries.1, map_append]
  · change progress.outputLogprobs ++ response.outputTokenLogprobs = _
    rw [tracks.2, carries.2, map_append]

private theorem rest_of_open (tracks : Tracks progress output)
    (cut : output <+: uninterrupted engine request) (unstopped : engine.stopped output = false) :
    uninterrupted engine request = output ++
      engine.continuation (budgetLeft request progress) (contextOf request progress) := by
  have split := engine.continuation_split cut unstopped
  have budget : request.maxNewTokens.toNat - output.length = budgetLeft request progress := by
    unfold budgetLeft
    rw [tracks_length tracks]
    omega
  unfold contextOf
  rw [tracks.1, ← budget]
  exact split

private theorem uninterrupted_length_le (engine : Engine) (request : Request) :
    (uninterrupted engine request).length ≤ request.maxNewTokens.toNat :=
  engine.continuation_length_le _ _

private theorem wantsMore_iff (request : Request) (progress : Progress) :
    wantsMore request progress = true ↔ request.maxNewTokens ≤ 0 ∨
      (progress.outputIds.length : Int) < request.maxNewTokens := by
  unfold wantsMore
  rw [Bool.or_eq_true, decide_eq_true_eq, decide_eq_true_eq]

private theorem abort_not_length
    (aborted : Text.lower response.finishReason ∈ preemptFinishReasons) :
    response.finishReason ≠ "length" := by
  intro same
  rw [same] at aborted
  revert aborted
  decide

private theorem natural_not_preempted (reason : response.finishReason = naturalFinish engine output)
    (metaReason : response.metaFinishReason = some (naturalFinish engine output)) :
    isPreempted response = false := by
  unfold isPreempted
  rw [reason, metaReason, naturalFinish]
  cases engine.stopped output with
  | true => decide
  | false => decide

private theorem done_of_finished (tracks : Tracks progress output)
    (unstopped : engine.stopped output = false)
    (whole : uninterrupted engine request = output ++ chunk) (carries : Carries response chunk)
    (reason : response.finishReason = "length" ↔ engine.stopped chunk = false) (preempted : Bool) :
    Done engine request (absorb request response preempted progress) := by
  refine ⟨?_, rfl, ?_⟩
  · rw [whole]
    exact absorb_tracks tracks carries preempted
  · change response.finishReason = "length" ↔ _
    rw [whole, engine.stopped_append, unstopped, Bool.false_or]
    exact reason

private theorem natural_reason (output : List (Nat × Logprob)) :
    naturalFinish engine output = "length" ↔ engine.stopped output = false := by
  unfold naturalFinish
  cases engine.stopped output with
  | true => decide
  | false => decide

private theorem finished_fine {call : Call} (open_ : Open engine call.request call.progress)
    (carries : Carries response chunk)
    (whole : chunk = engine.continuation (budgetLeft call.request call.progress)
      (contextOf call.request call.progress))
    (reason : response.finishReason = naturalFinish engine chunk) (preempted : Bool)
    (cut : preempted = true → ReallyCut engine call response) :
    Done engine call.request (absorb call.request response preempted call.progress) ∧
      (preempted = true →
        wantsMore call.request (absorb call.request response preempted call.progress) = false ∨
        Open engine call.request (absorb call.request response preempted call.progress)) := by
  obtain ⟨wants, output, tracks, isPrefix, unstopped⟩ := open_
  have rest := rest_of_open tracks isPrefix unstopped
  rw [← whole] at rest
  have done := done_of_finished tracks unstopped rest carries
    (by rw [reason]; exact natural_reason chunk) preempted
  refine ⟨done, ?_⟩
  intro isPreempted
  by_cases bounded : call.request.maxNewTokens ≤ 0
  · -- No budget at all: the continuation is empty and the loop may go round once more.
    right
    have empty : uninterrupted engine call.request = [] := by
      have bound := uninterrupted_length_le engine call.request
      exact eq_nil_of_length_eq_zero (by omega)
    refine ⟨(wantsMore_iff _ _).mpr (.inl bounded), _, done.1, prefix_refl _, ?_⟩
    rw [empty]
    rfl
  · left
    have total : (absorb call.request response preempted call.progress).outputIds.length =
      call.progress.outputIds.length + response.outputIds.length := length_append
    have exhausts : Exhausts call response := by
      cases stops : engine.stopped chunk with
      | true => exact (cut isPreempted).1 (by rw [carries_stops carries]; exact stops)
      | false =>
        have length : (uninterrupted engine call.request).length =
            call.request.maxNewTokens.toNat := by
          apply engine.continuation_length_eq
          change engine.stopped (uninterrupted engine call.request) = false
          rw [rest, engine.stopped_append, unstopped, stops]
          rfl
        rw [rest, length_append] at length
        refine ⟨by omega, ?_⟩
        rw [tracks_length tracks, carries_length carries]
        omega
    rw [← Bool.not_eq_true, wantsMore_iff, total]
    have sum := exhausts.2
    omega

private theorem aborted_fine {call : Call} (open_ : Open engine call.request call.progress)
    (carries : Carries response chunk)
    (isCut : chunk <+: engine.continuation (budgetLeft call.request call.progress)
      (contextOf call.request call.progress))
    (reason : Text.lower response.finishReason ∈ preemptFinishReasons)
    (cut : ReallyCut engine call response) (preempted : Bool) :
    Open engine call.request (absorb call.request response preempted call.progress) ∨
      Done engine call.request (absorb call.request response preempted call.progress) ∧
        wantsMore call.request (absorb call.request response preempted call.progress) = false := by
  obtain ⟨wants, output, tracks, isPrefix, unstopped⟩ := open_
  have rest := rest_of_open tracks isPrefix unstopped
  have total : (absorb call.request response preempted call.progress).outputIds.length =
    call.progress.outputIds.length + response.outputIds.length := length_append
  cases stops : engine.stopped chunk with
  | true =>
    right
    have whole := engine.eq_of_stopped isCut stops
    rw [← whole] at rest
    have exhausts := cut.1 (by rw [carries_stops carries]; exact stops)
    constructor
    · refine done_of_finished tracks unstopped rest carries ?_ preempted
      rw [stops]
      exact iff_of_false (abort_not_length reason) (by decide)
    · rw [← Bool.not_eq_true, wantsMore_iff, total]
      have sum := exhausts.2
      have positive := exhausts.1
      omega
  | false =>
    left
    have stillPrefix : output ++ chunk <+: uninterrupted engine call.request := by
      rw [rest]
      exact (prefix_append_right_inj output).mpr isCut
    have stillUnstopped : engine.stopped (output ++ chunk) = false := by
      rw [engine.stopped_append, unstopped, stops]
      rfl
    refine ⟨?_, output ++ chunk, absorb_tracks tracks carries preempted, stillPrefix,
      stillUnstopped⟩
    rw [wantsMore_iff, total]
    by_contra exhausted
    rw [not_or, Int.not_le, Int.not_lt] at exhausted
    -- The budget ends here without a stop, so the condition asks for a length finish.
    have bound := stillPrefix.length_le.trans (uninterrupted_length_le engine call.request)
    rw [length_append, ← tracks_length tracks, ← carries_length carries] at bound
    have exhausts : Exhausts call response := ⟨exhausted.1, by omega⟩
    exact abort_not_length reason (cut.2 exhausts (by rw [carries_stops carries]; exact stops))

end Chunk

/-- The invariant of a partial-rollout controller that is not shutting down. -/
structure Running (engine : Engine) (controller : Controller) : Prop where
  up : controller.shuttingDown = false
  resumable : controller.partialRollout = true
  calls : ∀ callId call, controller.calls.get? callId = some call →
    Unfenced call.request ∧ Fine engine call

section Steps

variable {engine : Engine} {controller : Controller}

section

variable (running : Running engine controller)

include running

theorem Running.congr {other : Controller}
    (shuttingDown : other.shuttingDown = controller.shuttingDown)
    (partialRollout : other.partialRollout = controller.partialRollout)
    (calls : other.calls = controller.calls) : Running engine other :=
  { up := shuttingDown.trans running.up
    resumable := partialRollout.trans running.resumable
    calls := by rw [calls]; exact running.calls }

theorem Running.setCall (callId : Nat) {call : Call} (fine : Fine engine call)
    (unfenced : Unfenced call.request) :
    Running engine (controller.setCall callId call) := by
  refine
    { running with
      calls := ?_ }
  intro other current found
  change (controller.calls.set callId call).get? other = some current at found
  rw [get?_set] at found
  split at found
  · cases found
    exact ⟨unfenced, fine⟩
  · exact running.calls other current found

theorem Running.modifyRequest (requestId : Nat) (change : ActiveGeneration → ActiveGeneration) :
    Running engine (controller.modifyRequest requestId change) := by
  obtain ⟨requests, same⟩ := modifyRequest_eq controller requestId change
  rw [same]
  exact running.congr rfl rfl rfl

private theorem gate_open {request : Request} (unfenced : Unfenced request) :
    controller.gateError request = none := by
  unfold gateError
  rw [running.up, unfenced.noEpoch]
  rfl

end

private theorem open_initial (engine : Engine) (request : Request) :
    Open engine request (Progress.initial request) := by
  refine ⟨?_, [], ⟨rfl, rfl⟩, nil_prefix, rfl⟩
  rw [wantsMore_iff]
  change request.maxNewTokens ≤ 0 ∨ (0 : Int) < request.maxNewTokens
  omega

variable {request : Request} {callId : Nat} {call : Call} {progress : Progress}

section

variable (running : Running engine controller)
include running

theorem enter_running (unfenced : Unfenced request) :
    Running engine (controller.enter request) := by
  have entered : Running engine (controller.setCall controller.nextCallId
      { request := request
        progress := Progress.initial request
        pc := .waitingResume }) :=
    running.setCall _ (open_initial engine request) unfenced
  refine entered.congr rfl rfl ?_
  unfold enter
  rw [running.up]
  rfl

theorem proceed_running (found : controller.calls.get? callId = some call)
    (waiting : call.pc = .waitingResume) :
    Running engine (controller.proceed callId call) := by
  obtain ⟨unfenced, fine⟩ := running.calls callId call found
  rw [Fine, waiting] at fine
  unfold proceed
  split
  · rw [gate_open running unfenced]
    exact running.setCall callId fine unfenced
  · exact running

theorem register_running (found : controller.calls.get? callId = some call)
    (waiting : call.pc = .waitingLock) :
    Running engine (controller.register callId call) := by
  obtain ⟨unfenced, fine⟩ := running.calls callId call found
  rw [Fine, waiting] at fine
  unfold register
  rw [gate_open running unfenced]
  simp only
  split
  · exact running.setCall callId fine unfenced
  · have registered : Running engine (controller.setCall callId
        { call with
          progress := stampEpoch call.progress controller.rolloutEpoch
          pc := .generating controller.nextRequestId }) :=
      running.setCall callId fine unfenced
    exact registered.congr rfl rfl rfl

end

variable {requestId : Nat}

theorem stitch_running (running : Running engine controller)
    (found : controller.calls.get? callId = some call) {response : SGLangResponse} {forced : Bool}
    (pinned : versionError call.request response = none)
    (fine : Fine engine
      { call with
        progress := absorb call.request response (forced || isPreempted response) call.progress
        pc := .leaving requestId (.chunk (forced || isPreempted response)) }) :
    Running engine (controller.stitch callId call requestId response forced) := by
  obtain ⟨unfenced, _⟩ := running.calls callId call found
  unfold stitch
  rw [pinned]
  have stitched : Running engine (controller.setCall callId
      { call with
        progress := absorb call.request response (forced || isPreempted response) call.progress
        pc := .leaving requestId (.chunk (forced || isPreempted response)) }) :=
    running.setCall callId fine unfenced
  exact stitched.congr rfl rfl rfl

theorem respond_running (running : Running engine controller)
    (found : controller.calls.get? callId = some call)
    (generating : call.pc = .generating requestId) {response : SGLangResponse}
    (answers : Answers engine call.request call.progress response)
    (pinned : versionError call.request response = none)
    (cut : (controller.abortSucceeded requestId || isPreempted response) = true →
      ReallyCut engine call response) :
    Running engine (controller.stitch callId call requestId response
      (controller.abortSucceeded requestId)) := by
  obtain ⟨_, fine⟩ := running.calls callId call found
  rw [Fine, generating] at fine
  apply stitch_running running found pinned
  cases answers with
  | finished chunk carries whole reason metaReason =>
    obtain ⟨done, again⟩ := finished_fine fine carries whole reason _ cut
    cases preempted : controller.abortSucceeded requestId || isPreempted response with
    | false =>
      rw [preempted] at done
      exact done
    | true =>
      rw [preempted] at done again
      rcases again rfl with exhausted | stillOpen
      · exact .inr ⟨done, exhausted⟩
      · exact .inl stillOpen
  | aborted chunk carries isCut reason =>
    have preempted : (controller.abortSucceeded requestId || isPreempted response) = true := by
      unfold isPreempted
      rw [decide_eq_true reason, Bool.true_or, Bool.or_true]
    have next := aborted_fine fine carries isCut reason (cut preempted) true
    rw [preempted]
    exact next

private theorem interrupted_open (open_ : Open engine request progress) :
    Open engine request (absorb request interruptedResponse true progress) := by
  obtain ⟨wants, output, tracks, isPrefix, unstopped⟩ := open_
  have same : (absorb request interruptedResponse true progress).outputIds = progress.outputIds :=
    append_nil _
  refine ⟨?_, output, ?_, isPrefix, unstopped⟩
  · rw [wantsMore_iff, same]
    exact (wantsMore_iff request progress).mp wants
  · have longer : Tracks (absorb request interruptedResponse true progress) (output ++ []) :=
      absorb_tracks tracks ⟨rfl, rfl⟩ true
    rwa [append_nil] at longer

theorem fail_running (running : Running engine controller)
    (found : controller.calls.get? callId = some call)
    (generating : call.pc = .generating requestId) (message : String)
    (aborted : controller.abortSucceeded requestId = true)
    (unpinned : call.request.expectedVersion = none) :
    Running engine (controller.engineRaises callId call requestId message) := by
  obtain ⟨_, fine⟩ := running.calls callId call found
  rw [Fine, generating] at fine
  have pinned : versionError call.request interruptedResponse = none := by
    unfold versionError
    rw [unpinned]
  unfold engineRaises
  rw [running.up, aborted, if_neg Bool.false_ne_true, if_pos rfl]
  exact stitch_running running found pinned (.inl (interrupted_open fine))

private theorem no_overflow (unfenced : Unfenced request)
    (within : progress.outputIds.length ≤ request.maxNewTokens.toNat) :
    overflowedWindow request progress = none := by
  unfold overflowedWindow
  cases known : request.contextWindow with
  | none => rfl
  | some window =>
    have fits := unfenced.fits window known
    have inside : ¬ window < request.inputIds.length + progress.outputIds.length := by omega
    simp only [if_neg inside]

private theorem open_within (open_ : Open engine request progress) :
    progress.outputIds.length ≤ request.maxNewTokens.toNat := by
  obtain ⟨_, output, tracks, isPrefix, _⟩ := open_
  rw [tracks_length tracks]
  exact isPrefix.length_le.trans (uninterrupted_length_le engine request)

private theorem done_within (done : Done engine request progress) :
    progress.outputIds.length ≤ request.maxNewTokens.toNat := by
  rw [tracks_length done.1]
  exact uninterrupted_length_le engine request

private theorem afterChunk_fine {preempted : Bool} (unfenced : Unfenced call.request)
    (fine : Fine engine call) (leaving : call.pc = .leaving requestId (.chunk preempted)) :
    afterChunk true call.request call.progress preempted =
      if preempted then .suspends call.progress else .breaks call.progress := by
  cases preempted with
  | false =>
    rw [Fine, leaving] at fine
    unfold afterChunk
    rw [no_overflow unfenced (done_within fine)]
    rfl
  | true =>
    rw [Fine, leaving] at fine
    have within : call.progress.outputIds.length ≤ call.request.maxNewTokens.toNat := by
      rcases fine with open_ | ⟨done, _⟩
      · exact open_within open_
      · exact done_within done
    unfold afterChunk
    rw [no_overflow unfenced within]
    rfl

section

variable (running : Running engine controller)

include running

variable {callId : Nat} {call : Call}

section

variable (found : controller.calls.get? callId = some call)
include found

theorem leave_running {exit : Exit} (leaving : call.pc = .leaving requestId exit) :
    Running engine (controller.leave callId call requestId exit) := by
  obtain ⟨unfenced, fine⟩ := running.calls callId call found
  have removed : Running engine (controller.remove requestId exit) := by
    obtain ⟨requests, active, same⟩ := remove_eq controller requestId exit
    rw [same]
    exact running.congr rfl rfl rfl
  unfold leave
  cases exit with
  | raises error =>
    rw [Fine, leaving] at fine
    exact fine.elim
  | chunk preempted =>
    cases preempted with
    | false =>
      have after := afterChunk_fine unfenced fine leaving
      rw [Fine, leaving] at fine
      rw [running.resumable]
      simp only [after]
      exact removed.setCall callId ⟨call.progress, fine, rfl⟩ unfenced
    | true =>
      have after := afterChunk_fine unfenced fine leaving
      rw [Fine, leaving] at fine
      rw [running.resumable]
      simp only [after]
      have suspended : Running engine ((controller.remove requestId (.chunk true)).setCall
          callId { call with pc := .suspended }) :=
        removed.setCall callId fine unfenced
      exact suspended.congr rfl rfl rfl

theorem wake_running (isSuspended : call.pc = .suspended) :
    Running engine (controller.wake callId call) := by
  obtain ⟨unfenced, fine⟩ := running.calls callId call found
  rw [Fine, isSuspended] at fine
  have counted : Running engine
      { controller with suspendedGenerations := controller.suspendedGenerations - 1 } :=
    running.congr rfl rfl rfl
  unfold wake
  split
  · simp only
    rw [if_neg (by rw [running.up]; exact Bool.false_ne_true)]
    rcases fine with open_ | ⟨done, exhausted⟩
    · rw [if_pos open_.1]
      have again : Fine engine { call with pc := .waitingResume } := open_
      exact counted.setCall callId again unfenced
    · rw [if_neg (by rw [exhausted]; exact Bool.false_ne_true)]
      have returned : Fine engine
          { call with pc := .returned (resultOf call.request call.progress) } :=
        ⟨call.progress, done, rfl⟩
      exact counted.setCall callId returned unfenced
  · exact running

theorem cancel_running : Running engine (controller.cancel callId call) := by
  obtain ⟨unfenced, _⟩ := running.calls callId call found
  have ended : Running engine (controller.setCall callId { call with pc := .cancelled }) :=
    running.setCall callId trivial unfenced
  unfold cancel
  split
  · exact ended.congr rfl rfl rfl
  · exact ended

end

theorem step_running (action : Action) (scenario : Scenario engine controller action)
    (truly : TrulyPreempted engine controller action) :
    Running engine (controller.step action) := by
  have effect := step_effect controller action
  generalize controller.step action = after at effect ⊢
  cases effect with
  | idle => exact running
  | enters request => exact enter_running running scenario
  | proceeds callId call found waiting => exact proceed_running running found waiting
  | registers callId call found waiting => exact register_running running found waiting
  | responds callId call requestId response found generating =>
    obtain ⟨pinned, cut⟩ := truly call requestId found generating
    exact respond_running running found generating (scenario call requestId found generating)
      pinned cut
  | fails callId call requestId message found generating =>
    obtain ⟨aborted, unpinned⟩ := truly call requestId found generating
    exact fail_running running found generating message aborted unpinned
  | leaves callId call requestId exit found leaving => exact leave_running running found leaving
  | wakes callId call found suspended => exact wake_running running found suspended
  | cancels callId call found live => exact cancel_running running found
  | pauses sessionId instanceId =>
    have marked : Running engine (controller.modifyAll
        (controller.selected sessionId instanceId) markPreempting) := by
      obtain ⟨requests, same⟩ := modifyAll_eq controller
        (controller.selected sessionId instanceId) markPreempting
      rw [same]
      exact running.congr rfl rfl rfl
    exact marked.congr rfl rfl rfl
  | abortSucceeded requestId => exact running.modifyRequest requestId (abortResult true)
  | abortFailed requestId => exact running.modifyRequest requestId (abortResult false)
  | controls _ after same => exact running.congr same.shuttingDown same.partialRollout same.calls
  | shutsDown => exact scenario.elim

end

end Steps

def Admissible (engine : Engine) (controller : Controller) (action : Action) : Prop :=
  Scenario engine controller action ∧ TrulyPreempted engine controller action

def Completes (engine : Engine) (controller : Controller) (callId : Nat) : Prop :=
  ∃ actions call result, Runs.Admits step (Admissible engine) controller actions ∧
    (Runs.run step controller actions).calls.get? callId = some call ∧
    call.pc = .returned result

structure Clear (controller : Controller) : Prop where
  lockFree : controller.lockHolder = none
  unpaused : controller.paused = false
  signalled : controller.resumeEvent = true

section Completion

variable {engine : Engine} {controller : Controller} {callId : Nat} {call : Call}

theorem Completes.after {action : Action} (admissible : Admissible engine controller action)
    (later : Completes engine (controller.step action) callId) :
    Completes engine controller callId := by
  obtain ⟨actions, final, result, admitted, found, returned⟩ := later
  exact ⟨action :: actions, final, result, ⟨admissible, admitted⟩, found, returned⟩

theorem completes_returned {result : PreemptibleGenerateResult}
    (found : controller.calls.get? callId = some call) (returned : call.pc = .returned result) :
    Completes engine controller callId :=
  ⟨[], call, result, trivial, found, returned⟩

private theorem found_setCall (controller : Controller) (callId : Nat) (call : Call) :
    (controller.setCall callId call).calls.get? callId = some call :=
  get?_set_self controller.calls callId call

def naturalResponse (engine : Engine) (request : Request) (progress : Progress) :
    SGLangResponse :=
  let output := engine.continuation (budgetLeft request progress) (contextOf request progress)
  { inputTokenLogprobsRaw := []
    inputTokenTexts := []
    outputIds := output.map Prod.fst
    outputTokenLogprobs := output.map Prod.snd
    outputTokenTexts := []
    text := ""
    metaFinishReason := some (naturalFinish engine output)
    weightVersion := request.expectedVersion
    finishReason := naturalFinish engine output
    inputLogprobsInvalid := false
    allLogprobsInvalid := false }

def emptyAborted (request : Request) : SGLangResponse :=
  { inputTokenLogprobsRaw := []
    inputTokenTexts := []
    outputIds := []
    outputTokenLogprobs := []
    outputTokenTexts := []
    text := ""
    metaFinishReason := some "abort"
    weightVersion := request.expectedVersion
    finishReason := "abort"
    inputLogprobsInvalid := false
    allLogprobsInvalid := false }

private theorem pinned_version {request : Request} {response : SGLangResponse}
    (served : response.weightVersion = request.expectedVersion) :
    versionError request response = none := by
  unfold versionError
  rw [served]
  cases request.expectedVersion with
  | none => rfl
  | some version => exact if_pos rfl

theorem Clear.congr {other : Controller} (clear : Clear controller)
    (lockHolder : other.lockHolder = controller.lockHolder)
    (paused : other.paused = controller.paused)
    (resumeEvent : other.resumeEvent = controller.resumeEvent) : Clear other :=
  { lockFree := lockHolder.trans clear.lockFree
    unpaused := paused.trans clear.unpaused
    signalled := resumeEvent.trans clear.signalled }

variable {requestId : Nat}

private theorem leave_step (running : Running engine controller) (clear : Clear controller)
    {preempted : Bool} (found : controller.calls.get? callId = some call)
    (leaving : call.pc = .leaving requestId (.chunk preempted)) :
    ∃ after, (controller.step (.leave callId)).calls.get? callId = some after ∧
      Clear (controller.step (.leave callId)) ∧
      after.pc = if preempted then .suspended
        else .returned (resultOf call.request call.progress) := by
  obtain ⟨unfenced, fine⟩ := running.calls callId call found
  have stepped : controller.step (.leave callId) =
      controller.leave callId call requestId (.chunk preempted) := by
    simp only [step, found, leaving, lockFree, clear.lockFree,
      Option.isNone_none, if_true]
  have removed : Clear (controller.remove requestId (.chunk preempted)) := by
    obtain ⟨requests, active, same⟩ := remove_eq controller requestId (.chunk preempted)
    rw [same]
    exact clear.congr rfl rfl rfl
  rw [stepped]
  unfold leave
  simp only [running.resumable, afterChunk_fine unfenced fine leaving]
  cases preempted with
  | false => exact ⟨_, found_setCall _ callId _, removed.congr rfl rfl rfl, rfl⟩
  | true => exact ⟨_, found_setCall _ callId _, removed.congr rfl rfl rfl, rfl⟩

private theorem respond_step (clear : Clear controller)
    (found : controller.calls.get? callId = some call)
    (generating : call.pc = .generating requestId) {response : SGLangResponse}
    (pinned : versionError call.request response = none) :
    ∃ after, (controller.step (.respond callId response)).calls.get? callId = some after ∧
      Clear (controller.step (.respond callId response)) ∧
      after.pc = .leaving requestId
        (.chunk (controller.abortSucceeded requestId || isPreempted response)) := by
  have stepped : controller.step (.respond callId response) =
      controller.stitch callId call requestId response (controller.abortSucceeded requestId) := by
    simp only [step, found, generating]
  rw [stepped]
  unfold stitch
  rw [pinned]
  exact ⟨_, get?_set_self controller.calls callId _, clear.congr rfl rfl rfl, rfl⟩

section

variable (running : Running engine controller)

include running

section

variable (clear : Clear controller)
include clear

section

variable (found : controller.calls.get? callId = some call)
include found

theorem completes_finished (leaving : call.pc = .leaving requestId (.chunk false)) :
    Completes engine controller callId := by
  obtain ⟨after, afterFound, _, afterPc⟩ := leave_step running clear found leaving
  have admissible : Admissible engine controller (.leave callId) := ⟨trivial, trivial⟩
  exact Completes.after admissible (completes_returned afterFound afterPc)

theorem completes_untouched (generating : call.pc = .generating requestId)
    (untouched : controller.abortSucceeded requestId = false) :
    Completes engine controller callId := by
  have pinned : versionError call.request
    (naturalResponse engine call.request call.progress) = none := pinned_version rfl
  have natural : isPreempted (naturalResponse engine call.request call.progress) = false :=
    natural_not_preempted rfl rfl
  have admissible : Admissible engine controller
      (.respond callId (naturalResponse engine call.request call.progress)) := by
    constructor
    · intro other otherId otherFound _otherGenerating
      rw [found, Option.some_inj] at otherFound
      subst other
      exact .finished _ ⟨rfl, rfl⟩ rfl rfl rfl
    · intro other otherId otherFound otherGenerating
      rw [found, Option.some_inj] at otherFound
      subst other
      rw [generating, Pc.generating.injEq] at otherGenerating
      subst otherId
      refine ⟨pinned, ?_⟩
      intro preempted
      rw [untouched, natural] at preempted
      cases preempted
  obtain ⟨after, afterFound, afterClear, afterPc⟩ := respond_step clear found generating pinned
  rw [untouched, natural] at afterPc
  exact Completes.after admissible (completes_finished
    (step_running running _ admissible.1 admissible.2) afterClear afterFound afterPc)

theorem completes_waitingLock (waiting : call.pc = .waitingLock) :
    Completes engine controller callId := by
  obtain ⟨unfenced, _⟩ := running.calls callId call found
  have admissible : Admissible engine controller (.register callId) := ⟨trivial, trivial⟩
  have next := step_running running _ admissible.1 admissible.2
  apply Completes.after admissible
  have stepped : controller.step (.register callId) = controller.register callId call := by
    simp only [step, found, waiting, lockFree, clear.lockFree,
      Option.isNone_none, and_self, if_true]
  rw [stepped] at next ⊢
  unfold register at next ⊢
  rw [gate_open running unfenced] at next ⊢
  simp only at next ⊢
  rw [if_neg (by rw [clear.unpaused]; exact Bool.false_ne_true)] at next ⊢
  refine completes_untouched next (clear.congr rfl rfl rfl)
    (get?_set_self controller.calls callId _) rfl ?_
  unfold abortSucceeded
  simp only [get?_set_self]
  rfl

theorem completes_waitingResume (waiting : call.pc = .waitingResume) :
    Completes engine controller callId := by
  obtain ⟨unfenced, _⟩ := running.calls callId call found
  have admissible : Admissible engine controller (.proceed callId) := ⟨trivial, trivial⟩
  have next := step_running running _ admissible.1 admissible.2
  apply Completes.after admissible
  have stepped : controller.step (.proceed callId) =
      controller.setCall callId { call with pc := .waitingLock } := by
    simp only [step, found, waiting, if_true]
    unfold proceed
    rw [clear.signalled, if_pos rfl, gate_open running unfenced]
  rw [stepped] at next ⊢
  exact completes_waitingLock next (clear.congr rfl rfl rfl) (found_setCall _ callId _) rfl

theorem completes_suspended (isSuspended : call.pc = .suspended) :
    Completes engine controller callId := by
  have admissible : Admissible engine controller (.wake callId) := ⟨trivial, trivial⟩
  have next := step_running running _ admissible.1 admissible.2
  apply Completes.after admissible
  have stepped : controller.step (.wake callId) = controller.wake callId call := by
    simp only [step, found, isSuspended, if_true]
  rw [stepped] at next ⊢
  unfold wake at next ⊢
  rw [clear.signalled, if_pos rfl] at next ⊢
  simp only at next ⊢
  rw [if_neg (by rw [running.up]; exact Bool.false_ne_true)] at next ⊢
  by_cases wants : wantsMore call.request call.progress = true
  · rw [if_pos wants] at next ⊢
    exact completes_waitingResume next (clear.congr rfl rfl clear.signalled.symm)
      (found_setCall _ callId _) rfl
  · rw [if_neg wants] at next ⊢
    exact completes_returned (found_setCall _ callId _) rfl

theorem completes_leaving {preempted : Bool}
    (leaving : call.pc = .leaving requestId (.chunk preempted)) :
    Completes engine controller callId := by
  cases preempted with
  | false => exact completes_finished running clear found leaving
  | true =>
    obtain ⟨after, afterFound, afterClear, afterPc⟩ := leave_step running clear found leaving
    have admissible : Admissible engine controller (.leave callId) := ⟨trivial, trivial⟩
    exact Completes.after admissible (completes_suspended
      (step_running running _ admissible.1 admissible.2) afterClear afterFound afterPc)

theorem completes_generating (generating : call.pc = .generating requestId) :
    Completes engine controller callId := by
  obtain ⟨_, fine⟩ := running.calls callId call found
  rw [Fine, generating] at fine
  have wants := (wantsMore_iff _ _).mp fine.1
  have pinned : versionError call.request (emptyAborted call.request) = none := pinned_version rfl
  have admissible : Admissible engine controller (.respond callId (emptyAborted call.request)) := by
    constructor
    · intro other otherId otherFound _otherGenerating
      rw [found, Option.some_inj] at otherFound
      subst other
      have isAbort : Text.lower "abort" ∈ preemptFinishReasons := by decide
      exact .aborted [] ⟨rfl, rfl⟩ nil_prefix isAbort
    · intro other otherId otherFound _otherGenerating
      rw [found, Option.some_inj] at otherFound
      subst other
      refine ⟨pinned, ?_⟩
      intro _preempted
      constructor
      · intro stops
        cases stops
      · rintro ⟨positive, total⟩ _unstopped
        change ((call.progress.outputIds.length + 0 : Nat) : Int) = _ at total
        omega
  obtain ⟨after, afterFound, afterClear, afterPc⟩ := respond_step clear found generating pinned
  exact Completes.after admissible (completes_leaving
    (step_running running _ admissible.1 admissible.2) afterClear afterFound afterPc)

theorem completes_of_clear (live : call.pc.ended = false) : Completes engine controller callId := by
  obtain ⟨_, fine⟩ := running.calls callId call found
  cases pc : call.pc with
  | waitingResume => exact completes_waitingResume running clear found pc
  | waitingLock => exact completes_waitingLock running clear found pc
  | generating requestId => exact completes_generating running clear found pc
  | leaving requestId exit =>
    cases exit with
    | chunk preempted => exact completes_leaving running clear found pc
    | raises error =>
      rw [Fine, pc] at fine
      exact fine.elim
  | suspended => exact completes_suspended running clear found pc
  | returned result => rw [pc] at live; cases live
  | raised error => rw [pc] at live; cases live
  | cancelled => rw [pc] at live; cases live

end

end

/-- A resume opens the gate, so every call that has not ended can be completed. -/
theorem completes_of_live (found : controller.calls.get? callId = some call)
    (live : call.pc.ended = false) :
    Completes engine controller callId := by
  have finishResume : ∀ {current : Controller} {pending : PendingResume},
      Running engine current → current.lockHolder = some pending →
      current.calls.get? callId = some call → Completes engine current callId := by
    intro current pending currentRunning holder currentFound
    have admissible : Admissible engine current (.resumeEnd true) := ⟨trivial, trivial⟩
    have next := step_running currentRunning _ admissible.1 admissible.2
    apply Completes.after admissible
    simp only [step, holder] at next ⊢
    exact completes_of_clear next
      { lockFree := rfl
        unpaused := rfl
        signalled := rfl } currentFound live
  cases holder : controller.lockHolder with
  | some pending => exact finishResume running holder found
  | none =>
    have admissible : Admissible engine controller (.resumeBegin none) := ⟨trivial, trivial⟩
    have next := step_running running _ admissible.1 admissible.2
    apply Completes.after admissible
    have stepped : controller.step (.resumeBegin none) = controller.resumeBegin none := by
      simp only [step, lockFree, holder, Option.isNone_none, if_true]
    rw [stepped] at next ⊢
    unfold resumeBegin at next ⊢
    rw [if_neg (by rw [running.up]; exact Bool.false_ne_true)] at next ⊢
    by_cases isPaused : controller.paused = true
    · rw [if_pos isPaused] at next ⊢
      exact finishResume next rfl found
    · rw [if_neg isPaused] at next ⊢
      exact completes_of_clear next
        { lockFree := rfl
          unpaused := rfl
          signalled := rfl } found live

end

end Completion

/-- No call has raised, every returned result is the uninterrupted one, and every call
still under way can be brought to return. -/
structure Transparent (engine : Engine) (controller : Controller) : Prop where
  seamless : ∀ callId call, controller.calls.get? callId = some call → Seamless engine call
  completable : ∀ callId call, controller.calls.get? callId = some call →
    call.pc.ended = false → Completes engine controller callId

theorem initial_running (engine : Engine) : Running engine (initial true) := by
  refine
    { up := rfl
      resumable := rfl
      calls := ?_ }
  intro callId call found
  cases found

/-- Under every schedule of pauses, aborts and resumes in which preempted chunks are
really cut, preemption is invisible at every moment. -/
theorem preemption_transparent (engine : Engine) (actions : List Action)
    (scenario : Runs.Admits step (Scenario engine) (initial true) actions)
    (truly : Runs.Admits step (TrulyPreempted engine) (initial true)
      actions) :
    ∀ past, past <+: actions →
      Transparent engine (Runs.run step (initial true) past) := by
  intro past early
  have preserved : ∀ controller action, Running engine controller →
      (Scenario engine controller action ∧ TrulyPreempted engine controller action) →
      Running engine (step controller action) :=
    fun _ action running admissible => step_running running action admissible.1 admissible.2
  have running := Runs.prefix_invariant preserved (initial_running engine)
    (Runs.admits_and scenario truly) early
  exact
    { seamless := fun callId call found => (running.calls callId call found).2.seamless
      completable := fun _ _ found live => completes_of_live running found live }

def promptRequest : Request :=
  { inputIds := [1, 2, 3]
    maxNewTokens := 8
    sessionId := some "session"
    instanceId := some "instance"
    turnId := none
    expectedVersion := none
    expectedEpoch := none
    logprobStartLen := -1
    contextWindow := none }

def stopEngine : Engine :=
  { next := fun context => if context.length = 4 then (7, 0) else (5, 0)
    isStop := fun token => token = 7 }

def engineAnswer (output : List Nat) (finishReason : String) : SGLangResponse :=
  { inputTokenLogprobsRaw := []
    inputTokenTexts := []
    outputIds := output
    outputTokenLogprobs := output.map (fun _ => 0)
    outputTokenTexts := []
    text := ""
    metaFinishReason := some finishReason
    weightVersion := some "v1"
    finishReason := finishReason
    inputLogprobsInvalid := false
    allLogprobsInvalid := false }

def cutRun : List Action :=
  [ .call promptRequest, .proceed 0, .register 0, .pause none none, .abortSucceeds 0,
    .respond 0 (engineAnswer [5] "abort"), .leave 0, .resumeBegin none, .resumeEnd true,
    .wake 0, .proceed 0, .register 0, .respond 0 (engineAnswer [7] "stop"), .leave 0 ]

/-- The abort succeeds after the answer has already finished with its stop token. -/
def lateAbortRun : List Action :=
  [ .call promptRequest, .proceed 0, .register 0, .pause none none, .abortSucceeds 0,
    .respond 0 (engineAnswer [5, 7] "stop"), .leave 0, .resumeBegin none, .resumeEnd true,
    .wake 0, .proceed 0, .register 0,
    .respond 0 (engineAnswer [5, 5, 5, 5, 5, 5] "length"), .leave 0 ]

private theorem promptRequest_unfenced : Unfenced promptRequest := by
  refine { noEpoch := rfl, fits := ?_ }
  intro window known
  cases known

private theorem cutRun_scenario : Runs.Admits step (Scenario stopEngine)
    (initial true) cutRun := by
  refine ⟨promptRequest_unfenced, trivial, trivial, trivial, trivial, ?_, trivial, trivial,
    trivial, trivial, trivial, trivial, ?_, trivial, trivial⟩
  · intro call requestId found _generating
    cases found
    exact .aborted [(5, 0)] ⟨rfl, rfl⟩ (by decide) (by decide)
  · intro call requestId found _generating
    cases found
    exact .finished [(7, 0)] ⟨rfl, rfl⟩ (by decide) (by decide) (by decide)

private theorem cutRun_truly : Runs.Admits step (TrulyPreempted stopEngine)
    (initial true) cutRun := by
  refine ⟨trivial, trivial, trivial, trivial, trivial, ?_, trivial, trivial, trivial, trivial,
    trivial, trivial, ?_, trivial, trivial⟩
  · intro call requestId found _generating
    cases found
    refine ⟨by decide, ?_⟩
    intro _preempted
    exact ⟨fun stops => absurd stops (by decide), fun exhausts => absurd exhausts.2 (by decide)⟩
  · intro call requestId found generating
    cases found
    cases generating
    refine ⟨by decide, ?_⟩
    intro preempted
    exact absurd preempted (by decide)

theorem preemption_transparent_cut :
    (∃ call result, (Runs.run step (initial true) cutRun).calls.get? 0 =
      some call ∧ call.pc = .returned result ∧ result.outputIds = [5, 7] ∧
        publicFinishReason result = "stop") ∧
      ∀ past, past <+: cutRun →
        Transparent stopEngine (Runs.run step (initial true) past) :=
  ⟨⟨_, _, rfl, rfl, rfl, by decide⟩,
    preemption_transparent stopEngine cutRun cutRun_scenario cutRun_truly⟩

theorem late_abort_visible :
    Runs.Admits step (Scenario stopEngine) (initial true) lateAbortRun ∧
      ¬ ∀ past, past <+: lateAbortRun →
        Transparent stopEngine (Runs.run step (initial true) past) := by
  constructor
  · refine ⟨promptRequest_unfenced, trivial, trivial, trivial, trivial, ?_, trivial, trivial,
      trivial, trivial, trivial, trivial, ?_, trivial, trivial⟩
    · intro call requestId found _generating
      cases found
      exact .finished [(5, 0), (7, 0)] ⟨rfl, rfl⟩ (by decide) (by decide) (by decide)
    · intro call requestId found _generating
      cases found
      exact .finished [(5, 0), (5, 0), (5, 0), (5, 0), (5, 0), (5, 0)] ⟨rfl, rfl⟩ (by decide)
        (by decide) (by decide)
  · intro promise
    have seamless := (promise lateAbortRun (prefix_refl _)).seamless 0 _ rfl
    have ids := (seamless.2 _ rfl).1
    revert ids
    decide

end Dressage.GenerationController
